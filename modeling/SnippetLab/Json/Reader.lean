import SnippetLab.Json.Literal
import SnippetLab.Json.Number

/-! Reading JSON: the steps from value to value, and on top of them whole values. -/
namespace SnippetLab.Json

/-- A value without what it holds: all of a scalar, but of a list or a record only that it is one. -/
inductive Shape
  | null
  | bool (b : Bool)
  | number (n : Numeral)
  | text (s : String)
  | list
  | record
  deriving Repr

def shape (c : Cursor) : Scan (Shape × Cursor) :=
  match c.rest with
  | 'n' :: _ => (scanWord "ull".toList (c.drop 1)).map (.null, ·)
  | 't' :: _ => (scanWord "rue".toList (c.drop 1)).map (.bool true, ·)
  | 'f' :: _ => (scanWord "alse".toList (c.drop 1)).map (.bool false, ·)
  | '"' :: _ => (scanText (c.drop 1)).map fun (s, c) => (.text s, c)
  | '[' :: _ => .ok (.list, c)
  | '\x7b' :: _ => .ok (.record, c)
  | '-' :: _ => (scanNumber true (c.drop 1)).map fun (n, c) => (.number n, c)
  | d :: _ =>
    if d.isDigit then (scanNumber false c).map fun (n, c) => (.number n, c)
    else flawAt .valueExpected c.ahead
  | [] => flawAt .valueExpected c.ahead

/-- The next part of a list or record, or the cursor past its end. -/
inductive Next
  | part (c : Cursor)
  | closed (c : Cursor)

def nextItem (first : Bool) (c : Cursor) : Scan Next :=
  let c := c.skipSpace
  match c.rest with
  | [] => flawAt .endInList c.position
  | ']' :: _ => .ok (.closed (c.drop 1))
  | d :: _ =>
    if first then .ok (.part c)
    else if d = ',' then
      let c := (c.drop 1).skipSpace
      match c.rest with
      | [] => flawAt .endInValue c.position
      | ']' :: _ => flawAt .commaAtEnd c.ahead
      | _ => .ok (.part c)
    else flawAt .listCommaExpected c.ahead

def nextKey (first : Bool) (c : Cursor) : Scan Next :=
  let c := c.skipSpace
  match c.rest with
  | [] => flawAt .endInRecord c.position
  | '\x7d' :: _ => .ok (.closed (c.drop 1))
  | d :: _ =>
    if first then if d = '"' then .ok (.part (c.drop 1)) else flawAt .keyNotText c.ahead
    else if d = ',' then
      let c := (c.drop 1).skipSpace
      match c.rest with
      | [] => flawAt .endInValue c.position
      | '"' :: _ => .ok (.part (c.drop 1))
      | '\x7d' :: _ => flawAt .commaAtEnd c.ahead
      | _ => flawAt .keyNotText c.ahead
    else flawAt .recordCommaExpected c.ahead

def colon (c : Cursor) : Scan Cursor :=
  let c := c.skipSpace
  if c.rest.head? = some ':' then .ok (c.drop 1) else endOr .endInRecord .colonExpected c

def closeList (c : Cursor) : Scan Cursor :=
  let c := c.skipSpace
  match c.rest with
  | [] => flawAt .endInList c.position
  | ']' :: _ => .ok (c.drop 1)
  | ',' :: _ =>
    let c := (c.drop 1).skipSpace
    flawAt (if c.rest.head? = some ']' then .commaAtEnd else .trailingCharacters) c.ahead
  | _ => flawAt .trailingCharacters c.ahead

def front (c : Cursor) : Scan Cursor :=
  let c := c.skipSpace
  if c.rest.isEmpty then flawAt .endInValue c.position else .ok c

def finish (c : Cursor) : Scan Unit :=
  let c := c.skipSpace
  if c.rest.isEmpty then .ok () else flawAt .trailingCharacters c.ahead

mutual

/-- The fuel bounds the length of the text, here and below. -/
def readValue (fuel : Nat) (c : Cursor) : Scan (Json × Cursor) :=
  match fuel with
  | 0 => flawAt .endInValue c.position
  | fuel + 1 => do
    let (s, c) ← shape (← front c)
    match s with
    | .null => return (.null, c)
    | .bool b => return (.bool b, c)
    | .number n => return (.number n, c)
    | .text s => return (.text s, c)
    | .list =>
      let (items, c) ← readItems fuel true (c.drop 1)
      return (.list items, c)
    | .record =>
      let (fields, c) ← readFields fuel true (c.drop 1)
      return (.record fields, c)

def readItems (fuel : Nat) (first : Bool) (c : Cursor) : Scan (List Json × Cursor) :=
  match fuel with
  | 0 => flawAt .endInList c.position
  | fuel + 1 => do
    match ← nextItem first c with
    | .closed c => return ([], c)
    | .part c =>
      let (item, c) ← readValue fuel c
      let (items, c) ← readItems fuel false c
      return (item :: items, c)

def readFields (fuel : Nat) (first : Bool) (c : Cursor) : Scan (List (String × Json) × Cursor) :=
  match fuel with
  | 0 => flawAt .endInRecord c.position
  | fuel + 1 => do
    match ← nextKey first c with
    | .closed c => return ([], c)
    | .part c =>
      let (key, c) ← scanText c
      let (value, c) ← readValue fuel (← colon c)
      let (fields, c) ← readFields fuel false c
      return ((key, value) :: fields, c)

end

mutual

/-- Passes over a value without a use. After a comma a value or a key has to come. -/
def passValue (fuel : Nat) (c : Cursor) : Scan Cursor :=
  match fuel with
  | 0 => flawAt .endInValue c.position
  | fuel + 1 => do
    let c ← front c
    match c.rest with
    | 'n' :: _ => scanWord "ull".toList (c.drop 1)
    | 't' :: _ => scanWord "rue".toList (c.drop 1)
    | 'f' :: _ => scanWord "alse".toList (c.drop 1)
    | '"' :: _ => passText (c.drop 1)
    | '-' :: _ => passNumber (c.drop 1)
    | '[' :: _ =>
      let c := (c.drop 1).skipSpace
      match c.rest with
      | [] => flawAt .endInList c.position
      | ']' :: _ => return c.drop 1
      | _ => passItems fuel c
    | '\x7b' :: _ =>
      let c := (c.drop 1).skipSpace
      match c.rest with
      | [] => flawAt .endInRecord c.position
      | '\x7d' :: _ => return c.drop 1
      | _ => passFields fuel c
    | d :: _ => if d.isDigit then passNumber c else flawAt .valueExpected c.ahead
    | [] => flawAt .endInValue c.position

def passItems (fuel : Nat) (c : Cursor) : Scan Cursor :=
  match fuel with
  | 0 => flawAt .endInList c.position
  | fuel + 1 => do
    let c := (← passValue fuel c).skipSpace
    match c.rest with
    | ']' :: _ => return c.drop 1
    | ',' :: _ => passItems fuel (c.drop 1)
    | _ => endOr .endInList .listCommaExpected c

def passFields (fuel : Nat) (c : Cursor) : Scan Cursor :=
  match fuel with
  | 0 => flawAt .endInRecord c.position
  | fuel + 1 => do
    let c := c.skipSpace
    if c.rest.head? ≠ some '"' then endOr .endInRecord .keyNotText c
    else
      let c := (← passValue fuel (← colon (← passText (c.drop 1)))).skipSpace
      match c.rest with
      | '\x7d' :: _ => return c.drop 1
      | ',' :: _ => passFields fuel (c.drop 1)
      | _ => endOr .endInRecord .recordCommaExpected c

end

def Cursor.fuel (c : Cursor) : Nat := 2 * c.rest.length + 2

def pass (c : Cursor) : Scan Cursor := passValue c.fuel c

def parse (s : String) : Scan Json := do
  let c := Cursor.ofString s
  let (value, c) ← readValue c.fuel c
  finish c
  return value

end SnippetLab.Json
