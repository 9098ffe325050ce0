import SnippetLab.Json.Basic
import SnippetLab.Json.Cursor

/-! Number literals, with the doubles that stand for those that are no integers of 64 bits. -/
namespace SnippetLab.Json

structure Digits where
  whole : List Char
  fraction : List Char
  /-- The digits of the exponent, and whether it is negative. -/
  exponent : Option (Bool × List Char)
  deriving DecidableEq, Repr

def someDigits (atEnd : Flaw) (c : Cursor) : Scan (List Char × Cursor) :=
  match c.digits with
  | ([], _) => endOr atEnd .invalidNumber c
  | found => .ok found

/-- The digits before the point: no zero before other digits. -/
def scanWhole (atEnd : Flaw) (c : Cursor) : Scan (List Char × Cursor) :=
  match c.rest with
  | '0' :: d :: _ => if d.isDigit then flawAt .invalidNumber (c.drop 1).ahead else .ok (['0'], c.drop 1)
  | _ => someDigits atEnd c

def scanFraction (atEnd : Flaw) (c : Cursor) : Scan (List Char × Cursor) :=
  if c.rest.head? = some '.' then someDigits atEnd (c.drop 1) else .ok ([], c)

def scanExponent (atEnd : Flaw) (c : Cursor) : Scan (Option (Bool × List Char) × Cursor) :=
  match c.rest with
  | [] => .ok (none, c)
  | e :: rest =>
    if e ≠ 'e' ∧ e ≠ 'E' then .ok (none, c)
    else
      let signed := rest.head? = some '+' || rest.head? = some '-'
      (someDigits atEnd (c.drop (if signed then 2 else 1))).map fun (ds, c) =>
        (some (rest.head? = some '-', ds), c)

def scanDigits (atEnd : Flaw) (c : Cursor) : Scan (Digits × Cursor) := do
  let (whole, c) ← scanWhole atEnd c
  let (fraction, c) ← scanFraction atEnd c
  let (exponent, c) ← scanExponent atEnd c
  return (⟨whole, fraction, exponent⟩, c)

def digitsValue (ds : List Char) : Nat := ds.foldl (fun n d => n * 10 + (d.toNat - '0'.toNat)) 0

def largestExponent : Nat := 2147483647

namespace Digits

/-- A number under 2^64 and a power of ten. Further digits before the point only raise the power; those
after it are left out. -/
def scaled (d : Digits) : Nat × Int :=
  let fits (m : Nat) (c : Char) : Bool := m * 10 + digitsValue [c] < UInt64.size
  let (m, dropped) := d.whole.foldl (fun ((m, dropped) : Nat × Nat) c =>
    if dropped = 0 && fits m c then (m * 10 + digitsValue [c], 0) else (m, dropped + 1)) (0, 0)
  let (m, kept, _) := d.fraction.foldl (fun ((m, kept, full) : Nat × Nat × Bool) c =>
    if !full && fits m c then (m * 10 + digitsValue [c], kept + 1, false) else (m, kept, true)) (m, 0, false)
  let exponent : Int := match d.exponent with
    | some (negative, ds) => if negative then -(digitsValue ds : Int) else digitsValue ds
    | none => 0
  (m, exponent + dropped - kept)

def powerOfTen (n : Nat) : Float := Float.ofScientific 1 false n

/-- The double for `m * 10^e`, rounded once for the number and once for the power. -/
def double? (m : Nat) (e : Int) : Option Float :=
  let x := (UInt64.ofNat m).toFloat
  if 308 < e then if m = 0 then some x else none
  else if 0 ≤ e then
    let y := x * powerOfTen e.toNat
    if y.isInf then none else some y
  else if -308 ≤ e then some (x / powerOfTen (-e).toNat)
  else if -616 ≤ e then some (x / powerOfTen 308 / powerOfTen (-e - 308).toNat)
  else some 0

def value? (negative : Bool) (d : Digits) : Option Numeral :=
  let n := digitsValue d.whole
  let integral := d.fraction.isEmpty && d.exponent.isNone
  if integral && !negative && n < UInt64.size then some (.natural n)
  else if integral && negative && 0 < n && 2 * n ≤ UInt64.size then some (.negative n)
  else
    let (m, e) := d.scaled
    (double? m e).map fun x => .floating (if negative then -x else x)

/-- The digits of the exponent after the one that takes it beyond the largest. -/
def excess (d : Digits) : Nat :=
  match d.exponent with
  | some (_, ds) =>
    let told := (List.range ds.length).takeWhile fun i => digitsValue (ds.take (i + 1)) ≤ largestExponent
    ds.length - 1 - told.length
  | none => 0

end Digits

/-- A number after its sign. One beyond every double is noticed in its exponent or at its end. -/
def scanNumber (negative : Bool) (c : Cursor) : Scan (Numeral × Cursor) := do
  let (d, c) ← scanDigits .endInValue c
  match d.value? negative with
  | some n => return (n, c)
  | none => flawAt .numberOutOfRange { c.position with column := c.position.column - d.excess }

def passNumber (c : Cursor) : Scan Cursor := (scanDigits .invalidNumber c).map (·.2)

end SnippetLab.Json
