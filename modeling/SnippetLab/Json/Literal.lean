import SnippetLab.Json.Cursor

/-!
String literals. One is scanned for its text, where escapes of surrogates have to pair up, or passed
over, where they need not.
-/
namespace SnippetLab.Json

def hexDigit? (c : Char) : Option Nat :=
  if '0' ≤ c ∧ c ≤ '9' then some (c.toNat - '0'.toNat)
  else if 'a' ≤ c ∧ c ≤ 'f' then some (c.toNat - 'a'.toNat + 10)
  else if 'A' ≤ c ∧ c ≤ 'F' then some (c.toNat - 'A'.toNat + 10)
  else none

def hex4? (a b c d : Char) : Option Nat := do
  return (((← hexDigit? a) * 16 + (← hexDigit? b)) * 16 + (← hexDigit? c)) * 16 + (← hexDigit? d)

def unescape? : Char → Option Char
  | '"' => some '"'
  | '\\' => some '\\'
  | '/' => some '/'
  | 'b' => some '\x08'
  | 'f' => some '\x0c'
  | 'n' => some '\n'
  | 'r' => some '\r'
  | 't' => some '\t'
  | _ => none

/-- A string literal so far: its characters, last first, and a leading surrogate that still waits for
its partner. -/
structure Literal where
  read : List Char := []
  waiting : Option Nat := none

namespace Literal

def push (l : Literal) (c : Char) : Literal := { l with read := c :: l.read }

def unit? (l : Literal) (n : Nat) : Option Literal :=
  let trailing := 0xDC00 ≤ n ∧ n ≤ 0xDFFF
  match l.waiting with
  | some lead =>
    let c := Char.ofNat (0x10000 + (lead - 0xD800) * 0x400 + (n - 0xDC00))
    if trailing then some ⟨c :: l.read, none⟩ else none
  | none =>
    if trailing then none
    else if 0xD800 ≤ n ∧ n ≤ 0xDBFF then some { l with waiting := some n }
    else some (l.push (Char.ofNat n))

/-- What keeps a waiting surrogate from its partner, which has to come next as an escape. -/
def interrupted? (l : Literal) (c : Cursor) : Option (Located Flaw) :=
  if l.waiting.isNone then none
  else match c.rest with
    | '\\' :: 'u' :: _ => none
    | ['\\'] => some ⟨.endInLiteral, c.position.advance 1 c.rest⟩
    | '\\' :: _ => some ⟨.unfinishedPair, c.position.advance 2 c.rest⟩
    | [] => some ⟨.endInLiteral, c.position⟩
    | _ => some ⟨.unfinishedPair, c.ahead⟩

end Literal

def escapeFlaw (p : Position) (cs : List Char) : Located Flaw :=
  match cs with
  | '\\' :: 'u' :: digits =>
    let octets := digits.foldl (fun n d => n + d.utf8Size) 0
    if octets < 4 then ⟨.endInLiteral, p.advance (octets + 2) cs⟩ else ⟨.invalidEscape, p.advance 6 cs⟩
  | ['\\'] => ⟨.endInLiteral, p.advance 1 cs⟩
  | _ => ⟨.invalidEscape, p.advance 2 cs⟩

def scanLiteral (l : Literal) (p : Position) (cs : List Char) : Scan (String × Cursor) :=
  match l.interrupted? ⟨cs, p⟩, cs with
  | some fault, _ => .error fault
  | none, [] => flawAt .endInLiteral p
  | none, '"' :: rest => .ok (String.ofList l.read.reverse, ⟨rest, p.past '"'⟩)
  | none, '\\' :: 'u' :: a :: b :: c :: d :: rest =>
    match hex4? a b c d with
    | none => .error (escapeFlaw p cs)
    | some n =>
      match l.unit? n with
      | some l => scanLiteral l (p.advance 6 cs) rest
      | none => flawAt .loneSurrogate (p.advance 6 cs)
  | none, '\\' :: c :: rest =>
    match unescape? c with
    | some e => scanLiteral (l.push e) (p.advance 2 cs) rest
    | none => .error (escapeFlaw p cs)
  | none, c :: rest =>
    if c = '\\' then .error (escapeFlaw p cs)
    else if c.toNat < 0x20 then flawAt .controlCharacter (p.past c)
    else scanLiteral (l.push c) (p.past c) rest

/-- Passes a literal without a use: halves of pairs pass, and a control character is reported
before it. -/
def passLiteral (p : Position) (cs : List Char) : Scan Cursor :=
  match cs with
  | [] => flawAt .endInLiteral p
  | '"' :: rest => .ok ⟨rest, p.past '"'⟩
  | '\\' :: 'u' :: a :: b :: c :: d :: rest =>
    if (hex4? a b c d).isSome then passLiteral (p.advance 6 cs) rest else .error (escapeFlaw p cs)
  | '\\' :: c :: rest =>
    if (unescape? c).isSome then passLiteral (p.advance 2 cs) rest else .error (escapeFlaw p cs)
  | c :: rest =>
    if c = '\\' then .error (escapeFlaw p cs)
    else if c.toNat < 0x20 then flawAt .controlCharacter p
    else passLiteral (p.past c) rest

def scanText (c : Cursor) : Scan (String × Cursor) := scanLiteral {} c.position c.rest

def passText (c : Cursor) : Scan Cursor := passLiteral c.position c.rest

end SnippetLab.Json
