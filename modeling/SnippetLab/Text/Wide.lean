import SnippetLab.Text.Ranges
import SnippetLab.Text.Escaped
import SnippetLab.Text.Utf8

/-! Letters in both cases, for the alphabets that have them in regular places. -/
namespace SnippetLab.Text

/-- Stretches where upper case letters are even or odd and each one's lower case follows it. -/
def pairedCases : List (Nat × Nat × Nat) :=
  [(0x100, 0x137, 0), (0x139, 0x148, 1), (0x14A, 0x177, 0), (0x179, 0x17E, 1), (0x1CD, 0x1DC, 1), (0x1DE, 0x1EF, 0),
   (0x1F8, 0x21F, 0), (0x222, 0x233, 0), (0x3D8, 0x3EF, 0), (0x460, 0x481, 0), (0x48A, 0x4BF, 0), (0x4C1, 0x4CE, 1),
   (0x4D0, 0x52F, 0), (0x1E00, 0x1E95, 0), (0x1EA0, 0x1EFF, 0)]

/-- Stretches of upper case letters, and how far away their lower cases are. -/
def shiftedCases : List (Nat × Nat × Nat) :=
  [(0x41, 0x5A, 32), (0xC0, 0xD6, 32), (0xD8, 0xDE, 32), (0x388, 0x38A, 37), (0x391, 0x3A1, 32), (0x3A3, 0x3AB, 32),
   (0x400, 0x40F, 80), (0x410, 0x42F, 32), (0x531, 0x556, 48), (0x2160, 0x216F, 16), (0x24B6, 0x24CF, 26),
   (0xFF21, 0xFF3A, 32), (0x10400, 0x10427, 40)]

def lowerOf? (c : Char) : Option Char :=
  let n := c.toNat
  match shiftedCases.find? fun r => r.1 ≤ n && n ≤ r.2.1 with
  | some r => some (Char.ofNat (n + r.2.2))
  | none =>
    if (pairedCases.any fun r => r.1 ≤ n && n ≤ r.2.1 && n % 2 = r.2.2) then some (Char.ofNat (n + 1))
    else if n = 0x386 then some '\u03ac'
    else none

def upperOf? (c : Char) : Option Char :=
  let n := c.toNat
  match shiftedCases.find? fun r => r.1 + r.2.2 ≤ n && n ≤ r.2.1 + r.2.2 with
  | some r => some (Char.ofNat (n - r.2.2))
  | none =>
    if (pairedCases.any fun r => r.1 ≤ n && n ≤ r.2.1 && n % 2 ≠ r.2.2) then some (Char.ofNat (n - 1))
    else if n = 0xFF then some '\u0178'
    else if n = 0x3C2 then some '\u03a3'
    else none

def lowered (c : Char) : Char := (lowerOf? c).getD c

def raised (c : Char) : Char := (upperOf? c).getD c

end SnippetLab.Text

/-!
Octets read as the characters that they encode. An octet that is part of no character becomes a character
that no text has, so that nothing is lost.
-/
namespace SnippetLab.Text.Wide

def strayBase : Nat := 0x10FF00

def isStray (c : Char) : Bool := strayBase ≤ c.toNat

def first? (cs : List Char) : Option (Char × Nat) :=
  match cs with
  | [] => none
  | c :: _ =>
    let n := c.toNat
    let size := if n < 0x80 then 1 else if n < 0xC2 then 0 else if n < 0xE0 then 2 else if n < 0xF0 then 3
      else if n < 0xF5 then 4 else 0
    if size = 0 then none
    else (Utf8.decode? (Octets.toList (cs.take size))).bind fun
      | [d] => some (d, size)
      | _ => none

def decode : Nat → List Char → List Char
  | 0, _ | _, [] => []
  | fuel + 1, c :: cs =>
    match first? (c :: cs) with
    | some (d, size) => d :: decode fuel ((c :: cs).drop size)
    | none => Char.ofNat (strayBase + c.toNat) :: decode fuel cs

def ofOctets (cs : List Char) : List Char :=
  if cs.all fun c => c.toNat < 128 then cs else decode cs.length cs

def encoded (c : Char) : List Char :=
  if isStray c then [Char.ofNat (c.toNat - strayBase)]
  else if c.toNat < 128 then [c] else Octets.ofList (Utf8.encode [c])

def toOctets (cs : List Char) : List Char :=
  if cs.all fun c => c.toNat < 128 then cs else cs.flatMap encoded

/-! Classes -/

def isTight (c : Char) : Bool := [0x85, 0xA0, 0x2007, 0x202F].contains c.toNat

def inClass (name : String) (c : Char) : Bool :=
  if c.toNat < 128 then ((CharClass.ofName? name).map fun p => p c).getD false
  else if isStray c then false
  else match name with
    | "alpha" | "alnum" => isAlphabetic c
    | "upper" => (lowerOf? c).isSome
    | "lower" => (upperOf? c).isSome
    | "space" | "blank" => isBlank c && !isTight c
    | "print" | "graph" => !isEscaped c && !isBlank c
    | "punct" => !isEscaped c && !isAlphabetic c && !isBlank c
    | "cntrl" => c.toNat < 0xA0 || c.toNat = 0x2028 || c.toNat = 0x2029
    | _ => false

end SnippetLab.Text.Wide
