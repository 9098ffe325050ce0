/-!
The shortest decimal of a double: on the coarsest decimal grid with a point that reads back as the same
double, the point nearest to it. Numbers of ordinary size are written in full with a decimal point, and
others with a signed exponent.
-/
namespace SnippetLab.Text

structure Binary where
  mantissa : Nat
  exponent : Int
  closeBelow : Bool
  deriving DecidableEq, Repr

namespace Binary

def ofBits (bits : UInt64) : Binary :=
  let fraction := bits.toNat % Nat.pow 2 52
  let exponent := bits.toNat / Nat.pow 2 52 % Nat.pow 2 11
  if exponent = 0 then ⟨fraction, -1074, false⟩
  else ⟨Nat.pow 2 52 + fraction, exponent - 1075, fraction = 0 && 1 < exponent⟩

/-- The point `n` of the grid of multiples of `10^j` that reads back as the number. Both are counted in
quarters of its last place. -/
def onGrid? (b : Binary) (j : Int) : Option Nat :=
  let quarter := Nat.pow 2 (b.exponent - 2).toNat * Nat.pow 10 (-j).toNat
  let unit := Nat.pow 2 (2 - b.exponent).toNat * Nat.pow 10 j.toNat
  let value := 4 * b.mantissa * quarter
  let low := value - (if b.closeBelow then 1 else 2) * quarter
  let high := value + 2 * quarter
  let within (n : Nat) : Bool :=
    if b.mantissa % 2 = 0 then low ≤ n * unit && n * unit ≤ high else low < n * unit && n * unit < high
  let below := value / unit
  let nearer := if value - below * unit < (below + 1) * unit - value then below else below + 1
  let other := if nearer = below then below + 1 else below
  if within nearer then some nearer else if within other then some other else none

/-- The first grid from `10^top` downwards with such a point. -/
def shortest (b : Binary) : Nat × Int :=
  let top : Int := (Nat.toDigits 10 (b.mantissa * Nat.pow 2 b.exponent.toNat)).length
  ((List.range 700).findSome? fun (i : Nat) => (b.onGrid? (top - i)).map (·, top - i)).getD (0, 0)

end Binary

def positional (n : Nat) (j : Int) : String :=
  let digits := Nat.toDigits 10 n
  if 0 ≤ j then String.ofList (digits ++ List.replicate j.toNat '0') ++ ".0"
  else
    let places := (-j).toNat
    let digits := List.replicate (places + 1 - digits.length) '0' ++ digits
    String.ofList (digits.take (digits.length - places)) ++ "." ++ String.ofList (digits.drop (digits.length - places))

def scientific (digits : List Char) (power : Int) : String :=
  String.ofList (digits.take 1 ++ if digits.length ≤ 1 then [] else '.' :: digits.drop 1)
    ++ (if power < 0 then "e-" else "e+") ++ toString power.natAbs

def leastPositional : Int := -5

def greatestPositional : Int := 15

def decimalText (n : Nat) (j : Int) : String :=
  let digits := Nat.toDigits 10 n
  let power : Int := digits.length - 1 + j
  if n = 0 || (leastPositional ≤ power && power ≤ greatestPositional) then positional n j
  else scientific digits power

def shortestDecimal (x : Float) : String :=
  let b := Binary.ofBits x.toBits
  let (n, j) := if b.mantissa = 0 then (0, 0) else b.shortest
  (if x.toBits.toNat < Nat.pow 2 63 then "" else "-") ++ decimalText n j

end SnippetLab.Text
