import SnippetLab.Text.Ranges

/-! Writing real numbers with so many digits, rounded from their exact values, and reading them; laying out values. -/
namespace SnippetLab.Text

inductive Real
  | finite (negative : Bool) (significand : Nat) (exponent : Int)
  | infinite (negative : Bool)
  | undefined
  deriving DecidableEq, Repr

namespace Real

def ofFloat (x : Float) : Real :=
  let bits := x.toBits.toNat
  let negative := Nat.pow 2 63 ≤ bits
  let exponent : Nat := bits / Nat.pow 2 52 % 2048
  let fraction : Nat := bits % Nat.pow 2 52
  if exponent = 2047 then if fraction = 0 then infinite negative else undefined
  else if exponent = 0 then finite negative fraction (-1074)
  else finite negative (fraction + Nat.pow 2 52) ((exponent : Int) - 1075)

def isNegative : Real → Bool
  | finite negative _ _ | infinite negative => negative
  | undefined => false

/-- The quotient rounded to the nearest whole number, a tie to the even one. -/
def roundDiv (a b : Nat) : Nat :=
  let q := a / b
  let twice := 2 * (a % b)
  if b < twice || (twice = b && q % 2 = 1) then q + 1 else q

def scaled (significand : Nat) (exponent tens : Int) : Nat :=
  let up := significand * Nat.pow 2 exponent.toNat * Nat.pow 10 tens.toNat
  let down := Nat.pow 2 (-exponent).toNat * Nat.pow 10 (-tens).toNat
  roundDiv up down

def padLeft (width : Nat) (c : Char) (cs : List Char) : List Char := List.replicate (width - cs.length) c ++ cs

def withPoint (places : Nat) (keepsPoint : Bool) (n : Nat) : List Char :=
  let digits := padLeft (places + 1) '0' (toString n).toList
  let whole := digits.take (digits.length - places)
  whole ++ (if 0 < places || keepsPoint then ['.'] else []) ++ digits.drop whole.length

def fixed (places : Nat) (keepsPoint : Bool) (significand : Nat) (exponent : Int) : List Char :=
  withPoint places keepsPoint (scaled significand exponent places)

/-- The digits of a number, rounded to one more than so many, and the power of ten of the first. -/
def digits (places : Nat) (significand : Nat) (exponent : Int) : Nat × Int :=
  if significand = 0 then (0, 0)
  else
    let up := significand * Nat.pow 2 exponent.toNat
    let down := Nat.pow 2 (-exponent).toNat
    let guess : Int := ((toString up).length : Int) - (toString down).length
    let fits (e : Int) : Bool := down * Nat.pow 10 e.toNat ≤ up * Nat.pow 10 (-e).toNat
    let first := if fits guess then guess else guess - 1
    let n := scaled significand exponent ((places : Int) - first)
    if Nat.pow 10 (places + 1) ≤ n then (n / 10, first + 1) else (n, first)

def exponentText (e : Int) : List Char :=
  (if e < 0 then '-' else '+') :: padLeft 2 '0' (toString e.natAbs).toList

def scientific (places : Nat) (keepsPoint : Bool) (significand : Nat) (exponent : Int) : List Char :=
  let (n, e) := digits places significand exponent
  withPoint places keepsPoint n ++ 'e' :: exponentText e

def withoutZeros (cs : List Char) : List Char :=
  if cs.contains '.' then
    let kept := cs.reverse.dropWhile (· = '0')
    (if kept.head? = some '.' then kept.drop 1 else kept).reverse
  else cs

def general (count : Nat) (keepsZeros : Bool) (significand : Nat) (exponent : Int) : List Char :=
  let count := max 1 count
  let (n, e) := digits (count - 1) significand exponent
  if e < -4 || (count : Int) ≤ e then
    let mantissa := withPoint (count - 1) keepsZeros n
    (if keepsZeros then mantissa else withoutZeros mantissa) ++ 'e' :: exponentText e
  else
    let places := ((count : Int) - 1 - e).toNat
    let text := fixed places keepsZeros significand exponent
    if keepsZeros then text else withoutZeros text

def hexadecimal (places : Option Nat) (keepsPoint : Bool) (significand : Nat) (exponent : Int) : List Char :=
  let whole := significand / Nat.pow 2 52
  let fraction := significand % Nat.pow 2 52
  let power : Int := if significand = 0 then 0 else exponent + 52
  let (whole, fraction, width) := match places with
    | some p =>
      if p < 13 then
        let n := roundDiv significand (Nat.pow 16 (13 - p))
        (n / Nat.pow 16 p, n % Nat.pow 16 p, p)
      else (whole, fraction * Nat.pow 16 (p - 13), p)
    | none => (whole, fraction, 13)
  let shown := padLeft width '0' (Nat.toDigits 16 fraction)
  let shown := if width = 0 then [] else shown
  let shown := if places.isNone then (shown.reverse.dropWhile (· = '0')).reverse else shown
  "0x".toList ++ (toString whole).toList ++ (if shown.isEmpty && !keepsPoint then [] else '.' :: shown)
    ++ 'p' :: (if power < 0 then '-' else '+') :: (toString power.natAbs).toList

def written (kind : Char) (precision : Option Nat) (alternate : Bool) : Real → List Char
  | undefined => "nan".toList
  | infinite _ => "inf".toList
  | finite _ s e =>
    match kind with
    | 'f' => fixed (precision.getD 6) alternate s e
    | 'e' => scientific (precision.getD 6) alternate s e
    | 'a' => hexadecimal precision alternate s e
    | _ => general (precision.getD 6) alternate s e

/-! Reading -/

def readDigits (isDigit : Char → Bool) (cs : List Char) : List Char × Nat × List Char :=
  let whole := cs.takeWhile isDigit
  match cs.drop whole.length with
  | '.' :: rest =>
    let places := rest.takeWhile isDigit
    if whole.isEmpty && places.isEmpty then ([], 0, cs)
    else (whole ++ places, places.length, rest.drop places.length)
  | rest => (whole, 0, rest)

def readExponent (letter : Char) (cs : List Char) : Int × List Char :=
  match cs with
  | c :: rest =>
    if c.toLower ≠ letter then (0, cs)
    else
      let (negative, ds) := match rest with
        | '-' :: ds => (true, ds)
        | '+' :: ds => (false, ds)
        | ds => (false, ds)
      let n := ds.takeWhile Char.isDigit
      if n.isEmpty then (0, cs)
      else
        let value : Int := min 100000 ((String.ofList n).toNat?.getD 0)
        (if negative then -value else value, ds.drop n.length)
  | [] => (0, cs)

def hexValue (c : Char) : Nat :=
  if c.isDigit then c.toNat - '0'.toNat else c.toLower.toNat - 'a'.toNat + 10

def readWord? (word : String) (cs : List Char) : Option (List Char) :=
  if (cs.take word.length).map Char.toLower = word.toList then some (cs.drop word.length) else none

def readUnsigned? (cs : List Char) : Option (Float × List Char) :=
  match readWord? "infinity" cs, readWord? "inf" cs, readWord? "nan" cs with
  | some rest, _, _ | none, some rest, _ => some (1.0 / 0.0, rest)
  | _, _, some rest => some (0.0 / 0.0, rest)
  | _, _, _ =>
    let hex : Option (Float × List Char) := match cs with
      | '0' :: x :: rest =>
        let (ds, places, rest) := readDigits CharClass.isHexDigit rest
        if (x = 'x' || x = 'X') && !ds.isEmpty then
          let (e, rest) := readExponent 'p' rest
          let n := ds.foldl (fun n c => n * 16 + hexValue c) 0
          some ((Float.ofNat n).scaleB (e - 4 * places), rest)
        else none
      | _ => none
    match hex with
    | some found => some found
    | none =>
      let (ds, places, rest) := readDigits Char.isDigit cs
      if ds.isEmpty then none
      else
        let (e, rest) := readExponent 'e' rest
        let n := (String.ofList ds).toNat?.getD 0
        let e := e - places
        some (if n = 0 then 0 else if e < 0 then Float.ofScientific n true e.natAbs else Float.ofScientific n false e.toNat, rest)

def read? (cs : List Char) : Option (Float × List Char) :=
  match cs.dropWhile CharClass.isSpace with
  | '-' :: cs => (readUnsigned? cs).map fun (x, rest) => (-x, rest)
  | '+' :: cs => readUnsigned? cs
  | cs => readUnsigned? cs

end Real
end SnippetLab.Text

/-! How values are laid out by a directive of a format. -/
namespace SnippetLab.Text

structure Layout where
  left : Bool := false
  zero : Bool := false
  plus : Bool := false
  blank : Bool := false
  alternate : Bool := false
  width : Nat := 0
  precision : Option Nat := none
  deriving DecidableEq, Repr

namespace Layout

def pad (l : Layout) (cs : List Char) : List Char :=
  let missing := l.width - cs.length
  if l.left then cs ++ List.replicate missing ' ' else List.replicate missing ' ' ++ cs

def text (l : Layout) (cs : List Char) : List Char := l.pad (l.precision.elim cs cs.take)

def padSigned (l : Layout) (fills : Bool) (sign cs : List Char) : List Char :=
  let missing := if l.zero && !l.left && fills then l.width - sign.length - cs.length else 0
  l.pad (sign ++ List.replicate missing '0' ++ cs)

def signOf (l : Layout) (negative : Bool) : List Char :=
  if negative then ['-'] else if l.plus then ['+'] else if l.blank then [' '] else []

def digits (l : Layout) (sign cs : List Char) : List Char :=
  match l.precision with
  | some n =>
    let cs := if n = 0 && cs = ['0'] then [] else Real.padLeft n '0' cs
    l.padSigned false sign cs
  | none => l.padSigned true sign cs

def integer (l : Layout) (n : Int) : List Char := l.digits (l.signOf (n < 0)) (toString n.natAbs).toList

def natural (l : Layout) (kind : Char) (n : Nat) : List Char :=
  match kind with
  | 'o' =>
    let ds := Nat.toDigits 8 n
    l.digits [] (if l.alternate && n ≠ 0 then '0' :: ds else ds)
  | 'x' => l.digits (if l.alternate && n ≠ 0 then ['0', 'x'] else []) (Nat.toDigits 16 n)
  | 'X' => l.digits (if l.alternate && n ≠ 0 then ['0', 'X'] else []) ((Nat.toDigits 16 n).map Char.toUpper)
  | _ => l.digits [] (toString n).toList

def real (l : Layout) (kind : Char) (r : Real) : List Char :=
  let cs := r.written kind.toLower l.precision l.alternate
  let cs := if kind.isUpper then cs.map Char.toUpper else cs
  let finite := match r with
    | .finite _ _ _ => true
    | _ => false
  let (start, cs) := if kind.toLower = 'a' && finite then (cs.take 2, cs.drop 2) else ([], cs)
  l.padSigned finite (l.signOf r.isNegative ++ start) cs

def flag? (l : Layout) : Char → Option Layout
  | '-' => some { l with left := true }
  | '0' => some { l with zero := true }
  | '+' => some { l with plus := true }
  | ' ' => some { l with blank := true }
  | '#' => some { l with alternate := true }
  | _ => none

def flags (l : Layout) : List Char → Layout × List Char
  | c :: cs =>
    match l.flag? c with
    | some l => flags l cs
    | none => (l, c :: cs)
  | [] => (l, [])

def withWidth (l : Layout) (n : Int) : Layout :=
  if n < 0 then { l with left := true, width := n.natAbs } else { l with width := n.toNat }

end Layout
end SnippetLab.Text
