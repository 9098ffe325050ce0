/-! Whole numbers in decimal digits, read under a bound. -/
namespace SnippetLab.Text

inductive DecimalError
  | empty
  | invalidDigit
  | tooLarge
  deriving DecidableEq, Repr

def DecimalError.message : DecimalError → String
  | .empty => "cannot parse integer from empty string"
  | .invalidDigit => "invalid digit found in string"
  | .tooLarge => "number too large to fit in target type"

def digit? (c : Char) : Option Nat :=
  if '0' ≤ c ∧ c ≤ '9' then some (c.toNat - '0'.toNat) else none

/-- Reads digits after the value so far; the first character that is no digit, or that takes the
value to the bound, decides. -/
def readDigits (bound : Nat) : Nat → List Char → Except DecimalError Nat
  | value, [] => .ok value
  | value, c :: cs =>
    match digit? c with
    | none => .error .invalidDigit
    | some d =>
      if value * 10 + d < bound then readDigits bound (value * 10 + d) cs else .error .tooLarge

def readSome (bound : Nat) (cs : List Char) : Except DecimalError Nat :=
  if cs.isEmpty then .error .invalidDigit else readDigits bound 0 cs

/-- An optional plus sign and digits, with a value below the bound. -/
def readNatural (bound : Nat) : List Char → Except DecimalError Nat
  | [] => .error .empty
  | '+' :: cs => readSome bound cs
  | cs => readSome bound cs

/-- An optional sign and digits, with a value from `-bound` to `bound - 1`. -/
def readInteger (bound : Nat) : List Char → Except DecimalError Int
  | '-' :: cs => (readSome (bound + 1) cs).map fun n => -(n : Int)
  | cs => (readNatural bound cs).map fun n => (n : Int)

end SnippetLab.Text
