import SnippetLab.Text.Wide

/-! Regular expressions, and what is wrong with a text that should be one. -/
namespace SnippetLab

/-- What one character may be. A stray octet is in no set. -/
inductive CharSet
  | any
  | among (negated : Bool) (ranges : List (Char × Char)) (classes : List String)
  deriving DecidableEq, Repr

namespace CharSet

open SnippetLab.Text

def single (c : Char) : CharSet := .among false [(c, c)] []

def contains : CharSet → Char → Bool
  | any, c => !Wide.isStray c
  | among negated ranges classes, c =>
    let holds := ranges.any (fun r => r.1 ≤ c && c ≤ r.2) || classes.any fun n => Wide.inClass n c
    if negated then !holds && !Wide.isStray c else holds

def otherCase (c : Char) : Char := (lowerOf? c).getD (raised c)

def folded : CharSet → CharSet
  | any => any
  | among negated ranges classes =>
    let letters := ranges.flatMap fun r =>
      ((List.range (min 2048 (r.2.toNat + 1 - r.1.toNat))).map fun n => Char.ofNat (r.1.toNat + n)).filter fun c =>
        otherCase c ≠ c
    among negated (ranges ++ letters.map fun c => (otherCase c, otherCase c))
      (if classes.contains "upper" || classes.contains "lower" then "upper" :: "lower" :: classes else classes)

end CharSet

inductive Assertion
  | lineStart
  | lineEnd
  | textStart
  | textEnd
  | wordStart
  | wordEnd
  | boundary
  | noBoundary
  deriving DecidableEq, Repr

inductive Regex
  | empty
  | one (s : CharSet)
  | assertion (a : Assertion)
  | seq (a b : Regex)
  | alt (a b : Regex)
  | loop (r : Regex) (least : Nat) (most : Option Nat)
  | group (number : Nat) (r : Regex)
  | back (number : Nat)
  deriving DecidableEq, Repr

namespace Regex

def hasBack : Regex → Bool
  | back _ => true
  | seq a b | alt a b => a.hasBack || b.hasBack
  | loop r _ _ | group _ r => r.hasBack
  | _ => false

def groups : Regex → Nat
  | seq a b | alt a b => max a.groups b.groups
  | loop r _ _ => r.groups
  | group n r => max n r.groups
  | _ => 0

def literal (folds : Bool) (cs : List Char) : Regex :=
  cs.foldr (fun c r =>
    let s := CharSet.single c
    let one := Regex.one (if folds then s.folded else s)
    if r = empty then one else seq one r) empty

def isWordChar (c : Char) : Bool := Text.Wide.inClass "alnum" c || c = '_'

def isClassName (name : String) : Bool := (Text.CharClass.ofName? name).isSome

end Regex

inductive RegexError
  | badPattern
  | badCollation
  | badClass
  | trailingBackslash
  | badBackReference
  | openBracket
  | openGroup
  | openInterval
  | badInterval
  | badRange
  | tooBig
  | badRepetition
  | closedGroup
  | bareClass
  deriving DecidableEq, Repr

def RegexError.message : RegexError → String
  | badPattern => "Invalid regular expression"
  | badCollation => "Invalid collation character"
  | badClass => "Invalid character class name"
  | trailingBackslash => "Trailing backslash"
  | badBackReference => "Invalid back reference"
  | openBracket => "Unmatched [, [^, [:, [., or [="
  | openGroup => "Unmatched ( or \\("
  | openInterval => "Unmatched \\\x7b"
  | badInterval => "Invalid content of \\\x7b\\\x7d"
  | badRange => "Invalid range end"
  | tooBig => "Regular expression too big"
  | badRepetition => "Invalid preceding regular expression"
  | closedGroup => "Unmatched ) or \\)"
  | bareClass => "character class syntax is [[:space:]], not [:space:]"

end SnippetLab
