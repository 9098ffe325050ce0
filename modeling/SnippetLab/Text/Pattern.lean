/-! Matches of a pattern in a text: leftmost first, and none overlaps the one before it. -/
namespace SnippetLab.Text

/-- Given the character before a place and the text from there on, what a match at that place yields
and the text that follows it. -/
abbrev Pattern (α : Type) := Option Char → List Char → Option (α × List Char)

structure Match (α : Type) where
  start : Nat
  stop : Nat
  value : α
  deriving DecidableEq, Repr

namespace Pattern

/-- Matches in the rest of a text from position `here`, with `skip` characters to pass first. A match
covers the character it starts at even if it claims none. -/
def scan (p : Pattern α) : (skip : Nat) → (before : Option Char) → (here : Nat) → List Char → List (Match α)
  | _, _, _, [] => []
  | skip + 1, _, here, c :: cs => scan p skip (some c) (here + 1) cs
  | 0, before, here, c :: cs =>
    match p before (c :: cs) with
    | none => scan p 0 (some c) (here + 1) cs
    | some (value, rest) =>
      let length := cs.length + 1 - rest.length
      ⟨here, here + length, value⟩ :: scan p (length - 1) (some c) (here + 1) cs

def findAll (p : Pattern α) (cs : List Char) : List (Match α) := p.scan 0 none 0 cs

def values (p : Pattern α) (cs : List Char) : List α := (p.findAll cs).map (·.value)

end Pattern

def after? (p cs : List Char) : Option (List Char) :=
  if p.isPrefixOf cs then some (cs.drop p.length) else none

/-- The longest front of characters with a property, which may not be empty. -/
def some? (p : Char → Bool) (cs : List Char) : Option (List Char × List Char) :=
  if (cs.takeWhile p).isEmpty then none else some (cs.takeWhile p, cs.dropWhile p)

end SnippetLab.Text
