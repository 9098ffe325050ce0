import SnippetLab.Text.Pattern

/-! Places in a text by octets of its UTF-8, and matches that are told by them. -/
namespace SnippetLab.Text

def Utf8.size : List Char → Nat
  | [] => 0
  | c :: cs => c.utf8Size + Utf8.size cs

/-- The octets at which the characters of a text begin, counted on from `here`. -/
def starts (here : Nat) : List Char → List Nat
  | [] => []
  | c :: cs => here :: starts (here + c.utf8Size) cs

def findOctet? (p : List Char) : List Char → Option Nat
  | [] => if p.isEmpty then some 0 else none
  | c :: cs => if p.isPrefixOf (c :: cs) then some 0 else (findOctet? p cs).map (· + c.utf8Size)

/-- What is in front of an octet, and what comes from there on. An octet within a character stands for its end. -/
def splitAtOctet (octet : Nat) : List Char → List Char × List Char
  | [] => ([], [])
  | c :: cs =>
    if octet = 0 then ([], c :: cs)
    else
      let (front, rest) := splitAtOctet (octet - c.utf8Size) cs
      (c :: front, rest)

/-- A match by the octets from its start up to its end, with its text. -/
structure Stretch where
  start : Nat
  stop : Nat
  text : List Char
  deriving DecidableEq, Repr

namespace Pattern

/-- As `scan` goes, from octet `here` of the text. -/
def scanOctets (p : Pattern α) : (skip : Nat) → (before : Option Char) → (here : Nat) → List Char → List Stretch
  | _, _, _, [] => []
  | skip + 1, _, here, c :: cs => scanOctets p skip (some c) (here + c.utf8Size) cs
  | 0, before, here, c :: cs =>
    match p before (c :: cs) with
    | none => scanOctets p 0 (some c) (here + c.utf8Size) cs
    | some (_, rest) =>
      let length := cs.length + 1 - rest.length
      let text := (c :: cs).take length
      ⟨here, here + Utf8.size text, text⟩ :: scanOctets p (length - 1) (some c) (here + c.utf8Size) cs

def stretches (p : Pattern α) (cs : List Char) : List Stretch := p.scanOctets 0 none 0 cs

end Pattern
end SnippetLab.Text
