/-! Occurrences of one text in another, by character position. -/
namespace SnippetLab.Text

def find? (p : List Char) : List Char → Option Nat
  | [] => if p.isEmpty then some 0 else none
  | c :: cs => if p.isPrefixOf (c :: cs) then some 0 else (find? p cs).map (· + 1)

def findLast? (p : List Char) : List Char → Option Nat
  | [] => if p.isEmpty then some 0 else none
  | c :: cs =>
    match findLast? p cs with
    | some i => some (i + 1)
    | none => if p.isPrefixOf (c :: cs) then some 0 else none

def occursIn (p cs : List Char) : Bool := (find? p cs).isSome

def contains (s p : String) : Bool := occursIn p.toList s.toList

def startsWith (s p : String) : Bool := p.toList.isPrefixOf s.toList

def endsWith (s p : String) : Bool := p.toList.isSuffixOf s.toList

/-! Lines of a text. A text has one line more than it has line feeds. -/

def lines : List Char → List (List Char)
  | [] => [[]]
  | c :: cs =>
    if c = '\n' then [] :: lines cs
    else match lines cs with
      | [] => [[c]]
      | line :: rest => (c :: line) :: rest

def firstLine (cs : List Char) : List Char := cs.takeWhile (· ≠ '\n')

end SnippetLab.Text
