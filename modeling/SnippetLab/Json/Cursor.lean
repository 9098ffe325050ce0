/-!
Walking along a text. A position is a line, counted from one, and the octets before it on that line; a
problem is located where the walk noticed it. The problems here are those of texts that are not JSON.
-/
namespace SnippetLab

structure Position where
  line : Nat := 1
  column : Nat := 0
  deriving DecidableEq, Repr

namespace Position

def past (p : Position) (c : Char) : Position :=
  if c = '\n' then ⟨p.line + 1, 0⟩ else { p with column := p.column + c.utf8Size }

/-- The position after some octets of what follows; it may lie inside a character. -/
def advance (p : Position) : Nat → List Char → Position
  | _, [] => p
  | octets, c :: cs =>
    if octets = 0 then p
    else if c.utf8Size ≤ octets then (p.past c).advance (octets - c.utf8Size) cs
    else { p with column := p.column + octets }

end Position

/-- A problem and its position. -/
structure Located (Problem : Type) where
  problem : Problem
  position : Position
  deriving DecidableEq, Repr

namespace Located

def map {P Q : Type} (f : P → Q) (l : Located P) : Located Q := ⟨f l.problem, l.position⟩

def message {P : Type} (wording : P → String) (l : Located P) : String :=
  wording l.problem ++ " at line " ++ toString l.position.line ++ " column " ++ toString l.position.column

end Located

namespace Json

structure Cursor where
  rest : List Char
  position : Position := {}
  deriving DecidableEq, Repr

def isSpace (c : Char) : Bool := c = ' ' || c = '\n' || c = '\t' || c = '\r'

namespace Cursor

def ofString (s : String) : Cursor := { rest := s.toList }

def drop (n : Nat) (c : Cursor) : Cursor := ⟨c.rest.drop n, (c.rest.take n).foldl Position.past c.position⟩

def ahead (c : Cursor) : Position := c.position.advance 1 c.rest

def skipSpace (c : Cursor) : Cursor := c.drop (c.rest.takeWhile isSpace).length

def digits (c : Cursor) : List Char × Cursor :=
  let ds := c.rest.takeWhile Char.isDigit
  (ds, c.drop ds.length)

end Cursor

/-! What keeps a text from being JSON, located at the octet where a scan notices it. -/

inductive Flaw
  | endInList
  | endInRecord
  | endInLiteral
  | endInValue
  | colonExpected
  | listCommaExpected
  | recordCommaExpected
  | wordExpected
  | valueExpected
  | invalidEscape
  | invalidNumber
  | numberOutOfRange
  | controlCharacter
  | keyNotText
  | loneSurrogate
  | commaAtEnd
  | trailingCharacters
  | unfinishedPair
  deriving DecidableEq, Repr

def Flaw.message : Flaw → String
  | endInList => "EOF while parsing a list"
  | endInRecord => "EOF while parsing an object"
  | endInLiteral => "EOF while parsing a string"
  | endInValue => "EOF while parsing a value"
  | colonExpected => "expected `:`"
  | listCommaExpected => "expected `,` or `]`"
  | recordCommaExpected => "expected `,` or `\x7d`"
  | wordExpected => "expected ident"
  | valueExpected => "expected value"
  | invalidEscape => "invalid escape"
  | invalidNumber => "invalid number"
  | numberOutOfRange => "number out of range"
  | controlCharacter => "control character (\\u0000-\\u001F) found while parsing a string"
  | keyNotText => "key must be a string"
  | loneSurrogate => "lone leading surrogate in hex escape"
  | commaAtEnd => "trailing comma"
  | trailingCharacters => "trailing characters"
  | unfinishedPair => "unexpected end of hex escape"

abbrev Scan := Except (Located Flaw)

def flawAt {α : Type} (flaw : Flaw) (p : Position) : Scan α := .error ⟨flaw, p⟩

/-- At the end of the text one flaw, and before its end another, with the next octet. -/
def endOr {α : Type} (atEnd flaw : Flaw) (c : Cursor) : Scan α :=
  flawAt (if c.rest.isEmpty then atEnd else flaw) c.ahead

def scanWord : List Char → Cursor → Scan Cursor
  | [], c => .ok c
  | letter :: word, c =>
    if c.rest.head? = some letter then scanWord word (c.drop 1) else endOr .endInValue .wordExpected c

end Json
end SnippetLab
