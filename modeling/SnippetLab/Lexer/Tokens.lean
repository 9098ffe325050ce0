import SnippetLab.Lexer.Columns
import SnippetLab.Lexer.Patterns
import SnippetLab.Text.Search
import SnippetLab.Token.Basic
import SnippetLab.Vocabulary

/-! The names that a program declares, found line by line. -/
namespace SnippetLab

/-- Declared names in the order found; a name may come more than once. -/
structure Declarations where
  functions : List String := []
  parameters : List String := []
  variableNames : List String := []
  deriving DecidableEq, Repr

namespace Declarations

open SnippetLab.Text SnippetLab.Lexer

def append (a b : Declarations) : Declarations :=
  ⟨a.functions ++ b.functions, a.parameters ++ b.parameters, a.variableNames ++ b.variableNames⟩

def ofSignatures (line : List Char) : Declarations :=
  { functions := functionDeclaration.values line
    parameters := (parameterGroup.values line).flatMap parameterName.values }

/-- Names after `пусть`, and names that are assigned to unless they are reserved. -/
def variablesOf (line : List Char) : List String :=
  variableDeclaration.values line
    ++ (assignment.values line).filter fun name =>
      !Vocabulary.isKeyword name && !Vocabulary.isBuiltInType name

def ofLine (line : List Char) : Declarations :=
  { ofSignatures line with variableNames := variablesOf line }

/-- What the whole text declares, comments included. -/
def ofSource (source : String) : Declarations :=
  ((lines source.toList).map ofLine).foldr append {}

end Declarations
end SnippetLab

/-!
The static tokens of a text. They come line by line, and within a line by category: comment, strings,
numbers, identifiers, operators. No text is refused.
-/
namespace SnippetLab.Lexer

open SnippetLab.Text

/-- A line up to its first `//`, and the comment from there on. -/
def cutComment (full : List Char) : List Char × Option Stretch :=
  match findOctet? ['/', '/'] full with
  | some start =>
    let (line, comment) := splitAtOctet start full
    (line, some ⟨start, Utf8.size full, comment⟩)
  | none => (full, none)

def inRanges (octet : Nat) (ranges : List Stretch) : Bool :=
  ranges.any fun s => s.start ≤ octet && octet < s.stop

/-- The names declared on the line come before those of the whole text. -/
def identifierKind (onLine everywhere : Declarations) (word : String) : TokenKind :=
  if onLine.functions.contains word || everywhere.functions.contains word then .userFunction
  else if onLine.parameters.contains word || everywhere.parameters.contains word then .parameter
  else if everywhere.variableNames.contains word then .userVariable
  else Vocabulary.classify word

/-- The token of a match; what it is may depend on its text. -/
def ColumnIndex.token (columns : ColumnIndex) (number : Nat) (kind : String → TokenKind) (s : Stretch) : Token :=
  let text := String.ofList s.text
  .onLine number (columns.column s.start) (columns.column s.stop) (kind text) text

def lineTokens (names : Declarations) (number : Nat) (full : List Char) : List Token :=
  let token := (ColumnIndex.ofLine full).token number
  let (line, comment) := cutComment full
  let strings := stringLiteral.stretches line
  let outside (p : Pattern Unit) := (p.stretches line).filter fun s => !inRanges s.start strings
  let onLine := Declarations.ofSignatures line
  comment.toList.map (token fun _ => .comment)
    ++ strings.map (token fun _ => .stringLiteral)
    ++ (outside Lexer.number).map (token fun _ => .numberLiteral)
    ++ (outside identifier).map (token (identifierKind onLine names))
    ++ (outside operator).map (token fun _ => .operator)

def tokenize (source : String) : List Token :=
  let names := Declarations.ofSource source
  (lines source.toList).zipIdx.flatMap fun (line, number) => lineTokens names number line

end SnippetLab.Lexer
