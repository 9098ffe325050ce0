import SnippetLab.Text.Ranges
import SnippetLab.Text.Search

/-! The text of one snippet, as the compiler and the analysis see it. -/
namespace SnippetLab

open SnippetLab.Text

def dropNul (cs : List Char) : List Char := cs.filter (· ≠ '\x00')

/-- A carriage return and a line feed become one line feed. -/
def joinCrLf : List Char → List Char
  | '\r' :: '\n' :: cs => '\n' :: joinCrLf cs
  | c :: cs => c :: joinCrLf cs
  | [] => []

def crToLf (cs : List Char) : List Char := cs.map fun c => if c = '\r' then '\n' else c

/-- No NULs, and every line ends in a line feed. -/
def sanitize (raw : String) : String := String.ofList (crToLf (joinCrLf (dropNul raw.toList)))

structure SourceUnit where
  text : String
  deriving DecidableEq, Repr

namespace SourceUnit

def moduleKeyword : String := "модуль "

def autoImports : List (String × String) :=
  [("вывод", "стд::вывод"), ("ввод", "стд::ввод"), ("файл", "стд::файл")]

/-- White space around the text goes first, so it is told by the raw characters. -/
def forCompile (raw : String) : SourceUnit := ⟨sanitize (trimmed raw)⟩

/-- Lines keep their numbers. -/
def forAnalysis (raw : String) : SourceUnit := ⟨sanitize raw⟩

def charLength (u : SourceUnit) : Nat := u.text.length

def isBlank (u : SourceUnit) : Bool := allBlank u.text.toList

def declaresModule (u : SourceUnit) : Bool :=
  moduleKeyword.toList.isPrefixOf (trimStart u.text.toList)

/-- A complete module: the text itself, or a header, the imports that it needs, and the text. -/
def wrapped (u : SourceUnit) (name : String) : String :=
  if u.declaresModule then u.text
  else
    let imports := (autoImports.filter fun i => contains u.text i.1).map fun i =>
      "импорт \"" ++ i.2 ++ "\"\n\n"
    moduleKeyword ++ name ++ "\n\n" ++ String.join imports ++ u.text

end SourceUnit
end SnippetLab
