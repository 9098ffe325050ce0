import SnippetLab.Path
import SnippetLab.Text.Ranges
import SnippetLab.Text.Decimal
import SnippetLab.Text.Search
import SnippetLab.Text.Utf8

/-!
Compiler processes that an earlier service left behind. They are searched for by their command line
with an extended regular expression, and the search answers with a process id a line.
-/
namespace SnippetLab.Orphans

def metacharacters : List Char :=
  ['.', '[', ']', '(', ')', '*', '+', '?', '\x7b', '\x7d', '|', '^', '$', '\\']

def escapeChar (c : Char) : List Char := if metacharacters.contains c then ['\\', c] else [c]

/-- An expression that denotes just this text. -/
def escape (text : String) : String := String.ofList (text.toList.flatMap escapeChar)

/-- What stands for the first flag of a syntax dump if there are no flags. -/
def defaultFlag : String := "-ast"

/-- Matches command lines with the name of the compiler and, somewhere after it, the first flag. -/
def pattern (compiler : String) (astFlags : List String) : String :=
  escape ((Path.fileName? compiler).getD compiler) ++ ".*" ++ escape (astFlags.headD defaultFlag)

/-- The search for a pattern among full command lines. -/
def searchArguments (pattern : String) : List String := ["-f", pattern]

/-- A line is a process id if it holds a decimal number of 32 bits, apart from white space. -/
def pid? (line : List Char) : Option Int := (Text.readInteger 2147483648 (Text.trim line)).toOption

/-- The process ids in the answer; neither our own nor a group of processes. -/
def pids (own : Int) (answer : String) : List Int :=
  ((Text.lines answer.toList).filterMap pid?).filter fun pid => 0 < pid ∧ pid ≠ own

structure Search where
  succeeded : Bool
  output : List UInt8
  deriving DecidableEq, Repr

/-- The processes that get SIGKILL after a search; none if it could not be made. -/
def targets (own : Int) : Option Search → List Int
  | some ⟨true, output⟩ => pids own (String.ofList (Text.Utf8.decodeLossy output))
  | _ => []

def killed (own : Int) (search : Option Search) (isProcess : Int → Bool) : Nat :=
  ((targets own search).filter isProcess).length

end SnippetLab.Orphans
