import SnippetLab.FileTree.Operations
import SnippetLab.Text.Search

/-! What a compiler leaves in its directory, and which of it is the program. -/
namespace SnippetLab.Artifact

open SnippetLab.Text

def successMarker : String := "Без ошибок"

def sourceExtension : String := ".tri"

def candidateNames (base : String) : List String :=
  [base, base ++ ".exe", "privet", "privet.exe", "a.out"]

/-- Exit code zero counts only together with the marker or with a program. -/
def compilationSucceeded (exitCode : Option Int) (output : String) (present : Bool) : Bool :=
  exitCode == some 0 && (contains output successMarker || present)

/-- The first candidate that is a file, links followed. -/
def probe (t : FileTree) (cwd : Place) (directory base : String) : Option String :=
  ((candidateNames base).map (Path.join directory)).find? (t.isFile cwd)

/-- A file of that name could be the program: it is neither the source nor hidden, and it ends in
`.exe` or has neither a dot nor an underscore in front. -/
def isPlausible (source name : String) : Bool :=
  name ≠ source && !startsWith name "." &&
    (endsWith name ".exe" || (!contains name "." && !startsWith name "_"))

def names (t : FileTree) (cwd : Place) (directory : String) : List String :=
  match t.listDirectory cwd directory with
  | .ok (_, names) => names.mergeSort fun a b => decide (a ≤ b)
  | .error _ => []

/-- The least plausible name of a file in the directory that someone may run; links do not count. -/
def scan (t : FileTree) (cwd : Place) (directory source : String) : Option String :=
  match t.listDirectory cwd directory with
  | .error _ => none
  | .ok (place, _) =>
    ((names t cwd directory).find? fun name =>
      isPlausible source name && (t.node? (place ++ [name])).any Node.isRunnable).map (Path.join directory)

def locate (t : FileTree) (cwd : Place) (directory base source : String) : Option String :=
  (probe t cwd directory base).or (scan t cwd directory source)

end SnippetLab.Artifact
