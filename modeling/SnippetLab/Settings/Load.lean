import SnippetLab.FileTree.Operations
import SnippetLab.Settings.Document
import SnippetLab.Text.Utf8

/-! Settings from a file. -/
namespace SnippetLab

def FileTree.readText (t : FileTree) (cwd : Place) (path : String) : Except SystemError String := do
  match Text.Utf8.decode? (← t.readFile cwd path) with
  | some cs => .ok (String.ofList cs)
  | none => .error .notUtf8

inductive LoadError
  | unreadable (path : String) (e : SystemError)
  | malformed (e : DocumentError)
  deriving Repr

def LoadError.failure : LoadError → Failure
  | .unreadable path e => .config ("Failed to read config file " ++ path ++ ": " ++ e.message)
  | .malformed e => .config ("Failed to parse config JSON: " ++ e.message)

namespace Settings

/-- Looked for in the working directory when no other file is named. -/
def defaultFile : String := "tribox.json"

def loadFrom (t : FileTree) (cwd : Place) (path : String) : Except LoadError Settings :=
  match t.readText cwd path with
  | .error e => .error (.unreadable path e)
  | .ok text => (ofDocument text).mapError .malformed

def loadDefault (t : FileTree) (cwd : Place) : Except LoadError Settings :=
  let path := Path.join (FileTree.placePath cwd) defaultFile
  if t.isPresent cwd path then loadFrom t cwd path else .ok {}

end Settings
end SnippetLab
