import SnippetLab.CommandLine.Arguments
import SnippetLab.Json.Writer
import SnippetLab.Lab.Analyze
import SnippetLab.Lab.Service
import SnippetLab.Settings.Environment
import SnippetLab.Settings.Load

/-! Running the command line: one task over the files of a lab. -/
namespace SnippetLab.CommandLine

structure Printed where
  exitCode : Nat
  out : String := ""
  err : String := ""
  deriving DecidableEq, Repr

def versionText : String := "tribox 0.1.0\n"

def usageText : String := "Usage: tribox [--config FILE] [--compiler PATH] <compile|analyze|check-compiler>\n"

def Stop.printed : Stop → Printed
  | .usageError => { exitCode := 2, err := usageText }
  | .help => { exitCode := 0, out := usageText }
  | .version => { exitCode := 0, out := versionText }

def report (j : Json) (good : Bool) : Printed :=
  { exitCode := if good then 0 else 1, out := j.pretty ++ "\n" }

def problem (text : String) : Printed := { exitCode := 1, err := "Error: " ++ text ++ "\n" }

/-- The file, the environment and the option for the compiler, each over what came before. -/
def settings (i : Invocation) (env : Environment) (t : FileTree) (home : Place) : Except Failure Settings := do
  let s ← (match i.config with
    | some path => Settings.loadFrom t home path
    | none => Settings.loadDefault t home).mapError LoadError.failure
  let s ← match s.override env with
    | (none, s) => .ok s
    | (some e, _) => .error e
  let s := { s with compilerPath := i.compiler.getD s.compilerPath }
  s.validate
  return s

def readInput (l : Lab) : Input → Except String String
  | .inline code => .ok code
  | .file path =>
    (l.tree.readText l.home path).mapError fun e =>
      "Failed to read source file " ++ path ++ "\n\nCaused by:\n    " ++ e.message

/-- Runs a task; the snippet is read once the old workspaces are gone. -/
def perform (launch : Launcher) (s : Settings) (l : Lab) : Task → Printed × Lab
  | .checkCompiler =>
    let status := l.checkCompiler s
    (report status.toJson status.isReady, l)
  | .compile input =>
    let l := l.prepare s
    match readInput l input with
    | .error text => (problem text, l.stop)
    | .ok source =>
      let (outcome, l) := l.compileAndRun launch s source
      (report outcome.toJson outcome.isSuccess, l.stop)
  | .analyze input sorted =>
    let l := l.prepare s
    match readInput l input with
    | .error text => (problem text, l.stop)
    | .ok source =>
      let (response, l) := l.analyze launch s source
      let response := if sorted then response.sorted else response
      (report response.toJson response.success, l.stop)

def run (launch : Launcher) (env : Environment) (t : FileTree) (home : Place) (now : Nat)
    (arguments : List String) : Printed × FileTree :=
  match read arguments with
  | .error stop => (stop.printed, t)
  | .ok invocation =>
    match settings invocation env t home with
    | .error e => (problem e.message, t)
    | .ok s =>
      let (printed, l) := perform launch s (.ofSettings s t home now) invocation.task
      (printed, l.tree)

end SnippetLab.CommandLine
