import SnippetLab.Artifact
import SnippetLab.Lab.Run
import SnippetLab.Outcome
import SnippetLab.Source
import SnippetLab.Text.Truncate
import SnippetLab.Workspace

/-! Compiling a snippet and running the program. Whatever happens, there is an outcome. -/
namespace SnippetLab.Lab

open SnippetLab.Text

def programMissing : String :=
  "Compiled executable not found. Compilation may have failed silently."

/-- A source is refused if it is blank or too long, both told by its raw text. -/
def accept (s : Settings) (source : String) : Except String SourceUnit :=
  if allBlank source.toList then .error "Source code cannot be empty"
  else if s.maxSourceLength < source.length then
    .error ("Source code exceeds maximum length of " ++ toString s.maxSourceLength ++ " characters")
  else .ok (.forCompile source)

def compilerComplaint (status : ExitStatus) (output : String) : String :=
  if !output.isEmpty then output
  else match status with
    | .code n => "Compilation failed with exit code " ++ toString n
    | .signal _ => "Compilation failed: compiler was terminated by a signal"

def compilerFailure : Failure → String
  | .timedOut ms => "Compilation timed out after " ++ toString ms ++ "ms"
  | .spawnFailed _ reason => "Failed to execute compiler: " ++ reason
  | e => "Failed to execute compiler: " ++ e.message

def compileSource (launch : Launcher) (s : Settings) (directory base : String) (l : Lab) :
    Except String Unit × Lab :=
  let command := (Toolchain.ofSettings s).compile (base ++ Artifact.sourceExtension) directory
  match l.run launch (.ofSettings s) command s.compilationTimeoutMs with
  | (.error e, l) => (.error (compilerFailure e), l)
  | (.ok result, l) =>
    let output := trimmed result.output
    let present := (Artifact.probe l.tree l.home directory base).isSome
    if Artifact.compilationSucceeded (result.status.code?.map (↑·)) output present then (.ok (), l)
    else (.error (compilerComplaint result.status output), l)

def canonical (l : Lab) (path : String) : String :=
  match l.tree.find l.home true path with
  | .ok (place, _) => FileTree.placePath place
  | .error _ => path

def programOutcome (maxOutput elapsed : Nat) : Except Failure RunResult → CompileOutcome
  | .ok result =>
    let output := truncate maxOutput (trimmed result.output)
    if result.succeeded then .success output elapsed else .runtimeError output elapsed
  | .error (.timedOut ms) => .timeout ("Program execution timed out after " ++ toString ms ++ "ms")
  | .error (.spawnFailed _ reason) => .runtimeError ("Failed to execute program: " ++ reason) elapsed
  | .error e => .runtimeError ("Failed to execute program: " ++ e.message) elapsed

def runProgram (launch : Launcher) (s : Settings) (directory program : String) (startedAt : Nat) (l : Lab) :
    CompileOutcome × Lab :=
  let (result, l) := l.run launch (.ofSettings s) ⟨l.canonical program, [], directory⟩ s.executionTimeoutMs
  (programOutcome s.maxOutputLength (l.now - startedAt) result, l)

/-- Compiles a source that lies in a workspace, finds the program and runs it. -/
def judge (launch : Launcher) (s : Settings) (directory base : String) (startedAt : Nat) (l : Lab) :
    CompileOutcome × Lab :=
  match l.compileSource launch s directory base with
  | (.error text, l) => (.compilationError text, l)
  | (.ok (), l) =>
    match Artifact.locate l.tree l.home directory base (base ++ Artifact.sourceExtension) with
    | none => (.runtimeError programMissing (l.now - startedAt), l)
    | some program => l.runProgram launch s directory program startedAt

def createWorkspace (s : Settings) (first : String) (l : Lab) : Except Failure Workspace × Lab :=
  let (n, l) := l.draw
  let (w, tree) := Workspace.create l.tree l.now l.home s.tempDirectory first (uuid n)
  (w, { l with tree })

def purge (s : Settings) (l : Lab) : Lab :=
  { l with tree := (Cleanup.purge l.tree l.now l.home s.tempDirectory).2 }

def writeSource (w : Workspace) (name content : String) (l : Lab) : Except Failure String × Workspace × Lab :=
  let (path, w, tree) := w.write l.tree l.now l.home name content
  (path, w, { l with tree })

def dispose (w : Workspace) (l : Lab) : Lab := { l with tree := (w.dispose l.tree l.now l.home).2 }

/-- Judges an accepted source in a workspace of its own, which is gone afterwards. -/
def judgeInWorkspace (launch : Launcher) (s : Settings) (u : SourceUnit) (l : Lab) :
    Except Failure CompileOutcome × Lab :=
  let startedAt := l.now
  match l.createWorkspace s Workspace.runPrefix with
  | (.error e, l) => (.error e, l)
  | (.ok w, l) =>
    let (n, l) := (l.purge s).draw
    match l.writeSource w (baseName n ++ Artifact.sourceExtension) u.text with
    | (.error e, w, l) => (.error e, l.dispose w)
    | (.ok _, w, l) =>
      let (outcome, l) := l.judge launch s w.directory (baseName n) startedAt
      (.ok outcome, l.dispose w)

def compileAndRun (launch : Launcher) (s : Settings) (source : String) (l : Lab) : CompileOutcome × Lab :=
  match accept s source with
  | .error text => (.compilationError text, l)
  | .ok u =>
    match l.judgeInWorkspace launch s u with
    | (.error e, l) => (.compilationError ("Internal server error: " ++ e.message), l)
    | (.ok outcome, l) => (outcome, l)

end SnippetLab.Lab
