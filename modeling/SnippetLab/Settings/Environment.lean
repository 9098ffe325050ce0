import SnippetLab.Settings.Basic
import SnippetLab.Text.Ranges
import SnippetLab.Text.Decimal

/-! Settings from environment variables. -/
namespace SnippetLab

abbrev Environment := String → Option String

namespace Environment

def ofList (bindings : List (String × String)) : Environment :=
  fun name => (bindings.find? (·.1 == name)).map (·.2)

def compilerPath : String := "TRIVIL_COMPILER_PATH"
def tempDirectory : String := "TRIVIL_TEMP_DIRECTORY"
def compilationTimeout : String := "TRIVIL_COMPILATION_TIMEOUT_MS"
def executionTimeout : String := "TRIVIL_EXECUTION_TIMEOUT_MS"

/-- Milliseconds below 2^64 from a variable, white space around them ignored. -/
def milliseconds (env : Environment) (name : String) : Except Failure (Option Nat) :=
  match env name with
  | none => .ok none
  | some raw =>
    match Text.readNatural UInt64.size (Text.trim raw.toList) with
    | .ok n => .ok (some n)
    | .error e => .error (.config (name ++ " is not a millisecond count: " ++ e.message))

end Environment

namespace Settings

/-- Overrides the paths, then the timeouts. At a variable that is no number it stops, and what was
overridden before stays. -/
def override (s : Settings) (env : Environment) : Option Failure × Settings :=
  let s := { s with
    compilerPath := (env Environment.compilerPath).getD s.compilerPath
    tempDirectory := (env Environment.tempDirectory).getD s.tempDirectory }
  match env.milliseconds Environment.compilationTimeout with
  | .error e => (some e, s)
  | .ok compilation =>
    let s := { s with compilationTimeoutMs := compilation.getD s.compilationTimeoutMs }
    match env.milliseconds Environment.executionTimeout with
    | .error e => (some e, s)
    | .ok execution => (none, { s with executionTimeoutMs := execution.getD s.executionTimeoutMs })

end Settings
end SnippetLab
