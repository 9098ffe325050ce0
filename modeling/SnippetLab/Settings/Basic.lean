import SnippetLab.Failure
import SnippetLab.Json.Basic

/-! The settings of the service. -/
namespace SnippetLab

/-- The settings by name. The first six have no default in a document. -/
inductive Field
  | compilerPath
  | tempDirectory
  | compilationTimeoutMs
  | executionTimeoutMs
  | maxSourceLength
  | maxOutputLength
  | compileFlags
  | astFlags
  | sweepIntervalSecs
  | sweepMinAgeMs
  | killGraceMs
  | drainGraceMs
  | maxCaptureBytes
  | staleWorkspaceAgeSecs
  deriving DecidableEq, Repr

namespace Field

def all : List Field :=
  [compilerPath, tempDirectory, compilationTimeoutMs, executionTimeoutMs, maxSourceLength,
   maxOutputLength, compileFlags, astFlags, sweepIntervalSecs, sweepMinAgeMs, killGraceMs,
   drainGraceMs, maxCaptureBytes, staleWorkspaceAgeSecs]

def name : Field → String
  | compilerPath => "compiler_path"
  | tempDirectory => "temp_directory"
  | compilationTimeoutMs => "compilation_timeout_ms"
  | executionTimeoutMs => "execution_timeout_ms"
  | maxSourceLength => "max_source_length"
  | maxOutputLength => "max_output_length"
  | compileFlags => "compile_flags"
  | astFlags => "ast_flags"
  | sweepIntervalSecs => "sweep_interval_secs"
  | sweepMinAgeMs => "sweep_min_age_ms"
  | killGraceMs => "kill_grace_ms"
  | drainGraceMs => "drain_grace_ms"
  | maxCaptureBytes => "max_capture_bytes"
  | staleWorkspaceAgeSecs => "stale_workspace_age_secs"

def ofName? (name : String) : Option Field := all.find? (·.name == name)

end Field

structure Settings where
  compilerPath : String := "/app/compiler/v0.79/trivil"
  tempDirectory : String := "/app/temp"
  compilationTimeoutMs : Nat := 300000
  executionTimeoutMs : Nat := 10000
  maxSourceLength : Nat := 10000
  maxOutputLength : Nat := 50000
  compileFlags : List String := []
  astFlags : List String := ["-ast", "2"]
  sweepIntervalSecs : Nat := 120
  sweepMinAgeMs : Nat := 0
  killGraceMs : Nat := 2000
  drainGraceMs : Nat := 5000
  maxCaptureBytes : Nat := 8388608
  staleWorkspaceAgeSecs : Nat := 3600
  deriving DecidableEq, Repr

namespace Settings

/-- The numbers that have to be positive, in the order in which they are checked. -/
def positives (s : Settings) : List (Field × Nat) :=
  [(.compilationTimeoutMs, s.compilationTimeoutMs), (.executionTimeoutMs, s.executionTimeoutMs),
   (.maxSourceLength, s.maxSourceLength), (.maxOutputLength, s.maxOutputLength),
   (.sweepIntervalSecs, s.sweepIntervalSecs)]

def problem? (s : Settings) : Option Failure :=
  if s.compilerPath.isEmpty then some (.config "compiler_path must not be blank")
  else if s.tempDirectory.isEmpty then some (.config "temp_directory must not be blank")
  else (s.positives.find? (·.2 == 0)).map fun p => .config (p.1.name ++ " must be positive")

def validate (s : Settings) : Except Failure Unit :=
  match s.problem? with
  | some failure => .error failure
  | none => .ok ()

def toJson (s : Settings) : Json :=
  .record
    [("compiler_path", .text s.compilerPath), ("temp_directory", .text s.tempDirectory),
     ("compilation_timeout_ms", .nat s.compilationTimeoutMs),
     ("execution_timeout_ms", .nat s.executionTimeoutMs),
     ("max_source_length", .nat s.maxSourceLength), ("max_output_length", .nat s.maxOutputLength),
     ("compile_flags", .list (s.compileFlags.map .text)), ("ast_flags", .list (s.astFlags.map .text)),
     ("sweep_interval_secs", .nat s.sweepIntervalSecs), ("sweep_min_age_ms", .nat s.sweepMinAgeMs),
     ("kill_grace_ms", .nat s.killGraceMs), ("drain_grace_ms", .nat s.drainGraceMs),
     ("max_capture_bytes", .nat s.maxCaptureBytes),
     ("stale_workspace_age_secs", .nat s.staleWorkspaceAgeSecs)]

end Settings
end SnippetLab
