import SnippetLab.SystemError

/-! Why a request or a part of it fails. -/
namespace SnippetLab

inductive Failure
  | io (text : String)
  | config (text : String)
  | inputRejected (text : String)
  | spawnFailed (program : String) (reason : String)
  | timedOut (milliseconds : Nat)
  | process (text : String)
  | analysis (text : String)
  deriving DecidableEq, Repr

namespace Failure

def kind : Failure → String
  | io _ => "Io"
  | config _ => "Config"
  | inputRejected _ => "InputRejected"
  | spawnFailed _ _ => "SpawnFailed"
  | timedOut _ => "TimedOut"
  | process _ => "Process"
  | analysis _ => "Analysis"

def message : Failure → String
  | io text => "IO error: " ++ text
  | config text => "Configuration error: " ++ text
  | inputRejected text => "Input rejected: " ++ text
  | spawnFailed program reason => "Failed to spawn " ++ program ++ ": " ++ reason
  | timedOut ms => "Process timed out after " ++ toString ms ++ "ms"
  | process text => "Process error: " ++ text
  | analysis text => "Analysis error: " ++ text

end Failure
end SnippetLab
