import SnippetLab.Json.Basic
import SnippetLab.Token.Wire

/-! What a request comes to, and what is sent back. -/
namespace SnippetLab

/-- The result of compiling and running one snippet. -/
inductive CompileOutcome
  | success (output : String) (elapsedMs : Nat)
  /-- The input was rejected, or there is no compiled program. -/
  | compilationError (text : String)
  /-- The program exited otherwise, could not be started or was never found. -/
  | runtimeError (text : String) (elapsedMs : Nat)
  | timeout (text : String)
  deriving DecidableEq, Repr

namespace CompileOutcome

def resultType : CompileOutcome → String
  | success _ _ => "success"
  | compilationError _ => "compilation_error"
  | runtimeError _ _ => "runtime_error"
  | timeout _ => "timeout"

def isSuccess : CompileOutcome → Bool
  | success _ _ => true
  | _ => false

def text : CompileOutcome → String
  | success text _ | compilationError text | runtimeError text _ | timeout text => text

def elapsedMs : CompileOutcome → Option Nat
  | success _ ms | runtimeError _ ms => some ms
  | compilationError _ | timeout _ => none

def toJson (o : CompileOutcome) : Json :=
  .record <|
    [("success", .bool o.isSuccess), (if o.isSuccess then "output" else "error", .text o.text)]
    ++ (o.elapsedMs.map fun ms => ("executionTimeMs", Json.nat ms)).toList
    ++ [("resultType", .text o.resultType)]

end CompileOutcome

/-- The answer to an analysis: tokens, or an error and no tokens. -/
structure AnalysisResponse where
  tokens : List Token
  error : Option String
  elapsedMs : Nat
  deriving DecidableEq, Repr

namespace AnalysisResponse

def ok (tokens : List Token) (elapsedMs : Nat) : AnalysisResponse := ⟨tokens, none, elapsedMs⟩

def failed (text : String) (elapsedMs : Nat) : AnalysisResponse := ⟨[], some text, elapsedMs⟩

def success (r : AnalysisResponse) : Bool := r.error.isNone

def sorted (r : AnalysisResponse) : AnalysisResponse :=
  { r with tokens := Token.sortByPosition r.tokens }

def toJson (r : AnalysisResponse) : Json :=
  .record <|
    [("success", .bool r.success), ("tokens", Token.listToJson r.tokens)]
    ++ (r.error.map fun text => ("error", Json.text text)).toList
    ++ [("analysisTimeMs", .nat r.elapsedMs)]

end AnalysisResponse
end SnippetLab
