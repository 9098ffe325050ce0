import SnippetLab.Machine.Program
import SnippetLab.Shell.Grammar

/-! What a shell knows while it runs. -/
namespace SnippetLab.Shell

open SnippetLab.Machine

structure Variable where
  value : Option String
  isExported : Bool := false
  isReadonly : Bool := false
  deriving DecidableEq, Repr

inductive Skip
  | none
  | break
  | continue
  | return
  deriving DecidableEq, Repr

inductive Saved
  | variable (name : String) (old : Option Variable)
  | options (old : List Char)
  deriving DecidableEq, Repr

structure Job where
  number : Nat
  pids : List Pid
  /-- The ends that were seen, with what is not known yet left out. -/
  ended : List (Pid × ExitStatus) := []
  text : String := ""
  isBackground : Bool := false
  isTold : Bool := false

namespace Job

def isDone (j : Job) : Bool := j.pids.all fun p => (j.ended.lookup p).isSome

def ending (j : Job) : ExitStatus := (j.pids.getLast?.bind fun p => j.ended.lookup p).getD (.code 0)

end Job

structure State where
  name : String
  parameters : List String := []
  commandName : Option String := .none
  line : Nat := 0
  errorLine : Nat := 0
  functionLine : Nat := 0
  bindings : List (String × Variable) := []
  frames : List (List Saved) := []
  functions : List (String × Nat × Node) := []
  aliases : List (String × String) := []
  /-- The letters of options that are set; `O` stands for those without a letter. -/
  options : List Char := []
  status : Nat := 0
  substitutionStatus : Nat := 0
  skip : Skip := .none
  skipCount : Nat := 0
  loopDepth : Nat := 0
  functionDepth : Nat := 0
  /-- Commands to run when a signal arrives, or at the end; an empty one lets the signal pass. -/
  traps : List (Nat × String) := []
  ignored : List Nat := []
  jobs : List Job := []
  lastBackground : Option Pid := .none
  rootPid : Pid := 0
  isSubshell : Bool := false
  directory : String := ""
  printed : List String := []
  /-- Redirections to be taken back, the last one first, as descriptors with their copies. -/
  redirected : List (List (Nat × Option Nat)) := []
  documents : List (Nat × Word) := []
  nextDocument : Nat := 0
  hashed : List (String × String) := []
  optionIndex : Nat := 1
  optionOffset : Option Nat := .none
  isTracing : Bool := false
  /-- The status to go back to after a trap, or to exit with. -/
  savedStatus : Option Nat := .none
  scriptDescriptor : Option Nat := .none

namespace State

def binding? (s : State) (name : String) : Option Variable := s.bindings.lookup name

def hasOption (s : State) (letter : Char) : Bool := s.options.contains letter

def setOption (s : State) (letter : Char) (on : Bool) : State :=
  let others := s.options.filter (· ≠ letter)
  { s with options := if on then letter :: others else others }

def value? (s : State) (name : String) : Option String :=
  (s.binding? name).bind (·.value)

def afterChange (s : State) (name : String) (value : Option String) : State :=
  if name = "PATH" then { s with hashed := [] }
  else if name = "OPTIND" then
    { s with optionIndex := max 1 ((value.bind String.toNat?).getD 1), optionOffset := .none }
  else s

def putVariable (s : State) (name : String) (v : Variable) : State :=
  let bindings := if (s.binding? name).isSome then
      s.bindings.map fun e => if e.1 = name then (name, v) else e
    else s.bindings ++ [(name, v)]
  { s with bindings }.afterChange name v.value

def dropVariable (s : State) (name : String) : State :=
  { s with bindings := s.bindings.filter (·.1 ≠ name) }.afterChange name .none

def setValue (s : State) (name value : String) (exports : Bool := false) : State :=
  let v := (s.binding? name).getD { value := .none }
  s.putVariable name { v with value := some value, isExported := v.isExported || exports || s.hasOption 'a' }

def isReadonly (s : State) (name : String) : Bool := (s.binding? name).any (·.isReadonly)

def separators (s : State) : String := (s.value? "IFS").getD " \t\n"

def function? (s : State) (name : String) : Option (Nat × Node) := s.functions.lookup name

def rank (name : String) : Nat :=
  let cs := name.toList.map Char.toNat
  (cs.headD 0 * 16 + cs.foldl (· + ·) 0) % 39

def environment (s : State) : List String :=
  let exported := s.bindings.filter (·.2.isExported)
  let ranked := exported.mergeSort fun a b => rank a.1 ≤ rank b.1
  ranked.filterMap fun e => e.2.value.map fun value => e.1 ++ "=" ++ value

def path (s : State) : String := (s.value? "PATH").getD ""

def parameter? (s : State) (n : Nat) : Option String := if n = 0 then some s.name else s.parameters[n - 1]?

end State
end SnippetLab.Shell
