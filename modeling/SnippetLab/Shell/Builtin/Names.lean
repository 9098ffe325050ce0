import SnippetLab.Shell.Action
import SnippetLab.Shell.Builtin.Arguments

/-! What the name of a command stands for. -/
namespace SnippetLab.Shell

open SnippetLab.Machine

namespace Builtin

def specials : List String := Grammar.specials

/-- Commands that are found before anything of the same name in a directory. -/
def regulars : List String :=
  ["alias", "bg", "cd", "chdir", "command", "false", "fc", "fg", "getopts", "hash", "jobs", "kill", "pwd", "read",
   "true", "type", "ulimit", "umask", "unalias", "wait"]

def others : List String := ["[", "echo", "printf", "test"]

def isBuiltin (name : String) : Bool := specials.contains name || regulars.contains name || others.contains name

def isSpecial (name : String) : Bool := specials.contains name

def assigns (name : String) : Bool := ["alias", "export", "local", "readonly"].contains name

end Builtin

inductive Found
  | function
  | builtin
  | program (path : String)
  | missing (reason : SystemError)
  deriving DecidableEq, Repr

namespace Search

def inDirectories (name : String) (refused : SystemError) : List String → Routine Found
  | [] => return .missing refused
  | d :: rest => do
    let path := Path.join d name
    match ← Routine.info true path with
    | .error .noEntry | .error .notDirectory => inDirectories name refused rest
    | .error e => inDirectories name e rest
    | .ok info =>
      if info.node.isRunnable then return .program path else inDirectories name .permissionDenied rest

def program (name path : String) : Routine Found := inDirectories name .noEntry (Environment.directories path)

def command (name : String) (ignoresFunctions : Bool) (path : Option String) : Action Found := do
  let s ← get
  if name.toList.contains '/' then return .program name
  if (s.function? name).isSome && !ignoresFunctions then return .function
  if Builtin.isBuiltin name then return .builtin
  match path with
  | some path => Action.routine (program name path)
  | none =>
    match s.hashed.lookup name with
    | some found => return .program found
    | none =>
      let found ← Action.routine (program name s.path)
      match found with
      | .program p => modify fun s => { s with hashed := s.hashed ++ [(name, p)] }
      | _ => pure ()
      return found

def reason (e : SystemError) : String := if e = .noEntry || e = .notDirectory then "not found" else e.text

end Search
end SnippetLab.Shell

/-! Commands that tell or change what names stand for. -/
namespace SnippetLab.Shell.Builtin

open SnippetLab.Machine

def showAlias (name value : String) : Action Unit := Action.print (name ++ "=" ++ quoted value ++ "\n")

def setAlias (name value : String) : Action Unit :=
  modify fun s => { s with aliases := s.aliases.filter (·.1 ≠ name) ++ [(name, value)] }

def aliasRank (name : String) : Nat :=
  let cs := name.toList.map Char.toNat
  (cs.headD 0 * 16 + cs.foldl (· + ·) 0) % 39

def alias_ : Builtin := fun _ arguments => do
  if arguments.isEmpty then
    let ranked := (← get).aliases.mergeSort fun a b => aliasRank a.1 ≤ aliasRank b.1
    Action.forEach ranked fun (name, value) => showAlias name value
    return 0
  go 0 arguments
where
  go : Nat → List String → Action Nat
    | status, [] => return status
    | status, a :: rest => do
      match split? a with
      | some (name, value) =>
        if name.isEmpty then
          Action.routine (Routine.complain ("alias: " ++ a ++ " not found\n"))
          go 1 rest
        else
          setAlias name value
          go status rest
      | none =>
        match (← get).aliases.lookup a with
        | some value =>
          showAlias a value
          go status rest
        | none => do
          Action.routine (Routine.complain ("alias: " ++ a ++ " not found\n"))
          go 1 rest

def unalias : Builtin := fun _ arguments => do
  let (found, rest) ← options "a" arguments
  if !found.isEmpty then
    modify fun s => { s with aliases := [] }
    return 0
  go 0 rest
where
  go : Nat → List String → Action Nat
    | status, [] => return status
    | status, a :: rest => do
      if ((← get).aliases.lookup a).isSome then
        modify fun s => { s with aliases := s.aliases.filter (·.1 ≠ a) }
        go status rest
      else
        Action.routine (Routine.complain ("unalias: " ++ a ++ " not found\n"))
        go 1 rest

def describe (inSentence : Bool) (path : Option String) (name : String) : Action Nat := do
  let s ← get
  let say (brief sentence : String) : Action Nat := do
    Action.print ((if inSentence then name ++ sentence else brief) ++ "\n")
    return 0
  if (Keyword.ofText? name).isSome then say name " is a shell keyword"
  else match s.aliases.lookup name with
    | some value => say ("alias " ++ name ++ "=" ++ quoted value) (" is an alias for " ++ value)
    | none =>
      if (s.function? name).isSome then say name " is a shell function"
      else if isBuiltin name then say name (if isSpecial name then " is a special shell builtin" else " is a shell builtin")
      else
        let tracked := if path.isNone then s.hashed.lookup name else none
        match tracked with
        | some p => say p (" is a tracked alias for " ++ p)
        | none =>
          match ← found s name with
          | some p => say p (" is " ++ p)
          | none => do
            if inSentence then Action.print (name ++ ": not found\n")
            return 127
where
  found (s : State) (name : String) : Action (Option String) := do
    if name.toList.contains '/' then
      return if (← Action.routine (Routine.info true name)).isOk then some name else none
    match ← Action.routine (Search.program name (path.getD s.path)) with
    | .program p => return some p
    | _ => return none

def type : Builtin := fun _ arguments => do
  let (_, rest) ← options "" arguments
  go 0 rest
where
  go : Nat → List String → Action Nat
    | status, [] => return status
    | status, a :: rest => do
      let n ← describe true none a
      go (status ||| n) rest

def standardPath : String := "/usr/local/sbin:/usr/local/bin:/usr/sbin:/usr/bin:/sbin:/bin"

def command : Builtin := fun _ arguments => do
  let (found, rest) ← options "pvV" arguments
  let has (c : Char) : Bool := found.any (·.1 = c)
  match rest with
  | name :: _ =>
    if has 'v' || has 'V' then describe (has 'V') (if has 'p' then some standardPath else none) name else return 0
  | [] => return 0

def hash : Builtin := fun _ arguments => do
  let (found, rest) ← options "r" arguments
  if !found.isEmpty then
    modify fun s => { s with hashed := [] }
    return 0
  if rest.isEmpty then
    let ranked := (← get).hashed.mergeSort fun a b => hashRank a.1 ≤ hashRank b.1
    Action.forEach ranked fun (_, path) => Action.print (path ++ "\n")
    return 0
  go 0 rest
where
  hashRank (name : String) : Nat :=
    let cs := name.toList.map Char.toNat
    (cs.headD 0 * 16 + cs.foldl (· + ·) 0) % 31
  go : Nat → List String → Action Nat
    | status, [] => return status
    | status, a :: rest => do
      modify fun s => { s with hashed := s.hashed.filter (·.1 ≠ a) }
      match ← Search.command a false none with
      | .missing e => do
        Action.complain (a ++ ": " ++ Search.reason e)
        go 1 rest
      | _ => go status rest

end SnippetLab.Shell.Builtin
