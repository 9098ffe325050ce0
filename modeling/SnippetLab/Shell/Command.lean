import SnippetLab.Shell.Action
import SnippetLab.Shell.Builtin.Condition
import SnippetLab.Shell.Builtin.Directory
import SnippetLab.Shell.Builtin.Names
import SnippetLab.Shell.Builtin.Output
import SnippetLab.Shell.Builtin.Processes
import SnippetLab.Shell.Builtin.Variables
import SnippetLab.Shell.Redirection

/-! Running scripts line by line, from a text or from a descriptor. -/
namespace SnippetLab.Shell.Reader

open SnippetLab.Machine

inductive Step
  | ended
  | commands (node : Option Node) (isLast : Bool) (rest : Reading)
  | starved

/-- Reads one line with the aliases as they are now. -/
def step (r : Reading) : Action Step := do
  let s ← get
  let r := { r with aliases := s.aliases, nextDocument := s.nextDocument, documents := [] }
  match Grammar.line.run r with
  | .error (.fault text line) => do
    modify fun s => { s with errorLine := line }
    Action.fail ("Syntax error: " ++ text)
  | .error .starved => return .starved
  | .ok (.ended, _) => return .ended
  | .ok (.commands node isLast, r) =>
    modify fun s => { s with documents := r.documents ++ s.documents, nextDocument := r.nextDocument }
    return .commands node isLast r

def runText (i : Interpreter) (text : String) (m : Manner) : Action Nat :=
  Action.iterate 0 (fun ((status, r) : Nat × Reading) => do
    match ← step r with
    | .commands node isLast rest =>
      let m := { m with isLast := m.isLast && isLast }
      match node with
      | some node =>
        let status ← i.run node m
        if (← get).skip ≠ .none then return .inr status
        return .inl (status, rest)
      | none =>
        if m.isLast then throw .ended
        return .inl (status, rest)
    | _ => return .inr status) Routine.rounds (0, { text := text.toList })

def blockSize : Nat := 8192

def more (fd : Nat) (r : Reading) : Action Reading := do
  match ← Action.routine (Routine.read fd blockSize) with
  | .ok [] => return { r with isWhole := true }
  | .ok cs => return { r with text := r.text ++ cs.filter (· ≠ '\x00') }
  | .error .interrupted => return r
  | .error _ => return { r with isWhole := true }

def runDescriptor (i : Interpreter) (fd : Nat) : Action Nat := do
  let status ← Action.iterate 0 (fun ((status, r) : Nat × Reading) => do
    match ← step r with
    | .starved => return .inl (status, ← more fd r)
    | .commands node _ rest =>
      if (← get).hasOption 'v' then
        let passed := r.text.take (r.text.length - rest.text.length)
        Action.routine (Routine.complain (String.ofList passed))
      let status ← match node with
        | some node => i.run node {}
        | none => pure status
      return if (← get).skip ≠ .none then .inr status else .inl (status, rest)
    | .ended => return .inr status) Routine.rounds (0, { text := [], isWhole := false })
  modify fun s => if s.skip = .return then { s with skip := .none } else s
  return status

end SnippetLab.Shell.Reader

/-! Running a simple command: a built-in command, a function or a program. -/
namespace SnippetLab.Shell

open SnippetLab.Machine

namespace Builtin

/-! Commands that change the course of a script -/

def eval (i : Interpreter) (m : Manner) : Builtin := fun _ arguments =>
  if arguments.isEmpty then return 0
  else i.runText (" ".intercalate arguments) { isTested := m.isTested }

def scriptPath (name : String) : Action String := do
  if name.toList.contains '/' then return name
  go (Environment.directories (← get).path)
where
  go : List String → Action String
    | [] => Action.fail (name ++ ": not found")
    | d :: rest => do
      let path := Path.join d name
      match ← Action.routine (Routine.info true path) with
      | .ok info => if info.node.isFile then return path else go rest
      | .error _ => go rest

/-- Opens a script where commands do not see it. -/
def openScript (path : String) : Action Nat := do
  match ← Action.routine (Routine.openPath path .input) with
  | .error e => Redirection.cannotOpen path e
  | .ok fd =>
    if fd < Redirection.keptFrom then
      match ← Action.routine (Redirection.keep fd) with
      | some copy => return copy
      | none => return fd
    else return fd

def dot (i : Interpreter) : Builtin := fun _ arguments => do
  let (_, rest) ← options "" arguments
  match rest with
  | [] => return 0
  | name :: _ =>
    let path ← scriptPath name
    let fd ← openScript path
    let outer := (← get).scriptDescriptor
    modify fun s => { s with commandName := some path, scriptDescriptor := some fd }
    Action.andFinally (Reader.runDescriptor i fd) do
      Action.routine (Routine.close fd)
      modify fun s => { s with scriptDescriptor := outer }

def exit : Builtin := fun _ arguments => do
  match arguments with
  | a :: _ =>
    let n ← number a
    modify fun s => { s with savedStatus := some n }
  | [] => pure ()
  throw .exit

def leave (skip : Skip) : Builtin := fun _ arguments => do
  let n ← match arguments with
    | a :: _ => do
      let n ← number a
      if n = 0 then illegalNumber a
      pure n
    | [] => pure 1
  let n := min n (← get).loopDepth
  if 0 < n then modify fun s => { s with skip, skipCount := n }
  return 0

def return_ : Builtin := fun _ arguments => do
  let status ← match arguments with
    | a :: _ => number a
    | [] => pure (← get).status
  modify fun s => { s with skip := .return }
  return status

def become (i : Interpreter) (path : String) (arguments : List String) : Action Unit := do
  let _ ← Action.flush
  let environment := (← get).environment
  let e ← Action.routine (Routine.execute i.programs path arguments environment)
  let e ← if e = .execFormat && path ≠ "/bin/sh" then
      Action.routine (Routine.execute i.programs "/bin/sh" ("/bin/sh" :: path :: arguments.drop 1) environment)
    else pure e
  let missing := [SystemError.tooManyLinks, .nameTooLong, .noEntry, .notDirectory].contains e
  Action.complain (arguments.headD "" ++ ": " ++ Search.reason e)
  modify fun s => { s with status := if missing then 127 else 126 }
  throw .ended

def exec (i : Interpreter) : Builtin := fun _ arguments => do
  let (_, rest) ← options "" arguments
  match rest with
  | [] => return 0
  | name :: _ =>
    let path ← if name.toList.contains '/' then pure name else
      match ← Action.routine (Search.program name (← get).path) with
      | .program path => pure path
      | .missing e => do
        Action.complain (name ++ ": " ++ Search.reason e)
        modify fun s => { s with status := if e = .permissionDenied then 126 else 127 }
        throw .ended
      | _ => pure name
    become i path rest
    return 0

def ofName (i : Interpreter) (m : Manner) (name : String) : Builtin :=
  match name with
  | "." => dot i
  | ":" | "true" => fun _ _ => return 0
  | "false" => fun _ _ => return 1
  | "[" | "test" => test
  | "alias" => alias_
  | "bg" | "fg" => resume
  | "break" => leave .break
  | "cd" | "chdir" => cd
  | "command" => command
  | "continue" => leave .continue
  | "echo" => echo
  | "eval" => eval i m
  | "exec" => exec i
  | "exit" => exit
  | "export" => export_
  | "getopts" => getopts
  | "hash" => hash
  | "jobs" => jobs
  | "kill" => kill
  | "local" => local_
  | "printf" => printf
  | "pwd" => pwd
  | "read" => read
  | "readonly" => readonly
  | "return" => return_
  | "set" => set_
  | "shift" => shift
  | "times" => times
  | "trap" => trap
  | "type" => type
  | "ulimit" => ulimit
  | "umask" => umask
  | "unalias" => unalias
  | "unset" => unset
  | "wait" => wait
  | _ => fun _ _ => return 127

end Builtin

namespace Command

def atLine (line : Nat) : Action Unit :=
  modify fun s => { s with
    errorLine := line, line := if s.functionLine = 0 then line else line - (s.functionLine - 1) }

def hasTraps (s : State) : Bool := s.traps.any (·.2 ≠ "")

def firstFields (i : Interpreter) : List Word → Action (List String × List Word)
  | [] => return ([], [])
  | w :: ws => do
    match ← Words.fields i w with
    | [] => firstFields i ws
    | fields => return (fields, ws)

structure Resolved where
  fields : List String
  rest : List Word
  found : Option Found
  isSpecial : Bool := false
  ignoresFunctions : Bool := false
  path : Option String := none

def passOptions (i : Interpreter) : Nat → Resolved → Action (Option Resolved)
  | 0, _ => return none
  | fuel + 1, r => do
    let (next, rest) ← match r.fields.drop 1 with
      | [] => firstFields i r.rest
      | fields => pure (fields, r.rest)
    match next with
    | [] => return none
    | a :: more =>
      match a.toList with
      | ['-', '-'] =>
        let (next, rest) ← if more.isEmpty then firstFields i rest else pure (more, rest)
        return if next.isEmpty then none else some { r with fields := next, rest }
      | '-' :: c :: cs =>
        if (c :: cs).all (· = 'p') then
          passOptions i fuel { r with fields := "command" :: more, rest, path := some Builtin.standardPath }
        else return none
      | _ => return some { r with fields := next, rest }

def resolve (i : Interpreter) : Nat → (isFirst : Bool) → Resolved → Action Resolved
  | 0, _, r => return r
  | fuel + 1, isFirst, r => do
    let name := r.fields.headD ""
    let isFunction := ((← get).function? name).isSome && !r.ignoresFunctions && !name.toList.contains '/'
    if isFunction then return { r with found := some .function }
    if !Builtin.isBuiltin name then return { r with found := none }
    let r := { r with found := some .builtin, isSpecial := if isFirst then Builtin.isSpecial name else r.isSpecial }
    if name ≠ "command" then return r
    -- What follows the options is what the command is asked to run.
    match ← passOptions i (r.fields.length + r.rest.length + 1) r with
    | none => return { r with fields := (← allOf r), rest := [] }
    | some r => resolve i fuel false { r with ignoresFunctions := true }
where
  allOf (r : Resolved) : Action (List String) := do
    return r.fields ++ (← Words.allFields i r.rest)

def arguments (i : Interpreter) (r : Resolved) : Action (List String) := do
  let assigns := r.found = some .builtin && Builtin.assigns (r.fields.headD "")
  let more ← r.rest.mapM fun w =>
    if assigns && w.isAssignment then (fun a => [a]) <$> Words.assignment i w else Words.fields i w
  return r.fields ++ more.flatten

def trace (i : Interpreter) (assignments fields : List String) : Action Unit := do
  let s ← get
  if s.hasOption 'x' && !s.isTracing then
    modify fun s => { s with isTracing := true }
    let start ← match Grammar.quotedText.run { text := ((s.value? "PS4").getD "").toList, nextDocument := s.nextDocument } with
      | .ok (w, _) => Words.document i w
      | .error _ => pure []
    modify fun s => { s with isTracing := false }
    let kept := ((s.redirected.headD []).find? (·.1 = 2)).bind (·.2)
    let line := String.ofList start ++ " ".intercalate (assignments ++ fields) ++ "\n"
    let _ ← Action.routine (Routine.write (kept.getD 2) line.toList)

def runBuiltin (i : Interpreter) (m : Manner) (name : String) (arguments : List String) : Action Nat := do
  let outer := (← get).commandName
  modify fun s => { s with commandName := some name }
  Action.andFinally (do
    let status ← Builtin.ofName i m name name arguments
    let error ← Action.flush
    let status ← if error.isSome then do
        Action.complain (name ++ ": I/O error")
        pure (status ||| 1)
      else pure status
    modify fun s => { s with status }
    return status) (modify fun s => { s with commandName := outer })

def maxDepth : Nat := 1000

def runFunction (i : Interpreter) (m : Manner) (line : Nat) (body : Node) (arguments : List String) : Action Nat := do
  let s ← get
  if maxDepth ≤ s.functionDepth then
    Action.fail ("Maximum function recursion depth (" ++ toString maxDepth ++ ") reached")
  set { s with
    parameters := arguments, optionIndex := 1, optionOffset := none, functionLine := line
    loopDepth := 0, functionDepth := s.functionDepth + 1 }
  Action.andFinally (i.run body { isTested := m.isTested }) (modify fun t => { t with
    parameters := s.parameters, optionIndex := s.optionIndex, optionOffset := s.optionOffset
    functionLine := s.functionLine, loopDepth := s.loopDepth, functionDepth := s.functionDepth
    skip := if t.skip = .return then .none else t.skip })

def assign (isLocal exports : Bool) (text : String) : Action Unit := do
  match Builtin.split? text with
  | some (name, value) =>
    if isLocal then Builtin.makeLocal name (some value) true else Action.setVariable name value exports
  | none => pure ()

def perform (i : Interpreter) (m : Manner) (r : Resolved) (fields : List String) : Action Nat := do
  let name := fields.headD ""
  let found ← match r.found with
    | some found => pure found
    | none => Search.command name r.ignoresFunctions r.path
  match found with
  | .missing e => do
    Action.complain (name ++ ": " ++ Search.reason e)
    modify fun s => { s with status := 127 }
    return 127
  | .builtin => do
    match ← Action.outcome (runBuiltin i m name (fields.drop 1)) with
    | .ok status => return status
    | .error .error => if r.isSpecial then throw .error else return (← get).status
    | .error e => throw e
  | .function =>
    match (← get).function? name with
    | some (line, body) => do
      let _ ← runFunction i m line body (fields.drop 1)
      return (← get).status
    | none => return 127
  | .program path => do
    if m.isLast && !hasTraps (← get) then
      Builtin.become i path fields
      return 0
    else
      let n ← Job.make name
      let _ ← Job.start i n .foreground (Builtin.become i path fields)
      Job.waitFor n

def duration : Nat := 10

def simple (i : Interpreter) (m : Manner) (line : Nat) (assignments words : List Word) (redirects : List Redirect) :
    Action Nat := do
  Routine.work duration
  atLine line
  modify fun s => { s with substitutionStatus := 0 }
  let (fields, rest) ← firstFields i words
  let r ← if fields.isEmpty then pure { fields, rest, found := none } else
    resolve i (words.length + fields.length + 1) true { fields, rest, found := none }
  let fields ← arguments i r
  let isLocal := !fields.isEmpty && !r.isSpecial
  let isExec := r.found = some .builtin && fields.head? = some "exec"
  let depth := (← get).redirected.length
  let frames := (← get).frames.length
  if isLocal then modify fun s => { s with frames := [] :: s.frames }
  let targets ← redirects.mapM (Redirection.target i)
  Redirection.push
  let failed ← Redirection.attempt i targets
  let status ← if failed ≠ 0 then do
      modify fun s => { s with status := failed }
      if r.isSpecial then throw .error
      pure failed
    else do
      let texts ← assignments.mapM fun w => do
        let text ← Words.assignment i w
        assign isLocal (isExec && 1 < fields.length) text
        return text
      trace i texts fields
      if fields.isEmpty then
        let status := (← get).substitutionStatus
        modify fun s => { s with status }
        pure status
      else perform i m r fields
  Redirection.unwind Routine.rounds (depth + 1)
  Redirection.pop isExec
  restoreFrames frames
  return status
where
  restoreFrames (count : Nat) : Action Unit := do
    let s ← get
    let gone := s.frames.take (s.frames.length - count)
    set { s with frames := s.frames.drop (s.frames.length - count) }
    Action.forEach gone Builtin.restore

end Command
end SnippetLab.Shell
