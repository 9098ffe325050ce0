import SnippetLab.Shell.Command

/-! Running scripts: compound commands, traps and the end of a shell. -/
namespace SnippetLab.Shell.Run

open SnippetLab.Machine

/-! Traps -/

def runTrap (i : Interpreter) (action : String) : Action Unit := do
  let s ← get
  let saved := s.savedStatus
  let status := saved.getD s.status
  set { s with savedStatus := some status }
  let _ ← i.runText action {}
  modify fun s => { s with savedStatus := saved, status := if s.skip = .return then s.status else status }

def runTraps (i : Interpreter) : Action Unit := do
  let s ← get
  if s.traps.any (fun t => t.1 ≠ 0 && t.2 ≠ "") && s.skip = .none then
    let pending ← Action.routine (Routine.lift fun pid k =>
      (((k.process? pid).map (·.pending)).getD [], k.modify pid fun p => { p with pending := [] }))
    Action.forEach (pending.mergeSort fun a b => a ≤ b) fun n => do
      match (← get).traps.lookup n with
      | some action => if action ≠ "" then runTrap i action
      | none => pure ()

/-! The end -/

def reset (isExit : Bool) : Action Unit := do
  Redirection.unwind Routine.rounds 0
  modify fun s => { s with
    skip := .none, loopDepth := 0, isTracing := false
    status := if isExit then s.savedStatus.getD s.status else s.status
    savedStatus := none }

def isExit : Except Abort α → Bool
  | .error .exit => true
  | _ => false

def whole (i : Interpreter) (body : Action Unit) : Action Unit := do
  let result ← Action.outcome body
  reset (isExit result)
  let s ← get
  match s.traps.lookup 0 with
  | some action => do
    set { s with traps := s.traps.filter (·.1 ≠ 0), savedStatus := some s.status }
    let result ← Action.outcome (i.runText action {})
    reset (isExit result || result.isOk)
  | none => pure ()
  let _ ← Action.flush
  Action.exitNow (← get).status

/-! Compound commands -/

/-- What a loop does about a wish to leave it or to go on: yields whether it ends. -/
def leaves : Action Skip := do
  let s ← get
  match s.skip with
  | .break | .continue =>
    let skip := s.skip
    let count := s.skipCount - 1
    set { s with skipCount := count, skip := if count = 0 then .none else skip }
    return if count = 0 then skip else .break
  | skip => return skip

def setStatus (status : Nat) : Action Nat := do
  modify fun s => { s with status }
  return status

def inLoop (body : Action Nat) : Action Nat := do
  modify fun s => { s with loopDepth := s.loopDepth + 1 }
  let status ← body
  modify fun s => { s with loopDepth := s.loopDepth - 1 }
  return status

def each (i : Interpreter) (m : Manner) (line : Nat) (name : String) (words : List Word) (body : Node) : Action Nat := do
  Command.atLine line
  let items ← Words.allFields i words
  inLoop (go 0 items)
where
  go : Nat → List String → Action Nat
    | status, [] => return status
    | _, item :: items => do
      Builtin.checkName name
      Action.setVariable name item
      let status ← i.run body { isTested := m.isTested }
      match ← leaves with
      | .none | .continue => go status items
      | _ => return status

def loop (i : Interpreter) (m : Manner) (until_ : Bool) (test body : Node) : Action Nat :=
  inLoop (Action.iterate 0 (fun status => do
    let tested ← i.run test { isTested := true }
    match ← leaves with
    | .continue => return .inl status
    | .return => return .inr tested
    | .break => return .inr status
    | .none =>
      if (tested = 0) = until_ then return .inr status
      let status ← i.run body { isTested := m.isTested }
      match ← leaves with
      | .none | .continue => return .inl status
      | _ => return .inr status) Routine.rounds 0)

def matchesSome (i : Interpreter) (text : List Char) : List Word → Action Bool
  | [] => return false
  | w :: ws => do
    if Pattern.accepts (← Words.pattern i w) text then return true else matchesSome i text ws

def choice (i : Interpreter) (m : Manner) (line : Nat) (subject : Word) (cases : List (List Word × Option Node)) :
    Action Nat := do
  Command.atLine line
  let text ← Words.text i subject
  go text.toList cases
where
  go (text : List Char) : List (List Word × Option Node) → Action Nat
    | [] => return 0
    | (patterns, body) :: cases => do
      if ← matchesSome i text patterns then
        match body with
        | some body => i.run body m
        | none => return 0
      else go text cases

def subshell (i : Interpreter) (m : Manner) (line : Nat) (body : Node) (redirects : List Redirect)
    (inBackground : Bool) : Action Nat := do
  Command.atLine line
  let targets ← redirects.mapM (Redirection.target i)
  let run (m : Manner) : Action Unit := do
    Redirection.applyAll i false targets
    let _ ← i.run body { m with isLast := true }
  if !inBackground && m.isLast && !Command.hasTraps (← get) then
    run m
    return (← get).status
  else
    let n ← Job.make ""
    if inBackground then
      let _ ← Job.start i n (.background true) (run {})
      return 0
    else
      let _ ← Job.start i n .foreground (run m)
      Job.waitFor n

def connect (input : Option Nat) (output : Option (Nat × Nat)) : Action Unit := do
  match output with
  | some (r, _) => Routine.close r
  | none => pure ()
  match input with
  | some fd => if fd ≠ 0 then Action.routine (Redirection.move fd 0)
  | none => pure ()
  match output with
  | some (_, w) => if w ≠ 1 then Action.routine (Redirection.move w 1)
  | none => pure ()

def remember : Node → Action Unit
  | .simple _ _ (w :: _) _ =>
    match Word.plain? w with
    | some name => if isName name then do let _ ← Search.command name false none else pure ()
    | none => pure ()
  | _ => pure ()

def pipe (i : Interpreter) (m : Manner) (commands : List Node) (inBackground : Bool) : Action Nat := do
  let n ← Job.make ""
  go n true none commands
  if inBackground then return 0 else Job.waitFor n
where
  go (n : Nat) (isFirst : Bool) (input : Option Nat) : List Node → Action Unit
    | [] => pure ()
    | node :: rest => do
      remember node
      let output ← if rest.isEmpty then pure none else
        some <$> Action.routine (Routine.lift fun pid k => let (r, w, k) := k.makePipe pid; ((r, w), k))
      let place := if inBackground then Job.Place.background isFirst else .foreground
      let _ ← Job.start i n place do
        connect input output
        let _ ← i.run node { m with isLast := true }
      match input with
      | some fd => Routine.close fd
      | none => pure ()
      match output with
      | some (r, w) => do
        Routine.close w
        go n false (some r) rest
      | none => pure ()

def redirected (i : Interpreter) (m : Manner) (line : Nat) (body : Node) (redirects : List Redirect) : Action Nat := do
  Command.atLine line
  let targets ← redirects.mapM (Redirection.target i)
  Redirection.push
  let failed ← Redirection.attempt i targets
  let status ← if failed ≠ 0 then pure failed else i.run body { isTested := m.isTested }
  Redirection.pop false
  return status

/-- The status of a node, and whether its failure counts. -/
def node (i : Interpreter) (m : Manner) : Node → Action (Nat × Bool)
  | .negated body => do
    let status ← i.run body { isTested := true }
    return (← setStatus (if status = 0 then 1 else 0), false)
  | .redirected line body redirects => do return (← setStatus (← redirected i m line body redirects), false)
  | .simple line assignments words redirects => do
    return (← setStatus (← Command.simple i m line assignments words redirects), true)
  | .each line name words body => do return (← setStatus (← each i m line name words body), false)
  | .loop until_ test body => do return (← setStatus (← loop i m until_ test body), false)
  | .subshell line body redirects => do return (← setStatus (← subshell i m line body redirects false), true)
  | .background line body redirects => do return (← setStatus (← subshell i m line body redirects true), true)
  | .pipe commands inBackground => do return (← setStatus (← pipe i m commands inBackground), true)
  | .choice line subject cases => do return (← setStatus (← choice i m line subject cases), false)
  | .sequence a b => do
    let status ← i.run a { isTested := m.isTested }
    if (← get).skip ≠ .none then return (status, false)
    return (← setStatus (← i.run b m), false)
  | .both a b => do
    let status ← i.run a { isTested := true }
    if status ≠ 0 || (← get).skip ≠ .none then return (status, false)
    return (← setStatus (← i.run b m), false)
  | .either a b => do
    let status ← i.run a { isTested := true }
    if status = 0 || (← get).skip ≠ .none then return (status, false)
    return (← setStatus (← i.run b m), false)
  | .branch test yes no => do
    let status ← i.run test { isTested := true }
    if (← get).skip ≠ .none then return (status, false)
    if status = 0 then return (← setStatus (← i.run yes m), false)
    match no with
    | some no => return (← setStatus (← i.run no m), false)
    | none => return (← setStatus 0, false)
  | .define line name body => do
    modify fun s => { s with functions := (name, line, body) :: s.functions.filter (·.1 ≠ name) }
    return (← setStatus 0, false)

def run (i : Interpreter) (n : Node) (m : Manner) : Action Nat := do
  let s ← get
  let (status, counts) ← if s.hasOption 'n' then pure (s.status, false) else do
    runTraps i
    let result ← node i m n
    runTraps i
    pure result
  if counts && !m.isTested && status ≠ 0 && (← get).hasOption 'e' then throw .ended
  if m.isLast then throw .ended
  return status

def interpreter (programs : Library) : (depth : Nat) → Interpreter
  | 0 => ⟨programs, fun _ _ => throw .ended, fun _ _ => throw .ended, fun body => body⟩
  | depth + 1 =>
    { programs
      run := fun n m => run (interpreter programs depth) n m
      runText := fun text m => Reader.runText (interpreter programs depth) text m
      whole := fun body => whole (interpreter programs depth) body }

end SnippetLab.Shell.Run
