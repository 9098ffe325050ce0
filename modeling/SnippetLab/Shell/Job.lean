import SnippetLab.Shell.Action

/-! Processes that a shell starts and waits for. -/
namespace SnippetLab.Shell.Job

open SnippetLab.Machine

inductive Place
  | foreground
  /-- Without the signals of the keyboard, and with nothing to read if it is the first of its job. -/
  | background (isFirst : Bool)
  | substitution
  deriving DecidableEq, Repr

def handle (n : Nat) (ignores catches : Bool) : Routine Unit :=
  Routine.change fun pid k => k.setHandling pid n ignores catches

/-- A fresh process forgets traps, except that signals which were let pass still are. -/
def clearTraps : Action Unit := do
  let s ← get
  Action.forEach (s.traps.filter fun t => t.2 ≠ "" && t.1 ≠ 0) fun t => handle t.1 false false
  set { s with traps := s.traps.filter fun t => t.2 = "" }

def startChild (place : Place) : Action Unit := do
  clearTraps
  match (← get).scriptDescriptor with
  | some fd => Routine.close fd
  | none => pure ()
  modify fun s => { s with isSubshell := true, jobs := [], scriptDescriptor := none }
  match place with
  | .background isFirst =>
    handle Signal.interrupt true false
    handle Signal.quit true false
    if isFirst then
      Routine.close 0
      let _ ← Action.routine (Routine.openPath "/dev/null" .input)
  | _ => pure ()

def statusOf : ExitStatus → Nat
  | .code n => n
  | .signal n => Signal.status n

def freeNumber (s : State) : Nat := ((List.range (s.jobs.length + 1)).map (· + 1)).find? (fun n =>
  s.jobs.all (·.number ≠ n)) |>.getD 1

def make (text : String) : Action Nat := do
  modify fun s => { s with jobs := s.jobs.filter fun j => !(j.isTold && j.isDone && !j.pids.isEmpty) }
  let n := freeNumber (← get)
  modify fun s => { s with jobs := { number := n, pids := [], text } :: s.jobs }
  return n

def update (n : Nat) (f : Job → Job) : Action Unit :=
  modify fun s => { s with jobs := s.jobs.map fun j => if j.number = n then f j else j }

def find? (n : Nat) : Action (Option Job) := return (← get).jobs.find? (·.number = n)

def drop (n : Nat) : Action Unit := modify fun s => { s with jobs := s.jobs.filter (·.number ≠ n) }

def start (i : Interpreter) (n : Nat) (place : Place) (body : Action Unit) : Action Pid := do
  let _ ← Action.flush
  let child ← Action.fork (i.whole do
    startChild place
    body)
  update n fun j => { j with pids := j.pids ++ [child] }
  match place with
  | .background _ =>
    modify fun s => { s with lastBackground := some child }
    update n fun j => { j with isBackground := true }
  | _ => pure ()
  return child

def endedChildren (k : Kernel) (pid : Pid) : List (Pid × ExitStatus) :=
  (k.children pid).filterMap fun c => (k.status? c).map (c, ·)

def notice (status : ExitStatus) : Option String :=
  match status with
  | .signal n => Signal.notice? n
  | .code _ => none

def record (child : Pid) (status : ExitStatus) : Action (Option Nat) := do
  let owner := (← get).jobs.find? fun j => j.pids.contains child && (j.ended.lookup child).isNone
  match owner with
  | some j =>
    update j.number fun j => { j with ended := (child, status) :: j.ended }
    return some j.number
  | none => return none

def reap (awaited : Option Nat) (child : Pid) (status : ExitStatus) : Action Unit := do
  Routine.change fun _ k => k.reap child
  let owner ← record child status
  if owner.isSome && owner = awaited then
    match notice status with
    | some text => Action.routine (Routine.complain (text ++ "\n"))
    | none => pure ()

def reapAll (awaited : Option Nat) : Action Unit := do
  let ended ← Action.routine (Routine.query fun pid k => endedChildren k pid)
  Action.forEach ended fun (c, status) => reap awaited c status

def waitFor (n : Nat) : Action Nat := do
  Action.iterate () (fun () => do
    match ← find? n with
    | none => return .inr ()
    | some j =>
      if j.isDone then return .inr ()
      Routine.await fun pid k => !(endedChildren k pid).isEmpty || (k.children pid).isEmpty
      match ← Action.routine (Routine.query fun pid k => endedChildren k pid) with
      | (c, status) :: _ => do
        reap (some n) c status
        return .inl ()
      | [] => return .inr ()) Routine.rounds ()
  let status := ((← find? n).map fun j => statusOf j.ending).getD 0
  drop n
  return status

end SnippetLab.Shell.Job
