import SnippetLab.Shell.Builtin.Arguments
import SnippetLab.Shell.Job

/-! Commands for processes and signals. -/
namespace SnippetLab.Shell.Builtin

open SnippetLab.Machine

/-! Jobs -/

def jobOf (name : Option String) : Action Job := do
  let s ← get
  let orFail (j : Option Job) (text : String) : Action Job := match j with
    | some j => return j
    | none => Action.fail text
  match name.map String.toList with
  | none | some ['%'] | some ['%', '+'] | some ['%', '%'] => orFail s.jobs.head? "No current job"
  | some ['%', '-'] => orFail s.jobs[1]? "No previous job"
  | some cs =>
    let text := String.ofList cs
    let n := if cs.head? = some '%' then (String.ofList (cs.drop 1)).toNat? else none
    orFail (n.bind fun n => s.jobs.find? (·.number = n)) ("No such job: " ++ text)

def stateText (j : Job) : String :=
  if !j.isDone then "Running"
  else match j.ending with
    | .code 0 => "Done"
    | .code n => "Done(" ++ toString n ++ ")"
    | .signal n => (Signal.description n)

def showJob (letter : Option Char) (j : Job) : Action Unit := do
  if letter = some 'p' then Action.print (toString (j.pids.headD 0) ++ "\n")
  else
    let s ← get
    let mark := if (s.jobs.head?.map (·.number)) = some j.number then "+"
      else if (s.jobs[1]?.map (·.number)) = some j.number then "-" else " "
    let pid := if letter = some 'l' then toString (j.pids.headD 0) ++ " " else ""
    let start := "[" ++ toString j.number ++ "] " ++ mark ++ " " ++ pid ++ stateText j
    let line := start ++ "".pushn ' ' (max 1 (33 - start.length))
    let rest := if letter = some 'l' then
        String.join (j.pids.drop 1 |>.map fun p => " |\n" ++ "".pushn ' ' 6 ++ toString p ++ "".pushn ' ' 20)
      else String.join (j.pids.drop 1 |>.map fun _ => " | ")
    Action.print (line ++ rest ++ "\n")
    if j.isDone then Job.drop j.number

def jobs : Builtin := fun _ arguments => do
  let (found, rest) ← options "lp" arguments
  Job.reapAll none
  let letter := found.getLast?.map (·.1)
  if rest.isEmpty then Action.forEach (← get).jobs (showJob letter)
  else Action.forEach rest fun a => do showJob letter (← jobOf (some a))
  return 0

def resume : Builtin := fun _ arguments => do
  let (_, rest) ← options "" arguments
  let j ← jobOf rest.head?
  Action.fail ("job " ++ rest.head?.getD "(null)" ++ " not created under job control") <* pure j

/-- How long a process needs to wake up, in microseconds. What happens meanwhile, it sees at once. -/
def wakeTime : Nat := 200

def awaitJob (awaited : Option Nat) (isOver : State → Bool) : Action (Option Nat) :=
  Action.iterate none (fun () => do
    if isOver (← get) then return .inr none
    Routine.await fun pid k => !(Job.endedChildren k pid).isEmpty || (k.children pid).isEmpty || k.hasPending pid
    match ← Action.routine (Routine.query fun pid k => ((k.process? pid).map (·.pending)).getD []) with
    | n :: _ =>
      Action.routine (Routine.spend wakeTime)
      Job.reapAll awaited
      return if isOver (← get) then .inr none else .inr (some n)
    | [] =>
      if ← Action.routine (Routine.query fun pid k => (k.children pid).isEmpty) then return .inr none
      Job.reapAll awaited
      return .inl ()) Routine.rounds ()

def waitEach : Nat → List String → Action Nat
  | status, [] => return status
  | _, a :: rest => do
    let j ← if a.toList.head? = some '%' then some <$> jobOf (some a) else do
      let pid ← number a
      pure ((← get).jobs.find? fun j => j.pids.getLast? = some pid)
    match j with
    | none => waitEach 127 rest
    | some j =>
      match ← awaitJob (some j.number) fun s => s.jobs.all fun k => k.number ≠ j.number || k.isDone with
      | some n => return Signal.status n
      | none =>
        Job.update j.number fun j => { j with isTold := true }
        let status := ((← Job.find? j.number).map fun j => Job.statusOf j.ending).getD 0
        waitEach status rest

def wait : Builtin := fun _ arguments => do
  let (_, rest) ← options "" arguments
  if rest.isEmpty then
    match ← awaitJob none fun s => s.jobs.all (·.isDone) with
    | some n => return Signal.status n
    | none =>
      modify fun s => { s with jobs := s.jobs.map fun j => { j with isTold := true } }
      return 0
  else waitEach 0 rest

/-! Signals -/

def killUsage : Action α :=
  Action.fail "Usage: kill [-s sigspec | -signum | -sigspec] [pid | job]... or\nkill -l [exitstatus]"

def signalOf? (text : String) (least : Nat) : Option Nat :=
  (Signal.number? text).filter fun n => least ≤ n || text.toList.all Char.isDigit

def listSignals (rest : List String) : Action Nat := do
  match rest with
  | [] => do
    Action.print "0\n"
    Action.forEach ((List.range Signal.lastReal).map (· + 1)) fun n => Action.print ((Signal.name? n).getD "" ++ "\n")
    return 0
  | a :: _ => do
    let n ← number a
    match Signal.name? (if 128 < n then n - 128 else n) with
    | some name => do
      Action.print (name ++ "\n")
      return 0
    | none => Action.fail ("invalid signal number or exit status: " ++ a)

def sendAll (signal : Nat) : Nat → List String → Action Nat
  | status, [] => return status
  | status, a :: rest => do
    let target : Option Pid ← match a.toList with
      | '%' :: _ => do
        let _ ← jobOf (some a)
        pure none
      | '-' :: cs => do
        let _ ← number (String.ofList cs)
        pure none
      | _ => some <$> number a
    let error ← match target with
      | some 0 => Action.routine (Routine.attempt fun pid k => k.signal pid signal)
      | some target => Action.routine (Routine.attempt fun _ k => k.signal target signal)
      | none => pure (some .noProcess)
    match error with
    | some e => do
      Action.complain (e.text ++ "\n")
      sendAll signal 1 rest
    | none => sendAll signal status rest

def kill : Builtin := fun _ arguments => do
  match arguments with
  | [] => killUsage
  | a :: rest =>
    let (lists, signal, targets) ← if a.toList.head? = some '-' then
        match signalOf? (String.ofList (a.toList.drop 1)) 1 with
        | some n => pure (false, some n, rest)
        | none => do
          let (found, rest) ← options "ls:" arguments
          let signal ← match (found.filter (·.1 = 's')).getLast? with
            | some (_, value) =>
              match signalOf? value 1 with
              | some n => pure (some n)
              | none => Action.fail ("invalid signal number or name: " ++ value)
            | none => pure none
          pure (found.any (·.1 = 'l'), signal, rest)
      else pure (false, none, arguments)
    if lists then if signal.isSome then killUsage else listSignals targets
    else if targets.isEmpty then killUsage
    else sendAll (signal.getD Signal.terminate) 0 targets

def showTraps : Action Unit := do
  let s ← get
  Action.forEach (List.range (Signal.lastReal + 1)) fun n => match s.traps.lookup n with
    | some action =>
      Action.print ("trap -- " ++ quoted action ++ " " ++ (if n = 0 then "EXIT" else (Signal.name? n).getD "") ++ "\n")
    | none => pure ()

/-- Sets what is done about a signal; signals that were let pass from the start stay so. -/
def setTrap (action : Option String) (n : Nat) : Action Unit := do
  modify fun s => { s with traps := s.traps.filter (·.1 ≠ n) ++ (action.map fun a => [(n, a)]).getD [] }
  if n ≠ 0 && !(← get).ignored.contains n then
    Action.routine (Job.handle n (action = some "") (action.any (· ≠ "")))

def setTraps (action : Option String) : List String → Action Nat
  | [] => return 0
  | a :: rest => do
    match signalOf? a 0 with
    | some n => do
      setTrap action n
      setTraps action rest
    | none => do
      Action.routine (Routine.complain ("trap: " ++ a ++ ": bad trap\n"))
      return 1

def trap : Builtin := fun _ arguments => do
  let (_, rest) ← options "" arguments
  match rest with
  | [] => do
    showTraps
    return 0
  | [a] => setTraps none [a]
  | a :: signals =>
    if a.toList.all Char.isDigit && (signalOf? a 0).isSome then setTraps none rest
    else setTraps (if a = "-" then none else some a) signals

def times : Builtin := fun _ _ => do
  Action.print "0m0.000000s 0m0.000000s\n0m0.000000s 0m0.000000s\n"
  return 0

def ulimit : Builtin := fun _ arguments => do
  let (found, rest) ← options "HSatfdsmcnpvlwr" arguments
  if rest.isEmpty then
    Action.print (if (found.getLast?.map (·.1)) = some 'c' then "0\n" else "unlimited\n")
  return 0

end SnippetLab.Shell.Builtin
