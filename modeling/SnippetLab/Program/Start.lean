import SnippetLab.Program.Console
import SnippetLab.Text.Real

/-! Programs that start others, wait, or send signals. -/
namespace SnippetLab.Program

open SnippetLab.Machine SnippetLab.Text

/-! Durations -/

def duration? (s : String) : Option Nat :=
  let cs := s.toList.dropWhile CharClass.isSpace
  let cs := if cs.head? = some '+' then cs.drop 1 else cs
  let (ds, places, rest) := Real.readDigits Char.isDigit cs
  let (e, rest) := Real.readExponent 'e' rest
  let unit : Option Nat := match rest with
    | [] | ['s'] => some 1
    | ['m'] => some 60
    | ['h'] => some 3600
    | ['d'] => some 86400
    | _ => none
  if cs.map Char.toLower = "inf".toList || cs.map Char.toLower = "infinity".toList then some (Nat.pow 10 18)
  else if ds.isEmpty then none
  else unit.map fun u =>
    let n := (String.ofList ds).toNat?.getD 0 * u * 1000000 * Nat.pow 10 (min 20 e.toNat)
    let down := Nat.pow 10 (places + (-e).toNat)
    min (Nat.pow 10 18) ((n + down - 1) / down)

def sleep : Program := fun i => do
  let c ← chosen i []
  if c.operands.isEmpty then missingOperand i
  let bad := c.operands.filter fun s => (duration? s).isNone
  if !bad.isEmpty then
    Routine.forEach bad fun s => complain i ("invalid time interval " ++ Quote.literal s)
    hint i
    return 1
  Routine.spend ((c.operands.filterMap duration?).foldl (· + ·) 0)
  return 0

/-! Other programs -/

def becomeOther (library : Library) (i : Invocation) (command : List String) (environment : List String)
    (say : String → SystemError → String) : Routine Nat := do
  let name := command.headD ""
  let path := (Environment.get? environment "PATH").getD (":".intercalate Image.searchPath)
  let e ← Routine.executeFound library (Environment.directories path) name command environment
  complain i (say name e)
  return if e = .noEntry then 127 else 126

def withEntry (environment : List String) (entry : String) : List String :=
  let name := (Environment.split entry).1
  if environment.any fun e => (Environment.split e).1 = name then
    environment.map fun e => if (Environment.split e).1 = name then entry else e
  else environment ++ [entry]

namespace Env

def switches : List Switch :=
  Switch.letters "iu:0C:S:v" ++ Switch.words [("i", "ignore-environment"), ("u", "unset="), ("0", "null"),
    ("C", "chdir="), ("S", "split-string="), ("v", "debug")]

def program (library : Library) : Program := fun i => do
  let c ← chosen i switches 125 true
  let operands := if c.operands.head? = some "-" then c.operands.drop 1 else c.operands
  let start := if c.has "i" || c.operands.head? = some "-" then [] else i.environment
  for name in c.all "u" do
    if name.isEmpty || name.toList.contains '=' then
      die i ("cannot unset " ++ Quote.literal name ++ ": Invalid argument") 125
  let start := start.filter fun e => !(c.all "u").contains (Environment.split e).1
  let settings := operands.takeWhile fun a => a.toList.contains '='
  let environment := settings.foldl withEntry start
  let command := operands.drop settings.length
  match c.last? "C" with
  | some d =>
    if command.isEmpty then misuse i "must specify command with --chdir (-C)" 125
    match ← Routine.attempt fun pid k => k.enter pid d with
    | some e => die i ("cannot change directory to " ++ Quote.always d ++ ": " ++ e.text) 125
    | none => pure ()
  | none => pure ()
  if command.isEmpty then
    put i (environment.flatMap fun e => e.toList ++ [if c.has "0" then '\x00' else '\n'])
    return 0
  becomeOther library i command environment fun name e => Quote.literal name ++ ": " ++ e.text

end Env

def printenv : Program := fun i => do
  let c ← chosen i (Switch.letters "0" ++ Switch.words [("0", "null")]) 2 true
  let mark := if c.has "0" then '\x00' else '\n'
  if c.operands.isEmpty then
    put i (i.environment.flatMap fun e => e.toList ++ [mark]) 2
    return 0
  let found := c.operands.map (Environment.get? i.environment)
  put i ((found.filterMap id).flatMap fun v => v.toList ++ [mark]) 2
  return if found.all Option.isSome then 0 else 1

namespace Timeout

def switches : List Switch :=
  Switch.letters "k:s:v" ++ Switch.words [("k", "kill-after="), ("s", "signal="), ("v", "verbose"),
    ("p", "preserve-status"), ("f", "foreground")]

def family (k : Kernel) : (fuel : Nat) → Pid → List Pid
  | 0, _ => []
  | fuel + 1, pid => (k.children pid).flatMap fun c => c :: family k fuel c

def signalAll (group : Bool) (child : Pid) (n : Nat) : Routine Unit :=
  Routine.change fun _ k =>
    let others := if group then family k 100 child else []
    (child :: others).foldl (fun k pid =>
      let k := (k.signal pid n).toOption.getD k
      if n = Signal.kill || n = Signal.resume then k else (k.signal pid Signal.resume).toOption.getD k) k

def waitUpTo (child : Pid) (limit : Option Nat) : Routine Bool := do
  let now ← Routine.query fun _ k => k.clock
  Routine.await (fun pid k => !k.isAlive child || k.hasPending pid) (limit.map (now + ·))
  Routine.query fun _ k => !k.isAlive child

def readDuration (i : Invocation) (s : String) : Routine Nat := do
  match duration? s with
  | some d => return d
  | none => misuse i ("invalid time interval " ++ Quote.literal s) 125

def program (library : Library) : Program := fun i => do
  let c ← chosen i switches 125 true
  let signal ← match c.last? "s" with
    | none => pure Signal.terminate
    | some s =>
      match Signal.number? (if s.startsWith "SIG" then String.ofList (s.toList.drop 3) else s) with
      | some n => pure n
      | none => misuse i (Quote.literal s ++ ": invalid signal") 125
  let killAfter ← match c.last? "k" with
    | none => pure none
    | some s => do pure (some (← readDuration i s))
  match c.operands with
  | [] | [_] => tooFew i
  | limit :: command =>
    let limit ← readDuration i limit
    let pid ← Routine.fork do
      let status ← becomeOther library i command i.environment fun name e =>
        "failed to run command " ++ Quote.literal name ++ ": " ++ e.text
      Routine.exitCode status
    Routine.change fun pid k => k.setHandling pid Signal.terminate false true
    let ended ← waitUpTo pid (if limit = 0 then none else some limit)
    if ended then
      match ← Routine.waitFor pid with
      | .code n => return n
      | .signal n => do
        Routine.change fun pid k => k.setHandling pid n false false
        Routine.change fun pid k => k.raise pid n
        return Signal.status n
    let told ← Routine.query fun pid k => k.hasPending pid
    let sent := if told then Signal.terminate else signal
    let name := (Signal.name? sent).getD ""
    if c.has "v" then complain i ("sending signal " ++ name ++ " to command " ++ Quote.literal (command.headD ""))
    signalAll (!c.has "f") pid sent
    Routine.change fun pid k => k.modify pid fun p => { p with pending := [] }
    let ended ← match killAfter with
      | some d => waitUpTo pid (some d)
      | none => pure true
    if !ended then
      if c.has "v" then complain i ("sending signal KILL to command " ++ Quote.literal (command.headD ""))
      signalAll (!c.has "f") pid Signal.kill
      if !c.has "f" then Routine.exit (.signal Signal.kill)
    if sent = Signal.kill && !c.has "f" then Routine.exit (.signal Signal.kill)
    let status ← Routine.waitFor pid
    let code := match status with
      | .code n => n
      | .signal n => Signal.status n
    return if told then Signal.status Signal.terminate else if c.has "p" || code = Signal.status Signal.kill then code else 124
where
  tooFew (i : Invocation) : Routine Nat := do
    hint i
    return 125

end Timeout

/-! Signals -/

def kill : Program := fun i => do
  let send (signal : Nat) (targets : List String) : Routine Nat := do
    let rec go (status : Nat) : List String → Routine Nat
      | [] => return status
      | t :: ts => do
        match t.toInt? with
        | none => do
          complain i ("failed to parse argument: '" ++ t ++ "'")
          go 1 ts
        | some pid =>
          match ← Routine.attempt fun _ k => k.signal pid.natAbs signal with
          | none => go status ts
          | some e => do
            complain i ("(" ++ t ++ "): " ++ e.text)
            go 1 ts
    go 0 targets
  let named (s : String) : Option Nat :=
    Signal.number? (if s.startsWith "SIG" then String.ofList (s.toList.drop 3) else s)
  match i.arguments with
  | [] => do
    Routine.complain "\nUsage:\n kill [options] <pid> [...]\n"
    return 1
  | "-l" :: n :: _ => do
    match n.toNat? with
    | some n => putText i ((Signal.name? (if 128 < n then n - 128 else n)).getD (toString n) ++ "\n")
    | none => putText i (((named n).elim n toString) ++ "\n")
    return 0
  | "-s" :: s :: rest | "--signal" :: s :: rest =>
    match named s with
    | some n => send n rest
    | none => die i ("unknown signal name " ++ s)
  | "--" :: rest => send Signal.terminate rest
  | a :: rest =>
    match a.toList with
    | '-' :: cs =>
      match named (String.ofList cs) with
      | some n => send n (if rest.head? = some "--" then rest.drop 1 else rest)
      | none => die i ("unknown signal name " ++ String.ofList cs)
    | _ => send Signal.terminate i.arguments

end SnippetLab.Program
