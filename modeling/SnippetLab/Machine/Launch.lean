import SnippetLab.Lab.Run
import SnippetLab.Machine.Program
import SnippetLab.Machine.Routine

/-!
Running threads side by side. Each has its own place in time; the one that is furthest behind goes next, so
that processes work at once. A deadline passes when nothing else happens before it.
-/
namespace SnippetLab.Machine

structure Slot where
  pid : Pid
  due : Nat
  thread : Thread

namespace Schedule

def stepTime : Nat := 2

def startTime : Nat := 200

def next? (k : Kernel) (s : Slot) : Option Nat :=
  if (k.process? s.pid).any (·.stopped) then none
  else match s.thread with
    | .await ready deadline _ => if ready k then some (max s.due k.clock) else deadline.map (max s.due)
    | _ => some s.due

def choose (k : Kernel) (slots : List Slot) : Option (Nat × Slot × List Slot) :=
  let timed := slots.filterMap fun s => (next? k s).map (·, s)
  match timed with
  | [] => none
  | first :: rest =>
    let (time, s) := rest.foldl (fun best e => if e.1 < best.1 then e else best) first
    some (time, s, slots.filter fun o => o.pid ≠ s.pid)

def living (k : Kernel) (slots : List Slot) : List Slot := slots.filter fun s => k.isAlive s.pid

def step (k : Kernel) (s : Slot) : Kernel × List Slot :=
  match s.thread with
  | .done => (k.finish s.pid (.code 0), [])
  | .act run =>
    let (k', thread) := run k
    (k', [{ s with due := k'.clock + stepTime, thread }])
  | .await _ _ thread => (k, [{ s with due := k.clock, thread }])
  | .fork child body next =>
    (k, [{ s with due := k.clock + stepTime, thread := next }, ⟨child, k.clock + startTime, body⟩])

def run (stop : Kernel → Bool) (horizon : Kernel → Option Nat) : (fuel : Nat) → Kernel → List Slot → Kernel × List Slot
  | 0, k, slots => (k, slots)
  | fuel + 1, k, slots =>
    if stop k then (k, slots)
    else match choose k slots with
      | none => (k, slots)
      | some (time, s, others) =>
        match horizon k with
        | some limit => if limit < time then ({ k with clock := max k.clock limit }, slots) else go fuel k time s others
        | none => go fuel k time s others
where
  go (fuel : Nat) (k : Kernel) (time : Nat) (s : Slot) (others : List Slot) : Kernel × List Slot :=
    let k := { k with clock := max k.clock time }
    let (k', more) := step k s
    let slots := others ++ more
    run stop horizon fuel k' (if k'.ended = k.ended then slots else living k' slots)

end Schedule
end SnippetLab.Machine

/-!
Starting a program on a machine in memory: a file tree with programs and devices on it. What the program and
its children do until its output is closed is worked out at once.
-/
namespace SnippetLab.Machine

namespace Launch

def programDirectory : Place := ["usr", "bin"]

def devices : List (String × Device) :=
  [("null", .null), ("zero", .zero), ("full", .full), ("random", .random), ("urandom", .random), ("tty", .terminal)]

def install (names : List String) (t : FileTree) (now : Int) : FileTree :=
  let directory (t : FileTree) (path : String) : FileTree := (t.createDirectories now [] path).2
  let t := ["/usr/bin", "/dev/fd", "/etc", "/root", "/tmp"].foldl directory t
  let t := names.foldl (fun t name => t.put now (programDirectory ++ [name]) (.file (Image.ofProgram name) 0o755)) t
  let t := (t.put now ["bin"] (.link "usr/bin")).put now ["sbin"] (.link "usr/sbin")
  devices.foldl (fun t (name, d) => t.put now ["dev", name] (.device d)) t

def servicePid : Pid := 1

def mainPid : Pid := 1000

def environment : List String :=
  ["PATH=" ++ ":".intercalate Image.searchPath, "HOME=/root"]

inductive Output
  | read
  | nowhere
  deriving DecidableEq, Repr

def kernel (tree : FileTree) (cwd : Place) (now : Nat) (output : Output) : Kernel :=
  let out : OpenFile := { stream := if output = .read then .outlet else .device .null, writes := true }
  { tree, startedAt := now, nextPid := mainPid + 1, fresh := 2
    openFiles := [(0, { stream := .device .null, reads := true }), (1, out)]
    processes := [(mainPid, { parent := servicePid, cwd, descriptors := [(0, 0), (1, 1), (2, 1)] })] }

def perMilli : Nat := 1000

/-- How much may happen until a program is taken for one that never ends. -/
def maxSteps : Nat := 4000000

def leastTime : Nat := 1

def settle (limit : Nat) (fuel : Nat) (k : Kernel) (slots : List Slot) : Kernel × List Slot :=
  Schedule.run (fun k => !k.isAlive mainPid && !k.holdsOutlet) (fun _ => some limit) fuel k slots

/-- What a program does up to its patience, and its children for a grace after its end. -/
def observe (patience grace : Nat) (k : Kernel) (thread : Thread) : Behaviour × FileTree :=
  let (k, slots) := Schedule.run (fun k => !k.isAlive mainPid) (fun _ => some (patience * perMilli)) maxSteps k
    [⟨mainPid, 0, thread⟩]
  match k.status? mainPid with
  | none => ({ ending := none, killDelay := some leastTime }, k.tree)
  | some status =>
    let ended := max leastTime (k.clock / perMilli)
    let (k, _) := settle ((ended + grace + leastTime) * perMilli) maxSteps k slots
    let heldFor := if k.holdsOutlet then ended + grace + 2 * leastTime else k.clock / perMilli
    ({ ending := some (ended, status), written := (k.outlet.reverse.flatten).map Text.Octets.toOctet, heldFor
       killDelay := some leastTime }, k.tree)

def thread (library : Library) (image : String) (arguments : List String) : Option Thread :=
  (library image).map fun program =>
    (Routine.become program ⟨arguments.headD "", arguments.drop 1, environment⟩ : Routine Unit).run mainPid fun _ => .done

def containsNul (s : String) : Bool := s.toList.contains '\x00'

def launcher (library : Library) : Launcher := fun situation =>
  let { command, tree, home, now, patience, grace } := situation
  if containsNul command.program || containsNul command.directory || command.arguments.any containsNul then
    .refused (SystemError.message .nulInCommand)
  else match tree.find home true command.directory with
    | .error e => .refused e.message
    | .ok (cwd, .directory) =>
      match Image.find tree cwd Image.searchPath (Text.Octets.spread command.program)
          (command.arguments.map Text.Octets.spread) with
      | .error e => .refused e.message
      | .ok (image, arguments) =>
        match thread library image arguments with
        | none => .refused (SystemError.message .execFormat)
        | some t =>
          let (behaviour, tree) := observe patience grace (kernel tree cwd now .read) t
          .started behaviour tree
    | .ok _ => .refused (SystemError.message .notDirectory)

def backgroundPatience : Nat := 600000

def script (library : Library) (text : String) (tree : FileTree) (cwd : Place) (now : Nat) : Behaviour :=
  match thread library "sh" ["/bin/sh", "-c", Text.Octets.spread text] with
  | some t => { (observe backgroundPatience 0 (kernel tree cwd now .nowhere) t).1 with heldFor := 0 }
  | none => { ending := some (0, .code 127) }

end Launch
end SnippetLab.Machine
