import SnippetLab.Lab.Basic
import SnippetLab.Process.Child
import SnippetLab.Text.Utf8

/-!
Running one program under a deadline. What the program does is up to a launcher; the laws of the service
hold for every launcher.
-/
namespace SnippetLab

/-- What a program finds when it is started. -/
structure Situation where
  command : Command
  tree : FileTree
  home : Place
  now : Nat
  /-- When it will be killed, in milliseconds from its start. -/
  patience : Nat
  /-- How long the rest of its output is waited for once it has ended. -/
  grace : Nat

inductive Launch
  | refused (reason : String)
  /-- It runs, but nobody reads its output. -/
  | unread (behaviour : Behaviour) (tree : FileTree) (reason : String)
  | started (behaviour : Behaviour) (tree : FileTree)

abbrev Launcher := Situation → Launch

structure RunLimits where
  killGrace : Nat := 2000
  /-- How long to wait for the rest of the output once the program has ended. -/
  drainGrace : Nat := 5000
  captureLimit : Nat := 8388608
  deriving DecidableEq, Repr

def RunLimits.ofSettings (s : Settings) : RunLimits :=
  ⟨s.killGraceMs, s.drainGraceMs, s.maxCaptureBytes⟩

structure RunResult where
  status : ExitStatus
  output : String
  deriving DecidableEq, Repr

def RunResult.succeeded (r : RunResult) : Bool := r.status == .code 0

namespace Lab

def poll (id : ProcessId) (time : Nat) (l : Lab) : Poll × Lab :=
  let l := l.advance time
  let (p, registry) := l.registry.poll id l.now
  (p, { l with registry })

/-- Ends the guard of a process. -/
def release (id : ProcessId) (l : Lab) : Lab :=
  let (now, registry) := l.registry.release id l.now
  { l with now, registry }

/-- The output that was kept, or nothing if someone else took the reader or it took too long. -/
def collect (grace : Nat) (id : ProcessId) (l : Lab) : List UInt8 × Lab :=
  match l.registry.takeDrain id, l.registry.handle? id with
  | (some drain, registry), some handle =>
    let (octets, now) := drain.collect handle.child l.now grace
    (octets.getD [], { l with registry, now })
  | (_, registry), _ => ([], { l with registry })

def enter (label : String) (behaviour : Behaviour) (drain : Option Drain) (l : Lab) : ProcessId × Lab :=
  let child : Child := { pid := l.registry.handles.length + 1, behaviour, startedAt := l.now }
  let (id, registry) := l.registry.register { label, child, drain }
  (id, { l with registry })

/-- Waits for a process up to its deadline, collects its output and ends its guard. A process that is
still running by then is killed. -/
def await (limits : RunLimits) (label : String) (timeout : Nat) (id : ProcessId) (l : Lab) :
    Except Failure RunResult × Lab :=
  match waitUntil .exact (poll id) (l.now + timeout) 0 l.now .first l with
  | (.exited status, _, l) =>
    let (octets, l) := l.collect limits.drainGrace id
    (.ok ⟨status, String.ofList (Text.Utf8.decodeLossy octets)⟩, l.release id)
  | (.timedOut, time, l) =>
    let (_, now, registry) := l.registry.forceKill id time limits.killGrace
    (.error (.timedOut timeout), release id { l with now, registry })
  | (.failed reason, _, l) =>
    (.error (.process ("wait(" ++ label ++ ") failed: " ++ reason)), l.release id)

/-- Runs a program with its output and its error output in one stream. -/
def run (launch : Launcher) (limits : RunLimits) (command : Command) (timeout : Nat) (l : Lab) :
    Except Failure RunResult × Lab :=
  let l := { l with launches := l.launches ++ [command] }
  match launch ⟨command, l.tree, l.home, l.now, timeout, limits.drainGrace⟩ with
  | .refused reason => (.error (.spawnFailed command.program reason), l)
  | .unread behaviour tree reason =>
    let (id, l) := { l with tree }.enter command.program behaviour none
    (.error (.process ("failed to start output drain: " ++ reason)), l.release id)
  | .started behaviour tree =>
    let (id, l) := { l with tree }.enter command.program behaviour (some { limit := limits.captureLimit })
    l.await limits command.program timeout id

end Lab
end SnippetLab
