import SnippetLab.Failure
import SnippetLab.Process.Drain

/-!
The registry of child processes. Each process gets the next id, and ids are never used again. An entry
stays until its guard is released, someone deregisters it, a sweep finishes with it, or all are killed;
what is known about the process outlives the entry.
-/
namespace SnippetLab

abbrev ProcessId := Nat

structure Handle where
  label : String
  child : Child
  drain : Option Drain := none

namespace Handle

def poll (h : Handle) (now : Nat) : Poll × Handle :=
  let (p, child) := h.child.poll now
  (p, { h with child })

/-- Whoever takes the reader decides what becomes of it. -/
def takeDrain (h : Handle) : Option Drain × Handle := (h.drain, { h with drain := none })

def killPoll : Nat := 10

def spanText (ms : Nat) : String :=
  if ms = 0 then "0ns"
  else if ms < 1000 then toString ms ++ "ms"
  else
    let digits := (toString (ms % 1000 + 1000)).toList.drop 1
    let fraction := (digits.reverse.dropWhile (· = '0')).reverse
    toString (ms / 1000) ++ (if fraction.isEmpty then "" else "." ++ String.ofList fraction) ++ "s"

def awaitEnd (child : Child) (grace deadline now : Nat) : Except Failure Unit × Nat × Child :=
  match child.poll now with
  | (.exited _, child) => (.ok (), now, child)
  | (.failed reason, child) =>
    (.error (.process ("wait(pid " ++ toString child.pid ++ ") failed: " ++ reason)), now, child)
  | (.running, child) =>
    if deadline ≤ now then
      (.error (.process ("pid " ++ toString child.pid ++ " did not exit within " ++ spanText grace
        ++ " of SIGKILL")), now, child)
    else awaitEnd child grace deadline (now + killPoll)
termination_by deadline - now
decreasing_by simp only [killPoll]; omega

/-- Gives up the output, kills the process unless it is seen to have ended, and waits for its end.
Yields the time then. -/
def forceKill (h : Handle) (now grace : Nat) : Except Failure Unit × Nat × Handle :=
  let (_, h) := h.takeDrain
  match h.poll now with
  | (.exited _, h) => (.ok (), now, h)
  | (_, h) =>
    match h.child.kill now with
    | .error reason =>
      (.error (.process ("kill(pid " ++ toString h.child.pid ++ ") failed: " ++ reason)), now, h)
    | .ok child =>
      let (result, now, child) := awaitEnd child grace (now + grace) now
      (result, now, { h with child })

end Handle

structure SweepReport where
  reaped : Nat := 0
  killed : Nat := 0
  remaining : Nat := 0
  deriving DecidableEq, Repr

structure Registry where
  killGrace : Nat
  /-- All processes ever registered, in the order of their ids, which start at one. -/
  handles : List Handle := []
  entries : List ProcessId := []

namespace Registry

def handle? (r : Registry) (id : ProcessId) : Option Handle :=
  if id = 0 then none else r.handles[id - 1]?

def setHandle (r : Registry) (id : ProcessId) (h : Handle) : Registry :=
  if id = 0 then r else { r with handles := r.handles.set (id - 1) h }

def contains (r : Registry) (id : ProcessId) : Bool := List.contains r.entries id

def size (r : Registry) : Nat := r.entries.length

def isEmpty (r : Registry) : Bool := r.entries.isEmpty

/-- Enters a process that was just started. -/
def register (r : Registry) (h : Handle) : ProcessId × Registry :=
  let id := r.handles.length + 1
  (id, { r with handles := r.handles ++ [h], entries := r.entries ++ [id] })

def remove (r : Registry) (ids : List ProcessId) : Registry :=
  { r with entries := r.entries.filter fun id => !ids.contains id }

/-- Removes one entry and says whether it was there. -/
def deregister (r : Registry) (id : ProcessId) : Bool × Registry := (r.contains id, r.remove [id])

def poll (r : Registry) (id : ProcessId) (now : Nat) : Poll × Registry :=
  match r.handle? id with
  | none => (.failed "no such process", r)
  | some h => let (p, h) := h.poll now; (p, r.setHandle id h)

def takeDrain (r : Registry) (id : ProcessId) : Option Drain × Registry :=
  match r.handle? id with
  | none => (none, r)
  | some h => let (d, h) := h.takeDrain; (d, r.setHandle id h)

def forceKill (r : Registry) (id : ProcessId) (now grace : Nat) : Except Failure Unit × Nat × Registry :=
  match r.handle? id with
  | none => (.error (.process "no such process"), now, r)
  | some h =>
    let (result, now, h) := h.forceKill now grace
    (result, now, r.setHandle id h)

/-- Ends a guard: its entry goes, and its process is killed if it still runs. -/
def release (r : Registry) (id : ProcessId) (now : Nat) : Nat × Registry :=
  match (r.remove [id]).poll id now with
  | (.running, r) =>
    let (_, now, r) := r.forceKill id now r.killGrace
    (now, r)
  | (_, r) => (now, r)

/-- A sweep on its way: the time, what it did so far and the entries it is finished with. -/
structure Sweep where
  now : Nat
  report : SweepReport := {}
  finished : List ProcessId := []

/-- Looks at one process. It is spared only if it is seen to run and is younger than the age. -/
def sweepOne (minAge : Nat) (s : Sweep) (r : Registry) (id : ProcessId) : Sweep × Registry :=
  let kill (r : Registry) : Sweep × Registry :=
    let (_, now, r) := r.forceKill id s.now r.killGrace
    ({ now, report := { s.report with killed := s.report.killed + 1 }, finished := s.finished ++ [id] }, r)
  match r.poll id s.now with
  | (.exited _, r) =>
    ({ s with report := { s.report with reaped := s.report.reaped + 1 }, finished := s.finished ++ [id] }, r)
  | (.running, r) =>
    if s.now - (r.handle? id).elim 0 (·.child.startedAt) < minAge then
      ({ s with report := { s.report with remaining := s.report.remaining + 1 } }, r)
    else kill r
  | (.failed _, r) => kill r

/-- Removes entries that have ended and kills what runs for the age or longer. -/
def sweep (r : Registry) (now minAge : Nat) : SweepReport × Nat × Registry :=
  let (s, r) := r.entries.foldl (fun (s, r) id => sweepOne minAge s r id) (({ now } : Sweep), r)
  (s.report, s.now, r.remove s.finished)

/-- Kills all entries at once and removes them. Yields their number and the time when the last is gone. -/
def killAll (r : Registry) (now : Nat) : Nat × Nat × Registry :=
  let (last, killed) := r.entries.foldl (fun (last, r) id =>
    let (_, time, r) := r.forceKill id now r.killGrace
    (max last time, r)) (now, { r with entries := [] })
  (r.size, last, killed)

end Registry

/-! Sweeps of the registry at regular times. -/

structure Sweeper where
  interval : Nat
  minAge : Nat
  dueAt : Option Nat := none
  deriving DecidableEq, Repr

namespace Sweeper

def isRunning (s : Sweeper) : Bool := s.dueAt.isSome

/-- Starts sweeping; a sweeper that runs keeps its times. -/
def start (s : Sweeper) (now : Nat) : Sweeper :=
  { s with dueAt := s.dueAt.or (some (now + s.interval)) }

def stop (s : Sweeper) : Sweeper := { s with dueAt := none }

/-- All sweeps that are due up to a time. The interval counts from the end of a sweep. Yields when the
next one is due. -/
def sweepThrough (s : Sweeper) (time due : Nat) (r : Registry) : Nat × Registry :=
  if due ≤ time then
    let (_, finished, r) := r.sweep due s.minAge
    s.sweepThrough time (max due finished + max 1 s.interval) r
  else (due, r)
termination_by time + 1 - due
decreasing_by omega

def advance (s : Sweeper) (time : Nat) (r : Registry) : Sweeper × Registry :=
  match s.dueAt with
  | none => (s, r)
  | some due =>
    let (due, r) := s.sweepThrough time due r
    ({ s with dueAt := some due }, r)

end Sweeper
end SnippetLab
