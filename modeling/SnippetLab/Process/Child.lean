/-!
A child process as its parent sees it: it runs, ends once, and is reaped by the first poll that sees
the end. Times are in milliseconds.
-/
namespace SnippetLab

inductive ExitStatus
  | code (n : Nat)
  | signal (n : Nat)
  deriving DecidableEq, Repr

namespace ExitStatus

def code? : ExitStatus → Option Nat
  | code n => some n
  | signal _ => none

def signal? : ExitStatus → Option Nat
  | signal n => some n
  | code _ => none

def killed : ExitStatus := signal 9

end ExitStatus

/-- What a process does once it is started. Times count from its start. -/
structure Behaviour where
  ending : Option (Nat × ExitStatus)
  written : List UInt8 := []
  /-- How long children of its own hold the pipe open. -/
  heldFor : Nat := 0
  /-- How long SIGKILL takes to end it; none means longer than anyone waits. -/
  killDelay : Option Nat := some 0
  killRefusal : Option String := none
  pollFailure : Nat → Option String := fun _ => none

inductive Poll
  | running
  | exited (status : ExitStatus)
  | failed (reason : String)
  deriving DecidableEq, Repr

structure Child where
  pid : Nat
  behaviour : Behaviour
  startedAt : Nat
  killedAt : Option Nat := none
  reaped : Option ExitStatus := none

namespace Child

def ownEnd (c : Child) : Option (Nat × ExitStatus) :=
  c.behaviour.ending.map fun e => (c.startedAt + e.1, e.2)

/-- When a kill ends it. -/
def killEnd (c : Child) : Option (Nat × ExitStatus) := do
  return ((← c.killedAt) + (← c.behaviour.killDelay), .killed)

def finalEnd (c : Child) : Option (Nat × ExitStatus) :=
  match c.ownEnd, c.killEnd with
  | some own, some kill => some (if own.1 ≤ kill.1 then own else kill)
  | some own, none => some own
  | none, kill => kill

/-- A poll at a time. The status that it reports first stays for good. -/
def poll (c : Child) (now : Nat) : Poll × Child :=
  match c.reaped with
  | some status => (.exited status, c)
  | none =>
    match c.behaviour.pollFailure now with
    | some reason => (.failed reason, c)
    | none =>
      match c.finalEnd with
      | some (time, status) =>
        if time ≤ now then (.exited status, { c with reaped := some status }) else (.running, c)
      | none => (.running, c)

/-- Sends SIGKILL. A reaped child gets none, for its pid may be another's by then. -/
def kill (c : Child) (now : Nat) : Except String Child :=
  match c.reaped, c.behaviour.killRefusal with
  | some _, _ => .ok c
  | none, some reason => .error reason
  | none, none => .ok { c with killedAt := c.killedAt.or (some now) }

/-- When the last writer of its pipe is gone. -/
def pipeCloses (c : Child) : Option Nat :=
  c.finalEnd.map fun e => max e.1 (c.startedAt + c.behaviour.heldFor)

end Child

/-! Waiting for a child under a deadline, by polls that become rarer. -/

/-- A clock that never runs back: the reading on a turn is no less than the time that has passed. -/
structure Clock where
  read : (turn : Nat) → (passed : Nat) → Nat
  le_read : ∀ turn passed, passed ≤ read turn passed

def Clock.exact : Clock := ⟨fun _ passed => passed, fun _ _ => Nat.le_refl _⟩

abbrev PollInterval := { n : Nat // 1 ≤ n ∧ n ≤ 25 }

namespace PollInterval

def first : PollInterval := ⟨1, by decide⟩

def next (i : PollInterval) : PollInterval := ⟨min (2 * i.val) 25, by have := i.property; omega⟩

/-- The nap before the next poll never reaches past the deadline. -/
def nap (i : PollInterval) (now deadline : Nat) : Nat := min i.val (deadline - now)

end PollInterval

inductive WaitEnd
  | exited (status : ExitStatus)
  | timedOut
  | failed (reason : String)
  deriving DecidableEq, Repr

/-- Polls until the child is seen to have ended, a poll fails, or the clock shows the deadline after a
poll that saw it running. -/
def waitUntil (clock : Clock) (poll : (time : Nat) → σ → Poll × σ) (deadline : Nat)
    (turn time : Nat) (interval : PollInterval) (state : σ) : WaitEnd × Nat × σ :=
  match poll time state with
  | (.exited status, state) => (.exited status, time, state)
  | (.failed reason, state) => (.failed reason, time, state)
  | (.running, state) =>
    let now := clock.read turn time
    if deadline ≤ now then (.timedOut, now, state)
    else waitUntil clock poll deadline (turn + 1) (now + interval.nap now deadline) interval.next state
termination_by deadline - time
decreasing_by
  have h := clock.le_read turn time
  have := interval.property
  simp only [PollInterval.nap]
  omega

end SnippetLab
