import SnippetLab.Proofs.Lab.Run
import SnippetLab.Proofs.Process.Children

/-!
Waiting for a process under a deadline, poll by poll and sleep by sleep, on a clock as fine as one likes. The time
that is left becomes less with each step, so a wait ends, whatever the process does; it ends by the deadline only
after a poll that saw the process run, and a process that is seen to have ended is answered with its status.
-/
namespace SnippetLab

/-- A wait for a process, as it is begun. The clock never runs back, and shows the time that was slept or more. -/
structure Wait (σ : Type) where
  ticks : Nat
  ticks_pos : 0 < ticks
  clock : Clock
  poll : (time : Nat) → σ → Poll × σ
  start : Nat
  timeout : Nat
  state : σ

namespace Wait

inductive Act
  | polled (seen : Poll)
  | read (now : Nat)
  /-- Or longer; the span is what was asked for. -/
  | slept (span : Nat)
  deriving DecidableEq, Repr

def Act.isPoll : Act → Bool
  | .polled _ => true
  | _ => false

/-- What a wait goes by. -/
structure Point (σ : Type) where
  turn : Nat
  time : Nat
  /-- Until the next poll, if the deadline is not before. -/
  interval : Nat
  state : σ

inductive Stage (σ : Type)
  | polling (p : Point σ)
  | looking (p : Point σ)
  | sleeping (span : Nat) (p : Point σ)
  | ended (how : WaitEnd) (p : Point σ)

namespace Stage

variable {σ : Type}

def point : Stage σ → Point σ
  | polling p | looking p | sleeping _ p | ended _ p => p

def polls : Stage σ → Nat
  | polling p => p.turn
  | looking p | sleeping _ p | ended _ p => p.turn + 1

end Stage

variable {σ : Type}

def deadline (w : Wait σ) : Nat := w.start + w.timeout

def reading (w : Wait σ) (p : Point σ) : Nat := w.clock.read p.turn p.time

/-- A wait as far as it has come. The deadline is looked at after a poll that saw the process run, and a sleep is cut
to what is left until then. -/
inductive Run (w : Wait σ) : List Act → Stage σ → Prop
  | begin : Run w [] (.polling ⟨0, w.start, w.ticks, w.state⟩)
  | exited {acts : List Act} {p : Point σ} {status : ExitStatus} {state : σ} (run : Run w acts (.polling p))
      (poll : w.poll p.time p.state = (.exited status, state)) :
      Run w (acts ++ [.polled (.exited status)]) (.ended (.exited status) { p with state })
  | failed {acts : List Act} {p : Point σ} {reason : String} {state : σ} (run : Run w acts (.polling p))
      (poll : w.poll p.time p.state = (.failed reason, state)) :
      Run w (acts ++ [.polled (.failed reason)]) (.ended (.failed reason) { p with state })
  | running {acts : List Act} {p : Point σ} {state : σ} (run : Run w acts (.polling p))
      (poll : w.poll p.time p.state = (.running, state)) :
      Run w (acts ++ [.polled .running]) (.looking { p with state })
  | late {acts : List Act} {p : Point σ} (run : Run w acts (.looking p)) (past : w.deadline ≤ w.reading p) :
      Run w (acts ++ [.read (w.reading p)]) (.ended .timedOut { p with time := w.reading p })
  | early {acts : List Act} {p : Point σ} (run : Run w acts (.looking p)) (ahead : w.reading p < w.deadline) :
      Run w (acts ++ [.read (w.reading p)])
        (.sleeping (min p.interval (w.deadline - w.reading p)) { p with time := w.reading p })
  | sleep {acts : List Act} {span : Nat} {p : Point σ} (run : Run w acts (.sleeping span p)) :
      Run w (acts ++ [.slept span])
        (.polling { p with turn := p.turn + 1, time := p.time + span, interval := min (2 * p.interval) (25 * w.ticks) })

def ending? : Poll → Option WaitEnd
  | .running => none
  | .exited status => some (.exited status)
  | .failed reason => some (.failed reason)

/-- What is left to do at most, with three steps to a turn. -/
def remaining (w : Wait σ) : Stage σ → Nat
  | .polling p => 3 * (w.deadline - p.time) + 3
  | .looking p => 3 * (w.deadline - p.time) + 2
  | .sleeping _ p => 3 * (w.deadline - p.time) + 1
  | .ended _ _ => 0

def pace : Nat → Nat
  | 0 => 1
  | n + 1 => min (2 * pace n) 25

/-- Milliseconds that are slept in so many turns, if no sleep is cut. -/
def napped : Nat → Nat
  | 0 => 0
  | n + 1 => napped n + pace n

theorem pace_mem (n : Nat) : 1 ≤ pace n ∧ pace n ≤ 25 := by
  induction n with
  | zero => decide
  | succ n ih =>
    rw [pace]
    omega

theorem pace_succ_mul (n ticks : Nat) : min (2 * (pace n * ticks)) (25 * ticks) = pace (n + 1) * ticks := by
  rw [← Nat.mul_assoc, Nat.mul_min_mul_right, pace]

/-- After five turns the interval does not grow any more. -/
theorem pace_add (n : Nat) : pace (n + 5) = 25 := by
  induction n with
  | zero => rfl
  | succ n ih =>
    rw [Nat.add_right_comm, pace, ih]
    decide

theorem napped_add (n : Nat) : napped (n + 5) = 25 * n + 31 := by
  induction n with
  | zero => rfl
  | succ n ih =>
    rw [Nat.add_right_comm, napped, ih, pace_add]
    omega

theorem le_napped : (n : Nat) → 25 * n ≤ napped n + 94
  | 0 | 1 | 2 | 3 | 4 => by decide
  | n + 5 => by rw [napped_add]; omega

variable {w : Wait σ} {acts : List Act} {stage : Stage σ} {p : Point σ} {span : Nat}

theorem le_reading (w : Wait σ) (p : Point σ) : p.time ≤ w.reading p := w.clock.le_read p.turn p.time

namespace Run

/-! ### Sleeps and intervals -/

theorem interval_eq (run : w.Run acts stage) : stage.point.interval = pace stage.point.turn * w.ticks := by
  induction run with
  | begin => exact (Nat.one_mul _).symm
  | exited | failed | running | late | early => assumption
  | @sleep acts span p run ih =>
    change min (2 * p.interval) (25 * w.ticks) = pace (p.turn + 1) * w.ticks
    rw [show p.interval = pace p.turn * w.ticks from ih, pace_succ_mul]

theorem le_interval (run : w.Run acts stage) : w.ticks ≤ stage.point.interval := by
  rw [run.interval_eq]
  exact Nat.le_mul_of_pos_left _ (pace_mem _).1

theorem interval_le (run : w.Run acts stage) : stage.point.interval ≤ 25 * w.ticks := by
  rw [run.interval_eq]
  exact Nat.mul_le_mul_right _ (pace_mem _).2

theorem seen_running (run : w.Run acts (.looking p)) : [.polled .running] <:+ acts := by
  cases run with
  | running run poll => exact List.suffix_append ..

theorem before_sleep (run : w.Run acts (.sleeping span p)) :
    [.polled .running, .read p.time] <:+ acts ∧ p.time < w.deadline ∧
      span = min p.interval (w.deadline - p.time) := by
  cases run with
  | early run ahead =>
    obtain ⟨before, rfl⟩ := run.seen_running
    exact ⟨⟨before, by simp⟩, ahead, rfl⟩

theorem before_timedOut (run : w.Run acts (.ended .timedOut p)) :
    [.polled .running, .read p.time] <:+ acts ∧ w.deadline ≤ p.time := by
  cases run with
  | late run past =>
    obtain ⟨before, rfl⟩ := run.seen_running
    exact ⟨⟨before, by simp⟩, past⟩

theorem exists_poll {status : ExitStatus} (run : w.Run acts (.ended (.exited status) p)) :
    ∃ time state, w.poll time state = (.exited status, p.state) := by
  cases run with
  | exited run poll => exact ⟨_, _, poll⟩

theorem span_pos (run : w.Run acts (.sleeping span p)) : 0 < span := by
  obtain ⟨-, hahead, rfl⟩ := run.before_sleep
  have hticks := w.ticks_pos
  have hinterval : w.ticks ≤ p.interval := run.le_interval
  omega

theorem exists_sleeping {before : List Act} (run : w.Run acts stage) (hslept : before ++ [.slept span] <+: acts) :
    ∃ p, w.Run before (.sleeping span p) := by
  induction run with
  | begin => simp at hslept
  | @sleep acts span p run ih =>
    obtain hlast | hearlier := List.prefix_concat_iff.mp hslept
    · obtain ⟨rfl, hact⟩ := List.append_inj' hlast rfl
      cases hact
      exact ⟨p, run⟩
    · exact ih hearlier
  | exited _ _ ih | failed _ _ ih | running _ _ ih | late _ _ ih | early _ _ ih =>
    obtain hlast | hearlier := List.prefix_concat_iff.mp hslept
    · simp at hlast
    · exact ih hearlier

/-! ### Every wait ends -/

/-- A wait that is not over goes on, whatever the process does, and less is left then. -/
theorem continues (run : w.Run acts stage) :
    (∃ how p, stage = .ended how p) ∨
      ∃ act stage', w.Run (acts ++ [act]) stage' ∧ w.remaining stage' < w.remaining stage := by
  cases stage with
  | ended how p => exact .inl ⟨how, p, rfl⟩
  | polling p =>
    right
    rcases hpoll : w.poll p.time p.state with ⟨seen, state⟩
    cases seen with
    | running => exact ⟨_, _, run.running hpoll, by simp [remaining]⟩
    | exited status => exact ⟨_, _, run.exited hpoll, by simp [remaining]⟩
    | failed reason => exact ⟨_, _, run.failed hpoll, by simp [remaining]⟩
  | looking p =>
    right
    have hreading := w.le_reading p
    by_cases hpast : w.deadline ≤ w.reading p
    · exact ⟨_, _, run.late hpast, by simp [remaining]⟩
    · exact ⟨_, _, run.early (Nat.lt_of_not_le hpast), by simp only [remaining]; omega⟩
  | sleeping span p =>
    right
    have hspan := run.span_pos
    have hahead := run.before_sleep.2.1
    exact ⟨_, _, run.sleep, by simp only [remaining]; omega⟩

theorem exists_ended (run : w.Run acts stage) : ∃ rest how p, w.Run (acts ++ rest) (.ended how p) := by
  induction hleft : w.remaining stage using Nat.strongRecOn generalizing acts stage with
  | ind n ih =>
    obtain ⟨how, p, rfl⟩ | ⟨act, stage', run', hless⟩ := run.continues
    · exact ⟨[], how, p, by rwa [List.append_nil]⟩
    · obtain ⟨rest, how, p, ended⟩ := ih _ (hleft ▸ hless) run' rfl
      exact ⟨act :: rest, how, p, by rwa [List.append_assoc] at ended⟩

/-! ### How many turns it takes -/

/-- As long as the deadline is ahead, no sleep was cut. -/
theorem napped_le (run : w.Run acts stage) (hahead : stage.point.time < w.deadline) :
    w.start + napped stage.point.turn * w.ticks ≤ stage.point.time := by
  induction run with
  | begin => simp [napped, Stage.point]
  | exited _ _ ih | failed _ _ ih | running _ _ ih => exact ih hahead
  | @late acts p run past ih => exact absurd hahead (Nat.not_lt.mpr past)
  | @early acts p run ahead ih =>
    have hreading := w.le_reading p
    exact Nat.le_trans (ih (Nat.lt_of_le_of_lt hreading ahead)) hreading
  | @sleep acts span p run ih =>
    change p.time + span < w.deadline at hahead
    change w.start + napped (p.turn + 1) * w.ticks ≤ p.time + span
    obtain ⟨-, -, hspan⟩ := run.before_sleep
    have hinterval : p.interval = pace p.turn * w.ticks := run.interval_eq
    have hnapped : w.start + napped p.turn * w.ticks ≤ p.time := ih (by change p.time < _; omega)
    rw [napped, Nat.add_mul, ← hinterval]
    omega

theorem napped_lt (run : w.Run acts stage) {n : Nat} (hn : n < stage.point.turn) : napped n * w.ticks < w.timeout := by
  induction run with
  | begin => exact absurd hn (Nat.not_lt_zero _)
  | exited _ _ ih | failed _ _ ih | running _ _ ih | late _ _ ih | early _ _ ih => exact ih hn
  | @sleep acts span p run ih =>
    change n < p.turn + 1 at hn
    obtain hn | rfl := Nat.lt_succ_iff_lt_or_eq.mp hn
    · exact ih hn
    · have hahead := run.before_sleep.2.1
      have hnapped := run.napped_le hahead
      simp only [Stage.point, deadline] at hahead hnapped
      omega

theorem countP_isPoll (run : w.Run acts stage) : acts.countP Act.isPoll = stage.polls := by
  induction run with
  | begin => rfl
  | exited _ _ ih | failed _ _ ih | running _ _ ih | late _ _ ih | early _ _ ih | sleep _ ih =>
    rw [List.countP_append, ih]
    rfl

/-- Six polls are enough, and one more for each 25 milliseconds. -/
theorem countP_isPoll_le (run : w.Run acts stage) :
    acts.countP Act.isPoll ≤ w.timeout / (25 * w.ticks) + 6 := by
  have hpolls : acts.countP Act.isPoll ≤ stage.point.turn + 1 := by
    rw [run.countP_isPoll]
    cases stage <;> simp [Stage.polls, Stage.point]
  have hquotient : w.timeout < 25 * w.ticks * (w.timeout / (25 * w.ticks) + 1) :=
    Nat.lt_mul_div_succ _ (Nat.mul_pos (by decide) w.ticks_pos)
  generalize w.timeout / (25 * w.ticks) = q at hquotient ⊢
  cases hturn : stage.point.turn with
  | zero =>
    rw [hturn] at hpolls
    omega
  | succ n =>
    have hnapped : napped n * w.ticks < w.timeout := run.napped_lt (by omega)
    have hturns : 25 * n * w.ticks ≤ (napped n + 94) * w.ticks := Nat.mul_le_mul_right _ (le_napped n)
    have hn : 25 * w.ticks * n < 25 * w.ticks * (q + 5) := by
      rw [Nat.mul_right_comm, Nat.add_mul] at hturns
      rw [Nat.mul_add] at hquotient ⊢
      omega
    have := Nat.lt_of_mul_lt_mul_left hn
    omega

/-! ### What it ends with -/

theorem polled_mem_iff (run : w.Run acts stage) {seen : Poll} {how : WaitEnd} (hover : ending? seen = some how) :
    .polled seen ∈ acts ↔ ∃ p, stage = .ended how p := by
  cases seen with
  | running => cases hover
  | exited | failed =>
    cases hover
    induction run with
    | begin => simp
    | exited _ _ ih | failed _ _ ih | running _ _ ih => simp_all [eq_comm]
    | late _ _ ih | early _ _ ih | sleep _ ih => simp_all

end Run

structure IsTimely (w : Wait σ) (acts : List Act) (stage : Stage σ) : Prop where
  interval : w.ticks ≤ stage.point.interval ∧ stage.point.interval ≤ 25 * w.ticks
  polls : acts.countP Act.isPoll ≤ w.timeout / (25 * w.ticks) + 6
  sleeps : ∀ before span, before ++ [.slept span] <+: acts →
    ∃ now, [.polled .running, .read now] <:+ before ∧ now < w.deadline ∧ 0 < span ∧ span ≤ 25 * w.ticks ∧
      now + span ≤ w.deadline
  timedOut : ∀ p, stage = .ended .timedOut p → [.polled .running, .read p.time] <:+ acts ∧ w.deadline ≤ p.time
  /-- The first poll that sees the end decides, whatever the clock shows. -/
  exited : ∀ status, .polled (.exited status) ∈ acts ↔ ∃ p, stage = .ended (.exited status) p
  failed : ∀ reason, .polled (.failed reason) ∈ acts ↔ ∃ p, stage = .ended (.failed reason) p

theorem Run.isTimely (run : w.Run acts stage) : w.IsTimely acts stage where
  interval := ⟨run.le_interval, run.interval_le⟩
  polls := run.countP_isPoll_le
  sleeps before span hslept := by
    obtain ⟨p, asleep⟩ := run.exists_sleeping hslept
    obtain ⟨hlast, hahead, hspan⟩ := asleep.before_sleep
    have hinterval : p.interval ≤ 25 * w.ticks := asleep.interval_le
    exact ⟨p.time, hlast, hahead, asleep.span_pos, by omega, by omega⟩
  timedOut p hstage := by
    subst hstage
    exact run.before_timedOut
  exited _ := run.polled_mem_iff rfl
  failed _ := run.polled_mem_iff rfl

/-! ### The wait as it is run -/

def inMilliseconds (w : Wait σ) : Wait σ := { w with ticks := 1, ticks_pos := Nat.one_pos }

/-- The wait as it is run goes through these steps and yields what they end with. -/
theorem exists_run_of_waitUntil (w : Wait σ) {turn time time' : Nat} (interval : PollInterval) {state state' : σ}
    {how : WaitEnd}
    (run : w.inMilliseconds.Run acts (.polling ⟨turn, time, interval, state⟩))
    (result : waitUntil w.clock w.poll w.deadline turn time interval state = (how, time', state')) :
    ∃ acts turn interval, w.inMilliseconds.Run acts (.ended how ⟨turn, time', interval, state'⟩) := by
  fun_induction waitUntil w.clock w.poll w.deadline turn time interval state generalizing acts with
  | case1 turn time interval state status next hpoll =>
    cases result
    exact ⟨_, _, _, run.exited hpoll⟩
  | case2 turn time interval state reason next hpoll =>
    cases result
    exact ⟨_, _, _, run.failed hpoll⟩
  | case3 turn time interval state next hpoll now =>
    rename_i hpast
    obtain ⟨rfl, rfl, rfl⟩ : .timedOut = how ∧ now = time' ∧ next = state' := by simpa using result
    exact ⟨_, _, _, (run.running hpoll).late hpast⟩
  | case4 turn time interval state next hpoll now =>
    rename_i hahead ih
    exact ih ((run.running hpoll).early (Nat.lt_of_not_le hahead)).sleep result

end Wait

def WaitEnd.Answers (label : String) (timeout : Nat) (answer : Except Failure RunResult) : WaitEnd → Prop
  | .exited status => ∃ output, answer = .ok ⟨status, output⟩
  | .timedOut => answer = .error (.timedOut timeout)
  | .failed reason => answer = .error (.process ("wait(" ++ label ++ ") failed: " ++ reason))

namespace Lab

def waitFor (id : ProcessId) (timeout : Nat) (l : Lab) : Wait Lab where
  ticks := 1
  ticks_pos := Nat.one_pos
  clock := .exact
  poll := Lab.poll id
  start := l.now
  timeout := timeout
  state := l

theorem reaped_of_poll {id : ProcessId} {time : Nat} {l l' : Lab} {status : ExitStatus}
    (h : l.poll id time = (.exited status, l')) :
    ∃ x, l'.registry.handle? id = some x ∧ x.child.reaped = some status := by
  cases hknown : (l.advance time).registry.handle? id with
  | none => simp [poll, Registry.poll, hknown] at h
  | some x =>
    rw [poll, Registry.poll_of_handle? hknown] at h
    obtain ⟨hpoll, rfl⟩ := Prod.mk.inj h
    exact ⟨_, Registry.handle?_setHandle hknown _, Child.reaped_of_poll hpoll⟩

def Answered (label : String) (timeout : Nat) (id : ProcessId) (l : Lab) (answer : Except Failure RunResult) : Prop :=
  ∃ acts how p, (l.waitFor id timeout).Run acts (.ended how p) ∧
    (l.waitFor id timeout).IsTimely acts (.ended how p) ∧ how.Answers label timeout answer ∧
    ∀ status, how = .exited status → ∃ h, p.state.registry.handle? id = some h ∧ h.child.reaped = some status

theorem answered_await (limits : RunLimits) (label : String) (timeout : Nat) (id : ProcessId) (l : Lab) :
    l.Answered label timeout id (l.await limits label timeout id).1 := by
  rcases hwait : waitUntil .exact (Lab.poll id) (l.now + timeout) 0 l.now .first l with ⟨how, time, l'⟩
  obtain ⟨acts, turn, interval, run⟩ :=
    (l.waitFor id timeout).exists_run_of_waitUntil .first .begin hwait
  refine ⟨acts, how, _, run, run.isTimely, ?_, ?_⟩
  · rw [await, hwait]
    cases how with
    | exited status => exact ⟨_, rfl⟩
    | timedOut | failed => rfl
  · rintro status rfl
    obtain ⟨time, before, hpoll⟩ := run.exists_poll
    exact reaped_of_poll hpoll

def entered (limits : RunLimits) (command : Command) (behaviour : Behaviour) (tree : FileTree) (l : Lab) :
    ProcessId × Lab :=
  { l with launches := l.launches ++ [command], tree }.enter command.program behaviour
    (some { limit := limits.captureLimit })

variable {launch : Launcher} {limits : RunLimits} {command : Command} {timeout : Nat} {l : Lab}

theorem answered_run {behaviour : Behaviour} {tree : FileTree}
    (hlaunch : launch (l.situation limits command timeout) = .started behaviour tree) :
    let (id, entered) := l.entered limits command behaviour tree
    entered.Answered command.program timeout id (l.run launch limits command timeout).1 := by
  rw [situation] at hlaunch
  rw [run, hlaunch]
  exact answered_await ..

theorem run_ne_timedOut
    (hlaunch : ∀ behaviour tree, launch (l.situation limits command timeout) ≠ .started behaviour tree) (ms : Nat) :
    (l.run launch limits command timeout).1 ≠ .error (.timedOut ms) := by
  rw [situation] at hlaunch
  rw [run]
  cases h : launch ⟨command, l.tree, l.home, l.now, timeout, limits.drainGrace⟩ with
  | refused reason | unread behaviour tree reason => simp
  | started behaviour tree => exact absurd h (hlaunch behaviour tree)

end Lab

/-- **Every wait ends in time**, whatever the process does, and what it ends with is what a run answers: the status
if a poll has seen the process to have ended, be it late, and that it took too long only if the clock showed the
deadline after a poll that saw it run. -/
theorem wait_ends_in_time {σ : Type} (w : Wait σ) (launch : Launcher) (limits : RunLimits) (command : Command)
    (timeout : Nat) (l : Lab) :
    (∀ acts stage, w.Run acts stage →
      (∃ rest how p, w.Run (acts ++ rest) (.ended how p)) ∧ w.IsTimely acts stage) ∧
    (match waitUntil w.clock w.poll w.deadline 0 w.start .first w.state with
      | (how, time, state) =>
        ∃ acts turn interval, w.inMilliseconds.Run acts (.ended how ⟨turn, time, interval, state⟩)) ∧
    match launch (l.situation limits command timeout) with
    | .started behaviour tree =>
      let (id, entered) := l.entered limits command behaviour tree
      entered.Answered command.program timeout id (l.run launch limits command timeout).1
    | .refused _ | .unread _ _ _ => ∀ ms, (l.run launch limits command timeout).1 ≠ .error (.timedOut ms) := by
  refine ⟨fun acts stage run => ⟨run.exists_ended, run.isTimely⟩, ?_, ?_⟩
  · exact w.exists_run_of_waitUntil .first .begin rfl
  · cases hlaunch : launch (l.situation limits command timeout) with
    | started behaviour tree => exact Lab.answered_run hlaunch
    | refused reason | unread behaviour tree reason => exact Lab.run_ne_timedOut (by simp [hlaunch])

namespace Wait

/-- The clock counts nanoseconds and shows a little more than was slept; the third poll sees that the process has
ended, and is late. -/
def tardy : Wait Nat where
  ticks := 1000000
  ticks_pos := by decide
  clock := ⟨fun _ passed => passed + 300, fun _ passed => Nat.le_add_right passed 300⟩
  poll _ polls := (if polls < 2 then .running else .exited (.code 3), polls + 1)
  start := 0
  timeout := 1200000
  state := 0

end Wait

/-- The second sleep is cut to less than a millisecond, and the status is given though the time is up. -/
theorem wait_ends_in_time_tardy :
    let acts := [.polled .running, .read 300, .slept 1000000, .polled .running, .read 1000600, .slept 199400,
      .polled (.exited (.code 3))]
    let stage := .ended (.exited (.code 3)) ⟨2, 1200000, 4000000, 3⟩
    Wait.tardy.Run acts stage ∧ Wait.tardy.IsTimely acts stage ∧ Wait.tardy.deadline ≤ stage.point.time := by
  intro acts stage
  have first : Wait.tardy.Run _ _ := (Wait.Run.begin.running rfl).early (by decide)
  have run : Wait.tardy.Run acts stage := ((first.sleep.running rfl).early (by decide)).sleep.exited rfl
  have h := wait_ends_in_time Wait.tardy (fun _ => .refused "ENOENT") {} ⟨"sh", [], "/"⟩ 50
    (.ofSettings { tempDirectory := "/t" } {} [] 0)
  exact ⟨run, (h.1 acts stage run).2, by decide⟩

end SnippetLab
