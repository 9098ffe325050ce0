import SnippetLab.Proofs.Lab.Run
import SnippetLab.Proofs.Process.Alone
import SnippetLab.Proofs.Process.Output
import SnippetLab.Proofs.Process.Shutdown

/-!
The run of a program when nobody sweeps or kills meanwhile. What it comes to at once is what its course comes
to step by step. It takes the entry that it makes out again, on every way out, and finishes the process.
-/
namespace SnippetLab

open Concurrent

theorem Registry.attachDrain_register (r : Registry) (h : Handle) (d : Drain) :
    ((r.draw h).2.enter (r.draw h).1).attachDrain (r.draw h).1 d = (r.register { h with drain := some d }).2 := by
  have hknown : ((r.draw h).2.enter (r.draw h).1).handle? (r.draw h).1 = some h := handle?_draw_self r h
  rw [attachDrain_of_handle? hknown]
  simp [setHandle, draw, enter, register]

namespace Lab

theorem poll_of_stopped {l : Lab} (hstopped : l.sweeper.dueAt = none) (id : ProcessId) (time : Nat) :
    l.poll id time = ((l.registry.poll id (max l.now time)).1,
      { l with now := max l.now time, registry := (l.registry.poll id (max l.now time)).2 }) := by
  have hadvance : l.advance time = { l with now := max l.now time } := by
    rw [advance, Sweeper.advance, hstopped]
  rw [poll, hadvance]

theorem collect_eq {l : Lab} {id : ProcessId} {h : Handle} (hknown : l.registry.handle? id = some h) (grace : Nat) :
    (l.collect grace id).1 = (h.drain.bind fun d => (d.collect h.child l.now grace).1).getD [] := by
  rw [collect, hknown, Registry.takeDrain_of_handle? hknown]
  cases h.drain <;> rfl

end Lab

namespace Concurrent

def Stage.afterWait (job : Job) (id : ProcessId) : WaitEnd → Stage
  | .exited status => .ended id status
  | .timedOut => .waiting id true
  | .failed reason => .leaving id false (.error (.process ("wait(" ++ job.label ++ ") failed: " ++ reason)))

variable {job : Job} {a : Actor} {start s : State} {es : List Event} {id : ProcessId}

theorem Course.poll_of_eq {seen : Bool} {l l' : Lab} {time : Nat} {p : Poll} (hp : l.poll id time = (p, l'))
    (hstopped : l.sweeper.dueAt = none) (hcourse : Course job a start es (.waiting id seen) s)
    (htask : s.tasks a = .on (.guard id)) (halone : s.IsAlone a) (hregistry : s.registry = l.registry) :
    l'.sweeper.dueAt = none ∧
      Course job a start (es ++ [.other]) (.afterPoll job id p) (s.put a (.on (.guard id)) l'.registry) := by
  have hpoll := hcourse.poll (max l.now time) htask (halone id)
  rw [Lab.poll_of_stopped hstopped] at hp
  cases hp
  rw [hregistry] at hpoll
  exact ⟨hstopped, hpoll⟩

theorem exists_course_of_wait {seen : Bool} {l : Lab} (hstopped : l.sweeper.dueAt = none)
    (hcourse : Course job a start es (.waiting id seen) s) (htask : s.tasks a = .on (.guard id))
    (halone : s.IsAlone a) (hregistry : s.registry = l.registry) (deadline turn time : Nat)
    (interval : PollInterval) :
    ∃ es' s', s'.tasks a = .on (.guard id) ∧
      s'.registry = (waitUntil .exact (Lab.poll id) deadline turn time interval l).2.2.registry ∧
      Course job a start es'
        (.afterWait job id (waitUntil .exact (Lab.poll id) deadline turn time interval l).1) s' := by
  fun_induction waitUntil Clock.exact (Lab.poll id) deadline turn time interval l generalizing es s seen with
  | case1 turn time interval l status l' hp =>
    obtain ⟨-, hended⟩ := Course.poll_of_eq hp hstopped hcourse htask halone hregistry
    exact ⟨_, _, s.put_tasks_self .., rfl, hended⟩
  | case2 turn time interval l reason l' hp =>
    obtain ⟨-, hfailed⟩ := Course.poll_of_eq hp hstopped hcourse htask halone hregistry
    exact ⟨_, _, s.put_tasks_self .., rfl, hfailed⟩
  | case3 turn time interval l l' hp now =>
    obtain ⟨-, hseen⟩ := Course.poll_of_eq hp hstopped hcourse htask halone hregistry
    exact ⟨_, _, s.put_tasks_self .., rfl, hseen⟩
  | case4 turn time interval l l' hp now hearly =>
    rename_i ih
    obtain ⟨hstopped', hseen⟩ := Course.poll_of_eq hp hstopped hcourse htask halone hregistry
    exact ih hstopped' hseen (s.put_tasks_self ..) (halone.put _ _) rfl

theorem exists_course_of_await {seen : Bool} {l : Lab} (hrest : ∀ b, start.tasks b = .on .none)
    (hstopped : l.sweeper.dueAt = none) (hcourse : Course job a start es (.waiting id seen) s)
    (htask : s.tasks a = .on (.guard id)) (halone : s.IsAlone a) (hregistry : s.registry = l.registry) :
    ∃ es' late s', Course job a start es' (.leaving id late (l.await job.limits job.label job.timeout id).1) s' := by
  obtain ⟨es', s', htask', hregistry', hwaited⟩ :=
    exists_course_of_wait hstopped hcourse htask halone hregistry (l.now + job.timeout) 0 l.now .first
  unfold Lab.await
  rcases hwait : waitUntil .exact (Lab.poll id) (l.now + job.timeout) 0 l.now .first l with ⟨how, time, l'⟩
  rw [hwait] at hwaited hregistry'
  cases how with
  | timedOut => exact ⟨_, _, _, hwaited.expire htask'⟩
  | failed reason => exact ⟨_, _, _, hwaited⟩
  | exited status =>
    obtain ⟨x, hx, hbehaviour, -⟩ := (hwaited.tracked hrest).holds
    have htaken := hwaited.take htask'
    rw [Registry.takeDrain_of_handle? hx] at htaken
    have hleft := htaken.collect l'.now (Registry.handle?_setHandle hx _)
    rw [hregistry'] at hx
    have hresult := Lab.collect_eq hx job.limits.drainGrace
    dsimp only at hleft hresult
    rw [← hresult] at hleft
    exact ⟨_, _, _, hleft⟩

def Job.ofCommand (limits : RunLimits) (command : Command) (timeout : Nat) (behaviour : Behaviour) (l : Lab) : Job where
  label := command.program
  child := { pid := l.registry.handles.length + 1, behaviour, startedAt := l.now }
  limits := limits
  timeout := timeout

/-- A run that nobody interrupts yields what its course yields. -/
theorem exists_course_of_run {launch : Launcher} {limits : RunLimits} {command : Command} {timeout : Nat} {l : Lab}
    {behaviour : Behaviour} {tree : FileTree}
    (hstarted : launch (l.situation limits command timeout) = .started behaviour tree)
    (hstopped : l.sweeper.dueAt = none) (hrest : ∀ b, s.tasks b = .on .none) (hregistry : s.registry = l.registry)
    (a : Actor) :
    ∃ es id late s', Course (.ofCommand limits command timeout behaviour l) a s es
      (.leaving id late (l.run launch limits command timeout).1) s' := by
  have halone : s.IsAlone a := fun id b _ => by
    rw [hrest b]
    rfl
  have hbegin : Course (.ofCommand limits command timeout behaviour l) a s [] .registering s := .begin (hrest a)
  have hdrawn := (hbegin.spawn (hrest a)).draw (s.put_tasks_self ..)
  have hattached := (hdrawn.enter (State.put_tasks_self ..)).attach (State.put_tasks_self ..)
  simp only [State.put_put, State.put_registry, Registry.attachDrain_register] at hattached
  rw [Lab.situation] at hstarted
  rw [Lab.run, hstarted]
  rw [hregistry] at hattached
  have hentered : ({ l with launches := l.launches ++ [command], tree }.enter command.program behaviour
      (some { limit := limits.captureLimit })).2.sweeper.dueAt = none := hstopped
  obtain ⟨es, late, s', hleft⟩ :=
    exists_course_of_await hrest hentered hattached (s.put_tasks_self ..) (halone.put _ _) rfl
  exact ⟨es, _, late, s', hleft⟩

end Concurrent

/-! ### What a run leaves behind -/

namespace Handle

variable {h : Handle} {c child : Child} {p : Poll} {grace deadline now : Nat}

theorem behaviour_awaitEnd (c : Child) (grace deadline now : Nat) :
    (awaitEnd c grace deadline now).2.2.behaviour = c.behaviour := by
  fun_induction awaitEnd c grace deadline now with
  | case1 c now status child hp | case2 c now reason child hp | case3 c now child hp => exact Child.behaviour_of_poll hp
  | case4 c now child hp hearly ih => exact ih.trans (Child.behaviour_of_poll hp)

theorem reaped_awaitEnd (hprompt : c.IsPrompt grace) (hdoomed : c.IsDoomed grace deadline) (now : Nat) :
    ∃ status, (awaitEnd c grace deadline now).2.2.reaped = some status := by
  fun_induction awaitEnd c grace deadline now with
  | case1 c now status child hp => exact ⟨status, by rw [Child.eq_of_poll_exited hp]⟩
  | case2 c now reason child hp => exact absurd (by rw [hp]) (hprompt.poll_ne_failed now reason)
  | case3 c now child hp hlate => exact absurd (by rw [hp]) (hdoomed.poll_ne_running hprompt hlate)
  | case4 c now child hp hearly ih =>
    obtain rfl := Child.eq_of_poll hp (by simp)
    exact ih hprompt hdoomed

theorem behaviour_forceKill (h : Handle) (now grace : Nat) :
    (h.forceKill now grace).2.2.child.behaviour = h.child.behaviour := by
  obtain ⟨status, hforced⟩ | ⟨reason, -, hforced⟩ | ⟨child, hkill, hforced⟩ := h.forceKill_cases now grace
  · rw [hforced]
  · rw [hforced]
  · rw [hforced]
    exact (behaviour_awaitEnd ..).trans (Child.behaviour_of_kill hkill)

theorem reaped_forceKill (hprompt : h.child.IsPrompt grace) (hunkilled : h.child.killedAt = none) (now : Nat) :
    ∃ status, (h.forceKill now grace).2.2.child.reaped = some status := by
  obtain ⟨status, hforced⟩ | ⟨reason, hkill, -⟩ | ⟨child, hkill, hforced⟩ := h.forceKill_cases now grace
  · exact ⟨status, by rw [hforced]⟩
  · exact absurd hkill (hprompt.kill_ne_error now reason)
  · rw [hforced]
    exact reaped_awaitEnd (hprompt.next (.killed hkill)) (.kill (by simp [hunkilled]) hkill) now

/-- The end of a guard, for its process. -/
def release (h : Handle) (now grace : Nat) : Nat × Handle :=
  match h.poll now with
  | (.running, h) => (h.forceKill now grace).2
  | (_, h) => (now, h)

theorem release_of_running (hp : h.child.poll now = (.running, child)) :
    h.release now grace = (h.forceKill now grace).2 := by
  obtain rfl := Child.eq_of_poll hp (by simp)
  simp only [release, poll, hp]

theorem release_of_not_running (hp : h.child.poll now = (p, child)) (hover : p ≠ .running) :
    h.release now grace = (now, { h with child }) := by
  cases p with
  | running => exact absurd rfl hover
  | exited | failed => simp only [release, poll, hp]

theorem release_of_reaped {status : ExitStatus} (hreaped : h.child.reaped = some status) (now grace : Nat) :
    h.release now grace = (now, h) :=
  release_of_not_running (Child.poll_of_reaped hreaped now) (by simp)

theorem behaviour_release (h : Handle) (now grace : Nat) :
    (h.release now grace).2.child.behaviour = h.child.behaviour := by
  rcases hp : h.child.poll now with ⟨p, child⟩
  by_cases hover : p = .running
  · subst hover
    rw [release_of_running hp]
    exact behaviour_forceKill ..
  · rw [release_of_not_running hp hover]
    exact Child.behaviour_of_poll hp

theorem reaped_release (hprompt : h.child.IsPrompt grace) (hunkilled : h.child.killedAt = none) (now : Nat) :
    ∃ status, (h.release now grace).2.child.reaped = some status := by
  rcases hp : h.child.poll now with ⟨p, child⟩
  cases p with
  | exited status =>
    rw [release_of_not_running hp (by simp), Child.eq_of_poll_exited hp]
    exact ⟨status, rfl⟩
  | failed reason => exact absurd (by rw [hp]) (hprompt.poll_ne_failed now reason)
  | running =>
    rw [release_of_running hp]
    exact reaped_forceKill hprompt hunkilled now

end Handle

namespace Registry

variable {r : Registry} {id : ProcessId} {h : Handle}

theorem setHandle_self (hr : r.handle? id = some h) : r.setHandle id h = r := by
  unfold handle? setHandle at *
  by_cases hid : id = 0
  · simp [hid]
  · simp only [hid, if_false] at hr ⊢
    obtain ⟨hlt, rfl⟩ := List.getElem?_eq_some_iff.mp hr
    rw [List.set_getElem_self]

theorem release_of_handle? (hr : r.handle? id = some h) (now : Nat) :
    r.release id now =
      ((h.release now r.killGrace).1, (r.remove [id]).setHandle id (h.release now r.killGrace).2) := by
  have hr' : (r.remove [id]).handle? id = some h := hr
  rcases hp : h.child.poll now with ⟨p, child⟩
  rw [release, poll_of_handle? hr', hp]
  by_cases hover : p = .running
  · subst hover
    obtain rfl := Child.eq_of_poll hp (by simp)
    have hgrace : ((r.remove [id]).setHandle id h).killGrace = r.killGrace :=
      (SameEntries.setHandle (r.remove [id]) id h).killGrace
    rw [Handle.release_of_running hp]
    simp only [forceKill_of_handle? (handle?_setHandle hr' h), setHandle_setHandle, hgrace]
  · rw [Handle.release_of_not_running hp hover]
    cases p with
    | running => exact absurd rfl hover
    | exited | failed => rfl

/-! The process that was entered last -/

theorem handle?_register (r : Registry) (h : Handle) :
    (r.register h).2.handle? (r.handles.length + 1) = some h :=
  handle?_draw_self r h

theorem setHandle_register (r : Registry) (h h' : Handle) :
    (r.register h).2.setHandle (r.handles.length + 1) h' = (r.register h').2 := by
  simp [setHandle, register]

/-- Once it is released, only what is known of it is left. -/
theorem release_register (hsound : r.IsSound) (h : Handle) (now : Nat) :
    ((r.register h).2.release (r.handles.length + 1) now).2 = (r.draw (h.release now r.killGrace).2).2 := by
  have hremoved : (r.register h).2.remove [r.handles.length + 1] = (r.draw h).2 := by
    have hkept : ∀ id ∈ r.entries, id ≠ r.handles.length + 1 := by
      intro id hid heq
      exact hsound.next_not_mem (heq ▸ hid)
    simpa [remove, register, draw] using hkept
  rw [release_of_handle? (handle?_register r h), hremoved]
  simp [setHandle, draw, register]

end Registry

namespace Lab

variable {l : Lab} {id : ProcessId} {h : Handle}

theorem registry_of_poll {time : Nat} {p : Poll} {l' : Lab} (hstopped : l.sweeper.dueAt = none)
    (hr : l.registry.handle? id = some h) (hp : l.poll id time = (p, l')) :
    l'.sweeper.dueAt = none ∧ ∃ now child, h.child.poll now = (p, child) ∧
      l'.registry = l.registry.setHandle id { h with child } := by
  rw [poll_of_stopped hstopped, Registry.poll_of_handle? hr] at hp
  cases hp
  exact ⟨hstopped, _, _, rfl, rfl⟩

/-- A process after a wait that ended so. -/
structure Waited (h : Handle) (how : WaitEnd) (h' : Handle) : Prop where
  behaviour : h'.child.behaviour = h.child.behaviour
  killedAt : h'.child.killedAt = h.child.killedAt
  exited : ∀ status, how = .exited status → h'.child.reaped = some status
  failed : ∀ reason, how = .failed reason → ∃ now, (h.child.poll now).1 = .failed reason

theorem exists_waited (hstopped : l.sweeper.dueAt = none) (hr : l.registry.handle? id = some h)
    (deadline turn time : Nat) (interval : PollInterval) :
    ∃ h', Waited h (waitUntil .exact (Lab.poll id) deadline turn time interval l).1 h' ∧
      (waitUntil .exact (Lab.poll id) deadline turn time interval l).2.2.registry = l.registry.setHandle id h' := by
  fun_induction waitUntil Clock.exact (Lab.poll id) deadline turn time interval l with
  | case1 turn time interval l status l' hp =>
    obtain ⟨-, now, child, hchild, hregistry⟩ := registry_of_poll hstopped hr hp
    obtain rfl := Child.eq_of_poll_exited hchild
    refine ⟨{ h with child := { h.child with reaped := some status } }, ⟨rfl, rfl, fun status hstatus => ?_, by simp⟩,
      hregistry⟩
    cases hstatus
    rfl
  | case2 turn time interval l reason l' hp =>
    obtain ⟨-, now, child, hchild, hregistry⟩ := registry_of_poll hstopped hr hp
    obtain rfl := Child.eq_of_poll hchild (by simp)
    refine ⟨_, ⟨rfl, rfl, by simp, fun reason hreason => ⟨now, ?_⟩⟩, hregistry⟩
    cases hreason
    rw [hchild]
  | case3 turn time interval l l' hp now =>
    obtain ⟨-, now, child, hchild, hregistry⟩ := registry_of_poll hstopped hr hp
    obtain rfl := Child.eq_of_poll hchild (by simp)
    exact ⟨_, ⟨rfl, rfl, by simp, by simp⟩, hregistry⟩
  | case4 turn time interval l l' hp now hearly ih =>
    obtain ⟨hstopped', now, child, hchild, hregistry⟩ := registry_of_poll hstopped hr hp
    obtain rfl := Child.eq_of_poll hchild (by simp)
    -- as long as the process is seen to run, nothing is known that was not known before
    rw [Registry.setHandle_self hr] at hregistry
    rw [← hregistry] at hr ⊢
    exact ih hstopped' hr

theorem registry_collect (grace : Nat) (id : ProcessId) (l : Lab) :
    (l.collect grace id).2.registry = (l.registry.takeDrain id).2 := by
  unfold collect
  rcases l.registry.takeDrain id with ⟨_ | d, r⟩
  · rfl
  · cases l.registry.handle? id <;> rfl

end Lab

/-- There is one process more than before, which behaves so and has no entry. If SIGKILL ends it within the grace and
polls of it do not fail, it is reaped. -/
def Registry.Finishes (behaviour : Behaviour) (grace : Nat) (r after : Registry) : Prop :=
  ∃ h, after = (r.draw h).2 ∧ h.child.behaviour = behaviour ∧
    (h.child.IsPrompt grace → ∃ status, h.child.reaped = some status)

namespace Registry.Finishes

variable {r after : Registry} {behaviour : Behaviour} {grace : Nat}

theorem entries (h : r.Finishes behaviour grace after) : after.entries = r.entries := by
  obtain ⟨x, rfl, -⟩ := h
  rfl

theorem handle? {id : ProcessId} {x : Handle} (h : r.Finishes behaviour grace after) (hid : r.handle? id = some x) :
    after.handle? id = some x := by
  obtain ⟨y, rfl, -⟩ := h
  exact handle?_draw hid y

end Registry.Finishes

namespace Lab

variable {l : Lab} {r : Registry} {h : Handle}

theorem registry_release (hsound : r.IsSound) (hentered : l.registry = (r.register h).2) :
    (l.release (r.handles.length + 1)).registry = (r.draw (h.release l.now r.killGrace).2).2 := by
  rw [release, hentered]
  exact Registry.release_register hsound h l.now

theorem finishes_release (hsound : r.IsSound) (hentered : l.registry = (r.register h).2)
    (hunkilled : h.child.killedAt = none) :
    r.Finishes h.child.behaviour r.killGrace (l.release (r.handles.length + 1)).registry :=
  ⟨_, registry_release hsound hentered, Handle.behaviour_release ..,
    fun hprompt => Handle.reaped_release (hprompt.of_behaviour (Handle.behaviour_release ..).symm) hunkilled l.now⟩

theorem finishes_release_of_reaped {grace : Nat} (hsound : r.IsSound) (hentered : l.registry = (r.register h).2)
    (hreaped : h.child.IsPrompt grace → ∃ status, h.child.reaped = some status) :
    r.Finishes h.child.behaviour grace (l.release (r.handles.length + 1)).registry := by
  refine ⟨_, registry_release hsound hentered, Handle.behaviour_release .., fun hprompt => ?_⟩
  obtain ⟨status, hstatus⟩ := hreaped (hprompt.of_behaviour (Handle.behaviour_release ..).symm)
  rw [Handle.release_of_reaped hstatus]
  exact ⟨status, hstatus⟩

def leave (limits : RunLimits) (id : ProcessId) (time : Nat) (l : Lab) : WaitEnd → Lab
  | .exited _ => (l.collect limits.drainGrace id).2.release id
  | .timedOut =>
    let (_, now, registry) := l.registry.forceKill id time limits.killGrace
    release id { l with now, registry }
  | .failed _ => l.release id

theorem await_eq {timeout time : Nat} {id : ProcessId} {how : WaitEnd} {l' : Lab}
    (hwait : waitUntil .exact (Lab.poll id) (l.now + timeout) 0 l.now .first l = (how, time, l')) (limits : RunLimits)
    (label : String) : (l.await limits label timeout id).2 = l'.leave limits id time how := by
  rw [await, hwait]
  cases how <;> rfl

theorem finishes_leave {x : Handle} {how : WaitEnd} (hsound : r.IsSound) (hentered : l.registry = (r.register x).2)
    (hwaited : Waited h how x) (hunkilled : h.child.killedAt = none) (limits : RunLimits) (time : Nat) :
    r.Finishes x.child.behaviour limits.killGrace (l.leave limits (r.handles.length + 1) time how).registry := by
  have hx := Registry.handle?_register r x
  cases how with
  | exited status =>
    have htaken : (l.collect limits.drainGrace (r.handles.length + 1)).2.registry =
        (r.register { x with drain := none }).2 := by
      rw [registry_collect, hentered, Registry.takeDrain_of_handle? hx, Registry.setHandle_register]
    exact finishes_release_of_reaped (h := { x with drain := none }) hsound htaken fun _ =>
      ⟨status, hwaited.exited status rfl⟩
  | timedOut =>
    have hkilled := Registry.forceKill_of_handle? hx time limits.killGrace
    rw [Registry.setHandle_register] at hkilled
    simp only [leave, hentered, hkilled]
    rw [← x.behaviour_forceKill time limits.killGrace]
    refine finishes_release_of_reaped hsound rfl fun hprompt => ?_
    exact Handle.reaped_forceKill (hprompt.of_behaviour (x.behaviour_forceKill ..).symm)
      (hwaited.killedAt.trans hunkilled) time
  | failed reason =>
    obtain ⟨now, hfailed⟩ := hwaited.failed reason rfl
    refine finishes_release_of_reaped hsound hentered fun hprompt => ?_
    exact absurd hfailed ((hprompt.of_behaviour hwaited.behaviour.symm).poll_ne_failed now reason)

theorem finishes_await (hsound : r.IsSound) (hstopped : l.sweeper.dueAt = none)
    (hentered : l.registry = (r.register h).2) (hunkilled : h.child.killedAt = none) (limits : RunLimits)
    (label : String) (timeout : Nat) :
    r.Finishes h.child.behaviour limits.killGrace
      (l.await limits label timeout (r.handles.length + 1)).2.registry := by
  have hr : l.registry.handle? (r.handles.length + 1) = some h := by
    rw [hentered]
    exact Registry.handle?_register r h
  obtain ⟨x, hwaited, hregistry⟩ := exists_waited hstopped hr (l.now + timeout) 0 l.now .first
  rw [hentered, Registry.setHandle_register] at hregistry
  rw [await_eq rfl, ← hwaited.behaviour]
  exact finishes_leave hsound hregistry hwaited hunkilled limits _

variable {launch : Launcher} {limits : RunLimits} {command : Command} {timeout : Nat} {behaviour : Behaviour}
  {tree : FileTree} {reason : String}

theorem registry_run_of_refused (hlaunch : launch (l.situation limits command timeout) = .refused reason) :
    (l.run launch limits command timeout).2.registry = l.registry := by
  rw [situation] at hlaunch
  rw [run, hlaunch]

theorem finishes_run_of_unread (hsound : l.registry.IsSound)
    (hlaunch : launch (l.situation limits command timeout) = .unread behaviour tree reason) :
    l.registry.Finishes behaviour l.registry.killGrace (l.run launch limits command timeout).2.registry := by
  rw [situation] at hlaunch
  rw [run, hlaunch]
  exact finishes_release hsound (h := Job.handle (.ofCommand limits command timeout behaviour l)) rfl rfl

theorem finishes_run_of_started (hsound : l.registry.IsSound) (hstopped : l.sweeper.dueAt = none)
    (hlaunch : launch (l.situation limits command timeout) = .started behaviour tree) :
    l.registry.Finishes behaviour limits.killGrace (l.run launch limits command timeout).2.registry := by
  rw [situation] at hlaunch
  rw [run, hlaunch]
  have hentered : ({ l with launches := l.launches ++ [command], tree }.enter command.program behaviour
      (some { limit := limits.captureLimit })).2.sweeper.dueAt = none := hstopped
  let job : Job := .ofCommand limits command timeout behaviour l
  exact finishes_await hsound hentered (h := { job.handle with drain := some job.drain }) rfl rfl limits command.program
    timeout

/-- **A run leaves the entries as they were**, whichever way it ends, and every process that was known as it was. If
polls do not fail and SIGKILL takes effect within the grace, the process that it started is reaped by then. -/
theorem run_restores_entries (launch : Launcher) (limits : RunLimits) (command : Command) (timeout : Nat) (l : Lab)
    (hsound : l.registry.IsSound) (hstopped : l.sweeper.dueAt = none) :
    let after := (l.run launch limits command timeout).2.registry
    after.entries = l.registry.entries ∧
    (∀ id h, l.registry.handle? id = some h → after.handle? id = some h) ∧
    match launch (l.situation limits command timeout) with
    | .refused _ => after = l.registry
    | .unread behaviour _ _ => l.registry.Finishes behaviour l.registry.killGrace after
    | .started behaviour _ => l.registry.Finishes behaviour limits.killGrace after := by
  cases hlaunch : launch (l.situation limits command timeout) with
  | refused reason =>
    rw [registry_run_of_refused hlaunch]
    exact ⟨rfl, fun _ _ hid => hid, rfl⟩
  | unread behaviour tree reason =>
    have hfinishes := finishes_run_of_unread hsound hlaunch
    exact ⟨hfinishes.entries, fun _ _ => hfinishes.handle?, hfinishes⟩
  | started behaviour tree =>
    have hfinishes := finishes_run_of_started hsound hstopped hlaunch
    exact ⟨hfinishes.entries, fun _ _ => hfinishes.handle?, hfinishes⟩

def occupied : Lab :=
  { ofSettings { tempDirectory := "/t" } {} [] 4 with
    registry := { killGrace := 2000, handles := [Concurrent.endless], entries := [1] } }

/-- A program that takes too long is killed, and reaped 30 milliseconds later. -/
theorem run_restores_entries_occupied :
    let launch : Launcher := fun s => .started { ending := none, killDelay := some 30 } s.tree
    let after := (occupied.run launch {} ⟨"sh", [], "/"⟩ 50).2.registry
    occupied.registry.IsSound ∧ occupied.sweeper.dueAt = none ∧ after.entries = [1] ∧
      after.handle? 1 = some Concurrent.endless ∧
      ∃ h status, after.handle? 2 = some h ∧ h.child.reaped = some status := by
  intro launch after
  have hsound : occupied.registry.IsSound := ⟨by simp [occupied, Registry.handle?], by decide⟩
  obtain ⟨hentries, hothers, h, hafter, hbehaviour, hreaped⟩ :=
    run_restores_entries launch {} ⟨"sh", [], "/"⟩ 50 occupied hsound rfl
  have hprompt : h.child.IsPrompt 2000 := by
    refine ⟨?_, ⟨30, ?_, by decide⟩, fun now => ?_⟩ <;> rw [hbehaviour]
  obtain ⟨status, hstatus⟩ := hreaped hprompt
  refine ⟨hsound, rfl, hentries, hothers 1 _ rfl, h, status, ?_, hstatus⟩
  rw [show after = (occupied.registry.draw h).2 from hafter]
  exact Registry.handle?_draw_self occupied.registry h

end Lab

end SnippetLab
