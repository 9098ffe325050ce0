import SnippetLab.Proofs.Process.Children

/-!
An actor whom nobody interrupts. Its steps come to what the operations of the registry do at once, with the
clock read as often as they read it.
-/
namespace SnippetLab

namespace Handle

variable {h : Handle} {now : Nat} {child : Child}

theorem forceKill_of_exited {grace : Nat} {status : ExitStatus} (hp : h.child.poll now = (.exited status, child)) :
    (h.forceKill now grace).2.2 = { h with drain := none, child } := by
  simp only [forceKill, takeDrain, poll, hp]

theorem forceKill_of_not_exited {grace : Nat} {p : Poll} (hp : h.child.poll now = (p, child))
    (hended : ∀ status, p ≠ .exited status) :
    (h.forceKill now grace).2.2 = { h with
      drain := none
      child := match child.kill now with
        | .error _ => child
        | .ok child => (awaitEnd child grace (now + grace) now).2.2 } := by
  cases p with
  | exited status => exact absurd rfl (hended status)
  | running | failed =>
    simp only [forceKill, takeDrain, poll, hp]
    cases child.kill now <;> rfl

/-- How a forced kill goes, and when it is over. -/
theorem forceKill_cases (h : Handle) (now grace : Nat) :
    (∃ status, (h.forceKill now grace).2 =
      (now, { h with drain := none, child := { h.child with reaped := some status } })) ∨
    (∃ reason, h.child.kill now = .error reason ∧ (h.forceKill now grace).2 = (now, { h with drain := none })) ∨
    ∃ child, h.child.kill now = .ok child ∧
      (h.forceKill now grace).2 = ((awaitEnd child grace (now + grace) now).2.1,
        { h with drain := none, child := (awaitEnd child grace (now + grace) now).2.2 }) := by
  rcases hp : h.child.poll now with ⟨p, child⟩
  cases p with
  | exited status =>
    obtain rfl := Child.eq_of_poll_exited hp
    exact .inl ⟨status, by simp only [forceKill, takeDrain, poll, hp]⟩
  | running | failed =>
    obtain rfl := Child.eq_of_poll hp (by simp)
    cases hkill : h.child.kill now with
    | error reason => exact .inr (.inl ⟨reason, rfl, by simp only [forceKill, takeDrain, poll, hp, hkill]⟩)
    | ok child => exact .inr (.inr ⟨child, rfl, by simp only [forceKill, takeDrain, poll, hp, hkill]⟩)

end Handle

namespace Registry

theorem forceKill_of_handle? {r : Registry} {id : ProcessId} {h : Handle} (hr : r.handle? id = some h)
    (now grace : Nat) :
    r.forceKill id now grace =
      ((h.forceKill now grace).1, (h.forceKill now grace).2.1, r.setHandle id (h.forceKill now grace).2.2) := by
  rw [forceKill, hr]

def sweepAll (minAge : Nat) (w : Sweep) (r : Registry) (todo : List ProcessId) : Sweep × Registry :=
  todo.foldl (fun (w, r) id => sweepOne minAge w r id) (w, r)

theorem sweepAll_cons (minAge : Nat) (w : Sweep) (r : Registry) (id : ProcessId) (todo : List ProcessId) :
    sweepAll minAge w r (id :: todo) = sweepAll minAge (sweepOne minAge w r id).1 (sweepOne minAge w r id).2 todo :=
  rfl

theorem sweep_eq (r : Registry) (now minAge : Nat) :
    (r.sweep now minAge).2.2 =
      (sweepAll minAge { now } r r.entries).2.remove (sweepAll minAge { now } r r.entries).1.finished := rfl

def killEach (now last : Nat) (r : Registry) (ids : List ProcessId) : Nat × Registry :=
  ids.foldl (fun (last, r) id =>
    let (_, time, r) := r.forceKill id now r.killGrace
    (max last time, r)) (last, r)

theorem killEach_cons (now last : Nat) (r : Registry) (id : ProcessId) (ids : List ProcessId) :
    killEach now last r (id :: ids) = killEach now (max last (r.forceKill id now r.killGrace).2.1)
      (r.forceKill id now r.killGrace).2.2 ids := rfl

theorem killAll_eq (r : Registry) (now : Nat) :
    (r.killAll now).2.2 = (killEach now now { r with entries := [] } r.entries).2 := rfl

end Registry

namespace Concurrent

/-! Kills -/

inductive Killed (id : ProcessId) (grace : Nat) : Registry → Kill → Registry → Prop
  | last {r r' : Registry} {kill : Kill} (now : Nat) (step : kill.step r id grace now = (r', none)) :
      Killed id grace r kill r'
  | more {r r' r'' : Registry} {kill kill' : Kill} (now : Nat)
      (step : kill.step r id grace now = (r', some kill')) (rest : Killed id grace r' kill' r'') :
      Killed id grace r kill r''

section Kills

variable {r : Registry} {id : ProcessId} {h : Handle}

theorem killed_awaitEnd (hr : r.handle? id = some h) (grace deadline now : Nat) :
    Killed id grace r (.reap deadline)
      (r.setHandle id { h with child := (Handle.awaitEnd h.child grace deadline now).2.2 }) := by
  generalize hc : h.child = child
  have hpolled := Registry.poll_of_handle? hr
  fun_induction Handle.awaitEnd child grace deadline now generalizing r h with
  | case1 child now status ended hpoll =>
    refine .last now ?_
    rw [Kill.step, hpolled, hc, hpoll]
  | case2 child now reason failed hpoll =>
    refine .last now ?_
    rw [Kill.step, hpolled, hc, hpoll]
  | case3 child now running hpoll hlate =>
    refine .last now ?_
    rw [Kill.step, hpolled, hc, hpoll]
    simp only [if_pos hlate]
  | case4 child now running hpoll hearly ih =>
    have hstep : (Kill.reap deadline).step r id grace now =
        (r.setHandle id { h with child := running }, some (.reap deadline)) := by
      rw [Kill.step, hpolled, hc, hpoll]
      simp only [if_neg hearly]
    have hseen := Registry.handle?_setHandle hr { h with child := running }
    have hrest := ih hseen rfl (Registry.poll_of_handle? hseen)
    rw [Registry.setHandle_setHandle] at hrest
    exact .more now hstep hrest

theorem killed_signal (hr : r.handle? id = some h) (grace now : Nat) :
    Killed id grace r .signal
      (match h.child.kill now with
      | .error _ => r
      | .ok child =>
        r.setHandle id { h with child := (Handle.awaitEnd child grace (now + grace) now).2.2 }) := by
  have hsignal := Registry.signal_of_handle? hr now
  cases hkill : h.child.kill now with
  | error reason =>
    rw [hkill] at hsignal
    refine .last now ?_
    rw [Kill.step, hsignal]
    rfl
  | ok child =>
    have hstep : Kill.signal.step r id grace now =
        (r.setHandle id { h with child }, some (.reap (now + grace))) := by
      rw [Kill.step, hsignal, hkill]
      rfl
    have hreap := killed_awaitEnd (Registry.handle?_setHandle hr { h with child }) grace (now + grace) now
    rw [Registry.setHandle_setHandle] at hreap
    exact .more now hstep hreap

/-- What is left of a forced kill once the reader of the output is gone. -/
theorem killed_poll (hr : r.handle? id = some h) (hquiet : h.drain = none) (grace now : Nat) :
    Killed id grace r .poll (r.setHandle id (h.forceKill now grace).2.2) := by
  have hpolled := Registry.poll_of_handle? hr now
  rcases hp : h.child.poll now with ⟨p, child⟩
  rw [hp] at hpolled
  by_cases hended : ∃ status, p = .exited status
  · obtain ⟨status, rfl⟩ := hended
    rw [Handle.forceKill_of_exited hp, ← hquiet]
    refine .last now ?_
    rw [Kill.step, hpolled]
  · rw [not_exists] at hended
    have hstep : Kill.poll.step r id grace now = (r.setHandle id { h with child }, some .signal) := by
      cases p with
      | exited status => exact absurd rfl (hended status)
      | running | failed => rw [Kill.step, hpolled]
    have hsignal := killed_signal (Registry.handle?_setHandle hr { h with child }) grace now
    rw [Handle.forceKill_of_not_exited hp hended, ← hquiet]
    refine .more now hstep ?_
    cases hkill : child.kill now <;>
    · simp only [hkill, Registry.setHandle_setHandle] at hsignal
      exact hsignal

end Kills

theorem killed_forceKill (r : Registry) (id : ProcessId) (grace now : Nat) :
    Killed id grace r .drain (r.forceKill id now grace).2.2 := by
  cases hr : r.handle? id with
  | none =>
    have hdrain : Kill.drain.step r id grace now = (r, some .poll) := by rw [Kill.step, Registry.takeDrain, hr]
    have hpoll : Kill.poll.step r id grace now = (r, some .signal) := by rw [Kill.step, Registry.poll, hr]
    have hsignal : Kill.signal.step r id grace now = (r, none) := by rw [Kill.step, Registry.signal, hr]
    rw [Registry.forceKill, hr]
    exact .more now hdrain (.more now hpoll (.last now hsignal))
  | some h =>
    have hdrain : Kill.drain.step r id grace now = (r.setHandle id { h with drain := none }, some .poll) := by
      rw [Kill.step, Registry.takeDrain_of_handle? hr]
    have hpoll := killed_poll (Registry.handle?_setHandle hr { h with drain := none }) rfl grace now
    rw [Registry.setHandle_setHandle] at hpoll
    have hforced : (r.forceKill id now grace).2.2 =
        r.setHandle id (Handle.forceKill { h with drain := none } now grace).2.2 := by
      rw [Registry.forceKill, hr]
      rfl
    rw [hforced]
    exact .more now hdrain hpoll

/-! Runs of one actor -/

namespace State

theorem put_put (s : State) (a : Actor) (task task' : Task) (registry registry' : Registry) :
    (s.put a task registry).put a task' registry' = s.put a task' registry' := by
  refine congrArg (State.mk registry') (funext fun b => ?_)
  by_cases hba : b = a <;> simp [put, hba]

def IsAlone (s : State) (a : Actor) : Prop := ∀ id, s.IsFree a id

theorem IsAlone.put {s : State} {a : Actor} (h : s.IsAlone a) (task : Task) (registry : Registry) :
    (s.put a task registry).IsAlone a := fun id b hba => by
  rw [s.put_tasks_of_ne hba]
  exact h id b hba

end State

/-- One actor gets from a state to a task and a registry without regard to ids and entries. -/
def Quiet (s : State) (a : Actor) (task : Task) (registry : Registry) : Prop :=
  ∃ es : List Event, (∀ e ∈ es, e.isAside = true) ∧ Run s es (s.put a task registry)

namespace Quiet

variable {s : State} {a : Actor} {task : Task} {registry : Registry}

theorem refl (htask : s.tasks a = task) (hregistry : s.registry = registry) : Quiet s a task registry := by
  have hsame : s.put a task registry = s := by
    subst htask hregistry
    refine congrArg (State.mk s.registry) (funext fun b => ?_)
    by_cases hba : b = a <;> simp [hba]
  refine ⟨[], by simp, ?_⟩
  rw [hsame]
  exact .nil

theorem trans {task' : Task} {registry' : Registry} (h : Quiet s a task' registry')
    (hrest : Quiet (s.put a task' registry') a task registry) : Quiet s a task registry := by
  obtain ⟨es, haside, hrun⟩ := h
  obtain ⟨fs, hrestAside, hrest⟩ := hrest
  rw [State.put_put] at hrest
  exact ⟨es ++ fs, List.forall_mem_append.mpr ⟨haside, hrestAside⟩, hrun.append hrest⟩

theorem head {now : Nat} {e : Event} {task' : Task} {registry' : Registry}
    (hstep : Step a now s e (s.put a task' registry')) (haside : e.isAside = true)
    (hrest : Quiet (s.put a task' registry') a task registry) : Quiet s a task registry :=
  Quiet.trans ⟨[e], by simpa using haside, Run.nil.step hstep⟩ hrest

end Quiet

variable {s : State} {a : Actor}

/-- A kill as part of something larger, which becomes the task at each step of the kill. -/
theorem quiet_of_killed {id : ProcessId} {grace limit : Nat} {r r' : Registry} {kill : Kill}
    (taskAt : Option Kill → Task)
    (hstep : ∀ (t : State) (kill : Kill) (now : Nat), t.IsAlone a → t.registry.killGrace = limit →
      t.tasks a = taskAt (some kill) →
      Step a now t (kill.event a id)
        (t.put a (taskAt (kill.step t.registry id grace now).2) (kill.step t.registry id grace now).1))
    (hkilled : Killed id grace r kill r') (halone : s.IsAlone a) (htask : s.tasks a = taskAt (some kill))
    (hr : s.registry = r) (hlimit : r.killGrace = limit) : Quiet s a (taskAt none) r' := by
  -- along the kill; the grace stays that of the registry, which no step of a kill changes
  induction hkilled generalizing s with
  | last now hkill =>
    have hgo := hstep s _ now halone (hr ▸ hlimit) htask
    rw [hr, hkill] at hgo
    exact .head hgo (Kill.isAside_event ..) (.refl (s.put_tasks_self ..) rfl)
  | @more r₁ r₂ _ k _ now hkill _ ih =>
    have hgo := hstep s _ now halone (hr ▸ hlimit) htask
    rw [hr, hkill] at hgo
    have hkept := (k.step_sameEntries r₁ id grace now).killGrace
    rw [hkill, hlimit] at hkept
    exact .head hgo (Kill.isAside_event ..) (ih (halone.put _ _) (s.put_tasks_self ..) rfl hkept)

theorem quiet_forceKill {id : ProcessId} {grace : Nat} {duty : Duty} (halone : s.IsAlone a)
    (htask : s.tasks a = .killing id grace .drain duty) (now : Nat) :
    Quiet s a (.on duty) (s.registry.forceKill id now grace).2.2 :=
  quiet_of_killed (.afterKill id grace duty)
    (fun _ _ _ halone _ htask => .kill htask fun _ => halone id)
    (killed_forceKill s.registry id grace now) halone htask rfl rfl

/-! The operations of the registry -/

theorem run_register (htask : s.tasks a = .on .none) (h : Handle) :
    Run s [.other, .drew (s.registry.register h).1, .entered (s.registry.register h).1]
      (s.put a (.on (.guard (s.registry.register h).1)) (s.registry.register h).2) := by
  have hstart : Step a 0 s .other (s.put a (.started h) s.registry) := .start h htask
  have hdraw : Step a 0 _ _ _ := .draw (s.put_tasks_self a (.started h) s.registry)
  rw [State.put_put] at hdraw
  have henter : Step a 0 _ _ _ := .enter (s.put_tasks_self a (.drawn (s.registry.draw h).1) (s.registry.draw h).2)
  rw [State.put_put] at henter
  rw [Registry.register_eq]
  exact ((Run.nil.step hstart).step hdraw).step henter

theorem run_release {id : ProcessId} (halone : s.IsAlone a) (htask : s.tasks a = .on (.guard id)) (now : Nat) :
    ∃ es : List Event, (∀ e ∈ es, e.isAside = true) ∧
      Run s (.dropped id :: es) (s.put a (.on .none) (s.registry.release id now).2) := by
  have hdrop : Step a now s (.dropped id) (s.put a (.releasing id) (s.registry.remove [id])) := .drop htask
  have hquiet : Quiet (s.put a (.releasing id) (s.registry.remove [id])) a (.on .none)
      (s.registry.release id now).2 := by
    have hpoll : Step a now _ _ _ := .release (s.put_tasks_self a (.releasing id) (s.registry.remove [id]))
      (halone.put _ _ id)
    have hgrace := (Registry.SameEntries.poll (s.registry.remove [id]) id now).killGrace
    unfold Registry.release
    rcases hp : (s.registry.remove [id]).poll id now with ⟨p, r⟩
    simp only [State.put_registry, hp] at hpoll hgrace
    refine .head hpoll rfl ?_
    cases p with
    | running =>
      change Quiet _ a (.on .none) (r.forceKill id now r.killGrace).2.2
      rw [hgrace]
      exact quiet_forceKill ((halone.put _ _).put _ _) (State.put_tasks_self ..) now
    | exited | failed => exact .refl (State.put_tasks_self ..) rfl
  obtain ⟨es, haside, hrun⟩ := hquiet
  rw [State.put_put] at hrun
  exact ⟨es, haside, (Run.nil.step hdrop).append hrun⟩

theorem quiet_sweepOne {minAge : Nat} {id : ProcessId} {todo : List ProcessId} (w : Registry.Sweep)
    (halone : s.IsAlone a) (htask : s.tasks a = .on (.sweep minAge (id :: todo) w.finished)) :
    Quiet s a (.on (.sweep minAge todo (Registry.sweepOne minAge w s.registry id).1.finished))
      (Registry.sweepOne minAge w s.registry id).2 := by
  have hlook : Step a w.now s _ _ := .look htask (halone id)
  have hgrace := (Registry.SameEntries.poll s.registry id w.now).killGrace
  have hkill (r : Registry) (hr : r.killGrace = s.registry.killGrace) :
      Quiet (s.put a (.killing id s.registry.killGrace .drain (.sweep minAge todo (w.finished ++ [id]))) r) a
        (.on (.sweep minAge todo (w.finished ++ [id]))) (r.forceKill id w.now r.killGrace).2.2 := by
    rw [hr]
    exact quiet_forceKill (halone.put _ _) (s.put_tasks_self ..) w.now
  rw [← Registry.isYoung_poll] at hlook
  unfold Registry.sweepOne
  rcases hp : s.registry.poll id w.now with ⟨p, r⟩
  rw [hp] at hlook hgrace
  refine .head hlook rfl ?_
  cases p with
  | exited status => exact .refl (s.put_tasks_self ..) rfl
  | failed reason => exact hkill r hgrace
  | running =>
    by_cases hyoung : w.now - (r.handle? id).elim 0 (·.child.startedAt) < minAge
    · have hspared : r.isYoung id w.now minAge = true := decide_eq_true hyoung
      simp only [if_pos hyoung, hspared]
      exact .refl (s.put_tasks_self ..) rfl
    · have hdue : r.isYoung id w.now minAge = false := decide_eq_false hyoung
      simp only [if_neg hyoung, hdue]
      exact hkill r hgrace

theorem quiet_sweepAll {minAge : Nat} {todo : List ProcessId} (w : Registry.Sweep) (halone : s.IsAlone a)
    (htask : s.tasks a = .on (.sweep minAge todo w.finished)) :
    Quiet s a (.on (.sweep minAge [] (Registry.sweepAll minAge w s.registry todo).1.finished))
      (Registry.sweepAll minAge w s.registry todo).2 := by
  induction todo generalizing s w with
  | nil => exact .refl htask rfl
  | cons id todo ih =>
    rw [Registry.sweepAll_cons]
    exact (quiet_sweepOne w halone htask).trans (ih _ (halone.put _ _) (s.put_tasks_self ..))

theorem run_sweep (halone : s.IsAlone a) (htask : s.tasks a = .on .none) (now minAge : Nat) :
    ∃ (es : List Event) (finished : List ProcessId), (∀ e ∈ es, e.isAside = true) ∧
      Run s (.snapshot a :: (es ++ [.swept a finished]))
        (s.put a (.on .none) (s.registry.sweep now minAge).2.2) := by
  have hbegin : Step a now s (.snapshot a) (s.put a (.on (.sweep minAge s.registry.entries [])) s.registry) :=
    .beginSweep minAge s.registry.entries htask (.refl _)
  have hquiet := quiet_sweepAll { now } (halone.put _ _)
    (s.put_tasks_self a (.on (.sweep minAge s.registry.entries [])) s.registry)
  rw [Registry.sweep_eq]
  rcases hall : Registry.sweepAll minAge { now } s.registry s.registry.entries with ⟨w, r⟩
  simp only [State.put_registry, hall] at hquiet
  obtain ⟨es, haside, hlooks⟩ := hquiet
  rw [State.put_put] at hlooks
  have hend : Step a now (s.put a (.on (.sweep minAge [] w.finished)) r) (.swept a w.finished) _ :=
    .endSweep (s.put_tasks_self ..)
  rw [State.put_put] at hend
  exact ⟨es, w.finished, haside, (Run.nil.step hbegin).append (hlooks.step hend)⟩

theorem quiet_clearOne {id : ProcessId} {kills : List (ProcessId × Kill)} (halone : s.IsAlone a)
    (htask : s.tasks a = .clearing ((id, .drain) :: kills)) (now : Nat) :
    Quiet s a (.clearing kills) (s.registry.forceKill id now s.registry.killGrace).2.2 := by
  refine quiet_of_killed (fun kill => .clearing ((kill.map (id, ·)).toList ++ kills)) ?_
    (killed_forceKill s.registry id s.registry.killGrace now) halone htask rfl rfl
  intro t kill now halone hlimit htask
  have hfirst : t.tasks a = .clearing ([] ++ (id, kill) :: kills) := htask
  have hgo : Step a now t _ _ := .clearOne hfirst fun _ => halone id
  rwa [hlimit] at hgo

theorem quiet_killEach {ids : List ProcessId} (halone : s.IsAlone a)
    (htask : s.tasks a = .clearing (ids.map fun id => (id, .drain))) (now last : Nat) :
    Quiet s a (.clearing []) (Registry.killEach now last s.registry ids).2 := by
  induction ids generalizing s last with
  | nil => exact .refl htask rfl
  | cons id ids ih =>
    rw [Registry.killEach_cons]
    have hkill := quiet_clearOne halone htask now
    exact hkill.trans (ih (halone.put _ _) (s.put_tasks_self ..) _)

theorem run_killAll (halone : s.IsAlone a) (htask : s.tasks a = .on .none) (now : Nat) :
    ∃ es : List Event, (∀ e ∈ es, e.isAside = true) ∧
      Run s (.cleared a s.registry.entries :: es) (s.put a (.on .none) (s.registry.killAll now).2.2) := by
  have hclear : Step a now s (.cleared a s.registry.entries) _ := .clear htask
  have hquiet := quiet_killEach (halone.put _ _) (s.put_tasks_self a
    (.clearing (s.registry.entries.map fun id => (id, .drain))) { s.registry with entries := [] }) now now
  have hend (t : State) (r : Registry) :
      Step a now (t.put a (.clearing []) r) .other ((t.put a (.clearing []) r).put a (.on .none) r) :=
    .endClear (t.put_tasks_self ..)
  rw [Registry.killAll_eq]
  obtain ⟨es, haside, hrun⟩ := hquiet.trans (.head (hend _ _) rfl (.refl (State.put_tasks_self ..) rfl))
  rw [State.put_put] at hrun
  exact ⟨es, haside, (Run.nil.step hclear).append hrun⟩

end Concurrent
end SnippetLab
