import SnippetLab.Proofs.Process.Course
import SnippetLab.Proofs.Process.Signals

/-!
The kill of all entries at once. It takes out what is tracked when it begins, and all of that is reaped when it is
over. A process that was started and not entered yet, or whose guard has taken its entry out, is not tracked, and may
outlive it.
-/
namespace SnippetLab

namespace Child

variable {c c' : Child} {now grace : Nat}

/-- SIGKILL ends it within the grace, and polls tell what becomes of it. -/
structure IsPrompt (c : Child) (grace : Nat) : Prop where
  killable : c.behaviour.killRefusal = none
  soon : ∃ delay, c.behaviour.killDelay = some delay ∧ delay ≤ grace
  pollable : ∀ now, c.behaviour.pollFailure now = none

/-- It has not ended by the time. -/
def IsAlive (c : Child) (time : Nat) : Prop := c.reaped = none ∧ ∀ e, c.finalEnd = some e → time < e.1

theorem IsPrompt.of_behaviour (h : c.IsPrompt grace) (hsame : c'.behaviour = c.behaviour) : c'.IsPrompt grace :=
  ⟨hsame ▸ h.killable, hsame ▸ h.soon, hsame ▸ h.pollable⟩

theorem IsPrompt.next (h : c.IsPrompt grace) (hnext : c.Next now c') : c'.IsPrompt grace :=
  h.of_behaviour hnext.behaviour

theorem IsPrompt.kill_ne_error (h : c.IsPrompt grace) (now : Nat) (reason : String) : c.kill now ≠ .error reason := by
  unfold kill
  rw [h.killable]
  cases c.reaped <;> simp

theorem IsPrompt.poll_ne_failed (h : c.IsPrompt grace) (now : Nat) (reason : String) :
    (c.poll now).1 ≠ .failed reason := by
  unfold poll
  rw [h.pollable now]
  split
  · simp
  · simp only
    split
    · split <;> simp
    · simp

/-- Once its grace is over, a poll finds a child that was sent SIGKILL to have ended. -/
theorem IsPrompt.poll_of_killed {killed : Nat} (h : c.IsPrompt grace) (hkilled : c.killedAt = some killed)
    (hlate : killed + grace ≤ now) : (c.poll now).1 ≠ .running := by
  obtain ⟨delay, hdelay, hle⟩ := h.soon
  have hkill : c.killEnd = some (killed + delay, .killed) := by simp [killEnd, hkilled, hdelay]
  obtain ⟨e, hend, hbound⟩ : ∃ e, c.finalEnd = some e ∧ e.1 ≤ killed + delay := by
    unfold finalEnd
    rw [hkill]
    cases c.ownEnd with
    | none => exact ⟨_, rfl, Nat.le_refl _⟩
    | some own =>
      by_cases hown : own.1 ≤ killed + delay
      · exact ⟨own, by simp [hown], hown⟩
      · exact ⟨_, by simp [hown]; rfl, Nat.le_refl _⟩
  unfold poll
  rw [hend, h.pollable now]
  split
  · simp
  · simp [show e.1 ≤ now by omega]

theorem Next.killedAt {killed : Nat} (h : c.Next now c') (hkilled : c.killedAt = some killed) :
    c'.killedAt = some killed := by
  cases h with
  | same => exact hkilled
  | polled => rw [poll_eq]; exact hkilled
  | killed kill => obtain ⟨-, -, rfl⟩ | ⟨-, -, rfl⟩ := kill_cases kill <;> simp [hkilled]

/-- It is reaped, or was sent SIGKILL early enough to have ended by the deadline. -/
def IsDoomed (c : Child) (grace deadline : Nat) : Prop :=
  (∃ status, c.reaped = some status) ∨ ∃ killed, c.killedAt = some killed ∧ killed + grace ≤ deadline

theorem IsDoomed.poll_ne_running {deadline : Nat} (h : c.IsDoomed grace deadline) (hprompt : c.IsPrompt grace)
    (hlate : deadline ≤ now) : (c.poll now).1 ≠ .running := by
  obtain ⟨status, hreaped⟩ | ⟨killed, hkilled, hle⟩ := h
  · rw [poll_of_reaped hreaped]
    simp
  · exact hprompt.poll_of_killed hkilled (Nat.le_trans hle hlate)

theorem IsDoomed.next {deadline : Nat} (h : c.IsDoomed grace deadline) (hnext : c.Next now c') :
    c'.IsDoomed grace deadline := by
  obtain ⟨status, hreaped⟩ | ⟨killed, hkilled, hle⟩ := h
  · exact .inl ⟨status, hnext.reaped hreaped⟩
  · exact .inr ⟨killed, hnext.killedAt hkilled, hle⟩

theorem IsDoomed.kill (hkilled : ∀ killed, c.killedAt = some killed → killed ≤ now) (h : c.kill now = .ok c') :
    c'.IsDoomed grace (now + grace) := by
  obtain ⟨status, hreaped, rfl⟩ | ⟨-, -, rfl⟩ := kill_cases h
  · exact .inl ⟨status, hreaped⟩
  · cases hbefore : c.killedAt with
    | none => exact .inr ⟨now, rfl, Nat.le_refl _⟩
    | some killed => exact .inr ⟨killed, rfl, Nat.add_le_add_right (hkilled killed hbefore) grace⟩

theorem Next.killedAt_cases {killed : Nat} (h : c.Next now c') (hkilled : c'.killedAt = some killed) :
    c.killedAt = some killed ∨ killed = now := by
  cases h with
  | same => exact .inl hkilled
  | polled => rw [poll_eq] at hkilled; exact .inl hkilled
  | killed kill =>
    obtain ⟨-, -, rfl⟩ | ⟨-, -, rfl⟩ := kill_cases kill
    · exact .inl hkilled
    · cases hc : c.killedAt with
      | none => simp [hc] at hkilled; exact .inr hkilled.symm
      | some before => simp [hc] at hkilled; exact .inl (by rw [hkilled])

end Child

namespace Concurrent

variable {a b : Actor} {now time grace : Nat} {start s s' : State} {e : Event} {es : List Event} {id : ProcessId}

/-! What is known -/

def State.IsKnown (s : State) (id : ProcessId) : Prop := ∃ x, s.registry.handle? id = some x

def State.IsReaped (s : State) (id : ProcessId) : Prop :=
  ∃ x status, s.registry.handle? id = some x ∧ x.child.reaped = some status

theorem State.IsKnown.step (h : s.IsKnown id) (hstep : Step a now s e s') : s'.IsKnown id := by
  obtain ⟨x, hx⟩ := h
  obtain ⟨x', hx', -⟩ := hstep.exists_handle? hx
  exact ⟨x', hx'⟩

theorem State.IsReaped.step (h : s.IsReaped id) (hstep : Step a now s e s') : s'.IsReaped id := by
  obtain ⟨x, status, hx, hreaped⟩ := h
  obtain ⟨x', hx', hnext⟩ := hstep.exists_handle? hx
  exact ⟨x', status, hx', hnext.reaped hreaped⟩

theorem Run.isKnown (hstart : start.IsFresh) (h : Run start es s) :
    (∀ a id, s.tasks a = .drawn id → s.IsKnown id) ∧ ∀ id ∈ s.registry.entries, s.IsKnown id := by
  induction h with
  | nil => exact ⟨by simp [hstart.tasks], by simp [hstart.entries]⟩
  | @step es s s' e a now hrun hstep ih =>
    obtain ⟨hdrawn, hentries⟩ := ih
    constructor
    · intro b id hb
      by_cases hba : b = a
      · subst hba
        cases hstep with
        | draw task =>
          rw [s.put_tasks_self] at hb
          cases hb
          exact ⟨_, Registry.handle?_draw_self ..⟩
        | release =>
          rw [s.put_tasks_self] at hb
          exact absurd hb ((Task.GainsNothing.afterRelease (t := .on .none) ..).drawn id)
        | look =>
          rw [s.put_tasks_self] at hb
          exact absurd hb ((Task.GainsNothing.afterLook ..).drawn id)
        | kill task free =>
          rw [s.put_tasks_self] at hb
          exact absurd hb (Task.GainsNothing.drawn (t := s.tasks b) (by rw [task]; exact .afterKill _) id)
        | _ =>
          rw [s.put_tasks_self] at hb
          cases hb
      · rw [hstep.tasks_of_ne hba] at hb
        exact (hdrawn b id hb).step hstep
    · intro id hid
      obtain ⟨id', task, heq⟩ | hless := hstep.entries_cases
      · rw [heq] at hid
        obtain hid | hid := List.mem_append.mp hid
        · exact (hentries id hid).step hstep
        · cases List.mem_singleton.mp hid
          exact (hdrawn a id task).step hstep
      · exact (hentries id (hless.subset hid)).step hstep

theorem Run.isSound (hstart : start.IsFresh) (h : Run start es s) : s.registry.IsSound :=
  ⟨(h.isKnown hstart).2, h.nodup_entries hstart⟩

theorem Step.killGrace (h : Step a now s e s') : s'.registry.killGrace = s.registry.killGrace := by
  by_cases he : e.isAside = true
  · exact (h.sameEntries he).killGrace
  · cases h with
    | draw | enter | drop | deregister | beginSweep | endSweep | clear => rfl
    | kill | clearOne => exact absurd (Kill.isAside_event ..) he
    | start | attachDrain | takeDrain | poll | forceKill | release | look | endClear => exact absurd rfl he

/-! The clock -/

/-- A run whose steps follow the clock, and in which processes are started as the law has it. -/
inductive Timeline (law : State → Handle → Prop) (start : State) : Nat → List Event → State → Prop
  | nil : Timeline law start 0 [] start
  | step {time now : Nat} {es : List Event} {s s' : State} {e : Event} {a : Actor}
      (line : Timeline law start time es s) (later : time ≤ now) (step : Step a now s e s')
      (lawful : ∀ x, s'.tasks a = .started x → law s x) : Timeline law start now (es ++ [e]) s'

theorem Timeline.run {law : State → Handle → Prop} (h : Timeline law start time es s) : Run start es s := by
  induction h with
  | nil => exact .nil
  | step _ _ hstep _ ih => exact ih.step hstep

/-- SIGKILL will take effect within the grace of the registry, and was not sent yet. -/
def State.StartsPrompt (s : State) (x : Handle) : Prop :=
  x.child.IsPrompt s.registry.killGrace ∧ x.child.killedAt = none

theorem Timeline.killGrace {law : State → Handle → Prop} (h : Timeline law start time es s) :
    s.registry.killGrace = start.registry.killGrace := by
  induction h with
  | nil => rfl
  | step _ _ hstep _ ih => exact hstep.killGrace.trans ih

theorem Timeline.isPrompt (hstart : start.IsFresh) (h : Timeline State.StartsPrompt start time es s) (p : Site)
    (c : Child) (hp : s.childAt p = some c) :
    c.IsPrompt start.registry.killGrace ∧ ∀ killed, c.killedAt = some killed → killed ≤ time := by
  induction h generalizing p c with
  | nil => simp [hstart.childAt] at hp
  | @step time now es s s' e a hline hlater hstep hlaw ih =>
    obtain ⟨q, d, hq, hnext, -⟩ | ⟨-, x, hx, rfl⟩ := hstep.childAt_cases hp
    · obtain ⟨hprompt, hkilled⟩ := ih q d hq
      refine ⟨hprompt.next hnext, fun killed hc => ?_⟩
      obtain hold | rfl := hnext.killedAt_cases hc
      · exact Nat.le_trans (hkilled killed hold) hlater
      · exact Nat.le_refl _
    · obtain ⟨hprompt, hnone⟩ := hlaw x hx
      rw [hline.killGrace] at hprompt
      exact ⟨hprompt, by simp [hnone]⟩

/-! What a kill comes to -/

def State.IsDoomed (s : State) (id : ProcessId) (deadline : Nat) : Prop :=
  ∃ x, s.registry.handle? id = some x ∧ x.child.IsDoomed s.registry.killGrace deadline

theorem State.IsDoomed.step {deadline : Nat} (h : s.IsDoomed id deadline) (hstep : Step a now s e s') :
    s'.IsDoomed id deadline := by
  obtain ⟨x, hx, hdoom⟩ := h
  obtain ⟨x', hx', hnext⟩ := hstep.exists_handle? hx
  exact ⟨x', hx', hstep.killGrace ▸ hdoom.next hnext⟩

namespace Kill

variable {kill : Kill} {x : Handle} {r : Registry}

/-- A kill that ends has seen its child reaped. -/
theorem isReaped_of_step (hr : r.handle? id = some x) (hprompt : x.child.IsPrompt grace)
    (hdoomed : ∀ deadline, kill = .reap deadline → x.child.IsDoomed grace deadline)
    (h : (kill.step r id grace now).2 = none) :
    ∃ x' status, (kill.step r id grace now).1.handle? id = some x' ∧ x'.child.reaped = some status := by
  have hpolled := Registry.poll_of_handle? hr now
  -- what remains of a poll that saw the end
  have hseen {status : ExitStatus} {r' : Registry} (hp : r.poll id now = (.exited status, r')) :
      ∃ x' status, r'.handle? id = some x' ∧ x'.child.reaped = some status := by
    rw [hpolled] at hp
    obtain ⟨hfirst, rfl⟩ := Prod.mk.inj hp
    exact ⟨_, status, Registry.handle?_setHandle hr _, Child.reaped_of_poll hfirst⟩
  cases kill with
  | drain => cases h
  | poll =>
    rw [step] at h ⊢
    split at h
    · next status r' hp => exact hseen hp
    · cases h
  | signal =>
    cases hkill : x.child.kill now with
    | error reason => exact absurd hkill (hprompt.kill_ne_error now reason)
    | ok child =>
      rw [step, Registry.signal_of_handle? hr, hkill] at h
      cases h
  | reap deadline =>
    rw [step] at h ⊢
    split at h
    · next r' hp =>
      have hrunning : (x.child.poll now).1 = .running := by
        rw [hpolled] at hp
        exact (Prod.mk.inj hp).1
      have hlate : deadline ≤ now := by
        by_contra hearly
        rw [if_neg hearly] at h
        cases h
      exact absurd hrunning ((hdoomed deadline rfl).poll_ne_running hprompt hlate)
    · next p r' hnot hp =>
      cases p with
      | running => exact absurd rfl hnot
      | exited status => exact hseen hp
      | failed reason =>
        rw [hpolled] at hp
        exact absurd (Prod.mk.inj hp).1 (hprompt.poll_ne_failed now reason)

/-- A kill that waits for the end has sent SIGKILL in time for its deadline. -/
theorem isDoomed_of_step {deadline : Nat} (hr : r.handle? id = some x)
    (hkilled : ∀ killed, x.child.killedAt = some killed → killed ≤ now)
    (hdoomed : ∀ deadline, kill = .reap deadline → x.child.IsDoomed grace deadline)
    (h : (kill.step r id grace now).2 = some (.reap deadline)) :
    ∃ x', (kill.step r id grace now).1.handle? id = some x' ∧ x'.child.IsDoomed grace deadline := by
  cases kill with
  | drain => cases h
  | poll =>
    rw [step] at h
    split at h <;> cases h
  | signal =>
    rw [step] at h ⊢
    split at h
    · next r' hsignal =>
      cases h
      obtain ⟨y, child, hy, hkill, rfl⟩ := Registry.signal_eq_ok hsignal
      obtain rfl : x = y := Option.some.inj (hr.symm.trans hy)
      exact ⟨_, Registry.handle?_setHandle hr _, .kill hkilled hkill⟩
    · cases h
  | reap deadline' =>
    rw [step] at h ⊢
    split at h
    · next r' hp =>
      rw [Registry.poll_of_handle? hr] at hp
      obtain ⟨-, rfl⟩ := Prod.mk.inj hp
      split at h <;> cases h
      exact ⟨_, Registry.handle?_setHandle hr _, (hdoomed deadline rfl).next .polled⟩
    · cases h

end Kill

/-! The kill of all entries -/

/-- Each process that was taken out with all is reaped, or its kill goes on, with SIGKILL sent in time for the
deadline of its wait. -/
structure Pursued (es : List Event) (s : State) : Prop where
  reaped : ∀ a ids id, .cleared a ids ∈ es → id ∈ ids →
    s.IsReaped id ∨ ∃ kills kill, s.tasks a = .clearing kills ∧ (id, kill) ∈ kills
  known : ∀ a kills id kill, s.tasks a = .clearing kills → (id, kill) ∈ kills → s.IsKnown id
  doomed : ∀ a kills id deadline, s.tasks a = .clearing kills → (id, .reap deadline) ∈ kills → s.IsDoomed id deadline

namespace Pursued

theorem put (h : Pursued es s) (hstep : Step a now s e s')
    (hgone : ∀ kills id kill, s.tasks a = .clearing kills → (id, kill) ∈ kills →
      s'.IsReaped id ∨ ∃ kills' kill', s'.tasks a = .clearing kills' ∧ (id, kill') ∈ kills')
    (hcleared : ∀ b ids id, e = .cleared b ids → id ∈ ids →
      ∃ kills kill, s'.tasks b = .clearing kills ∧ (id, kill) ∈ kills)
    (hown : ∀ kills id kill, s'.tasks a = .clearing kills → (id, kill) ∈ kills →
      s'.IsKnown id ∧ ∀ deadline, kill = .reap deadline → s'.IsDoomed id deadline) : Pursued (es ++ [e]) s' where
  reaped b ids id hmem hid := by
    obtain hmem | heq := List.mem_append.mp hmem
    · obtain hreaped | ⟨kills, kill, htask, hkill⟩ := h.reaped b ids id hmem hid
      · exact .inl (hreaped.step hstep)
      · by_cases hb : b = a
        · subst hb
          exact hgone kills id kill htask hkill
        · exact .inr ⟨kills, kill, (hstep.tasks_of_ne hb).trans htask, hkill⟩
    · exact .inr (hcleared b ids id (List.mem_singleton.mp heq).symm hid)
  known b kills id kill htask hkill := by
    by_cases hb : b = a
    · subst hb
      exact (hown kills id kill htask hkill).1
    · rw [hstep.tasks_of_ne hb] at htask
      exact (h.known b kills id kill htask hkill).step hstep
  doomed b kills id deadline htask hkill := by
    by_cases hb : b = a
    · subst hb
      exact (hown kills id _ htask hkill).2 deadline rfl
    · rw [hstep.tasks_of_ne hb] at htask
      exact (h.doomed b kills id deadline htask hkill).step hstep

theorem aside (h : Pursued es s) (hstep : Step a now s e s') (he : ∀ b ids, e ≠ .cleared b ids)
    (hbefore : ∀ kills, s.tasks a = .clearing kills → kills = []) (hafter : ∀ kills, s'.tasks a ≠ .clearing kills) :
    Pursued (es ++ [e]) s' := by
  refine h.put hstep (fun kills id kill htask hkill => ?_) (fun b ids id heq => absurd heq (he b ids))
    fun kills id kill htask => absurd htask (hafter kills)
  rw [hbefore kills htask] at hkill
  cases hkill

theorem clear (h : Pursued es s) (hknown : ∀ id ∈ s.registry.entries, s.IsKnown id) (task : s.tasks a = .on .none) :
    Pursued (es ++ [.cleared a s.registry.entries])
      (s.put a (.clearing (s.registry.entries.map fun id => (id, .drain))) { s.registry with entries := [] }) := by
  have hstep : Step a 0 s _ _ := .clear task
  refine h.put hstep (fun kills id kill htask => ?_) (fun b ids id heq hid => ?_) fun kills id kill htask hkill => ?_
  · rw [task] at htask
    cases htask
  · cases heq
    exact ⟨_, .drain, s.put_tasks_self .., List.mem_map_of_mem hid⟩
  · rw [s.put_tasks_self] at htask
    cases htask
    obtain ⟨_, hid, heq⟩ := List.mem_map.mp hkill
    cases heq
    exact ⟨(hknown _ hid).step hstep, fun deadline hreap => by cases hreap⟩

theorem clearOne {before after : List (ProcessId × Kill)} {kill : Kill} (h : Pursued es s)
    (hchildren : ∀ x, s.registry.handle? id = some x →
      x.child.IsPrompt s.registry.killGrace ∧ ∀ killed, x.child.killedAt = some killed → killed ≤ now)
    (task : s.tasks a = .clearing (before ++ (id, kill) :: after)) (free : kill = .poll → s.IsFree a id) :
    Pursued (es ++ [kill.event a id])
      (s.put a
        (.clearing (before ++ ((kill.step s.registry id s.registry.killGrace now).2.map fun k => (id, k)).toList ++
          after))
        (kill.step s.registry id s.registry.killGrace now).1) := by
  have hstep : Step a now s _ _ := .clearOne task free
  have hself : (id, kill) ∈ before ++ (id, kill) :: after := by simp
  obtain ⟨x, hx⟩ := h.known a _ id kill task hself
  obtain ⟨hprompt, hkilled⟩ := hchildren x hx
  have hdoomed (deadline : Nat) (hkill : kill = .reap deadline) :
      x.child.IsDoomed s.registry.killGrace deadline := by
    obtain ⟨y, hy, hdoom⟩ := h.doomed a _ id deadline task (hkill ▸ hself)
    rw [hx] at hy
    cases hy
    exact hdoom
  refine h.put hstep (fun kills target k htask hk => ?_) (fun b ids target heq => by cases kill <;> cases heq)
    fun kills target k htask hk => ?_
  · rw [task] at htask
    cases htask
    rw [s.put_tasks_self]
    obtain hmem | heq | hmem : (target, k) ∈ before ∨ (target, k) = (id, kill) ∨ (target, k) ∈ after := by
      simpa using hk
    · exact .inr ⟨_, k, rfl, by simp [hmem]⟩
    · cases heq
      cases hnext : (kill.step s.registry id s.registry.killGrace now).2 with
      | none => exact .inl (Kill.isReaped_of_step hx hprompt hdoomed hnext)
      | some next => exact .inr ⟨_, next, rfl, by simp⟩
    · exact .inr ⟨_, k, rfl, by simp [hmem]⟩
  · rw [s.put_tasks_self] at htask
    cases htask
    obtain hold | ⟨rfl, hnext⟩ := Task.mem_clearOne hk
    · refine ⟨(h.known a _ target k task (Task.mem_of_rest hold)).step hstep, fun deadline hreap => ?_⟩
      subst hreap
      exact (h.doomed a _ target deadline task (Task.mem_of_rest hold)).step hstep
    · refine ⟨State.IsKnown.step ⟨x, hx⟩ hstep, fun deadline hreap => ?_⟩
      subst hreap
      obtain ⟨x', hx', hdoom⟩ := Kill.isDoomed_of_step hx hkilled hdoomed hnext
      exact ⟨x', hx', by rwa [hstep.killGrace]⟩

end Pursued

theorem Timeline.pursued (hstart : start.IsFresh) (h : Timeline State.StartsPrompt start time es s) :
    Pursued es s := by
  induction h with
  | nil => exact ⟨by simp, by simp [hstart.tasks], by simp [hstart.tasks]⟩
  | @step time now es s s' e a hline hlater hstep hlaw ih =>
    have hstep' := hstep
    cases hstep with
    | clear task => exact ih.clear (hline.run.isKnown hstart).2 task
    | @clearOne before after id kill task free =>
      refine ih.clearOne (fun x hx => ?_) task free
      obtain ⟨hprompt, hkilled⟩ := hline.isPrompt hstart (.process id) x.child (by simp [State.childAt, hx])
      exact ⟨hline.killGrace ▸ hprompt, fun killed hc => Nat.le_trans (hkilled killed hc) hlater⟩
    | endClear task => exact ih.aside hstep' (by simp) (by simp [task]) (by simp)
    | @release id task free =>
      refine ih.aside hstep' (by simp) (by simp [task]) fun kills => ?_
      rw [s.put_tasks_self]
      obtain ⟨duty, hnext | hnext⟩ :=
        Task.afterRelease_cases id s.registry.killGrace (s.registry.poll id now).1 <;> simp [hnext]
    | @look minAge id todo finished task free =>
      refine ih.aside hstep' (by simp) (by simp [task]) fun kills => ?_
      rw [s.put_tasks_self]
      obtain ⟨duty, hnext | hnext⟩ := Task.afterLook_cases minAge id s.registry.killGrace
        (s.registry.isYoung id now minAge) todo finished (s.registry.poll id now).1 <;> simp [hnext]
    | @kill id grace kill duty task =>
      refine ih.aside hstep' (fun b ids => ?_) (by simp [task]) fun kills => ?_
      · cases kill <;> simp [Kill.event]
      · rw [s.put_tasks_self]
        cases (kill.step s.registry id grace now).2 <;> simp [Task.afterKill]
    | start _ task | draw task | enter task | attachDrain _ _ task | takeDrain _ task | poll _ task
    | forceKill _ _ task | drop task | deregister _ task | beginSweep _ _ task | endSweep task =>
      exact ih.aside hstep' (by simp) (by simp [task]) (by simp)

theorem Timeline.of_append_cons {law : State → Handle → Prop} {before after : List Event}
    (h : Timeline law start time (before ++ e :: after) s) :
    ∃ earlier now b t t', Timeline law start earlier before t ∧ Step b now t e t' := by
  generalize hes : before ++ e :: after = es at h
  induction h generalizing after with
  | nil => simp at hes
  | step hline hlater hstep hlaw ih =>
    obtain rfl | ⟨front, last, rfl⟩ := List.eq_nil_or_concat' after
    · obtain ⟨rfl, hlast⟩ := List.append_inj' hes rfl
      cases hlast
      exact ⟨_, _, _, _, _, hline, hstep⟩
    · rw [← List.cons_append, ← List.append_assoc] at hes
      exact ih (List.append_inj' hes rfl).1

/-- It was entered, and nobody has taken it out. -/
def IsTracked (id : ProcessId) (es : List Event) : Prop := .entered id ∈ es ∧ ∀ e ∈ es, ¬e.Removes id

theorem Step.of_cleared {ids : List ProcessId} (h : Step b now s (.cleared a ids) s') : ids = s.registry.entries := by
  generalize he : Event.cleared a ids = e at h
  cases h with
  | clear => cases he; rfl
  | @kill id grace kill | @clearOne before after id kill => cases kill <;> cases he
  | _ => cases he

theorem State.IsReaped.not_isAlive {c : Child} (h : s.IsReaped id) (hid : s.childAt (.process id) = some c) :
    ¬c.IsAlive time := by
  obtain ⟨x, status, hx, hreaped⟩ := h
  simp only [State.childAt, hx, Option.map_some, Option.some.injEq] at hid
  intro halive
  rw [← hid] at halive
  simp [halive.1] at hreaped

/-- What is left when a kill of all entries is over: whoever outlives it was not tracked when it began. -/
structure Survived (before : List Event) (ids : List ProcessId) (time : Nat) (s : State) : Prop where
  taken : ∀ id, id ∈ ids ↔ IsTracked id before
  reaped : ∀ id, IsTracked id before → s.IsReaped id
  outlived : ∀ p c, s.childAt p = some c → c.IsAlive time →
    (∃ b, p = .starter b) ∨ ∃ id, p = .process id ∧ ¬IsTracked id before

/-- However others start, register and release processes meanwhile, when a kill of all entries returns, all that was
tracked when it began is reaped. -/
theorem survived_of_cleared {before after : List Event} {ids : List ProcessId} (hstart : start.IsFresh)
    (h : Timeline State.StartsPrompt start time (before ++ .cleared a ids :: after) s)
    (hreturned : s.tasks a = .on .none) : Survived before ids time s := by
  have htaken (id : ProcessId) : id ∈ ids ↔ IsTracked id before := by
    obtain ⟨earlier, now, b, t, t', hline, hstep⟩ := h.of_append_cons
    rw [hstep.of_cleared]
    exact (hline.run.consistent hstart).present id
  have hreaped (id : ProcessId) (hid : IsTracked id before) : s.IsReaped id := by
    obtain hreaped | ⟨kills, kill, htask, -⟩ := (h.pursued hstart).reaped a ids id (by simp) ((htaken id).mpr hid)
    · exact hreaped
    · rw [hreturned] at htask
      cases htask
  refine ⟨htaken, hreaped, fun p c hp halive => ?_⟩
  cases p with
  | starter b => exact .inl ⟨b, rfl⟩
  | process id => exact .inr ⟨id, rfl, fun hid => (hreaped id hid).not_isAlive hp halive⟩

theorem startsPrompt_endless : idle.StartsPrompt endless := by
  refine ⟨⟨rfl, ⟨0, rfl, ?_⟩, fun _ => rfl⟩, rfl⟩
  exact Nat.zero_le _

/-- One process is entered and killed, and another has just been started. -/
theorem survived_of_cleared_endless :
    ∃ s, Timeline State.StartsPrompt idle 9 ([.other, .drew 1, .entered 1, .other] ++ .cleared 1 [1] ::
        [.silenced 1 1, .other, .other, .other, .other]) s ∧ s.tasks 1 = .on .none ∧
      Survived [.other, .drew 1, .entered 1, .other] [1] 9 s := by
  have hfirst : Timeline State.StartsPrompt idle 0 [.other] _ :=
    .step .nil (Nat.le_refl 0) (.start endless rfl : Step 0 0 _ _ _) fun x hx => by
      cases hx
      exact startsPrompt_endless
  have hentered := (hfirst.step (by decide) (.draw rfl : Step 0 1 _ _ _) fun x hx => by cases hx).step (by decide)
    (.enter rfl : Step 0 2 _ _ _) fun x hx => by cases hx
  have hsecond := hentered.step (by decide) (.start endless rfl : Step 2 3 _ _ _) fun x hx => by
    cases hx
    exact startsPrompt_endless
  have hcleared := (hsecond.step (by decide) (.clear rfl : Step 1 4 _ _ _) fun x hx => by cases hx).step (by decide)
    (.clearOne (show _ = Task.clearing ([] ++ (1, .drain) :: []) from rfl) (fun h => by cases h) : Step 1 5 _ _ _)
    fun x hx => by cases hx
  have hpolled := hcleared.step (by decide)
    (.clearOne (show _ = Task.clearing ([] ++ (1, .poll) :: []) from rfl) (fun _ b hb => by
      -- of the two others who have done anything, neither is at a kill
      by_cases hfirst : b = 0 <;> by_cases hsecond : b = 2 <;>
        simp [State.put, idle, Task.isHolding, hb, hfirst, hsecond]) : Step 1 6 _ _ _) fun x hx => by cases hx
  have hsignalled := hpolled.step (by decide)
    (.clearOne (show _ = Task.clearing ([] ++ (1, .signal) :: []) from rfl) (fun h => by cases h) : Step 1 7 _ _ _)
    fun x hx => by cases hx
  have hreturned := (hsignalled.step (by decide)
    (.clearOne (show _ = Task.clearing ([] ++ (1, .reap 2007) :: []) from rfl) (fun h => by cases h) : Step 1 8 _ _ _)
    fun x hx => by cases hx).step (by decide) (.endClear rfl : Step 1 9 _ _ _) fun x hx => by cases hx
  exact ⟨_, hreturned, rfl, survived_of_cleared isFresh_idle hreturned rfl⟩

def lasting : Job where
  label := "sh"
  child := endless.child
  limits := {}
  timeout := 10000

/-- What was started and not entered yet outlives a kill of all entries. -/
theorem exists_outliving :
    ¬∀ (job : Job) (a b : Actor) (start s : State) (es : List Event) (stage : Stage) (ids : List ProcessId)
      (time : Nat) (p : Site) (c : Child), start.IsFresh → Course job a start es stage s →
        Timeline State.StartsPrompt start time es s → .cleared b ids ∈ es → s.tasks b = .on .none →
          s.childAt p = some c → ¬c.IsAlive time := by
  intro h
  have hbegin : Course lasting 0 idle [] .registering _ := .begin rfl
  have hcourse := ((hbegin.spawn rfl).other (by decide) (.clear rfl : Step 1 1 _ _ _) rfl rfl).other (by decide)
    (.endClear rfl : Step 1 2 _ _ _) rfl rfl
  have hstarted : Timeline State.StartsPrompt idle 0 [.other] _ :=
    .step .nil (Nat.le_refl 0) (.start lasting.handle rfl : Step 0 0 _ _ _) fun x hx => by
      cases hx
      exact startsPrompt_endless
  have hline := (hstarted.step (by decide) (.clear rfl : Step 1 1 _ _ _) fun x hx => by cases hx).step (by decide)
    (.endClear rfl : Step 1 2 _ _ _) fun x hx => by cases hx
  refine h lasting 0 1 idle _ _ _ [] 2 (.starter 0) endless.child isFresh_idle hcourse hline ?_ rfl rfl ⟨rfl, ?_⟩
  · exact List.mem_append_left _ (List.mem_append_right _ (List.mem_singleton_self _))
  · simp [Child.finalEnd, Child.ownEnd, Child.killEnd, endless]

/-- What its guard has taken out and not looked at yet outlives it, too. -/
theorem exists_outliving_released :
    ∃ es s c, Course lasting 0 idle es (.leaving 1 false (.error (.process "failed to start output drain: EAGAIN"))) s ∧
      .cleared 1 [] ∈ es ∧ s.tasks 1 = .on .none ∧ s.childAt (.process 1) = some c ∧ ∀ time, c.IsAlive time := by
  have hbegin : Course lasting 0 idle [] .registering _ := .begin rfl
  have hentered := ((hbegin.spawn rfl).draw rfl).enter rfl
  have hdropped := (hentered.unread "EAGAIN").drop rfl
  have hcleared := hdropped.other (by decide) (.clear rfl : Step 1 1 _ _ _) rfl rfl
  have hreturned := hcleared.other (by decide) (.endClear rfl : Step 1 2 _ _ _) rfl rfl
  refine ⟨_, _, endless.child, hreturned, ?_, rfl, rfl, fun time => ⟨rfl, ?_⟩⟩
  · exact List.mem_append_left _ (List.mem_append_right _ (List.mem_singleton_self _))
  · simp [Child.finalEnd, Child.ownEnd, Child.killEnd, endless]

end Concurrent
end SnippetLab
