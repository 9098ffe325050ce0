import SnippetLab.Proofs.Process.Children
import SnippetLab.Proofs.Process.History
import Mathlib.Data.List.Nodup

/-!
SIGKILL and pids. A pid is a child's own until the child is reaped, and then the system may give it to others. A kill
keeps the child locked from the poll that did not see it end, so that its signal finds it unreaped; and what a poll
has once seen of the end, all later polls see.
-/
namespace SnippetLab.Concurrent

variable {a b : Actor} {now : Nat} {start s s' : State} {e : Event} {es : List Event} {id : ProcessId} {c : Contact}

/-! Starting processes -/

inductive Site
  | process (id : ProcessId)
  | starter (a : Actor)

def State.childAt (s : State) : Site → Option Child
  | .process id => (s.registry.handle? id).map Handle.child
  | .starter a =>
    match s.tasks a with
    | .started x => some x.child
    | _ => none

/-- The system gives out no pid that a child has which is not reaped yet. -/
structure State.MayStart (s : State) (x : Handle) : Prop where
  unreaped : x.child.reaped = none
  unused : ∀ p c, s.childAt p = some c → c.reaped = none → c.pid ≠ x.child.pid

inductive LawfulRun (law : State → Handle → Prop) (start : State) : List Event → State → Prop
  | nil : LawfulRun law start [] start
  | step {es : List Event} {s s' : State} {e : Event} {a : Actor} {now : Nat} (run : LawfulRun law start es s)
      (step : Step a now s e s') (lawful : ∀ x, s'.tasks a = .started x → law s x) :
      LawfulRun law start (es ++ [e]) s'

theorem LawfulRun.run {law : State → Handle → Prop} (h : LawfulRun law start es s) : Run start es s := by
  induction h with
  | nil => exact .nil
  | step _ hstep _ ih => exact ih.step hstep

/-! Pids -/

/-- No two children that are not reaped have one pid. -/
def State.IsUnambiguous (s : State) : Prop :=
  ∀ p q c d, s.childAt p = some c → s.childAt q = some d → c.reaped = none → d.reaped = none → c.pid = d.pid → p = q

theorem State.childAt_starter {x : Handle} (h : s.tasks a = .started x) : s.childAt (.starter a) = some x.child := by
  simp [childAt, h]

theorem State.started_of_childAt {c : Child} (h : s.childAt (.starter a) = some c) :
    ∃ x, s.tasks a = .started x ∧ x.child = c := by
  rw [childAt] at h
  split at h
  · next htask => exact ⟨_, htask, Option.some.inj h⟩
  · cases h

theorem Step.childAt_cases {p : Site} {c' : Child} (h : Step a now s e s') (hp : s'.childAt p = some c') :
    (∃ q c, s.childAt q = some c ∧ c.Next now c' ∧
      (q = p ∨ q = .starter a ∧ ∃ id, p = .process id ∧ s'.tasks a = .drawn id)) ∨
    p = .starter a ∧ ∃ x, s'.tasks a = .started x ∧ x.child = c' := by
  cases p with
  | process id =>
    obtain ⟨x', hid, rfl⟩ := Option.map_eq_some_iff.mp hp
    obtain ⟨x, hx, hnext⟩ | ⟨hstarted, -, hdrawn⟩ := h.handle?_cases hid
    · exact .inl ⟨.process id, x.child, by simp [State.childAt, hx], hnext, .inl rfl⟩
    · exact .inl ⟨.starter a, x'.child, State.childAt_starter hstarted, .same, .inr ⟨rfl, id, rfl, hdrawn⟩⟩
  | starter b =>
    obtain ⟨x, htask, rfl⟩ := State.started_of_childAt hp
    by_cases hb : b = a
    · subst hb
      exact .inr ⟨rfl, x, htask, rfl⟩
    · rw [h.tasks_of_ne hb] at htask
      exact .inl ⟨.starter b, x.child, State.childAt_starter htask, .same, .inl rfl⟩

theorem Step.isUnambiguous (h : s.IsUnambiguous) (hstep : Step a now s e s')
    (hlaw : ∀ x, s'.tasks a = .started x → s.MayStart x) : s'.IsUnambiguous := by
  intro p q c' d' hp hq hc hd hpid
  -- a new child has a pid of its own
  have hnew {q₀ : Site} {d d' : Child} {x : Handle} (hx : s'.tasks a = .started x) (hq₀ : s.childAt q₀ = some d)
      (hnext : d.Next now d') (hd : d'.reaped = none) : d'.pid ≠ x.child.pid := by
    rw [hnext.pid]
    exact (hlaw x hx).unused q₀ d hq₀ (hnext.unreaped hd)
  obtain ⟨p₀, c, hp₀, hcnext, hpcase⟩ | ⟨rfl, x, hx, rfl⟩ := hstep.childAt_cases hp <;>
    obtain ⟨q₀, d, hq₀, hdnext, hqcase⟩ | ⟨rfl, y, hy, rfl⟩ := hstep.childAt_cases hq
  · obtain rfl : p₀ = q₀ := h p₀ q₀ c d hp₀ hq₀ (hcnext.unreaped hc) (hdnext.unreaped hd)
      (by rw [← hcnext.pid, ← hdnext.pid, hpid])
    -- who has given its child an id knows of no other
    have hgone {id : ProcessId} {c : Child} (hdrawn : s'.tasks a = .drawn id) :
        s'.childAt (.starter a) ≠ some c := by simp [State.childAt, hdrawn]
    obtain rfl | ⟨rfl, id, rfl, hdrawn⟩ := hpcase <;> obtain hq' | ⟨hstarter, id', rfl, hdrawn'⟩ := hqcase
    · exact hq'
    · subst hstarter
      exact absurd hp (hgone hdrawn')
    · subst hq'
      exact absurd hq (hgone hdrawn)
    · rw [hdrawn] at hdrawn'
      cases hdrawn'
      rfl
  · exact absurd hpid (hnew hy hp₀ hcnext hc)
  · exact absurd hpid.symm (hnew hx hq₀ hdnext hd)
  · rfl

/-! Locks -/

/-- The kills that an actor has on its hands. -/
def Task.kills : Task → List (ProcessId × Kill)
  | killing id _ kill _ => [(id, kill)]
  | clearing kills => kills
  | _ => []

theorem Task.isHolding_iff {t : Task} :
    t.isHolding id = true ↔ ∃ kill, (id, kill) ∈ t.kills ∧ kill.isHolding = true := by
  cases t with
  | killing target grace kill duty =>
    simp only [isHolding, kills, Bool.and_eq_true, decide_eq_true_eq, List.mem_singleton, Prod.mk.injEq]
    constructor
    · rintro ⟨rfl, hkill⟩
      exact ⟨kill, ⟨rfl, rfl⟩, hkill⟩
    · rintro ⟨_, ⟨rfl, rfl⟩, hkill⟩
      exact ⟨rfl, hkill⟩
  | clearing kills => simp [isHolding, Task.kills]
  | _ => simp [isHolding, kills]

/-- No two kills lock one child, and none that is about to send SIGKILL finds its child reaped. -/
structure State.IsGuarded (s : State) : Prop where
  distinct : ∀ a, ((s.tasks a).kills.map Prod.fst).Nodup
  single : ∀ a b id, (s.tasks a).isHolding id = true → (s.tasks b).isHolding id = true → a = b
  started : ∀ a x, s.tasks a = .started x → x.child.reaped = none
  unreaped : ∀ a id x, (id, .signal) ∈ (s.tasks a).kills → s.registry.handle? id = some x → x.child.reaped = none

theorem Contact.Turns.handle?_of_ne {r r' : Registry} (h : c.Turns now r r') (hne : c.id ≠ id) :
    r'.handle? id = r.handle? id := by
  cases c with
  | polled target p =>
    rw [Contact.id] at hne
    rw [Turns] at h
    have hpoll : (r.poll target now).2.handle? id = r.handle? id := by
      cases hr : r.handle? target with
      | none => rw [Registry.poll, hr]
      | some x =>
        rw [Registry.poll_of_handle? hr]
        exact Registry.handle?_setHandle_of_ne hne _
    rwa [h] at hpoll
  | signalled target =>
    rw [Contact.id] at hne
    obtain hsignal | rfl := h
    · obtain ⟨x, child, -, -, rfl⟩ := Registry.signal_eq_ok hsignal
      exact Registry.handle?_setHandle_of_ne hne _
    · rfl

namespace State.IsGuarded

theorem not_holding (h : s.IsGuarded) (hcontact : Contacts a now s c s') (hb : b ≠ a) :
    (s.tasks b).isHolding c.id = false := by
  obtain hfree | hholding := hcontact.locks
  · exact hfree b hb
  · cases hother : (s.tasks b).isHolding c.id with
    | false => rfl
    | true => exact absurd (h.single b a c.id hother hholding) hb

/-- Steps of others leave a child alone that is about to be sent SIGKILL. -/
theorem unreaped_of_other {x' : Handle} (h : s.IsGuarded) (hstep : Step a now s e s') (hb : b ≠ a)
    (hsignal : (id, .signal) ∈ (s.tasks b).kills) (hid : s'.registry.handle? id = some x') :
    x'.child.reaped = none := by
  obtain ⟨c, hcontact⟩ | hsame | ⟨x, htask, hregistry, -⟩ := hstep.contacts_or
  · have hne : c.id ≠ id := by
      rintro rfl
      have hholding := Task.isHolding_iff.mpr ⟨.signal, hsignal, rfl⟩
      rw [h.not_holding hcontact hb] at hholding
      cases hholding
    rw [hcontact.turns.handle?_of_ne hne] at hid
    exact h.unreaped b id x' hsignal hid
  · have hchild := hsame id
    rw [hid] at hchild
    obtain ⟨x, hx, hxchild⟩ := Option.map_eq_some_iff.mp hchild.symm
    rw [← hxchild]
    exact h.unreaped b id x hsignal hx
  · rw [hregistry] at hid
    obtain hold | ⟨-, rfl⟩ := Registry.handle?_draw_cases hid
    · exact h.unreaped b id x' hsignal hold
    · exact h.started a x' htask

theorem put {task : Task} {registry : Registry} (h : s.IsGuarded) (hstep : Step a now s e (s.put a task registry))
    (hdistinct : (task.kills.map Prod.fst).Nodup)
    (hholding : ∀ id, task.isHolding id = true → (s.tasks a).isHolding id = true ∨ s.IsFree a id)
    (hstarted : ∀ x, task = .started x → x.child.reaped = none)
    (hunreaped : ∀ id x, (id, .signal) ∈ task.kills → registry.handle? id = some x → x.child.reaped = none) :
    (s.put a task registry).IsGuarded := by
  have hown (id : ProcessId) {b : Actor} (hb : b ≠ a) (htask : task.isHolding id = true) :
      (s.tasks b).isHolding id = false := by
    obtain hheld | hfree := hholding id htask
    · cases hother : (s.tasks b).isHolding id with
      | false => rfl
      | true => exact absurd (h.single b a id hother hheld) hb
    · exact hfree b hb
  constructor
  · intro b
    by_cases hb : b = a
    · rwa [hb, s.put_tasks_self]
    · rw [s.put_tasks_of_ne hb]
      exact h.distinct b
  · intro b c id hbid hcid
    by_cases hb : b = a <;> by_cases hc : c = a
    · rw [hb, hc]
    · rw [hb, s.put_tasks_self] at hbid
      rw [s.put_tasks_of_ne hc, hown id hc hbid] at hcid
      cases hcid
    · rw [hc, s.put_tasks_self] at hcid
      rw [s.put_tasks_of_ne hb, hown id hb hcid] at hbid
      cases hbid
    · rw [s.put_tasks_of_ne hb] at hbid
      rw [s.put_tasks_of_ne hc] at hcid
      exact h.single b c id hbid hcid
  · intro b x hx
    by_cases hb : b = a
    · rw [hb, s.put_tasks_self] at hx
      exact hstarted x hx
    · rw [s.put_tasks_of_ne hb] at hx
      exact h.started b x hx
  · intro b id x hsignal hid
    by_cases hb : b = a
    · rw [hb, s.put_tasks_self] at hsignal
      exact hunreaped id x hsignal hid
    · rw [s.put_tasks_of_ne hb] at hsignal
      exact h.unreaped_of_other hstep hb hsignal hid

end State.IsGuarded

/-! Steps of kills -/

namespace Kill

variable {kill next : Kill} {r : Registry} {grace : Nat}

theorem holding_of_step (h : (kill.step r id grace now).2 = some next) (hnext : next.isHolding = true) :
    kill = .poll ∨ kill.isHolding = true := by
  cases kill with
  | drain =>
    cases h
    cases hnext
  | poll => exact .inl rfl
  | signal | reap => exact .inr rfl

/-- What is sent SIGKILL next was just seen not to have ended. -/
theorem unreaped_of_step {x' : Handle} (h : (kill.step r id grace now).2 = some .signal)
    (hid : (kill.step r id grace now).1.handle? id = some x') : x'.child.reaped = none := by
  cases kill with
  | drain => cases h
  | signal =>
    rw [step] at h
    split at h <;> cases h
  | reap deadline =>
    rw [step] at h
    split at h
    · split at h <;> cases h
    · cases h
  | poll =>
    cases hr : r.handle? id with
    | none =>
      rw [step, Registry.poll, hr] at hid
      rw [hr] at hid
      cases hid
    | some x =>
      rw [step, Registry.poll_of_handle? hr] at h hid
      obtain ⟨status, hp, -⟩ | ⟨-, hreaped, hsame⟩ := x.child.poll_cases now
      · rw [hp] at h
        cases h
      · split at hid
        · next hp => simp_all
        · next hp =>
          cases hp
          rw [Registry.handle?_setHandle hr] at hid
          cases hid
          rwa [hsame]

theorem step_handle?_of_ne {target : ProcessId} (hne : target ≠ id) :
    (kill.step r target grace now).1.handle? id = r.handle? id := by
  cases hc : kill.contact? r target now with
  | some c =>
    refine (kill.turns grace hc).handle?_of_ne ?_
    rwa [Kill.id_of_contact? hc]
  | none =>
    cases kill <;> cases hc
    cases hr : r.handle? target with
    | none => rw [step, Registry.takeDrain, hr]
    | some x =>
      rw [step, Registry.takeDrain_of_handle? hr]
      exact Registry.handle?_setHandle_of_ne hne _

end Kill

theorem Task.not_holding_of_kills {t : Task} (h : ∀ k ∈ t.kills, k.2 = .drain) : t.isHolding id = false := by
  cases hholding : t.isHolding id with
  | false => rfl
  | true =>
    obtain ⟨kill, hmem, hkill⟩ := Task.isHolding_iff.mp hholding
    obtain rfl : kill = .drain := h _ hmem
    cases hkill

theorem State.IsGuarded.put_quiet {task : Task} {registry : Registry} (h : s.IsGuarded)
    (hstep : Step a now s e (s.put a task registry)) (hdistinct : (task.kills.map Prod.fst).Nodup)
    (hkills : ∀ k ∈ task.kills, k.2 = .drain) (hstarted : ∀ x, task = .started x → x.child.reaped = none) :
    (s.put a task registry).IsGuarded := by
  refine h.put hstep hdistinct (fun id hid => ?_) hstarted fun id x hsignal _ => ?_
  · rw [Task.not_holding_of_kills hkills] at hid
    cases hid
  · cases hkills _ hsignal

theorem Task.afterRelease_cases (id : ProcessId) (grace : Nat) (p : Poll) :
    ∃ duty, Task.afterRelease id grace p = .on duty ∨ Task.afterRelease id grace p = .killing id grace .drain duty := by
  cases p with
  | exited | failed => exact ⟨.none, .inl rfl⟩
  | running => exact ⟨.none, .inr rfl⟩

theorem Task.afterLook_cases (minAge : Nat) (id : ProcessId) (grace : Nat) (young : Bool)
    (todo finished : List ProcessId) (p : Poll) :
    ∃ duty, Task.afterLook minAge id grace young todo finished p = .on duty ∨
      Task.afterLook minAge id grace young todo finished p = .killing id grace .drain duty := by
  cases p with
  | exited => exact ⟨_, .inl rfl⟩
  | failed => exact ⟨_, .inr rfl⟩
  | running =>
    cases young with
    | true => exact ⟨_, .inl rfl⟩
    | false => exact ⟨_, .inr rfl⟩

theorem Task.mem_of_rest {before after : List (ProcessId × Kill)} {k k' : ProcessId × Kill} (h : k ∈ before ++ after) :
    k ∈ before ++ k' :: after :=
  ((List.Sublist.refl before).append (List.sublist_cons_self k' after)).subset h

/-- The kills that are left when one of them has gone on. -/
theorem Task.mem_clearOne {before after : List (ProcessId × Kill)} {next : Option Kill} {k : ProcessId × Kill}
    (h : k ∈ before ++ (next.map fun k => (id, k)).toList ++ after) :
    k ∈ before ++ after ∨ k.1 = id ∧ next = some k.2 := by
  simp only [List.mem_append, Option.mem_toList, Option.map_eq_some_iff] at h ⊢
  obtain (hk | ⟨kill, rfl, rfl⟩) | hk := h
  · exact .inl (.inl hk)
  · exact .inr ⟨rfl, rfl⟩
  · exact .inl (.inr hk)

theorem Step.isGuarded (h : s.IsGuarded) (hentries : s.registry.entries.Nodup) (hstep : Step a now s e s')
    (hlaw : ∀ x, s'.tasks a = .started x → s.MayStart x) : s'.IsGuarded := by
  have hstep' := hstep
  cases hstep with
  | start x task =>
    refine h.put_quiet hstep' .nil (by simp [Task.kills]) fun y hy => ?_
    cases hy
    exact (hlaw x (s.put_tasks_self ..)).unreaped
  | draw | enter | attachDrain | takeDrain | poll | drop | deregister | beginSweep | endSweep | endClear =>
    exact h.put_quiet hstep' .nil (by simp [Task.kills]) (by simp)
  | forceKill => exact h.put_quiet hstep' (by simp [Task.kills]) (by simp [Task.kills]) (by simp)
  | release =>
    obtain ⟨duty, hnext | hnext⟩ := Task.afterRelease_cases ..
    all_goals
      rw [hnext] at hstep' ⊢
      exact h.put_quiet hstep' (by simp [Task.kills]) (by simp [Task.kills]) (by simp)
  | look =>
    obtain ⟨duty, hnext | hnext⟩ := Task.afterLook_cases ..
    all_goals
      rw [hnext] at hstep' ⊢
      exact h.put_quiet hstep' (by simp [Task.kills]) (by simp [Task.kills]) (by simp)
  | clear task =>
    refine h.put_quiet hstep' ?_ (by simp [Task.kills]) (by simp)
    simpa [Task.kills, Function.comp_def] using hentries
  | @kill id grace kill duty task free =>
    cases hnext : (kill.step s.registry id grace now).2 with
    | none =>
      rw [hnext] at hstep'
      exact h.put_quiet hstep' .nil (by simp [Task.afterKill, Task.kills]) (by simp [Task.afterKill])
    | some next =>
      rw [hnext] at hstep'
      refine h.put hstep' (by simp [Task.afterKill, Task.kills]) (fun target htarget => ?_) (by simp [Task.afterKill])
        fun target x hsignal hid => ?_
      · obtain ⟨_, hmem, hholding⟩ := Task.isHolding_iff.mp htarget
        cases List.mem_singleton.mp hmem
        refine (Kill.holding_of_step hnext hholding).symm.imp (fun hkill => ?_) free
        exact Task.isHolding_iff.mpr ⟨kill, by simp [task, Task.kills], hkill⟩
      · cases List.mem_singleton.mp hsignal
        exact Kill.unreaped_of_step hnext hid
  | @clearOne before after id kill task free =>
    have hdistinct := h.distinct a
    rw [task] at hdistinct
    -- the other kills of the actor concern other processes
    have hother {k : ProcessId × Kill} (hk : k ∈ before ++ after) : id ≠ k.1 := by
      simp only [Task.kills, List.map_append, List.map_cons, List.nodup_append, List.nodup_cons] at hdistinct
      rintro rfl
      obtain hk | hk := List.mem_append.mp hk
      · exact hdistinct.2.2 _ (List.mem_map_of_mem hk) _ (List.mem_cons_self ..) rfl
      · exact hdistinct.2.1.1 (List.mem_map_of_mem hk)
    refine h.put hstep' ?_ (fun target htarget => ?_) (by simp) fun target x hsignal hid => ?_
    · refine hdistinct.sublist ?_
      simp only [Task.kills, List.map_append, List.map_cons]
      cases (kill.step s.registry id s.registry.killGrace now).2 <;> simp
    · obtain ⟨k, hmem, hholding⟩ := Task.isHolding_iff.mp htarget
      obtain hold | ⟨rfl, hnext⟩ := Task.mem_clearOne hmem
      · exact .inl (Task.isHolding_iff.mpr ⟨k, task ▸ Task.mem_of_rest hold, hholding⟩)
      · refine (Kill.holding_of_step hnext hholding).symm.imp (fun hkill => ?_) free
        exact Task.isHolding_iff.mpr ⟨kill, by simp [task, Task.kills], hkill⟩
    · obtain hold | ⟨rfl, hnext⟩ := Task.mem_clearOne hsignal
      · rw [Kill.step_handle?_of_ne (hother hold)] at hid
        exact h.unreaped a target x (task ▸ Task.mem_of_rest hold) hid
      · exact Kill.unreaped_of_step hnext hid

/-! Runs -/

theorem Run.nodup_entries (hstart : start.IsFresh) (h : Run start es s) : s.registry.entries.Nodup := by
  induction h with
  | nil => simp [hstart.entries]
  | @step es s s' e a now hrun hstep ih =>
    obtain ⟨id, task, hentries⟩ | hless := hstep.entries_cases
    · have hconsistent := hrun.consistent hstart
      -- an id that is handed out has not been entered before
      have hnew : id ∉ s.registry.entries := fun hid =>
        (hconsistent.fresh a id task).1 ((hconsistent.present id).mp hid).1
      have hsingle : [id].Nodup := List.nodup_singleton id
      exact hentries ▸ ih.append hsingle (List.disjoint_singleton.mpr hnew)
    · exact ih.sublist hless

theorem State.IsFresh.childAt (h : s.IsFresh) (p : Site) : s.childAt p = none := by
  cases p with
  | process id => simp [State.childAt, Registry.handle?, h.handles]
  | starter a => simp [State.childAt, h.tasks]

theorem LawfulRun.isGuarded (hstart : start.IsFresh) (h : LawfulRun State.MayStart start es s) : s.IsGuarded := by
  induction h with
  | nil => exact ⟨by simp [hstart.tasks, Task.kills], by simp [hstart.tasks, Task.isHolding], by simp [hstart.tasks],
      by simp [hstart.tasks, Task.kills]⟩
  | step hrun hstep hlaw ih => exact hstep.isGuarded ih (hrun.run.nodup_entries hstart) hlaw

theorem LawfulRun.isUnambiguous (hstart : start.IsFresh) (h : LawfulRun State.MayStart start es s) :
    s.IsUnambiguous := by
  induction h with
  | nil =>
    intro p q c d hp
    simp [hstart.childAt] at hp
  | step _ hstep hlaw ih => exact hstep.isUnambiguous ih hlaw

theorem Run.reaped {x : Handle} {status : ExitStatus} (h : Run start es s)
    (hid : start.registry.handle? id = some x) (hreaped : x.child.reaped = some status) :
    ∃ x', s.registry.handle? id = some x' ∧ x'.child.reaped = some status := by
  induction h with
  | nil => exact ⟨x, hid, hreaped⟩
  | step _ hstep ih =>
    obtain ⟨y, hy, hyreaped⟩ := ih
    obtain ⟨y', hy', hnext⟩ := hstep.exists_handle? hy
    exact ⟨y', hy', hnext.reaped hyreaped⟩

theorem Contacts.handle?_of_exited {status : ExitStatus} (h : Contacts a now s (.polled id (.exited status)) s') :
    ∃ x, s'.registry.handle? id = some x ∧ x.child.reaped = some status := by
  have hturns := h.turns
  rw [Contact.Turns] at hturns
  cases hr : s.registry.handle? id with
  | none =>
    rw [Registry.poll, hr] at hturns
    cases hturns
  | some x =>
    rw [Registry.poll_of_handle? hr] at hturns
    obtain ⟨hp, hregistry⟩ := Prod.mk.inj hturns
    exact ⟨_, hregistry ▸ Registry.handle?_setHandle hr _, Child.reaped_of_poll hp⟩

theorem Contacts.eq_exited {x : Handle} {p : Poll} {status : ExitStatus} (h : Contacts a now s (.polled id p) s')
    (hid : s.registry.handle? id = some x) (hreaped : x.child.reaped = some status) : p = .exited status := by
  have hturns := h.turns
  rw [Contact.Turns, Registry.poll_of_handle? hid, Child.poll_of_reaped hreaped] at hturns
  exact (Prod.mk.inj hturns).1.symm

structure State.IsOrderly (s : State) : Prop where
  /-- SIGKILL finds a child that is not reaped, and nobody else has its pid. -/
  aimed : ∀ a now id x s', Contacts a now s (.signalled id) s' → s.registry.handle? id = some x →
    x.child.reaped = none ∧
      ∀ p c, s.childAt p = some c → c.reaped = none → c.pid = x.child.pid → p = .process id
  /-- The end that one poll sees, all later polls see. -/
  settled : ∀ a now id status s', Contacts a now s (.polled id (.exited status)) s' →
    ∀ es t, Run s' es t → ∀ b later p t', Contacts b later t (.polled id p) t' → p = .exited status

theorem Contacts.mem_kills (h : Contacts a now s (.signalled id) s') : (id, .signal) ∈ (s.tasks a).kills := by
  generalize hc : Contact.signalled id = c at h
  cases h <;> try cases hc
  · next target grace kill duty task free contact =>
    cases kill <;> cases contact
    simp [task, Task.kills]
  · next before after target kill task free contact =>
    cases kill <;> cases contact
    simp [task, Task.kills]

/-- However polls, kills, sweeps and releases come between each other: no SIGKILL reaches a pid that was given to
another process, and nobody sees a second end of a process. -/
theorem lawfulRun_isOrderly (hstart : start.IsFresh) (hrun : LawfulRun State.MayStart start es s) : s.IsOrderly where
  aimed a now id x s' hcontact hid := by
    have hreaped : x.child.reaped = none := (hrun.isGuarded hstart).unreaped a id x hcontact.mem_kills hid
    refine ⟨hreaped, fun p c hp hc hpid => ?_⟩
    exact hrun.isUnambiguous hstart p (.process id) c x.child hp (by simp [State.childAt, hid]) hc hreaped hpid
  settled a now id status s' hcontact es t ht b later p t' hlater := by
    obtain ⟨x, hx, hreaped⟩ := hcontact.handle?_of_exited
    obtain ⟨y, hy, hstill⟩ := ht.reaped hx hreaped
    exact hlater.eq_exited hy hstill

def endless : Handle where
  label := "sh"
  child := { pid := 7, behaviour := { ending := none }, startedAt := 4 }

/-- The first process has been reaped and its pid given to the second, which is about to be sent SIGKILL. -/
theorem lawfulRun_isOrderly_recycled :
    ∃ es s s' x y, LawfulRun State.MayStart idle es s ∧ Contacts 1 9 s (.signalled 2) s' ∧
      s.registry.handle? 1 = some x ∧ s.registry.handle? 2 = some y ∧ x.child.pid = y.child.pid ∧
      x.child.reaped = some (.code 0) ∧ s.IsOrderly := by
  have hfree {s : State} {a b : Actor} {id : ProcessId} (hrest : ∀ c, c ≠ a → c ≠ b → s.tasks c = .on .none)
      (hb : (s.tasks b).isHolding id = false) : s.IsFree a id := State.isFree_of_rest hrest hb
  have hstarted : LawfulRun State.MayStart idle [.other] _ :=
    .step .nil (.start brief rfl : Step 0 0 _ _ _) (fun x hx => by
      cases hx
      exact ⟨rfl, fun p c hp => by simp [isFresh_idle.childAt] at hp⟩)
  have hentered := (hstarted.step (.draw rfl : Step 0 1 _ _ _) (fun x hx => by cases hx)).step
    (.enter rfl : Step 0 2 _ _ _) (fun x hx => by cases hx)
  have hreaped := hentered.step (.poll 1 rfl rfl (hfree (b := 1)
    (fun c h0 h1 => by simp [State.put, idle, h0]) rfl) : Step 0 3 _ _ _) (fun x hx => by cases hx)
  have hsecond := hreaped.step (.start endless rfl : Step 1 4 _ _ _) (fun x hx => by
    cases hx
    refine ⟨rfl, fun p c hp hc => ?_⟩
    cases p with
    | process id =>
      obtain _ | _ | id := id
      · cases hp
      · cases hp
        cases hc
      · cases hp
    | starter b =>
      by_cases hb : b = 0 <;> simp [State.childAt, State.put, idle, hb] at hp)
  have hkilling := ((hsecond.step (.draw rfl : Step 1 5 _ _ _) (fun x hx => by cases hx)).step
    (.enter rfl : Step 1 6 _ _ _) (fun x hx => by cases hx)).step
    (.forceKill 2 2000 rfl rfl : Step 1 7 _ _ _) (fun x hx => by cases hx)
  have hpolled := (hkilling.step (.kill (show _ = Task.killing 2 2000 .drain _ from rfl)
      (fun h => by cases h) : Step 1 8 _ _ _) (fun x hx => by cases hx)).step
    (.kill (show _ = Task.killing 2 2000 .poll _ from rfl) (fun _ => hfree (b := 0)
      (fun c h1 h0 => by simp [State.put, idle, h0, h1]) rfl) : Step 1 8 _ _ _) (fun x hx => by cases hx)
  exact ⟨_, _, _, _, _, hpolled, .kill (show _ = Task.killing 2 2000 .signal _ from rfl) (fun h => by cases h) rfl,
    rfl, rfl, rfl, rfl, lawfulRun_isOrderly isFresh_idle hpolled⟩

end SnippetLab.Concurrent
