import SnippetLab.Proofs.Process.Steps
import Mathlib.Algebra.Group.Nat.Defs
import Mathlib.Data.List.Basic

/-!
What the record of a run says of the registry. Ids only grow, the entries are those that were made and not
taken away since, and a sweep ends with removing what it found when it began.
-/
namespace SnippetLab

namespace Concurrent

open Registry (SameEntries)

/-! The record -/

namespace Event

def drawn? : Event → Option ProcessId
  | drew id => some id
  | _ => none

/-- The step takes away the entry of the id, if there still is one. -/
def Removes (id : ProcessId) : Event → Prop
  | dropped target => id = target
  | deregistered target found => id = target ∧ found = true
  | swept _ finished => id ∈ finished
  | cleared _ ids => id ∈ ids
  | _ => False

end Event

def drawnIds (es : List Event) : List ProcessId := es.filterMap Event.drawn?

def SeenAtStart (a : Actor) (ids : List ProcessId) (es : List Event) : Prop :=
  ∃ before after, es = before ++ .snapshot a :: after ∧ .snapshot a ∉ after ∧ ∀ id ∈ ids, .entered id ∈ before

theorem SeenAtStart.mono {a : Actor} {ids ids' : List ProcessId} {es : List Event} (h : SeenAtStart a ids es)
    (hsub : ids' ⊆ ids) : SeenAtStart a ids' es := by
  obtain ⟨before, after, hes, hlast, hseen⟩ := h
  exact ⟨before, after, hes, hlast, fun id hid => hseen id (hsub hid)⟩

theorem SeenAtStart.append {a : Actor} {ids : List ProcessId} {es : List Event} (h : SeenAtStart a ids es)
    {e : Event} (he : e ≠ .snapshot a) : SeenAtStart a ids (es ++ [e]) := by
  obtain ⟨before, after, rfl, hlast, hseen⟩ := h
  exact ⟨before, after ++ [e], by simp, by simp [hlast, he.symm], hseen⟩

namespace Duty

def guard? : Duty → Option ProcessId
  | guard id => some id
  | _ => .none

/-- The processes whose entries the sweep of the actor may still remove. -/
def sweep? : Duty → Option (List ProcessId)
  | sweep _ todo finished => some (todo ++ finished)
  | _ => .none

end Duty

namespace Task

def duty : Task → Duty
  | on duty | killing _ _ _ duty => duty
  | _ => .none

/-- An actor that goes on to the task gains nothing: neither an id nor a guard, nor more for its sweep to remove. -/
structure GainsNothing (t t' : Task) : Prop where
  drawn : ∀ id, t' ≠ .drawn id
  guard : ∀ id, t'.duty.guard? = some id → t.duty.guard? = some id
  sweep : ∀ ids', t'.duty.sweep? = some ids' → ∃ ids, t.duty.sweep? = some ids ∧ ids' ⊆ ids

namespace GainsNothing

variable {t t' : Task}

theorem of_duty_eq (hdrawn : ∀ id, t' ≠ .drawn id) (h : t'.duty = t.duty) : t.GainsNothing t' where
  drawn := hdrawn
  guard _ hid := h ▸ hid
  sweep ids hids := ⟨ids, h ▸ hids, List.Subset.refl _⟩

theorem of_duty_eq_none (hdrawn : ∀ id, t' ≠ .drawn id) (h : t'.duty = .none) : t.GainsNothing t' where
  drawn := hdrawn
  guard id hid := by rw [h] at hid; cases hid
  sweep ids hids := by rw [h] at hids; cases hids

theorem afterRelease (id : ProcessId) (grace : Nat) (p : Poll) : t.GainsNothing (.afterRelease id grace p) := by
  cases p <;> exact of_duty_eq_none (by simp [Task.afterRelease]) rfl

theorem afterKill {id : ProcessId} {grace : Nat} {kill : Kill} {duty : Duty} (next : Option Kill) :
    (Task.killing id grace kill duty).GainsNothing (.afterKill id grace duty next) := by
  cases next <;> exact of_duty_eq (by simp [Task.afterKill]) rfl

/-- A sweep passes on to its end what it has looked at, or leaves it out. -/
theorem afterLook {minAge : Nat} {id : ProcessId} {todo finished : List ProcessId} (grace : Nat) (young : Bool)
    (p : Poll) :
    (Task.on (.sweep minAge (id :: todo) finished)).GainsNothing
      (.afterLook minAge id grace young todo finished p) := by
  have hfinished : todo ++ (finished ++ [id]) ⊆ id :: todo ++ finished := by
    intro x hx
    simp only [List.mem_append, List.mem_cons, List.not_mem_nil, or_false] at hx ⊢
    tauto
  have hspared : todo ++ finished ⊆ id :: todo ++ finished := List.subset_cons_self _ _
  have hkept {ids : List ProcessId} (hsub : ids ⊆ id :: todo ++ finished) :
      ∀ ids', some ids = some ids' → ∃ ids'', some (id :: todo ++ finished) = some ids'' ∧ ids' ⊆ ids'' := by
    rintro _ ⟨⟩
    exact ⟨_, rfl, hsub⟩
  cases p with
  | exited status => exact ⟨by simp [Task.afterLook], fun _ h => h, hkept hfinished⟩
  | running =>
    cases young with
    | true => exact ⟨by simp [Task.afterLook], fun _ h => h, hkept hspared⟩
    | false => exact ⟨by simp [Task.afterLook], fun _ h => h, hkept hfinished⟩
  | failed reason => exact ⟨by simp [Task.afterLook], fun _ h => h, hkept hfinished⟩

end GainsNothing
end Task

structure Consistent (es : List Event) (s : State) : Prop where
  drawn : drawnIds es = List.range' 1 s.registry.handles.length
  known : ∀ id, .entered id ∈ es → id ≤ s.registry.handles.length
  present : ∀ id, id ∈ s.registry.entries ↔ .entered id ∈ es ∧ ∀ e ∈ es, ¬e.Removes id
  removed : ∀ e ∈ es, ∀ id, e.Removes id → .entered id ∈ es
  fresh : ∀ a id, s.tasks a = .drawn id → .entered id ∉ es ∧ id ≤ s.registry.handles.length
  single : ∀ a b id, s.tasks a = .drawn id → s.tasks b = .drawn id → a = b
  guarded : ∀ a id, (s.tasks a).duty.guard? = some id → .entered id ∈ es
  sweeping : ∀ a ids, (s.tasks a).duty.sweep? = some ids → SeenAtStart a ids es
  swept : ∀ before a finished after, es = before ++ .swept a finished :: after → SeenAtStart a finished before

namespace Consistent

variable {es : List Event} {s : State} {a : Actor} {task : Task} {registry : Registry} {e : Event}

theorem mem_append_iff (e' : Event) : e' ∈ es ++ [e] ↔ e' ∈ es ∨ e' = e := by simp

/-! What each part needs of one more step -/

theorem present_append (h : Consistent es s)
    (hentries : ∀ id, id ∈ registry.entries ↔ (id ∈ s.registry.entries ∨ e = .entered id) ∧ ¬e.Removes id)
    (hfresh : ∀ id, e = .entered id → .entered id ∉ es) (id : ProcessId) :
    id ∈ registry.entries ↔ .entered id ∈ es ++ [e] ∧ ∀ e' ∈ es ++ [e], ¬e'.Removes id := by
  rw [hentries, h.present, mem_append_iff, List.forall_mem_append, List.forall_mem_singleton, eq_comm]
  constructor
  · rintro ⟨⟨hentered, hkept⟩ | hnew, hstays⟩
    · exact ⟨.inl hentered, hkept, hstays⟩
    · exact ⟨.inr hnew, fun e' he' hgone => hfresh id hnew.symm (h.removed e' he' id hgone), hstays⟩
  · rintro ⟨hentered | hnew, hkept, hstays⟩
    · exact ⟨.inl ⟨hentered, hkept⟩, hstays⟩
    · exact ⟨.inr hnew, hstays⟩

theorem removed_append (h : Consistent es s) (hremoves : ∀ id, e.Removes id → .entered id ∈ es) :
    ∀ e' ∈ es ++ [e], ∀ id, e'.Removes id → .entered id ∈ es ++ [e] := by
  intro e' he' id hid
  refine List.mem_append_left _ ?_
  obtain he' | rfl := (mem_append_iff e').mp he'
  · exact h.removed e' he' id hid
  · exact hremoves id hid

theorem guarded_put (h : Consistent es s) (hself : ∀ id, task.duty.guard? = some id → .entered id ∈ es ++ [e])
    (b : Actor) (id : ProcessId) (hb : ((s.put a task registry).tasks b).duty.guard? = some id) :
    .entered id ∈ es ++ [e] := by
  by_cases hba : b = a
  · rw [hba, s.put_tasks_self] at hb
    exact hself id hb
  · rw [s.put_tasks_of_ne hba] at hb
    exact List.mem_append_left _ (h.guarded b id hb)

theorem sweeping_put (h : Consistent es s) (hother : ∀ b, b ≠ a → e ≠ .snapshot b)
    (hself : ∀ ids, task.duty.sweep? = some ids → SeenAtStart a ids (es ++ [e])) (b : Actor) (ids : List ProcessId)
    (hb : ((s.put a task registry).tasks b).duty.sweep? = some ids) : SeenAtStart b ids (es ++ [e]) := by
  by_cases hba : b = a
  · rw [hba, s.put_tasks_self] at hb
    exact hba ▸ hself ids hb
  · rw [s.put_tasks_of_ne hba] at hb
    exact (h.sweeping b ids hb).append (hother b hba)

theorem swept_append (h : Consistent es s) (he : ∀ a finished, e = .swept a finished → SeenAtStart a finished es)
    (before : List Event) (a : Actor) (finished : List ProcessId) (after : List Event)
    (hes : es ++ [e] = before ++ .swept a finished :: after) : SeenAtStart a finished before := by
  obtain rfl | ⟨after, last, rfl⟩ := List.eq_nil_or_concat' after
  · obtain ⟨rfl, hlast⟩ := List.append_inj' hes rfl
    exact he a finished (by simpa using hlast)
  · rw [← List.cons_append, ← List.append_assoc] at hes
    exact h.swept before a finished after (List.append_inj' hes rfl).1

theorem tasks_of_drawn {b : Actor} {id : ProcessId} (hself : ∀ id, task ≠ .drawn id)
    (hb : (s.put a task registry).tasks b = .drawn id) : b ≠ a ∧ s.tasks b = .drawn id := by
  by_cases hba : b = a
  · rw [hba, s.put_tasks_self] at hb
    exact absurd hb (hself id)
  · rw [s.put_tasks_of_ne hba] at hb
    exact ⟨hba, hb⟩

/-! The steps -/

theorem takeAway (h : Consistent es s) (hdraw : e.drawn? = none) (henter : ∀ id, e ≠ .entered id)
    (hsnapshot : ∀ b, e ≠ .snapshot b)
    (hlength : registry.handles.length = s.registry.handles.length)
    (hentries : ∀ id, id ∈ registry.entries ↔ id ∈ s.registry.entries ∧ ¬e.Removes id)
    (hremoves : ∀ id, e.Removes id → .entered id ∈ es)
    (hswept : ∀ b finished, e = .swept b finished → SeenAtStart b finished es)
    (hgain : (s.tasks a).GainsNothing task) : Consistent (es ++ [e]) (s.put a task registry) where
  drawn := by simp [drawnIds, hdraw, hlength, ← h.drawn]
  known id hid := by
    rw [mem_append_iff, or_iff_left (henter id).symm] at hid
    exact hlength ▸ h.known id hid
  present := h.present_append (by simpa [henter] using hentries) fun id hid => absurd hid (henter id)
  removed := h.removed_append hremoves
  fresh b id hb := by
    rw [mem_append_iff, or_iff_left (henter id).symm, State.put_registry, hlength]
    exact h.fresh b id (tasks_of_drawn hgain.drawn hb).2
  single b c id hb hc :=
    h.single b c id (tasks_of_drawn hgain.drawn hb).2 (tasks_of_drawn hgain.drawn hc).2
  guarded := h.guarded_put fun id hid => List.mem_append_left _ (h.guarded a id (hgain.guard id hid))
  sweeping := h.sweeping_put (fun b _ => hsnapshot b) fun ids hids => by
    obtain ⟨ids', hids', hsub⟩ := hgain.sweep ids hids
    exact ((h.sweeping a ids' hids').mono hsub).append (hsnapshot a)
  swept := h.swept_append hswept

theorem aside (h : Consistent es s) (he : e.isAside = true) (hsame : SameEntries s.registry registry)
    (hgain : (s.tasks a).GainsNothing task) : Consistent (es ++ [e]) (s.put a task registry) := by
  have hremoves (id : ProcessId) : ¬e.Removes id := by cases e <;> simp_all [Event.isAside, Event.Removes]
  refine h.takeAway ?_ ?_ ?_ hsame.length ?_ ?_ ?_ hgain
  · cases e <;> simp_all [Event.isAside, Event.drawn?]
  · rintro id rfl
    cases he
  · rintro b rfl
    cases he
  · simp [hsame.entries, hremoves]
  · exact fun id hid => absurd hid (hremoves id)
  · rintro b finished rfl
    cases he

theorem draw (h : Consistent es s) (handle : Handle) :
    Consistent (es ++ [.drew (s.registry.draw handle).1])
      (s.put a (.drawn (s.registry.draw handle).1) (s.registry.draw handle).2) := by
  have hlength : (s.registry.draw handle).2.handles.length = s.registry.handles.length + 1 := by
    simp [Registry.draw]
  -- the id is beyond all that were handed out
  have hcases {b : Actor} {id : ProcessId}
      (hb : (s.put a (.drawn (s.registry.draw handle).1) (s.registry.draw handle).2).tasks b = .drawn id) :
      b = a ∧ id = s.registry.handles.length + 1 ∨
        s.tasks b = .drawn id ∧ id ≤ s.registry.handles.length := by
    by_cases hba : b = a
    · rw [hba, s.put_tasks_self] at hb
      cases hb
      exact .inl ⟨hba, rfl⟩
    · rw [s.put_tasks_of_ne hba] at hb
      exact .inr ⟨hb, (h.fresh b id hb).2⟩
  constructor
  case drawn => simp [drawnIds, Event.drawn?, Registry.draw, List.range'_concat, ← h.drawn, Nat.add_comm]
  case known =>
    intro id hid
    have hknown := h.known id (by simpa using hid)
    rw [State.put_registry, hlength]
    omega
  case present => exact h.present_append (by simp [Event.Removes, Registry.draw]) (by simp)
  case removed => exact h.removed_append (by simp [Event.Removes])
  case fresh =>
    intro b id hb
    rw [State.put_registry, hlength, mem_append_iff, or_iff_left (by simp)]
    obtain ⟨-, rfl⟩ | ⟨hold, hle⟩ := hcases hb
    · exact ⟨fun hid => Nat.not_succ_le_self _ (h.known _ hid), Nat.le_refl _⟩
    · exact ⟨(h.fresh b id hold).1, Nat.le_succ_of_le hle⟩
  case single =>
    intro b c id hb hc
    obtain ⟨rfl, hnew⟩ | ⟨hbold, hble⟩ := hcases hb <;> obtain ⟨rfl, hnew'⟩ | ⟨hcold, hcle⟩ := hcases hc
    · rfl
    · exact absurd (hnew ▸ hcle) (Nat.not_succ_le_self _)
    · exact absurd (hnew' ▸ hble) (Nat.not_succ_le_self _)
    · exact h.single b c id hbold hcold
  case guarded => exact h.guarded_put (by simp [Task.duty, Duty.guard?])
  case sweeping => exact h.sweeping_put (by simp) (by simp [Task.duty, Duty.sweep?])
  case swept => exact h.swept_append (by simp)

theorem enter {id : ProcessId} (h : Consistent es s) (htask : s.tasks a = .drawn id) :
    Consistent (es ++ [.entered id]) (s.put a (.on (.guard id)) (s.registry.enter id)) where
  drawn := by simp [drawnIds, Event.drawn?, Registry.enter, ← h.drawn]
  known id' hid := by
    obtain hid | hid := (mem_append_iff _).mp hid
    · exact h.known id' hid
    · cases hid
      exact (h.fresh a id htask).2
  present := h.present_append (by simp [Event.Removes, Registry.enter, eq_comm])
    fun id' hid => by
      cases hid
      exact (h.fresh a id htask).1
  removed := h.removed_append (by simp [Event.Removes])
  fresh b id' hb := by
    obtain ⟨hba, hb⟩ := tasks_of_drawn (by simp) hb
    obtain ⟨hfresh, hle⟩ := h.fresh b id' hb
    refine ⟨?_, hle⟩
    rw [mem_append_iff, not_or]
    refine ⟨hfresh, fun hid => hba ?_⟩
    cases hid
    exact h.single b a id hb htask
  single b c id' hb hc := h.single b c id' (tasks_of_drawn (by simp) hb).2 (tasks_of_drawn (by simp) hc).2
  guarded := h.guarded_put (by simp [Task.duty, Duty.guard?])
  sweeping := h.sweeping_put (by simp) (by simp [Task.duty, Duty.sweep?])
  swept := h.swept_append (by simp)

theorem beginSweep (h : Consistent es s) {todo : List ProcessId} (htodo : ∀ id ∈ todo, id ∈ s.registry.entries)
    (minAge : Nat) : Consistent (es ++ [.snapshot a]) (s.put a (.on (.sweep minAge todo [])) s.registry) where
  drawn := by simp [drawnIds, Event.drawn?, ← h.drawn]
  known id hid := h.known id (by simpa using hid)
  present := h.present_append (by simp [Event.Removes]) (by simp)
  removed := h.removed_append (by simp [Event.Removes])
  fresh b id hb := by simpa using h.fresh b id (tasks_of_drawn (by simp) hb).2
  single b c id hb hc := h.single b c id (tasks_of_drawn (by simp) hb).2 (tasks_of_drawn (by simp) hc).2
  guarded := h.guarded_put (by simp [Task.duty, Duty.guard?])
  sweeping := h.sweeping_put (fun b hb hsame => hb (by cases hsame; rfl)) fun ids hids => by
    cases hids
    refine ⟨es, [], rfl, by simp, fun id hid => ((h.present id).mp (htodo id (by simpa using hid))).1⟩
  swept := h.swept_append (by simp)

theorem drop {id : ProcessId} (h : Consistent es s) (htask : s.tasks a = .on (.guard id)) :
    Consistent (es ++ [.dropped id]) (s.put a (.releasing id) (s.registry.remove [id])) := by
  refine h.takeAway rfl (by simp) (by simp) rfl ?_ ?_ (by simp) (.of_duty_eq_none (by simp) rfl)
  · intro id'
    simp [Registry.remove, Event.Removes]
  · rintro id' rfl
    exact h.guarded a id' (by rw [htask]; rfl)

theorem deregister {duty : Duty} (h : Consistent es s) (id : ProcessId) (htask : s.tasks a = .on duty) :
    Consistent (es ++ [.deregistered id (s.registry.deregister id).1])
      (s.put a (.on duty) (s.registry.deregister id).2) := by
  refine h.takeAway rfl (by simp) (by simp) rfl ?_ ?_ (by simp) (.of_duty_eq (by simp) (by rw [htask]))
  · intro id'
    by_cases hid : id' = id <;> simp [Registry.deregister, Registry.remove, Registry.contains, Event.Removes, hid]
  · rintro id' ⟨rfl, hfound⟩
    exact ((h.present id').mp (by simpa [Registry.deregister, Registry.contains] using hfound)).1

theorem endSweep {minAge : Nat} {finished : List ProcessId} (h : Consistent es s)
    (htask : s.tasks a = .on (.sweep minAge [] finished)) :
    Consistent (es ++ [.swept a finished]) (s.put a (.on .none) (s.registry.remove finished)) := by
  have hseen : SeenAtStart a finished es := h.sweeping a finished (by rw [htask]; rfl)
  refine h.takeAway rfl (by simp) (by simp) rfl ?_ ?_ ?_ (.of_duty_eq_none (by simp) rfl)
  · intro id
    simp [Registry.remove, Event.Removes]
  · intro id hid
    obtain ⟨before, after, rfl, -, hentered⟩ := hseen
    exact List.mem_append_left _ (hentered id hid)
  · intro b ids heq
    cases heq
    exact hseen

theorem clear (h : Consistent es s) :
    Consistent (es ++ [.cleared a s.registry.entries])
      (s.put a (.clearing (s.registry.entries.map fun id => (id, .drain))) { s.registry with entries := [] }) :=
  h.takeAway rfl (by simp) (by simp) rfl (by simp [Event.Removes]) (fun id hid => ((h.present id).mp hid).1)
    (by simp) (.of_duty_eq_none (by simp) rfl)

end Consistent

theorem Step.consistent {a : Actor} {now : Nat} {es : List Event} {s s' : State} {e : Event} (h : Consistent es s)
    (hstep : Step a now s e s') : Consistent (es ++ [e]) s' := by
  cases hstep with
  | start handle task => exact h.aside rfl (.refl _) (.of_duty_eq_none (by simp) rfl)
  | draw task => exact h.draw _
  | enter task => exact h.enter task
  | attachDrain id d task rest => exact h.aside rfl (.attachDrain _ id d) (.of_duty_eq (by simp) (by rw [task]))
  | takeDrain id task rest => exact h.aside rfl (.takeDrain _ id) (.of_duty_eq (by simp) (by rw [task]))
  | poll id task rest free => exact h.aside rfl (.poll _ id now) (.of_duty_eq (by simp) (by rw [task]))
  | forceKill id grace task rest => exact h.aside rfl (.refl _) (.of_duty_eq (by simp) (by rw [task]; rfl))
  | kill task free => exact h.aside (Kill.isAside_event ..) (Kill.step_sameEntries ..) (by rw [task]; exact .afterKill _)
  | drop task => exact h.drop task
  | release task free => exact h.aside rfl (.poll _ _ now) (.afterRelease ..)
  | deregister id task rest => exact h.deregister id task
  | beginSweep minAge todo task order => exact h.beginSweep (fun id hid => order.mem_iff.mp hid) minAge
  | look task free => exact h.aside rfl (.poll _ _ now) (by rw [task]; exact .afterLook ..)
  | endSweep task => exact h.endSweep task
  | clear task => exact h.clear
  | clearOne task free =>
    exact h.aside (Kill.isAside_event ..) (Kill.step_sameEntries ..) (.of_duty_eq_none (by simp) rfl)
  | endClear task => exact h.aside rfl (.refl _) (.of_duty_eq_none (by simp) rfl)

structure State.IsFresh (s : State) : Prop where
  handles : s.registry.handles = []
  entries : s.registry.entries = []
  tasks : ∀ a, s.tasks a = .on .none

theorem State.IsFresh.consistent {s : State} (h : s.IsFresh) : Consistent [] s where
  drawn := by simp [drawnIds, h.handles]
  known := by simp
  present := by simp [h.entries]
  removed := by simp
  fresh := by simp [h.tasks]
  single := by simp [h.tasks]
  guarded := by simp [h.tasks, Task.duty, Duty.guard?]
  sweeping := by simp [h.tasks, Task.duty, Duty.sweep?]
  swept := by simp

theorem Run.consistent {start s : State} {es : List Event} (h : start.IsFresh) (hrun : Run start es s) :
    Consistent es s := by
  induction hrun with
  | nil => exact h.consistent
  | step _ hstep ih => exact hstep.consistent ih

/-- What the record of a run tells of the registry at its end. -/
structure Accountable (es : List Event) (s : State) : Prop where
  increasing : ((drawnIds es).map UInt64.ofNat).Pairwise (· < ·)
  present : ∀ id, id ∈ s.registry.entries ↔ .entered id ∈ es ∧ ∀ e ∈ es, ¬e.Removes id
  /-- A sweep removes only what was entered before it began. -/
  swept : ∀ before a finished after, es = before ++ .swept a finished :: after → SeenAtStart a finished before

/-- However the steps of the actors follow each other, their record accounts for ids and entries. -/
theorem run_accountable {start s : State} {es : List Event} (hstart : start.IsFresh) (hrun : Run start es s)
    (hfew : (drawnIds es).length < 2 ^ 64) : Accountable es s := by
  have h := hrun.consistent hstart
  refine ⟨?_, h.present, h.swept⟩
  rw [h.drawn, List.length_range'] at hfew
  rw [h.drawn, List.pairwise_map]
  have hgrow : (List.range' 1 s.registry.handles.length).Pairwise (· < ·) := List.pairwise_lt_range'
  refine hgrow.imp_of_mem fun {i j} hi hj hlt => ?_
  have hsmall {k : Nat} (hk : k ∈ List.range' 1 s.registry.handles.length) : k < 2 ^ 64 := by
    have hmem := List.mem_range'_1.mp hk
    omega
  rwa [UInt64.lt_iff_toNat_lt, UInt64.toNat_ofNat', UInt64.toNat_ofNat', Nat.mod_eq_of_lt (hsmall hi),
    Nat.mod_eq_of_lt (hsmall hj)]

theorem isFresh_idle : idle.IsFresh := ⟨rfl, rfl, fun _ => rfl⟩

def brief : Handle where
  label := "cc"
  child := { pid := 7, behaviour := { ending := some (0, .code 0) }, startedAt := 0 }

/-- The second process is registered while a sweep is on its way, and its entry outlives the sweep. -/
theorem run_accountable_overtaken :
    ∃ s, Run idle [.other, .drew 1, .entered 1, .snapshot 1, .other, .drew 2, .entered 2,
        .looked 1 1 (.exited (.code 0)), .swept 1 [1]] s ∧
      s.registry.entries = [2] ∧
      Accountable [.other, .drew 1, .entered 1, .snapshot 1, .other, .drew 2, .entered 2,
        .looked 1 1 (.exited (.code 0)), .swept 1 [1]] s := by
  have hfirst : Run idle [.other, .drew 1, .entered 1] _ :=
    ((Run.nil.step (.start brief rfl : Step 0 0 _ _ _)).step (.draw rfl : Step 0 1 _ _ _)).step
      (.enter rfl : Step 0 2 _ _ _)
  have hsweep := hfirst.step (.beginSweep 0 [1] rfl (.refl _) : Step 1 3 _ _ _)
  have hsecond := ((hsweep.step (.start brief rfl : Step 2 4 _ _ _)).step (.draw rfl : Step 2 5 _ _ _)).step
    (.enter rfl : Step 2 6 _ _ _)
  have hlook := hsecond.step (.look (show _ = Task.on (.sweep 0 [1] []) from rfl) (fun b hb => by
    -- only the actors zero and two have done anything, and neither is at a kill
    by_cases hfirst : b = 0 <;> by_cases hsecond : b = 2 <;>
      simp [State.put, idle, Task.isHolding, hb, hfirst, hsecond]) : Step 1 7 _ _ _)
  have hrun := hlook.step (.endSweep rfl : Step 1 8 _ _ _)
  exact ⟨_, hrun, rfl, run_accountable isFresh_idle hrun (by decide)⟩

end Concurrent
end SnippetLab
