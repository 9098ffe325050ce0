import SnippetLab.Process.Registry

/-!
Actors at work on one registry. Whatever they do, they do it in steps, between which others may take theirs;
each step reads the clock on its own. The child of a process is locked while a kill is on its way. Who has
several guards, or sweeps while there is a guard, counts as several actors.

Before that, the operations of the registry in the parts that others may see, and what each of them leaves alone.
-/
namespace SnippetLab

namespace Child

theorem poll_eq (c : Child) (now : Nat) : (c.poll now).2 = { c with reaped := (c.poll now).2.reaped } := by
  unfold poll
  split
  · rfl
  · split
    · rfl
    · split
      · split <;> rfl
      · rfl

theorem startedAt_poll (c : Child) (now : Nat) : (c.poll now).2.startedAt = c.startedAt := by rw [poll_eq]

theorem behaviour_poll (c : Child) (now : Nat) : (c.poll now).2.behaviour = c.behaviour := by rw [poll_eq]

theorem behaviour_of_kill {c c' : Child} {now : Nat} (h : c.kill now = .ok c') : c'.behaviour = c.behaviour := by
  unfold kill at h
  split at h <;> cases h <;> rfl

def closesBy (c : Child) (time : Nat) : Bool := c.pipeCloses.any (· ≤ time)

end Child

namespace Registry

/-- The first half of a registration. The process is known under its id, but it has no entry yet. -/
def draw (r : Registry) (h : Handle) : ProcessId × Registry :=
  (r.handles.length + 1, { r with handles := r.handles ++ [h] })

def enter (r : Registry) (id : ProcessId) : Registry := { r with entries := r.entries ++ [id] }

theorem register_eq (r : Registry) (h : Handle) :
    r.register h = ((r.draw h).1, (r.draw h).2.enter (r.draw h).1) := rfl

def attachDrain (r : Registry) (id : ProcessId) (d : Drain) : Registry :=
  match r.handle? id with
  | none => r
  | some h => r.setHandle id { h with drain := some d }

def signal (r : Registry) (id : ProcessId) (now : Nat) : Except String Registry :=
  match r.handle? id with
  | none => .error "no such process"
  | some h => (h.child.kill now).map fun child => r.setHandle id { h with child }

def isYoung (r : Registry) (id : ProcessId) (now minAge : Nat) : Bool :=
  now - (r.handle? id).elim 0 (·.child.startedAt) < minAge

/-! What is known of one process -/

section

variable {r : Registry} {id : ProcessId} {h : Handle}

theorem handle?_setHandle (hr : r.handle? id = some h) (h' : Handle) :
    (r.setHandle id h').handle? id = some h' := by
  unfold handle? setHandle at *
  by_cases hid : id = 0
  · simp [hid] at hr
  · simp only [hid, if_false] at hr ⊢
    obtain ⟨hlt, -⟩ := List.getElem?_eq_some_iff.mp hr
    rw [List.getElem?_set_self hlt]

theorem setHandle_setHandle (r : Registry) (id : ProcessId) (h h' : Handle) :
    (r.setHandle id h).setHandle id h' = r.setHandle id h' := by
  unfold setHandle
  split
  · rfl
  · simp

theorem takeDrain_of_handle? (hr : r.handle? id = some h) :
    r.takeDrain id = (h.drain, r.setHandle id { h with drain := none }) := by
  rw [takeDrain, hr]
  rfl

theorem attachDrain_of_handle? (hr : r.handle? id = some h) (d : Drain) :
    r.attachDrain id d = r.setHandle id { h with drain := some d } := by
  rw [attachDrain, hr]

theorem poll_of_handle? (hr : r.handle? id = some h) (now : Nat) :
    r.poll id now = ((h.child.poll now).1, r.setHandle id { h with child := (h.child.poll now).2 }) := by
  rw [poll, hr]
  rfl

theorem isYoung_poll (r : Registry) (id : ProcessId) (now minAge : Nat) :
    (r.poll id now).2.isYoung id now minAge = r.isYoung id now minAge := by
  have hstarted : ((r.poll id now).2.handle? id).elim 0 (·.child.startedAt) =
      (r.handle? id).elim 0 (·.child.startedAt) := by
    cases hr : r.handle? id with
    | none => rw [poll, hr, hr]
    | some h =>
      rw [poll_of_handle? hr, handle?_setHandle hr]
      exact h.child.startedAt_poll now
  rw [isYoung, isYoung, hstarted]

theorem signal_of_handle? (hr : r.handle? id = some h) (now : Nat) :
    r.signal id now = (h.child.kill now).map fun child => r.setHandle id { h with child } := by
  rw [signal, hr]

theorem signal_eq_ok {r' : Registry} {now : Nat} (h : r.signal id now = .ok r') :
    ∃ x child, r.handle? id = some x ∧ x.child.kill now = .ok child ∧ r' = r.setHandle id { x with child } := by
  cases hr : r.handle? id with
  | none =>
    rw [signal, hr] at h
    cases h
  | some x =>
    rw [signal_of_handle? hr] at h
    cases hkill : x.child.kill now with
    | error reason =>
      rw [hkill] at h
      cases h
    | ok child =>
      rw [hkill] at h
      cases h
      exact ⟨x, child, rfl, hkill, rfl⟩

end

/-! What leaves the entries alone -/

section

variable (r : Registry) (id : ProcessId)

structure SameEntries (r r' : Registry) : Prop where
  entries : r'.entries = r.entries
  length : r'.handles.length = r.handles.length
  killGrace : r'.killGrace = r.killGrace

namespace SameEntries

theorem refl : SameEntries r r := ⟨rfl, rfl, rfl⟩

theorem setHandle (h : Handle) : SameEntries r (r.setHandle id h) := by
  unfold Registry.setHandle
  split
  · exact refl r
  · exact ⟨rfl, List.length_set, rfl⟩

theorem poll (now : Nat) : SameEntries r (r.poll id now).2 := by
  unfold Registry.poll
  split
  · exact refl r
  · exact setHandle r id _

theorem takeDrain : SameEntries r (r.takeDrain id).2 := by
  unfold Registry.takeDrain
  split
  · exact refl r
  · exact setHandle r id _

theorem attachDrain (d : Drain) : SameEntries r (r.attachDrain id d) := by
  unfold Registry.attachDrain
  split
  · exact refl r
  · exact setHandle r id _

theorem signal {r' : Registry} {now : Nat} (h : r.signal id now = .ok r') : SameEntries r r' := by
  obtain ⟨x, child, -, -, rfl⟩ := signal_eq_ok h
  exact setHandle r id _

end SameEntries

end

/-- Entries are those of processes that are known, each of them once. -/
structure IsSound (r : Registry) : Prop where
  known : ∀ id ∈ r.entries, ∃ h, r.handle? id = some h
  nodup : r.entries.Nodup

theorem IsSound.next_not_mem {r : Registry} (h : r.IsSound) : r.handles.length + 1 ∉ r.entries := by
  intro hid
  obtain ⟨x, hx⟩ := h.known _ hid
  have hplace : r.handles[r.handles.length]? = some x := hx
  simp at hplace

end Registry

namespace Concurrent

/-- What a kill has to do next: take the reader of the output, lock the child and poll it, send SIGKILL to a child that
was not seen to have ended, or poll it until it has ended or the deadline has passed. -/
inductive Kill
  | drain
  | poll
  | signal
  | reap (deadline : Nat)
  deriving DecidableEq, Repr

namespace Kill

def isHolding : Kill → Bool
  | drain | poll => false
  | signal | reap _ => true

def step (r : Registry) (id : ProcessId) (grace now : Nat) : Kill → Registry × Option Kill
  | drain => ((r.takeDrain id).2, some poll)
  | poll =>
    -- the child stays locked unless it has ended
    match r.poll id now with
    | (.exited _, r) => (r, none)
    | (_, r) => (r, some signal)
  | signal =>
    match r.signal id now with
    | .ok r => (r, some (reap (now + grace)))
    | .error _ => (r, none)
  | reap deadline =>
    match r.poll id now with
    | (.running, r) => (r, if deadline ≤ now then none else some (reap deadline))
    | (_, r) => (r, none)

theorem step_cases (kill : Kill) (r : Registry) (id : ProcessId) (grace now : Nat) :
    (kill = .drain ∧ (kill.step r id grace now).1 = (r.takeDrain id).2) ∨
      (kill.step r id grace now).1 = (r.poll id now).2 ∨ r.signal id now = .ok (kill.step r id grace now).1 ∨
      (kill.step r id grace now).1 = r := by
  cases kill with
  | drain => exact .inl ⟨rfl, rfl⟩
  | poll =>
    rw [step]
    split <;>
    · next hp => exact .inr (.inl (by rw [hp]))
  | signal =>
    rw [step]
    split
    · next hsignal => exact .inr (.inr (.inl hsignal))
    · exact .inr (.inr (.inr rfl))
  | reap deadline =>
    rw [step]
    split <;>
    · next hp => exact .inr (.inl (by rw [hp]))

theorem step_sameEntries (kill : Kill) (r : Registry) (id : ProcessId) (grace now : Nat) :
    Registry.SameEntries r (kill.step r id grace now).1 := by
  obtain ⟨-, hstep⟩ | hstep | hstep | hstep := kill.step_cases r id grace now
  · rw [hstep]
    exact .takeDrain r id
  · rw [hstep]
    exact .poll r id now
  · exact .signal r id hstep
  · rw [hstep]
    exact .refl r

end Kill

inductive Duty
  | none
  | guard (id : ProcessId)
  | sweep (minAge : Nat) (todo finished : List ProcessId)

def Duty.isResting : Duty → Bool
  | none | guard _ => true
  | sweep _ _ _ => false

/-- What an actor is at. Between its start and its entry a process has no id at first and then one without an entry; a
process whose guard was dropped is still to be looked after. -/
inductive Task
  | on (duty : Duty)
  | started (h : Handle)
  | drawn (id : ProcessId)
  | releasing (id : ProcessId)
  | killing (id : ProcessId) (grace : Nat) (kill : Kill) (duty : Duty)
  | clearing (kills : List (ProcessId × Kill))

namespace Task

def isHolding (id : ProcessId) : Task → Bool
  | killing target _ kill _ => decide (target = id) && kill.isHolding
  | clearing kills => kills.any fun k => decide (k.1 = id) && k.2.isHolding
  | _ => false

def afterKill (id : ProcessId) (grace : Nat) (duty : Duty) : Option Kill → Task
  | some kill => killing id grace kill duty
  | none => on duty

def afterRelease (id : ProcessId) (grace : Nat) : Poll → Task
  | .running => killing id grace .drain .none
  -- a poll that fails spares the process here, but not in a sweep
  | _ => on .none

def afterLook (minAge : Nat) (id : ProcessId) (grace : Nat) (young : Bool) (todo finished : List ProcessId) :
    Poll → Task
  | .exited _ => on (.sweep minAge todo (finished ++ [id]))
  | .running =>
    if young then on (.sweep minAge todo finished)
    else killing id grace .drain (.sweep minAge todo (finished ++ [id]))
  | .failed _ => killing id grace .drain (.sweep minAge todo (finished ++ [id]))

end Task

abbrev Actor := Nat

structure State where
  registry : Registry
  tasks : Actor → Task

namespace State

def put (s : State) (a : Actor) (task : Task) (registry : Registry) : State where
  registry := registry
  tasks b := if b = a then task else s.tasks b

@[simp] theorem put_registry (s : State) (a : Actor) (task : Task) (registry : Registry) :
    (s.put a task registry).registry = registry := rfl

@[simp] theorem put_tasks_self (s : State) (a : Actor) (task : Task) (registry : Registry) :
    (s.put a task registry).tasks a = task := if_pos rfl

theorem put_tasks_of_ne (s : State) {a b : Actor} (h : b ≠ a) (task : Task) (registry : Registry) :
    (s.put a task registry).tasks b = s.tasks b := if_neg h

def IsFree (s : State) (a : Actor) (id : ProcessId) : Prop := ∀ b ≠ a, (s.tasks b).isHolding id = false

/-- With two actors at work, the one may lock what the other has not. -/
theorem isFree_of_rest {s : State} {a b : Actor} {id : ProcessId}
    (hrest : ∀ c, c ≠ a → c ≠ b → s.tasks c = .on .none) (hb : (s.tasks b).isHolding id = false) :
    s.IsFree a id := by
  intro c hc
  by_cases hcb : c = b
  · rwa [hcb]
  · rw [hrest c hc hcb]
    rfl

end State

/-- What is recorded of a step: what it does to ids, entries and readers, and when sweeps and kills of all entries
begin and end. A reader is attached and taken by hand, or silenced by a kill. -/
inductive Event
  | other
  | drew (id : ProcessId)
  | entered (id : ProcessId)
  | attached (id : ProcessId)
  | took (id : ProcessId)
  | silenced (a : Actor) (id : ProcessId)
  | dropped (id : ProcessId)
  | deregistered (id : ProcessId) (found : Bool)
  | snapshot (a : Actor)
  | looked (a : Actor) (id : ProcessId) (p : Poll)
  | swept (a : Actor) (finished : List ProcessId)
  | cleared (a : Actor) (ids : List ProcessId)
  deriving DecidableEq, Repr

def Event.isAside : Event → Bool
  | other | attached _ | took _ | silenced _ _ | looked _ _ _ => true
  | _ => false

def Kill.event (a : Actor) (id : ProcessId) : Kill → Event
  | drain => .silenced a id
  | _ => .other

theorem Kill.isAside_event (kill : Kill) (a : Actor) (id : ProcessId) : (kill.event a id).isAside = true := by
  cases kill <;> rfl

inductive Step (a : Actor) (now : Nat) (s : State) : Event → State → Prop
  | start (h : Handle) (task : s.tasks a = .on .none) : Step a now s .other (s.put a (.started h) s.registry)
  | draw {h : Handle} (task : s.tasks a = .started h) :
      Step a now s (.drew (s.registry.draw h).1) (s.put a (.drawn (s.registry.draw h).1) (s.registry.draw h).2)
  | enter {id : ProcessId} (task : s.tasks a = .drawn id) :
      Step a now s (.entered id) (s.put a (.on (.guard id)) (s.registry.enter id))
  | attachDrain {duty : Duty} (id : ProcessId) (d : Drain) (task : s.tasks a = .on duty)
      (rest : duty.isResting = true) :
      Step a now s (.attached id) (s.put a (.on duty) (s.registry.attachDrain id d))
  | takeDrain {duty : Duty} (id : ProcessId) (task : s.tasks a = .on duty) (rest : duty.isResting = true) :
      Step a now s (.took id) (s.put a (.on duty) (s.registry.takeDrain id).2)
  | poll {duty : Duty} (id : ProcessId) (task : s.tasks a = .on duty) (rest : duty.isResting = true)
      (free : s.IsFree a id) :
      Step a now s .other (s.put a (.on duty) (s.registry.poll id now).2)
  | forceKill {duty : Duty} (id : ProcessId) (grace : Nat) (task : s.tasks a = .on duty)
      (rest : duty.isResting = true) :
      Step a now s .other (s.put a (.killing id grace .drain duty) s.registry)
  | kill {id : ProcessId} {grace : Nat} {kill : Kill} {duty : Duty}
      (task : s.tasks a = .killing id grace kill duty) (free : kill = .poll → s.IsFree a id) :
      Step a now s (kill.event a id)
        (s.put a (.afterKill id grace duty (kill.step s.registry id grace now).2)
          (kill.step s.registry id grace now).1)
  | drop {id : ProcessId} (task : s.tasks a = .on (.guard id)) :
      Step a now s (.dropped id) (s.put a (.releasing id) (s.registry.remove [id]))
  | release {id : ProcessId} (task : s.tasks a = .releasing id) (free : s.IsFree a id) :
      Step a now s .other
        (s.put a (.afterRelease id s.registry.killGrace (s.registry.poll id now).1) (s.registry.poll id now).2)
  | deregister {duty : Duty} (id : ProcessId) (task : s.tasks a = .on duty) (rest : duty.isResting = true) :
      Step a now s (.deregistered id (s.registry.deregister id).1)
        (s.put a (.on duty) (s.registry.deregister id).2)
  -- the entries are looked at in no particular order
  | beginSweep (minAge : Nat) (todo : List ProcessId) (task : s.tasks a = .on .none)
      (order : todo.Perm s.registry.entries) :
      Step a now s (.snapshot a) (s.put a (.on (.sweep minAge todo [])) s.registry)
  | look {minAge : Nat} {id : ProcessId} {todo finished : List ProcessId}
      (task : s.tasks a = .on (.sweep minAge (id :: todo) finished)) (free : s.IsFree a id) :
      Step a now s (.looked a id (s.registry.poll id now).1)
        (s.put a (.afterLook minAge id s.registry.killGrace (s.registry.isYoung id now minAge) todo finished
          (s.registry.poll id now).1) (s.registry.poll id now).2)
  | endSweep {minAge : Nat} {finished : List ProcessId} (task : s.tasks a = .on (.sweep minAge [] finished)) :
      Step a now s (.swept a finished) (s.put a (.on .none) (s.registry.remove finished))
  | clear (task : s.tasks a = .on .none) :
      Step a now s (.cleared a s.registry.entries)
        (s.put a (.clearing (s.registry.entries.map fun id => (id, .drain))) { s.registry with entries := [] })
  -- the kills go on side by side
  | clearOne {before after : List (ProcessId × Kill)} {id : ProcessId} {kill : Kill}
      (task : s.tasks a = .clearing (before ++ (id, kill) :: after)) (free : kill = .poll → s.IsFree a id) :
      Step a now s (kill.event a id)
        (s.put a
          (.clearing (before ++ ((kill.step s.registry id s.registry.killGrace now).2.map fun k => (id, k)).toList ++
            after))
          (kill.step s.registry id s.registry.killGrace now).1)
  | endClear (task : s.tasks a = .clearing []) : Step a now s .other (s.put a (.on .none) s.registry)

theorem Step.tasks_of_ne {s s' : State} {e : Event} {b c : Actor} {now : Nat} (h : Step b now s e s') (hc : c ≠ b) :
    s'.tasks c = s.tasks c := by
  cases h <;> exact s.put_tasks_of_ne hc _ _

theorem Step.sameEntries {s s' : State} {e : Event} {a : Actor} {now : Nat} (h : Step a now s e s')
    (he : e.isAside = true) : s.registry.SameEntries s'.registry := by
  cases h with
  | start | forceKill | endClear => exact .refl _
  | attachDrain id d => exact .attachDrain s.registry id d
  | takeDrain id => exact .takeDrain s.registry id
  | poll id | @release id | @look _ id => exact .poll s.registry id now
  | kill | clearOne => exact Kill.step_sameEntries ..
  | draw | enter | drop | deregister | beginSweep | endSweep | clear => cases he

theorem Step.entries_cases {s s' : State} {e : Event} {a : Actor} {now : Nat} (h : Step a now s e s') :
    (∃ id, s.tasks a = .drawn id ∧ s'.registry.entries = s.registry.entries ++ [id]) ∨
      s'.registry.entries.Sublist s.registry.entries := by
  by_cases he : e.isAside = true
  · exact .inr ((h.sameEntries he).entries ▸ .refl _)
  · cases h with
    | enter task => exact .inl ⟨_, task, rfl⟩
    | draw | beginSweep => exact .inr (.refl _)
    | drop | deregister | endSweep => exact .inr List.filter_sublist
    | clear => exact .inr (List.nil_sublist _)
    | kill | clearOne => exact absurd (Kill.isAside_event ..) he
    | start | attachDrain | takeDrain | poll | forceKill | release | look | endClear => exact absurd rfl he

inductive Run (start : State) : List Event → State → Prop
  | nil : Run start [] start
  | step {es : List Event} {s s' : State} {e : Event} {a : Actor} {now : Nat} (run : Run start es s)
      (step : Step a now s e s') : Run start (es ++ [e]) s'

theorem Run.append {start s t : State} {es fs : List Event} (h : Run start es s) (h' : Run s fs t) :
    Run start (es ++ fs) t := by
  induction h' with
  | nil => rwa [List.append_nil]
  | step _ hstep ih =>
    rw [← List.append_assoc]
    exact .step ih hstep

def idle : State where
  registry := { killGrace := 2000 }
  tasks _ := .on .none

end Concurrent
end SnippetLab
