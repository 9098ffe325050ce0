import SnippetLab.Proofs.Process.Reader

/-!
What actors do to children. A step polls one child, sends one SIGKILL, or leaves all of them alone; and whoever does
the first or the second has the child locked.
-/
namespace SnippetLab

namespace Child

variable {c c' : Child} {now : Nat} {status : ExitStatus}

theorem poll_of_reaped (h : c.reaped = some status) (now : Nat) : c.poll now = (.exited status, c) := by
  rw [poll, h]

theorem poll_cases (c : Child) (now : Nat) :
    (∃ status, (c.poll now).1 = .exited status ∧ (c.poll now).2.reaped = some status) ∨
      (∀ status, (c.poll now).1 ≠ .exited status) ∧ c.reaped = none ∧ (c.poll now).2 = c := by
  unfold poll
  split
  · next status hreaped => exact .inl ⟨status, rfl, hreaped⟩
  · next hreaped =>
    split
    · exact .inr ⟨by simp, hreaped, rfl⟩
    · split
      · split
        · exact .inl ⟨_, rfl, rfl⟩
        · exact .inr ⟨by simp, hreaped, rfl⟩
      · exact .inr ⟨by simp, hreaped, rfl⟩

theorem reaped_of_poll (h : (c.poll now).1 = .exited status) : (c.poll now).2.reaped = some status := by
  obtain ⟨status', hp, hreaped⟩ | ⟨hp, -⟩ := c.poll_cases now
  · rw [hp] at h
    cases h
    exact hreaped
  · exact absurd h (hp status)

theorem eq_of_poll {p : Poll} (hp : c.poll now = (p, c')) (h : ∀ status, p ≠ .exited status) : c' = c := by
  obtain ⟨status, hended, -⟩ | ⟨-, -, hsame⟩ := c.poll_cases now
  · rw [hp] at hended
    exact absurd hended (h status)
  · rwa [hp] at hsame

theorem behaviour_of_poll {p : Poll} (hp : c.poll now = (p, c')) : c'.behaviour = c.behaviour := by
  have hpoll := c.behaviour_poll now
  rwa [hp] at hpoll

theorem eq_of_poll_exited (hp : c.poll now = (.exited status, c')) : c' = { c with reaped := some status } := by
  have hreaped : (c.poll now).2.reaped = some status := reaped_of_poll (by rw [hp])
  have hsame := c.poll_eq now
  rw [hp] at hreaped hsame
  rwa [hreaped] at hsame

theorem kill_cases (h : c.kill now = .ok c') :
    (∃ status, c.reaped = some status ∧ c' = c) ∨
      c.reaped = none ∧ c.behaviour.killRefusal = none ∧ c' = { c with killedAt := c.killedAt.or (some now) } := by
  unfold kill at h
  split at h
  · next status hreaped => cases h; exact .inl ⟨status, hreaped, rfl⟩
  · cases h
  · next hreaped hrefusal => cases h; exact .inr ⟨hreaped, hrefusal, rfl⟩

inductive Next (now : Nat) (c : Child) : Child → Prop
  | same : Next now c c
  | polled : Next now c (c.poll now).2
  | killed {c' : Child} (kill : c.kill now = .ok c') : Next now c c'

namespace Next

theorem pid (h : c.Next now c') : c'.pid = c.pid := by
  cases h with
  | same => rfl
  | polled => rw [poll_eq]
  | killed kill => obtain ⟨-, -, rfl⟩ | ⟨-, -, rfl⟩ := kill_cases kill <;> rfl

theorem behaviour (h : c.Next now c') : c'.behaviour = c.behaviour := by
  cases h with
  | same => rfl
  | polled => exact c.behaviour_poll now
  | killed kill => exact behaviour_of_kill kill

theorem reaped (h : c.Next now c') (hreaped : c.reaped = some status) : c'.reaped = some status := by
  cases h with
  | same => exact hreaped
  | polled => rwa [poll_of_reaped hreaped]
  | killed kill =>
    obtain ⟨-, -, rfl⟩ | ⟨hnone, -⟩ := kill_cases kill
    · exact hreaped
    · simp [hnone] at hreaped

theorem unreaped (h : c.Next now c') (hreaped : c'.reaped = none) : c.reaped = none := by
  cases hc : c.reaped with
  | none => rfl
  | some status => simp [h.reaped hc] at hreaped

end Next
end Child

namespace Registry

variable {r r' : Registry} {id target : ProcessId} {now : Nat}

theorem handle?_draw_cases {x h : Handle} (hid : (r.draw x).2.handle? id = some h) :
    r.handle? id = some h ∨ id = (r.draw x).1 ∧ h = x := by
  unfold handle? draw at *
  by_cases hzero : id = 0
  · simp [hzero] at hid
  · simp only [hzero, if_false] at hid ⊢
    rw [List.getElem?_append] at hid
    split at hid
    · exact .inl hid
    · next hbeyond =>
      obtain ⟨hlast, rfl⟩ := List.getElem?_eq_some_iff.mp hid
      rw [List.length_singleton] at hlast
      have hnext (m n : Nat) (hm : m ≠ 0) (hle : ¬m - 1 < n) (hlt : m - 1 - n < 1) : m = n + 1 := by omega
      exact .inr ⟨hnext _ _ hzero hbeyond hlast, by simp⟩

/-- The same processes are known, each child as it was or one step on. -/
def Evolves (now : Nat) (r r' : Registry) : Prop :=
  ∀ id, Option.Rel (fun h h' => h.child.Next now h'.child) (r.handle? id) (r'.handle? id)

namespace Evolves

theorem of_handles_eq (h : r'.handles = r.handles) : r.Evolves now r' := by
  intro id
  have hsame : r'.handle? id = r.handle? id := by rw [handle?, handle?, h]
  rw [hsame]
  cases r.handle? id with
  | none => exact .none
  | some h => exact .some .same

theorem setHandle {h h' : Handle} (hr : r.handle? target = some h) (hnext : h.child.Next now h'.child) :
    r.Evolves now (r.setHandle target h') := by
  intro id
  by_cases hid : target = id
  · subst hid
    rw [hr, handle?_setHandle hr]
    exact .some hnext
  · rw [handle?_setHandle_of_ne hid]
    exact of_handles_eq rfl id

theorem poll (r : Registry) (target : ProcessId) (now : Nat) : r.Evolves now (r.poll target now).2 := by
  cases hr : r.handle? target with
  | none =>
    rw [Registry.poll, hr]
    exact of_handles_eq rfl
  | some h =>
    rw [poll_of_handle? hr]
    exact setHandle hr .polled

theorem signal (h : r.signal target now = .ok r') : r.Evolves now r' := by
  obtain ⟨x, child, hr, hkill, rfl⟩ := signal_eq_ok h
  exact setHandle hr (.killed hkill)

end Evolves

def SameChildren (r r' : Registry) : Prop :=
  ∀ id, (r'.handle? id).map Handle.child = (r.handle? id).map Handle.child

namespace SameChildren

theorem of_handles_eq (h : r'.handles = r.handles) : r.SameChildren r' := by
  intro id
  rw [handle?, handle?, h]

theorem setHandle {h h' : Handle} (hr : r.handle? target = some h) (hchild : h'.child = h.child) :
    r.SameChildren (r.setHandle target h') := by
  intro id
  by_cases hid : target = id
  · subst hid
    simp [hr, handle?_setHandle hr, hchild]
  · rw [handle?_setHandle_of_ne hid]

theorem takeDrain (r : Registry) (target : ProcessId) : r.SameChildren (r.takeDrain target).2 := by
  cases hr : r.handle? target with
  | none =>
    rw [Registry.takeDrain, hr]
    exact of_handles_eq rfl
  | some h =>
    rw [takeDrain_of_handle? hr]
    exact setHandle hr rfl

theorem attachDrain (r : Registry) (target : ProcessId) (d : Drain) : r.SameChildren (r.attachDrain target d) := by
  unfold Registry.attachDrain
  cases hr : r.handle? target with
  | none => exact of_handles_eq rfl
  | some h => exact setHandle hr rfl

theorem evolves (h : r.SameChildren r') : r.Evolves now r' := by
  intro id
  have hid := h id
  cases hr : r.handle? id <;> cases hr' : r'.handle? id <;> simp only [hr, hr', Option.map_some, Option.map_none] at hid
  · exact .none
  · cases hid
  · cases hid
  · injection hid with hchild
    exact .some (hchild ▸ .same)

end SameChildren
end Registry

namespace Concurrent

/-- What a step does to the child of a process: it polls it, or it sends it SIGKILL. -/
inductive Contact
  | polled (id : ProcessId) (p : Poll)
  | signalled (id : ProcessId)

namespace Contact

def id : Contact → ProcessId
  | polled id _ | signalled id => id

/-- What the contact makes of the registry, and what it shows. A signal that the system refuses changes nothing. -/
def Turns (now : Nat) (r r' : Registry) : Contact → Prop
  | polled id p => r.poll id now = (p, r')
  | signalled id => r.signal id now = .ok r' ∨ r' = r

end Contact

def Kill.contact? (r : Registry) (id : ProcessId) (now : Nat) : Kill → Option Contact
  | drain => none
  | poll | reap _ => some (.polled id (r.poll id now).1)
  | signal => some (.signalled id)

/-- The steps that reach a child. -/
inductive Contacts (a : Actor) (now : Nat) (s : State) : Contact → State → Prop
  | poll {duty : Duty} (id : ProcessId) (task : s.tasks a = .on duty) (rest : duty.isResting = true)
      (free : s.IsFree a id) :
      Contacts a now s (.polled id (s.registry.poll id now).1) (s.put a (.on duty) (s.registry.poll id now).2)
  | kill {id : ProcessId} {grace : Nat} {kill : Kill} {duty : Duty} {c : Contact}
      (task : s.tasks a = .killing id grace kill duty) (free : kill = .poll → s.IsFree a id)
      (contact : kill.contact? s.registry id now = some c) :
      Contacts a now s c
        (s.put a (.afterKill id grace duty (kill.step s.registry id grace now).2)
          (kill.step s.registry id grace now).1)
  | release {id : ProcessId} (task : s.tasks a = .releasing id) (free : s.IsFree a id) :
      Contacts a now s (.polled id (s.registry.poll id now).1)
        (s.put a (.afterRelease id s.registry.killGrace (s.registry.poll id now).1) (s.registry.poll id now).2)
  | look {minAge : Nat} {id : ProcessId} {todo finished : List ProcessId}
      (task : s.tasks a = .on (.sweep minAge (id :: todo) finished)) (free : s.IsFree a id) :
      Contacts a now s (.polled id (s.registry.poll id now).1)
        (s.put a (.afterLook minAge id s.registry.killGrace (s.registry.isYoung id now minAge) todo finished
          (s.registry.poll id now).1) (s.registry.poll id now).2)
  | clearOne {before after : List (ProcessId × Kill)} {id : ProcessId} {kill : Kill} {c : Contact}
      (task : s.tasks a = .clearing (before ++ (id, kill) :: after)) (free : kill = .poll → s.IsFree a id)
      (contact : kill.contact? s.registry id now = some c) :
      Contacts a now s c
        (s.put a
          (.clearing (before ++ ((kill.step s.registry id s.registry.killGrace now).2.map fun k => (id, k)).toList ++
            after))
          (kill.step s.registry id s.registry.killGrace now).1)

variable {a : Actor} {now : Nat} {s s' : State} {e : Event} {c : Contact}

theorem Kill.id_of_contact? {kill : Kill} {r : Registry} {id : ProcessId}
    (h : kill.contact? r id now = some c) : c.id = id := by
  cases kill <;> cases h <;> rfl

theorem Kill.turns {kill : Kill} {r : Registry} {id : ProcessId} (grace : Nat)
    (h : kill.contact? r id now = some c) : c.Turns now r (kill.step r id grace now).1 := by
  cases kill with
  | drain => cases h
  | poll | reap =>
    cases h
    rw [Contact.Turns, step]
    split <;> simp_all
  | signal =>
    cases h
    rw [Contact.Turns, step]
    split
    · next hsignal => exact .inl hsignal
    · exact .inr rfl

theorem Contacts.turns (h : Contacts a now s c s') : c.Turns now s.registry s'.registry := by
  cases h with
  | poll | release | look => rfl
  | kill task free contact | clearOne task free contact => exact Kill.turns _ contact

/-- Whoever reaches a child has it locked: it was free, or locked before for a kill. -/
theorem Contacts.locks (h : Contacts a now s c s') : s.IsFree a c.id ∨ (s.tasks a).isHolding c.id = true := by
  have hkill {id : ProcessId} {kill : Kill} (contact : kill.contact? s.registry id now = some c)
      (free : kill = .poll → s.IsFree a id) : s.IsFree a id ∨ kill.isHolding = true := by
    cases kill with
    | drain => cases contact
    | poll => exact .inl (free rfl)
    | signal | reap => exact .inr rfl
  cases h with
  | poll id task rest free | release task free | look task free => exact .inl free
  | kill task free contact =>
    rw [Kill.id_of_contact? contact, task]
    exact (hkill contact free).imp_right fun hholding => by simp [Task.isHolding, hholding]
  | clearOne task free contact =>
    rw [Kill.id_of_contact? contact, task]
    exact (hkill contact free).imp_right fun hholding => by simp [Task.isHolding, hholding]

theorem Contact.Turns.evolves {r r' : Registry} (h : c.Turns now r r') : r.Evolves now r' := by
  cases c with
  | polled id p =>
    rw [Turns] at h
    have hpoll := Registry.Evolves.poll r id now
    rwa [h] at hpoll
  | signalled id =>
    obtain hsignal | rfl := h
    · exact .signal hsignal
    · exact .of_handles_eq rfl

/-- No other step does anything to a child. -/
theorem Step.contacts_or (h : Step a now s e s') :
    (∃ c, Contacts a now s c s') ∨ s.registry.SameChildren s'.registry ∨
      ∃ x, s.tasks a = .started x ∧ s'.registry = (s.registry.draw x).2 ∧
        s'.tasks a = .drawn (s.registry.draw x).1 := by
  cases h with
  | draw task => exact .inr (.inr ⟨_, task, rfl, s.put_tasks_self ..⟩)
  | poll id task rest free => exact .inl ⟨_, .poll id task rest free⟩
  | release task free => exact .inl ⟨_, .release task free⟩
  | look task free => exact .inl ⟨_, .look task free⟩
  | @kill id grace kill duty task free =>
    cases hc : kill.contact? s.registry id now with
    | some c => exact .inl ⟨c, .kill task free hc⟩
    | none =>
      cases kill <;> cases hc
      exact .inr (.inl (.takeDrain s.registry id))
  | @clearOne before after id kill task free =>
    cases hc : kill.contact? s.registry id now with
    | some c => exact .inl ⟨c, .clearOne task free hc⟩
    | none =>
      cases kill <;> cases hc
      exact .inr (.inl (.takeDrain s.registry id))
  | attachDrain id d => exact .inr (.inl (.attachDrain s.registry id d))
  | takeDrain id => exact .inr (.inl (.takeDrain s.registry id))
  | _ => exact .inr (.inl (.of_handles_eq rfl))

/-- Each child afterwards comes from one before, or from a process that was started and now has its id. -/
theorem Step.handle?_cases {id : ProcessId} {x' : Handle} (h : Step a now s e s')
    (hid : s'.registry.handle? id = some x') :
    (∃ x, s.registry.handle? id = some x ∧ x.child.Next now x'.child) ∨
      s.tasks a = .started x' ∧ id = (s.registry.draw x').1 ∧ s'.tasks a = .drawn id := by
  have hevolves (hr : s.registry.Evolves now s'.registry) :
      ∃ x, s.registry.handle? id = some x ∧ x.child.Next now x'.child := by
    have hrel := hr id
    rw [hid] at hrel
    cases hx : s.registry.handle? id with
    | none => rw [hx] at hrel; cases hrel
    | some x => rw [hx] at hrel; cases hrel with | some hnext => exact ⟨x, rfl, hnext⟩
  obtain ⟨c, hcontact⟩ | hsame | ⟨x, htask, hregistry, hdrawn⟩ := h.contacts_or
  · exact .inl (hevolves hcontact.turns.evolves)
  · exact .inl (hevolves hsame.evolves)
  · rw [hregistry] at hid
    obtain hold | ⟨rfl, rfl⟩ := Registry.handle?_draw_cases hid
    · exact .inl ⟨x', hold, .same⟩
    · exact .inr ⟨htask, rfl, hdrawn⟩

theorem Step.exists_handle? {id : ProcessId} {x : Handle} (h : Step a now s e s')
    (hid : s.registry.handle? id = some x) :
    ∃ x', s'.registry.handle? id = some x' ∧ x.child.Next now x'.child := by
  have hevolves (hr : s.registry.Evolves now s'.registry) :
      ∃ x', s'.registry.handle? id = some x' ∧ x.child.Next now x'.child := by
    have hrel := hr id
    rw [hid] at hrel
    cases hx : s'.registry.handle? id with
    | none => rw [hx] at hrel; cases hrel
    | some x' => rw [hx] at hrel; cases hrel with | some hnext => exact ⟨x', rfl, hnext⟩
  obtain ⟨c, hcontact⟩ | hsame | ⟨x', -, hregistry, -⟩ := h.contacts_or
  · exact hevolves hcontact.turns.evolves
  · exact hevolves hsame.evolves
  · exact ⟨x, hregistry ▸ Registry.handle?_draw hid x', .same⟩

end Concurrent
end SnippetLab
