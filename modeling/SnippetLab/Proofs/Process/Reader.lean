import SnippetLab.Proofs.Process.Steps
import SnippetLab.Proofs.Text.Utf8
import Mathlib.Data.List.Basic
import Mathlib.Logic.Relation

/-!
What becomes of the reader of a process. It reads on to the end of the stream, whatever the reads bring, and keeps
the front of it up to the limit; of a text this leaves the characters that are complete there, and one sign for the
character that the limit cuts in two. No step changes the reader but those that take it away, and no step changes
what the process writes.
-/
namespace SnippetLab.Drain

open SnippetLab.Text

variable {limit : Nat} {octets kept : List UInt8} {reads : List PipeRead}

/-! ### The reads one by one -/

/-- Reads that bring a stream of octets: chunks of it in order, and interrupted reads in between. -/
inductive Brings : List UInt8 → List PipeRead → Prop
  | nothing : Brings [] []
  | chunk {chunk octets : List UInt8} {reads : List PipeRead} (some : chunk ≠ []) (size : chunk.length ≤ readSize)
      (rest : Brings octets reads) : Brings (chunk ++ octets) (.octets chunk :: reads)
  | interrupted {octets : List UInt8} {reads : List PipeRead} (rest : Brings octets reads) :
      Brings octets (.interrupted :: reads)

structure Turn where
  kept : List UInt8
  ahead : List PipeRead

inductive Step (limit : Nat) : Turn → Turn → Prop
  | chunk {kept chunk : List UInt8} {reads : List PipeRead} (some : chunk ≠ []) :
      Step limit ⟨kept, .octets chunk :: reads⟩ ⟨kept ++ chunk.take (limit - kept.length), reads⟩
  | interrupted {kept : List UInt8} {reads : List PipeRead} : Step limit ⟨kept, .interrupted :: reads⟩ ⟨kept, reads⟩

abbrev Steps (limit : Nat) : Turn → Turn → Prop := Relation.ReflTransGen (Step limit)

theorem readAll_octets (limit : Nat) (kept : List UInt8) {chunk : List UInt8} (h : chunk ≠ [])
    (reads : List PipeRead) :
    readAll limit kept (.octets chunk :: reads) = readAll limit (kept ++ chunk.take (limit - kept.length)) reads := by
  cases chunk with
  | nil => exact absurd rfl h
  | cons b rest => rw [readAll]; simp

variable {t t' : Turn}

theorem Step.readAll_eq (h : Step limit t t') : readAll limit t'.kept t'.ahead = readAll limit t.kept t.ahead := by
  cases h with
  | chunk some => exact (readAll_octets limit _ some _).symm
  | interrupted => rfl

theorem Step.length_kept_le (h : Step limit t t') (ht : t.kept.length ≤ limit) : t'.kept.length ≤ limit := by
  cases h with
  | chunk some =>
    simp only [List.length_append, List.length_take] at ht ⊢
    omega
  | interrupted => exact ht

theorem Steps.readAll_eq (h : Steps limit t t') : readAll limit t'.kept t'.ahead = readAll limit t.kept t.ahead := by
  induction h with
  | refl => rfl
  | tail _ step ih => exact step.readAll_eq.trans ih

theorem Steps.length_kept_le (h : Steps limit t t') (ht : t.kept.length ≤ limit) : t'.kept.length ≤ limit := by
  induction h with
  | refl => exact ht
  | tail _ step ih => exact step.length_kept_le ih

theorem take_append_take (kept chunk octets : List UInt8) (limit : Nat) :
    kept ++ chunk.take (limit - kept.length) ++
        octets.take (limit - (kept ++ chunk.take (limit - kept.length)).length) =
      kept ++ (chunk ++ octets).take (limit - kept.length) := by
  rw [List.append_assoc, List.take_append]
  congr 3
  simp only [List.length_append, List.length_take]
  omega

/-- All reads of a stream are made, also those that bring nothing to keep any more. -/
theorem Brings.steps (h : Brings octets reads) (limit : Nat) (kept : List UInt8) (rest : List PipeRead) :
    Steps limit ⟨kept, reads ++ rest⟩ ⟨kept ++ octets.take (limit - kept.length), rest⟩ := by
  induction h generalizing kept with
  | nothing =>
    rw [List.take_nil, List.append_nil]
    exact .refl
  | @chunk chunk octets reads some size _ ih =>
    have hrest := ih (kept ++ chunk.take (limit - kept.length))
    rw [take_append_take] at hrest
    exact .head (.chunk some) hrest
  | interrupted _ ih => exact .head .interrupted (ih kept)

theorem Brings.readAll_append (h : Brings octets reads) (limit : Nat) (kept : List UInt8) (rest : List PipeRead) :
    readAll limit kept (reads ++ rest) = readAll limit (kept ++ octets.take (limit - kept.length)) rest :=
  (h.steps limit kept rest).readAll_eq.symm

/-! ### What is kept -/

theorem brings_inReads {fuel : Nat} (h : octets.length ≤ fuel) : Brings octets (inReads fuel octets) := by
  induction fuel generalizing octets with
  | zero =>
    obtain rfl := List.length_eq_zero_iff.mp (Nat.le_zero.mp h)
    exact .nothing
  | succ fuel ih =>
    cases octets with
    | nil => exact .nothing
    | cons b rest =>
      have hrest : ((b :: rest).drop readSize).length ≤ fuel := by
        simp only [List.length_drop, List.length_cons, readSize] at h ⊢
        omega
      have hchunk : (b :: rest).take readSize ≠ [] := by simp [readSize]
      have hread := Brings.chunk hchunk (List.length_take_le _ _) (ih hrest)
      rwa [List.take_append_drop] at hread

theorem capture_eq_take (limit : Nat) (octets : List UInt8) : capture limit octets = octets.take limit := by
  have h := (brings_inReads (Nat.le_refl octets.length)).readAll_append limit [] []
  rw [List.append_nil] at h
  rw [capture, h]
  rfl

theorem collect_of_not_cancelled {d : Drain} (hd : d.cancelled = false) (c : Child) (now grace : Nat) :
    (d.collect c now grace).1 = if c.closesBy (now + grace) then some (c.behaviour.written.take d.limit) else none := by
  unfold collect Child.closesBy
  rw [hd]
  cases c.pipeCloses with
  | none => rfl
  | some closed =>
    by_cases hclosed : closed ≤ now + grace <;> simp [hclosed, capture_eq_take]

/-- **What is kept of a text.** Whatever pieces a text is read in, the drain reads them all up to the end of the
stream, never keeps more than the limit and is left with the front of the octets, which is what a run that waits
for it in time is given. It decodes to the longest front of the text that fits, and one sign more if the limit cuts
a character. -/
theorem readAll_keeps_front (text : String) (limit : Nat) (h : Brings (Utf8.encode text.toList) reads)
    (rest : List PipeRead) :
    let octets := Utf8.encode text.toList
    let start : Turn := ⟨[], reads ++ .octets [] :: rest⟩
    let kept := readAll limit start.kept start.ahead
    Steps limit start ⟨kept, .octets [] :: rest⟩ ∧
      (∀ t, Steps limit start t → t.kept.length ≤ limit ∧ readAll limit t.kept t.ahead = kept) ∧
      kept = octets.take limit ∧ kept.length = min limit octets.length ∧
      (∀ (c : Child) (now grace : Nat), c.behaviour.written = octets → c.closesBy (now + grace) = true →
        (collect { limit } c now grace).1 = some kept) ∧
      ∃ front, Utf8.IsFitting limit text.toList front ∧
        (Utf8.CutsChar limit text.toList → Utf8.decodeLossy kept = front ++ ['\uFFFD']) ∧
        (¬Utf8.CutsChar limit text.toList → Utf8.decodeLossy kept = front) := by
  intro octets start kept
  have hkept : kept = octets.take limit := h.readAll_append limit [] (.octets [] :: rest)
  have hsteps : Steps limit start ⟨kept, .octets [] :: rest⟩ := by
    rw [hkept]
    exact h.steps limit [] (.octets [] :: rest)
  refine ⟨hsteps, fun t ht => ?_, hkept, ?_, fun c now grace hwritten hcloses => ?_, ?_⟩
  · exact ⟨ht.length_kept_le (Nat.zero_le limit), ht.readAll_eq⟩
  · rw [hkept, List.length_take]
  · rw [collect_of_not_cancelled rfl, if_pos hcloses, hwritten, hkept]
  · rw [hkept]
    exact Utf8.decodeLossy_take limit text.toList

/-- The second letter of two is cut, and the reads cut both. -/
theorem readAll_keeps_front_cut :
    let reads : List PipeRead := [.octets [0xD0], .interrupted, .octets [0xB4, 0xD0], .octets [0xB0]]
    let kept := readAll 3 [] (reads ++ [.octets []])
    Brings (Utf8.encode "да".toList) reads ∧ kept = (Utf8.encode "да".toList).take 3 ∧
      Utf8.CutsChar 3 "да".toList ∧
      ∃ front, Utf8.IsFitting 3 "да".toList front ∧ Utf8.decodeLossy kept = front ++ ['\uFFFD'] := by
  intro reads kept
  have hpieces : Brings ([0xD0] ++ ([0xB4, 0xD0] ++ ([0xB0] ++ []))) reads :=
    .chunk (by decide) (by decide) (.interrupted (.chunk (by decide) (by decide)
      (.chunk (by decide) (by decide) .nothing)))
  have hbrings : Brings (Utf8.encode "да".toList) reads := hpieces
  have hcuts : Utf8.CutsChar 3 "да".toList := ⟨['д'], 'а', [], rfl, by decide, by decide⟩
  obtain ⟨-, -, hkept, -, -, front, hfitting, hcut, -⟩ := readAll_keeps_front "да" 3 hbrings []
  exact ⟨hbrings, hkept, hcuts, front, hfitting, hcut hcuts⟩

end SnippetLab.Drain

namespace SnippetLab

/-! What leaves a reader alone -/

namespace Registry

theorem handle?_setHandle_of_ne {r : Registry} {id target : ProcessId} (h : target ≠ id) (x : Handle) :
    (r.setHandle target x).handle? id = r.handle? id := by
  unfold handle? setHandle
  by_cases hid : id = 0
  · simp [hid]
  · by_cases htarget : target = 0
    · simp [htarget]
    · have hplace : target - 1 ≠ id - 1 := fun heq =>
        h (Nat.sub_one_cancel (Nat.pos_of_ne_zero htarget) (Nat.pos_of_ne_zero hid) heq)
      simp [hid, htarget, List.getElem?_set_ne hplace]

theorem handle?_draw {r : Registry} {id : ProcessId} {h : Handle} (hr : r.handle? id = some h) (x : Handle) :
    (r.draw x).2.handle? id = some h := by
  unfold handle? draw at *
  by_cases hid : id = 0
  · simp [hid] at hr
  · simp only [hid, if_false] at hr ⊢
    exact List.getElem?_append_left (List.getElem?_eq_some_iff.mp hr).1 ▸ hr

theorem handle?_draw_self (r : Registry) (x : Handle) : (r.draw x).2.handle? (r.draw x).1 = some x := by
  simp [handle?, draw]

/-- The process is known, writes what it wrote and has the reader that it had. -/
def KeepsReader (id : ProcessId) (r r' : Registry) : Prop :=
  ∀ h, r.handle? id = some h →
    ∃ h', r'.handle? id = some h' ∧ h'.child.behaviour = h.child.behaviour ∧ h'.drain = h.drain

namespace KeepsReader

variable {id target : ProcessId} {r r' : Registry}

theorem of_handles_eq (heq : r'.handles = r.handles) : KeepsReader id r r' := by
  intro h hr
  refine ⟨h, ?_, rfl, rfl⟩
  rwa [handle?, heq]

theorem draw (x : Handle) : KeepsReader id r (r.draw x).2 :=
  fun h hr => ⟨h, handle?_draw hr x, rfl, rfl⟩

theorem setHandle {h h' : Handle} (hr : r.handle? target = some h)
    (hbehaviour : h'.child.behaviour = h.child.behaviour) (hdrain : h'.drain = h.drain) :
    KeepsReader id r (r.setHandle target h') := by
  intro x hx
  by_cases htarget : target = id
  · subst htarget
    obtain rfl : h = x := Option.some.inj (hr.symm.trans hx)
    exact ⟨h', handle?_setHandle hr h', hbehaviour, hdrain⟩
  · exact ⟨x, by rwa [handle?_setHandle_of_ne htarget], rfl, rfl⟩

theorem poll (target : ProcessId) (now : Nat) : KeepsReader id r (r.poll target now).2 := by
  cases hr : r.handle? target with
  | none =>
    rw [Registry.poll, hr]
    exact of_handles_eq rfl
  | some h =>
    rw [poll_of_handle? hr]
    exact setHandle hr (h.child.behaviour_poll now) rfl

theorem signal {now : Nat} (h : r.signal target now = .ok r') : KeepsReader id r r' := by
  obtain ⟨x, child, hr, hkill, rfl⟩ := signal_eq_ok h
  exact setHandle hr (Child.behaviour_of_kill hkill) rfl

theorem takeDrain (hne : target ≠ id) : KeepsReader id r (r.takeDrain target).2 := by
  cases hr : r.handle? target with
  | none =>
    rw [Registry.takeDrain, hr]
    exact of_handles_eq rfl
  | some h =>
    rw [takeDrain_of_handle? hr]
    exact fun x hx => ⟨x, by rwa [handle?_setHandle_of_ne hne], rfl, rfl⟩

theorem attachDrain (hne : target ≠ id) (d : Drain) : KeepsReader id r (r.attachDrain target d) := by
  unfold Registry.attachDrain
  cases hr : r.handle? target with
  | none => exact of_handles_eq rfl
  | some h => exact fun x hx => ⟨x, by rwa [handle?_setHandle_of_ne hne], rfl, rfl⟩

end KeepsReader
end Registry

namespace Concurrent

def Event.concernsReader (id : ProcessId) : Event → Bool
  | attached i | took i | silenced _ i => i = id
  | _ => false

theorem Kill.step_keepsReader {id target : ProcessId} (kill : Kill) (hother : kill = .drain → target ≠ id)
    (r : Registry) (grace now : Nat) : r.KeepsReader id (kill.step r target grace now).1 := by
  obtain ⟨hdrain, hstep⟩ | hstep | hstep | hstep := kill.step_cases r target grace now
  · rw [hstep]
    exact .takeDrain (hother hdrain)
  · rw [hstep]
    exact .poll target now
  · exact .signal hstep
  · rw [hstep]
    exact .of_handles_eq rfl

variable {a : Actor} {now : Nat} {s s' : State} {e : Event} {id : ProcessId}

theorem Step.keepsReader (h : Step a now s e s') (he : e.concernsReader id = false) :
    s.registry.KeepsReader id s'.registry := by
  have hkill {target : ProcessId} {kill : Kill} (hevent : (kill.event a target).concernsReader id = false) :
      kill = .drain → target ≠ id := by
    rintro rfl
    simpa [Kill.event, Event.concernsReader] using hevent
  cases h with
  | start | enter | forceKill | drop | deregister | beginSweep | endSweep | clear | endClear =>
    exact .of_handles_eq rfl
  | draw => exact .draw _
  | attachDrain target d => exact .attachDrain (by simpa [Event.concernsReader] using he) d
  | takeDrain target => exact .takeDrain (by simpa [Event.concernsReader] using he)
  | poll target | release | look => exact .poll _ now
  | kill task free => exact Kill.step_keepsReader _ (hkill he) _ _ _
  | clearOne task free => exact Kill.step_keepsReader _ (hkill he) _ _ _

theorem Step.of_silenced {b : Actor} (h : Step a now s (.silenced b id) s') :
    b = a ∧ s'.registry = (s.registry.takeDrain id).2 ∧
      ((∃ grace duty, s.tasks a = .killing id grace .drain duty) ∨
        ∃ kills, s.tasks a = .clearing kills ∧ (id, .drain) ∈ kills) := by
  generalize he : Event.silenced b id = e at h
  cases h <;> try cases he
  · next target grace kill duty task free =>
    cases kill <;> cases he
    exact ⟨rfl, rfl, .inl ⟨grace, duty, task⟩⟩
  · next before after target kill task free =>
    cases kill <;> cases he
    exact ⟨rfl, rfl, .inr ⟨_, task, by simp⟩⟩

/-! What becomes of a reader -/

/-- The reader is with its process, was lost to a kill, or was taken to be read to its end. -/
inductive Fate
  | none
  | attached
  | lost
  | taken
  deriving DecidableEq, Repr

def Fate.after (id : ProcessId) (f : Fate) : Event → Fate
  | .attached i => if i = id then .attached else f
  | .silenced _ i => if i = id ∧ f = .attached then .lost else f
  | .took i => if i = id ∧ f = .attached then .taken else f
  | _ => f

def fate (id : ProcessId) (es : List Event) : Fate := es.foldl (Fate.after id) .none

theorem fate_append (es : List Event) : fate id (es ++ [e]) = (fate id es).after id e := by simp [fate]

theorem Fate.after_of_not_concerns (f : Fate) (he : e.concernsReader id = false) : f.after id e = f := by
  cases e <;> simp_all [Event.concernsReader, Fate.after]

end Concurrent
end SnippetLab
