import SnippetLab.Proofs.Process.Alone
import Mathlib.Data.List.Nodup

/-!
One sweep that nobody interrupts. It looks at each entry once, and has not touched a process before it looks at it. So
what becomes of the entries can be read off the registry as it was before the sweep: each process as it was then, at
the time when those before it are finished with.
-/
namespace SnippetLab

namespace Handle

theorem le_awaitEnd (c : Child) (grace deadline now : Nat) : now ≤ (awaitEnd c grace deadline now).2.1 := by
  fun_induction awaitEnd c grace deadline now with
  | case1 | case2 | case3 => exact Nat.le_refl _
  | case4 c now child hp hearly ih => exact Nat.le_trans (Nat.le_add_right now killPoll) ih

theorem le_forceKill (h : Handle) (now grace : Nat) : now ≤ (h.forceKill now grace).2.1 := by
  obtain ⟨status, hforced⟩ | ⟨reason, -, hforced⟩ | ⟨child, -, hforced⟩ := h.forceKill_cases now grace
  · exact Nat.le_of_eq (by rw [hforced])
  · exact Nat.le_of_eq (by rw [hforced])
  · rw [hforced]
    exact le_awaitEnd child grace (now + grace) now

end Handle

inductive Verdict
  | reap
  | spare
  | kill
  deriving DecidableEq, Repr

structure Look where
  id : ProcessId
  handle : Handle
  time : Nat

namespace Look

/-- What is seen to run is spared while it is younger than the age. What cannot be polled is killed at any age. -/
def verdict (minAge : Nat) (x : Look) : Verdict :=
  match (x.handle.child.poll x.time).1 with
  | .exited _ => .reap
  | .running => if x.time - x.handle.child.startedAt < minAge then .spare else .kill
  | .failed _ => .kill

def outcome (minAge grace : Nat) (x : Look) : Nat × Handle :=
  match x.verdict minAge with
  | .reap => (x.time, (x.handle.poll x.time).2)
  | .spare => (x.time, x.handle)
  | .kill => (x.handle.forceKill x.time grace).2

section

variable {minAge : Nat} {x : Look}

theorem verdict_eq_reap_iff :
    x.verdict minAge = .reap ↔ ∃ status, (x.handle.child.poll x.time).1 = .exited status := by
  unfold verdict
  cases (x.handle.child.poll x.time).1 with
  | running => by_cases hyoung : x.time - x.handle.child.startedAt < minAge <;> simp [hyoung]
  | exited | failed => simp

theorem verdict_eq_spare_iff :
    x.verdict minAge = .spare ↔
      (x.handle.child.poll x.time).1 = .running ∧ x.time - x.handle.child.startedAt < minAge := by
  unfold verdict
  cases (x.handle.child.poll x.time).1 with
  | running | exited | failed => simp

theorem verdict_eq_kill (hended : ∀ status, (x.handle.child.poll x.time).1 ≠ .exited status)
    (hspared : ¬((x.handle.child.poll x.time).1 = .running ∧ x.time - x.handle.child.startedAt < minAge)) :
    x.verdict minAge = .kill := by
  cases hverdict : x.verdict minAge with
  | reap =>
    obtain ⟨status, hp⟩ := verdict_eq_reap_iff.mp hverdict
    exact absurd hp (hended status)
  | spare => exact absurd (verdict_eq_spare_iff.mp hverdict) hspared
  | kill => rfl

end

theorem le_outcome (minAge grace : Nat) (x : Look) : x.time ≤ (x.outcome minAge grace).1 := by
  unfold outcome
  cases x.verdict minAge with
  | reap | spare => exact Nat.le_refl x.time
  | kill => exact x.handle.le_forceKill x.time grace

end Look

namespace Registry

/-- The looks at processes in that order, from that time on. -/
def looks (minAge : Nat) (r : Registry) : Nat → List ProcessId → List Look
  | _, [] => []
  | now, id :: todo =>
    match r.handle? id with
    | none => r.looks minAge now todo
    | some handle =>
      let x : Look := { id, handle, time := now }
      x :: r.looks minAge (x.outcome minAge r.killGrace).1 todo

def Sweep.record (minAge grace : Nat) (w : Sweep) (x : Look) : Sweep :=
  let now := (x.outcome minAge grace).1
  match x.verdict minAge with
  | .reap =>
    { now, report := { w.report with reaped := w.report.reaped + 1 }, finished := w.finished ++ [x.id] }
  | .spare => { w with now, report := { w.report with remaining := w.report.remaining + 1 } }
  | .kill =>
    { now, report := { w.report with killed := w.report.killed + 1 }, finished := w.finished ++ [x.id] }

variable {r : Registry} {id : ProcessId} {h : Handle} {minAge : Nat}

theorem sweepOne_of_handle? (hr : r.handle? id = some h) (w : Sweep) :
    sweepOne minAge w r id =
      (w.record minAge r.killGrace ⟨id, h, w.now⟩,
        r.setHandle id (Look.outcome minAge r.killGrace ⟨id, h, w.now⟩).2) := by
  have hgrace : (r.setHandle id h).killGrace = r.killGrace := (SameEntries.setHandle r id h).killGrace
  have hseen := handle?_setHandle hr h
  rcases hp : h.child.poll w.now with ⟨p, child⟩
  rw [sweepOne, poll_of_handle? hr, hp]
  cases p with
  | exited status => simp [Sweep.record, Look.outcome, Look.verdict, Handle.poll, hp]
  | running =>
    obtain rfl := Child.eq_of_poll hp (by simp)
    by_cases hyoung : w.now - h.child.startedAt < minAge
    · simp [Sweep.record, Look.outcome, Look.verdict, hp, hseen, hyoung]
    · simp [Sweep.record, Look.outcome, Look.verdict, hp, hseen, hyoung, forceKill_of_handle? hseen, hgrace,
        setHandle_setHandle]
  | failed reason =>
    obtain rfl := Child.eq_of_poll hp (by simp)
    simp [Sweep.record, Look.outcome, Look.verdict, hp, forceKill_of_handle? hseen, hgrace, setHandle_setHandle]

/-! ### The looks of a sweep -/

/-- What becomes of one process does not show in the looks at others. -/
theorem looks_setHandle {todo : List ProcessId} (hid : id ∉ todo) (now : Nat) :
    (r.setHandle id h).looks minAge now todo = r.looks minAge now todo := by
  induction todo generalizing now with
  | nil => rfl
  | cons other todo ih =>
    rw [List.mem_cons, not_or] at hid
    obtain ⟨hne, hrest⟩ := hid
    have hgrace : (r.setHandle id h).killGrace = r.killGrace := (SameEntries.setHandle r id h).killGrace
    rw [looks, looks, handle?_setHandle_of_ne hne, hgrace]
    cases r.handle? other <;> simp only [ih hrest]

theorem looks_cons (hr : r.handle? id = some h) (now : Nat) (todo : List ProcessId) :
    r.looks minAge now (id :: todo) =
      ⟨id, h, now⟩ :: r.looks minAge (Look.outcome minAge r.killGrace ⟨id, h, now⟩).1 todo := by
  rw [looks, hr]

def afterLooks (minAge grace : Nat) (r : Registry) (looks : List Look) : Registry :=
  looks.foldl (fun r x => r.setHandle x.id (x.outcome minAge grace).2) r

theorem now_record (minAge grace : Nat) (w : Sweep) (x : Look) :
    (w.record minAge grace x).now = (x.outcome minAge grace).1 := by
  unfold Sweep.record
  cases x.verdict minAge <;> rfl

/-- A sweep comes to the looks at the registry as it was before. -/
theorem sweepAll_eq {todo : List ProcessId} (hknown : ∀ id ∈ todo, ∃ h, r.handle? id = some h) (hnodup : todo.Nodup)
    (w : Sweep) :
    sweepAll minAge w r todo =
      ((r.looks minAge w.now todo).foldl (Sweep.record minAge r.killGrace) w,
        r.afterLooks minAge r.killGrace (r.looks minAge w.now todo)) := by
  induction todo generalizing w r with
  | nil => rfl
  | cons id todo ih =>
    obtain ⟨hid, hrest⟩ := List.nodup_cons.mp hnodup
    obtain ⟨h, hr⟩ := hknown id List.mem_cons_self
    have hgrace (h' : Handle) : (r.setHandle id h').killGrace = r.killGrace := (SameEntries.setHandle r id h').killGrace
    have hothers (h' : Handle) : ∀ other ∈ todo, ∃ x, (r.setHandle id h').handle? other = some x := by
      intro other hother
      rw [handle?_setHandle_of_ne (ne_of_mem_of_not_mem hother hid).symm]
      exact hknown other (List.mem_cons_of_mem id hother)
    rw [sweepAll_cons, sweepOne_of_handle? hr, ih (hothers _) hrest, looks_setHandle hid, now_record, hgrace,
      looks_cons hr]
    rfl

/-! ### What the looks come to -/

theorem id_looks {todo : List ProcessId} (hknown : ∀ id ∈ todo, ∃ h, r.handle? id = some h) (minAge now : Nat) :
    (r.looks minAge now todo).map Look.id = todo := by
  induction todo generalizing now with
  | nil => rfl
  | cons id todo ih =>
    obtain ⟨h, hr⟩ := hknown id List.mem_cons_self
    rw [looks_cons hr, List.map_cons, ih fun other hother => hknown other (List.mem_cons_of_mem id hother)]

theorem found_looks {x : Look} {todo : List ProcessId} {now : Nat} (hx : x ∈ r.looks minAge now todo) :
    r.handle? x.id = some x.handle ∧ now ≤ x.time := by
  induction todo generalizing now with
  | nil => cases hx
  | cons id todo ih =>
    rw [looks] at hx
    cases hr : r.handle? id with
    | none =>
      rw [hr] at hx
      exact ih hx
    | some h =>
      rw [hr] at hx
      rcases List.mem_cons.mp hx with rfl | hx
      · exact ⟨hr, Nat.le_refl now⟩
      · obtain ⟨hknown, hlater⟩ := ih hx
        exact ⟨hknown, Nat.le_trans (Look.le_outcome minAge r.killGrace ⟨id, h, now⟩) hlater⟩

section

variable {looks : List Look} {grace : Nat} {w : Sweep}

theorem report_foldl_record (looks : List Look) (w : Sweep) :
    (looks.foldl (Sweep.record minAge grace) w).report =
      { reaped := w.report.reaped + looks.countP (·.verdict minAge = .reap)
        killed := w.report.killed + looks.countP (·.verdict minAge = .kill)
        remaining := w.report.remaining + looks.countP (·.verdict minAge = .spare) } := by
  induction looks generalizing w with
  | nil => rfl
  | cons x looks ih =>
    rw [List.foldl_cons, ih, Sweep.record]
    cases hx : x.verdict minAge <;> simp [hx, Nat.add_assoc, Nat.add_comm 1]

theorem finished_foldl_record (looks : List Look) (w : Sweep) :
    (looks.foldl (Sweep.record minAge grace) w).finished =
      w.finished ++ (looks.filter (·.verdict minAge ≠ .spare)).map Look.id := by
  induction looks generalizing w with
  | nil => simp
  | cons x looks ih =>
    rw [List.foldl_cons, ih, Sweep.record]
    cases hx : x.verdict minAge <;> simp [hx]

theorem entries_afterLooks (looks : List Look) (r : Registry) :
    (r.afterLooks minAge grace looks).entries = r.entries := by
  induction looks generalizing r with
  | nil => rfl
  | cons x looks ih => exact (ih _).trans (SameEntries.setHandle r x.id _).entries

theorem handle?_afterLooks_of_not_mem (hid : id ∉ looks.map Look.id) :
    (r.afterLooks minAge grace looks).handle? id = r.handle? id := by
  induction looks generalizing r with
  | nil => rfl
  | cons x looks ih =>
    rw [List.map_cons, List.mem_cons, not_or] at hid
    exact (ih hid.2).trans (handle?_setHandle_of_ne (Ne.symm hid.1) _)

theorem handle?_afterLooks {x : Look} (hnodup : (looks.map Look.id).Nodup) (hx : x ∈ looks)
    (hr : r.handle? x.id = some x.handle) :
    (r.afterLooks minAge grace looks).handle? x.id = some (x.outcome minAge grace).2 := by
  induction looks generalizing r with
  | nil => cases hx
  | cons y looks ih =>
    rw [List.map_cons, List.nodup_cons] at hnodup
    rcases List.mem_cons.mp hx with rfl | hx
    · exact (handle?_afterLooks_of_not_mem hnodup.1).trans (handle?_setHandle hr _)
    · have hne : y.id ≠ x.id := by
        intro heq
        exact hnodup.1 (heq ▸ List.mem_map_of_mem hx)
      exact ih hnodup.2 hx ((handle?_setHandle_of_ne hne _).trans hr)

theorem id_mem_filter_iff {x : Look} {p : Look → Bool} (hnodup : (looks.map Look.id).Nodup) (hx : x ∈ looks) :
    x.id ∈ (looks.filter p).map Look.id ↔ p x = true := by
  constructor
  · intro hid
    obtain ⟨y, hy, heq⟩ := List.mem_map.mp hid
    obtain ⟨hy, hp⟩ := List.mem_filter.mp hy
    rwa [List.inj_on_of_nodup_map hnodup hx hy heq.symm]
  · intro hp
    exact List.mem_map_of_mem (List.mem_filter.mpr ⟨hx, hp⟩)

/-- The entries that are not taken out at the end are those that were spared. -/
theorem filter_not_finished (hnodup : (looks.map Look.id).Nodup) :
    (looks.map Look.id).filter
        (fun id => !((looks.filter (·.verdict minAge ≠ .spare)).map Look.id).contains id) =
      (looks.filter (·.verdict minAge = .spare)).map Look.id := by
  rw [List.filter_map]
  congr 1
  apply List.filter_congr
  intro x hx
  rw [Bool.eq_iff_iff, Function.comp_apply, Bool.not_eq_true', ← Bool.not_eq_true, List.contains_iff_mem,
    id_mem_filter_iff hnodup hx]
  simp

end

/-! ### A sweep as a whole -/

def tally (minAge : Nat) (looks : List Look) : SweepReport where
  reaped := looks.countP (·.verdict minAge = .reap)
  killed := looks.countP (·.verdict minAge = .kill)
  remaining := looks.countP (·.verdict minAge = .spare)

def swept (minAge : Nat) (r : Registry) (looks : List Look) : Registry :=
  (r.afterLooks minAge r.killGrace looks).remove ((looks.filter (·.verdict minAge ≠ .spare)).map Look.id)

def sweepIn (order : List ProcessId) (r : Registry) (now minAge : Nat) : SweepReport × Nat × Registry :=
  let (w, r) := sweepAll minAge { now } r order
  (w.report, w.now, r.remove w.finished)

theorem sweep_eq_sweepIn (r : Registry) (now minAge : Nat) : r.sweep now minAge = r.sweepIn r.entries now minAge := rfl

theorem sweepIn_eq {order : List ProcessId} (hknown : ∀ id ∈ order, ∃ h, r.handle? id = some h) (hnodup : order.Nodup)
    (now minAge : Nat) :
    (r.sweepIn order now minAge).1 = tally minAge (r.looks minAge now order) ∧
      (r.sweepIn order now minAge).2.2 = r.swept minAge (r.looks minAge now order) := by
  rw [sweepIn, sweepAll_eq hknown hnodup]
  dsimp only
  rw [report_foldl_record, finished_foldl_record, List.nil_append, swept, tally]
  simp only [Nat.zero_add, and_self]

section

variable {looks : List Look} {x : Look} {now : Nat}

theorem sum_tally (minAge : Nat) (looks : List Look) :
    (tally minAge looks).reaped + (tally minAge looks).killed + (tally minAge looks).remaining = looks.length := by
  unfold tally
  induction looks with
  | nil => rfl
  | cons x looks ih =>
    rw [List.length_cons, ← ih]
    cases hx : x.verdict minAge <;> simp [hx] <;> omega

theorem entries_swept (hids : (looks.map Look.id).Perm r.entries) (hnodup : (looks.map Look.id).Nodup) :
    (r.swept minAge looks).entries.Perm ((looks.filter (·.verdict minAge = .spare)).map Look.id) := by
  rw [swept, remove, entries_afterLooks, ← filter_not_finished hnodup]
  exact hids.symm.filter _

theorem mem_entries_swept (hids : (looks.map Look.id).Perm r.entries) (hnodup : (looks.map Look.id).Nodup)
    (hx : x ∈ looks) : x.id ∈ (r.swept minAge looks).entries ↔ x.verdict minAge = .spare :=
  (entries_swept hids hnodup).mem_iff.trans ((id_mem_filter_iff hnodup hx).trans decide_eq_true_iff)

theorem handle?_swept (hnodup : (looks.map Look.id).Nodup) (hx : x ∈ looks) (hr : r.handle? x.id = some x.handle) :
    (r.swept minAge looks).handle? x.id = some (x.outcome minAge r.killGrace).2 :=
  handle?_afterLooks hnodup hx hr

end

/-- What a sweep with these looks reports, and what it leaves of the registry. What has not ended and is not spared
is killed once, and its entry goes even if the kill fails. -/
structure Partitions (now minAge : Nat) (r : Registry) (looks : List Look) (report : SweepReport) (after : Registry) :
    Prop where
  once : (looks.map Look.id).Perm r.entries
  found : ∀ x ∈ looks, r.handle? x.id = some x.handle ∧ now ≤ x.time
  counts : report = tally minAge looks
  total : report.reaped + report.killed + report.remaining = r.size
  size : after.size = report.remaining
  subset : ∀ id ∈ after.entries, id ∈ r.entries
  others : ∀ id ∉ r.entries, after.handle? id = r.handle? id
  reaped : ∀ x ∈ looks, ∀ status, (x.handle.child.poll x.time).1 = .exited status →
    x.id ∉ after.entries ∧
      after.handle? x.id = some { x.handle with child := { x.handle.child with reaped := some status } }
  spared : ∀ x ∈ looks, (x.handle.child.poll x.time).1 = .running → x.time - x.handle.child.startedAt < minAge →
    x.id ∈ after.entries ∧ after.handle? x.id = some x.handle
  killed : ∀ x ∈ looks, (∀ status, (x.handle.child.poll x.time).1 ≠ .exited status) →
    ¬((x.handle.child.poll x.time).1 = .running ∧ x.time - x.handle.child.startedAt < minAge) →
      x.id ∉ after.entries ∧ after.handle? x.id = some (x.handle.forceKill x.time r.killGrace).2.2

theorem partitions_swept {looks : List Look} {now : Nat} (hids : (looks.map Look.id).Perm r.entries)
    (hnodup : (looks.map Look.id).Nodup) (hfound : ∀ x ∈ looks, r.handle? x.id = some x.handle ∧ now ≤ x.time) :
    r.Partitions now minAge looks (tally minAge looks) (r.swept minAge looks) where
  once := hids
  found := hfound
  counts := rfl
  total := by rw [sum_tally, size, ← hids.length_eq, List.length_map]
  size := by
    rw [size, (entries_swept hids hnodup).length_eq, List.length_map, ← List.countP_eq_length_filter]
    rfl
  subset id hid := entries_afterLooks looks r ▸ (List.mem_filter.mp hid).1
  others id hid := handle?_afterLooks_of_not_mem fun hmem => hid (hids.mem_iff.mp hmem)
  reaped x hx status hp := by
    have hverdict : x.verdict minAge = .reap := Look.verdict_eq_reap_iff.mpr ⟨status, hp⟩
    rw [mem_entries_swept hids hnodup hx, handle?_swept hnodup hx (hfound x hx).1, Look.outcome, hverdict]
    have hseen : (x.handle.child.poll x.time).2 = { x.handle.child with reaped := some status } :=
      Child.eq_of_poll_exited (Prod.ext hp rfl)
    refine ⟨by decide, ?_⟩
    rw [← hseen]
    rfl
  spared x hx hp hyoung := by
    have hverdict := Look.verdict_eq_spare_iff.mpr ⟨hp, hyoung⟩
    rw [mem_entries_swept hids hnodup hx, handle?_swept hnodup hx (hfound x hx).1, Look.outcome, hverdict]
    exact ⟨rfl, rfl⟩
  killed x hx hended hold := by
    have hverdict := Look.verdict_eq_kill hended hold
    rw [mem_entries_swept hids hnodup hx, handle?_swept hnodup hx (hfound x hx).1, Look.outcome, hverdict]
    exact ⟨by decide, rfl⟩

theorem partitions_sweepIn {order : List ProcessId} (hsound : r.IsSound) (horder : order.Perm r.entries)
    (now minAge : Nat) :
    r.Partitions now minAge (r.looks minAge now order) (r.sweepIn order now minAge).1
      (r.sweepIn order now minAge).2.2 := by
  have hknown : ∀ id ∈ order, ∃ h, r.handle? id = some h := fun id hid => hsound.known id (horder.mem_iff.mp hid)
  have hnodup := horder.nodup_iff.mpr hsound.nodup
  have hids := id_looks hknown minAge now
  obtain ⟨hreport, hafter⟩ := sweepIn_eq hknown hnodup now minAge
  rw [hreport, hafter]
  rw [← hids] at horder hnodup
  exact partitions_swept horder hnodup fun x hx => found_looks hx

/-- **A sweep partitions the entries**, whichever order it looks at them in. -/
theorem sweep_partitions (r : Registry) (hsound : r.IsSound) (now minAge : Nat) :
    r.Partitions now minAge (r.looks minAge now r.entries) (r.sweep now minAge).1 (r.sweep now minAge).2.2 ∧
    ∀ order : List ProcessId, order.Perm r.entries →
      r.Partitions now minAge (r.looks minAge now order) (r.sweepIn order now minAge).1
        (r.sweepIn order now minAge).2.2 := by
  constructor
  · rw [sweep_eq_sweepIn]
    exact partitions_sweepIn hsound (.refl _) now minAge
  · intro order horder
    exact partitions_sweepIn hsound horder now minAge

/-- A process that is never killed, for the system refuses to. -/
def stubborn (pid startedAt : Nat) (ending : Option (Nat × ExitStatus)) (pollFailure : Option String) : Handle where
  label := "sh"
  child := { pid, startedAt, behaviour := { ending, killRefusal := some "EPERM", pollFailure := fun _ => pollFailure } }

/-- One process has ended, one is young, one is old, and one can not even be polled. -/
def mixed : Registry where
  killGrace := 20
  handles := [stubborn 5 0 (some (5, .code 3)) none, stubborn 6 90 none none, stubborn 7 10 none none,
    stubborn 8 95 none (some "ECHILD")]
  entries := [1, 2, 3, 4]

/-- The kill of the old one fails, and its entry goes. -/
theorem sweep_partitions_mixed :
    let after := (mixed.sweepIn [3, 1, 4, 2] 100 50).2.2
    mixed.IsSound ∧ [3, 1, 4, 2].Perm mixed.entries ∧
      (mixed.sweepIn [3, 1, 4, 2] 100 50).1 = { reaped := 1, killed := 2, remaining := 1 } ∧ after.size = 1 ∧
      ((stubborn 7 10 none none).forceKill 100 20).1.toBool = false ∧ 3 ∉ after.entries := by
  intro after
  have hsound : mixed.IsSound := ⟨by simp [mixed, handle?], by decide⟩
  have horder : [3, 1, 4, 2].Perm mixed.entries := by decide
  have h := (sweep_partitions mixed hsound 100 50).2 [3, 1, 4, 2] horder
  have hlook : (⟨3, stubborn 7 10 none none, 100⟩ : Look) ∈ mixed.looks 50 100 [3, 1, 4, 2] := by
    rw [looks_cons rfl]
    exact List.mem_cons_self
  refine ⟨hsound, horder, ?_, ?_, rfl, (h.killed _ hlook ?_ (by decide)).1⟩
  · rw [h.counts]
    decide +kernel
  · rw [h.size, h.counts]
    decide +kernel
  · intro status hp
    cases hp

end Registry
end SnippetLab
