import SnippetLab.FileTree.Basic
import Mathlib.Data.List.Induction

/-!
What is to be seen at a place of a tree, and what each change of the tree does to that. A directory shows
nothing but that it is there: its time of change tells of its entries.
-/
namespace SnippetLab.FileTree

/-- The node at a place and, unless it is a directory, when it last changed. -/
def view (t : FileTree) (p : Place) : Option (Node × Option Int) :=
  (t.node? p).map fun n => (n, if n.isDirectory then none else t.changed? p)

@[simp] theorem node?_nil (t : FileTree) : t.node? [] = some .directory := rfl

theorem node?_of_ne_nil (t : FileTree) {p : Place} (h : p ≠ []) : t.node? p = (t.entry? p).map (·.1) := by
  rw [node?, if_neg (by simpa using h)]

theorem node?_eq_view (t : FileTree) (p : Place) : t.node? p = (t.view p).map (·.1) := by
  rw [view, Option.map_map]
  exact (congrFun Option.map_id _).symm

theorem view_eq_none_iff {t : FileTree} {p : Place} : t.view p = none ↔ t.node? p = none := by
  simp [view]

theorem node?_congr {t u : FileTree} {p q : Place} (h : u.view q = t.view p) : u.node? q = t.node? p := by
  rw [node?_eq_view, node?_eq_view, h]

theorem view_congr {t u : FileTree} {p : Place} (hnode : u.node? p = t.node? p)
    (htime : t.node? p ≠ some .directory → u.entry? p = t.entry? p) : u.view p = t.view p := by
  rw [view, view, hnode]
  cases hn : t.node? p with
  | none => rfl
  | some n =>
    by_cases hd : n = .directory
    · rw [hd]
      rfl
    · rw [changed?, changed?, htime (by simpa [hn] using hd)]

theorem view_of_entry? {t u : FileTree} {p : Place} (h : u.entry? p = t.entry? p) : u.view p = t.view p := by
  simp only [view, node?, changed?, h]

theorem view_of_entry?_eq_some {t : FileTree} {p : Place} (hp : p ≠ []) {n : Node} {time : Int}
    (h : t.entry? p = some (n, time)) : t.view p = some (n, if n.isDirectory then none else some time) := by
  rw [view, node?_of_ne_nil t hp, changed?, h]
  rfl

/-! One lookup for each change of the list of entries -/

theorem entry?_filter (t : FileTree) (keep : Place → Bool) (p : Place) :
    entry? ⟨t.entries.filter fun e => keep e.1⟩ p = if keep p then t.entry? p else none := by
  unfold entry?
  dsimp only
  rw [List.find?_filter]
  by_cases h : keep p
  · rw [if_pos h]
    congr 2
    funext e
    by_cases he : e.1 = p <;> simp [he, h]
  · rw [if_neg h, Option.map_eq_none_iff, List.find?_eq_none]
    intro e _ hfound
    simp only [beq_iff_eq, decide_eq_true_eq] at hfound
    exact h (hfound.2 ▸ hfound.1)

theorem entry?_map (t : FileTree) (change : Place → Node × Int → Node × Int) (p : Place) :
    entry? ⟨t.entries.map fun e => (e.1, change e.1 e.2)⟩ p = (t.entry? p).map (change p) := by
  unfold entry?
  dsimp only
  rw [List.find?_map, Option.map_map, Option.map_map]
  cases h : t.entries.find? ((fun e => e.1 == p) ∘ fun e => (e.1, change e.1 e.2)) with
  | none =>
    have hnone : t.entries.find? (fun e => e.1 == p) = none := h
    rw [hnone]
    rfl
  | some e =>
    have hsome : t.entries.find? (fun e => e.1 == p) = some e := h
    rw [hsome, Option.map_some, Option.map_some]
    have hp : e.1 = p := by simpa using List.find?_some hsome
    simp [hp]

theorem entry?_stamp (t : FileTree) (now : Int) (p q : Place) :
    entry? (t.stamp p now) q = (t.entry? q).map fun e => if q = p then (e.1, now) else e := by
  have h := entry?_map t (fun q e => if q = p then (e.1, now) else e) q
  rw [← h, stamp]
  congr 3
  funext e
  split <;> rfl

theorem node?_stamp (t : FileTree) (now : Int) (p q : Place) : (t.stamp p now).node? q = t.node? q := by
  by_cases hq : q = []
  · rw [hq]
    rfl
  · rw [node?_of_ne_nil _ hq, node?_of_ne_nil _ hq, entry?_stamp, Option.map_map]
    congr 1
    funext e
    by_cases h : q = p <;> simp [h]

theorem view_stamp {t : FileTree} {p : Place} (h : ∀ n, t.node? p = some n → n = .directory) (now : Int)
    (q : Place) : (t.stamp p now).view q = t.view q := by
  refine view_congr (node?_stamp t now p q) fun hq => ?_
  rw [entry?_stamp]
  by_cases hp : q = p
  · subst hp
    cases hn : t.node? q with
    | none =>
      have hnil : q ≠ [] := fun hnil => by simp [hnil] at hn
      rw [node?_of_ne_nil _ hnil, Option.map_eq_none_iff] at hn
      rw [hn]
      rfl
    | some n => exact absurd (h n hn ▸ hn) hq
  · simp [hp]

/-! Changes of the tree -/

theorem dropLast_ne {p : Place} (hp : p ≠ []) : p.dropLast ≠ p := by
  intro h
  have hlength := congrArg List.length h
  have hpos := List.length_pos_iff.mpr hp
  rw [List.length_dropLast] at hlength
  omega

/-- A node that is put somewhere is looked up there; a new one also stamps the directory above. -/
theorem put_cases (t : FileTree) (now : Int) (p : Place) (n : Node) :
    ∃ u : FileTree, (∀ q, u.entry? q = if q = p then some (n, now) else t.entry? q) ∧
      (t.put now p n = u ∨ t.put now p n = u.stamp p.dropLast now) := by
  unfold put
  split
  · next e he =>
    let change (q : Place) (e : Node × Int) : Node × Int := if q = p then (n, now) else e
    refine ⟨⟨t.entries.map fun e => (e.1, change e.1 e.2)⟩, fun q => ?_, .inl ?_⟩
    · rw [entry?_map]
      by_cases hq : q = p
      · simp [change, hq, he]
      · simp [change, hq]
    · congr 1
      refine List.map_congr_left fun e _ => ?_
      by_cases h : e.1 = p <;> simp [change, h]
  · next he =>
    refine ⟨⟨t.entries ++ [(p, n, now)]⟩, fun q => ?_, .inr rfl⟩
    unfold entry? at he ⊢
    rw [Option.map_eq_none_iff] at he
    rw [List.find?_append]
    by_cases hq : q = p
    · subst hq
      simp [he]
    · simp [hq, Ne.symm hq]

theorem view_put {t : FileTree} {p : Place} (hp : p ≠ []) (hparent : t.node? p.dropLast = some .directory)
    (now : Int) (n : Node) (q : Place) :
    (t.put now p n).view q = if q = p then some (n, if n.isDirectory then none else some now) else t.view q := by
  obtain ⟨u, hu, hput⟩ := put_cases t now p n
  have hview : ∀ r, u.view r = if r = p then some (n, if n.isDirectory then none else some now) else t.view r := by
    intro r
    by_cases hr : r = p
    · rw [if_pos hr, hr]
      exact view_of_entry?_eq_some hp (by rw [hu, if_pos rfl])
    · rw [if_neg hr]
      exact view_of_entry? (by rw [hu, if_neg hr])
  have hne : p.dropLast ≠ p := dropLast_ne hp
  have hdirectory : u.node? p.dropLast = some .directory := by
    rw [node?_congr (t := t) (by rw [hview, if_neg hne]), hparent]
  obtain hput | hput := hput
  · rw [hput, hview]
  · rw [hput, view_stamp (fun m hm => Option.some.inj (hm.symm.trans hdirectory)), hview]

@[simp] theorem within_self (p : Place) : within p p = true := List.isPrefixOf_iff_prefix.mpr (List.prefix_refl p)

theorem within_append (p q : Place) : within p (p ++ q) = true :=
  List.isPrefixOf_iff_prefix.mpr (List.prefix_append p q)

theorem within_dropLast {p : Place} (hp : p ≠ []) : within p p.dropLast = false := by
  rw [within, Bool.eq_false_iff]
  intro h
  have hlength := (List.isPrefixOf_iff_prefix.mp h).length_le
  have hpos := List.length_pos_iff.mpr hp
  rw [List.length_dropLast] at hlength
  omega

theorem not_within_above (d : Place) (name : String) : within (d ++ [name]) d = false := by
  have habove := within_dropLast (p := d ++ [name]) (by simp)
  rwa [List.dropLast_concat] at habove

theorem not_within_sibling {n m : String} (h : n ≠ m) (d p : Place) : within (d ++ [n]) (d ++ [m] ++ p) = false := by
  rw [within, Bool.eq_false_iff, Ne, List.isPrefixOf_iff_prefix, List.append_assoc, List.prefix_append_right_inj]
  intro hprefix
  exact h (by simpa using hprefix)

theorem not_within_of_within {n m : String} (h : n ≠ m) {d p : Place} (hp : within (d ++ [m]) p = true) :
    within (d ++ [n]) p = false := by
  obtain ⟨q, rfl⟩ := List.isPrefixOf_iff_prefix.mp hp
  exact not_within_sibling h d q

theorem view_filter (t : FileTree) (keep : Place → Bool) (hkeep : keep [] = true) (p : Place) :
    (⟨t.entries.filter fun e => keep e.1⟩ : FileTree).view p = if keep p then t.view p else none := by
  have hentry := entry?_filter t keep p
  by_cases h : keep p
  · rw [if_pos h] at hentry ⊢
    exact view_of_entry? hentry
  · rw [if_neg h] at hentry ⊢
    have hp : p ≠ [] := fun hnil => h (hnil ▸ hkeep)
    rw [view_eq_none_iff, node?_of_ne_nil _ hp, hentry]
    rfl

theorem view_erase {t : FileTree} {p : Place} (hp : p ≠ [])
    (hparent : ∀ n, t.node? p.dropLast = some n → n = .directory) (now : Int) (q : Place) :
    (t.erase now p).view q = if within p q then none else t.view q := by
  have hroot : (!within p []) = true := by
    cases p with
    | nil => exact absurd rfl hp
    | cons name p => rfl
  have hview := view_filter t (fun q => !within p q) hroot
  rw [erase, view_stamp, hview]
  · cases within p q <;> rfl
  · intro n hn
    refine hparent n ?_
    rwa [node?_congr (t := t)] at hn
    rw [hview, within_dropLast hp]
    rfl

theorem view_clear {t : FileTree} {p : Place} (h : t.node? p = some .directory) (now : Int) (q : Place) :
    (t.clear now p).view q = if within p q ∧ q ≠ p then none else t.view q := by
  have hroot : (!within p [] || decide (([] : Place) = p)) = true := by
    cases p with
    | nil => rfl
    | cons name p => rfl
  have hview := view_filter t (fun q => !within p q || decide (q = p)) hroot
  rw [clear, view_stamp, hview]
  · by_cases hq : q = p
    · simp [hq]
    · cases within p q <;> simp [hq]
  · intro n hn
    rw [node?_congr (t := t), h] at hn
    · exact (Option.some.inj hn).symm
    · rw [hview]
      simp

section
variable {t : FileTree} {d : Place} (hd : t.node? d = some .directory)
include hd

/-- What holds an entry is a directory, said as it is asked for. -/
theorem eq_directory_of_parent {name : String} (m : Node) (hm : t.node? (d ++ [name]).dropLast = some m) :
    m = .directory := by
  rw [List.dropLast_concat, hd] at hm
  exact (Option.some.inj hm).symm

theorem view_put_child (now : Int) (name : String) (n : Node) (p : Place) :
    (t.put now (d ++ [name]) n).view p =
      if p = d ++ [name] then some (n, if n.isDirectory then none else some now) else t.view p :=
  view_put (by simp) (by rwa [List.dropLast_concat]) now n p

theorem node?_put_child (now : Int) (name : String) (n : Node) (p : Place) :
    (t.put now (d ++ [name]) n).node? p = if p = d ++ [name] then some n else t.node? p := by
  rw [node?_eq_view, view_put_child hd, node?_eq_view t p]
  split <;> rfl

theorem view_erase_child (now : Int) (name : String) (p : Place) :
    (t.erase now (d ++ [name])).view p = if within (d ++ [name]) p = true then none else t.view p :=
  view_erase (by simp) (eq_directory_of_parent hd) now p

theorem node?_erase_child (now : Int) (name : String) (p : Place) :
    (t.erase now (d ++ [name])).node? p = if within (d ++ [name]) p = true then none else t.node? p := by
  rw [node?_eq_view, view_erase_child hd, node?_eq_view t p]
  split <;> rfl

end

theorem erase_clear (t : FileTree) (now : Int) (p : Place) : (t.clear now p).erase now p = t.erase now p := by
  let mark (e : Place × Node × Int) : Place × Node × Int := if e.1 = p then (e.1, e.2.1, now) else e
  have hmark (e : Place × Node × Int) : (mark e).1 = e.1 := by
    dsimp only [mark]
    split <;> rfl
  have hentries : (t.clear now p).entries.filter (fun e => !within p e.1) =
      t.entries.filter fun e => !within p e.1 := by
    calc (t.clear now p).entries.filter (fun e => !within p e.1)
      _ = (t.entries.filter fun e => !within p (mark e).1 && (!within p e.1 || e.1 = p)).map mark := by
        rw [clear, stamp, List.filter_map, List.filter_filter]
        rfl
      _ = (t.entries.filter fun e => !within p e.1).map mark := by
        congr 1
        refine List.filter_congr fun e _ => ?_
        rw [hmark]
        cases within p e.1 <;> simp
      _ = t.entries.filter fun e => !within p e.1 := by
        -- the time that the emptied directory got is gone with it
        refine (List.map_congr_left fun e he => if_neg ?_).trans (List.map_id _)
        rintro rfl
        simp at he
  rw [erase, erase, hentries]

/-! Times of change: those of the directory above aside, a change concerns what it is about -/

theorem entry?_put (t : FileTree) (now : Int) (p : Place) (n : Node) {q : Place} (hq : q ≠ p.dropLast) :
    entry? (t.put now p n) q = if q = p then some (n, now) else t.entry? q := by
  obtain ⟨u, hu, hput | hput⟩ := put_cases t now p n
  · rw [hput, hu]
  · rw [hput, entry?_stamp, hu]
    simp [hq]

theorem changed?_put_self (t : FileTree) (now : Int) {p : Place} (hp : p ≠ []) (n : Node) :
    (t.put now p n).changed? p = some now := by
  rw [changed?, entry?_put t now p n (dropLast_ne hp).symm, if_pos rfl]
  rfl

theorem entry?_erase (t : FileTree) (now : Int) (p : Place) {q : Place} (hq : q ≠ p.dropLast) :
    entry? (t.erase now p) q = if within p q = true then none else t.entry? q := by
  have hfilter := entry?_filter t (fun q => !within p q) q
  rw [erase, entry?_stamp, hfilter]
  cases within p q <;> simp [hq]

theorem changed?_put_dropLast {t : FileTree} {p : Place} (hp : p ≠ []) (now : Int) (n : Node) :
    (t.put now p n).changed? p.dropLast = t.changed? p.dropLast ∨
      (t.put now p n).changed? p.dropLast = some now := by
  have hne : p.dropLast ≠ p := dropLast_ne hp
  obtain ⟨u, hu, hput | hput⟩ := put_cases t now p n
  · rw [hput, changed?, changed?, hu, if_neg hne]
    exact .inl rfl
  · rw [hput, changed?, changed?, entry?_stamp, hu, if_neg hne]
    cases t.entry? p.dropLast with
    | none => exact .inl rfl
    | some e => exact .inr (by simp)

/-! Trees of a real system -/

/-- Whatever lies somewhere lies in a directory. -/
def Rooted (t : FileTree) : Prop := ∀ p name, t.node? (p ++ [name]) ≠ none → t.node? p = some .directory

def Unused (t : FileTree) (name : String) : Prop := ∀ p, name ∈ p → t.node? p = none

theorem entry?_eq_some_iff {t : FileTree} (h : (t.entries.map (·.1)).Nodup) {p : Place} {v : Node × Int} :
    t.entry? p = some v ↔ (p, v) ∈ t.entries := by
  obtain ⟨entries⟩ := t
  unfold entry?
  dsimp only at h ⊢
  induction entries with
  | nil => simp
  | cons e entries ih =>
    rw [List.map_cons, List.nodup_cons] at h
    rw [List.find?_cons, List.mem_cons]
    by_cases he : e.1 = p
    · subst he
      have hother : (e.1, v) ∉ entries := fun hmem => h.1 (List.mem_map.mpr ⟨_, hmem, rfl⟩)
      simp [hother, Prod.ext_iff, eq_comm]
    · have hfirst : (p, v) ≠ e := fun heq => he (congrArg Prod.fst heq.symm)
      rw [beq_eq_false_iff_ne.mpr he]
      simpa [hfirst] using ih h.2

/-- If no place is listed twice, the order of the list does not matter. -/
theorem node?_of_perm {t u : FileTree} (hperm : u.entries.Perm t.entries) (h : (t.entries.map (·.1)).Nodup)
    (p : Place) : u.node? p = t.node? p := by
  have hentry : u.entry? p = t.entry? p := by
    ext v
    rw [entry?_eq_some_iff h, entry?_eq_some_iff ((hperm.map _).nodup_iff.mpr h), hperm.mem_iff]
  rw [node?, node?, hentry]

theorem node?_eq_none_iff (t : FileTree) {p : Place} (hp : p ≠ []) :
    t.node? p = none ↔ ∀ e ∈ t.entries, e.1 ≠ p := by
  rw [node?_of_ne_nil t hp, entry?, Option.map_map, Option.map_eq_none_iff, List.find?_eq_none]
  simp

theorem rooted_of_entries {t : FileTree}
    (h : ∀ e ∈ t.entries, t.node? e.1.dropLast = some .directory) : t.Rooted := by
  intro p name hn
  rw [Ne, node?_eq_none_iff t (by simp)] at hn
  by_cases hp : t.node? p = some .directory
  · exact hp
  · refine absurd (fun e he hplace => hp ?_) hn
    simpa [hplace] using h e he

theorem unused_of_entries {t : FileTree} {name : String} (h : ∀ e ∈ t.entries, name ∉ e.1) : t.Unused name := by
  intro p hname
  rw [node?_eq_none_iff t (List.ne_nil_of_mem hname)]
  exact fun e he hplace => h e he (hplace ▸ hname)

theorem Rooted.node?_of_append {t : FileTree} (h : t.Rooted) (p q : Place) (hq : q ≠ [])
    (hn : t.node? (p ++ q) ≠ none) : t.node? p = some .directory := by
  induction q using List.reverseRecOn with
  | nil => exact absurd rfl hq
  | append_singleton q name ih =>
    rw [← List.append_assoc] at hn
    have habove := h (p ++ q) name hn
    by_cases hnil : q = []
    · rwa [hnil, List.append_nil] at habove
    · exact ih hnil (by rw [habove]; simp)

theorem Rooted.eq_of_within {t : FileTree} (h : t.Rooted) {p q : Place} (hp : t.node? p ≠ some .directory)
    (hwithin : within p q = true) (hq : t.node? q ≠ none) : q = p := by
  obtain ⟨rest, rfl⟩ := List.isPrefixOf_iff_prefix.mp hwithin
  by_cases hrest : rest = []
  · rw [hrest, List.append_nil]
  · exact absurd (h.node?_of_append p rest hrest hq) hp

theorem Rooted.of_removed {t u : FileTree} (h : t.Rooted) {p : Place}
    (hnode : ∀ q, u.node? q = if within p q = true then none else t.node? q) : u.Rooted := by
  intro q name hq
  rw [hnode] at hq
  split at hq
  · exact absurd rfl hq
  · next hout =>
    have hout' : ¬within p q = true := fun hwithin => hout (List.isPrefixOf_iff_prefix.mpr
      ((List.isPrefixOf_iff_prefix.mp hwithin).trans (List.prefix_append q [name])))
    rw [hnode, if_neg hout']
    exact h q name hq

end SnippetLab.FileTree
