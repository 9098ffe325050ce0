import Mathlib.Data.List.Dedup
import SnippetLab.Cleanup
import SnippetLab.Proofs.FileTree.Walk

/-! What is left of a directory when some of its entries are removed, and of the root after a purge. -/
namespace SnippetLab

namespace FileTree

theorem mem_children {t : FileTree} {place : Place} {name : String} :
    name ∈ t.children place ↔ t.node? (place ++ [name]) ≠ none := by
  rw [Ne, node?_eq_none_iff t (by simp), children, List.mem_filterMap]
  constructor
  · rintro ⟨e, he, hname⟩ hnone
    split at hname
    · next hplace =>
      obtain ⟨front, hfront⟩ := List.getLast?_eq_some_iff.mp hname
      rw [hfront, List.dropLast_concat] at hplace
      exact hnone e he (hplace.1 ▸ hfront)
    · cases hname
  · intro hsome
    push Not at hsome
    obtain ⟨e, he, hplace⟩ := hsome
    exact ⟨e, he, by simp [hplace]⟩

theorem nodup_children {t : FileTree} (h : (t.entries.map (·.1)).Nodup) (place : Place) : (t.children place).Nodup := by
  let name? (p : Place) : Option String := if p.dropLast = place ∧ p ≠ [] then p.getLast? else none
  have hname {p : Place} {name : String} (hp : name? p = some name) : p = place ++ [name] := by
    dsimp only [name?] at hp
    split at hp
    · next hplace =>
      obtain ⟨front, rfl⟩ := List.getLast?_eq_some_iff.mp hp
      rw [← hplace.1, List.dropLast_concat]
    · cases hp
  have hchildren : t.children place = (t.entries.map (·.1)).filterMap name? := by
    rw [List.filterMap_map]
    rfl
  rw [hchildren]
  exact h.filterMap fun p q name hp hq => (hname hp).trans (hname hq).symm

theorem listDirectory_eq_ok_iff {t : FileTree} {cwd d : Place} {path : String} {names : List String} :
    t.listDirectory cwd path = .ok (d, names) ↔
      t.find cwd true path = .ok (d, .directory) ∧ names = t.children d := by
  unfold listDirectory
  constructor
  · intro h
    split at h
    · next place hfind =>
      cases h
      exact ⟨hfind, rfl⟩
    · cases h
    · cases h
  · rintro ⟨hfind, rfl⟩
    rw [hfind]

theorem view_eraseAll {t : FileTree} {place : Place} (h : t.node? place = some .directory) (now : Int)
    (names : List String) (p : Place) :
    (names.foldl (fun t name => t.erase now (place ++ [name])) t).view p =
      if ∃ name ∈ names, within (place ++ [name]) p = true then none else t.view p := by
  induction names generalizing t with
  | nil => simp
  | cons name names ih =>
    have hkept : (t.erase now (place ++ [name])).node? place = some .directory := by
      rw [node?_erase_child h, not_within_above, if_neg Bool.false_ne_true, h]
    rw [List.foldl_cons, ih hkept, view_erase_child h]
    by_cases hname : within (place ++ [name]) p = true
    · simp [hname]
    · simp [hname]

theorem eraseAll_eq {t : FileTree} {place : Place} (now : Int) {names : List String} (hnames : names ≠ []) :
    names.foldl (fun t name => t.erase now (place ++ [name])) t =
      (⟨t.entries.filter fun e => names.all fun name => !within (place ++ [name]) e.1⟩ : FileTree).stamp place now := by
  induction names generalizing t with
  | nil => exact absurd rfl hnames
  | cons name names ih =>
    rw [List.foldl_cons]
    by_cases hrest : names = []
    · simp [hrest, erase]
    · rw [ih hrest, erase, stamp, stamp, stamp, List.dropLast_concat, List.filter_map, List.map_map, List.filter_filter]
      congr 2
      · funext e
        by_cases he : e.1 = place <;> simp [he]
      · congr 1
        funext e
        by_cases he : e.1 = place <;> simp [he, Bool.and_comm]

theorem entry?_eraseAll (t : FileTree) {place : Place} (now : Int) (names : List String) {p : Place} (hp : p ≠ place) :
    entry? (names.foldl (fun t name => t.erase now (place ++ [name])) t) p =
      if ∃ name ∈ names, within (place ++ [name]) p = true then none else t.entry? p := by
  induction names generalizing t with
  | nil => simp
  | cons name names ih =>
    rw [List.foldl_cons, ih, entry?_erase t now _ (by rwa [List.dropLast_concat])]
    by_cases hname : within (place ++ [name]) p = true
    · simp [hname]
    · simp [hname]

/-- A name that is met again is gone already. -/
theorem eraseAll_dedup (t : FileTree) (place : Place) (now : Int) (names : List String) :
    names.dedup.foldl (fun t name => t.erase now (place ++ [name])) t =
      names.foldl (fun t name => t.erase now (place ++ [name])) t := by
  by_cases hnames : names = []
  · rw [hnames, List.dedup_nil]
  · have hdedup : names.dedup ≠ [] := by simpa using hnames
    rw [eraseAll_eq now hnames, eraseAll_eq now hdedup]
    congr 3
    funext e
    rw [Bool.eq_iff_iff, List.all_eq_true, List.all_eq_true]
    simp

end FileTree

namespace Cleanup

open FileTree

variable {t : FileTree} {cwd place : Place} {root : String}

/-- A leftover of an earlier run: a file with a stale name, directly in the directory. -/
def Leftover (t : FileTree) (place p : Place) : Prop :=
  ∃ name, p = place ++ [name] ∧ isStale name = true ∧ (t.node? p).any Node.isFile = true

theorem mem_staleNames {name : String} :
    name ∈ staleNames t place (t.children place) ↔ Leftover t place (place ++ [name]) := by
  rw [staleNames, List.mem_filter, mem_children, Bool.and_eq_true]
  constructor
  · rintro ⟨-, hstale, hfile⟩
    exact ⟨name, rfl, hstale, hfile⟩
  · rintro ⟨name', hname, hstale, hfile⟩
    obtain rfl : name = name' := by simpa using hname
    refine ⟨fun hnone => ?_, hstale, hfile⟩
    rw [hnone] at hfile
    cases hfile

theorem any_isFile_iff {p : Place} :
    (t.node? p).any Node.isFile = true ↔ ∃ content mode, t.node? p = some (.file content mode) := by
  cases t.node? p with
  | none => simp
  | some node => cases node <;> simp [Node.isFile]

theorem Leftover.node?_ne {p : Place} (h : Leftover t place p) :
    t.node? p ≠ none ∧ t.node? p ≠ some .directory ∧ ∀ target, t.node? p ≠ some (.link target) := by
  obtain ⟨name, -, -, hfile⟩ := h
  refine ⟨?_, ?_, fun target => ?_⟩ <;>
  · intro hnode
    rw [hnode] at hfile
    cases hfile

theorem Leftover.congr {u : FileTree} {p : Place} (h : Leftover t place p) (hnode : u.node? p = t.node? p) :
    Leftover u place p := by
  obtain ⟨name, hp, hstale, hfile⟩ := h
  exact ⟨name, hp, hstale, hnode ▸ hfile⟩

variable {u : FileTree} {refusals : Refusals} {name : String}

theorem removeStale_eq_ok_iff {now : Int} : removeStale refusals t now cwd root place name = .ok u ↔
    (t.find cwd false (Path.join root name)).isOk = true ∧ refusals.removal name = none ∧ u = t.erase now (place ++ [name]) := by
  unfold removeStale
  split
  · next e hfind => simp [hfind, Except.isOk, Except.toBool]
  · next found hfind =>
    split
    · next e hrefused => simp [hrefused]
    · next hfree =>
      simp only [hfind, hfree, Except.ok.injEq, true_and]
      exact ⟨fun h => ⟨rfl, h.symm⟩, fun h => h.2.symm⟩

theorem foldl_purgeOne_cases (refusals : Refusals) (now : Int) (cwd : Place) (root : String) (place : Place)
    (names : List String) (done : Nat × FileTree) :
    ∃ removed : List String, removed.Sublist names ∧
      names.foldl (purgeOne refusals now cwd root place) done =
        (done.1 + removed.length, removed.foldl (fun t name => t.erase now (place ++ [name])) done.2) := by
  induction names generalizing done with
  | nil => exact ⟨[], .slnil, rfl⟩
  | cons name names ih =>
    rw [List.foldl_cons]
    unfold purgeOne
    split
    · next u hremoved =>
      obtain ⟨-, -, rfl⟩ := removeStale_eq_ok_iff.mp hremoved
      obtain ⟨removed, hsub, hfold⟩ := ih (done.1 + 1, done.2.erase now (place ++ [name]))
      refine ⟨name :: removed, hsub.cons_cons name, hfold.trans ?_⟩
      exact congrArg (·, _) (Nat.add_right_comm done.1 1 removed.length)
    · obtain ⟨removed, hsub, hfold⟩ := ih done
      exact ⟨removed, hsub.cons name, hfold⟩

structure Readable (refusals : Refusals) (t : FileTree) (cwd : Place) (root : String) (place : Place) : Prop where
  allowed : refusals.listing = none
  found : t.find cwd true root = .ok (place, .directory)

theorem Readable.directory (h : Readable refusals t cwd root place) (hroot : t.Rooted) :
    t.node? place = some .directory :=
  hroot.find h.found

theorem purgeUnless_of_readable (h : Readable refusals t cwd root place) (now : Int) :
    purgeUnless refusals t now cwd root =
      (staleNames t place (t.children place)).foldl (purgeOne refusals now cwd root place) (0, t) := by
  rw [purgeUnless, h.allowed, listDirectory, h.found]

theorem purgeUnless_of_unreadable (h : ∀ place, ¬Readable refusals t cwd root place) (now : Int) :
    purgeUnless refusals t now cwd root = (0, t) := by
  unfold purgeUnless
  split
  · rfl
  · rfl
  · next place names hallowed hlist => exact absurd ⟨hallowed, (listDirectory_eq_ok_iff.mp hlist).1⟩ (h place)

theorem purgeUnless_cases (h : Readable refusals t cwd root place) (now : Int) :
    ∃ removed : List String, (∀ name ∈ removed, Leftover t place (place ++ [name])) ∧
      purgeUnless refusals t now cwd root =
        (removed.length, removed.foldl (fun t name => t.erase now (place ++ [name])) t) := by
  obtain ⟨removed, hsub, hfold⟩ :=
    foldl_purgeOne_cases refusals now cwd root place (staleNames t place (t.children place)) (0, t)
  refine ⟨removed, fun name hname => mem_staleNames.mp (hsub.subset hname), ?_⟩
  rw [purgeUnless_of_readable h, hfold, Nat.zero_add]

/-- Nothing lies under what is removed. -/
theorem within_removed_iff (hroot : t.Rooted) {removed : List String}
    (h : ∀ name ∈ removed, Leftover t place (place ++ [name])) {p : Place} (hp : t.node? p ≠ none) :
    (∃ name ∈ removed, within (place ++ [name]) p = true) ↔ ∃ name ∈ removed, p = place ++ [name] := by
  refine exists_congr fun name => and_congr_right fun hname => ⟨fun hwithin => ?_, ?_⟩
  · exact hroot.eq_of_within (h name hname).node?_ne.2.1 hwithin hp
  · rintro rfl
    exact within_self _

theorem view_removed (hroot : t.Rooted) (hdirectory : t.node? place = some .directory) {removed : List String}
    (h : ∀ name ∈ removed, Leftover t place (place ++ [name])) (now : Int) (p : Place) :
    (removed.foldl (fun t name => t.erase now (place ++ [name])) t).view p =
      if ∃ name ∈ removed, p = place ++ [name] then none else t.view p := by
  rw [view_eraseAll hdirectory]
  by_cases hp : t.node? p = none
  · simp [view_eq_none_iff.mpr hp]
  · simp only [within_removed_iff hroot h hp]

theorem entry?_removed (hroot : t.Rooted) {removed : List String}
    (h : ∀ name ∈ removed, Leftover t place (place ++ [name])) (now : Int) {p : Place} (hp : p ≠ place) :
    entry? (removed.foldl (fun t name => t.erase now (place ++ [name])) t) p =
      if ∃ name ∈ removed, p = place ++ [name] then none else t.entry? p := by
  rw [entry?_eraseAll t now _ hp]
  by_cases hnone : t.node? p = none
  · have hnil : p ≠ [] := fun hnil => by simp [hnil] at hnone
    rw [node?_of_ne_nil t hnil, Option.map_eq_none_iff] at hnone
    simp [hnone]
  · simp only [within_removed_iff hroot h hnone]

theorem view_purge_cases (hroot : t.Rooted) (h : Readable refusals t cwd root place) (now : Int) (p : Place) :
    (purgeUnless refusals t now cwd root).2.view p = t.view p ∨
      Leftover t place p ∧ (purgeUnless refusals t now cwd root).2.view p = none := by
  obtain ⟨removed, hremoved, heq⟩ := purgeUnless_cases h now
  rw [heq, view_removed hroot (h.directory hroot) hremoved]
  split
  · next hgone =>
    obtain ⟨name, hname, rfl⟩ := hgone
    exact .inr ⟨hremoved name hname, rfl⟩
  · exact .inl rfl

end Cleanup
end SnippetLab
