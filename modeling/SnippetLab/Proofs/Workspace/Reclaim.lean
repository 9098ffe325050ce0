import SnippetLab.Proofs.Except
import SnippetLab.Proofs.Workspace

/-!
Reclaiming old workspaces. They go one after the other, each by its path; as long as the base is not among what goes,
that comes to taking all of them out of the base at once.
-/
namespace SnippetLab

open FileTree

namespace Workspace

variable {t u g : FileTree} {cwd d : Place} {base name : String} {now : Int} {maxAge n : Nat} {names : List String}

/-- A directory, not a link to one, that has the name of a workspace and has not changed for so long. -/
def Abandoned (t : FileTree) (now : Int) (maxAge : Nat) (d : Place) (name : String) : Prop :=
  isWorkspaceName name = true ∧
    ∃ changed, t.entry? (d ++ [name]) = some (.directory, changed) ∧ changed ≤ now ∧ (maxAge : Int) ≤ now - changed

theorem isAbandoned_iff : isAbandoned t now maxAge d name = true ↔ Abandoned t now maxAge d name := by
  have hdirectory := isDirectoryAt_iff t (d ++ [name])
  rw [node?_of_ne_nil t (by simp)] at hdirectory
  rw [isAbandoned, Bool.and_eq_true, Bool.and_eq_true, and_assoc, hdirectory, changed?, Abandoned]
  refine and_congr_right fun _ => ?_
  cases t.entry? (d ++ [name]) with
  | none => simp
  | some e =>
    obtain ⟨node, changed⟩ := e
    simp only [Option.map_some, Option.some.injEq, Option.any_some, decide_eq_true_eq, Bool.and_eq_true, Prod.mk.injEq]
    constructor
    · rintro ⟨rfl, hpast, hlong⟩
      exact ⟨changed, ⟨rfl, rfl⟩, hpast, hlong⟩
    · rintro ⟨_, ⟨rfl, rfl⟩, hpast, hlong⟩
      exact ⟨rfl, hpast, hlong⟩

theorem Abandoned.directory (h : Abandoned t now maxAge d name) : t.node? (d ++ [name]) = some .directory := by
  obtain ⟨-, changed, hentry, -⟩ := h
  rw [node?_of_ne_nil t (by simp), hentry]
  rfl

theorem Abandoned.mono {older : Nat} (hage : maxAge ≤ older) (h : Abandoned t now older d name) :
    Abandoned t now maxAge d name := by
  obtain ⟨hname, changed, hentry, hpast, hlong⟩ := h
  exact ⟨hname, changed, hentry, hpast, by omega⟩

theorem abandoned_erase_iff {other : String} :
    Abandoned (t.erase now (d ++ [name])) now maxAge d other ↔ other ≠ name ∧ Abandoned t now maxAge d other := by
  rw [Abandoned, entry?_erase t now _ (by simp), Abandoned]
  by_cases hname : other = name
  · simp [hname]
  · have hwithin := not_within_of_within (Ne.symm hname) (within_self (d ++ [other]))
    simp [hname, hwithin]

/-! ### One after the other -/

theorem partOf_removeEmptied (t : FileTree) (now : Int) (cwd : Place) (path : String) (place : Place) :
    PartOf (t.removeEmptied now cwd path place).2 t := by
  unfold removeEmptied
  split
  · exact .refl t
  · exact .refl t
  · split
    · exact .refl t
    · exact .erase t now place
    · exact .refl t

theorem partOf_removeTree (t : FileTree) (now : Int) (cwd : Place) (path : String) :
    PartOf (t.removeTree now cwd path).2 t := by
  unfold removeTree
  split
  · exact .refl t
  · exact .erase t now _
  · exact (partOf_removeEmptied _ now cwd path _).trans (.clear t now _)
  · exact .refl t

/-- What is left of a directory whose path leads to it. -/
theorem removeTree_cases (hleads : t.LeadsTo cwd base name d) (hnode : t.node? (d ++ [name]) = some .directory) :
    ((t.clear now (d ++ [name])).Reaches cwd base d ∧
        t.removeTree now cwd (Path.join base name) = (none, t.erase now (d ++ [name]))) ∨
      ¬(t.clear now (d ++ [name])).Reaches cwd base d ∧
        PartOf (t.removeTree now cwd (Path.join base name)).2 (t.clear now (d ++ [name])) := by
  by_cases hreaches : (t.clear now (d ++ [name])).Reaches cwd base d
  · refine .inl ⟨hreaches, ?_⟩
    exact removeTree_of_leadsTo hleads (hleads.of_reaches hreaches) hnode
  · refine .inr ⟨hreaches, ?_⟩
    rw [removeTree, hleads.find_of_directory false hnode]
    exact partOf_removeEmptied _ now cwd _ _

/-- What becomes of one name: nothing, or its directory goes as long as its path still leads to it. -/
theorem reclaimOne_cases (hnamed : t.PlainlyNamed) (hreaches : t.Reaches cwd base d) (now : Int) (maxAge n : Nat)
    (name : String) :
    (¬(Abandoned t now maxAge d name ∧ t.LeadsTo cwd base name d) ∧
        reclaimOne now cwd base maxAge d (n, t) name = (n, t)) ∨
      (Abandoned t now maxAge d name ∧ t.LeadsTo cwd base name d) ∧
        ((t.clear now (d ++ [name])).Reaches cwd base d ∧
            reclaimOne now cwd base maxAge d (n, t) name = (n + 1, t.erase now (d ++ [name])) ∨
          ¬(t.clear now (d ++ [name])).Reaches cwd base d ∧
            PartOf (reclaimOne now cwd base maxAge d (n, t) name).2 (t.clear now (d ++ [name]))) := by
  unfold reclaimOne
  dsimp only
  by_cases habandoned : Abandoned t now maxAge d name
  swap
  · exact .inl ⟨fun h => habandoned h.1, if_neg (by simp [isAbandoned_iff, habandoned])⟩
  have hplain := hnamed d name (by simp [habandoned.directory])
  by_cases hleads : t.LeadsTo cwd base name d
  swap
  · refine .inl ⟨fun h => hleads h.2, if_neg fun hfound => hleads ?_⟩
    rw [Bool.and_eq_true] at hfound
    obtain ⟨found, hfound⟩ := Except.isOk_iff.mp hfound.2
    exact hreaches.leadsTo_of_find hplain hfound
  have hfound : (t.find cwd false (Path.join base name)).isOk = true :=
    Except.isOk_iff.mpr ⟨_, hleads.find_of_directory false habandoned.directory⟩
  rw [isAbandoned_iff.mpr habandoned, hfound, Bool.true_and, if_pos rfl, Cleanup.removeTree]
  refine .inr ⟨⟨habandoned, hleads⟩, (removeTree_cases hleads habandoned.directory).imp ?_ fun h => h⟩
  rintro ⟨hkept, hremoved⟩
  rw [hremoved]
  exact ⟨hkept, rfl⟩

theorem partOf_reclaimOne (t : FileTree) (n : Nat) (name : String) :
    PartOf (reclaimOne now cwd base maxAge d (n, t) name).2 t := by
  unfold reclaimOne
  dsimp only
  split
  · exact partOf_removeTree t now cwd _
  · exact .refl t

theorem partOf_reclaimAll (t : FileTree) (n : Nat) (names : List String) :
    PartOf (names.foldl (reclaimOne now cwd base maxAge d) (n, t)).2 t := by
  induction names generalizing n t with
  | nil => exact .refl t
  | cons name names ih => exact (ih _ _).trans (partOf_reclaimOne t n name)

theorem reclaimAll_of_none (h : ∀ name ∈ names, ¬Abandoned t now maxAge d name) (n : Nat) :
    names.foldl (reclaimOne now cwd base maxAge d) (n, t) = (n, t) := by
  induction names with
  | nil => rfl
  | cons name names ih =>
    have hname : isAbandoned t now maxAge d name = false :=
      Bool.eq_false_iff.mpr (mt isAbandoned_iff.mp (h name List.mem_cons_self))
    have hfirst : reclaimOne now cwd base maxAge d (n, t) name = (n, t) := if_neg (by simp [hname])
    rw [List.foldl_cons, hfirst, ih fun other hother => h other (List.mem_cons_of_mem name hother)]

/-- If the base is still there in the end, all old workspaces whose paths can be looked up were taken out of it. -/
theorem reclaimAll_eq (hroot : t.Rooted) (hnamed : t.PlainlyNamed)
    (hkept : (names.foldl (reclaimOne now cwd base maxAge d) (n, t)).2.Reaches cwd base d) :
    ∃ removed : List String, removed.Nodup ∧
      (∀ name, name ∈ removed ↔ name ∈ names ∧ Abandoned t now maxAge d name ∧ t.LeadsTo cwd base name d) ∧
      names.foldl (reclaimOne now cwd base maxAge d) (n, t) =
        (n + removed.length, removed.foldl (fun t name => t.erase now (d ++ [name])) t) := by
  -- the base is there all along, for nothing comes back
  induction names generalizing n t with
  | nil => exact ⟨[], List.nodup_nil, by simp, rfl⟩
  | cons name names ih =>
    rw [List.foldl_cons] at hkept ⊢
    have hnext : (reclaimOne now cwd base maxAge d (n, t) name).2.Reaches cwd base d :=
      hkept.keeps (partOf_reclaimAll _ _ names).keepsWays
    have hreaches := hnext.keeps (partOf_reclaimOne t n name).keepsWays
    obtain ⟨hnot, hsame⟩ | ⟨⟨habandoned, hleads⟩, ⟨-, hremoved⟩ | ⟨hlost, hpart⟩⟩ :=
      reclaimOne_cases hnamed hreaches now maxAge n name
    · rw [hsame] at hkept ⊢
      obtain ⟨removed, hnodup, hmem, heq⟩ := ih hroot hnamed hkept
      refine ⟨removed, hnodup, fun other => ?_, heq⟩
      rw [hmem, List.mem_cons]
      refine ⟨fun h => ⟨.inr h.1, h.2⟩, fun h => ⟨h.1.resolve_left ?_, h.2⟩⟩
      rintro rfl
      exact hnot h.2
    · rw [hremoved] at hkept hnext ⊢
      obtain ⟨removed, hnodup, hmem, heq⟩ := ih (hroot.of_removed (node?_erase_child (hreaches.directory hroot) now name))
        (hnamed.partOf (.erase t now _)) hkept
      have hmem' (other : String) : other ∈ removed ↔
          other ∈ names ∧ other ≠ name ∧ Abandoned t now maxAge d other ∧ t.LeadsTo cwd base other d := by
        rw [hmem, abandoned_erase_iff, and_assoc]
        have hsame : (t.erase now (d ++ [name])).LeadsTo cwd base other d ↔ t.LeadsTo cwd base other d :=
          ⟨fun h => h.of_reaches hreaches, fun h => h.of_reaches hnext⟩
        rw [hsame]
      refine ⟨name :: removed, List.nodup_cons.mpr ⟨fun h => ((hmem' name).mp h).2.1 rfl, hnodup⟩, fun other => ?_, ?_⟩
      · rw [List.mem_cons, List.mem_cons, hmem']
        by_cases hother : other = name
        · simp [hother, habandoned, hleads]
        · simp [hother]
      · rw [heq, List.foldl_cons, List.length_cons, Nat.add_assoc, Nat.add_comm 1]
    · exact absurd (hnext.keeps hpart.keepsWays) hlost

theorem reclaimAll_keepsWays (hroot : t.Rooted) (hnamed : t.PlainlyNamed) (hreaches : g.Reaches cwd base d)
    (hways : KeepsWays g t)
    (hpast : ∀ name, Abandoned t now maxAge d name → ∀ p, within (d ++ [name]) p = true → ¬g.OnWay p) :
    KeepsWays g (names.foldl (reclaimOne now cwd base maxAge d) (n, t)).2 := by
  induction names generalizing n t with
  | nil => exact hways
  | cons name names ih =>
    have hbase := hreaches.keeps hways
    rw [List.foldl_cons]
    obtain ⟨-, hsame⟩ | ⟨⟨habandoned, -⟩, ⟨-, hremoved⟩ | ⟨hlost, -⟩⟩ :=
      reclaimOne_cases hnamed hbase now maxAge n name
    · rw [hsame]
      exact ih hroot hnamed hways hpast
    · rw [hremoved]
      have hnode := node?_erase_child (hbase.directory hroot) now name
      refine ih (hroot.of_removed hnode) (hnamed.partOf (.erase t now _))
        (hways.of_outside (hpast name habandoned) fun p hp => (hnode p).trans (if_neg (by simp [hp]))) ?_
      exact fun other hother => hpast other (abandoned_erase_iff.mp hother).2
    · refine absurd (hreaches.keeps (hways.of_outside (hpast name habandoned) fun p hp => node?_congr ?_)) hlost
      rw [view_clear habandoned.directory, if_neg (by simp [hp])]

/-! ### The whole base -/

theorem reclaim_eq (hbase : t.find cwd true base = .ok (d, .directory)) :
    reclaim t now cwd base maxAge =
      (.ok ((t.children d).foldl (reclaimOne now cwd base maxAge d) (0, t)).1,
        ((t.children d).foldl (reclaimOne now cwd base maxAge d) (0, t)).2) := by
  have hpresent : t.isPresent cwd base = true := by rw [isPresent, hbase]; rfl
  rw [reclaim, hpresent, listDirectory, hbase]
  rfl

theorem reclaim_of_unreadable (h : ∀ d, t.find cwd true base ≠ .ok (d, .directory)) :
    (reclaim t now cwd base maxAge).2 = t := by
  unfold reclaim
  split
  · rfl
  split
  · rfl
  · next d names hlist => exact absurd (listDirectory_eq_ok_iff.mp hlist).1 (h d)

/-- If the base is still there afterwards, all old workspaces whose paths can be looked up are gone. -/
theorem reclaim_cases (hroot : t.Rooted) (hnamed : t.PlainlyNamed) (hbase : t.find cwd true base = .ok (d, .directory))
    (hkept : (reclaim t now cwd base maxAge).2.Reaches cwd base d) :
    ∃ removed : List String, removed.Nodup ∧
      (∀ name, name ∈ removed ↔ Abandoned t now maxAge d name ∧ t.LeadsTo cwd base name d) ∧
      reclaim t now cwd base maxAge =
        (.ok removed.length, removed.foldl (fun t name => t.erase now (d ++ [name])) t) := by
  rw [reclaim_eq hbase] at hkept ⊢
  obtain ⟨removed, hnodup, hmem, heq⟩ := reclaimAll_eq hroot hnamed hkept
  refine ⟨removed, hnodup, fun name => ?_, by rw [heq, Nat.zero_add]⟩
  rw [hmem]
  exact and_iff_right_of_imp fun h => mem_children.mpr (by simp [h.1.directory])

/-- The base is still there afterwards if a way to it leads past all that is old. -/
theorem reclaim_keepsWays (hroot : t.Rooted) (hnamed : t.PlainlyNamed) (hreaches : g.Reaches cwd base d)
    (hways : KeepsWays g t)
    (hpast : ∀ name, Abandoned t now maxAge d name → ∀ p, within (d ++ [name]) p = true → ¬g.OnWay p) :
    KeepsWays g (reclaim t now cwd base maxAge).2 := by
  unfold reclaim
  split
  · exact hways
  split
  · exact hways
  · next place names hlist =>
    obtain ⟨hfind, rfl⟩ := listDirectory_eq_ok_iff.mp hlist
    obtain rfl := (hreaches.keeps hways).eq_of_find hfind
    exact reclaimAll_keepsWays hroot hnamed hreaches hways hpast

/-- What is left when some names of a base were removed. -/
structure Without (d : Place) (names : List String) (t u : FileTree) : Prop where
  entry : ∀ p, p ≠ d → u.entry? p = if ∃ name ∈ names, within (d ++ [name]) p = true then none else t.entry? p
  node : ∀ p, u.node? p = if ∃ name ∈ names, within (d ++ [name]) p = true then none else t.node? p

theorem without_eraseAll (hd : t.node? d = some .directory) (now : Int) (names : List String) :
    Without d names t (names.foldl (fun t name => t.erase now (d ++ [name])) t) where
  entry _ hp := entry?_eraseAll t now names hp
  node p := by
    rw [node?_eq_view, view_eraseAll hd, node?_eq_view t p]
    split <;> rfl

theorem Without.partOf (h : Without d names t u) : PartOf u t := fun p => by
  rw [h.node]
  split
  · exact .inr rfl
  · exact .inl rfl

theorem Without.rooted (h : Without d names t u) (hroot : t.Rooted) : u.Rooted := by
  intro p last hlast
  have hdirectory := hroot p last (by rwa [h.partOf.node?_eq hlast])
  rw [h.node] at hlast ⊢
  split at hlast
  · exact absurd rfl hlast
  · next hout =>
    rw [if_neg, hdirectory]
    rintro ⟨name, hname, hp⟩
    exact hout ⟨name, hname, List.isPrefixOf_iff_prefix.mpr
      ((List.isPrefixOf_iff_prefix.mp hp).trans (List.prefix_append p [last]))⟩

theorem Without.not_abandoned (h : Without d names t u) (hall : ∀ name, Abandoned t now maxAge d name → name ∈ names) :
    ¬Abandoned u now maxAge d name := by
  rintro ⟨hname, changed, hentry, hage⟩
  rw [h.entry _ (by simp)] at hentry
  split at hentry
  · cases hentry
  · next hnot => exact hnot ⟨name, hall name ⟨hname, changed, hentry, hage⟩, within_self _⟩

section
variable (hroot : t.Rooted) (hnamed : t.PlainlyNamed) (hbase : t.find cwd true base = .ok (d, .directory))
include hroot hnamed hbase

theorem reclaim_without
    (hallowed : ∀ name, Abandoned t now maxAge d name → ∃ u, t.removeTree now cwd (Path.join base name) = (none, u))
    (hkept : (reclaim t now cwd base maxAge).2.Reaches cwd base d) :
    ∃ names : List String, names.Nodup ∧ (∀ name, name ∈ names ↔ Abandoned t now maxAge d name) ∧
      (reclaim t now cwd base maxAge).1 = .ok names.length ∧ Without d names t (reclaim t now cwd base maxAge).2 := by
  obtain ⟨names, hnodup, hmem, heq⟩ := reclaim_cases hroot hnamed hbase hkept
  refine ⟨names, hnodup, fun name => ?_, by rw [heq], heq ▸ without_eraseAll (hroot.find hbase) now names⟩
  rw [hmem]
  refine and_iff_left_of_imp fun hold => ?_
  obtain ⟨u, hremoved⟩ := hallowed name hold
  have hplain := hnamed d name (by simp [hold.directory])
  cases hfind : t.find cwd false (Path.join base name) with
  | ok found => exact (reaches_of_find hbase).leadsTo_of_find hplain hfind
  | error e =>
    rw [removeTree, hfind] at hremoved
    cases hremoved

theorem reclaim_mono {older : Nat} (hage : maxAge ≤ older)
    (hkept : (reclaim t now cwd base maxAge).2.Reaches cwd base d)
    (hgone : ∀ name, Abandoned t now maxAge d name → ∀ p, within (d ++ [name]) p = true →
      (reclaim t now cwd base maxAge).2.node? p = none)
    {p : Place} (hp : (reclaim t now cwd base older).2.node? p = none) :
    (reclaim t now cwd base maxAge).2.node? p = none := by
  have hpart : PartOf (reclaim t now cwd base maxAge).2 t := by
    rw [reclaim_eq hbase]
    exact partOf_reclaimAll t 0 _
  have hways : KeepsWays (reclaim t now cwd base maxAge).2 (reclaim t now cwd base older).2 :=
    reclaim_keepsWays hroot hnamed hkept hpart.keepsWays fun name hold q hq hway =>
      hway.node?_ne_none (hgone name (hold.mono hage) q hq)
  obtain ⟨names, -, hmem, heq⟩ := reclaim_cases hroot hnamed hbase (hkept.keeps hways)
  rw [heq, (without_eraseAll (hroot.find hbase) now names).node] at hp
  split at hp
  · next hremoved =>
    obtain ⟨name, hname, hwithin⟩ := hremoved
    exact hgone name (((hmem name).mp hname).1.mono hage) p hwithin
  · exact (hpart p).elim (·.trans hp) fun h => h

/-- **Reclaiming.** If the base can be found before and afterwards, and the system refuses none of the removals, the
old workspaces in it are gone with all that is under them, and they are counted; all other entries stay as they are,
the base with the time of its last change. Who waits longer removes nothing else, and nothing is left for a second
time. -/
theorem reclaim_exact
    (hallowed : ∀ name, Abandoned t now maxAge d name → ∃ u, t.removeTree now cwd (Path.join base name) = (none, u))
    (hkept : (reclaim t now cwd base maxAge).2.find cwd true base = .ok (d, .directory)) :
    (∃ names : List String, names.Nodup ∧ (∀ name, name ∈ names ↔ Abandoned t now maxAge d name) ∧
      (reclaim t now cwd base maxAge).1 = .ok names.length ∧
      ∀ p, p ≠ d → entry? (reclaim t now cwd base maxAge).2 p =
        if ∃ name ∈ names, within (d ++ [name]) p = true then none else t.entry? p) ∧
    (∀ older, maxAge ≤ older → ∀ p, (reclaim t now cwd base older).2.node? p = none →
      (reclaim t now cwd base maxAge).2.node? p = none) ∧
    reclaim (reclaim t now cwd base maxAge).2 now cwd base maxAge = (.ok 0, (reclaim t now cwd base maxAge).2) := by
  have hreaches := reaches_of_find hkept
  obtain ⟨names, hnodup, hmem, hcount, hleft⟩ := reclaim_without hroot hnamed hbase hallowed hreaches
  refine ⟨⟨names, hnodup, hmem, hcount, hleft.entry⟩, fun older hage p => ?_, ?_⟩
  · refine reclaim_mono hroot hnamed hbase hage hreaches fun name hold q hq => ?_
    rw [hleft.node, if_pos ⟨name, (hmem name).mpr hold, hq⟩]
  · have hnone : ∀ name ∈ (reclaim t now cwd base maxAge).2.children d,
        ¬Abandoned (reclaim t now cwd base maxAge).2 now maxAge d name :=
      fun name _ => hleft.not_abandoned fun other => (hmem other).mpr
    rw [reclaim_eq hkept, reclaimAll_of_none hnone]

end

/-- An old workspace with a link to a directory outside, a new one, and a link and a file with such names. -/
def mixed : FileTree :=
  ⟨[(["t"], .directory, 0), (["t", "notes"], .directory, 0), (["t", "notes", "n"], .file [] 0o644, 0),
    (["t", "run_old"], .directory, 10), (["t", "run_old", "l"], .link "/t/notes", 10),
    (["t", "run_new"], .directory, 90), (["t", "run_link"], .link "notes", 0),
    (["t", "session_file"], .file [] 0o644, 0)]⟩

theorem reclaim_exact_mixed :
    entry? (reclaim mixed 100 [] "/t" 50).2 ["t", "run_old", "l"] = none ∧
      entry? (reclaim mixed 100 [] "/t" 50).2 ["t", "notes", "n"] = some (.file [] 0o644, 0) ∧
      reclaim (reclaim mixed 100 [] "/t" 50).2 100 [] "/t" 50 = (.ok 0, (reclaim mixed 100 [] "/t" 50).2) := by
  have hroot : mixed.Rooted := rooted_of_entries (by decide)
  have hnamed : mixed.PlainlyNamed := plainlyNamed_of_entries fun e he name hname => by
    simp only [mixed, List.mem_cons, List.not_mem_nil, or_false] at he
    obtain rfl | rfl | rfl | rfl | rfl | rfl | rfl | rfl := he <;>
      (cases hname; exact ⟨by decide, by decide, by decide, by decide⟩)
  have hold : Abandoned mixed 100 50 ["t"] "run_old" := isAbandoned_iff.mp (by decide)
  have honly (name : String) (h : Abandoned mixed 100 50 ["t"] name) : name = "run_old" := by
    have hlisted : ∀ name ∈ mixed.children ["t"], isAbandoned mixed 100 50 ["t"] name = true → name = "run_old" := by
      decide
    exact hlisted name (mem_children.mpr (by rw [h.directory]; nofun)) (isAbandoned_iff.mpr h)
  have hbase : mixed.find [] true "/t" = .ok (["t"], .directory) := by decide +kernel
  have hkept : (reclaim mixed 100 [] "/t" 50).2.find [] true "/t" = .ok (["t"], .directory) := by decide +kernel
  obtain ⟨⟨names, -, hmem, -, hentry⟩, -, hagain⟩ := reclaim_exact hroot hnamed hbase
    (fun name h => honly name h ▸ ⟨_, Prod.ext (by decide +kernel) rfl⟩) hkept
  have hnames (name : String) : name ∈ names ↔ name = "run_old" :=
    (hmem name).trans ⟨honly name, fun h => h ▸ hold⟩
  simp only [hnames, exists_eq_left] at hentry
  exact ⟨hentry _ (by decide), hentry _ (by decide), hagain⟩

/-- The base is no longer found once the first of the workspaces is gone, so the second one stays. -/
theorem reclaim_through_abandoned :
    let t : FileTree := ⟨[(["t"], .directory, 0), (["t", "run_a"], .directory, 0), (["t", "run_b"], .directory, 0)]⟩
    let base := "/t/run_a/../run_b/.."
    t.find [] true base = .ok (["t"], .directory) ∧
      (∀ name ∈ ["run_a", "run_b"], Abandoned t 0 0 ["t"] name ∧ (t.removeTree 0 [] (Path.join base name)).1 = none) ∧
      (reclaim t 0 [] base 0).1 = .ok 1 ∧ (reclaim t 0 [] base 0).2.node? ["t", "run_b"] = some .directory := by
  simp only [← isAbandoned_iff]
  decide +kernel

end Workspace
end SnippetLab
