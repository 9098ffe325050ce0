import SnippetLab.FileTree.Operations
import SnippetLab.Proofs.FileTree.Walk

/-!
What making a directory with its missing parents leaves. Whatever is made is a directory to which one of the
paths leads, and all else stays as it was.
-/
namespace SnippetLab.FileTree

variable {t u v : FileTree} {now : Int} {cwd : Place} {paths : String → Prop}

/-- Directories were made at some of the paths, and nothing else happened. -/
structure Made (cwd : Place) (paths : String → Prop) (t u : FileTree) : Prop where
  rooted : u.Rooted
  kept : ∀ p, t.node? p ≠ none → u.view p = t.view p
  made : ∀ p, t.node? p = none → u.node? p ≠ none →
    ∃ path, paths path ∧ u.find cwd true path = .ok (p, .directory)
  unused : ∀ name, (∀ path, paths path → name ∉ Path.segments path.toList) → t.Unused name → u.Unused name

namespace Made

theorem refl (h : t.Rooted) : Made cwd paths t t :=
  ⟨h, fun _ _ => rfl, fun _ hnone h => absurd hnone h, fun _ _ h => h⟩

theorem keepsWays (h : Made cwd paths t u) : KeepsWays t u where
  directory p hp := (node?_congr (h.kept p (by simp [hp]))).trans hp
  link p _ hp := (node?_congr (h.kept p (by simp [hp]))).trans hp

theorem trans (h : Made cwd paths t u) (h' : Made cwd paths u v) : Made cwd paths t v where
  rooted := h'.rooted
  kept p hp := by
    have hkept := h.kept p hp
    rw [h'.kept p (by rwa [node?_congr hkept]), hkept]
  made p hnone hp := by
    by_cases hmade : u.node? p = none
    · exact h'.made p hmade hp
    · obtain ⟨path, hpath, hfind⟩ := h.made p hnone hmade
      exact ⟨path, hpath, h'.keepsWays.find hfind⟩
  unused name hname h0 := h'.unused name hname (h.unused name hname h0)

end Made

theorem createDirectory_eq_ok {path : String} (h : t.createDirectory now cwd path = .ok u) :
    ∃ place, t.resolve cwd false (Path.withoutSlash path) = .ok (.free place) ∧
      u = t.put now place .directory := by
  unfold createDirectory at h
  split at h
  · cases h
  · next place hfree => exact ⟨place, hfree, (Except.ok.inj h).symm⟩
  · cases h

/-- What is put on a leaf, or in a free place, lies in a directory as before. -/
theorem Rooted.put_leaf (h : t.Rooted) {p : Place} (hp : p ≠ []) (hleaf : t.node? p ≠ some .directory)
    (hparent : t.node? p.dropLast = some .directory) (now : Int) (n : Node) : (t.put now p n).Rooted := by
  intro q name hq
  have hview := view_put hp hparent now n
  have hother {r : Place} (hr : r ≠ p) : (t.put now p n).node? r = t.node? r :=
    node?_congr (by rw [hview, if_neg hr])
  by_cases hnew : q ++ [name] = p
  · rw [← hnew, List.dropLast_concat] at hparent
    rwa [hother fun hqp => hleaf (hqp ▸ hparent)]
  · rw [hother hnew] at hq
    have hdirectory := h q name hq
    rwa [hother fun hqp => hleaf (hqp ▸ hdirectory)]

theorem Rooted.put (h : t.Rooted) {p : Place} (hp : p ≠ []) (hnone : t.node? p = none)
    (hparent : t.node? p.dropLast = some .directory) (now : Int) (n : Node) : (t.put now p n).Rooted :=
  h.put_leaf hp (by simp [hnone]) hparent now n

/-! Names -/

theorem eq_of_node?_put {p q : Place} {n : Node} (hq : (t.put now p n).node? q ≠ none) (hnone : t.node? q = none) :
    q = p := by
  by_contra hne
  have hnil : q ≠ [] := fun hnil => by simp [hnil] at hnone
  obtain ⟨u, hu, hput⟩ := put_cases t now p n
  have hnode : (t.put now p n).node? q = u.node? q := by
    obtain hput | hput := hput
    · rw [hput]
    · rw [hput, node?_stamp]
  rw [hnode, node?_of_ne_nil u hnil, hu, if_neg hne, ← node?_of_ne_nil t hnil] at hq
  exact hq hnone

theorem PlainlyNamed.put (h : t.PlainlyNamed) {d : Place} {name : String} (hname : Path.Plain name) (now : Int)
    (n : Node) : (t.put now (d ++ [name]) n).PlainlyNamed := by
  intro p other hn
  by_cases hnone : t.node? (p ++ [other]) = none
  · obtain ⟨-, rfl⟩ := List.append_singleton_inj.mp (eq_of_node?_put hn hnone)
    exact hname
  · exact h p other hnone

theorem PlainlyNamed.of_put {d : Place} {name : String} {n : Node} (h : (t.put now (d ++ [name]) n).PlainlyNamed)
    (hd : t.node? d = some .directory) : t.PlainlyNamed := by
  intro p other hother
  refine h p other ?_
  rw [node?_put_child hd]
  split
  · nofun
  · exact hother

theorem PlainlyNamed.createDirectory (h : t.PlainlyNamed) {path : String}
    (hok : t.createDirectory now cwd path = .ok u) : u.PlainlyNamed := by
  obtain ⟨place, hfree, rfl⟩ := createDirectory_eq_ok hok
  obtain ⟨-, -, hwalk⟩ := resolve_eq_ok_iff.mp hfree
  obtain ⟨front, name, d, hnames, rfl, -, -, hname⟩ := walk_eq_free hwalk
  have hmem : name ∈ Path.names (Path.withoutSlash path) := by simp [hnames]
  obtain ⟨hslash, hnonempty⟩ := Path.of_mem_segments ((Path.mem_names hmem).resolve_right hname.notSelf)
  exact h.put ⟨hslash, hnonempty, hname.notSelf, hname.notUp⟩ now _

theorem made_of_createDirectory {path : String} (hroot : t.Rooted) (hpath : paths path)
    (hslash : Path.withoutSlash path = path) (h : t.createDirectory now cwd path = .ok u) :
    Made cwd paths t u := by
  obtain ⟨place, hfree, rfl⟩ := createDirectory_eq_ok h
  rw [hslash] at hfree
  obtain ⟨hnameable, horigin, hwalk⟩ := resolve_eq_ok_iff.mp hfree
  obtain ⟨front, name, d, hnames, rfl, hnone, hd, hname⟩ := walk_eq_free hwalk
  have hdirectory : t.node? d = some .directory := hroot.walk horigin hd
  have hnil : d ++ [name] ≠ [] := by simp
  have hparent : t.node? (d ++ [name]).dropLast = some .directory := by rwa [List.dropLast_concat]
  have hview := view_put hnil hparent now .directory
  have hother {r : Place} (hr : r ≠ d ++ [name]) : (t.put now (d ++ [name]) .directory).view r = t.view r := by
    rw [hview, if_neg hr]
  have hkept (p : Place) (hp : t.node? p ≠ none) : (t.put now (d ++ [name]) .directory).view p = t.view p :=
    hother fun heq => hp (heq ▸ hnone)
  have hways : KeepsWays t (t.put now (d ++ [name]) .directory) :=
    ⟨fun p hp => (node?_congr (hkept p (by simp [hp]))).trans hp,
      fun p _ hp => (node?_congr (hkept p (by simp [hp]))).trans hp⟩
  refine ⟨hroot.put hnil hnone hparent now _, hkept, fun p hpnone hp => ?_, fun other hother' h0 p hp => ?_⟩
  · have hplace : p = d ++ [name] := by
      by_contra hne
      rw [node?_congr (hother hne)] at hp
      exact hp hpnone
    have hmade : (t.put now (d ++ [name]) .directory).node? (d ++ [name]) = some .directory := by
      rw [node?_eq_view, hview, if_pos rfl]
      rfl
    obtain ⟨left, hleft⟩ := walk_append (hways.walk hd)
    refine ⟨path, hpath, ?_⟩
    rw [hplace, find_eq_ok_iff, resolve_eq_ok_iff, hnames, hleft _ _ (by simp),
      walk_cons_of_directory hname _ _ hmade]
    exact ⟨hnameable, hways.directory _ horigin, walk_of_reached rfl⟩
  · have hmem : name ∈ Path.segments path.toList := by
      have hmem : name ∈ Path.names path := by simp [hnames]
      exact (Path.mem_names hmem).resolve_right hname.notSelf
    have hne : p ≠ d ++ [name] := by
      rintro rfl
      obtain hfront | hlast := List.mem_append.mp hp
      · rw [h0 d hfront] at hdirectory
        cases hdirectory
      · exact hother' path hpath (List.mem_singleton.mp hlast ▸ hmem)
    rw [node?_congr (hother hne)]
    exact h0 p hp

/-! Parents first -/

theorem finish_made {path : String} (hroot : t.Rooted) (hpath : paths path)
    (hslash : Path.withoutSlash path = path) :
    Made cwd paths t (createDirectories.finish now cwd t path).2 := by
  unfold createDirectories.finish
  split
  · next u h => exact made_of_createDirectory hroot hpath hslash h
  · split <;> exact .refl hroot

theorem go_made (hparent : ∀ path above, paths path → Path.parent? path = some above → paths above)
    {path : String} {fuel : Nat} (hroot : t.Rooted) (hpath : paths path)
    (hslash : Path.withoutSlash path = path) :
    Made cwd paths t (createDirectories.go now cwd t path fuel).2 := by
  induction fuel generalizing t path with
  | zero => exact .refl hroot
  | succ fuel ih =>
    unfold createDirectories.go
    split
    · exact .refl hroot
    · split
      · next u h => exact made_of_createDirectory hroot hpath hslash h
      · split
        · exact .refl hroot
        · next above habove =>
          have hmade := ih hroot (hparent path above hpath habove) (Path.withoutSlash_of_parent? habove)
          split
          · next e u hgo => rwa [hgo] at hmade
          · next u hgo =>
            rw [hgo] at hmade
            exact hmade.trans (finish_made hmade.rooted hpath hslash)
      · split <;> exact .refl hroot

theorem PlainlyNamed.finish (h : t.PlainlyNamed) (path : String) :
    (createDirectories.finish now cwd t path).2.PlainlyNamed := by
  unfold createDirectories.finish
  split
  · next u hok => exact h.createDirectory hok
  · split <;> exact h

theorem PlainlyNamed.go (h : t.PlainlyNamed) (path : String) (fuel : Nat) :
    (createDirectories.go now cwd t path fuel).2.PlainlyNamed := by
  induction fuel generalizing t path with
  | zero => exact h
  | succ fuel ih =>
    unfold createDirectories.go
    split
    · exact h
    · split
      · next u hok => exact h.createDirectory hok
      · split
        · exact h
        · next above habove =>
          have habove := ih h above
          split
          · next e u hgo => rwa [hgo] at habove
          · next u hgo =>
            rw [hgo] at habove
            exact habove.finish path
      · split <;> exact h

theorem PlainlyNamed.createDirectories (h : t.PlainlyNamed) (now : Int) (cwd : Place) (path : String) :
    (t.createDirectories now cwd path).2.PlainlyNamed :=
  h.go path path.length

section
variable {base name : String} (hname : Path.Plain name)
include hname

theorem createDirectory_join (hunused : t.Unused name) (now : Int) :
    (∃ d, t.LeadsTo cwd base name d ∧
      t.createDirectory now cwd (Path.join base name) = .ok (t.put now (d ++ [name]) .directory)) ∨
    ∃ e, t.createDirectory now cwd (Path.join base name) = .error e ∧
      t.isDirectory cwd (Path.join base name) = false := by
  cases h : t.createDirectory now cwd (Path.join base name) with
  | ok u =>
    obtain ⟨place, hfree, rfl⟩ := createDirectory_eq_ok h
    rw [Path.withoutSlash_join hname] at hfree
    obtain ⟨d, hleads, rfl, -⟩ := leadsTo_of_free hname hfree
    exact .inl ⟨d, hleads, rfl⟩
  | error e =>
    refine .inr ⟨e, rfl, ?_⟩
    rw [Bool.eq_false_iff]
    intro hdirectory
    obtain ⟨d, hd⟩ := exists_of_isDirectory hname hdirectory
    exact hd (hunused (d ++ [name]) (by simp))

theorem finish_join (hunused : t.Unused name) (now : Int) :
    (∃ e, createDirectories.finish now cwd t (Path.join base name) = (some e, t)) ∨
    ∃ d, t.LeadsTo cwd base name d ∧
      createDirectories.finish now cwd t (Path.join base name) = (none, t.put now (d ++ [name]) .directory) := by
  unfold createDirectories.finish
  obtain ⟨d, hleads, hput⟩ | ⟨e, herror, hdirectory⟩ := createDirectory_join hname hunused now
  · rw [hput]
    exact .inr ⟨d, hleads, rfl⟩
  · rw [herror, hdirectory]
    exact .inl ⟨e, rfl⟩

/-- A directory under a name that nobody uses is new, or it is not made at all. -/
theorem createDirectories_cases (hroot : t.Rooted) (hunused : t.Unused name)
    (hbase : name ∉ Path.segments base.toList) (now : Int) (cwd : Place) :
    ∃ u, Made cwd (Path.Above · (Path.join base name)) t u ∧ u.Unused name ∧
      ((∃ e, t.createDirectories now cwd (Path.join base name) = (some e, u)) ∨
        ∃ d, u.LeadsTo cwd base name d ∧
          t.createDirectories now cwd (Path.join base name) = (none, u.put now (d ++ [name]) .directory)) := by
  have hnonempty : (Path.join base name).isEmpty = false := by
    rw [Bool.eq_false_iff, Ne, String.isEmpty_iff]
    exact Path.join_ne_empty hname base
  obtain ⟨fuel, hfuel⟩ : ∃ fuel, (Path.join base name).length = fuel + 1 :=
    Nat.exists_eq_succ_of_ne_zero (by simpa using hnonempty)
  rw [createDirectories, hfuel]
  obtain ⟨d, hleads, hput⟩ | ⟨e, herror, hdirectory⟩ := createDirectory_join hname hunused now
  · refine ⟨t, .refl hroot, hunused, .inr ⟨d, hleads, ?_⟩⟩
    unfold createDirectories.go
    rw [hnonempty, hput]
    rfl
  by_cases hmissing : e = .noEntry
  · have hparent := Path.parent?_join hname base
    have hmade : Made cwd (Path.Above · (Path.join base name)) t
        (createDirectories.go now cwd t (Path.withoutSlash base) fuel).2 :=
      go_made (fun path above h habove => h.trans_parent habove) hroot (.parent hparent)
        (Path.withoutSlash_of_parent? hparent)
    have hkept := hmade.unused name
      (fun path h hmem => hbase (h.segments_subset_of_join hname hmem)) hunused
    unfold createDirectories.go
    rw [hnonempty, if_neg Bool.false_ne_true, herror, hmissing, hparent]
    dsimp only
    generalize createDirectories.go now cwd t (Path.withoutSlash base) fuel = above at hmade hkept ⊢
    obtain ⟨error, u⟩ := above
    dsimp only at hmade hkept
    cases error with
    | some e => exact ⟨u, hmade, hkept, .inl ⟨e, rfl⟩⟩
    | none => exact ⟨u, hmade, hkept, finish_join hname hkept now⟩
  · refine ⟨t, .refl hroot, hunused, .inl ⟨e, ?_⟩⟩
    unfold createDirectories.go
    rw [hnonempty, herror]
    cases e <;> simp_all

theorem createDirectories_of_reaches {d : Place} (h : t.Reaches cwd base d) (hnode : t.node? (d ++ [name]) = none)
    (now : Int) :
    t.LeadsTo cwd base name d ∧
        t.createDirectories now cwd (Path.join base name) = (none, t.put now (d ++ [name]) .directory) ∨
      ∃ e, t.createDirectories now cwd (Path.join base name) = (some e, t) := by
  have hnonempty : (Path.join base name).isEmpty = false := by
    rw [Bool.eq_false_iff, Ne, String.isEmpty_iff]
    exact Path.join_ne_empty hname base
  obtain ⟨fuel, hfuel⟩ : ∃ fuel, (Path.join base name).length = fuel + 1 :=
    Nat.exists_eq_succ_of_ne_zero (by simpa using hnonempty)
  obtain hleads | ⟨e, he, hresolve⟩ := h.leadsTo_or hname
  · refine .inl ⟨hleads, ?_⟩
    have hput : t.createDirectory now cwd (Path.join base name) = .ok (t.put now (d ++ [name]) .directory) := by
      rw [createDirectory, Path.withoutSlash_join hname, hleads.resolve_of_none false hnode]
    rw [createDirectories, hfuel]
    unfold createDirectories.go
    rw [hnonempty, hput]
    rfl
  · have herror : t.createDirectory now cwd (Path.join base name) = .error e := by
      rw [createDirectory, Path.withoutSlash_join hname, hresolve]
    have hdirectory : t.isDirectory cwd (Path.join base name) = false := by
      rw [isDirectory, check, find, hresolve]
    refine .inr ⟨e, ?_⟩
    rw [createDirectories, hfuel]
    unfold createDirectories.go
    rw [hnonempty, herror]
    cases e <;> simp_all

end

end SnippetLab.FileTree
