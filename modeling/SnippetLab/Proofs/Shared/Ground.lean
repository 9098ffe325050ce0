import SnippetLab.Proofs.Shared.Steps

/-!
The ground that all workspaces stand on: a tree in which the base leads to the shared directory, and leads there
without any of them. As long as its directories and links stay, whatever is done in one workspace, or to files
that are not on the way, is done there and nowhere else.
-/
namespace SnippetLab

namespace Shared

open FileTree

namespace Local

variable {place : Place} {t u w : FileTree}

theorem refl (h : t.Rooted) : Local place t t := ⟨h, fun _ _ _ => rfl, rfl⟩

theorem trans (h : Local place t u) (h' : Local place u w) : Local place t w where
  rooted := h'.rooted
  outside p hp hne := (h'.outside p hp hne).trans (h.outside p hp hne)
  above := h'.above.trans h.above

theorem view (h : Local place t u) (hparent : ∀ n, t.node? place.dropLast = some n → n = .directory) {p : Place}
    (hp : within place p = false) : u.view p = t.view p := by
  by_cases hne : p = place.dropLast
  · refine view_congr (by rw [hne, h.above]) fun hdirectory => ?_
    cases hnode : t.node? p with
    | none =>
      have hp' : p ≠ [] := fun hnil => by simp [hnil] at hnode
      have habove := h.above
      rw [← hne, hnode, node?_of_ne_nil _ hp', Option.map_eq_none_iff] at habove
      rw [node?_of_ne_nil _ hp', Option.map_eq_none_iff] at hnode
      rw [habove, hnode]
    | some n => exact absurd (hparent n (hne ▸ hnode) ▸ hnode) hdirectory
  · exact view_of_entry? (h.outside p hp hne)

end Local

section
variable {t : FileTree} {d : Place} {n : String} (hroot : t.Rooted) (now : Int)
include hroot

theorem local_make (hd : t.node? d = some .directory) (hnone : t.node? (d ++ [n]) = none) (node : Node) :
    Local (d ++ [n]) t (t.put now (d ++ [n]) node) := by
  have hne : d ++ [n] ≠ [] := by simp
  have hparent : t.node? (d ++ [n]).dropLast = some .directory := by rwa [List.dropLast_concat]
  refine ⟨hroot.put hne hnone hparent now node, fun p hp hdrop => ?_, node?_congr ?_⟩
  · rw [entry?_put t now _ node hdrop, if_neg]
    rintro rfl
    simp at hp
  · rw [view_put hne hparent now node, if_neg (dropLast_ne hne)]

theorem local_put {file : String} (hplace : t.node? (d ++ [n]) = some .directory)
    (hleaf : t.node? (d ++ [n] ++ [file]) ≠ some .directory) (node : Node) :
    Local (d ++ [n]) t (t.put now (d ++ [n] ++ [file]) node) := by
  have hne : d ++ [n] ++ [file] ≠ [] := by simp
  have hparent : t.node? (d ++ [n] ++ [file]).dropLast = some .directory := by rwa [List.dropLast_concat]
  refine ⟨hroot.put_leaf hne hleaf hparent now node, fun p hp _ => ?_, node?_congr ?_⟩
  · rw [entry?_put, if_neg]
    · rintro rfl
      rw [within_append] at hp
      cases hp
    · rw [List.dropLast_concat]
      rintro rfl
      simp at hp
  · rw [List.dropLast_concat, view_put hne hparent now node, if_neg (by simp)]

theorem local_of_removed {u : FileTree}
    (hview : ∀ p, u.view p = if within (d ++ [n]) p = true then none else t.view p)
    (hentry : ∀ p, within (d ++ [n]) p = false → p ≠ d → u.entry? p = t.entry? p) : Local (d ++ [n]) t u := by
  refine ⟨hroot.of_removed (p := d ++ [n]) fun p => ?_, fun p hp hdrop => ?_, node?_congr ?_⟩
  · rw [node?_eq_view, hview, node?_eq_view t p]
    cases within (d ++ [n]) p <;> rfl
  · exact hentry p hp (by rwa [List.dropLast_concat] at hdrop)
  · rw [hview, within_dropLast (by simp)]
    rfl

theorem local_erase (hd : t.node? d = some .directory) : Local (d ++ [n]) t (t.erase now (d ++ [n])) := by
  refine local_of_removed hroot (view_erase_child hd now n) fun p hp hne => ?_
  rw [entry?_erase t now _ (by rwa [List.dropLast_concat]), if_neg (by simp [hp])]

end

/-! ### The ground -/

/-- In the ground `g` the base leads to `d`, and nothing bears one of the names there; its directories and links
are those of the tree as well. -/
structure Ground (v : Service) (owned : String → Prop) (d : Place) (g t : FileTree) : Prop where
  rooted : t.Rooted
  reaches : g.Reaches v.home v.base d
  bare : ∀ n, owned n → ∀ p, within (d ++ [n]) p = true → g.node? p = none
  ways : KeepsWays g t

namespace Ground

variable {v : Service} {owned : String → Prop} {d : Place} {g t u : FileTree} {n : String} {now : Int}

section
variable (h : Ground v owned d g t)
include h

theorem reached : t.Reaches v.home v.base d := h.reaches.keeps h.ways

theorem directory : t.node? d = some .directory := h.reached.directory h.rooted

theorem off_way (hn : owned n) {p : Place} (hp : within (d ++ [n]) p = true) : ¬g.OnWay p :=
  fun hway => hway.node?_ne_none (h.bare n hn p hp)

theorem listed {root : Place} {names : List String} (hlist : t.listDirectory v.home v.base = .ok (root, names)) :
    root = d ∧ names = t.children d := by
  obtain ⟨hfind, hnames⟩ := listDirectory_eq_ok_iff.mp hlist
  obtain rfl := h.reached.eq_of_find hfind
  exact ⟨rfl, hnames⟩

theorem inBase_cases (change : Place → FileTree) : v.inBase t change = change d ∨ v.inBase t change = t := by
  unfold Service.inBase
  split
  · next root hfind =>
    rw [h.reached.eq_of_find hfind]
    exact .inl rfl
  · exact .inr rfl

theorem ways_of_outside (hoff : ∀ p, within (d ++ [n]) p = true → ¬g.OnWay p)
    (houtside : ∀ p, within (d ++ [n]) p = false → u.node? p = t.node? p) : KeepsWays g u :=
  h.ways.of_outside hoff houtside

theorem view_of_local (hlocal : Local (d ++ [n]) t u) {p : Place} (hp : within (d ++ [n]) p = false) :
    u.view p = t.view p := by
  exact hlocal.view (eq_directory_of_parent h.directory) hp

theorem of_local (hoff : ∀ p, within (d ++ [n]) p = true → ¬g.OnWay p) (hlocal : Local (d ++ [n]) t u) :
    Ground v owned d g u :=
  ⟨hlocal.rooted, h.reaches, h.bare, h.ways_of_outside hoff fun _ hp => node?_congr (h.view_of_local hlocal hp)⟩

/-! What the operations come to -/

theorem create_cases (hn : Path.Plain n) (hnone : t.node? (d ++ [n]) = none) (now : Int) (first id : String)
    (hname : first ++ id = n) :
    (g.LeadsTo v.home v.base n d ∧ Workspace.create t now v.home v.base first id =
        (.ok { id, directory := Path.join v.base n }, t.put now (d ++ [n]) .directory)) ∨
      ∃ e, Workspace.create t now v.home v.base first id = (.error e, t) := by
  subst hname
  unfold Workspace.create
  dsimp only
  obtain ⟨hleads, hput⟩ | ⟨e, he⟩ := createDirectories_of_reaches hn h.reached hnone now
  · rw [hput]
    exact .inl ⟨⟨hn, hleads.nameable, hleads.lookedUp, h.reaches.origin, h.reaches.walk⟩, rfl⟩
  · rw [he]
    exact .inr ⟨_, rfl⟩

theorem write_cases (hleads : g.LeadsTo v.home v.base n d) (hplace : t.node? (d ++ [n]) = some .directory)
    {file : String} (hfile : Path.Plain file) (hfree : t.node? (d ++ [n] ++ [file]) = none) {w : Workspace}
    (hw : w.directory = Path.join v.base n) (now : Int) (text : String) :
    (∃ path, w.write t now v.home file text = (.ok path, { w with source := some path },
        t.put now (d ++ [n] ++ [file]) (.file (Text.Utf8.encode text.toList) defaultMode))) ∨
      ∃ e, w.write t now v.home file text = (.error e, w, t) := by
  have hleads' := hleads.keeps h.ways
  rw [Workspace.write_eq, hw]
  split
  · next u hwritten =>
    rw [Workspace.writeFile_of_free (Path.endsInSlash_join hfile _)
      (fun _ => hleads'.eq_free_of_resolve hfile hplace hfree) hwritten]
    exact .inl ⟨_, rfl⟩
  · exact .inr ⟨_, rfl⟩

theorem dispose_cases (hn : owned n) (hleads : g.LeadsTo v.home v.base n d) {w : Workspace}
    (hw : w.directory = Path.join v.base n) (hlive : w.disposed = false) (now : Int) :
    (t.node? (d ++ [n]) = some .directory →
      (w.dispose t now v.home).2 = t.erase now (d ++ [n])) ∧
    (t.node? (d ++ [n]) = none → (w.dispose t now v.home).2 = t) := by
  rw [Workspace.dispose, hlive, if_neg Bool.false_ne_true, hw]
  dsimp only [Cleanup.removeTree]
  have hleads' := hleads.keeps h.ways
  refine ⟨fun hplace => ?_, fun hnone => ?_⟩
  · have hways : KeepsWays g (t.clear now (d ++ [n])) := by
      refine h.ways_of_outside (fun p => h.off_way hn) fun p hp => node?_congr ?_
      rw [view_clear hplace, if_neg (by simp [hp])]
    rw [Workspace.removeTree_of_leadsTo hleads' (hleads.keeps hways) hplace]
  · rw [removeTree, find, hleads'.resolve_of_none false hnone]

end

end Ground
end Shared
end SnippetLab
