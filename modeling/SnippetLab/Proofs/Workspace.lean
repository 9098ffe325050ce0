import SnippetLab.Workspace
import SnippetLab.Proofs.Cleanup
import SnippetLab.Proofs.FileTree.Directories

/-!
A workspace from its making to its removal. Its path leads to the same place as long as the directories and
links around it stay, and whatever was in it goes with it.
-/
namespace SnippetLab

namespace FileTree

/-- Only under the place do the trees differ, or all that was at or under it is gone. -/
structure Around (place : Place) (t u : FileTree) : Prop where
  outside : ∀ p, within place p = false → u.view p = t.view p
  inside : u.node? place = t.node? place ∨ ∀ p, within place p = true → u.node? p = none

namespace Around

variable {place : Place} {t u v : FileTree}

theorem refl (place : Place) (t : FileTree) : Around place t t := ⟨fun _ _ => rfl, .inl rfl⟩

theorem trans (h : Around place t u) (hkept : u.node? place = t.node? place) (h' : Around place u v) :
    Around place t v :=
  ⟨fun p hp => (h'.outside p hp).trans (h.outside p hp), h'.inside.imp_left (·.trans hkept)⟩

theorem put (h : t.node? place = some .directory) (now : Int) (name : String) (n : Node) :
    Around place t (t.put now (place ++ [name]) n) := by
  have hview := view_put_child h now name n
  refine ⟨fun p hp => (hview p).trans (if_neg ?_), .inl (node?_congr ((hview place).trans (if_neg (by simp))))⟩
  rintro rfl
  rw [within, Bool.eq_false_iff] at hp
  exact hp (List.isPrefixOf_iff_prefix.mpr (List.prefix_append _ _))

end Around

end FileTree

namespace Workspace

open FileTree

/-- A tree in which a workspace can be made: nothing bears its name yet. -/
structure Site (t : FileTree) (cwd : Place) (base name : String) (d : Place) : Prop where
  rooted : t.Rooted
  unused : t.Unused name
  leads : t.LeadsTo cwd base name d

/-- What is left of the site once the workspace is made and stands empty. -/
structure Opened (t u : FileTree) (place : Place) : Prop where
  ways : KeepsWays t u
  directory : u.node? place = some .directory
  empty : ∀ p, within place p = true → p ≠ place → u.node? p = none

variable {t u v : FileTree} {cwd d : Place} {base name : String} {now : Int}

namespace Site

variable (h : Site t cwd base name d)
include h

theorem directory : t.node? d = some .directory := h.rooted.walk h.leads.origin h.leads.walk

theorem free {p : Place} (hp : within (d ++ [name]) p = true) : t.node? p = none :=
  h.unused p ((List.isPrefixOf_iff_prefix.mp hp).subset (by simp))

theorem keepsWays (hkept : ∀ p, within (d ++ [name]) p = false →
      (t.node? p = some .directory ∨ ∃ target, t.node? p = some (.link target)) → u.node? p = t.node? p) :
    KeepsWays t u := by
  have houtside {p : Place} {n : Node} (hp : t.node? p = some n) : within (d ++ [name]) p = false := by
    rw [Bool.eq_false_iff]
    intro hwithin
    rw [h.free hwithin] at hp
    cases hp
  exact ⟨fun p hp => (hkept p (houtside hp) (.inl hp)).trans hp,
    fun p target hp => (hkept p (houtside hp) (.inr ⟨target, hp⟩)).trans hp⟩

theorem view_put (now : Int) (n : Node) (q : Place) :
    (t.put now (d ++ [name]) n).view q =
      if q = d ++ [name] then some (n, if n.isDirectory then none else some now) else t.view q :=
  view_put_child h.directory now name n q

theorem view_put_or (now : Int) (p : Place) :
    (t.put now (d ++ [name]) .directory).view p = t.view p ∨ within (d ++ [name]) p = true := by
  by_cases hp : p = d ++ [name]
  · exact .inr (hp ▸ within_self _)
  · exact .inl ((h.view_put now .directory p).trans (if_neg hp))

theorem rooted_put (now : Int) : (t.put now (d ++ [name]) .directory).Rooted :=
  h.rooted.put (by simp) (h.free (within_self _)) (by rw [List.dropLast_concat]; exact h.directory) now _

theorem opened (now : Int) : Opened t (t.put now (d ++ [name]) .directory) (d ++ [name]) := by
  have hview := h.view_put now .directory
  refine ⟨h.keepsWays fun p hp _ => node?_congr ?_, ?_, fun p hp hne => ?_⟩
  · rw [hview, if_neg]
    rintro rfl
    simp at hp
  · rw [node?_eq_view, hview, if_pos rfl]
    rfl
  · rw [node?_congr (t := t) (q := p), h.free hp]
    rw [hview, if_neg hne]

theorem keepsWays_around (hopened : Opened t u (d ++ [name])) (haround : Around (d ++ [name]) u v) :
    KeepsWays t v :=
  h.keepsWays fun p hp hway => by
    rw [node?_congr (haround.outside p hp)]
    obtain hway | ⟨target, hway⟩ := hway
    · rw [hopened.ways.directory p hway, hway]
    · rw [hopened.ways.link p target hway, hway]

/-- The path of the workspace leads to it, or nowhere once it is gone. -/
theorem find_around (hopened : Opened t u (d ++ [name])) (haround : Around (d ++ [name]) u v)
    (follow : Bool) :
    v.node? (d ++ [name]) = some .directory ∧
      v.find cwd follow (Path.join base name) = .ok (d ++ [name], .directory) ∨
    (∀ p, within (d ++ [name]) p = true → v.node? p = none) ∧
      v.find cwd follow (Path.join base name) = .error .noEntry := by
  have hleads := h.leads.keeps (h.keepsWays_around hopened haround)
  refine haround.inside.imp (fun hkept => ?_) fun hgone => ?_
  · have hnode := hkept.trans hopened.directory
    exact ⟨hnode, hleads.find_of_directory follow hnode⟩
  refine ⟨hgone, ?_⟩
  rw [find, hleads.resolve_of_none follow (hgone _ (within_self _))]

end Site

theorem Opened.purge {place : Place} (h : Opened t u place) (hroot : u.Rooted) (now : Int) (cwd : Place)
    (root : String) : Opened t (Cleanup.purge u now cwd root).2 place := by
  by_cases hread : ∃ top, Cleanup.Readable .nothing u cwd root top
  · obtain ⟨top, htop⟩ := hread
    have hkept {p : Place} (hp : ¬Cleanup.Leftover u top p) :
        (Cleanup.purge u now cwd root).2.node? p = u.node? p :=
      node?_congr ((Cleanup.view_purge_cases hroot htop now p).resolve_right fun h => hp h.1)
    refine ⟨⟨fun p hp => ?_, fun p target hp => ?_⟩, ?_, fun p hp hne => ?_⟩
    · rw [hkept fun hleftover => hleftover.node?_ne.2.1 (h.ways.directory p hp), h.ways.directory p hp]
    · rw [hkept fun hleftover => hleftover.node?_ne.2.2 target (h.ways.link p target hp), h.ways.link p target hp]
    · rw [hkept fun hleftover => hleftover.node?_ne.2.1 h.directory, h.directory]
    · rw [hkept fun hleftover => hleftover.node?_ne.1 (h.empty p hp hne), h.empty p hp hne]
  · rw [Cleanup.purge, Cleanup.purgeUnless_of_unreadable (not_exists.mp hread)]
    exact h

theorem writeFile_eq (t : FileTree) (now : Int) (cwd : Place) (path : String) (content : List UInt8) :
    t.writeFile now cwd path content = (t.writable cwd path).map (t.fill now content) := by
  unfold writeFile writeFileWithin
  cases t.writable cwd path <;> rfl

theorem write_eq (w : Workspace) (t : FileTree) (now : Int) (cwd : Place) (name content : String) :
    w.write t now cwd name content =
      match t.writeFile now cwd (Path.join w.directory name) (Text.Utf8.encode content.toList) with
      | .ok u => (.ok (Path.join w.directory name), { w with source := some (Path.join w.directory name) }, u)
      | .error e =>
        (.error (.io ("Failed to write source file " ++ Path.join w.directory name ++ ": " ++ e.message)), w, t) := by
  rw [writeFile_eq]
  unfold write writeWithin writeFileWithin
  dsimp only
  cases t.writable cwd (Path.join w.directory name) <;> rfl

theorem writable_of_endsInSlash {path : String} (hslash : Path.endsInSlash path = false) :
    t.writable cwd path =
      match t.resolve cwd true path with
      | .ok (.entry _ .directory) => .error .isDirectory
      | .ok (.entry place (.file _ mode)) => .ok (some (place, mode))
      | .ok (.entry _ (.link _)) => .error .tooManyLinks
      | .ok (.entry _ _) => .ok none
      | .ok (.free place) => .ok (some (place, defaultMode))
      | .error e => .error e := by
  unfold writable
  rw [hslash, Bool.false_and]
  exact if_neg Bool.false_ne_true

theorem writeFile_of_free {path : String} {content : List UInt8} {place : Place}
    (hslash : Path.endsInSlash path = false)
    (hfree : ∀ target, t.resolve cwd true path = .ok target → target = .free place)
    (h : t.writeFile now cwd path content = .ok u) : u = t.put now place (.file content defaultMode) := by
  rw [writeFile_eq, writable_of_endsInSlash hslash] at h
  cases hresolve : t.resolve cwd true path with
  | ok target =>
    rw [hresolve, hfree target hresolve] at h
    exact (Except.ok.inj h).symm
  | error e =>
    rw [hresolve] at h
    cases h

/-- A directory is emptied, and then it goes itself if its path still leads there. -/
theorem removeTree_of_leadsTo (hleads : t.LeadsTo cwd base name d)
    (hleads' : (t.clear now (d ++ [name])).LeadsTo cwd base name d)
    (hnode : t.node? (d ++ [name]) = some .directory) :
    t.removeTree now cwd (Path.join base name) = (none, t.erase now (d ++ [name])) := by
  have hlast : (Path.names (Path.withoutSlash (Path.join base name))).getLast? = some name := by
    rw [Path.withoutSlash_join hleads.plain, Path.names_join hleads.plain, List.getLast?_concat]
  have hstays : (t.clear now (d ++ [name])).node? (d ++ [name]) = some .directory := by
    rw [node?_congr (q := d ++ [name]) (t := t), hnode]
    rw [view_clear hnode, if_neg (by simp)]
  have hfind := hleads'.find_of_directory false hstays
  rw [← Path.withoutSlash_join hleads.plain] at hfind
  rw [removeTree, hleads.find_of_directory false hnode]
  dsimp only
  unfold removeEmptied
  rw [hlast, hfind, ← erase_clear t now]
  split
  · next h => exact absurd (Option.some.inj h) hleads.lookedUp.notSelf
  · next h => exact absurd (Option.some.inj h) hleads.lookedUp.notUp
  · rfl

section
variable {w : Workspace} (hw : w.directory = Path.join base name)
include hw

theorem write_around (h : Site t cwd base name d) (hopened : Opened t u (d ++ [name])) {file : String}
    (hfile : Path.Plain file) (now : Int) (content : String) :
    Around (d ++ [name]) u (w.write u now cwd file content).2.2 := by
  have hdirectory := hopened.directory
  have hfree : u.node? (d ++ [name] ++ [file]) = none :=
    hopened.empty _ (List.isPrefixOf_iff_prefix.mpr (List.prefix_append _ _)) (by simp)
  have hleads := h.leads.keeps hopened.ways
  rw [write_eq, hw]
  split
  · next v hwritten =>
    rw [writeFile_of_free (Path.endsInSlash_join hfile _)
      (fun _ => hleads.eq_free_of_resolve hfile hdirectory hfree) hwritten]
    exact .put hdirectory now file _
  · exact .refl _ u

theorem view_dispose (h : Site t cwd base name d) (hopened : Opened t u (d ++ [name]))
    (haround : Around (d ++ [name]) u v) (hlive : w.disposed = false) (now : Int) (p : Place) :
    (w.dispose v now cwd).2.view p = if within (d ++ [name]) p = true then none else u.view p := by
  have hviewed : (if within (d ++ [name]) p = true then none else v.view p) =
      if within (d ++ [name]) p = true then none else u.view p := by
    split
    · rfl
    · next hp => exact haround.outside p (Bool.eq_false_iff.mpr hp)
  rw [dispose, hlive, if_neg Bool.false_ne_true, hw, ← hviewed]
  dsimp only [Cleanup.removeTree]
  obtain ⟨hdirectory, -⟩ | ⟨hgone, hfind⟩ := h.find_around hopened haround false
  · have hcleared := view_clear hdirectory now
    have haround' : Around (d ++ [name]) v (v.clear now (d ++ [name])) :=
      ⟨fun q hq => (hcleared q).trans (if_neg (by simp [hq])),
        .inl (node?_congr ((hcleared (d ++ [name])).trans (if_neg (by simp))))⟩
    have hways := h.keepsWays_around hopened haround
    have hways' := h.keepsWays_around hopened
      (haround.trans (hdirectory.trans hopened.directory.symm) haround')
    have hparent : v.node? (d ++ [name]).dropLast = some .directory := by
      rw [List.dropLast_concat]
      exact hways.directory d h.directory
    rw [removeTree_of_leadsTo (h.leads.keeps hways) (h.leads.keeps hways') hdirectory,
      view_erase (by simp) (fun n hn => Option.some.inj (hn.symm.trans hparent))]
  · rw [removeTree, hfind]
    dsimp only
    split
    · next hp => exact view_eq_none_iff.mpr (hgone p hp)
    · rfl

end

end Workspace
end SnippetLab
