import SnippetLab.Proofs.Lab.Analyze
import SnippetLab.Proofs.Lab.Refusal
import SnippetLab.Proofs.Path
import SnippetLab.Proofs.Workspace

/-!
What a request leaves of the files. Its workspace is gone whatever happened; the shared directory may have
been made for it, and compiling removes the leftovers of earlier runs there. Nothing else is touched.
-/
namespace SnippetLab

/-! ### The names that the lab draws name entries of a directory -/

namespace Lab

open SnippetLab.Path

theorem slash_not_mem_toDigits (n : Nat) : '/' ∉ Nat.toDigits 16 n := by
  induction n using Nat.strongRecOn with
  | ind n ih =>
    rw [Nat.toDigits_eq_if (by decide)]
    split
    · simp
    · simpa using ih (n / 16) (by omega)

theorem slash_not_mem_hexDigits (width n : Nat) : '/' ∉ (hexDigits width n).toList := by
  simp [hexDigits, slash_not_mem_toDigits]

theorem plain_hexDigits (first last : String) (hfirst : '/' ∉ first.toList) (hlast : '/' ∉ last.toList)
    {c : Char} (hc : c ∈ first.toList) (hdot : c ≠ '.') (width n : Nat) :
    Plain (first ++ hexDigits width n ++ last) := by
  have hmem : c ∈ (first ++ hexDigits width n ++ last).toList := by simp [hc]
  refine ⟨?_, ?_, ?_, ?_⟩
  · simp [hfirst, hlast, slash_not_mem_hexDigits]
  · intro h
    rw [h] at hmem
    cases hmem
  · intro h
    rw [h] at hmem
    exact hdot (by simpa using hmem)
  · intro h
    rw [h] at hmem
    exact hdot (by simpa using hmem)

theorem plain_uuid {first : String} (hfirst : '/' ∉ first.toList) (n : Nat) : Plain (first ++ uuid n) := by
  have h := plain_hexDigits (first ++ "00000000-0000-4000-8000-") "" (c := '-') (by simp [hfirst])
    (by simp) (by simp) (by decide) 12 n
  rwa [String.append_empty, String.append_assoc] at h

theorem plain_sourceName (n : Nat) : Plain (baseName n ++ Artifact.sourceExtension) :=
  plain_hexDigits _ _ (c := 't') (by decide) (by decide) (by decide) (by decide) 8 n

theorem plain_dumpSource : Plain dumpSource := by
  constructor <;> decide

end Lab

/-! ### Requests and what they find -/

open FileTree

/-- Programs write in their working directory only, if there is one; they may remove it. -/
def Confined (launch : Launcher) : Prop :=
  ∀ x : Situation,
    match x.tree.find x.home true x.command.directory with
    | .ok (place, .directory) => Around place x.tree ((launch x).treeOr x.tree)
    | _ => (launch x).treeOr x.tree = x.tree

inductive Request
  | compile
  | analyze
  deriving DecidableEq, Repr

namespace Request

def first : Request → String
  | compile => Workspace.runPrefix
  | analyze => Workspace.sessionPrefix

/-- The name of the workspace that the request makes next. -/
def workspaceName (r : Request) (l : Lab) : String := r.first ++ Lab.uuid l.drawn

def workspacePath (r : Request) (s : Settings) (l : Lab) : String :=
  Path.join s.tempDirectory (r.workspaceName l)

def serve (r : Request) (launch : Launcher) (s : Settings) (source : String) (l : Lab) : Lab :=
  match r with
  | compile => (l.compileAndRun launch s source).2
  | analyze => (l.analyze launch s source).2

/-- Sources that are too long are refused, and blank ones need no workspace. -/
def Refused (r : Request) (s : Settings) (source : String) : Prop :=
  s.maxSourceLength < source.length ∨
    match r with
    | compile => Text.allBlank source.toList = true
    | analyze => (SourceUnit.forAnalysis source).isBlank = true

/-- Nobody uses the name of the next workspace. -/
structure Fresh (r : Request) (s : Settings) (l : Lab) : Prop where
  tree : l.tree.Unused (r.workspaceName l)
  base : r.workspaceName l ∉ Path.names s.tempDirectory

/-- What may be missed after a request: leftovers that lay directly in the shared directory. -/
def Purged (r : Request) (s : Settings) (before after : Lab) (p : Place) : Prop :=
  r = compile ∧ ∃ root, after.tree.find before.home true s.tempDirectory = .ok (root, .directory) ∧
    Cleanup.Leftover before.tree root p

/-- A request leaves no workspace, takes nothing but leftovers and adds nothing but the directories that lead
to the workspace. -/
structure Tidy (r : Request) (s : Settings) (before after : Lab) : Prop where
  gone : after.tree.Unused (r.workspaceName before)
  kept : ∀ p, before.tree.node? p ≠ none →
    after.tree.view p = before.tree.view p ∨ after.tree.node? p = none ∧ r.Purged s before after p
  made : ∀ p, before.tree.node? p = none → after.tree.node? p ≠ none →
    ∃ path, Path.Above path (r.workspacePath s before) ∧
      after.tree.find before.home true path = .ok (p, .directory)

/-- A request at work. Its workspace was made in the tree `t`, and `u` is what was there when the work began. -/
structure Working (r : Request) (s : Settings) (before : Lab) (t u : FileTree) (d : Place) (w : Workspace)
    (l : Lab) : Prop where
  made : Made before.home (Path.Above · (r.workspacePath s before)) before.tree t
  site : Workspace.Site t before.home s.tempDirectory (r.workspaceName before) d
  opened : Workspace.Opened t u (d ++ [r.workspaceName before])
  purged : ∀ p, u.view p = t.view p ∨ within (d ++ [r.workspaceName before]) p = true ∨
    u.view p = none ∧ r = compile ∧ Nameable s.tempDirectory ∧ Cleanup.Leftover t d p
  directory : w.directory = r.workspacePath s before
  live : w.disposed = false
  home : l.home = before.home
  around : Around (d ++ [r.workspaceName before]) u l.tree

theorem plain_workspaceName (r : Request) (l : Lab) : Path.Plain (r.workspaceName l) :=
  Lab.plain_uuid (by cases r <;> decide) l.drawn

variable {r : Request} {s : Settings} {before l : Lab} {t u : FileTree} {d : Place} {w : Workspace}

theorem tidy_of_made (hmade : Made before.home (Path.Above · (r.workspacePath s before)) before.tree l.tree)
    (hunused : l.tree.Unused (r.workspaceName before)) : r.Tidy s before l where
  gone := hunused
  kept p hp := .inl (hmade.kept p hp)
  made := hmade.made

namespace Working

theorem run {launch : Launcher} (hlaunch : Confined launch) (h : Working r s before t u d w l)
    (limits : RunLimits) (command : Command) (timeout : Nat) (hdirectory : command.directory = w.directory) :
    Working r s before t u d w (l.run launch limits command timeout).2 := by
  have hsame := Lab.run_same launch limits command timeout l
  have hconfined := hlaunch (l.situation limits command timeout)
  have hfind : (l.situation limits command timeout).tree.find (l.situation limits command timeout).home true
      (l.situation limits command timeout).command.directory =
      l.tree.find before.home true (Path.join s.tempDirectory (r.workspaceName before)) := by
    rw [← h.home, ← workspacePath, ← h.directory, ← hdirectory]
    rfl
  refine { h with home := hsame.home.trans h.home, around := ?_ }
  rw [hsame.tree]
  obtain ⟨hnode, hplace⟩ | ⟨hgone, hplace⟩ := h.site.find_around h.opened h.around true
  · rw [hfind, hplace] at hconfined
    exact h.around.trans (hnode.trans h.opened.directory.symm) hconfined
  · rw [hfind, hplace] at hconfined
    dsimp only at hconfined ⊢
    rw [show (launch (l.situation limits command timeout)).treeOr l.tree = l.tree from hconfined]
    exact h.around

theorem dispose (h : Working r s before t u d w l) : r.Tidy s before (l.dispose w) := by
  have hview (p : Place) : (l.dispose w).tree.view p =
      if within (d ++ [r.workspaceName before]) p = true then none else u.view p := by
    rw [Lab.dispose, h.home]
    exact Workspace.view_dispose h.directory h.site h.opened h.around h.live l.now p
  have hinside {p : Place} (hp : within (d ++ [r.workspaceName before]) p = true) :
      (l.dispose w).tree.node? p = none :=
    view_eq_none_iff.mp ((hview p).trans (if_pos hp))
  have houtside {p : Place} (hp : ¬within (d ++ [r.workspaceName before]) p = true) :
      (l.dispose w).tree.view p = t.view p ∨ (l.dispose w).tree.node? p = none ∧
        r = compile ∧ Nameable s.tempDirectory ∧ Cleanup.Leftover t d p := by
    rw [← view_eq_none_iff, hview, if_neg hp]
    exact (h.purged p).imp_right fun h => h.resolve_left hp
  have hways : KeepsWays t (l.dispose w).tree := by
    refine h.site.keepsWays fun p hp hway => ?_
    obtain hkept | ⟨-, -, -, hleftover⟩ := houtside (Bool.eq_false_iff.mp hp)
    · exact node?_congr hkept
    · obtain hway | ⟨target, hway⟩ := hway
      · exact absurd hway hleftover.node?_ne.2.1
      · exact absurd hway (hleftover.node?_ne.2.2 target)
  constructor
  case gone =>
    intro p hname
    by_cases hp : within (d ++ [r.workspaceName before]) p = true
    · exact hinside hp
    · obtain hkept | ⟨hnone, -⟩ := houtside hp
      · rw [node?_congr hkept]
        exact h.site.unused p hname
      · exact hnone
  case kept =>
    intro p hp
    have hkept := h.made.kept p hp
    have hnode : t.node? p = before.tree.node? p := node?_congr hkept
    have hout : ¬within (d ++ [r.workspaceName before]) p = true := fun hwithin =>
      hp (hnode.symm.trans (h.site.free hwithin))
    refine (houtside hout).imp (fun h => h.trans hkept) fun ⟨hnone, hr, hbase, name, hplace, hstale, hfile⟩ => ?_
    exact ⟨hnone, hr, d, (h.site.leads.keeps hways).find_base hbase, name, hplace, hstale, hnode ▸ hfile⟩
  case made =>
    intro p hnone hp
    have hout : ¬within (d ++ [r.workspaceName before]) p = true := fun hwithin => hp (hinside hwithin)
    have hkept := (houtside hout).resolve_right fun h => hp h.1
    obtain ⟨path, hpath, hfind⟩ := h.made.made p hnone (by rwa [← node?_congr hkept])
    exact ⟨path, hpath, hways.find hfind⟩

theorem write (h : Working r s before t u d w l) (hstart : l.tree = u) {file : String} (hfile : Path.Plain file)
    (content : String) :
    Working r s before t u d (l.writeSource w file content).2.1 (l.writeSource w file content).2.2 := by
  have haround := Workspace.write_around h.directory h.site h.opened hfile l.now content
  have hw : (l.writeSource w file content).2.1.directory = w.directory ∧
      (l.writeSource w file content).2.1.disposed = w.disposed := by
    unfold Lab.writeSource Workspace.write Workspace.writeWithin
    dsimp only
    split <;> exact ⟨rfl, rfl⟩
  refine { h with directory := hw.1.trans h.directory, live := hw.2.trans h.live, around := ?_ }
  rw [← hstart, ← h.home] at haround
  rw [← hstart]
  exact haround

end Working

/-- Either no workspace is made, or the request is at work in an empty one. -/
theorem createWorkspace_cases (hroot : l.tree.Rooted) (hfresh : r.Fresh s l) :
    (∃ e made, l.createWorkspace s r.first = (.error e, made) ∧ r.Tidy s l made) ∨
    ∃ t d w made, l.createWorkspace s r.first = (.ok w, made) ∧ Working r s l t made.tree d w made ∧
      made.tree.Rooted ∧
      ∀ p, made.tree.view p = t.view p ∨ within (d ++ [r.workspaceName l]) p = true := by
  have hbase : r.workspaceName l ∉ Path.segments s.tempDirectory.toList := fun h =>
    hfresh.base (by rw [Path.names_eq]; exact List.mem_append_left _ h)
  obtain ⟨t, hmade, hunused, ⟨e, he⟩ | ⟨d, hleads, hput⟩⟩ :=
    createDirectories_cases (r.plain_workspaceName l) hroot hfresh.tree hbase l.now l.home
  · have htree : Workspace.create l.tree l.now l.home s.tempDirectory r.first (Lab.uuid l.drawn) =
        (.error (.io ("Failed to create workspace directory " ++ r.workspacePath s l ++ ": " ++ e.message)), t) := by
      unfold Workspace.create
      dsimp only
      rw [← workspaceName, he]
      rfl
    exact .inl ⟨_, _, Lab.createWorkspace_of_create htree, tidy_of_made hmade hunused⟩
  · have htree : Workspace.create l.tree l.now l.home s.tempDirectory r.first (Lab.uuid l.drawn) =
        (.ok { id := Lab.uuid l.drawn, directory := r.workspacePath s l },
          t.put l.now (d ++ [r.workspaceName l]) .directory) := by
      unfold Workspace.create
      dsimp only
      rw [← workspaceName, hput]
      rfl
    have hsite : Workspace.Site t l.home s.tempDirectory (r.workspaceName l) d := ⟨hmade.rooted, hunused, hleads⟩
    refine .inr ⟨t, d, _, _, Lab.createWorkspace_of_create htree, ?_, hsite.rooted_put l.now, hsite.view_put_or l.now⟩
    exact ⟨hmade, hsite, hsite.opened l.now, fun p => (hsite.view_put_or l.now p).imp_right .inl, rfl, rfl, rfl,
      .refl _ _⟩

/-- Compiling purges the shared directory before the work begins. -/
theorem Working.purge (h : Working .compile s before t u d w l) (hstart : l.tree = u) (hroot : u.Rooted)
    (hkept : ∀ p, u.view p = t.view p ∨ within (d ++ [compile.workspaceName before]) p = true) :
    Working .compile s before t (l.purge s).tree d w (l.purge s) := by
  have htree : (l.purge s).tree = (Cleanup.purge u l.now before.home s.tempDirectory).2 := by
    rw [Lab.purge, hstart, h.home]
  have hopened := h.opened.purge hroot l.now before.home s.tempDirectory
  rw [← htree] at hopened
  refine { h with opened := hopened, purged := fun p => ?_, around := .refl _ _ }
  rw [htree, Cleanup.purge]
  by_cases hread : ∃ root, Cleanup.Readable .nothing u before.home s.tempDirectory root
  · obtain ⟨root, hread⟩ := hread
    have hfind := hread.found
    have hbase := (resolve_eq_ok_iff.mp (find_eq_ok_iff.mp hfind)).1
    obtain rfl : root = d := by
      have hd := (h.site.leads.keeps h.opened.ways).find_base hbase
      rw [hfind] at hd
      exact congrArg Prod.fst (Except.ok.inj hd)
    obtain hstays | ⟨hleftover, hgone⟩ := Cleanup.view_purge_cases hroot hread l.now p
    · rw [hstays]
      exact (hkept p).imp_right .inl
    · exact .inr ((hkept p).symm.imp_right fun hview =>
        ⟨hgone, rfl, hbase, hleftover.congr (node?_congr hview).symm⟩)
  · rw [Cleanup.purgeUnless_of_unreadable (not_exists.mp hread)]
    exact (hkept p).imp_right .inl

theorem Working.draw (h : Working r s before t u d w l) : Working r s before t u d w l.draw.2 := { h with }

variable {launch : Launcher}

theorem serve_of_refused {source : String} (h : r.Refused s source) : r.serve launch s source l = l := by
  cases r with
  | compile => exact Lab.compileAndRun_same_iff.mpr h.symm
  | analyze =>
    by_cases hlong : s.maxSourceLength < source.length
    · exact (Lab.analyze_tooLong launch s source l hlong).2.2
    · exact (Lab.analyze_blank launch s source l hlong (h.resolve_left hlong)).2.2

end Request
end SnippetLab
