import SnippetLab.Proofs.Shared.Ground

/-!
Once there is a workspace. The base leads to one directory, each workspace there holds what the steps of its own
request made of it, and every step keeps to the workspace of its actor or to what concerns no request.
-/
namespace SnippetLab.Shared

open FileTree

variable {v : Service} {owned : String → Prop} {d : Place} {g : FileTree} {a : Actor} {now : Int} {s s' : State}
  {x : Deed} {es : Record}

theorem toList_name (v : Service) (a : Actor) :
    (v.kind a = .compile ∧ (v.name a).toList = 'r' :: ("un_".toList ++ (v.id a).toList)) ∨
    (v.kind a = .analyze ∧ (v.name a).toList = 's' :: ("ession_".toList ++ (v.id a).toList)) := by
  rw [Service.name, String.toList_append]
  cases v.kind a
  · exact .inl ⟨rfl, rfl⟩
  · exact .inr ⟨rfl, rfl⟩

theorem name_ne (v : Service) (a : Actor) {n : String} (hn : n.toList.head? ≠ some 'r' ∧ n.toList.head? ≠ some 's') :
    v.name a ≠ n := by
  rintro rfl
  obtain ⟨-, h⟩ | ⟨-, h⟩ := toList_name v a
  · exact hn.1 (by rw [h]; rfl)
  · exact hn.2 (by rw [h]; rfl)

theorem plain_name (hplain : '/' ∉ (v.id a).toList) : Path.Plain (v.name a) := by
  refine ⟨?_, name_ne v a (by decide), name_ne v a (by decide), name_ne v a (by decide)⟩
  obtain ⟨-, h⟩ | ⟨-, h⟩ := toList_name v a <;> simp [h, hplain]

theorem name_injective (hdistinct : ∀ a b, v.id a = v.id b → a = b) {a b : Actor} (h : v.name a = v.name b) :
    a = b := by
  have hlist := congrArg String.toList h
  refine hdistinct a b (String.toList_inj.mp ?_)
  obtain ⟨-, ha⟩ | ⟨-, ha⟩ := toList_name v a <;> obtain ⟨-, hb⟩ | ⟨-, hb⟩ := toList_name v b
  · rw [ha, hb] at hlist
    exact List.append_cancel_left (List.cons.inj hlist).2
  · simp [ha, hb] at hlist
  · simp [ha, hb] at hlist
  · rw [ha, hb] at hlist
    exact List.append_cancel_left (List.cons.inj hlist).2

theorem plain_sourceName (v : Service) (a : Actor) : Path.Plain (v.sourceName a) := by
  unfold Service.sourceName
  split
  · exact Lab.plain_sourceName _
  · exact Lab.plain_dumpSource

/-! ### What each stage rests on -/

/-- A name that workspaces may have, but no request has it. -/
def Stranger (v : Service) (owned : String → Prop) (n : String) : Prop := owned n ∧ ∀ a, n ≠ v.name a

/-- A name in the shared directory that is neither on the way to it nor that of a workspace. -/
def Expendable (v : Service) (d : Place) (g : FileTree) (n : String) : Prop :=
  ¬g.OnWay (d ++ [n]) ∧ ∀ a, n ≠ v.name a

structure AtWork (v : Service) (d : Place) (g : FileTree) (a : Actor) (w : Workspace) : Prop where
  leads : g.LeadsTo v.home v.base (v.name a) d
  directory : w.directory = v.path a
  live : w.disposed = false

def Phase.Fits (v : Service) (d : Place) (g : FileTree) (c : Content) : Phase → Prop
  | purging pending => c = .emptyDirectory ∧ ∀ n ∈ pending, Expendable v d g n
  | writing => c = .emptyDirectory
  | running | leaving => c.IsProper

def Stage.Fits (v : Service) (owned : String → Prop) (d : Place) (g : FileTree) (a : Actor) (c : Content) : Stage → Prop
  | idle | done => c = .nothing
  | reclaiming _ pending => c = .nothing ∧ ∀ n ∈ pending, Stranger v owned n
  | serving _ w phase => AtWork v d g a w ∧ phase.Fits v d g c

theorem isProper_emptyDirectory : Content.emptyDirectory.IsProper := .inr rfl

theorem Stage.Fits.isProper {stage : Stage} {c : Content} (h : stage.Fits v owned d g a c) : c.IsProper := by
  cases stage with
  | idle => exact .inl h
  | done => exact .inl h
  | reclaiming since pending => exact .inl h.1
  | serving since w phase =>
    cases phase with
    | purging pending => exact h.2.1 ▸ isProper_emptyDirectory
    | writing => exact h.2 ▸ isProper_emptyDirectory
    | running => exact h.2
    | leaving => exact h.2

/-- The base leads to `d`, and each workspace there holds what the steps of its own request made of it. -/
structure Settled (v : Service) (owned : String → Prop) (d : Place) (g : FileTree) (es : Record) (s : State) :
    Prop where
  ground : Ground v owned d g s.tree
  content : ∀ a p, s.tree.view (d ++ [v.name a] ++ p) = contentOf a es p
  placed : ∀ a place, (a, Deed.created place) ∈ es → place = d ++ [v.name a]
  stage : ∀ a, (s.stage a).Fits v owned d g a (contentOf a es)

/-- A step that keeps to the workspace of its actor, or to a name that concerns no request. -/
structure Tame (v : Service) (owned : String → Prop) (d : Place) (g : FileTree) (es : Record) (s : State) (a : Actor)
    (x : Deed) (s' : State) : Prop where
  keeps : ∃ n, (n = v.name a ∨ ∀ b, n ≠ v.name b) ∧ (∀ p, within (d ++ [n]) p = true → ¬g.OnWay p) ∧
    Local (d ++ [n]) s.tree s'.tree
  own : ∀ p, s'.tree.view (d ++ [v.name a] ++ p) = x.apply (contentOf a es) p
  placed : ∀ place, x = .created place → place = d ++ [v.name a]
  stage : (s'.stage a).Fits v owned d g a (x.apply (contentOf a es))
  others : ∀ b, b ≠ a → s'.stage b = s.stage b

/-- What is said of a service: names are plain and differ, and all of them may be names of workspaces. -/
structure Named (v : Service) (owned : String → Prop) : Prop where
  plain : ∀ a, Path.Plain (v.name a)
  distinct : ∀ a b, v.name a = v.name b → a = b
  owned : ∀ a, owned (v.name a)

theorem Named.ne_name (h : Named v owned) {n : String} (hn : n = v.name a ∨ ∀ b, n ≠ v.name b) {b : Actor}
    (hb : b ≠ a) : n ≠ v.name b := by
  obtain rfl | hn := hn
  · exact fun heq => hb (h.distinct b a heq.symm)
  · exact hn b

theorem next_stage_self (stage : Stage) (tree : FileTree) : (s.next a stage tree now).stage a = stage := if_pos rfl

theorem next_stage_of_ne (stage : Stage) (tree : FileTree) {b : Actor} (h : b ≠ a) :
    (s.next a stage tree now).stage b = s.stage b := if_neg h

namespace Settled

section
variable (h : Settled v owned d g es s)
include h

theorem node?_eq (b : Actor) (p : Place) : s.tree.node? (d ++ [v.name b] ++ p) = (contentOf b es p).map (·.1) := by
  rw [node?_eq_view, h.content]

theorem node?_of_nothing (hnothing : contentOf a es = .nothing) {p : Place} (hp : within (d ++ [v.name a]) p = true) :
    s.tree.node? p = none := by
  obtain ⟨rest, rfl⟩ := List.isPrefixOf_iff_prefix.mp hp
  rw [h.node?_eq, hnothing]
  rfl

theorem node?_place (b : Actor) :
    s.tree.node? (d ++ [v.name b]) = none ∨ s.tree.node? (d ++ [v.name b]) = some .directory := by
  have hnode := h.node?_eq b []
  rw [List.append_nil] at hnode
  obtain hc | hc := (h.stage b).isProper
  · exact .inl (by rw [hnode, hc]; rfl)
  · exact .inr (by rw [hnode, hc]; rfl)

theorem node?_of_emptyDirectory (hempty : contentOf a es = .emptyDirectory) :
    s.tree.node? (d ++ [v.name a]) = some .directory := by
  have hnode := h.node?_eq a []
  rw [List.append_nil] at hnode
  rw [hnode, hempty]
  rfl

theorem node?_source (hempty : contentOf a es = .emptyDirectory) :
    s.tree.node? (d ++ [v.name a] ++ [v.sourceName a]) = none := by
  rw [h.node?_eq, hempty]
  rfl

theorem of_tame (hnamed : Named v owned) (htame : Tame v owned d g es s a x s') :
    Settled v owned d g (es ++ [(a, x)]) s' := by
  obtain ⟨n, hn, hoff, hlocal⟩ := htame.keeps
  -- the step is about `n`, and that is the workspace of the actor or of nobody
  refine ⟨h.ground.of_local hoff hlocal, fun b p => ?_, fun b place hmem => ?_, fun b => ?_⟩
  · by_cases hb : b = a
    · rw [hb, contentOf_append_self]
      exact htame.own p
    · rw [h.ground.view_of_local hlocal (not_within_sibling (hnamed.ne_name hn hb) d p), h.content,
        contentOf_append_of_ne b es (Ne.symm hb)]
  · obtain hold | hnew := List.mem_append.mp hmem
    · exact h.placed b place hold
    · obtain ⟨rfl, rfl⟩ := Prod.mk.inj (List.mem_singleton.mp hnew)
      exact htame.placed place rfl
  · by_cases hb : b = a
    · rw [hb, contentOf_append_self]
      exact htame.stage
    · rw [contentOf_append_of_ne b es (Ne.symm hb), htame.others b hb]
      exact h.stage b

/-! Each kind of step keeps to itself -/

theorem tame_look (hnamed : Named v owned) {stage : Stage} (happly : ∀ c, x.apply c = c)
    (hcreated : ∀ place, x ≠ .created place) (hstage : stage.Fits v owned d g a (contentOf a es)) :
    Tame v owned d g es s a x (s.next a stage s.tree now) where
  keeps := ⟨v.name a, .inl rfl, fun _ => h.ground.off_way (hnamed.owned a), .refl h.ground.rooted⟩
  own p := by rw [happly]; exact h.content a p
  placed place hx := absurd hx (hcreated place)
  stage := by rw [happly, next_stage_self]; exact hstage
  others b hb := next_stage_of_ne stage s.tree hb

theorem tame_remove (hnamed : Named v owned) {n : String} {tree : FileTree} {stage : Stage}
    (happly : ∀ c, x.apply c = c) (hcreated : ∀ place, x ≠ .created place)
    (hstage : stage.Fits v owned d g a (contentOf a es)) (hn : ∀ b, n ≠ v.name b)
    (htree : tree = s.tree ∨
      tree = s.tree.erase now (d ++ [n]) ∧ ∀ p, within (d ++ [n]) p = true → ¬g.OnWay p) :
    Tame v owned d g es s a x (s.next a stage tree now) := by
  obtain rfl | ⟨rfl, hoff⟩ := htree
  · exact h.tame_look hnamed happly hcreated hstage
  have hlocal := local_erase h.ground.rooted now (n := n) h.ground.directory
  refine ⟨⟨n, .inr hn, hoff, hlocal⟩, fun p => ?_, fun place hx => absurd hx (hcreated place), ?_,
    fun b hb => next_stage_of_ne stage _ hb⟩
  · rw [happly, ← h.content a p]
    exact h.ground.view_of_local hlocal (not_within_sibling (hn a) d p)
  · rw [happly, next_stage_self]
    exact hstage

/-- Who is seen to be a leftover is expendable. -/
theorem expendable_of_stale {root : Place} {names : List String} {n : String}
    (hlist : s.tree.listDirectory v.home v.base = .ok (root, names))
    (hstale : n ∈ Cleanup.staleNames s.tree root names) : Expendable v d g n := by
  obtain ⟨rfl, rfl⟩ := h.ground.listed hlist
  have hleftover := (Cleanup.mem_staleNames.mp hstale).node?_ne
  refine ⟨fun hway => ?_, fun b hb => ?_⟩
  · have hnode := h.ground.ways.node?_eq hway
    obtain hway | ⟨target, hway⟩ := hway
    · exact hleftover.2.1 (hnode.trans hway)
    · exact hleftover.2.2 target (hnode.trans hway)
  · rw [hb] at hleftover
    obtain hnone | hdirectory := h.node?_place b
    · exact hleftover.1 hnone
    · exact hleftover.2.1 hdirectory

theorem unlink_cases {n : String} (hn : Expendable v d g n) (now : Int) :
    unlink s.tree now (d ++ [n]) = s.tree ∨
      unlink s.tree now (d ++ [n]) = s.tree.erase now (d ++ [n]) ∧
        ∀ p, within (d ++ [n]) p = true → ¬g.OnWay p := by
  unfold unlink
  split
  · next node hnode =>
    split
    · exact .inl rfl
    · next hfile =>
      refine .inr ⟨rfl, fun p hp hway => ?_⟩
      have hdirectory : s.tree.node? (d ++ [n]) ≠ some .directory := by
        rw [hnode]
        rintro ⟨⟩
        exact hfile rfl
      have hsome : s.tree.node? p ≠ none := by
        rw [h.ground.ways.node?_eq hway]
        exact hway.node?_ne_none
      rw [h.ground.rooted.eq_of_within hdirectory hp hsome] at hway
      exact hn.1 hway
  · exact .inl rfl

theorem removeDirectory_cases {n : String} (hn : owned n) (now : Int) :
    removeDirectory s.tree now (d ++ [n]) = s.tree ∨
      removeDirectory s.tree now (d ++ [n]) = s.tree.erase now (d ++ [n]) ∧
        ∀ p, within (d ++ [n]) p = true → ¬g.OnWay p := by
  unfold removeDirectory
  split
  · exact .inr ⟨rfl, fun p => h.ground.off_way hn⟩
  · exact .inl rfl

theorem nothing_of_idle (hidle : s.stage a = .idle) : contentOf a es = .nothing := by
  have hfits := h.stage a
  rwa [hidle] at hfits

theorem tame_made (hnamed : Named v owned) (hnothing : contentOf a es = .nothing)
    (hleads : g.LeadsTo v.home v.base (v.name a) d) {w : Workspace} (hw : w = { id := v.id a, directory := v.path a })
    {tree : FileTree} (htree : tree = s.tree.put now (d ++ [v.name a]) .directory) :
    Tame v owned d g es s a (.created (v.placeOf tree a)) (s.next a (.serving now w (v.firstPhase a)) tree now) := by
  subst hw htree
  have hnone := h.node?_of_nothing hnothing (within_self _)
  have hview := view_put_child h.ground.directory now (v.name a) .directory
  have hlocal := local_make h.ground.rooted now h.ground.directory hnone .directory
  have hground := h.ground.of_local (fun _ => h.ground.off_way (hnamed.owned a)) hlocal
  have hnode : (s.tree.put now (d ++ [v.name a]) .directory).node? (d ++ [v.name a]) = some .directory := by
    rw [node?_eq_view, hview, if_pos rfl]
    rfl
  refine ⟨⟨v.name a, .inl rfl, fun _ => h.ground.off_way (hnamed.owned a), hlocal⟩, fun p => ?_,
    fun place hplace => ?_, ?_, fun b hb => next_stage_of_ne _ _ hb⟩
  · rw [State.next, hview]
    by_cases hp : p = []
    · simp [hp, Deed.apply, Content.emptyDirectory, Node.isDirectory]
    · rw [if_neg (by simpa using hp), h.content, hnothing]
      simp [Deed.apply, Content.emptyDirectory, Content.nothing, hp]
  · obtain rfl := Deed.created.inj hplace
    unfold Service.placeOf Service.path
    rw [(hleads.keeps hground.ways).find_of_directory true hnode]
  · rw [next_stage_self]
    refine ⟨⟨hleads, rfl, rfl⟩, ?_⟩
    unfold Service.firstPhase
    split
    · exact ⟨rfl, fun _ hmem => absurd hmem List.not_mem_nil⟩
    · rfl

theorem tame_create (hnamed : Named v owned) (hidle : s.stage a = .idle) {w : Workspace} {tree : FileTree}
    (hmade : Workspace.create s.tree now v.home v.base (v.kind a).first (v.id a) = (.ok w, tree)) :
    Tame v owned d g es s a (.created (v.placeOf tree a)) (s.next a (.serving now w (v.firstPhase a)) tree now) := by
  have hnothing := h.nothing_of_idle hidle
  have hnone := h.node?_of_nothing hnothing (within_self _)
  obtain ⟨hleads, hput⟩ | ⟨e, he⟩ := h.ground.create_cases (hnamed.plain a) hnone now _ _ rfl
  · obtain ⟨hw, htree⟩ := Prod.mk.inj (hmade.symm.trans hput)
    exact h.tame_made hnamed hnothing hleads (Except.ok.inj hw) htree
  · cases (Prod.mk.inj (he.symm.trans hmade)).1

theorem tame_giveUp (hnamed : Named v owned) (hidle : s.stage a = .idle) {e : Failure} {tree : FileTree}
    (hrefused : Workspace.create s.tree now v.home v.base (v.kind a).first (v.id a) = (.error e, tree)) :
    Tame v owned d g es s a .other (s.next a .done tree now) := by
  have hnothing := h.nothing_of_idle hidle
  have hnone := h.node?_of_nothing hnothing (within_self _)
  obtain ⟨-, hput⟩ | ⟨e, he⟩ := h.ground.create_cases (hnamed.plain a) hnone now _ _ rfl
  · cases (Prod.mk.inj (hput.symm.trans hrefused)).1
  · obtain ⟨-, rfl⟩ := Prod.mk.inj (he.symm.trans hrefused)
    exact h.tame_look hnamed (fun _ => rfl) (fun _ => nofun) hnothing

section
variable {since : Int} {w : Workspace}

theorem fits_serving {phase : Phase} (hstage : s.stage a = .serving since w phase) :
    AtWork v d g a w ∧ phase.Fits v d g (contentOf a es) := by
  have hfits := h.stage a
  rwa [hstage] at hfits

theorem write_cases (hstage : s.stage a = .serving since w .writing) (now : Int) :
    (∃ path, w.write s.tree now v.home (v.sourceName a) (v.text a) = (.ok path, { w with source := some path },
        s.tree.put now (d ++ [v.name a] ++ [v.sourceName a])
          (.file (Text.Utf8.encode (v.text a).toList) defaultMode))) ∨
      ∃ e, w.write s.tree now v.home (v.sourceName a) (v.text a) = (.error e, w, s.tree) := by
  obtain ⟨hwork, hempty⟩ := h.fits_serving hstage
  exact h.ground.write_cases hwork.leads (h.node?_of_emptyDirectory hempty) (plain_sourceName v a)
    (h.node?_source hempty) hwork.directory now (v.text a)

theorem tame_write (hnamed : Named v owned) (hstage : s.stage a = .serving since w .writing) {w' : Workspace}
    {path : String} {tree : FileTree}
    (hwritten : w.write s.tree now v.home (v.sourceName a) (v.text a) = (.ok path, w', tree)) :
    Tame v owned d g es s a (.wrote (v.sourceName a) (Text.Utf8.encode (v.text a).toList) now)
      (s.next a (.serving since w' .running) tree now) := by
  obtain ⟨hwork, hempty⟩ := h.fits_serving hstage
  have hplace := h.node?_of_emptyDirectory hempty
  obtain ⟨path', hput⟩ | ⟨e, he⟩ := h.write_cases hstage now
  · obtain ⟨-, hrest⟩ := Prod.mk.inj (hput.symm.trans hwritten)
    obtain ⟨rfl, rfl⟩ := Prod.mk.inj hrest
    have hleaf : s.tree.node? (d ++ [v.name a] ++ [v.sourceName a]) ≠ some .directory := by
      rw [h.node?_source hempty]
      nofun
    refine ⟨⟨v.name a, .inl rfl, fun _ => h.ground.off_way (hnamed.owned a),
      local_put h.ground.rooted now hplace hleaf _⟩, fun p => ?_, fun _ hplace => (by cases hplace), ?_,
      fun b hb => next_stage_of_ne _ _ hb⟩
    · rw [State.next, view_put_child hplace]
      by_cases hp : p = [v.sourceName a]
      · simp [hp, Deed.apply, Content.withFile, Node.isDirectory]
      · rw [if_neg fun heq => hp (List.append_cancel_left heq), h.content]
        simp [Deed.apply, Content.withFile, hp]
    · rw [next_stage_self]
      exact ⟨⟨hwork.leads, hwork.directory, hwork.live⟩, .inr (by rw [hempty]; rfl)⟩
  · cases (Prod.mk.inj (he.symm.trans hwritten)).1

theorem tame_miss (hnamed : Named v owned) (hstage : s.stage a = .serving since w .writing) {w' : Workspace}
    {e : Failure} {tree : FileTree}
    (hfailed : w.write s.tree now v.home (v.sourceName a) (v.text a) = (.error e, w', tree)) :
    Tame v owned d g es s a .other (s.next a (.serving since w' .leaving) tree now) := by
  obtain ⟨hwork, hempty⟩ := h.fits_serving hstage
  obtain ⟨path', hput⟩ | ⟨e, he⟩ := h.write_cases hstage now
  · cases (Prod.mk.inj (hput.symm.trans hfailed)).1
  · obtain ⟨-, hrest⟩ := Prod.mk.inj (he.symm.trans hfailed)
    obtain ⟨rfl, rfl⟩ := Prod.mk.inj hrest
    exact h.tame_look hnamed (fun _ => rfl) (fun _ => nofun) ⟨hwork, hempty ▸ isProper_emptyDirectory⟩

theorem eq_of_lies (hwork : AtWork v d g a w) {place : Place}
    (hlies : s.tree.find v.home true w.directory = .ok (place, .directory)) :
    place = d ++ [v.name a] ∧ s.tree.node? place = some .directory := by
  have hleads := hwork.leads.keeps h.ground.ways
  rw [hwork.directory, Service.path] at hlies
  obtain hnone | hdirectory := h.node?_place a
  · rw [find, hleads.resolve_of_none true hnone] at hlies
    cases hlies
  · rw [hleads.find_of_directory true hdirectory] at hlies
    cases hlies
    exact ⟨rfl, hdirectory⟩

theorem tame_run (hnamed : Named v owned) {phase : Phase} {place : Place} {tree : FileTree}
    (hstage : s.stage a = .serving since w phase) (hfree : phase = .running ∨ phase = .leaving)
    (hlies : s.tree.find v.home true w.directory = .ok (place, .directory)) (hinside : Inside place s.tree tree) :
    Tame v owned d g es s a (.ran (fun p => tree.view (place ++ p)) (tree.changed? place))
      (s.next a (.serving since w phase) tree now) := by
  obtain ⟨hwork, -⟩ := h.fits_serving hstage
  obtain ⟨rfl, hdirectory⟩ := h.eq_of_lies hwork hlies
  have hproper : Content.IsProper fun p => tree.view (d ++ [v.name a] ++ p) := by
    refine hinside.inside.symm.imp (fun hgone => funext fun p => ?_) fun hkept => ?_
    · exact view_eq_none_iff.mpr (hgone _ (within_append _ p))
    · dsimp only
      rw [List.append_nil, FileTree.view, hkept, hdirectory]
      rfl
  refine ⟨⟨v.name a, .inl rfl, fun _ => h.ground.off_way (hnamed.owned a), hinside.toLocal⟩, fun p => rfl,
    fun _ hplace => (by cases hplace), ?_, fun b hb => next_stage_of_ne _ _ hb⟩
  rw [next_stage_self]
  obtain rfl | rfl := hfree
  · exact ⟨hwork, hproper⟩
  · exact ⟨hwork, hproper⟩

theorem tame_dispose (hnamed : Named v owned) (hstage : s.stage a = .serving since w .leaving) {w' : Workspace}
    {tree : FileTree} (hremoved : w.dispose s.tree now v.home = (w', tree)) :
    Tame v owned d g es s a .disposed (s.next a .done tree now) := by
  obtain ⟨hwork, -⟩ := h.fits_serving hstage
  have htree : (w.dispose s.tree now v.home).2 = tree := by rw [hremoved]
  have hcases := h.ground.dispose_cases (hnamed.owned a) hwork.leads hwork.directory hwork.live now
  have hdone : ∀ tree : FileTree, Local (d ++ [v.name a]) s.tree tree →
      (∀ p, within (d ++ [v.name a]) p = true → tree.node? p = none) →
      Tame v owned d g es s a .disposed (s.next a .done tree now) := by
    intro tree hlocal hgone
    refine ⟨⟨v.name a, .inl rfl, fun _ => h.ground.off_way (hnamed.owned a), hlocal⟩, fun p => ?_,
      fun _ hplace => (by cases hplace), ?_, fun b hb => next_stage_of_ne _ _ hb⟩
    · exact view_eq_none_iff.mpr (hgone _ (within_append _ p))
    · rw [next_stage_self]
      rfl
  -- a program may have removed the directory before
  obtain hnone | hdirectory := h.node?_place a
  · rw [← htree, hcases.2 hnone]
    refine hdone s.tree (.refl h.ground.rooted) fun p hp => ?_
    by_contra hsome
    have heq := h.ground.rooted.eq_of_within (by rw [hnone]; nofun) hp hsome
    exact hsome (heq ▸ hnone)
  · rw [← htree, hcases.1 hdirectory]
    refine hdone _ (local_erase h.ground.rooted now h.ground.directory) fun p hp => ?_
    rw [node?_erase_child h.ground.directory, if_pos hp]

end

/-- Every step keeps to itself, if only strangers are taken for old workspaces. -/
theorem tame_of_step (hnamed : Named v owned) (hstep : Step v a now s x s')
    (hspot : ∀ n, x = .spotted n → Stranger v owned n) : Tame v owned d g es s a x s' := by
  have hfits := h.stage a
  cases hstep with
  | prepare stage =>
    rw [stage] at hfits
    exact h.tame_look hnamed (fun _ => rfl) (fun _ => nofun) ⟨hfits, fun _ hmem => nomatch hmem⟩
  | spot stage listed mem abandoned =>
    rw [stage] at hfits
    exact h.tame_look hnamed (fun _ => rfl) (fun _ => nofun)
      ⟨hfits.1, List.forall_mem_cons.mpr ⟨hspot _ rfl, hfits.2⟩⟩
  | @reclaim since pending n stage mem =>
    rw [stage] at hfits
    have hn := hfits.2 n mem
    refine h.tame_remove hnamed (n := n) (fun _ => rfl) (fun _ => nofun)
      ⟨hfits.1, fun m hm => hfits.2 m (List.mem_of_mem_erase hm)⟩ hn.2 ?_
    obtain hbase | hbase := h.ground.inBase_cases fun root => removeDirectory s.tree now (root ++ [n])
    · rw [hbase]
      exact h.removeDirectory_cases hn.1 now
    · exact .inl hbase
  | conclude stage =>
    rw [stage] at hfits
    exact h.tame_look hnamed (fun _ => rfl) (fun _ => nofun) hfits.1
  | create stage made => exact h.tame_create hnamed stage made
  | giveUp stage refused => exact h.tame_giveUp hnamed stage refused
  | see stage listed stale =>
    rw [stage] at hfits
    exact h.tame_look hnamed (fun _ => rfl) (fun _ => nofun)
      ⟨hfits.1, hfits.2.1, List.forall_mem_cons.mpr ⟨h.expendable_of_stale listed stale, hfits.2.2⟩⟩
  | @purge since w pending n stage mem =>
    rw [stage] at hfits
    have hn := hfits.2.2 n mem
    refine h.tame_remove hnamed (n := n) (fun _ => rfl) (fun _ => nofun)
      ⟨hfits.1, hfits.2.1, fun m hm => hfits.2.2 m (List.mem_of_mem_erase hm)⟩ hn.2 ?_
    obtain hbase | hbase := h.ground.inBase_cases fun root => unlink s.tree now (root ++ [n])
    · rw [hbase]
      exact h.unlink_cases hn now
    · exact .inl hbase
  | purged stage =>
    rw [stage] at hfits
    exact h.tame_look hnamed (fun _ => rfl) (fun _ => nofun) ⟨hfits.1, hfits.2.1⟩
  | write stage written => exact h.tame_write hnamed stage written
  | miss stage failed => exact h.tame_miss hnamed stage failed
  | run stage free lies inside => exact h.tame_run hnamed stage free lies inside
  | locate stage kind =>
    rw [stage] at hfits
    exact h.tame_look hnamed (fun _ => rfl) (fun _ => nofun) hfits
  | leave stage =>
    rw [stage] at hfits
    exact h.tame_look hnamed (fun _ => rfl) (fun _ => nofun) hfits
  | dispose stage removed => exact h.tame_dispose hnamed stage removed

end

end Settled

end SnippetLab.Shared
