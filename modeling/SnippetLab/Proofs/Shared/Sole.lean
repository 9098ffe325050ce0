import SnippetLab.Proofs.Shared.Settled
import SnippetLab.Proofs.Workspace.Reclaim

/-!
Steps with nobody in between. Names that are seen and removed one after the other, at one moment, come to what a
whole purge makes of the shared directory, and to what the reclaiming of all old workspaces makes of it.
-/
namespace SnippetLab.Shared

open FileTree

variable {v : Service} {law : Law} {owned : String → Prop} {d : Place} {g t : FileTree} {a : Actor} {now : Int}
  {s s' s'' : State} {es es' : Record}

theorem Run.trans (h : Run v law s es s') (h' : Run v law s' es' s'') : Run v law s (es ++ es') s'' := by
  induction h' with
  | refl =>
    rw [List.append_nil]
    exact h
  | snoc _ lawful step ih =>
    rw [← List.append_assoc]
    exact ih.snoc lawful step

/-- One actor takes all steps. -/
def sole (a : Actor) : Law := fun _ _ b _ => b = a

/-- The actor gets there alone. -/
def Reach (v : Service) (a : Actor) (s s' : State) : Prop := ∃ es, Run v (sole a) s es s'

namespace Reach

theorem refl : Reach v a s s := ⟨[], .refl⟩

theorem trans (h : Reach v a s s') (h' : Reach v a s' s'') : Reach v a s s'' := by
  obtain ⟨es, h⟩ := h
  obtain ⟨es', h'⟩ := h'
  exact ⟨es ++ es', h.trans h'⟩

theorem of_step {x : Deed} (h : Step v a now s x s') : Reach v a s s' := ⟨_, Run.refl.snoc rfl h⟩

end Reach

theorem next_next (stage stage' : Stage) (t t' : FileTree) (time time' : Int) :
    (s.next a stage t time).next a stage' t' time' = s.next a stage' t' time' := by
  rw [State.next, State.next]
  congr 1
  funext b
  dsimp only [State.next]
  split <;> rfl

theorem Reach.of_next {x : Deed} {stage stage' : Stage} {t t' : FileTree} {time : Int}
    (h : Step v a now (s.next a stage t time) x ((s.next a stage t time).next a stage' t' now)) :
    Reach v a (s.next a stage t time) (s.next a stage' t' now) := by
  rw [next_next] at h
  exact .of_step h

section
variable (stage : List String → Stage)

theorem reach_all_seen {names : List String}
    (hsee : ∀ pending, ∀ n ∈ names, ∃ x, Step v a now (s.next a (stage pending) t now) x
      ((s.next a (stage pending) t now).next a (stage (n :: pending)) t now)) :
    Reach v a (s.next a (stage []) t now) (s.next a (stage names) t now) := by
  induction names with
  | nil => exact .refl
  | cons n names ih =>
    -- the last name is seen first, so that the list of all stands in its order at the end
    obtain ⟨x, hstep⟩ := hsee names n List.mem_cons_self
    exact (ih fun pending m hm => hsee pending m (List.mem_cons_of_mem n hm)).trans (.of_next hstep)

theorem Ground.reach_all_removed (remove : FileTree → Place → FileTree) {names : List String}
    (h : Ground v owned d g t) (hbase : Nameable v.base) (hnames : names.Nodup)
    (hoff : ∀ n ∈ names, ∀ p, within (d ++ [n]) p = true → ¬g.OnWay p)
    (hremove : ∀ n ∈ names, ∀ u : FileTree, u.node? (d ++ [n]) = t.node? (d ++ [n]) →
      remove u (d ++ [n]) = u.erase now (d ++ [n]))
    (hstep : ∀ pending (u : FileTree), ∀ n ∈ pending, ∃ x, Step v a now (s.next a (stage pending) u now) x
      ((s.next a (stage pending) u now).next a (stage (pending.erase n))
        (v.inBase u fun root => remove u (root ++ [n])) now)) :
    Reach v a (s.next a (stage names) t now)
      (s.next a (stage []) (names.foldl (fun t n => t.erase now (d ++ [n])) t) now) := by
  induction names generalizing t with
  | nil => exact .refl
  | cons n names ih =>
    have hfirst : v.inBase t (fun root => remove t (root ++ [n])) = t.erase now (d ++ [n]) := by
      rw [Service.inBase, h.reached.find_base hbase]
      exact hremove n List.mem_cons_self t rfl
    obtain ⟨x, hhead⟩ := hstep (n :: names) t n List.mem_cons_self
    rw [hfirst, List.erase_cons_head] at hhead
    have hlocal := local_erase h.rooted now (n := n) h.directory
    have hground := h.of_local (hoff n List.mem_cons_self) hlocal
    refine (Reach.of_next hhead).trans (ih hground hnames.of_cons
      (fun m hm => hoff m (List.mem_cons_of_mem n hm)) fun m hm u hu => ?_)
    refine hremove m (List.mem_cons_of_mem n hm) u (hu.trans (node?_congr (h.view_of_local hlocal ?_)))
    have hne : n ≠ m := fun heq => (List.nodup_cons.mp hnames).1 (heq ▸ hm)
    exact not_within_of_within hne (within_self _)

end

theorem nameable_of_find {root : Place} (h : t.find v.home true v.base = .ok (root, .directory)) : Nameable v.base :=
  (resolve_eq_ok_iff.mp (find_eq_ok_iff.mp h)).1

theorem unlink_of_leftover {u : FileTree} {p : Place} (h : Cleanup.Leftover t d p) (hu : u.node? p = t.node? p)
    (now : Int) : unlink u now p = u.erase now p := by
  have hnode := h.node?_ne
  rw [← hu] at hnode
  unfold unlink
  split
  · next node hsome =>
    refine if_neg fun hdirectory => hnode.2.1 ?_
    rw [hsome]
    cases node <;> simp_all [Node.isDirectory]
  · next hnone => exact absurd hnone hnode.1

/-- The steps of a purge, with nobody in between, are the purge. -/
theorem reach_purge (hroot : t.Rooted) (since : Int) (w : Workspace) :
    Reach v a (s.next a (.serving since w (.purging [])) t now)
      (s.next a (.serving since w .writing) (Cleanup.purge t now v.home v.base).2 now) := by
  let purging (pending : List String) : Stage := .serving since w (.purging pending)
  have hpurged (u : FileTree) : Reach v a (s.next a (purging []) u now) (s.next a (.serving since w .writing) u now) :=
    .of_next (.purged (next_stage_self _ _))
  by_cases hread : ∃ root, Cleanup.Readable .nothing t v.home v.base root
  swap
  · rw [Cleanup.purge, Cleanup.purgeUnless_of_unreadable (not_exists.mp hread)]
    exact hpurged t
  obtain ⟨root, hread⟩ := hread
  have hlisted : t.listDirectory v.home v.base = .ok (root, t.children root) :=
    listDirectory_eq_ok_iff.mpr ⟨hread.found, rfl⟩
  have hground : Ground v (fun _ => False) root t t :=
    ⟨hroot, reaches_of_find hread.found, fun _ hn => hn.elim, .refl t⟩
  obtain ⟨removed, hremoved, heq⟩ := Cleanup.purgeUnless_cases hread now
  -- a name that is listed twice is removed once
  let stale := removed.dedup
  have hleftover {n : String} (hn : n ∈ stale) : Cleanup.Leftover t root (root ++ [n]) :=
    hremoved n (List.mem_dedup.mp hn)
  have hseen : Reach v a (s.next a (purging []) t now) (s.next a (purging stale) t now) :=
    reach_all_seen purging fun _ _ hn =>
      ⟨_, .see (next_stage_self _ _) hlisted (Cleanup.mem_staleNames.mpr (hleftover hn))⟩
  refine hseen.trans (.trans ?_ (hpurged _))
  rw [Cleanup.purge, heq]
  dsimp only
  rw [← eraseAll_dedup]
  refine hground.reach_all_removed purging (unlink · now) (nameable_of_find hread.found) (List.nodup_dedup _)
    (fun n hn p hp hway => ?_) (fun n hn u hu => unlink_of_leftover (hleftover hn) hu now)
    fun _ _ _ hn => ⟨_, .purge (next_stage_self _ _) hn⟩
  have hnode := (hleftover hn).node?_ne
  rw [hroot.eq_of_within hnode.2.1 hp hway.node?_ne_none] at hway
  obtain hway | ⟨target, hway⟩ := hway
  · exact hnode.2.1 hway
  · exact hnode.2.2 target hway

/-- The steps of who reclaims, with nobody in between, are the reclaiming of all old workspaces. -/
theorem Ground.reach_reclaim (h : Ground v (Workspace.isWorkspaceName · = true) d g s.tree)
    (hnamed : s.tree.PlainlyNamed) (hidle : s.stage a = .idle) :
    Reach v a s (s.next a .idle (Workspace.reclaim s.tree now v.home v.base v.maxAge).2 now) := by
  have hprepared : Reach v a s (s.next a (.reclaiming now []) s.tree now) := .of_step (.prepare hidle)
  have hconcluded (u : FileTree) : Reach v a (s.next a (.reclaiming now []) u now) (s.next a .idle u now) :=
    .of_next (.conclude (next_stage_self _ _))
  refine hprepared.trans ?_
  by_cases hread : ∃ root, s.tree.find v.home true v.base = .ok (root, .directory)
  swap
  · rw [Workspace.reclaim_of_unreadable fun root hfind => hread ⟨root, hfind⟩]
    exact hconcluded s.tree
  obtain ⟨root, hfind⟩ := hread
  obtain rfl := h.reached.eq_of_find hfind
  have hways : KeepsWays g (Workspace.reclaim s.tree now v.home v.base v.maxAge).2 :=
    Workspace.reclaim_keepsWays h.rooted hnamed h.reaches h.ways fun n hold p => h.off_way hold.1
  have hkept := h.reaches.keeps hways
  obtain ⟨old, hnodup, hold, heq⟩ := Workspace.reclaim_cases h.rooted hnamed hfind hkept
  have hnode {n : String} (hn : n ∈ old) := ((hold n).mp hn).1.directory
  have hlisted : s.tree.listDirectory v.home v.base = .ok (root, s.tree.children root) :=
    listDirectory_eq_ok_iff.mpr ⟨hfind, rfl⟩
  have hseen : Reach v a (s.next a (.reclaiming now []) s.tree now) (s.next a (.reclaiming now old) s.tree now) :=
    reach_all_seen (.reclaiming now) fun _ n hn => ⟨_, .spot (next_stage_self _ _) hlisted
      (mem_children.mpr (by rw [hnode hn]; nofun)) (Workspace.isAbandoned_iff.mpr ((hold n).mp hn).1)⟩
  refine hseen.trans (.trans ?_ (hconcluded _))
  rw [heq]
  refine h.reach_all_removed (.reclaiming now) (removeDirectory · now) (nameable_of_find hfind) hnodup
    (fun n hn p => h.off_way ((hold n).mp hn).1.1) (fun n hn u hu => ?_)
    fun _ _ _ hn => ⟨_, .reclaim (next_stage_self _ _) hn⟩
  exact if_pos ((isDirectoryAt_iff _ _).mpr (hu.trans (hnode hn)))

/-! ### A whole request -/

/-- Programs do in their working directory what they may do there, and nothing elsewhere. -/
def Contained (launch : Launcher) : Prop :=
  ∀ x : Situation,
    match x.tree.find x.home true x.command.directory with
    | .ok (place, .directory) => Inside place x.tree ((launch x).treeOr x.tree)
    | _ => (launch x).treeOr x.tree = x.tree

def textOf (r : Request) (σ : Settings) (source : String) (l : Lab) : String :=
  match r with
  | .compile =>
    match Lab.accept σ source with
    | .ok u => u.text
    | .error _ => ""
  | .analyze => (SourceUnit.forAnalysis source).wrapped (Lab.moduleName l.now)

structure Brings (v : Service) (a : Actor) (r : Request) (source : String) (l : Lab) : Prop where
  home : v.home = l.home
  kind : v.kind a = r
  id : v.id a = Lab.uuid l.drawn
  number : v.number a = l.drawn + 1
  text : v.text a = textOf r v.settings source l

section
variable {launch : Launcher} {since : Int} {w : Workspace} {l : Lab}

theorem reach_run (hlaunch : Contained launch) (hhome : l.home = v.home) (limits : RunLimits) {command : Command}
    (timeout : Nat) (hdirectory : command.directory = w.directory) :
    Reach v a (s.next a (.serving since w .running) l.tree now)
      (s.next a (.serving since w .running) (l.run launch limits command timeout).2.tree now) := by
  have hcontained := hlaunch (l.situation limits command timeout)
  rw [(Lab.run_same launch limits command timeout l).tree]
  split at hcontained
  · next place hfind =>
    refine .of_next (.run (next_stage_self _ _) (.inl rfl) ?_ hcontained)
    rw [← hdirectory, ← hhome]
    exact hfind
  · dsimp only at hcontained ⊢
    rw [show (launch (l.situation limits command timeout)).treeOr l.tree = l.tree from hcontained]
    exact .refl

theorem reach_left (hhome : l.home = v.home) :
    Reach v a (s.next a (.serving since w .leaving) l.tree now) (s.next a .done (l.dispose w).tree l.now) := by
  rw [Lab.dispose, hhome]
  exact .of_next (.dispose (next_stage_self _ _) rfl)

theorem reach_created {r : Request} {source : String} (hbrings : Brings v a r source l) (hidle : s.stage a = .idle)
    (htree : s.tree = l.tree) :
    (∃ e made, l.createWorkspace v.settings r.first = (.error e, made) ∧ Reach v a s (s.next a .done made.tree l.now)) ∨
    ∃ w made, l.createWorkspace v.settings r.first = (.ok w, made) ∧ made.home = v.home ∧ made.now = l.now ∧
      made.drawn = l.drawn + 1 ∧ Reach v a s (s.next a (.serving l.now w (v.firstPhase a)) made.tree l.now) := by
  have hstep (result : Except Failure Workspace) (tree : FileTree)
      (hresult : Workspace.create l.tree l.now l.home v.base r.first (Lab.uuid l.drawn) = (result, tree)) :
      Workspace.create s.tree l.now v.home v.base (v.kind a).first (v.id a) = (result, tree) := by
    rw [htree, hbrings.home, hbrings.kind, hbrings.id, hresult]
  cases hresult : Workspace.create l.tree l.now l.home v.base r.first (Lab.uuid l.drawn) with
  | mk result tree =>
    have hcreate : l.createWorkspace v.settings r.first = (result, { l with drawn := l.drawn + 1, tree }) :=
      Lab.createWorkspace_of_create hresult
    cases result with
    | error e => exact .inl ⟨e, _, hcreate, .of_step (.giveUp hidle (hstep _ _ hresult))⟩
    | ok w => exact .inr ⟨w, _, hcreate, hbrings.home.symm, rfl, rfl, .of_step (.create hidle (hstep _ _ hresult))⟩

theorem reach_written (hhome : l.home = v.home) (w : Workspace) :
    (∃ e w' l', l.writeSource w (v.sourceName a) (v.text a) = (.error e, w', l') ∧ l'.home = v.home ∧
      Reach v a (s.next a (.serving since w .writing) l.tree now)
        (s.next a (.serving since w' .leaving) l'.tree l.now)) ∨
    ∃ path w' l', l.writeSource w (v.sourceName a) (v.text a) = (.ok path, w', l') ∧ l'.home = v.home ∧
      Reach v a (s.next a (.serving since w .writing) l.tree now)
        (s.next a (.serving since w' .running) l'.tree l.now) := by
  unfold Lab.writeSource
  rw [hhome]
  cases hresult : w.write l.tree l.now v.home (v.sourceName a) (v.text a) with
  | mk result rest =>
    obtain ⟨w', tree⟩ := rest
    cases result with
    | error e => exact .inl ⟨e, w', _, rfl, rfl, .of_next (.miss (next_stage_self _ _) hresult)⟩
    | ok path => exact .inr ⟨path, w', _, rfl, rfl, .of_next (.write (next_stage_self _ _) hresult)⟩

def AtRun (v : Service) (a : Actor) (s : State) (since : Int) (w : Workspace) (l : Lab) : Prop :=
  l.home = v.home ∧ ∃ now, Reach v a s (s.next a (.serving since w .running) l.tree now)

theorem AtRun.run (hlaunch : Contained launch) (h : AtRun v a s since w l) (limits : RunLimits) {command : Command}
    (timeout : Nat) (hdirectory : command.directory = w.directory) :
    AtRun v a s since w (l.run launch limits command timeout).2 := by
  obtain ⟨hhome, now, hreach⟩ := h
  exact ⟨(Lab.run_same launch limits command timeout l).home.trans hhome, now,
    hreach.trans (reach_run hlaunch hhome limits timeout hdirectory)⟩

theorem AtRun.left (h : AtRun v a s since w l) : Reach v a s (s.next a .done (l.dispose w).tree l.now) := by
  obtain ⟨hhome, now, hreach⟩ := h
  have hleave : Reach v a (s.next a (.serving since w .running) l.tree now)
      (s.next a (.serving since w .leaving) l.tree now) :=
    .of_next (.leave (next_stage_self _ _))
  exact hreach.trans (hleave.trans (reach_left hhome))

theorem rooted_created {r : Request} {made : Lab} (hroot : l.tree.Rooted) (hfresh : r.Fresh v.settings l)
    (hcreate : l.createWorkspace v.settings r.first = (.ok w, made)) : made.tree.Rooted := by
  obtain ⟨e, made', herror, -⟩ | ⟨t, d, w', made', hok, -, hrooted, -⟩ := Request.createWorkspace_cases hroot hfresh
  · cases (Prod.mk.inj (hcreate.symm.trans herror)).1
  · rwa [(Prod.mk.inj (hcreate.symm.trans hok)).2]

theorem reach_compile {source : String} {u : SourceUnit} (hbrings : Brings v a .compile source l)
    (hu : Lab.accept v.settings source = .ok u) (hfresh : Request.compile.Fresh v.settings l) (hroot : l.tree.Rooted)
    (hlaunch : Contained launch) (hidle : s.stage a = .idle) (htree : s.tree = l.tree) :
    ∃ s', Reach v a s s' ∧ s'.tree = (l.judgeInWorkspace launch v.settings u).2.tree := by
  have htext : u.text = v.text a := by rw [hbrings.text, textOf, hu]
  unfold Lab.judgeInWorkspace
  obtain ⟨e, made, hcreate, hreach⟩ | ⟨w, made, hcreate, hhome, hnow, hdrawn, hreach⟩ :=
    reach_created hbrings hidle htree
  · rw [Request.first] at hcreate
    rw [hcreate]
    exact ⟨_, hreach, rfl⟩
  · have hrooted := rooted_created hroot hfresh hcreate
    rw [Request.first] at hcreate
    rw [hcreate]
    have hname : Lab.baseName (made.purge v.settings).draw.1 ++ Artifact.sourceExtension = v.sourceName a := by
      rw [Service.sourceName, hbrings.kind, hbrings.number, ← hdrawn]
      rfl
    have hphase : v.firstPhase a = .purging [] := by rw [Service.firstPhase, hbrings.kind]
    have hpurged : Reach v a s (s.next a (.serving l.now w .writing) (made.purge v.settings).draw.2.tree l.now) := by
      have htree : (made.purge v.settings).draw.2.tree = (Cleanup.purge made.tree l.now v.home v.base).2 := by
        rw [← hnow, ← hhome]
        rfl
      rw [hphase] at hreach
      rw [htree]
      exact hreach.trans (reach_purge hrooted l.now w)
    dsimp only
    rw [hname, htext]
    obtain ⟨e, w', l', hwritten, hhome', hwrite⟩ | ⟨path, w', l', hwritten, hhome', hwrite⟩ :=
      reach_written (l := (made.purge v.settings).draw.2) hhome w
    · rw [hwritten]
      exact ⟨_, hpurged.trans (hwrite.trans (reach_left hhome')), rfl⟩
    · rw [hwritten]
      have hbegun : AtRun v a s l.now w' l' := ⟨hhome', _, hpurged.trans hwrite⟩
      have hjudged := Lab.judge_keeps (P := AtRun v a s l.now w')
        (fun _ timeout _ hdirectory h => h.run hlaunch (.ofSettings v.settings) timeout hdirectory)
        (Lab.baseName (made.purge v.settings).draw.1) l.now hbegun
      exact ⟨_, hjudged.left, rfl⟩

theorem reach_analyze {source : String} (hbrings : Brings v a .analyze source l) (hlaunch : Contained launch)
    (hidle : s.stage a = .idle) (htree : s.tree = l.tree) :
    ∃ s', Reach v a s s' ∧
      s'.tree = (l.dumpAst launch v.settings (SourceUnit.forAnalysis source)).2.tree := by
  unfold Lab.dumpAst
  obtain ⟨e, made, hcreate, hreach⟩ | ⟨w, made, hcreate, hhome, hnow, -, hreach⟩ := reach_created hbrings hidle htree
  · rw [Request.first] at hcreate
    rw [hcreate]
    exact ⟨_, hreach, rfl⟩
  · rw [Request.first] at hcreate
    rw [hcreate]
    have hname : Lab.dumpSource = v.sourceName a := by rw [Service.sourceName, hbrings.kind]
    have hphase : v.firstPhase a = .writing := by rw [Service.firstPhase, hbrings.kind]
    have htext : (SourceUnit.forAnalysis source).wrapped (Lab.moduleName made.now) = v.text a := by
      rw [hbrings.text, hnow]
      rfl
    rw [hphase] at hreach
    dsimp only
    rw [htext, hname]
    obtain ⟨e, w', l', hwritten, hhome', hwrite⟩ | ⟨path, w', l', hwritten, hhome', hwrite⟩ := reach_written hhome w
    · rw [hwritten]
      exact ⟨_, hreach.trans (hwrite.trans (reach_left hhome')), rfl⟩
    · rw [hwritten]
      have hbegun : AtRun v a s l.now w' l' := ⟨hhome', _, hreach.trans hwrite⟩
      exact ⟨_, (hbegun.run hlaunch _ _ rfl).left, rfl⟩

/-- A request that is served with nobody in between takes such steps, and leaves the files to them. -/
theorem reach_serve {r : Request} {source : String} (hbrings : Brings v a r source l) (hfresh : r.Fresh v.settings l)
    (hroot : l.tree.Rooted) (hlaunch : Contained launch) (hidle : s.stage a = .idle) (htree : s.tree = l.tree) :
    ∃ s', Reach v a s s' ∧ s'.tree = (r.serve launch v.settings source l).tree := by
  by_cases hrefused : r.Refused v.settings source
  · rw [Request.serve_of_refused hrefused]
    exact ⟨s, .refl, htree⟩
  cases r with
  | compile =>
    cases haccept : Lab.accept v.settings source with
    | error text =>
      rw [Request.serve, Lab.compileAndRun_of_refused haccept]
      exact ⟨s, .refl, htree⟩
    | ok u =>
      rw [Request.serve, Lab.compileAndRun_of_accepted haccept]
      exact reach_compile hbrings haccept hfresh hroot hlaunch hidle htree
  | analyze =>
    obtain ⟨hlong, hblank⟩ := not_or.mp hrefused
    rw [Request.serve, Lab.analyze_of_accepted launch v.settings source l hlong hblank]
    exact reach_analyze hbrings hlaunch hidle htree

end

end SnippetLab.Shared
