import SnippetLab.Lab.Service
import SnippetLab.Proofs.Shared.Isolation

/-!
Reclaiming next to requests at work. A workspace is as old as its directory looks, which is no older than the request;
so it is left alone as long as a request takes less time than it takes a workspace to be taken for an old one. The
settings may grant its programs more than that.
-/
namespace SnippetLab.Shared

open FileTree

variable {v : Service} {d : Place} {g tree : FileTree} {a : Actor} {now clock : Int} {s s' : State} {x : Deed}
  {es : Record} {slack : Nat}

/-- What the settings grant the programs of a request. A compiler that meets its timeout may keep its output open
for the grace; only then is there something to run, with a timeout of its own. -/
def programTime (σ : Settings) : Request → Nat
  | .compile =>
    σ.compilationTimeoutMs + σ.drainGraceMs + σ.executionTimeoutMs + max σ.killGraceMs σ.drainGraceMs
  | .analyze => σ.compilationTimeoutMs + max σ.killGraceMs σ.drainGraceMs

/-- The clock does not go back, all programs respect their timeouts and graces, the rest of a request takes no longer
than `slack`, and no program dates the directory of its workspace before the request. -/
structure Timely (v : Service) (slack : Nat) (s : State) (now : Int) (a : Actor) (x : Deed) : Prop where
  clock : s.clock ≤ now
  short : ∀ b since w phase, s.stage b = .serving since w phase →
    now ≤ since + programTime v.settings (v.kind b) + slack
  dated : ∀ after time, x = .ran after (some time) → ∀ since w phase, s.stage a = .serving since w phase → since ≤ time

/-! ### Times -/

def Stage.since? : Stage → Option Int
  | reclaiming since _ | serving since _ _ => some since
  | idle | done => none

def Clocked (s : State) : Prop := ∀ a, ∀ since ∈ (s.stage a).since?, since ≤ s.clock

theorem clocked_next (h : Clocked s) (hnow : s.clock ≤ now) {stage : Stage}
    (hstage : stage.since? = (s.stage a).since? ∨ ∀ since ∈ stage.since?, since = now) :
    Clocked (s.next a stage tree now) := by
  intro b since hsince
  by_cases hb : b = a
  · rw [hb, next_stage_self] at hsince
    obtain hsame | hnew := hstage
    · exact Int.le_trans (h a since (hsame ▸ hsince)) hnow
    · exact Int.le_of_eq (hnew since hsince)
  · rw [next_stage_of_ne _ _ hb] at hsince
    exact Int.le_trans (h b since hsince) hnow

theorem Clocked.step (h : Clocked s) (hnow : s.clock ≤ now) (hstep : Step v a now s x s') : Clocked s' := by
  cases hstep with
  | prepare stage => exact clocked_next h hnow (.inr fun since hsince => (Option.mem_some_iff.mp hsince).symm)
  | create stage made => exact clocked_next h hnow (.inr fun since hsince => (Option.mem_some_iff.mp hsince).symm)
  | conclude stage | giveUp stage | dispose stage => exact clocked_next h hnow (.inr fun _ => nofun)
  | spot stage | reclaim stage | see stage | purge stage | purged stage | write stage | miss stage | run stage
    | locate stage | leave stage => exact clocked_next h hnow (.inl (by simp only [stage, Stage.since?]))

/-- No workspace at work looks older than its request. -/
def Dated (v : Service) (d : Place) (s : State) : Prop :=
  ∀ a since w phase, s.stage a = .serving since w phase →
    ∀ time, s.tree.changed? (d ++ [v.name a]) = some time → since ≤ time

theorem Dated.of_tame {owned : String → Prop} (h : Dated v d s) (hnamed : Named v owned)
    (htame : Tame v owned d g es s a x s')
    (hown : ∀ since w phase, s'.stage a = .serving since w phase →
      ∀ time, s'.tree.changed? (d ++ [v.name a]) = some time → since ≤ time) : Dated v d s' := by
  intro b since w phase hstage time htime
  by_cases hb : b = a
  · subst hb
    exact hown since w phase hstage time htime
  · obtain ⟨n, hn, -, hlocal⟩ := htame.keeps
    have hout := not_within_of_within (hnamed.ne_name hn hb) (within_self (d ++ [v.name b]))
    rw [changed?, hlocal.outside _ hout (by simp), ← changed?] at htime
    rw [htame.others b hb] at hstage
    exact h b since w phase hstage time htime

namespace Settled

variable {owned : String → Prop}

section
variable (h : Settled v owned d g es s)
include h

theorem changed?_unlink {n : String} (hn : Expendable v d g n) (a : Actor) (now : Int) :
    (unlink s.tree now (d ++ [n])).changed? (d ++ [v.name a]) = s.tree.changed? (d ++ [v.name a]) := by
  obtain hsame | ⟨herase, -⟩ := h.unlink_cases hn now
  · rw [hsame]
  · have hout := not_within_of_within (hn.2 a) (within_self (d ++ [v.name a]))
    rw [herase, changed?, entry?_erase _ now _ (by simp), if_neg (by simp [hout]), changed?]

theorem own_dated (hnamed : Named v owned) (hclocked : Clocked s) (hdated : Dated v d s)
    (htimely : Timely v slack s now a x) (hstep : Step v a now s x s') {since : Int} {w : Workspace} {phase : Phase}
    (hserving : s'.stage a = .serving since w phase) {time : Int}
    (htime : s'.tree.changed? (d ++ [v.name a]) = some time) : since ≤ time := by
  have hfits := h.stage a
  cases hstep with
  | prepare | spot | reclaim | conclude | giveUp | dispose =>
    rw [next_stage_self] at hserving
    cases hserving
  | create stage made =>
    rw [next_stage_self] at hserving
    cases hserving
    have hnone := h.node?_of_nothing (h.nothing_of_idle stage) (within_self _)
    obtain ⟨-, hput⟩ | ⟨e, he⟩ := h.ground.create_cases (hnamed.plain a) hnone now _ _ rfl
    · obtain ⟨-, htree⟩ := Prod.mk.inj (made.symm.trans hput)
      rw [State.next, htree, changed?_put_self _ _ (by simp)] at htime
      cases htime
      exact Int.le_refl _
    · cases (Prod.mk.inj (he.symm.trans made)).1
  | see stage | purged stage | locate stage | leave stage =>
    rw [next_stage_self] at hserving
    cases hserving
    exact hdated a _ _ _ stage time htime
  | @purge since w pending n stage mem =>
    rw [next_stage_self] at hserving
    cases hserving
    rw [stage] at hfits
    refine hdated a _ _ _ stage time ?_
    rw [← htime, State.next]
    obtain hbase | hbase := h.ground.inBase_cases fun root => unlink s.tree now (root ++ [n])
    · rw [hbase]
      exact (h.changed?_unlink (hfits.2.2 n mem) a now).symm
    · rw [hbase]
  | write stage written =>
    rw [next_stage_self] at hserving
    cases hserving
    obtain ⟨path, hput⟩ | ⟨e, he⟩ := h.write_cases stage now
    · obtain ⟨-, hrest⟩ := Prod.mk.inj (written.symm.trans hput)
      rw [State.next, (Prod.mk.inj hrest).2] at htime
      have hchanged := changed?_put_dropLast (t := s.tree) (p := d ++ [v.name a] ++ [v.sourceName a]) (by simp) now
        (.file (Text.Utf8.encode (v.text a).toList) defaultMode)
      rw [List.dropLast_concat] at hchanged
      -- a file that is put anew makes the directory look younger
      obtain hsame | hnow := hchanged
      · exact hdated a _ _ _ stage time (hsame.symm.trans htime)
      · obtain rfl := Option.some.inj (hnow.symm.trans htime)
        exact Int.le_trans (hclocked a since (by rw [stage]; rfl)) htimely.clock
    · cases (Prod.mk.inj (he.symm.trans written)).1
  | miss stage failed =>
    rw [next_stage_self] at hserving
    cases hserving
    obtain ⟨path, hput⟩ | ⟨e, he⟩ := h.write_cases stage now
    · cases (Prod.mk.inj (hput.symm.trans failed)).1
    · obtain ⟨-, hrest⟩ := Prod.mk.inj (failed.symm.trans he)
      rw [State.next, (Prod.mk.inj hrest).2] at htime
      exact hdated a _ _ _ stage time htime
  | run stage free lies inside =>
    rw [next_stage_self] at hserving
    cases hserving
    obtain ⟨rfl, -⟩ := h.eq_of_lies (h.fits_serving stage).1 lies
    rw [State.next] at htime
    exact htimely.dated _ time (by rw [htime]) _ _ _ stage

end

/-- Whatever is found old enough to be reclaimed is not at work, if work takes less time than that. -/
theorem stranger_of_spotted (h : Settled v (Workspace.isWorkspaceName · = true) d g es s) (hclocked : Clocked s)
    (hdated : Dated v d s) (htimely : Timely v slack s now a x)
    (hshort : ∀ r, programTime v.settings r + slack < v.maxAge) (hstep : Step v a now s x s') {n : String} (hx : x = .spotted n) :
    Stranger v (Workspace.isWorkspaceName · = true) n := by
  subst hx
  cases hstep with
  | @spot since pending names root _ stage listed mem abandoned =>
    obtain ⟨rfl, -⟩ := h.ground.listed listed
    rw [Workspace.isAbandoned, Bool.and_eq_true, Bool.and_eq_true, isDirectoryAt_iff] at abandoned
    obtain ⟨⟨hname, hdirectory⟩, hold⟩ := abandoned
    refine ⟨hname, fun b hb => ?_⟩
    subst hb
    obtain ⟨time, htime, hage⟩ := (Option.any_eq_true _ _).mp hold
    rw [Bool.and_eq_true, decide_eq_true_eq, decide_eq_true_eq] at hage
    have hfits := h.stage b
    have hmade : contentOf b es ≠ .nothing := fun hnothing => by
      rw [h.node?_of_nothing hnothing (within_self _)] at hdirectory
      cases hdirectory
    cases hstage : s.stage b with
    | idle | done =>
      rw [hstage] at hfits
      exact hmade hfits
    | reclaiming since' pending' =>
      rw [hstage] at hfits
      exact hmade hfits.1
    | serving since' w phase =>
      have hyoung := hdated b since' w phase hstage time htime
      have hended := htimely.short b since' w phase hstage
      have hbegan : since ≤ s.clock := hclocked a since (by rw [stage]; rfl)
      have hclock := htimely.clock
      have hlimit := hshort (v.kind b)
      -- who spotted it looked at the clock when it began, which is over as well
      omega

end Settled

/-! ### Runs -/

/-- Nothing is called like a workspace yet, or the base leads to a directory without any of them. -/
def Service.Laid (v : Service) (tree : FileTree) : Prop :=
  (∀ n, Workspace.isWorkspaceName n = true → n ∉ Path.names v.base ∧ tree.Unused n) ∨
    ∃ d g, Ground v (Workspace.isWorkspaceName · = true) d g tree

theorem isWorkspaceName_name (v : Service) (a : Actor) : Workspace.isWorkspaceName (v.name a) = true := by
  rw [Workspace.isWorkspaceName, Bool.or_eq_true, Text.startsWith, Text.startsWith, List.isPrefixOf_iff_prefix,
    List.isPrefixOf_iff_prefix, Service.name, String.toList_append]
  cases v.kind a with
  | compile => exact .inl (List.prefix_append _ _)
  | analyze => exact .inr (List.prefix_append _ _)

theorem Untouched.not_spotted (h : Untouched v (Workspace.isWorkspaceName · = true) es s) (hstep : Step v a now s x s')
    {n : String} : x ≠ .spotted n := by
  rintro rfl
  cases hstep with
  | @spot since pending names root _ stage listed mem abandoned =>
    rw [Workspace.isAbandoned, Bool.and_eq_true, Bool.and_eq_true, isDirectoryAt_iff] at abandoned
    obtain ⟨⟨hname, hdirectory⟩, -⟩ := abandoned
    rw [h.unused n hname _ (by simp)] at hdirectory
    cases hdirectory

/-- Nothing was made yet, or all that was made holds what its own steps made of it and looks as young as it is. -/
structure Spared (v : Service) (es : Record) (s : State) : Prop where
  clocked : Clocked s
  isolated : (Untouched v (Workspace.isWorkspaceName · = true) es s ∧
      ∀ n, Workspace.isWorkspaceName n = true → n ∉ Path.names v.base) ∨
    ∃ d g, Settled v (Workspace.isWorkspaceName · = true) d g es s ∧ Dated v d s

namespace Spared

theorem content (h : Spared v es s) {place : Place} (hmem : (a, Deed.created place) ∈ es) (p : Place) :
    s.tree.view (place ++ p) = contentOf a es p :=
  Isolated.content (h.isolated.imp And.left fun ⟨d, g, h, _⟩ => ⟨d, g, h⟩) hmem p

theorem ready (hfresh : v.Fresh tree) (hlaid : v.Laid tree) (clock : Int) : Spared v [] (.ready tree clock) where
  clocked _ _ := nofun
  isolated := by
    obtain hunused | ⟨d, g, hground⟩ := hlaid
    · exact .inl ⟨untouched_ready hfresh.rooted (fun n hn => (hunused n hn).2) clock, fun n hn => (hunused n hn).1⟩
    · refine .inr ⟨d, g, ⟨hground, fun b p => ?_, fun _ _ => nofun, fun _ => rfl⟩, fun _ _ _ _ => nofun⟩
      exact view_eq_none_iff.mpr (hfresh.unused b _ (by simp))

theorem step (h : Spared v es s) (hnamed : Named v (Workspace.isWorkspaceName · = true))
    (hshort : ∀ r, programTime v.settings r + slack < v.maxAge) (htimely : Timely v slack s now a x)
    (hstep : Step v a now s x s') : Spared v (es ++ [(a, x)]) s' := by
  refine ⟨h.clocked.step htimely.clock hstep, ?_⟩
  obtain ⟨huntouched, hbase⟩ | ⟨d, g, hsettled, hdated⟩ := h.isolated
  · have hspot (n : String) (hx : x = .spotted n) : Stranger v (Workspace.isWorkspaceName · = true) n :=
      absurd hx (huntouched.not_spotted hstep)
    obtain hafter | ⟨d, u, hsettled, htame, hyoung⟩ := huntouched.step hnamed hbase hstep hspot
    · exact .inl ⟨hafter, hbase⟩
    · have hdated : Dated v d { s with tree := u } := fun _ _ _ _ hserving => absurd hserving huntouched.not_serving
      refine .inr ⟨d, u, hsettled.of_tame hnamed htame, hdated.of_tame hnamed htame ?_⟩
      intro since w phase hserving time htime
      exact Int.le_of_eq (Option.some.inj ((hyoung since w phase hserving).symm.trans htime))
  · have hspot (n : String) := hsettled.stranger_of_spotted h.clocked hdated htimely hshort hstep (n := n)
    have htame := hsettled.tame_of_step hnamed hstep hspot
    refine .inr ⟨d, g, hsettled.of_tame hnamed htame, hdated.of_tame hnamed htame ?_⟩
    intro since w phase hserving time
    exact hsettled.own_dated hnamed h.clocked hdated htimely hstep hserving

theorem of_run (hfresh : v.Fresh tree) (hlaid : v.Laid tree)
    (hshort : ∀ r, programTime v.settings r + slack < v.maxAge)
    (hrun : Run v (Timely v slack) (.ready tree clock) es s) : Spared v es s := by
  have hnamed : Named v (Workspace.isWorkspaceName · = true) := named_of_fresh hfresh (isWorkspaceName_name v)
  induction hrun with
  | refl => exact ready hfresh hlaid clock
  | snoc run lawful step ih => exact ih.step hnamed hshort lawful step

end Spared

/-! ### When requests take too long -/

def alike (σ : Settings) (r : Request) : Service where
  settings := { σ with tempDirectory := "/t" }
  home := []
  kind _ := r
  id a := String.ofList (List.replicate a 'x')
  number _ := 0
  text _ := ""

def emptyBase : FileTree := ⟨[(["t"], .directory, 0)]⟩

section
variable (σ : Settings) (r : Request)

theorem names_base_alike : Path.names (alike σ r).base = ["t"] := by
  change Path.names "/t" = ["t"]
  decide

theorem fresh_alike : (alike σ r).Fresh emptyBase where
  rooted := rooted_of_entries (by decide)
  plain a := by simp [alike]
  distinct a b h := by simpa [alike] using congrArg String.length h
  unused a := unused_of_entries (by simp [emptyBase, name_ne (alike σ r) a (n := "t") (by decide)])
  base a := by simp [names_base_alike, name_ne (alike σ r) a (n := "t") (by decide)]

theorem laid_alike : (alike σ r).Laid emptyBase := by
  refine .inl fun n hn => ?_
  have hne : n ≠ "t" := by
    rintro rfl
    revert hn
    decide
  exact ⟨by simp [names_base_alike, hne], unused_of_entries (by simp [emptyBase, hne])⟩

theorem programTime_alike : programTime (alike σ r).settings r = programTime σ r := by cases r <;> rfl

end

section
variable {σ : Settings} {r : Request}

/-- All that are being served began at once. -/
def Early (s : State) : Prop := ∀ b since w phase, s.stage b = .serving since w phase → since = 0

theorem Early.next (h : Early s) {stage : Stage}
    (hstage : ∀ since w phase, stage = .serving since w phase → since = 0) : Early (s.next a stage tree now) := by
  intro b since w phase hserving
  by_cases hb : b = a
  · rw [hb, next_stage_self] at hserving
    exact hstage since w phase hserving
  · rw [next_stage_of_ne _ _ hb] at hserving
    exact h b since w phase hserving

theorem Early.timely (h : Early s) (hclock : s.clock ≤ now) (hnow : now ≤ programTime σ r + slack)
    (hx : ∀ after time, x ≠ .ran after time) : Timely (alike σ r) slack s now a x where
  clock := hclock
  short b since w phase hserving := by
    have hkind : (alike σ r).kind b = r := rfl
    rw [h b since w phase hserving, hkind, programTime_alike]
    omega
  dated after time hran := absurd hran (hx after time)

structure Begun (r : Request) (t : FileTree) (w : Workspace) (phase : Phase) (es : Record) (s : State) : Prop where
  clock : s.clock = 0
  made : (0, Deed.created ["t", r.first]) ∈ es
  content : contentOf 0 es [] = some (.directory, none)
  tree : s.tree = t
  serving : s.stage 0 = .serving 0 w phase
  idle : ∀ b, b ≠ 0 → s.stage b = .idle

namespace Begun

variable {t : FileTree} {w : Workspace} {phase : Phase}

theorem early (h : Begun r t w phase es s) : Early s := by
  intro b since w' phase' hserving
  by_cases hb : b = 0
  · rw [hb, h.serving] at hserving
    cases hserving
    rfl
  · rw [h.idle b hb] at hserving
    cases hserving

theorem snoc (h : Begun r t w phase es s) (hrun : Run (alike σ r) (Timely (alike σ r) slack) (.ready emptyBase 0) es s)
    {t' : FileTree} {w' : Workspace} {phase' : Phase} (hx : ∀ after time, x ≠ .ran after time)
    (hsame : ∀ c : Content, x.apply c [] = c [])
    (hstep : Step (alike σ r) 0 0 s x (s.next 0 (.serving 0 w' phase') t' 0)) :
    ∃ es s, Run (alike σ r) (Timely (alike σ r) slack) (.ready emptyBase 0) es s ∧ Begun r t' w' phase' es s := by
  refine ⟨_, _, hrun.snoc (h.early.timely (Int.le_of_eq h.clock) (by omega) hx) hstep, rfl,
    List.mem_append_left _ h.made, ?_, rfl, next_stage_self _ _, fun b hb => ?_⟩
  · rw [contentOf_append_self, hsame, h.content]
  · rw [next_stage_of_ne _ _ hb, h.idle b hb]

end Begun

def busyTree (r : Request) : FileTree :=
  ⟨[(["t"], .directory, 0), (["t", r.first], .directory, 0),
    (["t", r.first, (alike {} r).sourceName 0], .file [] defaultMode, 0)]⟩

theorem exists_busy (σ : Settings) (slack : Nat) (r : Request) :
    ∃ w es s, Run (alike σ r) (Timely (alike σ r) slack) (.ready emptyBase 0) es s ∧
      Begun r (busyTree r) w .running es s := by
  let first : FileTree := ⟨[(["t"], .directory, 0), (["t", r.first], .directory, 0)]⟩
  let w : Workspace := { id := (alike {} r).id 0, directory := (alike {} r).path 0 }
  let path := Path.join w.directory ((alike {} r).sourceName 0)
  have hmade : Workspace.create emptyBase 0 [] "/t" r.first ((alike {} r).id 0) = (.ok w, first) := by
    cases r <;> decide +kernel
  have hplace : (alike {} r).placeOf first 0 = ["t", r.first] := by
    cases r <;> decide +kernel
  have hwritten : w.write first 0 [] ((alike {} r).sourceName 0) "" =
      (.ok path, { w with source := some path }, busyTree r) := by
    cases r <;> decide +kernel
  have hready : Early (.ready emptyBase 0) := by
    intro b since w' phase hserving
    cases hserving
  let created := (State.ready emptyBase 0).next 0 (.serving 0 w ((alike σ r).firstPhase 0)) first 0
  have hcreated : Step (alike σ r) 0 0 (.ready emptyBase 0) (.created ["t", r.first]) created :=
    hplace ▸ .create rfl hmade
  have htimely : Timely (alike σ r) slack (.ready emptyBase 0) 0 0 (.created ["t", r.first]) :=
    hready.timely (Int.le_refl 0) (by omega) fun _ _ => nofun
  have hrun := Run.refl.snoc htimely hcreated
  have hbegun : Begun r first w ((alike σ r).firstPhase 0) [(0, .created ["t", r.first])] created :=
    ⟨rfl, List.mem_singleton_self _, rfl, rfl, next_stage_self _ _, fun b hb => next_stage_of_ne _ _ hb⟩
  obtain ⟨es, s, hrun, hbegun⟩ : ∃ es s, Run (alike σ r) (Timely (alike σ r) slack) (.ready emptyBase 0) es s ∧
      Begun r first w .writing es s := by
    cases r with
    | compile => exact hbegun.snoc hrun (by nofun) (fun _ => rfl) (.purged hbegun.serving)
    | analyze => exact ⟨_, _, hrun, hbegun⟩
  obtain ⟨es, s, hrun, hbegun⟩ :=
    hbegun.snoc hrun (by nofun) (fun _ => rfl) (.write hbegun.serving (hbegun.tree ▸ hwritten))
  exact ⟨_, es, s, hrun, hbegun⟩

theorem isAbandoned_busyTree (r : Request) {late maxAge : Nat} (h : maxAge ≤ late) :
    Workspace.isAbandoned (busyTree r) late maxAge ["t"] r.first = true := by
  have hdirectory : (Workspace.isWorkspaceName r.first && (busyTree r).isDirectoryAt ["t", r.first]) = true := by
    cases r <;> decide +kernel
  have hchanged : (busyTree r).changed? ["t", r.first] = some 0 := by
    cases r <;> decide +kernel
  unfold Workspace.isAbandoned
  rw [List.singleton_append, hdirectory, hchanged, Bool.true_and, Option.any_some, Bool.and_eq_true,
    decide_eq_true_eq, decide_eq_true_eq]
  omega

theorem node?_removed (r : Request) (late : Nat) :
    ((alike σ r).inBase (busyTree r) fun root => removeDirectory (busyTree r) late (root ++ [r.first])).node?
      ["t", r.first] = none := by
  have hbase : (busyTree r).find [] true "/t" = .ok (["t"], .directory) := by
    cases r <;> decide +kernel
  have hdirectory : (busyTree r).isDirectoryAt ["t", r.first] = true := by
    cases r <;> decide +kernel
  have hparent : (busyTree r).node? ["t"] = some .directory := by
    cases r <;> decide +kernel
  have hremoved : ((alike σ r).inBase (busyTree r) fun root => removeDirectory (busyTree r) late (root ++ [r.first])) =
      (busyTree r).erase late (["t"] ++ [r.first]) := by
    unfold Service.inBase
    rw [show (busyTree r).find (alike σ r).home true (alike σ r).base = _ from hbase]
    exact if_pos hdirectory
  rw [hremoved, node?_erase_child hparent]
  exact if_pos (within_self _)

/-- Who reclaims while the program is at work, but late enough, removes the workspace under it. -/
theorem exists_reclaimed (σ : Settings) (slack : Nat) (r : Request) (late : Nat)
    (hold : σ.staleWorkspaceAgeSecs * 1000 ≤ late) (hlate : late ≤ programTime σ r + slack) :
    ∃ es s, Run (alike σ r) (Timely (alike σ r) slack) (.ready emptyBase 0) es s ∧
      (0, Deed.created ["t", r.first]) ∈ es ∧ contentOf 0 es [] = some (.directory, none) ∧
      (∃ w, s.stage 0 = .serving 0 w .running) ∧ s.tree.node? ["t", r.first] = none := by
  obtain ⟨w, es, s, hrun, hbegun⟩ := exists_busy σ slack r
  have hidle : s.stage 1 = .idle := hbegun.idle 1 (by decide)
  have hlisted : s.tree.listDirectory [] "/t" = .ok (["t"], [r.first]) := by
    rw [hbegun.tree]
    cases r <;> decide +kernel
  have habandoned : Workspace.isAbandoned s.tree late (alike σ r).maxAge ["t"] r.first = true := by
    rw [hbegun.tree]
    exact isAbandoned_busyTree r hold
  have hclock : s.clock ≤ late := by
    rw [hbegun.clock]
    omega
  have hnow : (late : Int) ≤ programTime σ r + slack := by omega
  -- another actor looks at the clock, spots the workspace and removes it
  have hrun := hrun.snoc (hbegun.early.timely hclock hnow (by nofun)) (.prepare hidle)
  have hearly : Early (s.next 1 (.reclaiming late []) s.tree late) := hbegun.early.next fun _ _ _ => nofun
  have hrun := hrun.snoc (hearly.timely (Int.le_refl _) hnow (by nofun))
    (.spot (next_stage_self _ _) hlisted (List.mem_singleton_self _) habandoned)
  have hearly : Early (State.next _ 1 (.reclaiming late [r.first]) s.tree late) := hearly.next fun _ _ _ => nofun
  have hrun := hrun.snoc (hearly.timely (Int.le_refl _) hnow (by nofun))
    (.reclaim (next_stage_self _ _) (List.mem_singleton_self _))
  refine ⟨_, _, hrun, ?_, ?_, ⟨w, ?_⟩, ?_⟩
  · simp [hbegun.made]
  · rw [contentOf_append_of_ne, contentOf_append_of_ne, contentOf_append_of_ne, hbegun.content] <;> decide
  · rw [next_stage_of_ne, next_stage_of_ne, next_stage_of_ne, hbegun.serving] <;> decide
  · change FileTree.node? (Service.inBase (alike σ r) s.tree fun root =>
      removeDirectory s.tree late (root ++ [r.first])) ["t", r.first] = none
    rw [hbegun.tree]
    exact node?_removed r late

end

/-! ### What it takes -/

/-- **When reclaiming is safe next to requests at work.** Old workspaces may be reclaimed at any time without touching
one that is in use if, and only if, no request may take as long as it takes a workspace to grow old. -/
theorem prepare_spares_iff (σ : Settings) (slack : Nat) :
    (∀ (v : Service) (tree : FileTree) (clock : Int) (es : Record) (s : State),
      v.settings = { σ with tempDirectory := v.base } → v.Fresh tree → v.Laid tree →
      Run v (Timely v slack) (.ready tree clock) es s →
      ∀ a place, (a, Deed.created place) ∈ es → ∀ p, s.tree.view (place ++ p) = contentOf a es p) ↔
    ∀ r, programTime σ r + slack < σ.staleWorkspaceAgeSecs * 1000 := by
  constructor
  · intro hspares r
    by_contra hlong
    -- the moment at which a request of that kind must have ended is late enough to reclaim its workspace
    obtain ⟨es, s, hrun, hmade, hcontent, -, hnone⟩ :=
      exists_reclaimed σ slack r (programTime σ r + slack) (by omega) (Nat.le_refl _)
    have hkept := hspares _ _ _ _ _ rfl (fresh_alike σ r) (laid_alike σ r) hrun 0 _ hmade []
    rw [List.append_nil, hcontent, view_eq_none_iff.mpr hnone] at hkept
    cases hkept
  · intro hshort v tree clock es s hsettings hfresh hlaid hrun a place hmade
    have hshort' (r : Request) : programTime v.settings r + slack < v.maxAge := by
      have htime : programTime v.settings r = programTime σ r := by
        rw [hsettings]
        cases r <;> rfl
      have hage : v.maxAge = σ.staleWorkspaceAgeSecs * 1000 := by rw [Service.maxAge, hsettings]
      rw [htime, hage]
      exact hshort r
    exact (Spared.of_run hfresh hlaid hshort' hrun).content hmade

-- with the settings as they come there is time enough
example (r : Request) : programTime {} r + 60000 < ({} : Settings).staleWorkspaceAgeSecs * 1000 := by
  cases r <;> decide

/-- Settings that pass, but let a compiler run ten times as long as a workspace may look untouched. -/
def patientSettings : Settings := { compilationTimeoutMs := 600000, staleWorkspaceAgeSecs := 60 }

theorem reclaimed_at_work :
    let v := alike patientSettings .compile
    v.settings.validate = .ok () ∧ v.Fresh emptyBase ∧ v.Laid emptyBase ∧
    ∃ es s, Run v (Timely v 0) (.ready emptyBase 0) es s ∧ (0, Deed.created ["t", "run_"]) ∈ es ∧
      (∃ w, s.stage 0 = .serving 0 w .running) ∧ s.tree.node? ["t", "run_"] = none := by
  intro v
  obtain ⟨es, s, hrun, hmade, -, hserving, hnone⟩ :=
    exists_reclaimed patientSettings 0 .compile 90000 (by decide) (by decide)
  exact ⟨by decide, fresh_alike _ _, laid_alike _ _, es, s, hrun, hmade, hserving, hnone⟩

end SnippetLab.Shared
