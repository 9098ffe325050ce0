import SnippetLab.Proofs.Shared.Settled

/-!
No request touches the workspace of another. Until the first workspace is made there is none to touch; from then on
each holds what the steps of its own request made of it, however the steps of all requests are interleaved.
-/
namespace SnippetLab.Shared

open FileTree

variable {v : Service} {owned : String → Prop} {d : Place} {g : FileTree} {a : Actor} {now : Int} {s s' : State}
  {x : Deed} {es : Record}

/-! ### Before the first workspace -/

def Stage.Waits (v : Service) (owned : String → Prop) : Stage → Prop
  | idle | done => True
  | reclaiming _ pending => ∀ n ∈ pending, Stranger v owned n
  | serving _ _ _ => False

theorem Stage.Waits.fits {stage : Stage} (h : stage.Waits v owned) : stage.Fits v owned d g a .nothing := by
  cases stage with
  | idle => rfl
  | done => rfl
  | reclaiming since pending => exact ⟨rfl, h⟩
  | serving since w phase => exact h.elim

structure Untouched (v : Service) (owned : String → Prop) (es : Record) (s : State) : Prop where
  rooted : s.tree.Rooted
  unused : ∀ n, owned n → s.tree.Unused n
  nothing : ∀ a, contentOf a es = .nothing
  unplaced : ∀ a place, (a, Deed.created place) ∉ es
  stage : ∀ a, (s.stage a).Waits v owned

namespace Untouched

section
variable (h : Untouched v owned es s)
include h

theorem next {stage : Stage} {tree : FileTree} (hroot : tree.Rooted) (hunused : ∀ n, owned n → tree.Unused n)
    (happly : ∀ c, x.apply c = c) (hcreated : ∀ place, x ≠ .created place) (hstage : stage.Waits v owned) :
    Untouched v owned (es ++ [(a, x)]) (s.next a stage tree now) where
  rooted := hroot
  unused := hunused
  nothing b := by
    by_cases hb : a = b
    · rw [← hb, contentOf_append_self, happly, h.nothing]
    · rw [contentOf_append_of_ne b es hb, h.nothing]
  unplaced b place hmem := by
    obtain hold | hnew := List.mem_append.mp hmem
    · exact h.unplaced b place hold
    · exact hcreated place (Prod.mk.inj (List.mem_singleton.mp hnew)).2.symm
  stage b := by
    by_cases hb : b = a
    · rw [hb, next_stage_self]
      exact hstage
    · rw [next_stage_of_ne _ _ hb]
      exact h.stage b

theorem look {stage : Stage} (happly : ∀ c, x.apply c = c) (hcreated : ∀ place, x ≠ .created place)
    (hstage : stage.Waits v owned) : Untouched v owned (es ++ [(a, x)]) (s.next a stage s.tree now) :=
  h.next h.rooted h.unused happly hcreated hstage

theorem not_serving {since : Int} {w : Workspace} {phase : Phase} : s.stage a ≠ .serving since w phase := by
  intro hserving
  have hwaits := h.stage a
  rwa [hserving] at hwaits

theorem inBase_removeDirectory {n : String} (hn : owned n) (now : Int) :
    (v.inBase s.tree fun root => removeDirectory s.tree now (root ++ [n])) = s.tree := by
  unfold Service.inBase
  split
  · next root _ =>
    have hnone := h.unused n hn (root ++ [n]) (by simp)
    have hmissing : ¬s.tree.isDirectoryAt (root ++ [n]) = true := by
      rw [isDirectoryAt_iff, hnone]
      nofun
    exact if_neg hmissing
  · rfl

/-- Parents of the base may be missing; they are made, or nothing changes. -/
theorem create_cases (hnamed : Named v owned) (hbase : ∀ n, owned n → n ∉ Path.names v.base) (a : Actor) (now : Int) :
    ∃ u : FileTree, u.Rooted ∧ (∀ n, owned n → u.Unused n) ∧
      ((∃ e, Workspace.create s.tree now v.home v.base (v.kind a).first (v.id a) = (.error e, u)) ∨
        ∃ d, u.LeadsTo v.home v.base (v.name a) d ∧
          Workspace.create s.tree now v.home v.base (v.kind a).first (v.id a) =
            (.ok { id := v.id a, directory := v.path a }, u.put now (d ++ [v.name a]) .directory)) := by
  have hsegments (n : String) (hn : owned n) : n ∉ Path.segments v.base.toList := fun hmem =>
    hbase n hn (by rw [Path.names_eq]; exact List.mem_append_left _ hmem)
  obtain ⟨u, hmade, -, hcases⟩ := createDirectories_cases (hnamed.plain a) h.rooted (h.unused _ (hnamed.owned a))
    (hsegments _ (hnamed.owned a)) now v.home
  refine ⟨u, hmade.rooted, fun n hn => ?_, ?_⟩
  · refine hmade.unused n (fun path hpath hmem => ?_) (h.unused n hn)
    exact hsegments n hn (hpath.segments_subset_of_join (hnamed.plain a) hmem)
  · unfold Workspace.create
    rw [← Service.name]
    dsimp only
    obtain ⟨e, he⟩ | ⟨d, hleads, hput⟩ := hcases
    · rw [he]
      exact .inl ⟨_, rfl⟩
    · rw [hput]
      exact .inr ⟨d, hleads, rfl⟩

/-- A tree in which nothing bears such names is the ground of all that comes. -/
theorem settled {u : FileTree} (hroot : u.Rooted) (hunused : ∀ n, owned n → u.Unused n) (hnamed : Named v owned)
    (hreaches : u.Reaches v.home v.base d) : Settled v owned d u es { s with tree := u } where
  ground := ⟨hroot, hreaches, fun n hn p hp => hunused n hn p ((List.isPrefixOf_iff_prefix.mp hp).subset (by simp)),
    .refl u⟩
  content b p := by
    rw [h.nothing b]
    exact view_eq_none_iff.mpr (hunused _ (hnamed.owned b) _ (by simp))
  placed b place hmem := absurd hmem (h.unplaced b place)
  stage b := by
    rw [h.nothing b]
    exact (h.stage b).fits

theorem step (hnamed : Named v owned) (hbase : ∀ n, owned n → n ∉ Path.names v.base) (hstep : Step v a now s x s')
    (hspot : ∀ n, x = .spotted n → Stranger v owned n) :
    Untouched v owned (es ++ [(a, x)]) s' ∨
      ∃ d u, Settled v owned d u es { s with tree := u } ∧ Tame v owned d u es { s with tree := u } a x s' ∧
        ∀ since w phase, s'.stage a = .serving since w phase → s'.tree.changed? (d ++ [v.name a]) = some since := by
  have hwaits := h.stage a
  cases hstep with
  | prepare stage => exact .inl (h.look (fun _ => rfl) (fun _ => nofun) fun _ hmem => nomatch hmem)
  | spot stage listed mem abandoned =>
    rw [stage] at hwaits
    exact .inl (h.look (fun _ => rfl) (fun _ => nofun) (List.forall_mem_cons.mpr ⟨hspot _ rfl, hwaits⟩))
  | reclaim stage mem =>
    rw [stage] at hwaits
    rw [h.inBase_removeDirectory (hwaits _ mem).1]
    exact .inl (h.look (fun _ => rfl) (fun _ => nofun) fun n hn => hwaits n (List.mem_of_mem_erase hn))
  | conclude stage => exact .inl (h.look (fun _ => rfl) (fun _ => nofun) trivial)
  | create stage made =>
    -- `u` is the tree with the base made, but not yet the workspace
    obtain ⟨u, hroot, hunused, ⟨e, he⟩ | ⟨d, hleads, hput⟩⟩ := h.create_cases hnamed hbase a now
    · cases (Prod.mk.inj (he.symm.trans made)).1
    · obtain ⟨hw, htree⟩ := Prod.mk.inj (made.symm.trans hput)
      have hsettled := h.settled hroot hunused hnamed hleads.reaches
      refine .inr ⟨d, u, hsettled, hsettled.tame_made hnamed (h.nothing a) hleads (Except.ok.inj hw) htree, ?_⟩
      intro since w phase hserving
      rw [next_stage_self] at hserving
      cases hserving
      rw [htree]
      exact changed?_put_self u now (by simp) _
  | giveUp stage refused =>
    obtain ⟨u, hroot, hunused, ⟨e, he⟩ | ⟨d, hleads, hput⟩⟩ := h.create_cases hnamed hbase a now
    · obtain ⟨-, rfl⟩ := Prod.mk.inj (he.symm.trans refused)
      exact .inl (h.next hroot hunused (fun _ => rfl) (fun _ => nofun) trivial)
    · cases (Prod.mk.inj (hput.symm.trans refused)).1
  | see stage | purge stage | purged stage | write stage | miss stage | run stage | locate stage | leave stage
    | dispose stage => exact absurd stage h.not_serving

end

end Untouched

/-! ### At any time -/

/-- Nothing was made yet, or all that was made holds what its own steps made of it. -/
def Isolated (v : Service) (owned : String → Prop) (es : Record) (s : State) : Prop :=
  Untouched v owned es s ∨ ∃ d g, Settled v owned d g es s

namespace Isolated

theorem content (h : Isolated v owned es s) {place : Place} (hmem : (a, Deed.created place) ∈ es) (p : Place) :
    s.tree.view (place ++ p) = contentOf a es p := by
  obtain h | ⟨d, g, h⟩ := h
  · exact absurd hmem (h.unplaced a place)
  · rw [h.placed a place hmem]
    exact h.content a p

theorem step (h : Isolated v owned es s) (hnamed : Named v owned) (hbase : ∀ n, owned n → n ∉ Path.names v.base)
    (hstep : Step v a now s x s') (hspot : ∀ n, x = .spotted n → Stranger v owned n) :
    Isolated v owned (es ++ [(a, x)]) s' := by
  obtain h | ⟨d, g, h⟩ := h
  · obtain hafter | ⟨d, u, hsettled, htame, -⟩ := h.step hnamed hbase hstep hspot
    · exact .inl hafter
    · exact .inr ⟨d, u, hsettled.of_tame hnamed htame⟩
  · exact .inr ⟨d, g, h.of_tame hnamed (h.tame_of_step hnamed hstep hspot)⟩

end Isolated

theorem named_of_fresh {tree : FileTree} (h : v.Fresh tree) (howned : ∀ a, owned (v.name a)) : Named v owned :=
  ⟨fun a => plain_name (h.plain a), fun _ _ => name_injective h.distinct, howned⟩

theorem untouched_ready {tree : FileTree} (hroot : tree.Rooted) (hunused : ∀ n, owned n → tree.Unused n) (clock : Int) :
    Untouched v owned [] (.ready tree clock) where
  rooted := hroot
  unused := hunused
  nothing _ := rfl
  unplaced _ _ hmem := nomatch hmem
  stage _ := trivial

/-- Names that only requests have are reclaimed by nobody in a quiet run. -/
theorem isolated_of_quiet {tree : FileTree} {clock : Int} (hfresh : v.Fresh tree)
    (hrun : Run v quiet (.ready tree clock) es s) : Isolated v (fun n => ∃ a, n = v.name a) es s := by
  have hnamed : Named v fun n => ∃ a, n = v.name a := named_of_fresh hfresh fun a => ⟨a, rfl⟩
  induction hrun with
  | refl =>
    refine .inl (untouched_ready hfresh.rooted ?_ clock)
    rintro n ⟨a, rfl⟩
    exact hfresh.unused a
  | snoc run lawful step ih =>
    refine ih.step hnamed ?_ step ?_
    · rintro n ⟨a, rfl⟩
      exact hfresh.base a
    · rintro n rfl
      cases lawful

/-- **Workspaces are isolated.** In any interleaving of any number of requests each workspace holds, at every moment,
what the steps of its own request made of it, and no step of another request changes it. -/
theorem workspaces_isolated {tree : FileTree} {clock : Int} (hfresh : v.Fresh tree)
    (hrun : Run v quiet (.ready tree clock) es s) {place : Place} (hmade : (a, Deed.created place) ∈ es) :
    (∀ p, s.tree.view (place ++ p) = contentOf a es p) ∧
    ∀ b now x s', b ≠ a → quiet s now b x → Step v b now s x s' →
      ∀ p, s'.tree.view (place ++ p) = s.tree.view (place ++ p) := by
  have hisolated := isolated_of_quiet hfresh hrun
  refine ⟨hisolated.content hmade, fun b now x s' hb hquiet hstep p => ?_⟩
  have hafter := isolated_of_quiet hfresh (hrun.snoc hquiet hstep)
  rw [hafter.content (List.mem_append_left _ hmade), contentOf_append_of_ne a es hb, hisolated.content hmade]

/-- One request compiles, the other one analyzes. -/
def twoRequests : Service where
  settings := { tempDirectory := "/t" }
  home := []
  kind a := if a = 0 then .compile else .analyze
  id a := String.ofList (List.replicate a 'x')
  number a := a
  text _ := "x"

theorem workspaces_isolated_twoRequests :
    let tree : FileTree := ⟨[(["t"], .directory, 0), (["t", "a.out"], .file [] 0o755, 0)]⟩
    let es : Record := [(0, .created ["t", "run_"]), (1, .created ["t", "session_x"]), (0, .other), (0, .other)]
    twoRequests.Fresh tree ∧ ∃ s, Run twoRequests quiet (.ready tree 0) es s ∧ s.tree.node? ["t", "a.out"] = none ∧
      (∀ p, s.tree.view (["t", "session_x"] ++ p) = contentOf 1 es p) ∧
      ∀ b now x s', b ≠ 1 → quiet s now b x → Step twoRequests b now s x s' →
        ∀ p, s'.tree.view (["t", "session_x"] ++ p) = s.tree.view (["t", "session_x"] ++ p) := by
  intro tree es
  have hfresh : twoRequests.Fresh tree := by
    have ht (a : Actor) : twoRequests.name a ≠ "t" := name_ne _ a (by decide)
    have hout (a : Actor) : twoRequests.name a ≠ "a.out" := name_ne _ a (by decide)
    refine ⟨rooted_of_entries (by decide), fun a => ?_, fun a b h => ?_, fun a => unused_of_entries ?_, fun a => ?_⟩
    · simp [twoRequests]
    · simpa [twoRequests] using congrArg String.length h
    · simp [tree, ht, hout]
    · have hbase : Path.names twoRequests.base = ["t"] := by decide
      simp [hbase, ht]
  let first : FileTree := ⟨tree.entries ++ [(["t", "run_"], .directory, 0)]⟩
  let second : FileTree := ⟨[(["t"], .directory, 1), (["t", "a.out"], .file [] 0o755, 0),
    (["t", "run_"], .directory, 0), (["t", "session_x"], .directory, 1)]⟩
  let w₁ : Workspace := { id := twoRequests.id 0, directory := twoRequests.path 0 }
  let w₂ : Workspace := { id := twoRequests.id 1, directory := twoRequests.path 1 }
  have hfirst : Workspace.create tree 0 [] "/t" "run_" (twoRequests.id 0) = (.ok w₁, first) := by decide +kernel
  have hsecond : Workspace.create first 1 [] "/t" "session_" (twoRequests.id 1) = (.ok w₂, second) := by
    decide +kernel
  have hplace₁ : twoRequests.placeOf first 0 = ["t", "run_"] := by decide +kernel
  have hplace₂ : twoRequests.placeOf second 1 = ["t", "session_x"] := by decide +kernel
  have hlisted : second.listDirectory [] "/t" = .ok (["t"], ["a.out", "run_", "session_x"]) := by decide +kernel
  have hstale : "a.out" ∈ Cleanup.staleNames second ["t"] ["a.out", "run_", "session_x"] := by decide +kernel
  let s₁ := (State.ready tree 0).next 0 (.serving 0 w₁ (.purging [])) first 0
  let s₂ := s₁.next 1 (.serving 1 w₂ .writing) second 1
  let s₃ := s₂.next 0 (.serving 0 w₁ (.purging ["a.out"])) second 2
  have hstep₁ : Step twoRequests 0 0 (.ready tree 0) (.created ["t", "run_"]) s₁ := hplace₁ ▸ .create rfl hfirst
  have hstep₂ : Step twoRequests 1 1 s₁ (.created ["t", "session_x"]) s₂ := hplace₂ ▸ .create rfl hsecond
  -- the leftover is seen now and removed in the next step
  have hstep₃ : Step twoRequests 0 2 s₂ .other s₃ := .see rfl hlisted hstale
  have hstep₄ : Step twoRequests 0 3 s₃ .other _ := .purge rfl (List.mem_singleton_self "a.out")
  have hrun : Run twoRequests quiet (.ready tree 0) es _ :=
    (((Run.refl.snoc (by rfl) hstep₁).snoc (by rfl) hstep₂).snoc (by rfl) hstep₃).snoc (by rfl) hstep₄
  refine ⟨hfresh, _, hrun, by decide +kernel, ?_⟩
  exact workspaces_isolated hfresh hrun (by simp [es])

end SnippetLab.Shared
