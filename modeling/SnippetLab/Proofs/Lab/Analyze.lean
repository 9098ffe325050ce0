import SnippetLab.Lab.Analyze
import SnippetLab.Proofs.Lab.Run
import SnippetLab.Proofs.Lexer.Spans

/-!
An analysis always ends with the static tokens, enriched or not. Whatever becomes of the compiler, no token
is lost, added or moved, and without a dump none is touched.
-/
namespace SnippetLab

def Token.place (t : Token) : Nat × Nat × Nat × Nat × String :=
  (t.startLine, t.startColumn, t.endLine, t.endColumn, t.text)

theorem SymbolMap.map_place_merge (symbols : SymbolMap) (tokens : List Token) :
    (symbols.merge tokens).map Token.place = tokens.map Token.place := by
  rw [merge, List.map_map]
  refine List.map_congr_left fun t _ => ?_
  unfold Function.comp mergeToken
  split <;> rfl

namespace Lab

open SnippetLab.Text

section
variable (launch : Launcher) (s : Settings) (u : SourceUnit) (l : Lab)

/-- The source lies in a workspace of its own. -/
def DumpReady (w : Workspace) (ready : Lab) : Prop :=
  ∃ empty made path, l.createWorkspace s Workspace.sessionPrefix = (.ok empty, made) ∧
    made.writeSource empty dumpSource (u.wrapped (moduleName made.now)) = (.ok path, w, ready)

/-- What the compiler comes to over the source in the workspace. -/
def dumpRun (w : Workspace) (ready : Lab) : Except Failure RunResult :=
  (ready.run launch (.ofSettings s) ((Toolchain.ofSettings s).dumpAst dumpSource w.directory)
    s.compilationTimeoutMs).1

/-- All that can keep a dump from coming about. -/
inductive NoDump : Prop
  | noWorkspace (e : Failure) (made : Lab)
      (workspace : l.createWorkspace s Workspace.sessionPrefix = (.error e, made))
  | noSource (empty w : Workspace) (e : Failure) (made ready : Lab)
      (workspace : l.createWorkspace s Workspace.sessionPrefix = (.ok empty, made))
      (source : made.writeSource empty dumpSource (u.wrapped (moduleName made.now)) = (.error e, w, ready))
  | noResult (w : Workspace) (ready : Lab) (e : Failure) (prepared : DumpReady s u l w ready)
      (result : dumpRun launch s w ready = .error e)
  | failed (w : Workspace) (ready : Lab) (r : RunResult) (prepared : DumpReady s u l w ready)
      (result : dumpRun launch s w ready = .ok r) (status : r.status ≠ .code 0)
  | silent (w : Workspace) (ready : Lab) (r : RunResult) (prepared : DumpReady s u l w ready)
      (result : dumpRun launch s w ready = .ok r) (blank : allBlank r.output.toList = true)

variable {launch s u l}

theorem dumpAst_of_ready {w : Workspace} {ready : Lab} (h : DumpReady s u l w ready) :
    (l.dumpAst launch s u).1 = dumpOf (dumpRun launch s w ready) := by
  obtain ⟨empty, made, path, hw, hs⟩ := h
  unfold dumpAst dumpRun
  rw [hw]
  dsimp only
  rw [hs]

theorem dumpOf_eq_error_iff (result : Except Failure RunResult) :
    (∃ e, dumpOf result = .error e) ↔
      (∃ e, result = .error e) ∨
        ∃ r, result = .ok r ∧ (r.status ≠ .code 0 ∨ allBlank r.output.toList = true) := by
  cases result with
  | error e => simp [dumpOf]
  | ok r =>
    by_cases hs : r.status = .code 0 <;> by_cases hb : allBlank r.output.toList = true <;>
      simp [dumpOf, RunResult.succeeded, hs, hb]

theorem noDump_iff : NoDump launch s u l ↔ ∃ e, (l.dumpAst launch s u).1 = .error e := by
  constructor
  · intro h
    cases h with
    | noWorkspace e made hw =>
      unfold dumpAst
      rw [hw]
      exact ⟨e, rfl⟩
    | noSource empty w e made ready hw hs =>
      unfold dumpAst
      rw [hw]
      dsimp only
      rw [hs]
      exact ⟨e, rfl⟩
    | noResult w ready e hp hr =>
      rw [dumpAst_of_ready hp, dumpOf_eq_error_iff]
      exact .inl ⟨e, hr⟩
    | failed w ready r hp hr hs =>
      rw [dumpAst_of_ready hp, dumpOf_eq_error_iff]
      exact .inr ⟨r, hr, .inl hs⟩
    | silent w ready r hp hr hb =>
      rw [dumpAst_of_ready hp, dumpOf_eq_error_iff]
      exact .inr ⟨r, hr, .inr hb⟩
  · intro h
    match hw : l.createWorkspace s Workspace.sessionPrefix with
    | (.error e, made) => exact .noWorkspace e made hw
    | (.ok empty, made) =>
      match hs : made.writeSource empty dumpSource (u.wrapped (moduleName made.now)) with
      | (.error e, w, ready) => exact .noSource empty w e made ready hw hs
      | (.ok path, w, ready) =>
        have hp : DumpReady s u l w ready := ⟨empty, made, path, hw, hs⟩
        rw [dumpAst_of_ready hp, dumpOf_eq_error_iff] at h
        rcases h with ⟨e, hr⟩ | ⟨r, hr, hs | hb⟩
        · exact .noResult w ready e hp hr
        · exact .failed w ready r hp hr hs
        · exact .silent w ready r hp hr hb

end

section
variable (launch : Launcher) (s : Settings) (source : String) (l : Lab)

theorem enhance_of_noDump {u : SourceUnit} (tokens : List Token) (h : NoDump launch s u l) :
    (l.enhance launch s u tokens).1 = tokens := by
  obtain ⟨e, he⟩ := noDump_iff.mp h
  simp [enhance, tryEnhance, he, Except.map, Except.toOption]

theorem map_place_enhance (u : SourceUnit) (tokens : List Token) :
    (l.enhance launch s u tokens).1.map Token.place = tokens.map Token.place := by
  simp only [enhance, tryEnhance]
  cases (l.dumpAst launch s u).1 with
  | error e => rfl
  | ok dump => exact SymbolMap.map_place_merge _ tokens

theorem analyze_tooLong (h : s.maxSourceLength < source.length) :
    (l.analyze launch s source).1.success = false ∧ (l.analyze launch s source).1.tokens = [] ∧
    (l.analyze launch s source).2 = l := by
  simp [analyze, h, AnalysisResponse.failed, AnalysisResponse.success]

theorem analyze_blank (h : ¬s.maxSourceLength < source.length)
    (hblank : (SourceUnit.forAnalysis source).isBlank = true) :
    (l.analyze launch s source).1.success = true ∧
    (l.analyze launch s source).1.tokens = Lexer.tokenize (sanitize source) ∧
    (l.analyze launch s source).2 = l := by
  simp [analyze, h, hblank, AnalysisResponse.ok, AnalysisResponse.success]
  rfl

theorem analyze_of_accepted (h : ¬s.maxSourceLength < source.length)
    (hblank : ¬(SourceUnit.forAnalysis source).isBlank = true) :
    (l.analyze launch s source).2 = (l.dumpAst launch s (.forAnalysis source)).2 := by
  simp [analyze, h, hblank, enhance, tryEnhance]

theorem analyze_tokens (h : ¬s.maxSourceLength < source.length)
    (hblank : ¬(SourceUnit.forAnalysis source).isBlank = true) :
    (l.analyze launch s source).1.success = true ∧
    (l.analyze launch s source).1.tokens =
      (l.enhance launch s (.forAnalysis source) (Lexer.tokenize (sanitize source))).1 := by
  simp [analyze, h, hblank, AnalysisResponse.ok, AnalysisResponse.success]
  rfl

end

/-- Only the length of the source makes an analysis fail. Otherwise the tokens are the static ones, in
order and in place. With blank text nothing is started, and without a dump the tokens do not even change
their kinds. -/
theorem analyze_best_effort (launch : Launcher) (s : Settings) (source : String) (l : Lab) :
    let static := Lexer.tokenize (sanitize source)
    let answer := (l.analyze launch s source).1
    let after := (l.analyze launch s source).2
    (answer.success = false ↔ s.maxSourceLength < source.length) ∧
    (answer.success = false → answer.tokens = [] ∧ after = l) ∧
    (answer.success = true → answer.tokens.map Token.place = static.map Token.place) ∧
    (allBlank (sanitize source).toList = true → after = l) ∧
    (answer.success = true →
      allBlank (sanitize source).toList = true ∨ NoDump launch s (.forAnalysis source) l →
      answer.tokens = static ∧ ∀ t ∈ answer.tokens, t.semanticTag = none) := by
  intro static answer after
  have huntagged : ∀ t ∈ static, t.semanticTag = none := fun t ht => Lexer.semanticTag_of_mem_tokenize ht
  by_cases hlong : s.maxSourceLength < source.length
  · obtain ⟨hfailed, hnone, hsame⟩ := analyze_tooLong launch s source l hlong
    refine ⟨by simp [answer, hfailed, hlong], fun _ => ⟨hnone, hsame⟩, ?_, fun _ => hsame, ?_⟩ <;>
      simp [answer, hfailed]
  by_cases hblank : allBlank (sanitize source).toList = true
  · obtain ⟨hsuccess, htokens, hsame⟩ := analyze_blank launch s source l hlong hblank
    refine ⟨by simp [answer, hsuccess, hlong], by simp [answer, hsuccess], fun _ => ?_, fun _ => hsame, ?_⟩
    · exact congrArg _ htokens
    · exact fun _ _ => ⟨htokens, htokens ▸ huntagged⟩
  · obtain ⟨hsuccess, htokens⟩ := analyze_tokens launch s source l hlong hblank
    refine ⟨by simp [answer, hsuccess, hlong], by simp [answer, hsuccess], fun _ => ?_,
      fun h => absurd h hblank, fun _ h => ?_⟩
    · exact (congrArg _ htokens).trans (map_place_enhance ..)
    · have hstatic : answer.tokens = static :=
        htokens.trans (enhance_of_noDump launch s l _ (h.resolve_left hblank))
      exact ⟨hstatic, hstatic ▸ huntagged⟩

theorem analyze_best_effort_refused :
    let s : Settings := { tempDirectory := "/t" }
    let l := ofSettings s {} [] 0
    let answer := (l.analyze (fun _ => .refused "") s "x").1
    answer.success = true ∧ NoDump (fun _ => .refused "") s (.forAnalysis "x") l ∧
      answer.tokens = Lexer.tokenize (sanitize "x") := by
  intro s l answer
  have hdump : NoDump (fun _ => .refused "") s (.forAnalysis "x") l := by
    have hfailed : (l.dumpAst (fun _ => .refused "") s (.forAnalysis "x")).1.isOk = false := by decide +kernel
    rw [noDump_iff]
    cases h : (l.dumpAst (fun _ => .refused "") s (.forAnalysis "x")).1 with
    | error e => exact ⟨e, rfl⟩
    | ok dump =>
      rw [h] at hfailed
      cases hfailed
  obtain ⟨hfailed, -, -, -, hstatic⟩ := analyze_best_effort (fun _ => .refused "") s "x" l
  have hsuccess : answer.success = true := (Bool.not_eq_false _).mp (mt hfailed.mp (by decide))
  exact ⟨hsuccess, hdump, (hstatic hsuccess (.inr hdump)).1⟩

end Lab
end SnippetLab
