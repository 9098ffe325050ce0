import SnippetLab.Proofs.Lab.Compile
import SnippetLab.Proofs.Source

/-!
Which sources are refused before anything happens. The refusal looks at the raw text, where a NUL is no white
space; so a source of white space and NULs is compiled although nothing is left of it. No source gets longer after
its length was looked at.
-/
namespace SnippetLab.Lab

open SnippetLab.Text

theorem accept_error_iff (s : Settings) (source : String) :
    (∃ text, accept s source = .error text) ↔
      allBlank source.toList = true ∨ s.maxSourceLength < source.length := by
  unfold accept
  split
  · next hblank => simp [hblank]
  · next hblank =>
    split
    · next hlong => simp [hlong]
    · next hlong => simp [hblank, hlong]

theorem of_accept {s : Settings} {source : String} {u : SourceUnit} (h : accept s source = .ok u) :
    u = .forCompile source ∧ source.length ≤ s.maxSourceLength := by
  unfold accept at h
  split at h
  · cases h
  · split at h
    · cases h
    · next hfits => exact ⟨(Except.ok.inj h).symm, Nat.not_lt.mp hfits⟩

/-- **Sanitized sources.** Without its NULs a text can be read in one way only, and what is left of it is one line
feed for every line end and every other character in order. So it has no NUL, no carriage return and no character
or octet more, and to sanitize it again changes nothing; what is accepted for the compiler is within the limit. -/
theorem sanitize_one_pass (raw : String) :
    (∀ ps, SourceUnit.IsReading (dropNul raw.toList) ps ↔ ps = SourceUnit.pieces (dropNul raw.toList)) ∧
    (let ps := SourceUnit.pieces (dropNul raw.toList)
     sanitize raw = String.ofList (ps.map SourceUnit.Piece.normal) ∧
       (lines (sanitize raw).toList).length = ps.countP SourceUnit.Piece.isLineEnd + 1) ∧
    '\x00' ∉ (sanitize raw).toList ∧ '\r' ∉ (sanitize raw).toList ∧
    (sanitize raw).length ≤ raw.length ∧
    (Utf8.encode (sanitize raw).toList).length ≤ (Utf8.encode raw.toList).length ∧
    sanitize (sanitize raw) = sanitize raw ∧
    ∀ s u, accept s raw = .ok u → u.charLength ≤ s.maxSourceLength := by
  refine ⟨fun _ => SourceUnit.isReading_iff, ⟨?_, SourceUnit.length_lines_sanitize raw⟩,
    SourceUnit.nul_not_mem_sanitize raw, SourceUnit.cr_not_mem_sanitize raw, SourceUnit.length_sanitize_le raw,
    SourceUnit.length_encode_sanitize_le raw, SourceUnit.sanitize_sanitize raw, ?_⟩
  · rw [← SourceUnit.toList_sanitize, String.ofList_toList]
  · intro s u h
    obtain ⟨rfl, hfits⟩ := of_accept h
    exact Nat.le_trans (SourceUnit.charLength_forCompile_le raw) hfits

/-- A NUL stands between the halves of a line end. -/
theorem sanitize_one_pass_parted :
    let s : Settings := { maxSourceLength := 7 }
    (lines (sanitize "a\r\x00\nb\r ").toList).length = 3 ∧
      ∃ u, accept s "a\r\x00\nb\r " = .ok u ∧ u.charLength ≤ s.maxSourceLength := by
  intro s
  obtain ⟨-, ⟨-, hlines⟩, -, -, -, -, -, hfits⟩ := sanitize_one_pass "a\r\x00\nb\r "
  have haccept : accept s "a\r\x00\nb\r " = .ok ⟨"a\nb"⟩ := by decide +kernel
  exact ⟨hlines.trans (by decide), _, haccept, hfits s _ haccept⟩

variable {launch : Launcher} {s : Settings} {source : String} {l : Lab}

theorem compileAndRun_of_refused {text : String} (h : accept s source = .error text) :
    l.compileAndRun launch s source = (.compilationError text, l) := by
  rw [compileAndRun, h]

theorem compileAndRun_of_accepted {u : SourceUnit} (h : accept s source = .ok u) :
    (l.compileAndRun launch s source).2 = (l.judgeInWorkspace launch s u).2 := by
  rw [compileAndRun, h]
  dsimp only
  split <;> next hj => rw [hj]

theorem judge_drawn (launch : Launcher) (s : Settings) (directory base : String) (startedAt : Nat) (l : Lab) :
    (l.judge launch s directory base startedAt).2.drawn = l.drawn :=
  judge_keeps (P := fun after => after.drawn = l.drawn)
    (fun command timeout _ _ h => (run_same launch _ command timeout _).drawn.trans h) base startedAt rfl

theorem createWorkspace_drawn (s : Settings) (first : String) (l : Lab) :
    (l.createWorkspace s first).2.drawn = l.drawn + 1 := by
  unfold createWorkspace
  rfl

theorem writeSource_drawn (w : Workspace) (name content : String) (l : Lab) :
    (l.writeSource w name content).2.2.drawn = l.drawn := by
  unfold writeSource
  split
  rfl

theorem lt_judgeInWorkspace_drawn (launch : Launcher) (s : Settings) (u : SourceUnit) (l : Lab) :
    l.drawn < (l.judgeInWorkspace launch s u).2.drawn := by
  have hmade := createWorkspace_drawn s Workspace.runPrefix l
  unfold judgeInWorkspace
  dsimp only
  split
  · next e made hw =>
    rw [hw] at hmade
    exact Nat.lt_of_lt_of_eq (Nat.lt_succ_self _) hmade.symm
  · next empty made hw =>
    rw [hw] at hmade
    have hready := writeSource_drawn empty (baseName (made.purge s).draw.1 ++ Artifact.sourceExtension) u.text
      (made.purge s).draw.2
    have hdrawn : (made.purge s).draw.2.drawn = l.drawn + 2 := congrArg (· + 1) hmade
    split
    · next e w ready hs =>
      rw [hs] at hready
      exact Nat.lt_of_lt_of_eq (by omega) (hready.trans hdrawn).symm
    · next path w ready hs =>
      rw [hs] at hready
      have hjudged := judge_drawn launch s w.directory (baseName (made.purge s).draw.1) l.now ready
      exact Nat.lt_of_lt_of_eq (by omega) ((hjudged.trans hready).trans hdrawn).symm

/-- Nothing at all happens to a source exactly if it is refused. -/
theorem compileAndRun_same_iff :
    (l.compileAndRun launch s source).2 = l ↔
      allBlank source.toList = true ∨ s.maxSourceLength < source.length := by
  rw [← accept_error_iff]
  constructor
  · intro hsame
    cases haccept : accept s source with
    | error text => exact ⟨text, rfl⟩
    | ok u =>
      have hlt := lt_judgeInWorkspace_drawn launch s u l
      rw [← compileAndRun_of_accepted haccept, hsame] at hlt
      exact absurd hlt (Nat.lt_irrefl _)
  · rintro ⟨text, h⟩
    rw [compileAndRun_of_refused h]

/-- A source of which nothing is left for the compiler has nothing for the analysis either. It is refused
untouched if it holds no NUL or is too long, and only then. -/
theorem compileAndRun_of_blank (launch : Launcher) (s : Settings) (source : String) (l : Lab)
    (hblank : (SourceUnit.forCompile source).isBlank = true) :
    (SourceUnit.forAnalysis source).isBlank = true ∧
    ((l.compileAndRun launch s source).2 = l ↔
      '\x00' ∉ source.toList ∨ s.maxSourceLength < source.length) ∧
    ((l.compileAndRun launch s source).2 = l →
      ∃ text, (l.compileAndRun launch s source).1 = .compilationError text) := by
  refine ⟨?_, ?_, ?_⟩
  · rwa [SourceUnit.isBlank_forAnalysis, ← SourceUnit.isBlank_forCompile]
  · rw [compileAndRun_same_iff]
    refine or_congr_left ⟨fun hraw hnul => ?_, fun hnul => ?_⟩
    · rw [SourceUnit.not_allBlank_of_nul hnul] at hraw
      cases hraw
    · rwa [← SourceUnit.isBlank_forCompile_of_no_nul hnul]
  · intro hsame
    obtain ⟨text, h⟩ := (accept_error_iff s source).mpr (compileAndRun_same_iff.mp hsame)
    exact ⟨text, by rw [compileAndRun_of_refused h]⟩

theorem compileAndRun_of_blank_lines :
    let s : Settings := { tempDirectory := "/t" }
    let l := ofSettings s {} [] 0
    (SourceUnit.forCompile "\r\n\u00a0").isBlank = true ∧
      (l.compileAndRun (fun _ => .refused "") s "\r\n\u00a0").2 = l := by
  intro s l
  have hblank : (SourceUnit.forCompile "\r\n\u00a0").isBlank = true := by decide +kernel
  exact ⟨hblank, (compileAndRun_of_blank (fun _ => .refused "") s _ l hblank).2.1.mpr (.inl (by decide))⟩

/-- Nothing is left of a single NUL, yet the compiler is started for it. -/
theorem compileAndRun_nul :
    let s : Settings := { tempDirectory := "/t" }
    let after := ((ofSettings s {} [] 0).compileAndRun (fun _ => .refused "") s "\x00").2
    (SourceUnit.forCompile "\x00").isBlank = true ∧ after.tree.node? ["t"] = some .directory ∧
      after.launches.map (·.program) = [s.compilerPath] := by
  decide +kernel

end SnippetLab.Lab
