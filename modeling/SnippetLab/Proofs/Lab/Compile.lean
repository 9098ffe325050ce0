import SnippetLab.Lab.Compile
import SnippetLab.Proofs.Artifact
import SnippetLab.Proofs.Lab.Run

/-!
What a judgement tells. The outcome follows from the run of the compiler, from what that leaves and from the
run of the program, which is started once at most.
-/
namespace SnippetLab

open SnippetLab.Text

/-! ### Trials -/

structure Trial where
  launch : Launcher
  settings : Settings
  directory : String
  base : String
  startedAt : Nat
  lab : Lab

namespace Trial

variable (t : Trial)

def source : String := t.base ++ Artifact.sourceExtension

def compilerCommand : Command := (Toolchain.ofSettings t.settings).compile t.source t.directory

/-- What the compiler's run comes to, and the lab after it. -/
def compilation : Except Failure RunResult × Lab :=
  t.lab.run t.launch (.ofSettings t.settings) t.compilerCommand t.settings.compilationTimeoutMs

def built : Lab := t.compilation.2

/-- The compiler left a file under one of the conventional names. -/
def Produced : Prop := Artifact.Produced t.built.tree t.built.home t.directory t.base

/-- The compiler ended with zero and printed that nothing was wrong. -/
def Marked : Prop :=
  ∃ r, t.compilation.1 = .ok r ∧ r.status = .code 0 ∧ contains r.output Artifact.successMarker = true

/-- The compiler ended with zero, and its output or a file says that it did its work. -/
def Compiled : Prop :=
  ∃ r, t.compilation.1 = .ok r ∧ r.status = .code 0 ∧
    (contains r.output Artifact.successMarker = true ∨ t.Produced)

def located : Option String := Artifact.locate t.built.tree t.built.home t.directory t.base t.source

def programCommand (program : String) : Command := ⟨t.built.canonical program, [], t.directory⟩

/-- What the program's run comes to, and the lab after it. -/
def execution (program : String) : Except Failure RunResult × Lab :=
  t.built.run t.launch (.ofSettings t.settings) (t.programCommand program) t.settings.executionTimeoutMs

def Succeeds (program : String) : Prop := ∃ r, (t.execution program).1 = .ok r ∧ r.status = .code 0

def TimesOut (program : String) : Prop := ∃ ms, (t.execution program).1 = .error (.timedOut ms)

/-- An outcome says how compiler and program fared; the commands are those that were started for it. -/
structure Told (outcome : CompileOutcome) (started : List Command) : Prop where
  success : outcome.resultType = "success" ↔ t.Compiled ∧ ∃ p, t.located = some p ∧ t.Succeeds p
  timeout : outcome.resultType = "timeout" ↔ t.Compiled ∧ ∃ p, t.located = some p ∧ t.TimesOut p
  runtimeError : outcome.resultType = "runtime_error" ↔
    t.Compiled ∧ ∀ p, t.located = some p → ¬t.Succeeds p ∧ ¬t.TimesOut p
  compilationError : outcome.resultType = "compilation_error" ↔ ¬t.Compiled
  once : started = [t.compilerCommand] ∨
    t.Compiled ∧ ∃ p, t.located = some p ∧ started = [t.compilerCommand, t.programCommand p]
  missing : (∃ ms, outcome = .runtimeError Lab.programMissing ms) ∧ started = [t.compilerCommand] ↔
    t.Compiled ∧ t.located = none
  marked : (∃ ms, outcome = .runtimeError Lab.programMissing ms) → started = [t.compilerCommand] →
    t.Marked ∧ ¬t.Produced

def judge : CompileOutcome × Lab := t.lab.judge t.launch t.settings t.directory t.base t.startedAt

/-- The source is accepted, and its workspace and its file could be created; the trial begins in what they
leave. -/
inductive Prepared (launch : Launcher) (s : Settings) (source : String) (l : Lab) : Workspace → Trial → Prop
  | intro {u : SourceUnit} {empty w : Workspace} {made ready : Lab} {n : Nat} {path : String}
      (accepted : Lab.accept s source = .ok u)
      (workspace : l.createWorkspace s Workspace.runPrefix = (.ok empty, made))
      (name : n = (made.purge s).draw.1)
      (written : (made.purge s).draw.2.writeSource empty (Lab.baseName n ++ Artifact.sourceExtension) u.text =
        (.ok path, w, ready)) :
      Prepared launch s source l w ⟨launch, s, w.directory, Lab.baseName n, l.now, ready⟩

end Trial

namespace Lab

section
variable {t : Trial}

theorem compiled_iff {r : RunResult} (h : t.compilation.1 = .ok r) :
    t.Compiled ↔ Artifact.compilationSucceeded (r.status.code?.map (↑·)) (trimmed r.output)
      (Artifact.probe t.built.tree t.built.home t.directory t.base).isSome = true := by
  rw [Artifact.compilationSucceeded_iff, Artifact.isSome_probe_iff]
  simp [Trial.Compiled, Trial.Produced, h]

/-- The compiler's part of a judgement: it succeeds or says why it did not, and in both cases the lab is the
one that the compiler left. -/
theorem compileSource_cases (t : Trial) :
    (t.Compiled ∧ t.lab.compileSource t.launch t.settings t.directory t.base = (.ok (), t.built)) ∨
    (¬t.Compiled ∧ ∃ text,
      t.lab.compileSource t.launch t.settings t.directory t.base = (.error text, t.built)) := by
  have hrun : t.lab.run t.launch (.ofSettings t.settings)
      ((Toolchain.ofSettings t.settings).compile (t.base ++ Artifact.sourceExtension) t.directory)
      t.settings.compilationTimeoutMs = (t.compilation.1, t.built) := rfl
  unfold compileSource
  dsimp only
  rw [hrun]
  cases hresult : t.compilation.1 with
  | error e =>
    refine .inr ⟨?_, compilerFailure e, rfl⟩
    rintro ⟨r, hr, -⟩
    rw [hresult] at hr
    cases hr
  | ok r =>
    dsimp only
    split
    · next h => exact .inl ⟨(compiled_iff hresult).mpr h, rfl⟩
    · next h => exact .inr ⟨fun hc => h ((compiled_iff hresult).mp hc), _, rfl⟩

theorem judge_of_not_compiled (h : ¬t.Compiled) : ∃ text, t.judge = (.compilationError text, t.built) := by
  obtain ⟨hc, -⟩ | ⟨-, text, hrun⟩ := compileSource_cases t
  · exact absurd hc h
  · refine ⟨text, ?_⟩
    rw [Trial.judge, judge, hrun]

theorem judge_of_compiled (h : t.Compiled) :
    t.judge = match t.located with
      | none => (.runtimeError programMissing (t.built.now - t.startedAt), t.built)
      | some program => t.built.runProgram t.launch t.settings t.directory program t.startedAt := by
  obtain ⟨-, hrun⟩ | ⟨hc, -⟩ := compileSource_cases t
  · rw [Trial.judge, judge, hrun]
    rfl
  · exact absurd h hc

theorem judge_of_located {program : String} (h : t.Compiled) (hsome : t.located = some program) :
    t.judge = (programOutcome t.settings.maxOutputLength ((t.execution program).2.now - t.startedAt)
      (t.execution program).1, (t.execution program).2) := by
  rw [judge_of_compiled h, hsome]
  rfl

theorem programOutcome_cases (t : Trial) (program : String) (maxOutput elapsed : Nat) :
    let kind := (programOutcome maxOutput elapsed (t.execution program).1).resultType
    (t.Succeeds program ∧ ¬t.TimesOut program ∧ kind = "success") ∨
    (¬t.Succeeds program ∧ t.TimesOut program ∧ kind = "timeout") ∨
    (¬t.Succeeds program ∧ ¬t.TimesOut program ∧ kind = "runtime_error") := by
  unfold Trial.Succeeds Trial.TimesOut
  generalize (t.execution program).1 = result
  cases result with
  | ok r =>
    by_cases h : r.status = .code 0 <;>
      simp [programOutcome, RunResult.succeeded, h, CompileOutcome.resultType]
  | error e => cases e <;> simp [programOutcome, CompileOutcome.resultType]

theorem compilation_launches (t : Trial) : t.built.launches = t.lab.launches ++ [t.compilerCommand] :=
  run_launches ..

theorem execution_launches (t : Trial) (program : String) :
    (t.execution program).2.launches = t.lab.launches ++ [t.compilerCommand, t.programCommand program] := by
  rw [Trial.execution, run_launches, compilation_launches, List.append_assoc, List.singleton_append]

theorem marked_of_unlocated (h : t.Compiled) (hnone : t.located = none) : t.Marked ∧ ¬t.Produced := by
  have hp : ¬t.Produced := Artifact.not_produced_of_locate_eq_none hnone
  obtain ⟨r, hr, hs, hm⟩ := h
  exact ⟨⟨r, hr, hs, hm.resolve_right hp⟩, hp⟩

theorem judge_told (t : Trial) :
    ∃ started, t.judge.2.launches = t.lab.launches ++ started ∧ t.Told t.judge.1 started := by
  by_cases hc : t.Compiled
  · cases hlocated : t.located with
    | none =>
      rw [judge_of_compiled hc, hlocated]
      refine ⟨[t.compilerCommand], compilation_launches t, ?_⟩
      constructor <;> simp [CompileOutcome.resultType, hc, hlocated]
      exact marked_of_unlocated hc hlocated
    | some program =>
      rw [judge_of_located hc hlocated]
      refine ⟨[t.compilerCommand, t.programCommand program], execution_launches t program, ?_⟩
      obtain ⟨hs, ht, hk⟩ | ⟨hs, ht, hk⟩ | ⟨hs, ht, hk⟩ := programOutcome_cases t program
        t.settings.maxOutputLength ((t.execution program).2.now - t.startedAt)
      all_goals constructor <;> simp [hk, hc, hlocated, hs, ht]
  · obtain ⟨text, hj⟩ := judge_of_not_compiled hc
    rw [hj]
    refine ⟨[t.compilerCommand], compilation_launches t, ?_⟩
    constructor <;> simp [CompileOutcome.resultType, hc]

theorem judge_keeps {P : Lab → Prop} {launch : Launcher} {s : Settings} {directory : String}
    (hrun : ∀ (command : Command) (timeout : Nat) (l : Lab), command.directory = directory → P l →
      P (l.run launch (.ofSettings s) command timeout).2)
    (base : String) (startedAt : Nat) {l : Lab} (h : P l) :
    P (l.judge launch s directory base startedAt).2 := by
  let t : Trial := ⟨launch, s, directory, base, startedAt, l⟩
  have hbuilt : P t.built := hrun t.compilerCommand _ l rfl h
  change P t.judge.2
  by_cases hc : t.Compiled
  · cases hlocated : t.located with
    | none =>
      rw [judge_of_compiled hc, hlocated]
      exact hbuilt
    | some program =>
      rw [judge_of_located hc hlocated]
      exact hrun (t.programCommand program) _ t.built rfl hbuilt
  · obtain ⟨text, hj⟩ := judge_of_not_compiled hc
    rw [hj]
    exact hbuilt

theorem createWorkspace_of_create {s : Settings} {first : String} {l : Lab} {result : Except Failure Workspace}
    {tree : FileTree}
    (h : Workspace.create l.tree l.now l.home s.tempDirectory first (uuid l.drawn) = (result, tree)) :
    l.createWorkspace s first = (result, { l with drawn := l.drawn + 1, tree }) := by
  simp only [createWorkspace, draw, h]

theorem createWorkspace_launches (s : Settings) (first : String) (l : Lab) :
    (l.createWorkspace s first).2.launches = l.launches := by
  unfold createWorkspace
  rfl

theorem writeSource_launches (w : Workspace) (name content : String) (l : Lab) :
    (l.writeSource w name content).2.2.launches = l.launches := by
  unfold writeSource
  split
  rfl

end

section
variable {launch : Launcher} {s : Settings} {source : String} {l : Lab} {w : Workspace} {t : Trial}

theorem judgeInWorkspace_of_prepared (h : Trial.Prepared launch s source l w t) :
    ∃ u, accept s source = .ok u ∧
      l.judgeInWorkspace launch s u = (.ok t.judge.1, t.judge.2.dispose w) := by
  cases h with
  | @intro u _ _ _ _ _ _ accepted workspace name written =>
    subst name
    refine ⟨u, accepted, ?_⟩
    unfold judgeInWorkspace
    rw [workspace]
    dsimp only
    rw [written]
    rfl

theorem compileAndRun_of_prepared (h : Trial.Prepared launch s source l w t) :
    l.compileAndRun launch s source = (t.judge.1, t.judge.2.dispose w) := by
  obtain ⟨u, hu, hj⟩ := judgeInWorkspace_of_prepared h
  rw [compileAndRun, hu]
  dsimp only
  rw [hj]

theorem prepared_launches (h : Trial.Prepared launch s source l w t) : t.lab.launches = l.launches := by
  cases h with
  | @intro u empty w made ready n path accepted workspace name written =>
    have hmade := createWorkspace_launches s Workspace.runPrefix l
    have hready := writeSource_launches empty (baseName n ++ Artifact.sourceExtension) u.text
      (made.purge s).draw.2
    rw [workspace] at hmade
    rw [written] at hready
    exact hready.trans hmade

/-- Only the preparation can fail within the service. -/
theorem exists_prepared_iff {u : SourceUnit} (hu : accept s source = .ok u) :
    (∃ w t, Trial.Prepared launch s source l w t) ↔ (l.judgeInWorkspace launch s u).1.isOk = true := by
  constructor
  · rintro ⟨w, t, h⟩
    obtain ⟨u', hu', hj⟩ := judgeInWorkspace_of_prepared h
    cases hu.symm.trans hu'
    rw [hj]
    rfl
  · unfold judgeInWorkspace
    dsimp only
    split
    · exact fun h => nomatch h
    · next empty made hw =>
      split
      · exact fun h => nomatch h
      · next path w ready hs => exact fun _ => ⟨w, _, .intro hu hw rfl hs⟩

/-- What is answered to a source that could be prepared tells how compiler and program fared. -/
theorem compileAndRun_told (h : Trial.Prepared launch s source l w t) :
    ∃ started, (l.compileAndRun launch s source).2.launches = l.launches ++ started ∧
      t.Told (l.compileAndRun launch s source).1 started := by
  rw [compileAndRun_of_prepared h, ← prepared_launches h]
  exact judge_told t

theorem compileAndRun_told_refused :
    let s : Settings := { tempDirectory := "/t" }
    let l := ofSettings s {} [] 0
    ∃ w t, Trial.Prepared (fun _ => .refused "") s "x" l w t ∧
      ∃ started, (l.compileAndRun (fun _ => .refused "") s "x").2.launches = l.launches ++ started ∧
        t.Told (l.compileAndRun (fun _ => .refused "") s "x").1 started := by
  intro s l
  have hu : accept s "x" = .ok (.forCompile "x") := by
    rw [accept, if_neg (by decide), if_neg (by decide)]
  have hready : ∃ w t, Trial.Prepared (fun _ => .refused "") s "x" l w t :=
    (exists_prepared_iff hu).mpr (by decide +kernel)
  obtain ⟨w, t, h⟩ := hready
  exact ⟨w, t, h, compileAndRun_told h⟩

end

end Lab
end SnippetLab
