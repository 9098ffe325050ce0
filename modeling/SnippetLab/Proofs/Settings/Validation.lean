import SnippetLab.CommandLine.Run
import SnippetLab.Proofs.Except

/-!
What the check of settings lets pass, and what comes of the layers of the command line: the file, the environment and
the option for the compiler. The check looks at what all of them have left.
-/
namespace SnippetLab

open SnippetLab.Text

namespace Settings

variable {s s' : Settings} {failure : Failure}

def paths (s : Settings) : List (Field × String) :=
  [(.compilerPath, s.compilerPath), (.tempDirectory, s.tempDirectory)]

/-- The paths hold something, if only white space, and the limits are positive. -/
structure IsUsable (s : Settings) : Prop where
  path : ∀ p ∈ s.paths, p.2 ≠ ""
  limit : ∀ p ∈ s.positives, 0 < p.2

theorem problem?_eq_none_iff : s.problem? = none ↔ s.IsUsable := by
  constructor
  · intro h
    unfold problem? at h
    split at h
    · cases h
    · next hcompiler =>
      split at h
      · cases h
      · next htemp =>
        refine ⟨by simp_all [paths], fun p hp => ?_⟩
        have hzero := List.find?_eq_none.mp (Option.map_eq_none_iff.mp h) p hp
        exact Nat.pos_of_ne_zero (by simpa using hzero)
  · intro h
    have hcompiler : s.compilerPath ≠ "" := h.path (.compilerPath, s.compilerPath) (by simp [paths])
    have htemp : s.tempDirectory ≠ "" := h.path (.tempDirectory, s.tempDirectory) (by simp [paths])
    have hlimits : s.positives.find? (·.2 == 0) = none :=
      List.find?_eq_none.mpr fun p hp => by simpa using Nat.ne_of_gt (h.limit p hp)
    simp [problem?, hcompiler, htemp, hlimits]

theorem validate_eq_ok_iff : s.validate = .ok () ↔ s.IsUsable := by
  rw [← problem?_eq_none_iff, validate]
  cases s.problem? <;> simp

def overlaid (s : Settings) (env : Environment) (compilation execution : Option Nat) : Settings :=
  { s with
    compilerPath := (env Environment.compilerPath).getD s.compilerPath
    tempDirectory := (env Environment.tempDirectory).getD s.tempDirectory
    compilationTimeoutMs := compilation.getD s.compilationTimeoutMs
    executionTimeoutMs := execution.getD s.executionTimeoutMs }

theorem override_eq_none_iff {env : Environment} : s.override env = (none, s') ↔
    ∃ compilation execution, env.milliseconds Environment.compilationTimeout = .ok compilation ∧
      env.milliseconds Environment.executionTimeout = .ok execution ∧
      s' = s.overlaid env compilation execution := by
  unfold override
  cases env.milliseconds Environment.compilationTimeout with
  | error e => simp
  | ok compilation =>
    cases env.milliseconds Environment.executionTimeout with
    | error e => simp
    | ok execution => simp [overlaid, eq_comm]

end Settings

namespace CommandLine

variable {i : Invocation} {env : Environment} {t : FileTree} {home : Place} {s : Settings}

def loaded (i : Invocation) (t : FileTree) (home : Place) : Except LoadError Settings :=
  match i.config with
  | some path => Settings.loadFrom t home path
  | none => Settings.loadDefault t home

def equipped (i : Invocation) (s : Settings) : Settings := { s with compilerPath := i.compiler.getD s.compilerPath }

theorem settings_eq (i : Invocation) (env : Environment) (t : FileTree) (home : Place) :
    settings i env t home = (loaded i t home).mapError LoadError.failure >>= fun base =>
      match base.override env with
      | (none, s) => (equipped i s).validate.map fun _ => equipped i s
      | (some e, _) => .error e := by
  unfold settings loaded
  cases i.config <;> rfl

/-- There are settings to run with just if each layer can be read and what they leave is usable, with paths that may
be of white space. -/
theorem settings_eq_ok_iff (i : Invocation) (env : Environment) (t : FileTree) (home : Place) (s : Settings) :
    settings i env t home = .ok s ↔ ∃ base compilation execution, loaded i t home = .ok base ∧
      env.milliseconds Environment.compilationTimeout = .ok compilation ∧
      env.milliseconds Environment.executionTimeout = .ok execution ∧
      s = equipped i (base.overlaid env compilation execution) ∧ s.IsUsable := by
  rw [settings_eq, Except.bind_eq_ok_iff]
  constructor
  · rintro ⟨base, hbase, h⟩
    split at h
    · next s' hover =>
      obtain ⟨compilation, execution, hcompilation, hexecution, rfl⟩ := Settings.override_eq_none_iff.mp hover
      obtain ⟨⟨⟩, hvalid, rfl⟩ := Except.map_eq_ok_iff.mp h
      exact ⟨base, compilation, execution, Except.mapError_eq_ok_iff.mp hbase, hcompilation, hexecution, rfl,
        Settings.validate_eq_ok_iff.mp hvalid⟩
    · cases h
  · rintro ⟨base, compilation, execution, hbase, hcompilation, hexecution, rfl, husable⟩
    refine ⟨base, Except.mapError_eq_ok_iff.mpr hbase, ?_⟩
    rw [Settings.override_eq_none_iff.mpr ⟨compilation, execution, hcompilation, hexecution, rfl⟩]
    exact Except.map_eq_ok_iff.mpr ⟨(), Settings.validate_eq_ok_iff.mpr husable, rfl⟩

/-- White space passes for a path. -/
theorem settings_blank :
    ¬∀ (i : Invocation) (env : Environment) (t : FileTree) (home : Place) (s : Settings),
      settings i env t home = .ok s → ∀ p ∈ s.paths, allBlank p.2.toList = false := by
  intro h
  have hloads : settings { config := none, compiler := none, task := .checkCompiler }
      (.ofList [(Environment.tempDirectory, " ")]) {} [] = .ok { tempDirectory := " " } := rfl
  have hblank := h _ _ _ _ _ hloads (.tempDirectory, " ") (by decide)
  revert hblank
  decide

end CommandLine
end SnippetLab
