import SnippetLab.Proofs.Settings.Document
import SnippetLab.Proofs.Settings.Validation
import SnippetLab.Proofs.Text.Decimal

/-!
Settings under an environment. A path is overridden whenever its variable is set. The timeouts come after the paths and
one after the other, and overriding stops at the first variable that holds no number of milliseconds; what was
overridden before stays.
-/
namespace SnippetLab

open SnippetLab.Text

namespace Environment

variable {env : Environment} {name : String}

/-- The variable holds a number of milliseconds below 2^64, and maybe white space around it. -/
def Gives (env : Environment) (name : String) (n : Nat) : Prop :=
  ∃ raw, env name = some raw ∧ IsNumeral (trim raw.toList) n ∧ n < UInt64.size

def IsMalformed (env : Environment) (name : String) : Prop :=
  ∃ raw, env name = some raw ∧ ∀ n, ¬(IsNumeral (trim raw.toList) n ∧ n < UInt64.size)

/-- The variable that ends the overriding. -/
inductive StopsAt (env : Environment) : String → Prop
  | compilation (malformed : env.IsMalformed compilationTimeout) : StopsAt env compilationTimeout
  | execution (before : ¬env.IsMalformed compilationTimeout) (malformed : env.IsMalformed executionTimeout) :
      StopsAt env executionTimeout

def complaint (name reason : String) : Failure := .config (name ++ " is not a millisecond count: " ++ reason)

theorem milliseconds_cases (env : Environment) (name : String) :
    env.IsMalformed name ∧ (∃ reason, env.milliseconds name = .error (complaint name reason)) ∨
    ¬env.IsMalformed name ∧ ∃ value, env.milliseconds name = .ok value ∧ ∀ n, value = some n ↔ env.Gives name n := by
  unfold milliseconds
  cases hraw : env name with
  | none =>
    refine .inr ⟨fun ⟨raw, hset, _⟩ => ?_, none, rfl, fun n => iff_of_false (fun h => nomatch h) fun ⟨raw, hset, _⟩ => ?_⟩
    all_goals simp [hraw] at hset
  | some raw =>
    have hread (n : Nat) : readNatural UInt64.size (trim raw.toList) = .ok n ↔
        IsNumeral (trim raw.toList) n ∧ n < UInt64.size := readNatural_eq_ok_iff (by decide)
    dsimp only
    cases hvalue : readNatural UInt64.size (trim raw.toList) with
    | error e =>
      refine .inl ⟨⟨raw, hraw, fun n hn => ?_⟩, e.message, rfl⟩
      cases hvalue.symm.trans ((hread n).mpr hn)
    | ok m =>
      have hm := (hread m).mp hvalue
      refine .inr ⟨fun ⟨raw', hset, hnot⟩ => ?_, some m, rfl, fun n => ⟨?_, fun ⟨raw', hset, hn⟩ => ?_⟩⟩
      · obtain rfl := Option.some.inj (hraw.symm.trans hset)
        exact hnot m hm
      · rintro ⟨⟩
        exact ⟨raw, hraw, hm⟩
      · obtain rfl := Option.some.inj (hraw.symm.trans hset)
        cases hvalue.symm.trans ((hread n).mpr hn)
        rfl

end Environment

namespace Settings

open Environment

variable {s : Settings} {env : Environment}

def overridable : List Field := [.compilerPath, .tempDirectory, .compilationTimeoutMs, .executionTimeoutMs]

theorem get_overlaid_of_not_mem {f : Field} (h : f ∉ overridable) (compilation execution : Option Nat) :
    (s.overlaid env compilation execution).get f = s.get f := by
  cases f <;> first | rfl | exact absurd (by decide) h

/-- A variable that is laid over the settings once more changes nothing. -/
theorem overlaid_overlaid (compilation execution : Option Nat) :
    (s.overlaid env compilation execution).overlaid env compilation execution =
      s.overlaid env compilation execution := by
  have hagain {α : Type} (value : Option α) (x : α) : value.getD (value.getD x) = value.getD x := by cases value <;> rfl
  simp only [overlaid, hagain]

theorem exists_override_eq (env : Environment) : ∃ failure compilation execution,
    (∀ s : Settings, s.override env = (failure, s.overlaid env compilation execution)) ∧
    (∀ n, compilation = some n ↔ env.Gives compilationTimeout n) ∧
    (∀ n, execution = some n ↔ ¬env.IsMalformed compilationTimeout ∧ env.Gives executionTimeout n) ∧
    (failure = none ∧ (∀ name, ¬env.StopsAt name) ∨
      ∃ name reason, env.StopsAt name ∧ failure = some (complaint name reason)) := by
  have hgives {name : String} (h : env.IsMalformed name) (n : Nat) : ¬env.Gives name n := by
    obtain ⟨raw, hset, hnot⟩ := h
    rintro ⟨raw', hset', hn⟩
    obtain rfl := Option.some.inj (hset.symm.trans hset')
    exact hnot n hn
  obtain ⟨hbad, reason, herror⟩ | ⟨hgood, compilation, hok, hcompilation⟩ := milliseconds_cases env compilationTimeout
  · refine ⟨some (complaint compilationTimeout reason), none, none, fun s => ?_, fun n => ?_, fun n => ?_, .inr ?_⟩
    · simp only [override, herror, overlaid, Option.getD_none]
    · exact iff_of_false (by simp) (hgives hbad n)
    · exact iff_of_false (by simp) fun h => h.1 hbad
    · exact ⟨compilationTimeout, reason, .compilation hbad, rfl⟩
  obtain ⟨hbad, reason, herror⟩ | ⟨hgood', execution, hok', hexecution⟩ := milliseconds_cases env executionTimeout
  · refine ⟨some (complaint executionTimeout reason), compilation, none, fun s => ?_, hcompilation, fun n => ?_, .inr ?_⟩
    · simp only [override, hok, herror, overlaid, Option.getD_none]
    · exact iff_of_false (by simp) fun h => hgives hbad n h.2
    · exact ⟨executionTimeout, reason, .execution hgood hbad, rfl⟩
  · refine ⟨none, compilation, execution, fun s => ?_, hcompilation, fun n => ?_, .inl ⟨rfl, fun name hstop => ?_⟩⟩
    · simp only [override, hok, hok', overlaid]
    · rw [hexecution, and_iff_right hgood]
    · cases hstop with
      | compilation hbad => exact hgood hbad
      | execution _ hbad => exact hgood' hbad

/-- **Overriding.** It fails just if one of the timeouts has a variable that holds no number, and names the first such
one. The paths take the values of their variables in any case, a timeout that of its variable if it comes before the
failure; no other field changes, and overriding once more changes nothing. -/
theorem override_exact (s : Settings) (env : Environment) :
    ((s.override env).1 ≠ none ↔ env.IsMalformed compilationTimeout ∨
      ¬env.IsMalformed compilationTimeout ∧ env.IsMalformed executionTimeout) ∧
    (∀ failure, (s.override env).1 = some failure →
      ∃ name reason, env.StopsAt name ∧ failure = complaint name reason) ∧
    (∃ compilation execution, (s.override env).2 = s.overlaid env compilation execution ∧
      (∀ n, compilation = some n ↔ env.Gives compilationTimeout n) ∧
      ∀ n, execution = some n ↔ ¬env.IsMalformed compilationTimeout ∧ env.Gives executionTimeout n) ∧
    (∀ f ∉ overridable, (s.override env).2.get f = s.get f) ∧
    (s.override env).2.override env = s.override env := by
  obtain ⟨failure, compilation, execution, hover, hcompilation, hexecution, hfailure⟩ := exists_override_eq env
  rw [hover s]
  refine ⟨?_, fun e he => ?_, ⟨compilation, execution, rfl, hcompilation, hexecution⟩,
    fun f hf => get_overlaid_of_not_mem hf _ _, ?_⟩
  · obtain ⟨rfl, hnever⟩ | ⟨name, reason, hstop, rfl⟩ := hfailure
    · refine iff_of_false (fun h => h rfl) ?_
      rintro (hbad | ⟨hgood, hbad⟩)
      · exact hnever _ (.compilation hbad)
      · exact hnever _ (.execution hgood hbad)
    · refine iff_of_true (fun h => nomatch h) ?_
      cases hstop with
      | compilation hbad => exact .inl hbad
      | execution hgood hbad => exact .inr ⟨hgood, hbad⟩
  · obtain ⟨rfl, -⟩ | ⟨name, reason, hstop, rfl⟩ := hfailure
    · cases he
    · exact ⟨name, reason, hstop, (Option.some.inj he).symm⟩
  · rw [hover, overlaid_overlaid]

/-- The timeout of the compiler is 2^64 ms, which is refused, so that of programs stays; the path is taken. -/
example : Settings.override {} (.ofList [(Environment.tempDirectory, "/t"), (compilationTimeout, " +18446744073709551616 "),
      (executionTimeout, "7")]) =
    (some (complaint compilationTimeout "number too large to fit in target type"), { tempDirectory := "/t" }) := by
  decide +kernel

end Settings
end SnippetLab
