import SnippetLab.Proofs.Symbol.Definition

/-! The word `External` behind a definition. The rule for the user's functions looks for it up to the end of the line,
the rule for external ones up to the next parenthesis, and so they differ where one of these two comes first. -/
namespace SnippetLab

open SnippetLab.Text

namespace MiningRule

variable {text : List Char} {name : String} {i : Nat}

def behind (text : List Char) (name : String) (i : Nat) : List Char :=
  text.drop (i + (functionMarker name).length)

def FlaggedOnLine (text : List Char) (name : String) (i : Nat) : Prop :=
  occursIn external (firstLine (behind text name i)) = true

def FlaggedInNode (text : List Char) (name : String) (i : Nat) : Prop :=
  occursIn external ((behind text name i).takeWhile (· ≠ '(')) = true

/-- The rest of the line has the word, but it belongs to another node. -/
def Overshadowed (text : List Char) (name : String) (i : Nat) : Prop :=
  FlaggedOnLine text name i ∧ ¬FlaggedInNode text name i

instance : Decidable (DefinedAt text name i) := inferInstanceAs (Decidable (_ <+: _))
instance : Decidable (FlaggedOnLine text name i) := inferInstanceAs (Decidable (_ = true))
instance : Decidable (FlaggedInNode text name i) := inferInstanceAs (Decidable (_ = true))

theorem not_overshadowed_iff :
    ¬Overshadowed text name i ↔ ¬FlaggedOnLine text name i ∨ FlaggedInNode text name i := by
  rw [Overshadowed, Decidable.not_and_iff_not_or_not, Decidable.not_not]

/-! ### The first flag -/

theorem external_ne_nil : external ≠ [] := by decide

theorem flaggedOnLine_iff :
    FlaggedOnLine text name i ↔
      ∃ k, IsFirstAt external (behind text name i) k ∧ '\n' ∉ (behind text name i).take k :=
  occursIn_takeWhile_iff external_ne_nil (by decide)

theorem flaggedInNode_iff :
    FlaggedInNode text name i ↔
      ∃ k, IsFirstAt external (behind text name i) k ∧ '(' ∉ (behind text name i).take k :=
  occursIn_takeWhile_iff external_ne_nil (by decide)

/-- Only what stands in front of the first flag can make a difference. -/
theorem flaggedOnLine_iff_flaggedInNode_iff :
    (FlaggedOnLine text name i ↔ FlaggedInNode text name i) ↔
      ∀ k, IsFirstAt external (behind text name i) k →
        ('\n' ∈ (behind text name i).take k ↔ '(' ∈ (behind text name i).take k) := by
  rw [flaggedOnLine_iff, flaggedInNode_iff]
  constructor
  · intro hagree k hk
    have hfree (c : Char) : (∃ k, IsFirstAt external (behind text name i) k ∧ c ∉ (behind text name i).take k) ↔
        c ∉ (behind text name i).take k := by
      constructor
      · rintro ⟨j, hj, hc⟩
        rwa [hk.unique hj]
      · intro hc
        exact ⟨k, hk, hc⟩
    rw [hfree, hfree] at hagree
    exact Decidable.not_iff_not.mp hagree
  · intro hsame
    constructor
    · rintro ⟨k, hk, hline⟩
      exact ⟨k, hk, fun hnode => hline ((hsame k hk).mpr hnode)⟩
    · rintro ⟨k, hk, hnode⟩
      exact ⟨k, hk, fun hline => hnode ((hsame k hk).mp hline)⟩

/-! ### The matches are the definitions with a flag of their own -/

theorem externalPattern_eq_some_iff {before : Option Char} {cs rest : List Char} {capture : Capture} :
    externalPattern before cs = some (capture, rest) ↔
      ∃ left reach, functionPattern before cs = some (capture, left) ∧
        IsLastAt external (left.takeWhile (· ≠ '(')) reach ∧ rest = left.drop (reach + external.length) := by
  simp only [externalPattern, Option.bind_eq_bind, Option.bind_eq_some_iff, Option.pure_def, Option.some.injEq,
    Prod.mk.injEq, findLast?_eq_some_iff external_ne_nil]
  constructor
  · rintro ⟨⟨found, left⟩, hfound, reach, hreach, rfl, rfl⟩
    exact ⟨left, reach, hfound, hreach, rfl⟩
  · rintro ⟨left, reach, hfound, hreach, rfl⟩
    exact ⟨(capture, left), hfound, reach, hreach, rfl, rfl⟩

theorem externalPattern_advances : externalPattern.Advances := by
  intro before cs capture rest h
  obtain ⟨left, reach, hfound, -, rfl⟩ := externalPattern_eq_some_iff.mp h
  obtain ⟨hsuffix, hshort⟩ := named_advances _ _ before cs capture left hfound
  have hrest : left.drop (reach + external.length) <:+ left := List.drop_suffix _ _
  refine ⟨hrest.trans hsuffix, ?_⟩
  have hlength := hrest.length_le
  omega

/-- A match ends in front of the next parenthesis, and so it reaches over no other definition. -/
theorem of_mem_captures_externalPattern {m : Match Capture} (hm : m ∈ captures externalPattern text name) :
    IsQuotable name ∧ DefinedAt text name m.start ∧ FlaggedInNode text name m.start ∧
      ∀ other j, IsQuotable other → DefinedAt text other j → m.start < j → m.stop ≤ j := by
  rw [captures, List.mem_filter, decide_eq_true_eq] at hm
  obtain ⟨hmem, rfl⟩ := hm
  have hof := Pattern.isOf_of_mem_findAll externalPattern_advances hmem
  obtain ⟨left, reach, hfound, hreach, hrest⟩ := externalPattern_eq_some_iff.mp hof.holds
  obtain ⟨hname, -, hsplit⟩ := functionPattern_eq_some_iff.mp hfound
  have hleft : left = behind text m.value.name m.start := by
    rw [behind, ← List.drop_drop, hsplit, List.drop_left]
  have hdefined : DefinedAt text m.value.name m.start := ⟨left, hsplit.symm⟩
  refine ⟨hname, hdefined, ?_, ?_⟩
  · rw [FlaggedInNode, ← hleft]
    exact occursIn_iff.mpr (infix_iff_exists_stands.mpr ⟨reach, hreach.stands⟩)
  · intro other j hother hj hlt
    have hle := hdefined.add_length_le hname hj hother hlt
    have hrun : left.takeWhile (· ≠ '(') <+: text.drop (m.start + (functionMarker m.value.name).length) := by
      rw [hleft, behind]
      exact List.takeWhile_prefix _
    have hfree : '(' ∉ left.takeWhile (· ≠ '(') := by
      intro hmem
      simpa using List.all_eq_true.mp List.all_takeWhile '(' hmem
    have hbehind := add_length_le_of_not_mem hrun hj hle (head?_functionMarker other) hfree
    have hfits := add_length_le_of_stands external_ne_nil hreach.stands
    have hshort := hrun.length_le
    have hlength := congrArg List.length hrest
    have hstop := hof.stop_le
    rw [hleft, behind] at hlength
    simp only [List.length_drop] at hlength hshort
    omega

theorem exists_mem_captures_externalPattern (hname : IsQuotable name) (h : DefinedAt text name i)
    (hflag : FlaggedInNode text name i) : ∃ m ∈ captures externalPattern text name, m.start = i := by
  obtain ⟨rest, hrest, -⟩ := h.exists_split
  have hbehind : rest = behind text name i := by rw [behind, ← List.drop_drop, hrest, List.drop_left]
  obtain ⟨k, hk⟩ := infix_iff_exists_stands.mp (occursIn_iff.mp hflag)
  obtain ⟨reach, hreach⟩ := exists_isLastAt external_ne_nil hk
  have hmatch : externalPattern (text.take i).getLast? (text.drop i) =
      some ({ name }, rest.drop (reach + external.length)) :=
    externalPattern_eq_some_iff.mpr
      ⟨rest, reach, functionPattern_eq_some_iff.mpr ⟨hname, rfl, hrest⟩, hbehind ▸ hreach, rfl⟩
  refine exists_mem_captures externalPattern_advances (fun other m hm => ?_) hname h hmatch
  obtain ⟨hother, hdefined, -, hapart⟩ := of_mem_captures_externalPattern hm
  exact ⟨hother, hdefined, hapart⟩

theorem exists_mem_captures_iff (hname : IsQuotable name) (h : DefinedAt text name i) :
    (∃ m ∈ captures externalPattern text name, m.start = i) ↔ FlaggedInNode text name i := by
  constructor
  · rintro ⟨m, hm, rfl⟩
    exact (of_mem_captures_externalPattern hm).2.2.1
  · exact exists_mem_captures_externalPattern hname h

theorem isExternal_iff :
    IsExternal text name ↔ IsQuotable name ∧ ∃ i, DefinedAt text name i ∧ FlaggedInNode text name i := by
  constructor
  · intro h
    obtain ⟨m, hm⟩ := List.exists_mem_of_ne_nil _ h
    obtain ⟨hname, hdefined, hflag, -⟩ := of_mem_captures_externalPattern hm
    exact ⟨hname, m.start, hdefined, hflag⟩
  · rintro ⟨hname, i, hdefined, hflag⟩
    obtain ⟨m, hm, -⟩ := exists_mem_captures_externalPattern hname hdefined hflag
    exact List.ne_nil_of_mem hm

/-! ### What the two rules find -/

theorem mines_userFunction_iff (hname : IsQuotable name) (hown : isInternalFunction name = false)
    (fullDump : List Char) :
    userFunction.Mines text fullDump name ↔ ∃ i, DefinedAt text name i ∧ ¬FlaggedOnLine text name i := by
  have hrejected (i : Nat) : RejectedAt text name i ↔ FlaggedOnLine text name i := by
    simp [RejectedAt, FlaggedOnLine, behind, hown]
  rw [mines_iff_lastOf, lastOf_userFunction, Option.isSome_ite, definesFunction_iff]
  simp only [hrejected, hname, true_and]

theorem mines_externalFunction_iff (hname : IsQuotable name) (userSection : List Char) :
    externalFunction.Mines userSection text name ↔ ∃ i, DefinedAt text name i ∧ FlaggedInNode text name i := by
  rw [mines_iff_firstOf, firstOf_externalFunction, Option.isSome_ite, isExternal_iff]
  simp only [hname, true_and]

theorem exists_propose_iff (hname : IsQuotable name) (h : DefinedAt text name i) (fullDump : List Char) :
    ∃ m ∈ captures functionPattern text name, m.start = i ∧
      (userFunction.propose (found text (userFunction.scanned text fullDump) m) = none ↔
        isInternalFunction name = true ∨ FlaggedOnLine text name i) := by
  obtain ⟨m, hm, hstart, hstop⟩ := exists_mem_captures_functionPattern hname h
  refine ⟨m, hm, hstart, ?_⟩
  have hcapture : m.value.name = name := of_decide_eq_true (List.mem_filter.mp hm).2
  cases hinternal : isInternalFunction name <;>
    simp [userFunction, found, scanned, FlaggedOnLine, behind, hstop, hcapture, hinternal]

/-- The two rules agree on a definition iff, in front of the first flag behind it, the line ends just when another node
begins. Where both texts are the same, a function of the user's or an external one is passed over by both rules iff each
of its definitions has the flag of another node on its line. -/
theorem flags_agree_iff (text : List Char) (name : String) (hname : IsQuotable name) :
    (∀ i, DefinedAt text name i → ∃ m ∈ captures functionPattern text name, m.start = i ∧
      (userFunction.propose (found text (userFunction.scanned text text) m) = none ↔
        isInternalFunction name = true ∨ FlaggedOnLine text name i)) ∧
    (∀ i, DefinedAt text name i →
      ((FlaggedOnLine text name i ↔ ∃ m ∈ captures externalPattern text name, m.start = i) ↔
        ∀ k, IsFirstAt external (behind text name i) k →
          ('\n' ∈ (behind text name i).take k ↔ '(' ∈ (behind text name i).take k))) ∧
    (isInternalFunction name = false →
      ((userFunction.Mines text text name ∨ externalFunction.Mines text text name) ↔
        ∃ i, DefinedAt text name i ∧ ¬Overshadowed text name i)) := by
  refine ⟨fun i h => exists_propose_iff hname h text, ?_, ?_⟩
  · intro i h
    rw [exists_mem_captures_iff hname h, flaggedOnLine_iff_flaggedInNode_iff]
  · intro hown
    rw [mines_userFunction_iff hname hown, mines_externalFunction_iff hname, ← exists_or]
    apply exists_congr
    intro i
    rw [← and_or_left, not_overshadowed_iff]

def neighbours : List Char :=
  "(Function \"шаг\" \"functype\") ".toList ++ "(Function \"печать\" \"functype\" External)".toList

theorem isQuotable_neighbour : IsQuotable "печать" := ⟨by decide, by decide⟩

/-- The external one is read alike by both rules, and one of them finds it. -/
theorem flags_agree_iff_neighbour :
    IsQuotable "печать" ∧ DefinedAt neighbours "печать" 28 ∧ isInternalFunction "печать" = false ∧
      (FlaggedOnLine neighbours "печать" 28 ↔ ∃ m ∈ captures externalPattern neighbours "печать", m.start = 28) ∧
      (userFunction.Mines neighbours neighbours "печать" ∨ externalFunction.Mines neighbours neighbours "печать") := by
  have hdefined : DefinedAt neighbours "печать" 28 := by decide +kernel
  have hown : isInternalFunction "печать" = false := by decide
  obtain ⟨-, hagree, hmined⟩ := flags_agree_iff neighbours "печать" isQuotable_neighbour
  refine ⟨isQuotable_neighbour, hdefined, hown, (hagree 28 hdefined).mpr ?_, (hmined hown).mpr ⟨28, hdefined, ?_⟩⟩
  · intro k hk
    have hfirst : k = 1 := by
      apply hk.unique
      apply find?_eq_some_iff.mp
      decide +kernel
    rw [hfirst]
    decide +kernel
  · rw [not_overshadowed_iff]
    decide +kernel

/-- An external definition whose flag stands on the next line. -/
def flagBelow : List Char := "(Function \"печать\" \"functype\"\n  External)".toList

/-- A function is lost to the flag of another one on its line, and an external one whose flag stands further down counts
as the user's. -/
theorem flags_disagree :
    (DefinedAt neighbours "шаг" 0 ∧ isInternalFunction "шаг" = false ∧ FlaggedOnLine neighbours "шаг" 0 ∧
      captures externalPattern neighbours "шаг" = [] ∧
      (SymbolMap.mineSection neighbours neighbours).get? "шаг" = none) ∧
    DefinedAt flagBelow "печать" 0 ∧ ¬FlaggedOnLine flagBelow "печать" 0 ∧
      (∃ m ∈ captures externalPattern flagBelow "печать", m.start = 0) ∧
      (SymbolMap.mineSection flagBelow flagBelow).get? "печать" = some ⟨.userFunction, none⟩ := by
  decide +kernel

end MiningRule
end SnippetLab
