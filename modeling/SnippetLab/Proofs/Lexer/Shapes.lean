import SnippetLab.Lexer.Tokens
import SnippetLab.Proofs.Text.Pattern

/-! The alphabets of the token patterns, and what the patterns take of a line. -/
namespace SnippetLab.Lexer

open SnippetLab.Text

/-! ### The alphabets -/

theorem continuesIdentifier_eq (c : Char) : continuesIdentifier c = (startsIdentifier c || isDigit c || c = '-') :=
  rfl

theorem continuesIdentifier_of_starts {c : Char} (h : startsIdentifier c = true) : continuesIdentifier c = true := by
  simp [continuesIdentifier, h]

theorem of_isOperator {P : Char → Bool} (hall : "+-*/=<>!&|^%:;,.()[]\x7b\x7d".toList.all P = true) {c : Char}
    (h : isOperator c = true) : P c = true :=
  List.all_eq_true.mp hall c (List.contains_iff_mem.mp h)

theorem isDigit_of_isOperator {c : Char} (h : isOperator c = true) : isDigit c = false := by
  simpa using of_isOperator (P := fun c => !isDigit c) (by decide) h

theorem eq_hyphen_of_isOperator {c : Char} (h : isOperator c = true) (hc : continuesIdentifier c = true) :
    c = '-' := by
  simpa [hc] using of_isOperator (P := fun c => !continuesIdentifier c || c = '-') (by decide) h

theorem startsIdentifier_of_isOperator {c : Char} (h : isOperator c = true) : startsIdentifier c = false := by
  simpa using of_isOperator (P := fun c => !startsIdentifier c) (by decide) h

theorem isDigit_iff {c : Char} : isDigit c = true ↔ 48 ≤ c.toNat ∧ c.toNat ≤ 57 := by
  simp only [isDigit, Bool.and_eq_true, decide_eq_true_eq, Char.le_def, UInt32.le_iff_toNat_le]
  rfl

theorem startsIdentifier_iff {c : Char} : startsIdentifier c = true ↔
    1072 ≤ c.toNat ∧ c.toNat ≤ 1103 ∨ c.toNat = 1105 ∨ 1040 ≤ c.toNat ∧ c.toNat ≤ 1071 ∨ c.toNat = 1025 ∨
      97 ≤ c.toNat ∧ c.toNat ≤ 122 ∨ 65 ≤ c.toNat ∧ c.toNat ≤ 90 ∨ c.toNat = 95 := by
  simp only [startsIdentifier, Bool.or_eq_true, Bool.and_eq_true, decide_eq_true_eq, Char.le_def,
    UInt32.le_iff_toNat_le, ← Char.toNat_inj, or_assoc]
  rfl

theorem covers_of_range {low count n : Nat} (h : (List.range' low count).all wordRanges.covers = true)
    (hn : low ≤ n ∧ n < low + count) : wordRanges.covers n = true :=
  List.all_eq_true.mp h n (List.mem_range'_1.mpr hn)

theorem isWordChar_of_word {c : Char} (h : isDigit c = true ∨ startsIdentifier c = true) : isWordChar c = true := by
  rw [isDigit_iff, startsIdentifier_iff] at h
  have hdigits : (List.range' 48 10).all wordRanges.covers = true := by decide +kernel
  have hcapitals : (List.range' 65 26).all wordRanges.covers = true := by decide +kernel
  have hletters : (List.range' 97 26).all wordRanges.covers = true := by decide +kernel
  have hunderscore : (List.range' 95 1).all wordRanges.covers = true := by decide +kernel
  -- The block from one yo to the other.
  have hrussian : (List.range' 1025 81).all wordRanges.covers = true := by decide +kernel
  unfold isWordChar
  rcases h with h | h | h | h | h | h | h | h
  · exact covers_of_range hdigits (by omega)
  · exact covers_of_range hrussian (by omega)
  · exact covers_of_range hrussian (by omega)
  · exact covers_of_range hrussian (by omega)
  · exact covers_of_range hrussian (by omega)
  · exact covers_of_range hletters (by omega)
  · exact covers_of_range hcapitals (by omega)
  · exact covers_of_range hunderscore (by omega)

theorem isDigit_of_starts {c : Char} (h : startsIdentifier c = true) : isDigit c = false := by
  rw [← Bool.not_eq_true, isDigit_iff]
  rw [startsIdentifier_iff] at h
  omega

theorem eq_hyphen_of_not_isWordChar {c : Char} (h : continuesIdentifier c = true) (hc : isWordChar c = false) :
    c = '-' := by
  have hnot (hword : isDigit c = true ∨ startsIdentifier c = true) : False := by
    rw [isWordChar_of_word hword] at hc
    cases hc
  simp only [continuesIdentifier_eq, Bool.or_eq_true, decide_eq_true_eq] at h
  rcases h with (h | h) | h
  · exact (hnot (.inr h)).elim
  · exact (hnot (.inl h)).elim
  · exact h

/-! ### What the token patterns take -/

def wordShape : Shape := ⟨startsIdentifier, continuesIdentifier, continuesIdentifier⟩

def operatorShape : Shape := ⟨isOperator, fun _ => false, isOperator⟩

def quotedShape : Shape := ⟨(· = '"'), fun _ => true, (· = '"')⟩

def numeralShape : Shape := ⟨isDigit, fun c => isDigit c || c = '.', isDigit⟩

theorem identifier_reads : identifier.Reads wordShape := by
  intro before cs value rest h
  obtain ⟨⟨front, left⟩, hid, heq⟩ := Option.map_eq_some_iff.mp h
  cases heq
  cases cs with
  | nil => cases hid
  | cons c cs =>
    simp only [identifier?] at hid
    split at hid
    · next hstarts =>
      cases hid
      have hlater : ∀ d ∈ cs.takeWhile continuesIdentifier, continuesIdentifier d = true :=
        List.all_eq_true.mp List.all_takeWhile
      refine ⟨c :: cs.takeWhile continuesIdentifier, ⟨by simp, ?_, hlater, ?_⟩, by simp⟩
      · rintro d ⟨⟩
        exact hstarts
      · intro d hd
        rcases List.mem_cons.mp (List.mem_of_getLast? hd) with rfl | hmem
        · exact continuesIdentifier_of_starts hstarts
        · exact hlater d hmem
    · cases hid

theorem operator_reads : operator.Reads operatorShape := by
  intro before cs value rest h
  cases cs with
  | nil => cases h
  | cons c cs =>
    simp only [operator] at h
    split at h
    · next hop =>
      cases h
      exact ⟨[c], ⟨by simp, by simpa [operatorShape], by simp, by simpa [operatorShape]⟩, rfl⟩
    · cases h

theorem closingQuote?_append {cs rest : List Char} (h : closingQuote? cs = some rest) :
    ∃ inside, cs = inside ++ '"' :: rest := by
  fun_induction closingQuote? cs with
  | case1 => cases h
  | case2 cs =>
    cases h
    exact ⟨[], rfl⟩
  | case3 d cs ih =>
    obtain ⟨inside, rfl⟩ := ih h
    exact ⟨'\\' :: d :: inside, rfl⟩
  | case4 => cases h
  | case5 c cs _ _ _ ih =>
    obtain ⟨inside, rfl⟩ := ih h
    exact ⟨c :: inside, rfl⟩

theorem stringLiteral_reads : stringLiteral.Reads quotedShape := by
  intro before cs value rest h
  unfold stringLiteral at h
  split at h
  · next cs =>
    obtain ⟨rest, hclose, heq⟩ := Option.map_eq_some_iff.mp h
    cases heq
    obtain ⟨inside, rfl⟩ := closingQuote?_append hclose
    refine ⟨'"' :: (inside ++ ['"']), ⟨by simp, ?_, fun _ _ => rfl, ?_⟩, by simp⟩
    · rintro c ⟨⟩
      rfl
    · intro c hc
      rw [List.getLast?_cons, List.getLast?_append] at hc
      cases hc
      rfl
  · cases h

theorem fraction?_append {cs rest : List Char} (h : fraction? cs = some rest) :
    ∃ digits, digits ≠ [] ∧ (∀ c ∈ digits, isDigit c = true) ∧ cs = '.' :: digits ++ rest := by
  unfold fraction? at h
  split at h
  · next cs =>
    split at h
    · next digits _ hdigits =>
      split at h
      · cases h
        obtain ⟨rfl, hne, hall⟩ := some?_append hdigits
        exact ⟨digits, hne, hall, rfl⟩
      · cases h
    · cases h
  · cases h

theorem numeralShape_fits {word : List Char} (hne : word ≠ []) (hfirst : ∀ c, word.head? = some c → isDigit c = true)
    (hlast : ∀ c, word.getLast? = some c → isDigit c = true) (hall : ∀ c ∈ word, isDigit c = true ∨ c = '.') :
    numeralShape.Fits word := by
  refine ⟨hne, hfirst, ?_, hlast⟩
  intro c hc
  simpa [numeralShape] using hall c (List.mem_of_mem_tail hc)

theorem number_reads : number.Reads numeralShape := by
  intro before cs value rest h
  unfold number at h
  split at h
  · cases h
  · split at h
    · cases h
    · next whole left hwhole =>
      obtain ⟨rfl, hne, hall⟩ := some?_append hwhole
      split at h
      · next hfraction =>
        cases h
        obtain ⟨digits, hdigits, hdigit, rfl⟩ := fraction?_append hfraction
        refine ⟨whole ++ '.' :: digits, numeralShape_fits (by simp) ?_ ?_ ?_, by simp⟩
        · intro c hc
          obtain ⟨d, ds, rfl⟩ := List.exists_cons_of_ne_nil hne
          exact hall c (List.mem_of_head? hc)
        · intro c hc
          obtain ⟨d, ds, rfl⟩ := List.exists_cons_of_ne_nil hdigits
          rw [List.getLast?_append, List.getLast?_cons_cons, Option.or_of_isSome (by simp)] at hc
          exact hdigit c (List.mem_of_getLast? hc)
        · intro c hc
          rcases List.mem_append.mp hc with hc | hc
          · exact .inl (hall c hc)
          · rcases List.mem_cons.mp hc with rfl | hc
            · exact .inr rfl
            · exact .inl (hdigit c hc)
      · split at h
        · cases h
          exact ⟨whole, numeralShape_fits hne (fun c hc => hall c (List.mem_of_head? hc))
            (fun c hc => hall c (List.mem_of_getLast? hc)) (fun c hc => .inl (hall c hc)), rfl⟩
        · cases h

end SnippetLab.Lexer
