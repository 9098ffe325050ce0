import SnippetLab.Proofs.Lexer.Category

/-! Where tokens of one text lie on each other. The scans over a line do not know of each other's matches except
for those of comments and string literals; what the scans for numbers, words and operators may share is a
point within a number, a hyphen within a word and a number after such a hyphen. -/
namespace SnippetLab

namespace Token

def Covers (t : Token) (line column : Nat) : Prop :=
  (t.startLine < line ∨ t.startLine = line ∧ t.startColumn ≤ column) ∧
    (line < t.endLine ∨ line = t.endLine ∧ column < t.endColumn)

instance (t : Token) (line column : Nat) : Decidable (t.Covers line column) :=
  inferInstanceAs (Decidable (_ ∧ _))

def Meets (t u : Token) : Prop := ∃ line column, t.Covers line column ∧ u.Covers line column

def HasAt (t : Token) (column : Nat) (c : Char) : Prop :=
  t.startColumn ≤ column ∧ t.text.toList[column - t.startColumn]? = some c

/-- How a token may come to lie on another one. -/
inductive Overlay (inner outer : Token) : Prop
  | point (hinner : inner.kind = .operator) (houter : outer.kind = .numberLiteral)
      (hpoint : inner.text = "." ∧ outer.HasAt inner.startColumn '.') (hlast : inner.endColumn < outer.endColumn)
  | hyphen (hinner : inner.kind = .operator) (houter : outer.kind.category = .word) (hhyphen : inner.text = "-")
  | afterHyphen (column : Nat) (hinner : inner.kind = .numberLiteral) (houter : outer.kind.category = .word)
      (hhyphen : outer.HasAt column '-') (hnext : inner.startColumn = column + 1)

/-- The inner token begins behind the first character of the outer one. -/
structure LiesOn (inner outer : Token) : Prop where
  startLine_eq : inner.startLine = outer.startLine
  after : outer.startColumn < inner.startColumn
  before : inner.startColumn < outer.endColumn
  overlay : Overlay inner outer

theorem covers_onLine {number start stop : Nat} {kind : TokenKind} {text : String} {line column : Nat} :
    (onLine number start stop kind text).Covers line column ↔ line = number ∧ start ≤ column ∧ column < stop := by
  simp only [Covers, onLine]
  omega

theorem LiesOn.categories {inner outer : Token} (h : inner.LiesOn outer) :
    (inner.kind.category = .operator ∧ outer.kind.category = .number) ∨
      ((inner.kind.category = .operator ∨ inner.kind.category = .number) ∧ outer.kind.category = .word) := by
  cases h.overlay with
  | point hinner houter =>
    rw [hinner, houter]
    exact .inl ⟨rfl, rfl⟩
  | hyphen hinner houter =>
    rw [hinner]
    exact .inr ⟨.inl rfl, houter⟩
  | afterHyphen column hinner houter =>
    rw [hinner]
    exact .inr ⟨.inr rfl, houter⟩

end Token

namespace Lexer

open SnippetLab.Text

/-! ### Two spans of one line -/

variable {names : Declarations} {number : Nat} {full : List Char} {m n : Match Unit} {i : Nat}

theorem operator_stop (h : m ∈ spans full .operator) : m.stop = m.start + 1 := by
  have hshows := shows_of_mem_spans h
  have hlt := hshows.start_lt_stop
  have hle := hshows.stop_le
  by_cases hlong : m.start + 1 < m.stop
  · have hlater := hshows.later (m.start + 1) full[m.start + 1] (by omega) hlong (List.getElem?_eq_getElem (by omega))
    cases hlater
  · omega

theorem before_number (h : m ∈ spans full .number) (hstart : m.start = i + 1) {c : Char} (hc : full[i]? = some c) :
    isWordChar c = false := by
  have hof := Pattern.isOf_of_mem_findAll number_reads.advances (mem_unquoted.mp h).1
  have hlt := hof.start_lt_stop
  have hle := hof.stop_le
  obtain ⟨comment, hfull⟩ := splitComment_append full
  rw [hfull, List.getElem?_append_left (by omega)] at hc
  have hholds := hof.holds
  rw [hstart, List.getLast?_take, if_neg (Nat.succ_ne_zero i), Nat.add_sub_cancel, hc] at hholds
  rw [← Bool.not_eq_true]
  intro hword
  simp [Lexer.number, hword] at hholds

theorem hasAt_tokenAt (category : TokenCategory) (hstart : m.start ≤ i) (hstop : i < m.stop) {c : Char}
    (hc : full[i]? = some c) : (tokenAt names number full category m).HasAt i c :=
  ⟨hstart, (getElem?_text_tokenAt names number full category hstart hstop).trans hc⟩

theorem text_operator (h : m ∈ spans full .operator) {c : Char} (hc : full[m.start]? = some c) :
    (tokenAt names number full .operator m).text = String.ofList [c] := by
  simp only [tokenAt, Token.onLine, slice, operator_stop h]
  rw [Nat.add_sub_cancel_left, List.take_one, List.head?_drop, hc]
  rfl

theorem operator_liesOn_number (hm : m ∈ spans full .operator) (hn : n ∈ spans full .number)
    (hstart : n.start ≤ m.start) (hstop : m.start < n.stop) :
    (tokenAt names number full .operator m).LiesOn (tokenAt names number full .number n) := by
  have hnumber := shows_of_mem_spans hn
  have hle := hnumber.stop_le
  have hc : full[m.start]? = some full[m.start] := List.getElem?_eq_getElem (by omega)
  have hop := (shows_of_mem_spans hm).first _ hc
  have hdigit := isDigit_of_isOperator hop
  have hafter : n.start < m.start := by
    refine Nat.lt_of_le_of_ne hstart ?_
    intro heq
    have hfirst : isDigit full[m.start] = true := hnumber.first _ (by rw [heq, hc])
    rw [hdigit] at hfirst
    cases hfirst
  have hbefore : m.start + 1 < n.stop := by
    refine Nat.lt_of_le_of_ne hstop ?_
    intro heq
    have hlast : isDigit full[m.start] = true := hnumber.last _ (by rw [← heq, Nat.succ_sub_one, hc])
    rw [hdigit] at hlast
    cases hlast
  have hpoint : full[m.start] = '.' := by
    have hlater := hnumber.later m.start _ hafter hstop hc
    simpa [shapeOf, numeralShape, hdigit] using hlater
  rw [hpoint] at hc
  refine ⟨rfl, hafter, hstop, .point rfl rfl ⟨text_operator hm hc, hasAt_tokenAt _ hstart hstop hc⟩ ?_⟩
  rw [← operator_stop hm] at hbefore
  exact hbefore

theorem operator_liesOn_word (hm : m ∈ spans full .operator) (hn : n ∈ spans full .word)
    (hstart : n.start ≤ m.start) (hstop : m.start < n.stop) :
    (tokenAt names number full .operator m).LiesOn (tokenAt names number full .word n) := by
  have hword := shows_of_mem_spans hn
  have hle := hword.stop_le
  have hc : full[m.start]? = some full[m.start] := List.getElem?_eq_getElem (by omega)
  have hop := (shows_of_mem_spans hm).first _ hc
  have hafter : n.start < m.start := by
    refine Nat.lt_of_le_of_ne hstart ?_
    intro heq
    have hfirst : startsIdentifier full[m.start] = true := hword.first _ (by rw [heq, hc])
    rw [startsIdentifier_of_isOperator hop] at hfirst
    cases hfirst
  have hhyphen := eq_hyphen_of_isOperator hop (hword.later m.start _ hafter hstop hc)
  rw [hhyphen] at hc
  exact ⟨rfl, hafter, hstop, .hyphen rfl (category_tokenAt _ _ _ _ _) (text_operator hm hc)⟩

theorem continuesIdentifier_of_word (h : m ∈ spans full .word) (hstart : m.start ≤ i) (hstop : i < m.stop) {c : Char}
    (hc : full[i]? = some c) : continuesIdentifier c = true := by
  rcases (shows_of_mem_spans h).first_or_later hstart hstop hc with hfirst | hlater
  · exact continuesIdentifier_of_starts hfirst
  · exact hlater

theorem startsIdentifier_of_number (h : m ∈ spans full .number) (hstart : m.start ≤ i) (hstop : i < m.stop) {c : Char}
    (hc : full[i]? = some c) : startsIdentifier c = false := by
  have hnumeral : isDigit c = true ∨ c = '.' := by
    rcases (shows_of_mem_spans h).first_or_later hstart hstop hc with hfirst | hlater
    · exact .inl hfirst
    · simpa [shapeOf, numeralShape] using hlater
  rw [← Bool.not_eq_true]
  intro hstarts
  rcases hnumeral with hdigit | rfl
  · rw [isDigit_of_starts hstarts] at hdigit
    cases hdigit
  · cases hstarts

/-- A number begins a word, so that before it within a longer one there is a hyphen. -/
theorem number_liesOn_word (hm : m ∈ spans full .number) (hn : n ∈ spans full .word) (hmstart : m.start ≤ i)
    (hmstop : i < m.stop) (hnstart : n.start ≤ i) (hnstop : i < n.stop) :
    (tokenAt names number full .number m).LiesOn (tokenAt names number full .word n) := by
  have hword := shows_of_mem_spans hn
  have hle := hword.stop_le
  have hafter : n.start < m.start := by
    by_cases hlt : n.start < m.start
    · exact hlt
    have hc : full[n.start]? = some full[n.start] := List.getElem?_eq_getElem (by omega)
    have hstarts : startsIdentifier full[n.start] = true := hword.first _ hc
    rw [startsIdentifier_of_number hm (by omega) (by omega) hc] at hstarts
    cases hstarts
  have hbefore : m.start < n.stop := by omega
  obtain ⟨k, hk⟩ : ∃ k, m.start = k + 1 := ⟨m.start - 1, by omega⟩
  have hc : full[k]? = some full[k] := List.getElem?_eq_getElem (by omega)
  have hcontinues := continuesIdentifier_of_word hn (by omega) (by omega) hc
  have hhyphen := eq_hyphen_of_not_isWordChar hcontinues (before_number hm hk hc)
  rw [hhyphen] at hc
  refine ⟨rfl, hafter, hbefore, ?_⟩
  exact .afterHyphen k rfl (category_tokenAt _ _ _ _ _) (hasAt_tokenAt _ (by omega) (by omega) hc) hk

/-- Comments and string literals keep to themselves. -/
theorem liesOn_of_share {category category' : TokenCategory} (hm : m ∈ spans full category)
    (hn : n ∈ spans full category') (hmstart : m.start ≤ i) (hmstop : i < m.stop) (hnstart : n.start ≤ i)
    (hnstop : i < n.stop) (hne : category ≠ category') :
    (tokenAt names number full category m).LiesOn (tokenAt names number full category' n) ∨
      (tokenAt names number full category' n).LiesOn (tokenAt names number full category m) := by
  have hcomment : category = .comment ↔ category' = .comment :=
    (commented_iff hm hmstart hmstop).symm.trans (commented_iff hn hnstart hnstop)
  have hstring : category = .string ↔ category' = .string :=
    (quoted_iff hm hmstart hmstop).symm.trans (quoted_iff hn hnstart hnstop)
  cases category with
  | comment => exact absurd (hcomment.mp rfl).symm hne
  | string => exact absurd (hstring.mp rfl).symm hne
  | number =>
    cases category' with
    | comment => cases hcomment.mpr rfl
    | string => cases hstring.mpr rfl
    | number => exact absurd rfl hne
    | word => exact .inl (number_liesOn_word hm hn hmstart hmstop hnstart hnstop)
    | operator =>
      have := operator_stop hn
      exact .inr (operator_liesOn_number hn hm (by omega) (by omega))
  | word =>
    cases category' with
    | comment => cases hcomment.mpr rfl
    | string => cases hstring.mpr rfl
    | number => exact .inr (number_liesOn_word hn hm hnstart hnstop hmstart hmstop)
    | word => exact absurd rfl hne
    | operator =>
      have := operator_stop hn
      exact .inr (operator_liesOn_word hn hm (by omega) (by omega))
  | operator =>
    have := operator_stop hm
    cases category' with
    | comment => cases hcomment.mpr rfl
    | string => cases hstring.mpr rfl
    | number => exact .inl (operator_liesOn_number hm hn (by omega) (by omega))
    | word => exact .inl (operator_liesOn_word hm hn (by omega) (by omega))
    | operator => exact absurd rfl hne

/-! ### All tokens of a text -/

theorem covers_tokenAt {category : TokenCategory} {line column : Nat} :
    (tokenAt names number full category m).Covers line column ↔ line = number ∧ m.start ≤ column ∧ column < m.stop :=
  Token.covers_onLine

theorem pairwise_lineTokens (names : Declarations) (number : Nat) (full : List Char) :
    (lineTokens names number full).Pairwise fun t u => t.Meets u → t.LiesOn u ∨ u.LiesOn t := by
  rw [lineTokens_eq, List.pairwise_flatMap]
  constructor
  · intro category hcategory
    rw [List.pairwise_map]
    refine (pairwise_spans full category).imp ?_
    intro m n hapart hmeets
    obtain ⟨line, column, hm, hn⟩ := hmeets
    rw [covers_tokenAt] at hm hn
    omega
  · have hne : TokenCategory.all.Pairwise (· ≠ ·) := by decide
    refine hne.imp ?_
    intro category category' hne t ht u hu hmeets
    obtain ⟨m, hm, rfl⟩ := List.mem_map.mp ht
    obtain ⟨n, hn, rfl⟩ := List.mem_map.mp hu
    obtain ⟨line, column, hcovers, hcovers'⟩ := hmeets
    obtain ⟨-, hmstart, hmstop⟩ := covers_tokenAt.mp hcovers
    obtain ⟨-, hnstart, hnstop⟩ := covers_tokenAt.mp hcovers'
    exact liesOn_of_share hm hn hmstart hmstop hnstart hnstop hne

theorem line_eq_of_covers {t : Token} (ht : t ∈ lineTokens names number full) {line column : Nat}
    (h : t.Covers line column) : line = number := by
  obtain ⟨category, m, -, rfl⟩ := mem_lineTokens.mp ht
  exact (covers_tokenAt.mp h).1

theorem pairwise_tokenize (source : String) :
    (tokenize source).Pairwise fun t u => t.Meets u → t.LiesOn u ∨ u.LiesOn t := by
  unfold tokenize
  dsimp only
  rw [List.pairwise_flatMap]
  constructor
  · intro line hline
    exact pairwise_lineTokens _ _ _
  · have hnumbers : (lines source.toList).zipIdx.Pairwise fun a b => a.2 ≠ b.2 := by
      apply List.pairwise_map.mp
      rw [List.zipIdx_map_snd]
      exact List.nodup_range'
    refine hnumbers.imp ?_
    intro a b hne t ht u hu hmeets
    obtain ⟨line, column, hcovers, hcovers'⟩ := hmeets
    exact absurd ((line_eq_of_covers ht hcovers).symm.trans (line_eq_of_covers hu hcovers')) hne

/-- **Where tokens overlap.** Of two tokens of a text that share a place, one lies on the other: a point within
the digits of a number, a hyphen behind the first character of a word, or a number that follows such a hyphen.
So comments and string literals share no place with another token, nor do two tokens of one category. -/
theorem tokenize_overlap (source : String) :
    (tokenize source).Pairwise (fun t u => t.Meets u → t.LiesOn u ∨ u.LiesOn t) ∧
    (tokenize source).Pairwise fun t u =>
      t.kind.category = .comment ∨ t.kind.category = .string ∨ u.kind.category = .comment ∨
        u.kind.category = .string ∨ t.kind.category = u.kind.category → ¬t.Meets u := by
  refine ⟨pairwise_tokenize source, (pairwise_tokenize source).imp ?_⟩
  intro t u hlies halone hmeets
  rcases hlies hmeets with h | h
  · rcases h.categories with ⟨ht, hu⟩ | ⟨ht | ht, hu⟩ <;> simp [ht, hu] at halone
  · rcases h.categories with ⟨hu, ht⟩ | ⟨hu | hu, ht⟩ <;> simp [ht, hu] at halone

example : (tokenize "a-1.5").map (fun t => (t.text, t.startColumn)) = [("1.5", 2), ("a-1", 0), ("-", 1), (".", 3)] := by
  decide +kernel

end Lexer
end SnippetLab
