import SnippetLab.Proofs.Lexer.Overlap

/-! Where tokens lie: within one line, at least one character long, and spelled as the line has them. No two tokens
begin at one place, so sorting puts them into one order, whichever one the scans yield them in.

What of a text lies in some token: comments, operators and the letters of words. A match that is dropped because it
begins within a string literal ends within it, so nothing around the literal is lost with it. -/
namespace SnippetLab.Lexer

open SnippetLab.Text

theorem exists_of_mem_lineTokens {names : Declarations} {number : Nat} {full : List Char} {t : Token}
    (h : t ∈ lineTokens names number full) :
    ∃ start stop kind, start < stop ∧ stop ≤ full.length ∧
      t = .onLine number start stop kind (slice full start stop) := by
  obtain ⟨category, m, hm, rfl⟩ := mem_lineTokens.mp h
  have hshows := shows_of_mem_spans hm
  exact ⟨m.start, m.stop, _, hshows.start_lt_stop, hshows.stop_le, rfl⟩

/-! ### The tokens of a text -/

theorem mem_tokenize {source : String} {t : Token} : t ∈ tokenize source ↔
    ∃ number line, (source.toList.splitOn '\n')[number]? = some line ∧
      t ∈ lineTokens (.ofSource source) number line := by
  simp only [tokenize, List.mem_flatMap, Prod.exists, List.mk_mem_zipIdx_iff_getElem?, lines_eq_splitOn]
  exact exists_comm

theorem exists_of_mem_tokenize {source : String} {t : Token} (h : t ∈ tokenize source) :
    ∃ number line start stop kind, (source.toList.splitOn '\n')[number]? = some line ∧ start < stop ∧
      stop ≤ line.length ∧ t = .onLine number start stop kind (slice line start stop) := by
  obtain ⟨number, line, hline, ht⟩ := mem_tokenize.mp h
  obtain ⟨start, stop, kind, hlt, hle, rfl⟩ := exists_of_mem_lineTokens ht
  exact ⟨number, line, start, stop, kind, hline, hlt, hle, rfl⟩

theorem semanticTag_of_mem_tokenize {source : String} {t : Token} (h : t ∈ tokenize source) :
    t.semanticTag = none := by
  obtain ⟨number, line, start, stop, kind, -, -, -, rfl⟩ := exists_of_mem_tokenize h
  rfl

/-- The token lies within a line of the text, has the characters of its span there, and means nothing
yet. -/
structure Faithful (source : String) (t : Token) : Prop where
  endLine_eq : t.endLine = t.startLine
  spelled : ∃ line, (source.toList.splitOn '\n')[t.startLine]? = some line ∧
    t.startColumn < t.endColumn ∧ t.endColumn ≤ line.length ∧
    t.text.toList = (line.take t.endColumn).drop t.startColumn
  untagged : t.semanticTag = none

/-- **Tokens are faithful.** Matches are found by octets, and yet every token lies within a line and spells just what
stands there between its columns, whatever the characters are. -/
theorem tokenize_faithful (source : String) (t : Token) (h : t ∈ tokenize source) :
    Faithful source t ∧ t.isWellFormed = true := by
  obtain ⟨number, line, start, stop, kind, hline, hlt, hle, rfl⟩ := exists_of_mem_tokenize h
  refine ⟨⟨rfl, ⟨line, hline, hlt, hle, ?_⟩, rfl⟩, ?_⟩
  · simp [Token.onLine, slice, List.drop_take]
  · simp [Token.isWellFormed, Token.onLine, hlt]

theorem tokenize_faithful_literal :
    Token.onLine 1 4 8 .stringLiteral "\"ё!\"" ∈ tokenize "я\nц = \"ё!\" // 5" ∧
    Faithful "я\nц = \"ё!\" // 5" (.onLine 1 4 8 .stringLiteral "\"ё!\"") ∧
    (Token.onLine 1 4 8 .stringLiteral "\"ё!\"").isWellFormed = true :=
  ⟨by decide +kernel, tokenize_faithful _ _ (by decide +kernel)⟩

end SnippetLab.Lexer

namespace SnippetLab

/-! ### The order of the text -/

namespace Token

theorem notAfter_trans (a b c : List Nat) (hab : notAfter a b = true) (hbc : notAfter b c = true) :
    notAfter a c = true := by
  induction a generalizing b c with
  | nil => rfl
  | cons x a ih =>
    cases b with
    | nil => cases hab
    | cons y b =>
      cases c with
      | nil => cases hbc
      | cons z c =>
        simp only [notAfter, Bool.or_eq_true, Bool.and_eq_true, decide_eq_true_eq, beq_iff_eq] at hab hbc ⊢
        rcases hab with hab | ⟨rfl, hab⟩
        · exact .inl (by omega)
        · rcases hbc with hbc | ⟨rfl, hbc⟩
          · exact .inl hbc
          · exact .inr ⟨rfl, ih b c hab hbc⟩

theorem notAfter_total (a b : List Nat) : (notAfter a b || notAfter b a) = true := by
  induction a generalizing b with
  | nil => rfl
  | cons x a ih =>
    cases b with
    | nil => rfl
    | cons y b =>
      have hrest := ih b
      simp only [notAfter, Bool.or_eq_true, Bool.and_eq_true, decide_eq_true_eq, beq_iff_eq] at hrest ⊢
      rcases Nat.lt_trichotomy x y with hlt | rfl | hlt
      · exact .inl (.inl hlt)
      · rcases hrest with hrest | hrest
        · exact .inl (.inr ⟨rfl, hrest⟩)
        · exact .inr (.inr ⟨rfl, hrest⟩)
      · exact .inr (.inl hlt)

/-- The token begins on an earlier line, or further to the left on the same line. -/
def StartsBefore (t u : Token) : Prop :=
  t.startLine < u.startLine ∨ t.startLine = u.startLine ∧ t.startColumn < u.startColumn

def StartsApart (t u : Token) : Prop := t.startLine = u.startLine → t.startColumn ≠ u.startColumn

theorem startsBefore_of_notAfter {t u : Token} (h : notAfter t.position u.position = true) (hapart : t.StartsApart u) :
    t.StartsBefore u := by
  unfold StartsApart at hapart
  simp only [position, notAfter, Bool.or_eq_true, Bool.and_eq_true, decide_eq_true_eq, beq_iff_eq] at h
  unfold StartsBefore
  omega

theorem sortByPosition_perm (tokens : List Token) : (sortByPosition tokens).Perm tokens :=
  List.mergeSort_perm _ _

theorem pairwise_sortByPosition {tokens : List Token} (h : tokens.Pairwise StartsApart) :
    (sortByPosition tokens).Pairwise StartsBefore := by
  have hsorted : (sortByPosition tokens).Pairwise fun t u => notAfter t.position u.position = true :=
    List.pairwise_mergeSort (fun t u v => notAfter_trans t.position u.position v.position)
      (fun t u => notAfter_total t.position u.position) tokens
  have hapart : (sortByPosition tokens).Pairwise StartsApart := by
    refine ((sortByPosition_perm tokens).pairwise_iff ?_).mpr h
    intro t u htu hline hcolumn
    exact htu hline.symm hcolumn.symm
  exact (hsorted.and hapart).imp fun hboth => startsBefore_of_notAfter hboth.1 hboth.2

/-- What begins apart is put into one order only. -/
theorem sortByPosition_eq_of_perm {tokens tokens' : List Token} (hperm : tokens.Perm tokens')
    (h : tokens.Pairwise StartsApart) : sortByPosition tokens = sortByPosition tokens' := by
  have h' : tokens'.Pairwise StartsApart := by
    refine (hperm.pairwise_iff ?_).mp h
    intro t u htu hline hcolumn
    exact htu hline.symm hcolumn.symm
  refine List.Perm.eq_of_pairwise ?_ (pairwise_sortByPosition h) (pairwise_sortByPosition h') ?_
  · intro t u ht hu htu hut
    unfold StartsBefore at htu hut
    omega
  · exact (sortByPosition_perm tokens).trans (hperm.trans (sortByPosition_perm tokens').symm)

end Token

namespace Lexer

/-- A token that lies on another one begins behind it. -/
theorem pairwise_startsApart (source : String) : (tokenize source).Pairwise Token.StartsApart := by
  have hstart {t : Token} (ht : t ∈ tokenize source) : t.Covers t.startLine t.startColumn := by
    obtain ⟨number, line, start, stop, kind, -, hlt, -, rfl⟩ := exists_of_mem_tokenize ht
    exact Token.covers_onLine.mpr ⟨rfl, Nat.le_refl start, hlt⟩
  refine (pairwise_tokenize source).imp_of_mem ?_
  intro t u ht hu hlies hline hcolumn
  have hmeets : t.Meets u := by
    refine ⟨t.startLine, t.startColumn, hstart ht, ?_⟩
    rw [hline, hcolumn]
    exact hstart hu
  rcases hlies hmeets with h | h
  · have := h.after
    omega
  · have := h.after
    omega

/-- **Sorting puts the tokens of a text into one strict order.** It loses none, and the result does not depend
on the order in which they come. -/
theorem sortByPosition_tokenize (source : String) :
    let sorted := Token.sortByPosition (tokenize source)
    sorted.Perm (tokenize source) ∧ sorted.Pairwise Token.StartsBefore ∧
      (∀ tokens : List Token, tokens.Perm (tokenize source) → Token.sortByPosition tokens = sorted) ∧
      Token.sortByPosition sorted = sorted := by
  intro sorted
  have hapart := pairwise_startsApart source
  have hunique (tokens : List Token) (hperm : tokens.Perm (tokenize source)) :
      Token.sortByPosition tokens = sorted :=
    (Token.sortByPosition_eq_of_perm hperm.symm hapart).symm
  have hperm : sorted.Perm (tokenize source) := Token.sortByPosition_perm _
  exact ⟨hperm, Token.pairwise_sortByPosition hapart, hunique, hunique sorted hperm⟩

end Lexer
end SnippetLab

/-! ### What lies in tokens -/

namespace SnippetLab.Lexer

open SnippetLab.Text

variable {full : List Char} {i : Nat}

/-! The comment -/

theorem exists_comment {start : Nat} (hi : i < full.length) (hle : start ≤ i) (h : ['/', '/'] <+: full.drop start) :
    ∃ m ∈ spans full .comment, m.start ≤ i ∧ i < m.stop := by
  obtain ⟨first, hfind, hfirst⟩ := find?_le h
  refine ⟨⟨first, full.length, ()⟩, ?_, Nat.le_trans hfirst hle, hi⟩
  simp [spans, splitComment, hfind]

/-! Words and operators -/

theorem before_comment {c : Char} (hc : full[i]? = some c)
    (hfree : ¬∃ m ∈ spans full .comment, m.start ≤ i ∧ i < m.stop) : (splitComment full).1[i]? = some c := by
  rcases splitComment_cases full with hsplit | ⟨line, tail, hfull, hsplit⟩
  · rw [hsplit]
    exact hc
  · obtain ⟨hi, -⟩ := List.getElem?_eq_some_iff.mp hc
    have hlt : i < line.length := by
      refine Nat.lt_of_not_le ?_
      intro hle
      exact hfree ⟨⟨line.length, full.length, ()⟩, by simp [spans, hsplit], hle, hi⟩
    rw [hfull, List.getElem?_append_left hlt] at hc
    rw [hsplit]
    exact hc

theorem exists_unquoted_or_string {p : Pattern Unit} {s : Shape} {text : List Char} (hp : p.Reads s)
    (hquote : s.first '"' = false ∧ s.later '"' = false) (hi : i < text.length)
    (h : (p (text.take i).getLast? (text.drop i)).isSome) :
    (∃ m ∈ unquoted text p, m.start ≤ i ∧ i < m.stop) ∨
      ∃ m ∈ stringLiteral.findAll text, m.start ≤ i ∧ i < m.stop := by
  obtain ⟨m, hm, hstart, hstop⟩ := Pattern.exists_covering_findAll hp.advances hi h
  cases hcovered : covered (stringLiteral.findAll text) m.start with
  | false => exact .inl ⟨m, mem_unquoted.mpr ⟨hm, hcovered⟩, hstart, hstop⟩
  | true =>
    obtain ⟨n, hn, hnstart, hnstop⟩ := covered_iff.mp hcovered
    refine .inr ⟨n, hn, by omega, ?_⟩
    by_cases hlt : i < n.stop
    · exact hlt
    have hstring := (Pattern.isOf_of_mem_findAll stringLiteral_reads.advances hn).shows stringLiteral_reads
    have hshows := (Pattern.isOf_of_mem_findAll hp.advances hm).shows hp
    have hbound := hstring.stop_le
    have hc : text[n.stop - 1]? = some text[n.stop - 1] := List.getElem?_eq_getElem (by omega)
    have hlast : text[n.stop - 1] = '"' := by simpa [quotedShape] using hstring.last _ hc
    rw [hlast] at hc
    rcases hshows.first_or_later (by omega) (by omega) hc with hfirst | hlater
    · rw [hquote.1] at hfirst
      cases hfirst
    · rw [hquote.2] at hlater
      cases hlater

theorem exists_span {c : Char} (hc : full[i]? = some c)
    (h : (∃ start ≤ i, ['/', '/'] <+: full.drop start) ∨ isOperator c = true ∨ startsIdentifier c = true) :
    ∃ category, ∃ m ∈ spans full category, m.start ≤ i ∧ i < m.stop := by
  by_cases hfree : ∃ m ∈ spans full .comment, m.start ≤ i ∧ i < m.stop
  · exact ⟨.comment, hfree⟩
  have hline := before_comment hc hfree
  obtain ⟨hi, hget⟩ := List.getElem?_eq_some_iff.mp hline
  have hdrop : (splitComment full).1.drop i = c :: (splitComment full).1.drop (i + 1) := by
    rw [List.drop_eq_getElem_cons hi, hget]
  rcases h with ⟨start, hle, hslashes⟩ | hop | hletter
  · obtain ⟨hlt, -⟩ := List.getElem?_eq_some_iff.mp hc
    exact absurd (exists_comment hlt hle hslashes) hfree
  · have hmatches : (operator ((splitComment full).1.take i).getLast? ((splitComment full).1.drop i)).isSome := by
      simp [hdrop, operator, hop]
    rcases exists_unquoted_or_string operator_reads ⟨rfl, rfl⟩ hi hmatches with hunquoted | hstring
    · exact ⟨.operator, hunquoted⟩
    · exact ⟨.string, hstring⟩
  · have hmatches : (identifier ((splitComment full).1.take i).getLast? ((splitComment full).1.drop i)).isSome := by
      simp [hdrop, identifier, identifier?, hletter]
    rcases exists_unquoted_or_string identifier_reads ⟨rfl, rfl⟩ hi hmatches with hunquoted | hstring
    · exact ⟨.word, hunquoted⟩
    · exact ⟨.string, hstring⟩

/-! ### All characters of a text -/

def operators : List Char := "+-*/=<>!&|^%:;,.()[]\x7b\x7d".toList

/-- An underscore, a basic Latin letter or a Russian one; the two forms of yo stand apart from the others. -/
def IsLetter (c : Char) : Prop := c = '_' ∨ c.isAlpha = true ∨ 'А' ≤ c ∧ c ≤ 'я' ∨ c = 'Ё' ∨ c = 'ё'

instance (c : Char) : Decidable (IsLetter c) :=
  inferInstanceAs (Decidable (_ ∨ _))

/-- A character of identifiers, at their beginning or later. -/
def IsIdentifierChar (c : Char) : Prop := IsLetter c ∨ c.isDigit = true ∨ c = '-'

instance (c : Char) : Decidable (IsIdentifierChar c) :=
  inferInstanceAs (Decidable (_ ∨ _))

theorem isOperator_of_mem {c : Char} (h : c ∈ operators) : isOperator c = true :=
  List.contains_iff_mem.mpr h

theorem isAlpha_eq (c : Char) : c.isAlpha = (decide ('A' ≤ c ∧ c ≤ 'Z') || ('a' ≤ c && c ≤ 'z')) :=
  rfl

theorem startsIdentifier_of_isLetter {c : Char} (h : IsLetter c) : startsIdentifier c = true := by
  rw [startsIdentifier_iff]
  simp only [IsLetter, isAlpha_eq, Bool.or_eq_true, Bool.and_eq_true, decide_eq_true_eq, Char.le_def,
    UInt32.le_iff_toNat_le, ← Char.toNat_inj] at h
  change c.toNat = 95 ∨ (65 ≤ c.toNat ∧ c.toNat ≤ 90 ∨ 97 ≤ c.toNat ∧ c.toNat ≤ 122) ∨
    (1040 ≤ c.toNat ∧ c.toNat ≤ 1103) ∨ c.toNat = 1025 ∨ c.toNat = 1105 at h
  omega

/-- **What no token may miss.** In each line of a text a character lies in a token if it stands at or behind two
slashes, or is an operator or a letter. So what is missed is a digit or belongs neither to identifiers nor to the
operators, as quotes and white space do not. -/
theorem tokenize_coverage (source : String) (number : Nat) (full : List Char) (column : Nat) (c : Char)
    (hline : (source.toList.splitOn '\n')[number]? = some full) (hc : full[column]? = some c) :
    ((∃ start ≤ column, ['/', '/'] <+: full.drop start) ∨ c ∈ operators ∨ IsLetter c →
      ∃ t ∈ tokenize source, t.Covers number column) ∧
    ((∀ t ∈ tokenize source, ¬t.Covers number column) →
      c.isDigit = true ∨ ¬IsIdentifierChar c ∧ c ∉ operators) := by
  have hcovered (h : (∃ start ≤ column, ['/', '/'] <+: full.drop start) ∨ c ∈ operators ∨ IsLetter c) :
      ∃ t ∈ tokenize source, t.Covers number column := by
    obtain ⟨category, m, hm, hspan⟩ :=
      exists_span hc (h.imp_right fun halphabet => halphabet.imp isOperator_of_mem startsIdentifier_of_isLetter)
    refine ⟨tokenAt (.ofSource source) number full category m, ?_, covers_tokenAt.mpr ⟨rfl, hspan⟩⟩
    exact mem_tokenize.mpr ⟨number, full, hline, mem_lineTokens.mpr ⟨category, m, hm, rfl⟩⟩
  refine ⟨hcovered, ?_⟩
  intro hmissed
  have hfree : ¬(c ∈ operators ∨ IsLetter c) := by
    intro halphabet
    obtain ⟨t, ht, hcovers⟩ := hcovered (.inr halphabet)
    exact hmissed t ht hcovers
  rw [not_or] at hfree
  have hhyphen : c ≠ '-' := by
    rintro rfl
    exact hfree.1 (by decide)
  by_cases hdigit : c.isDigit = true
  · exact .inl hdigit
  · exact .inr ⟨by simp [IsIdentifierChar, hfree.2, hdigit, hhyphen], hfree.1⟩

/-- A letter within a string literal, and a digit that no token covers. -/
theorem tokenize_coverage_glued :
    let full := "1я \"я\"".toList
    ("1я \"я\"".toList.splitOn '\n')[0]? = some full ∧
    (full[4]? = some 'я' ∧ IsLetter 'я' ∧ ∃ t ∈ tokenize "1я \"я\"", t.Covers 0 4) ∧
    (full[0]? = some '1' ∧ (∀ t ∈ tokenize "1я \"я\"", ¬t.Covers 0 0) ∧
      ('1'.isDigit = true ∨ ¬IsIdentifierChar '1' ∧ '1' ∉ operators)) := by
  have hline : ("1я \"я\"".toList.splitOn '\n')[0]? = some "1я \"я\"".toList := by decide
  have hletter : IsLetter 'я' := by decide
  have hmissed : ∀ t ∈ tokenize "1я \"я\"", ¬t.Covers 0 0 := by decide +kernel
  refine ⟨hline, ⟨rfl, hletter, ?_⟩, rfl, hmissed, ?_⟩
  · exact (tokenize_coverage _ 0 _ 4 'я' hline rfl).1 (.inr (.inr hletter))
  · exact (tokenize_coverage _ 0 _ 0 '1' hline rfl).2 hmissed

end SnippetLab.Lexer
