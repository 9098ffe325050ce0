import SnippetLab.Proofs.Lexer.Columns
import SnippetLab.Proofs.Lexer.Shapes
import SnippetLab.Proofs.Text.Search

/-! The tokens of a line by the scan that they come from: what each scan yields, and which part of the line it
keeps to. -/
namespace SnippetLab

inductive TokenCategory
  | comment
  | string
  | number
  | word
  | operator
  deriving DecidableEq, Repr

def TokenCategory.all : List TokenCategory := [comment, string, number, word, operator]

/-- Whatever a name is found to mean, its token comes from the scan for words. -/
def TokenKind.category : TokenKind → TokenCategory
  | comment => .comment
  | stringLiteral => .string
  | numberLiteral => .number
  | operator => .operator
  | _ => .word

namespace Lexer

open SnippetLab.Text

/-! ### A line by its characters -/

def splitComment (line : List Char) : List Char × Option Nat :=
  match find? ['/', '/'] line with
  | some start => (line.take start, some start)
  | none => (line, none)

def covered (spans : List (Match Unit)) (column : Nat) : Bool :=
  spans.any fun m => m.start ≤ column && column < m.stop

def slice (line : List Char) (start stop : Nat) : String :=
  String.ofList ((line.drop start).take (stop - start))

/-- The matches of a pattern that begin outside of the string literals. -/
def unquoted (line : List Char) (p : Pattern Unit) : List (Match Unit) :=
  (p.findAll line).filter fun m => !covered (stringLiteral.findAll line) m.start

def spans (full : List Char) : TokenCategory → List (Match Unit)
  | .comment => ((splitComment full).2.map fun start => ⟨start, full.length, ()⟩).toList
  | .string => stringLiteral.findAll (splitComment full).1
  | .number => unquoted (splitComment full).1 number
  | .word => unquoted (splitComment full).1 identifier
  | .operator => unquoted (splitComment full).1 operator

def kindOf (names : Declarations) (full : List Char) : TokenCategory → String → TokenKind
  | .comment, _ => .comment
  | .string, _ => .stringLiteral
  | .number, _ => .numberLiteral
  | .word, word => identifierKind (.ofSignatures (splitComment full).1) names word
  | .operator, _ => .operator

def tokenAt (names : Declarations) (number : Nat) (full : List Char) (category : TokenCategory) (m : Match Unit) :
    Token :=
  .onLine number m.start m.stop (kindOf names full category (slice full m.start m.stop)) (slice full m.start m.stop)

/-! ### The scans by octets are those by characters -/

theorem cutComment_eq (full : List Char) : ∃ comment, cutComment full = ((splitComment full).1, comment) ∧
    comment.toList = (spans full .comment).map (·.stretch full) := by
  rw [cutComment, findOctet?_eq, spans, splitComment]
  cases find? ['/', '/'] full with
  | none => exact ⟨none, rfl, rfl⟩
  | some start =>
    have htext : (full.drop start).take (full.length - start) = full.drop start :=
      List.take_of_length_le (Nat.le_of_eq List.length_drop)
    dsimp only [Option.map_some]
    rw [splitAtOctet_octetAt]
    refine ⟨_, rfl, ?_⟩
    simp [Match.stretch, htext, octetAt_of_length_le]

section
variable (front tail : List Char)

theorem stretches_front {p : Pattern Unit} (hp : p.Advances) :
    p.stretches front = (p.findAll front).map (·.stretch (front ++ tail)) := by
  rw [Pattern.stretches_eq]
  refine List.map_congr_left fun m hm => ?_
  have hof := Pattern.isOf_of_mem_findAll hp hm
  exact (Match.stretch_append (Nat.le_of_lt hof.start_lt_stop) hof.stop_le tail).symm

theorem inRanges_stretch {full : List Char} {spans : List (Match Unit)}
    (h : ∀ m ∈ spans, m.start < m.stop ∧ m.stop ≤ full.length) {i : Nat} (hi : i ≤ full.length) :
    inRanges (octetAt full i) (spans.map (·.stretch full)) = covered spans i := by
  rw [inRanges, List.any_map, covered, Bool.eq_iff_iff, List.any_eq_true, List.any_eq_true]
  refine exists_congr fun m => and_congr_right fun hm => ?_
  obtain ⟨hlt, hstop⟩ := h m hm
  have hstart : m.start ≤ full.length := by omega
  simp only [Function.comp_apply, Match.stretch, Bool.and_eq_true, decide_eq_true_eq, octetAt_le_iff hstart hi,
    octetAt_lt_iff hi hstop]

/-- A match begins in a literal by octets if it does by characters. -/
theorem outside_stretches {p : Pattern Unit} (hp : p.Advances) :
    (p.stretches front).filter (fun s => !inRanges s.start (stringLiteral.stretches front)) =
      (unquoted front p).map (·.stretch (front ++ tail)) := by
  have hquoted (m : Match Unit) (hm : m ∈ stringLiteral.findAll front) :
      m.start < m.stop ∧ m.stop ≤ (front ++ tail).length := by
    have hof := Pattern.isOf_of_mem_findAll stringLiteral_reads.advances hm
    refine ⟨hof.start_lt_stop, Nat.le_trans hof.stop_le ?_⟩
    rw [List.length_append]
    exact Nat.le_add_right _ _
  rw [stretches_front front tail hp, stretches_front front tail stringLiteral_reads.advances, List.filter_map,
    unquoted]
  refine congrArg (List.map _) (List.filter_congr fun m hm => ?_)
  have hof := Pattern.isOf_of_mem_findAll hp hm
  refine congrArg not (inRanges_stretch hquoted ?_)
  rw [List.length_append]
  have := hof.start_lt_stop
  have := hof.stop_le
  omega

end

theorem token_stretch {full : List Char} {m : Match Unit} (hstart : m.start ≤ full.length)
    (hstop : m.stop ≤ full.length) (number : Nat) (kind : String → TokenKind) :
    (ColumnIndex.ofLine full).token number kind (m.stretch full) =
      .onLine number m.start m.stop (kind (slice full m.start m.stop)) (slice full m.start m.stop) := by
  rw [ColumnIndex.token, Match.stretch, ColumnIndex.column_octetAt hstart, ColumnIndex.column_octetAt hstop]
  rfl

theorem category_identifierKind (onLine everywhere : Declarations) (word : String) :
    (identifierKind onLine everywhere word).category = .word := by
  unfold identifierKind Vocabulary.classify
  repeat' split
  all_goals rfl

@[simp]
theorem category_tokenAt (names : Declarations) (number : Nat) (full : List Char) (category : TokenCategory)
    (m : Match Unit) : (tokenAt names number full category m).kind.category = category := by
  cases category with
  | word => exact category_identifierKind _ _ _
  | _ => rfl

theorem getElem?_text_tokenAt (names : Declarations) (number : Nat) (full : List Char) (category : TokenCategory)
    {m : Match Unit} {i : Nat} (hstart : m.start ≤ i) (hstop : i < m.stop) :
    (tokenAt names number full category m).text.toList[i - m.start]? = full[i]? := by
  simp only [tokenAt, Token.onLine, slice, String.toList_ofList]
  rw [List.getElem?_take_of_lt (by omega), List.getElem?_drop, Nat.add_sub_cancel' hstart]

/-! ### A line and its comment -/

theorem splitComment_cases (full : List Char) :
    splitComment full = (full, none) ∨
      ∃ line tail, full = line ++ '/' :: '/' :: tail ∧ splitComment full = (line, some line.length) := by
  unfold splitComment
  split
  · next start hfind =>
    obtain ⟨tail, htail⟩ := isPrefix_of_find? hfind
    have hlength := congrArg List.length htail
    simp only [List.length_append, List.length_cons, List.length_drop] at hlength
    refine .inr ⟨full.take start, tail, ?_, ?_⟩
    · calc full = full.take start ++ full.drop start := (List.take_append_drop start full).symm
        _ = full.take start ++ '/' :: '/' :: tail := by rw [← htail]; rfl
    · rw [List.length_take, Nat.min_eq_left (by omega)]
  · exact .inl rfl

theorem splitComment_append (full : List Char) : ∃ comment, full = (splitComment full).1 ++ comment := by
  rcases splitComment_cases full with h | ⟨line, tail, hfull, h⟩
  · exact ⟨[], by simp [h]⟩
  · exact ⟨'/' :: '/' :: tail, by rw [h]; exact hfull⟩

/-- A comment goes from the end of the line in front of it up to the end of the whole line. -/
theorem mem_spans_comment {full : List Char} {m : Match Unit} (h : m ∈ spans full .comment) :
    m.start = (splitComment full).1.length ∧ m.stop = full.length ∧
      ∃ tail, full = (splitComment full).1 ++ '/' :: '/' :: tail := by
  simp only [spans, Option.mem_toList, Option.map_eq_some_iff] at h
  obtain ⟨start, hstart, rfl⟩ := h
  rcases splitComment_cases full with hsplit | ⟨line, tail, hfull, hsplit⟩
  · rw [hsplit] at hstart
    cases hstart
  · rw [hsplit] at hstart ⊢
    cases hstart
    exact ⟨rfl, rfl, tail, hfull⟩

/-! ### What the spans of a category read as -/

/-- A comment may read as anything, from its first slash on. -/
def commentShape : Shape := ⟨(· = '/'), fun _ => true, fun _ => true⟩

def shapeOf : TokenCategory → Shape
  | .comment => commentShape
  | .string => quotedShape
  | .number => numeralShape
  | .word => wordShape
  | .operator => operatorShape

theorem mem_unquoted {line : List Char} {p : Pattern Unit} {m : Match Unit} :
    m ∈ unquoted line p ↔ m ∈ p.findAll line ∧ covered (stringLiteral.findAll line) m.start = false := by
  simp [unquoted]

theorem exists_pattern {full : List Char} {category : TokenCategory} {m : Match Unit} (h : m ∈ spans full category)
    (hne : category ≠ .comment) :
    ∃ p : Pattern Unit, p.Reads (shapeOf category) ∧ m ∈ p.findAll (splitComment full).1 := by
  cases category with
  | comment => exact absurd rfl hne
  | string => exact ⟨_, stringLiteral_reads, h⟩
  | number => exact ⟨_, number_reads, (mem_unquoted.mp h).1⟩
  | word => exact ⟨_, identifier_reads, (mem_unquoted.mp h).1⟩
  | operator => exact ⟨_, operator_reads, (mem_unquoted.mp h).1⟩

theorem shows_of_mem_spans {full : List Char} {category : TokenCategory} {m : Match Unit}
    (h : m ∈ spans full category) : m.Shows (shapeOf category) full := by
  by_cases hcategory : category = .comment
  · subst hcategory
    obtain ⟨hstart, hstop, tail, hfull⟩ := mem_spans_comment h
    refine ⟨?_, Nat.le_of_eq hstop, ?_, fun _ _ _ _ _ => rfl, fun _ _ => rfl⟩
    · have hlength := congrArg List.length hfull
      simp only [List.length_append, List.length_cons] at hlength
      omega
    · intro c hc
      generalize (splitComment full).1 = line at hstart hfull
      subst hfull
      rw [hstart, List.getElem?_append_right (Nat.le_refl _), Nat.sub_self] at hc
      cases hc
      rfl
  · obtain ⟨p, hp, hm⟩ := exists_pattern h hcategory
    obtain ⟨comment, hfull⟩ := splitComment_append full
    rw [hfull]
    exact ((Pattern.isOf_of_mem_findAll hp.advances hm).shows hp).append comment

theorem token_of_mem_spans {full : List Char} {category : TokenCategory} {m : Match Unit} (h : m ∈ spans full category)
    (names : Declarations) (number : Nat) :
    (ColumnIndex.ofLine full).token number (kindOf names full category) (m.stretch full) =
      tokenAt names number full category m := by
  have hshows := shows_of_mem_spans h
  exact token_stretch (Nat.le_trans (Nat.le_of_lt hshows.start_lt_stop) hshows.stop_le) hshows.stop_le number _

theorem lineTokens_eq (names : Declarations) (number : Nat) (full : List Char) :
    lineTokens names number full =
      TokenCategory.all.flatMap fun category => (spans full category).map (tokenAt names number full category) := by
  have htokens (category : TokenCategory) : (spans full category).map (tokenAt names number full category) =
      ((spans full category).map (·.stretch full)).map
        ((ColumnIndex.ofLine full).token number (kindOf names full category)) := by
    rw [List.map_map]
    exact List.map_congr_left fun m hm => (token_of_mem_spans hm names number).symm
  obtain ⟨tail, hfull⟩ := splitComment_append full
  obtain ⟨comment, hcut, hcomment⟩ := cutComment_eq full
  have hstrings : stringLiteral.stretches (splitComment full).1 = (spans full .string).map (·.stretch full) := by
    have hfront := stretches_front (splitComment full).1 tail stringLiteral_reads.advances
    rwa [← hfull] at hfront
  have houtside {p : Pattern Unit} (hp : p.Advances) :
      (p.stretches (splitComment full).1).filter
          (fun s => !inRanges s.start (stringLiteral.stretches (splitComment full).1)) =
        (unquoted (splitComment full).1 p).map (·.stretch full) := by
    have hfront := outside_stretches (splitComment full).1 tail hp
    rwa [← hfull] at hfront
  rw [lineTokens, hcut]
  dsimp only
  rw [houtside number_reads.advances, houtside identifier_reads.advances, houtside operator_reads.advances, hstrings,
    hcomment]
  simp only [TokenCategory.all, List.flatMap_cons, List.flatMap_nil, List.append_nil, List.append_assoc, htokens]
  rfl

theorem mem_lineTokens {names : Declarations} {number : Nat} {full : List Char} {t : Token} :
    t ∈ lineTokens names number full ↔
      ∃ category, ∃ m ∈ spans full category, t = tokenAt names number full category m := by
  rw [lineTokens_eq]
  simp only [List.mem_flatMap, List.mem_map]
  constructor
  · rintro ⟨category, -, m, hm, rfl⟩
    exact ⟨category, m, hm, rfl⟩
  · rintro ⟨category, m, hm, rfl⟩
    exact ⟨category, by cases category <;> simp [TokenCategory.all], m, hm, rfl⟩

theorem pairwise_spans (full : List Char) (category : TokenCategory) :
    (spans full category).Pairwise fun m n => m.stop ≤ n.start := by
  cases category with
  | comment =>
    unfold spans
    cases (splitComment full).2 <;> simp
  | string => exact Pattern.pairwise_findAll _ _
  | number => exact (Pattern.pairwise_findAll _ _).filter _
  | word => exact (Pattern.pairwise_findAll _ _).filter _
  | operator => exact (Pattern.pairwise_findAll _ _).filter _

/-! ### Which part of the line a category keeps to -/

theorem covered_iff {spans : List (Match Unit)} {i : Nat} :
    covered spans i = true ↔ ∃ m ∈ spans, m.start ≤ i ∧ i < m.stop := by
  simp [covered]

theorem stop_le_of_mem_spans {full : List Char} {category : TokenCategory} {m : Match Unit}
    (h : m ∈ spans full category) (hne : category ≠ .comment) : m.stop ≤ (splitComment full).1.length := by
  obtain ⟨p, hp, hm⟩ := exists_pattern h hne
  exact (Pattern.isOf_of_mem_findAll hp.advances hm).stop_le

theorem commented_iff {full : List Char} {category : TokenCategory} {m : Match Unit} {i : Nat}
    (h : m ∈ spans full category) (hstart : m.start ≤ i) (hstop : i < m.stop) :
    (splitComment full).1.length ≤ i ↔ category = .comment := by
  constructor
  · intro hi
    by_cases hcategory : category = .comment
    · exact hcategory
    · have := stop_le_of_mem_spans h hcategory
      omega
  · intro hcategory
    subst hcategory
    have := (mem_spans_comment h).1
    omega

theorem start_unquoted {full : List Char} {category : TokenCategory} {m : Match Unit} (h : m ∈ spans full category)
    (hcomment : category ≠ .comment) (hstring : category ≠ .string) :
    covered (spans full .string) m.start = false := by
  cases category with
  | comment => exact absurd rfl hcomment
  | string => exact absurd rfl hstring
  | number => exact (mem_unquoted.mp h).2
  | word => exact (mem_unquoted.mp h).2
  | operator => exact (mem_unquoted.mp h).2

theorem later_quote (category : TokenCategory) (hcomment : category ≠ .comment) (hstring : category ≠ .string) :
    (shapeOf category).later '"' = false := by
  cases category with
  | comment => exact absurd rfl hcomment
  | string => exact absurd rfl hstring
  | _ => rfl

theorem quoted_iff {full : List Char} {category : TokenCategory} {m : Match Unit} {i : Nat}
    (h : m ∈ spans full category) (hstart : m.start ≤ i) (hstop : i < m.stop) :
    covered (spans full .string) i = true ↔ category = .string := by
  constructor
  · intro hquoted
    obtain ⟨n, hn, hnstart, hnstop⟩ := covered_iff.mp hquoted
    by_cases hstring : category = .string
    · exact hstring
    have hcomment : category ≠ .comment := by
      intro hcategory
      have hle := (commented_iff h hstart hstop).mpr hcategory
      have hbefore := stop_le_of_mem_spans hn (by decide)
      omega
    have hshows := shows_of_mem_spans hn
    by_cases hle : n.start ≤ m.start
    · have hinside := covered_iff.mpr ⟨n, hn, hle, by omega⟩
      rw [start_unquoted h hcomment hstring] at hinside
      cases hinside
    · have hbound := hshows.stop_le
      have hchar : full[n.start]? = some full[n.start] := List.getElem?_eq_getElem (by omega)
      have hquote : full[n.start] = '"' := by simpa [shapeOf, quotedShape] using hshows.first _ hchar
      rw [hquote] at hchar
      have hlater := (shows_of_mem_spans h).later n.start '"' (by omega) (by omega) hchar
      rw [later_quote category hcomment hstring] at hlater
      cases hlater
  · intro hcategory
    subst hcategory
    exact covered_iff.mpr ⟨m, h, hstart, hstop⟩

end Lexer
end SnippetLab
