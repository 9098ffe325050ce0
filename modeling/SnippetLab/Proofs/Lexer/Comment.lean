import SnippetLab.Proofs.Lexer.Spans
import SnippetLab.Proofs.Lexer.Lines
import SnippetLab.Proofs.Lexer.Names

/-! What comments change about the tokens of the code around them. A comment is no code on its line, but it is
searched for names like the rest of the text. So it can change what a word of the code is taken for, and nothing
else. -/
namespace SnippetLab

open SnippetLab.Text SnippetLab.Lexer

namespace Lexer

/-! ### Comments without their text -/

def clearComment (full : List Char) : List Char :=
  let (line, comment) := splitComment full
  if comment.isSome then line ++ ['/', '/'] else line

/-- The text with nothing left of its comments but their slashes. -/
def clearComments (source : String) : String :=
  .ofList (['\n'].intercalate ((source.toList.splitOn '\n').map clearComment))

theorem clearComment_cases (full : List Char) :
    clearComment full = full ∨
      ∃ line tail, full = line ++ '/' :: '/' :: tail ∧ clearComment full = line ++ ['/', '/'] := by
  unfold clearComment
  rcases splitComment_cases full with hsplit | ⟨line, tail, hfull, hsplit⟩
  · rw [hsplit]
    exact .inl rfl
  · rw [hsplit]
    exact .inr ⟨line, tail, hfull, rfl⟩

theorem prefix_clearComment (full : List Char) : clearComment full <+: full := by
  rcases clearComment_cases full with hclear | ⟨line, tail, hfull, hclear⟩
  · exact ⟨[], by rw [hclear, List.append_nil]⟩
  · exact ⟨tail, by rw [hclear, hfull, List.append_assoc]; rfl⟩

theorem splitOn_clearComments (source : String) :
    (clearComments source).toList.splitOn '\n' = (source.toList.splitOn '\n').map clearComment := by
  rw [clearComments, String.toList_ofList, List.splitOn_intercalate]
  · intro cleared hcleared hmem
    obtain ⟨full, hfull, rfl⟩ := List.mem_map.mp hcleared
    exact not_mem_of_mem_splitOn hfull ((prefix_clearComment full).subset hmem)
  · simp

/-! ### Names that a comment adds to -/

theorem declaration_closes {word : String} {close : Char} (hword : '/' ∉ word.toList) (hclose : '/' ≠ close) :
    (declaration word close).Closes '/' := by
  intro before cs tail
  rw [declaration_append hword hclose before cs tail, declaration_append hword hclose before cs [], Option.map_map]
  congr 1
  funext found
  simp

theorem assigned?_append (after tail : List Char) :
    assigned? (after ++ '/' :: tail) = (assigned? (after ++ ['/'])).map (· ++ tail) := by
  unfold assigned?
  rw [dropWhile_append_stop rfl, dropWhile_append_stop rfl]
  cases after.dropWhile isBlank with
  | nil => rfl
  | cons c cs =>
    by_cases hequals : c = '='
    · subst hequals
      simp only [List.cons_append]
      rw [dropWhile_append_stop rfl, dropWhile_append_stop rfl, takeWhile_append_stop rfl, takeWhile_append_stop rfl]
      cases cs.dropWhile isBlank with
      | nil => rfl
      | cons d rest =>
        by_cases hsecond : d = '=' <;> by_cases hblank : (cs.takeWhile isBlank).isEmpty = true <;>
          simp [hsecond, hblank]
    · simp [hequals]

theorem assignment_closes : assignment.Closes '/' := by
  intro before cs tail
  rw [assignment_leads, assignment_leads, identifier?_append rfl, identifier?_append rfl]
  cases identifier? cs with
  | none => rfl
  | some found =>
    simp only [Option.map_some, Option.bind_some, assigned?_append found.2 tail, Option.map_map]
    rfl

theorem values_clearComment_subset {p : Pattern α} (hp : p.Closes '/') (hadvances : p.Advances) (full : List Char) :
    p.values (clearComment full) ⊆ p.values full := by
  rcases clearComment_cases full with hclear | ⟨line, tail, hfull, hclear⟩
  · rw [hclear]
    exact List.Subset.refl _
  · rw [hclear, hfull, List.append_cons line '/' ['/'], List.append_cons line '/' ('/' :: tail)]
    exact hp.values_subset hadvances _ _

end Lexer

namespace Declarations

theorem ofLine_clearComment_within (full : List Char) : (ofLine (clearComment full)).Within (ofLine full) := by
  constructor
  · exact values_clearComment_subset (declaration_closes (by decide) (by decide)) (declaration_advances _ _) full
  · refine flatMap_subset_flatMap ?_ fun _ => List.Subset.refl _
    obtain ⟨tail, hfull⟩ := prefix_clearComment full
    have hvalues := (parameterGroup_endures tail).values_subset (clearComment full)
    rwa [hfull] at hvalues
  · refine List.append_subset.mpr ⟨List.subset_append_of_subset_left _ ?_, List.subset_append_of_subset_right _ ?_⟩
    · exact values_clearComment_subset (declaration_closes (by decide) (by decide)) (declaration_advances _ _) full
    · refine List.filter_subset _ ?_
      exact values_clearComment_subset assignment_closes (assignment_leads.advances assigned?_stops) full

/-- The text of comments adds names and takes none away. -/
theorem ofSource_clearComments_within (source : String) :
    (ofSource (clearComments source)).Within (ofSource source) := by
  simp only [ofSource_eq, splitOn_clearComments, List.flatMap_map]
  constructor
  · exact flatMap_subset_flatMap (List.Subset.refl _) fun line => (ofLine_clearComment_within line).functions
  · exact flatMap_subset_flatMap (List.Subset.refl _) fun line => (ofLine_clearComment_within line).parameters
  · exact flatMap_subset_flatMap (List.Subset.refl _) fun line => (ofLine_clearComment_within line).variableNames

/-- The word has a role that it does not have among the fewer names, and no higher one. -/
def Raises (few names : Declarations) (word : String) : Prop :=
  (word ∈ names.functions ∧ word ∉ few.functions) ∨
  (word ∉ names.functions ∧ word ∈ names.parameters ∧ word ∉ few.parameters) ∨
  (word ∉ names.functions ∧ word ∉ names.parameters ∧ word ∈ names.variableNames ∧ word ∉ few.variableNames)

instance (few names : Declarations) (word : String) : Decidable (few.Raises names word) :=
  inferInstanceAs (Decidable (_ ∨ _ ∨ _))

theorem identifierKind_ne_iff {few names : Declarations} (h : few.Within names) (word : String) :
    identifierKind {} few word ≠ identifierKind {} names word ↔ few.Raises names word := by
  have hundeclared : Vocabulary.classify word ≠ .userFunction ∧ Vocabulary.classify word ≠ .parameter ∧
      Vocabulary.classify word ≠ .userVariable := by
    unfold Vocabulary.classify
    repeat' split
    all_goals decide
  obtain ⟨hfunction, hparameter, hvariable⟩ := hundeclared
  rw [identifierKind_eq, identifierKind_eq]
  constructor
  · intro hne
    by_cases hfun : word ∈ names.functions
    · refine .inl ⟨hfun, fun hfew => hne ?_⟩
      rw [if_pos hfew, if_pos hfun]
    rw [if_neg fun hfew => hfun (h.functions hfew), if_neg hfun] at hne
    by_cases hpar : word ∈ names.parameters
    · refine .inr (.inl ⟨hfun, hpar, fun hfew => hne ?_⟩)
      rw [if_pos hfew, if_pos hpar]
    rw [if_neg fun hfew => hpar (h.parameters hfew), if_neg hpar] at hne
    by_cases hvar : word ∈ names.variableNames
    · refine .inr (.inr ⟨hfun, hpar, hvar, fun hfew => hne ?_⟩)
      rw [if_pos hfew, if_pos hvar]
    rw [if_neg fun hfew => hvar (h.variableNames hfew), if_neg hvar] at hne
    exact absurd rfl hne
  · rintro (⟨hfun, hfew⟩ | ⟨hfun, hpar, hfew⟩ | ⟨hfun, hpar, hvar, hfew⟩)
    · rw [if_neg hfew, if_pos hfun]
      split
      · decide
      split
      · decide
      · exact hfunction
    · rw [if_neg fun hfew => hfun (h.functions hfew), if_neg hfew, if_neg hfun, if_pos hpar]
      split
      · decide
      · exact hparameter
    · rw [if_neg fun hfew => hfun (h.functions hfew), if_neg fun hfew => hpar (h.parameters hfew), if_neg hfew,
        if_neg hfun, if_neg hpar, if_pos hvar]
      exact hvariable

end Declarations

namespace Lexer

/-! ### The tokens of the code -/

/-- The tokens of a text but for its comments. -/
def codeTokens (source : String) : List Token :=
  (tokenize source).filter fun t => t.kind ≠ .comment

theorem splitComment_code (full : List Char) :
    splitComment (splitComment full).1 = ((splitComment full).1, none) := by
  rcases splitComment_cases full with hsplit | ⟨line, tail, hfull, hsplit⟩
  · rw [hsplit, hsplit]
  rcases splitComment_cases line with hnone | ⟨front, inner, hline, -⟩
  · rw [hsplit, hnone]
  · exfalso
    have hfind : find? ['/', '/'] full = some line.length := by
      unfold splitComment at hsplit
      split at hsplit
      · next start hstart =>
        rw [hstart, (Prod.mk.inj hsplit).2]
      · cases (Prod.mk.inj hsplit).2
    have hearlier : ['/', '/'] <+: full.drop front.length := by
      rw [hfull, hline, List.append_assoc, List.drop_left]
      exact ⟨inner ++ '/' :: '/' :: tail, rfl⟩
    obtain ⟨first, hfirst, hle⟩ := find?_le hearlier
    have hlength := congrArg List.length hline
    rw [hfind] at hfirst
    cases hfirst
    simp only [List.length_append, List.length_cons] at hlength
    omega

theorem spans_code (full : List Char) {category : TokenCategory} (h : category ≠ .comment) :
    spans (splitComment full).1 category = spans full category := by
  cases category with
  | comment => exact absurd rfl h
  | _ => simp only [spans, splitComment_code]

theorem tokenAt_code (names : Declarations) (number : Nat) {full : List Char} {category : TokenCategory}
    {m : Match Unit} (hm : m ∈ spans full category) (h : category ≠ .comment) :
    tokenAt names number (splitComment full).1 category m = tokenAt names number full category m := by
  have hslice : slice (splitComment full).1 m.start m.stop = slice full m.start m.stop := by
    obtain ⟨comment, hfull⟩ := splitComment_append full
    have hlt := (shows_of_mem_spans hm).start_lt_stop
    have hle := stop_le_of_mem_spans hm h
    generalize (splitComment full).1 = line at hfull hle
    rw [hfull, slice, slice, List.drop_append_of_le_length (by omega),
      List.take_append_of_le_length (by rw [List.length_drop]; omega)]
  have hkind : kindOf names (splitComment full).1 category = kindOf names full category := by
    funext word
    cases category with
    | word => simp only [kindOf, splitComment_code]
    | _ => rfl
  rw [tokenAt, tokenAt, hslice, hkind]

theorem lineTokens_code (names : Declarations) (number : Nat) (full : List Char) :
    (lineTokens names number full).filter (fun t => t.kind ≠ .comment) =
      lineTokens names number (splitComment full).1 := by
  rw [lineTokens_eq, lineTokens_eq, List.filter_flatMap]
  congr 1
  funext category
  by_cases hcategory : category = .comment
  · subst hcategory
    rw [List.filter_map, List.filter_eq_nil_iff.mpr fun m _ => by simp [tokenAt, Token.onLine, kindOf], spans,
      splitComment_code]
    rfl
  · have hkept : ∀ t ∈ (spans full category).map (tokenAt names number full category), t.kind ≠ .comment := by
      intro t ht hkind
      obtain ⟨m, -, rfl⟩ := List.mem_map.mp ht
      exact hcategory (by rw [← category_tokenAt names number full category m, hkind]; rfl)
    rw [List.filter_eq_self.mpr fun t ht => decide_eq_true (hkept t ht), spans_code full hcategory]
    exact List.map_congr_left fun m hm => (tokenAt_code names number hm hcategory).symm

def codeLines (source : String) : List (List Char) :=
  (source.toList.splitOn '\n').map fun full => (splitComment full).1

theorem codeTokens_eq (source : String) :
    codeTokens source = tokensOf (.ofSource source) 0 (codeLines source) := by
  rw [codeTokens, tokenize_eq, tokensOf, tokensOf, codeLines, List.filter_flatMap, List.zipIdx_map, List.flatMap_map]
  congr 1
  funext line
  exact lineTokens_code _ line.2 line.1

/-! ### Texts that differ within their comments only -/

section SameCode

variable {source other : String}
  (h : (source.toList.splitOn '\n').map splitComment = (other.toList.splitOn '\n').map splitComment)
include h

theorem codeLines_eq : codeLines source = codeLines other := by
  have hlines := congrArg (List.map Prod.fst) h
  rwa [List.map_map, List.map_map] at hlines

theorem clearComments_eq : clearComments source = clearComments other := by
  have hlines := congrArg (List.map fun (line, comment) => if comment.isSome then line ++ ['/', '/'] else line) h
  rw [List.map_map, List.map_map] at hlines
  exact congrArg (fun cleared => String.ofList (['\n'].intercalate cleared)) hlines

end SameCode

/-- What the comments of the text say gives the word a role that it has not without them, and no higher one. -/
def RaisedByComments (source word : String) : Prop :=
  (Declarations.ofSource (clearComments source)).Raises (.ofSource source) word

instance (source word : String) : Decidable (RaisedByComments source word) :=
  inferInstanceAs (Decidable (Declarations.Raises _ _ _))

theorem kindOf_ne_iff {source : String} {code : List Char} (hcode : code ∈ codeLines source) (word : String) :
    kindOf (.ofSource source) code .word word ≠ identifierKind {} (.ofSource (clearComments source)) word ↔
      RaisedByComments source word := by
  obtain ⟨full, hfull, rfl⟩ := List.mem_map.mp hcode
  obtain ⟨hfunctions, hparameters⟩ := Declarations.ofSignatures_subset_ofSource hfull
  rw [kindOf, splitComment_code, identifierKind_of_subset hfunctions hparameters, ne_comm]
  exact Declarations.identifierKind_ne_iff (Declarations.ofSource_clearComments_within source) word

/-- **What comments change.** In texts that differ within their comments only, the tokens of the code are the same
but for the kinds of words. Those differ only where a comment declares the word in a role that it has not without
that comment; and then it has another kind than without. Where there is no such word, the tokens are all the same. A
comment takes no role away. -/
theorem tokenize_comments (source other : String)
    (h : (source.toList.splitOn '\n').map splitComment = (other.toList.splitOn '\n').map splitComment) :
    List.Forall₂
      (fun t u => t.Alike u ∧ (t.kind ≠ u.kind → RaisedByComments source t.text ∨ RaisedByComments other t.text))
      (codeTokens source) (codeTokens other) ∧
    ((∀ t ∈ codeTokens source, ¬RaisedByComments source t.text ∧ ¬RaisedByComments other t.text) →
      codeTokens source = codeTokens other) ∧
    (∀ t ∈ codeTokens source, t.kind.category = .word →
      (t.kind ≠ identifierKind {} (.ofSource (clearComments source)) t.text ↔ RaisedByComments source t.text)) ∧
    (Declarations.ofSource (clearComments source)).Within (.ofSource source) := by
  have hwithin := Declarations.ofSource_clearComments_within source
  have hpairs : List.Forall₂
      (fun t u => t.Alike u ∧ (t.kind ≠ u.kind → RaisedByComments source t.text ∨ RaisedByComments other t.text))
      (codeTokens source) (codeTokens other) := by
    rw [codeTokens_eq, codeTokens_eq, ← codeLines_eq h]
    refine forall₂_tokensOf fun code hcode number category m => ⟨alike_tokenAt _ _ number code category m, ?_⟩
    intro hne
    cases category with
    | word =>
      have hsource := kindOf_ne_iff hcode (slice code m.start m.stop)
      have hother := kindOf_ne_iff (codeLines_eq h ▸ hcode) (slice code m.start m.stop)
      rw [← clearComments_eq h] at hother
      by_contra hnone
      obtain ⟨hnot, hnot'⟩ := not_or.mp hnone
      exact hne ((not_not.mp (mt hsource.mp hnot)).trans (not_not.mp (mt hother.mp hnot')).symm)
    | _ => exact absurd rfl hne
  refine ⟨hpairs, ?_, ?_, hwithin⟩
  · intro hnone
    have heq : List.Forall₂ (· = ·) (codeTokens source) (codeTokens other) := by
      refine ((List.forall₂_and_left _ _).mpr ⟨hnone, hpairs⟩).imp ?_
      rintro t u ⟨⟨hnot, hnot'⟩, halike, hraised⟩
      refine halike.eq_of_kind (not_not.mp fun hne => ?_)
      exact (hraised hne).elim hnot hnot'
    rwa [List.forall₂_eq_eq_eq] at heq
  · intro t ht hword
    rw [kind_eq_of_word (List.mem_filter.mp ht).1 hword, ne_comm]
    exact Declarations.identifierKind_ne_iff hwithin _

/-- A comment that declares a variable of the code, and two comments that declare nothing. -/
theorem tokenize_comments_declared :
    let source := "а = б // пусть б = 1"
    let other := "а = б // раз"
    let third := "а = б // два"
    let t := Token.onLine 0 4 5 .userVariable "б"
    (source.toList.splitOn '\n').map splitComment = (other.toList.splitOn '\n').map splitComment ∧
    (t ∈ codeTokens source ∧ t.kind.category = .word ∧ RaisedByComments source "б" ∧
      t.kind ≠ identifierKind {} (.ofSource (clearComments source)) "б") ∧
    (other.toList.splitOn '\n').map splitComment = (third.toList.splitOn '\n').map splitComment ∧
    (∀ t ∈ codeTokens other, ¬RaisedByComments other t.text ∧ ¬RaisedByComments third t.text) ∧
    codeTokens other = codeTokens third := by
  intro source other third t
  have hsame : (source.toList.splitOn '\n').map splitComment = (other.toList.splitOn '\n').map splitComment := by
    decide +kernel
  have hsame' : (other.toList.splitOn '\n').map splitComment = (third.toList.splitOn '\n').map splitComment := by
    decide +kernel
  have ht : t ∈ codeTokens source := by decide +kernel
  have hraised : RaisedByComments source "б" := by decide +kernel
  have hnone : ∀ t ∈ codeTokens other, ¬RaisedByComments other t.text ∧ ¬RaisedByComments third t.text := by
    decide +kernel
  obtain ⟨-, -, hkinds, -⟩ := tokenize_comments source other hsame
  obtain ⟨-, hequal, -, -⟩ := tokenize_comments other third hsame'
  exact ⟨hsame, ⟨ht, rfl, hraised, (hkinds t ht rfl).mpr hraised⟩, hsame', hnone, hequal hnone⟩

/-- The word in front of the comment is a variable if the comment declares it. -/
theorem comment_declares :
    let source := "а // раз"
    let other := "а // пусть а = 1"
    (source.toList.splitOn '\n').map splitComment = (other.toList.splitOn '\n').map splitComment ∧
      codeTokens source = [.onLine 0 0 1 .identifier "а"] ∧ codeTokens other = [.onLine 0 0 1 .userVariable "а"] ∧
      codeTokens source ≠ codeTokens other := by
  decide +kernel

end Lexer
end SnippetLab
