import Mathlib.Data.List.Forall2
import SnippetLab.Proofs.Lexer.Scope

/-! Texts line by line. What a text declares and the tokens it has are those of its lines, one line after the
other; the lines share nothing but the declared names. So a text below another one adds its names and tokens, and
what a word is taken for is all that may change. -/
namespace SnippetLab

open SnippetLab.Text SnippetLab.Lexer

namespace Token

def below (count : Nat) (t : Token) : Token :=
  { t with startLine := t.startLine + count, endLine := t.endLine + count }

/-- The tokens share their place and text, and their kind as well unless both are words. -/
structure Alike (t u : Token) : Prop where
  eq_but_kind : u = { t with kind := u.kind }
  kind : t.kind = u.kind ∨ t.kind.category = .word ∧ u.kind.category = .word

theorem Alike.eq_of_kind {t u : Token} (h : t.Alike u) (hkind : t.kind = u.kind) : t = u := by
  rw [h.eq_but_kind, ← hkind]

theorem Alike.below {t u : Token} (h : t.Alike u) (count : Nat) : (t.below count).Alike (u.below count) := by
  refine ⟨?_, h.kind⟩
  rw [h.eq_but_kind]
  rfl

end Token

theorem splitOn_join (a b : String) :
    (a ++ "\n" ++ b).toList.splitOn '\n' = a.toList.splitOn '\n' ++ b.toList.splitOn '\n' := by
  rw [String.toList_append, String.toList_append, List.append_assoc]
  exact List.splitOn_append_cons_self _ _

namespace Declarations

/-- Every name of the one is a name of the other, in the same role. -/
structure Within (a b : Declarations) : Prop where
  functions : a.functions ⊆ b.functions
  parameters : a.parameters ⊆ b.parameters
  variableNames : a.variableNames ⊆ b.variableNames

theorem ofSource_eq (source : String) : ofSource source =
    ⟨(source.toList.splitOn '\n').flatMap fun line => (ofLine line).functions,
      (source.toList.splitOn '\n').flatMap fun line => (ofLine line).parameters,
      (source.toList.splitOn '\n').flatMap fun line => (ofLine line).variableNames⟩ := by
  simp only [ofSource, foldr_append, lines_eq_splitOn, List.flatMap_map]

theorem ofSource_join (a b : String) : ofSource (a ++ "\n" ++ b) = (ofSource a).append (ofSource b) := by
  simp only [ofSource_eq, splitOn_join, List.flatMap_append, append]

theorem append_within {a b : Declarations} (h : b.Within a) : (a.append b).Within a :=
  ⟨List.append_subset.mpr ⟨List.Subset.refl _, h.functions⟩, List.append_subset.mpr ⟨List.Subset.refl _, h.parameters⟩,
    List.append_subset.mpr ⟨List.Subset.refl _, h.variableNames⟩⟩

theorem within_append (a b : Declarations) : a.Within (a.append b) :=
  ⟨List.subset_append_left _ _, List.subset_append_left _ _, List.subset_append_left _ _⟩

end Declarations

namespace Lexer

variable {names names' : Declarations} {above : Nat} {ls : List (List Char)}

def tokensOf (names : Declarations) (above : Nat) (ls : List (List Char)) : List Token :=
  (ls.zipIdx above).flatMap fun (line, number) => lineTokens names number line

theorem tokenize_eq (source : String) :
    tokenize source = tokensOf (.ofSource source) 0 (source.toList.splitOn '\n') := by
  rw [tokenize, tokensOf, lines_eq_splitOn]

theorem tokensOf_append (names : Declarations) (above : Nat) (xs ys : List (List Char)) :
    tokensOf names above (xs ++ ys) = tokensOf names above xs ++ tokensOf names (above + xs.length) ys := by
  rw [tokensOf, List.zipIdx_append, List.flatMap_append]
  rfl

theorem lineTokens_below (names : Declarations) (number count : Nat) (full : List Char) :
    lineTokens names (number + count) full = (lineTokens names number full).map (Token.below count) := by
  simp only [lineTokens_eq, List.map_flatMap, List.map_map]
  rfl

theorem tokensOf_below (names : Declarations) (above count : Nat) (ls : List (List Char)) :
    tokensOf names (above + count) ls = (tokensOf names above ls).map (Token.below count) := by
  rw [tokensOf, Nat.add_comm, ← List.map_snd_add_zipIdx_eq_zipIdx, List.flatMap_map, tokensOf, List.map_flatMap]
  congr 1
  funext line
  exact lineTokens_below names line.2 count line.1

theorem startLine_of_mem_tokensOf {t : Token} (h : t ∈ tokensOf names above ls) :
    above ≤ t.startLine ∧ t.startLine < above + ls.length := by
  obtain ⟨⟨line, number⟩, hline, ht⟩ := List.mem_flatMap.mp h
  obtain ⟨start, stop, kind, -, -, rfl⟩ := exists_of_mem_lineTokens ht
  have hbounds := List.mem_zipIdx hline
  exact ⟨hbounds.1, hbounds.2.1⟩

theorem forall₂_flatMap {P : β → β → Prop} {f g : α → List β} {xs : List α}
    (h : ∀ x ∈ xs, List.Forall₂ P (f x) (g x)) : List.Forall₂ P (xs.flatMap f) (xs.flatMap g) := by
  have hsame : List.Forall₂ (fun x y => x = y ∧ x ∈ xs) xs xs := List.forall₂_same.mpr fun x hx => ⟨rfl, hx⟩
  refine List.rel_flatMap hsame ?_
  rintro x _ ⟨rfl, hx⟩
  exact h x hx

theorem forall₂_tokensOf {R : Token → Token → Prop}
    (h : ∀ full ∈ ls, ∀ number category m,
      R (tokenAt names number full category m) (tokenAt names' number full category m)) :
    List.Forall₂ R (tokensOf names above ls) (tokensOf names' above ls) := by
  refine forall₂_flatMap ?_
  rintro ⟨full, number⟩ hline
  dsimp only
  rw [lineTokens_eq, lineTokens_eq]
  refine forall₂_flatMap ?_
  intro category _
  rw [List.forall₂_map_left_iff, List.forall₂_map_right_iff, List.forall₂_same]
  intro m _
  exact h full (List.fst_mem_of_mem_zipIdx hline) number category m

theorem alike_tokenAt (names names' : Declarations) (number : Nat) (full : List Char) (category : TokenCategory)
    (m : Match Unit) : (tokenAt names number full category m).Alike (tokenAt names' number full category m) := by
  refine ⟨rfl, ?_⟩
  cases category with
  | word => exact .inr ⟨category_tokenAt _ _ _ _ _, category_tokenAt _ _ _ _ _⟩
  | _ => exact .inl rfl

theorem identifierKind_congr (h : names.Within names') (h' : names'.Within names) (onLine : Declarations)
    (word : String) : identifierKind onLine names word = identifierKind onLine names' word := by
  have hcontains {xs ys : List String} (hxs : xs ⊆ ys) (hys : ys ⊆ xs) : xs.contains word = ys.contains word := by
    rw [Bool.eq_iff_iff, List.contains_iff_mem, List.contains_iff_mem]
    exact ⟨fun hmem => hxs hmem, fun hmem => hys hmem⟩
  simp only [identifierKind, hcontains h.functions h'.functions, hcontains h.parameters h'.parameters,
    hcontains h.variableNames h'.variableNames]

/-- Names decide by what they are, and not by their order or number. -/
theorem tokensOf_congr (h : names.Within names') (h' : names'.Within names) :
    tokensOf names above ls = tokensOf names' above ls := by
  have heq : List.Forall₂ (· = ·) (tokensOf names above ls) (tokensOf names' above ls) := by
    refine forall₂_tokensOf fun full _ number category m => ?_
    cases category with
    | word => simp only [tokenAt, kindOf, identifierKind_congr h h']
    | _ => rfl
  rwa [List.forall₂_eq_eq_eq] at heq

/-- **Texts below each other.** Together they declare what each of them declares, and have the tokens of both, those
of the second one further down. A word may be taken for something else, but not one of the first text if the second
one declares nothing new. Lines may also be put into another order: the same names are declared. -/
theorem tokenize_join (a b : String) :
    let joined := a ++ "\n" ++ b
    let height := (a.toList.splitOn '\n').length
    Declarations.ofSource joined = (Declarations.ofSource a).append (.ofSource b) ∧
    List.Forall₂ Token.Alike (tokenize joined) (tokenize a ++ (tokenize b).map (Token.below height)) ∧
    ((Declarations.ofSource b).Within (.ofSource a) →
      (tokenize joined).filter (fun t => t.startLine < height) = tokenize a) ∧
    ∀ other : String, (a.toList.splitOn '\n').Perm (other.toList.splitOn '\n') →
      (Declarations.ofSource a).functions.Perm (Declarations.ofSource other).functions ∧
        (Declarations.ofSource a).parameters.Perm (Declarations.ofSource other).parameters ∧
        (Declarations.ofSource a).variableNames.Perm (Declarations.ofSource other).variableNames := by
  intro joined height
  have hnames : Declarations.ofSource joined = (Declarations.ofSource a).append (.ofSource b) :=
    Declarations.ofSource_join a b
  have htokens : tokenize joined = tokensOf (.ofSource joined) 0 (a.toList.splitOn '\n') ++
      (tokensOf (.ofSource joined) 0 (b.toList.splitOn '\n')).map (Token.below height) := by
    rw [tokenize_eq, splitOn_join, tokensOf_append, tokensOf_below]
  refine ⟨hnames, ?_, ?_, ?_⟩
  · rw [htokens, tokenize_eq a, tokenize_eq b]
    refine List.rel_append (forall₂_tokensOf fun full _ number => alike_tokenAt _ _ number full) ?_
    rw [List.forall₂_map_left_iff, List.forall₂_map_right_iff]
    exact (forall₂_tokensOf fun full _ number => alike_tokenAt _ _ number full).imp fun t u h => h.below height
  · intro hwithin
    have hfirst : (tokensOf (.ofSource joined) 0 (a.toList.splitOn '\n')) = tokenize a := by
      rw [tokenize_eq, hnames]
      exact tokensOf_congr (Declarations.append_within hwithin) (Declarations.within_append _ _)
    rw [htokens, hfirst, List.filter_append, List.filter_eq_self.mpr, List.filter_eq_nil_iff.mpr, List.append_nil]
    · intro t ht
      obtain ⟨u, -, rfl⟩ := List.mem_map.mp ht
      intro hless
      exact absurd (of_decide_eq_true hless) (Nat.not_lt.mpr (Nat.le_add_left height u.startLine))
    · intro t ht
      rw [tokenize_eq] at ht
      simpa using (startLine_of_mem_tokensOf ht).2
  · intro other hperm
    rw [Declarations.ofSource_eq, Declarations.ofSource_eq]
    exact ⟨hperm.flatMap_right _, hperm.flatMap_right _, hperm.flatMap_right _⟩

/-- The lower text assigns to the variable that the upper one declares, and calls its function. -/
theorem tokenize_join_known :
    let a := "фн ф(п: Цел64)\nпусть а = 1"
    let b := "а = ф(п)"
    let other := "пусть а = 1\nфн ф(п: Цел64)"
    ((Declarations.ofSource b).Within (.ofSource a) ∧ (a.toList.splitOn '\n').Perm (other.toList.splitOn '\n')) ∧
      (tokenize (a ++ "\n" ++ b)).filter (fun t => t.startLine < 2) = tokenize a ∧
      (Declarations.ofSource a).variableNames.Perm (Declarations.ofSource other).variableNames := by
  intro a b other
  obtain ⟨-, -, hkept, hperm⟩ := tokenize_join a b
  have hwithin : (Declarations.ofSource b).Within (.ofSource a) := by
    constructor <;> decide +kernel
  have hlines : (a.toList.splitOn '\n').Perm (other.toList.splitOn '\n') := by decide +kernel
  have hheight : (a.toList.splitOn '\n').length = 2 := by decide +kernel
  refine ⟨⟨hwithin, hlines⟩, ?_, (hperm other hlines).2.2⟩
  rw [← hheight]
  exact hkept hwithin

end Lexer
end SnippetLab
