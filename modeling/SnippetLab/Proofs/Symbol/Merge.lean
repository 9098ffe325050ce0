import SnippetLab.Symbol.Merge
import SnippetLab.Proofs.Lexer.Spans
import SnippetLab.Proofs.Symbol.Priority

/-!
Tokens enriched by the symbols of a dump. A token is tagged exactly if its text is a known name. No rule
captures a quote, so string literals stay what they are.
-/
namespace SnippetLab

open SnippetLab.Text

/-! ### Captured names -/

namespace Text.Pattern

theorem exists_of_mem_scan {p : Pattern α} {m : Match α} {skip here : Nat} {before : Option Char} {cs : List Char}
    (h : m ∈ p.scan skip before here cs) : ∃ before cs rest, p before cs = some (m.value, rest) := by
  induction cs generalizing skip before here with
  | nil => simp [scan] at h
  | cons c cs ih =>
    cases skip with
    | succ skip => exact ih (by simpa [scan] using h)
    | zero =>
      cases hc : p before (c :: cs) with
      | none => exact ih (by simpa [scan, hc] using h)
      | some found =>
        simp only [scan, hc, List.mem_cons] at h
        obtain rfl | h := h
        · exact ⟨before, c :: cs, found.2, hc⟩
        · exact ih h

end Text.Pattern

namespace MiningRule

def Unquoted (p : Pattern Capture) : Prop :=
  ∀ before cs capture rest, p before cs = some (capture, rest) → '"' ∉ capture.name.toList

theorem unquoted_named (opening closing : String) : Unquoted (named opening closing) := by
  intro before cs capture rest h
  simp only [named, Option.bind_eq_bind, Option.bind_eq_some_iff, Option.pure_def, Option.some.injEq,
    Prod.mk.injEq] at h
  obtain ⟨after, -, ⟨name, left⟩, hname, closed, -, rfl, -⟩ := h
  simp only [quotedName?, Option.bind_eq_bind, Option.bind_eq_some_iff, Option.pure_def, Option.some.injEq,
    Prod.mk.injEq] at hname
  obtain ⟨⟨front, back⟩, hfront, closed, -, rfl, -⟩ := hname
  obtain ⟨rfl, -, -⟩ := some?_eq_some hfront
  dsimp only
  rw [String.toList_ofList]
  intro hquote
  simpa using List.all_eq_true.mp (List.all_takeWhile (p := (· ≠ '"'))) _ hquote

theorem unquoted_variablePattern : Unquoted variablePattern := by
  intro before cs capture rest h
  simp only [variablePattern, Option.bind_eq_bind, Option.bind_eq_some_iff, Option.pure_def, Option.some.injEq,
    Prod.mk.injEq] at h
  obtain ⟨⟨declared, left⟩, hnamed, closed, -, rfl, -⟩ := h
  exact unquoted_named _ _ _ _ declared left hnamed

theorem unquoted_referencePattern : Unquoted referencePattern := by
  intro before cs capture rest h
  simp only [referencePattern, Option.bind_eq_bind, Option.bind_eq_some_iff] at h
  obtain ⟨type, -, hnamed⟩ := h
  exact unquoted_named _ _ _ _ _ _ hnamed

theorem unquoted_externalPattern : Unquoted externalPattern := by
  intro before cs capture rest h
  simp only [externalPattern, Option.bind_eq_bind, Option.bind_eq_some_iff, Option.pure_def, Option.some.injEq,
    Prod.mk.injEq] at h
  obtain ⟨⟨defined, left⟩, hnamed, reach, -, rfl, -⟩ := h
  exact unquoted_named _ _ _ _ _ _ hnamed

theorem unquoted_usagePattern : Unquoted usagePattern := by
  intro before cs capture rest h
  simp only [usagePattern, Option.bind_eq_bind, Option.bind_eq_some_iff] at h
  obtain ⟨_, -, _, -, _, -, _, -, _, -, hnamed⟩ := h
  exact unquoted_named _ _ _ _ _ _ hnamed

theorem lastSegment?_suffix {path last : List Char} (h : lastSegment? path = some last) : last <:+ path := by
  induction path using segments.induct generalizing last with
  | case1 => cases h
  | case2 rest ih =>
    have hrest : rest <:+ ':' :: ':' :: rest := ⟨[':', ':'], rfl⟩
    rw [lastSegment?, Option.some.injEq] at h
    cases hlast : lastSegment? rest with
    | none =>
      rw [hlast, Option.getD_none] at h
      exact h ▸ hrest
    | some deeper =>
      rw [hlast, Option.getD_some] at h
      exact h ▸ (ih hlast).trans hrest
  | case3 c rest hc ih =>
    rw [lastSegment?.eq_3 c rest hc] at h
    exact (ih h).trans (List.suffix_cons c rest)

structure IsUnquoted (r : MiningRule) : Prop where
  pattern : Unquoted r.pattern
  propose : ∀ f e, r.propose f = some e → e.1.toList <:+ f.capture.name.toList

theorem isUnquoted_importedPath : importedPath.IsUnquoted := by
  refine ⟨unquoted_named _ _, fun f e h => ?_⟩
  obtain ⟨last, hlast, rfl⟩ := Option.map_eq_some_iff.mp h
  dsimp only
  rw [String.toList_ofList]
  exact lastSegment?_suffix hlast

theorem IsUnquoted.of_name_eq {r : MiningRule} (hpattern : Unquoted r.pattern)
    (h : ∀ f e, r.propose f = some e → e.1 = f.capture.name) : r.IsUnquoted :=
  ⟨hpattern, fun f e hpropose => h f e hpropose ▸ List.suffix_rfl⟩

theorem propose_variableUsage (f : Finding) (e : String × SymbolInfo) (h : variableUsage.propose f = some e) :
    e.1 = f.capture.name := by
  simp only [variableUsage] at h
  repeat' split at h
  all_goals cases h
  rfl

theorem isUnquoted_of_mem_table {r : MiningRule} (h : r ∈ table) : r.IsUnquoted := by
  simp only [table, List.mem_cons, List.not_mem_nil, or_false] at h
  obtain rfl | rfl | rfl | rfl | rfl | rfl | rfl | rfl := h
  · exact .of_name_eq (unquoted_named _ _) fun f e h => by grind [userFunction]
  · exact isUnquoted_importedPath
  · exact .of_name_eq unquoted_variablePattern fun f e h => by grind [typedVariable]
  · exact .of_name_eq unquoted_referencePattern fun f e h => by grind [parameterReference]
  · exact .of_name_eq (unquoted_named _ _) fun f e h => by grind [selectorMethod]
  · exact .of_name_eq (unquoted_named _ _) fun f e h => by grind [localCall]
  · exact .of_name_eq unquoted_externalPattern fun f e h => by grind [externalFunction]
  · exact .of_name_eq unquoted_usagePattern propose_variableUsage

theorem IsUnquoted.quote_not_mem {r : MiningRule} (h : r.IsUnquoted) {userSection fullDump : List Char}
    {e : String × SymbolInfo} (he : e ∈ r.proposals userSection fullDump) : '"' ∉ e.1.toList := by
  obtain ⟨m, hm, hpropose⟩ := List.mem_filterMap.mp he
  obtain ⟨before, cs, rest, hp⟩ := Pattern.exists_of_mem_scan hm
  exact fun hquote => h.pattern before cs _ rest hp ((h.propose _ e hpropose).subset hquote)

theorem get?_apply_eq_some {r : MiningRule} {userSection fullDump : List Char} {symbols : SymbolMap} {name : String}
    {info : SymbolInfo} (h : (r.apply userSection fullDump symbols).get? name = some info) :
    symbols.get? name = some info ∨ ∃ e ∈ r.proposals userSection fullDump, e.1 = name := by
  have hproposed {found : Option (String × SymbolInfo)}
      (hfound : ∀ e, found = some e → e ∈ (r.proposals userSection fullDump).filter (·.1 = name))
      (hinfo : found.map (·.2) = some info) : ∃ e ∈ r.proposals userSection fullDump, e.1 = name := by
    obtain ⟨e, he, -⟩ := Option.map_eq_some_iff.mp hinfo
    obtain ⟨hmem, hname⟩ := List.mem_filter.mp (hfound e he)
    exact ⟨e, hmem, of_decide_eq_true hname⟩
  cases hoverrides : r.overrides with
  | true =>
    rw [get?_apply_overriding _ _ _ _ _ hoverrides, Option.or_eq_some_iff] at h
    obtain h | ⟨-, h⟩ := h
    · exact .inr (hproposed (fun e => List.mem_of_getLast?) h)
    · exact .inl h
  | false =>
    rw [get?_apply_filling _ _ _ _ _ hoverrides, Option.or_eq_some_iff] at h
    obtain h | ⟨-, h⟩ := h
    · exact .inl h
    · exact .inr (hproposed (fun e => List.mem_of_head?) h)

end MiningRule

namespace SymbolMap

/-- No name that a dump yields has a quote in it. -/
theorem quote_not_mem_of_get?_mine {dump name : String} {info : SymbolInfo} (h : (mine dump).get? name = some info) :
    '"' ∉ name.toList := by
  have hfold (rules : List MiningRule) (hrules : rules ⊆ MiningRule.table) (userSection fullDump : List Char)
      (symbols : SymbolMap) (hsymbols : ∀ info, symbols.get? name = some info → '"' ∉ name.toList) :
      ∀ info, (rules.foldl (fun symbols r => r.apply userSection fullDump symbols) symbols).get? name = some info →
        '"' ∉ name.toList := by
    induction rules generalizing symbols with
    | nil => exact hsymbols
    | cons r rules ih =>
      obtain ⟨hr, hrest⟩ := List.cons_subset.mp hrules
      refine ih hrest _ fun info hinfo => ?_
      obtain hbefore | ⟨e, he, rfl⟩ := MiningRule.get?_apply_eq_some hinfo
      · exact hsymbols info hbefore
      · exact (MiningRule.isUnquoted_of_mem_table hr).quote_not_mem he
  have hempty (info : SymbolInfo) (h : empty.get? name = some info) : '"' ∉ name.toList := nomatch h
  unfold mine at h
  dsimp only at h
  split at h
  · exact hempty info h
  · exact hfold _ (List.Subset.refl _) _ _ empty hempty info h

end SymbolMap

/-! ### String literals -/

namespace Lexer

theorem quote_mem_of_mem_lineTokens {names : Declarations} {number : Nat} {full : List Char} {t : Token}
    (h : t ∈ lineTokens names number full) (hkind : t.kind = .stringLiteral) : '"' ∈ t.text.toList := by
  obtain ⟨category, m, hm, rfl⟩ := mem_lineTokens.mp h
  have hcategory : category = .string := by
    rw [← category_tokenAt names number full category m, hkind]
    rfl
  subst hcategory
  have hshows := shows_of_mem_spans hm
  have hlt := hshows.start_lt_stop
  have hle := hshows.stop_le
  have hc : full[m.start]? = some full[m.start] := List.getElem?_eq_getElem (by omega)
  have hquote : full[m.start] = '"' := by simpa [shapeOf, quotedShape] using hshows.first _ hc
  have htext := getElem?_text_tokenAt names number full .string (Nat.le_refl m.start) hlt
  rw [hc, hquote] at htext
  exact List.mem_of_getElem? htext

theorem quote_mem_of_mem_tokenize {source : String} {t : Token} (h : t ∈ tokenize source)
    (hkind : t.kind = .stringLiteral) : '"' ∈ t.text.toList := by
  simp only [tokenize, List.mem_flatMap] at h
  obtain ⟨line, -, ht⟩ := h
  exact quote_mem_of_mem_lineTokens ht hkind

end Lexer

/-! ### Merging -/

theorem Vocabulary.isKeyword_of_quote {word : String} (h : '"' ∈ word.toList) : isKeyword word = false := by
  have hfree : ∀ word ∈ keywords, '"' ∉ word.toList := by decide +kernel
  rw [isKeyword, Bool.eq_false_iff, Ne, List.contains_iff_mem]
  exact fun hmem => hfree word hmem h

theorem Token.refinedKind_refinedKind (t : Token) :
    Token.refinedKind { t with kind := t.refinedKind } = t.refinedKind := by
  unfold refinedKind
  cases Vocabulary.isKeyword t.text with
  | true => rfl
  | false => cases refinedTypeNames.contains t.text <;> rfl

theorem Token.refinedKind_of_quote {t : Token} (h : '"' ∈ t.text.toList) : t.refinedKind = t.kind := by
  have hfree : ∀ name ∈ refinedTypeNames, '"' ∉ name.toList := by decide
  have htype : refinedTypeNames.contains t.text = false := by
    rw [Bool.eq_false_iff, Ne, List.contains_iff_mem]
    exact fun hmem => hfree t.text hmem h
  rw [refinedKind, Vocabulary.isKeyword_of_quote h, htype]
  rfl

namespace SymbolMap

variable (symbols : SymbolMap)

theorem text_mergeToken (t : Token) : (symbols.mergeToken t).text = t.text := by
  unfold mergeToken
  split <;> rfl

theorem position_mergeToken (t : Token) : (symbols.mergeToken t).position = t.position := by
  unfold mergeToken
  split <;> rfl

theorem semanticTag_mergeToken {t : Token} (h : t.semanticTag = none) :
    (symbols.mergeToken t).semanticTag = (symbols.get? t.text).map (·.kind) := by
  unfold mergeToken
  split
  · next info hinfo => rw [hinfo]; rfl
  · next hnone => rw [hnone]; exact h

theorem kind_mergeToken {t : Token} {tag : SymbolKind} (h : t.semanticTag = none)
    (htag : (symbols.mergeToken t).semanticTag = some tag) : (symbols.mergeToken t).kind = tag.tokenKind := by
  rw [semanticTag_mergeToken symbols h] at htag
  obtain ⟨info, hinfo, rfl⟩ := Option.map_eq_some_iff.mp htag
  rw [mergeToken, hinfo]

theorem mergeToken_mergeToken (t : Token) : symbols.mergeToken (symbols.mergeToken t) = symbols.mergeToken t := by
  cases hinfo : symbols.get? t.text with
  | some info => simp [mergeToken, hinfo]
  | none =>
    simp only [mergeToken, hinfo]
    rw [Token.refinedKind_refinedKind]

theorem merge_merge (tokens : List Token) : symbols.merge (symbols.merge tokens) = symbols.merge tokens := by
  rw [merge, merge, List.map_map]
  exact List.map_congr_left fun t _ => symbols.mergeToken_mergeToken t

theorem sortByPosition_merge (tokens : List Token) :
    Token.sortByPosition (symbols.merge tokens) = symbols.merge (Token.sortByPosition tokens) := by
  refine (List.map_mergeSort fun a _ b _ => ?_).symm
  rw [position_mergeToken, position_mergeToken]

/-- A quote keeps a token from every symbol that a dump yields, and from being refined. -/
theorem mergeToken_mine_of_quote (dump : String) {t : Token} (h : '"' ∈ t.text.toList) :
    (mine dump).mergeToken t = t := by
  cases hinfo : (mine dump).get? t.text with
  | some info => exact absurd h (quote_not_mem_of_get?_mine hinfo)
  | none => rw [mergeToken, hinfo, Token.refinedKind_of_quote h]

/-- **What merging the symbols of a dump into the tokens of a source does.** Exactly the tokens whose text
is a known name are tagged, with the kind of that name, and take the token kind of their tag; string
literals stay as they are; merging once more changes nothing; and it does not matter whether tokens are
sorted before or after. The dump need not be one of that source. -/
theorem merge_tokenize_mine (source dump : String) :
    let symbols := mine dump
    let tokens := Lexer.tokenize source
    let merged := symbols.merge tokens
    (∀ t ∈ merged, (t.semanticTag ≠ none ↔ symbols.contains t.text = true) ∧
      ∀ tag, t.semanticTag = some tag →
        (symbols.get? t.text).map (·.kind) = some tag ∧ t.kind = tag.tokenKind) ∧
    (∀ (i : Nat) (t : Token), tokens[i]? = some t → t.kind = .stringLiteral → merged[i]? = some t) ∧
    symbols.merge merged = merged ∧
    Token.sortByPosition merged = symbols.merge (Token.sortByPosition tokens) := by
  intro symbols tokens merged
  refine ⟨fun t ht => ?_, fun i t ht hkind => ?_, merge_merge symbols tokens, sortByPosition_merge symbols tokens⟩
  · obtain ⟨plain, hplain, rfl⟩ := List.mem_map.mp ht
    have htag := symbols.semanticTag_mergeToken (Lexer.semanticTag_of_mem_tokenize hplain)
    rw [text_mergeToken, htag]
    refine ⟨by rw [contains, Option.isSome_iff_ne_none, Ne, Option.map_eq_none_iff], fun tag h => ⟨h, ?_⟩⟩
    exact symbols.kind_mergeToken (Lexer.semanticTag_of_mem_tokenize hplain) (htag.trans h)
  · have hquote := Lexer.quote_mem_of_mem_tokenize (List.mem_of_getElem? ht) hkind
    change (tokens.map symbols.mergeToken)[i]? = some t
    rw [List.getElem?_map, ht, Option.map_some, mergeToken_mine_of_quote dump hquote]

end SymbolMap
end SnippetLab
