import SnippetLab.Proofs.Symbol.Priority
import SnippetLab.Proofs.Text.Search

/-! Which functions count as the user's. A definition may be rejected, and then it makes no entry; but a call looks
only for the text that a definition begins with, and so for rejected ones too. -/
namespace SnippetLab

open SnippetLab.Text

namespace MiningRule

/-- A definition of the function begins there. -/
def DefinedAt (text : List Char) (name : String) (i : Nat) : Prop := functionMarker name <+: text.drop i

/-- The name is internal, or the rest of the line has the word `External`. -/
def RejectedAt (text : List Char) (name : String) (i : Nat) : Prop :=
  isInternalFunction name = true ∨
    occursIn external (firstLine (text.drop (i + (functionMarker name).length))) = true

variable {text : List Char} {name : String} {i : Nat}

/-! ### The matches are the definitions -/

def functionOpening : List Char := ['(', 'F', 'u', 'n', 'c', 't', 'i', 'o', 'n', ' ']

def functionClosing : List Char := [' ', '"', 'f', 'u', 'n', 'c', 't', 'y', 'p', 'e', '"']

theorem functionMarker_append (name : String) (rest : List Char) :
    functionMarker name ++ rest = functionOpening ++ '"' :: (name.toList ++ '"' :: (functionClosing ++ rest)) := by
  have hopening : "(Function \"".toList = functionOpening ++ ['"'] := by decide
  have hclosing : "\" \"functype\"".toList = '"' :: functionClosing := by decide
  unfold functionMarker
  simp only [hopening, hclosing, List.append_assoc, List.cons_append, List.nil_append]

theorem functionPattern_eq_some_iff {before : Option Char} {cs rest : List Char} {capture : Capture} :
    functionPattern before cs = some (capture, rest) ↔
      IsQuotable capture.name ∧ capture.type = "" ∧ cs = functionMarker capture.name ++ rest := by
  have hopening : "(Function \"".toList = functionOpening ++ ['"'] := by decide
  have hclosing : " \"functype\"".toList = functionClosing := by decide
  simp only [functionPattern, named_eq_some_iff, functionMarker_append, hopening, hclosing, List.append_assoc,
    List.cons_append, List.nil_append]

theorem head?_functionMarker (name : String) : (functionMarker name).head? = some '(' := by
  rw [← List.append_nil (functionMarker name), functionMarker_append]
  rfl

theorem functionMarker_ne_nil (name : String) : functionMarker name ≠ [] := by
  intro h
  have hhead := head?_functionMarker name
  rw [h] at hhead
  cases hhead

theorem of_mem_captures_functionPattern {m : Match Capture} (hm : m ∈ captures functionPattern text name) :
    IsQuotable name ∧ DefinedAt text name m.start ∧ m.stop = m.start + (functionMarker name).length := by
  rw [captures, List.mem_filter, decide_eq_true_eq] at hm
  obtain ⟨hmem, rfl⟩ := hm
  have hof := Pattern.isOf_of_mem_findAll (named_advances _ _) hmem
  obtain ⟨hname, -, hsplit⟩ := functionPattern_eq_some_iff.mp hof.holds
  refine ⟨hname, ⟨_, hsplit.symm⟩, ?_⟩
  have hlength := congrArg List.length hsplit
  have hlt := hof.start_lt_stop
  have hle := hof.stop_le
  rw [List.length_append, List.length_drop, List.length_drop] at hlength
  omega

theorem append_quote_inj {front front' rest rest' : List Char} (h : '"' ∉ front) (h' : '"' ∉ front')
    (heq : front ++ '"' :: rest = front' ++ '"' :: rest') : front = front' ∧ rest = rest' := by
  have hfront := congrArg (List.takeWhile (· ≠ '"')) heq
  have hrest := congrArg (List.dropWhile (· ≠ '"')) heq
  rw [takeWhile_quote h, takeWhile_quote h'] at hfront
  rw [dropWhile_quote h, dropWhile_quote h'] at hrest
  exact ⟨hfront, (List.cons.inj hrest).2⟩

/-- In the name of a definition no other one begins: the quote of its opening would be the one that ends the name,
and then its own name would be the blank in front of the type. -/
theorem not_marker_of_name {other : String} (front rest : List Char) (hfront : '"' ∉ front)
    (hother : IsQuotable other) : ¬functionMarker other <+: front ++ '"' :: (functionClosing ++ rest) := by
  rintro ⟨behind, hbehind⟩
  rw [functionMarker_append] at hbehind
  have hname := (append_quote_inj (by decide) hfront hbehind).2
  have hblank : other.toList = [' '] ∧ _ = functionClosing.drop 2 ++ rest :=
    append_quote_inj hother.quote_not_mem (by decide) hname
  cases hblank.2

theorem DefinedAt.exists_split (h : DefinedAt text name i) :
    ∃ rest, text.drop i = functionMarker name ++ rest ∧
      text.drop (i + 11) = name.toList ++ '"' :: (functionClosing ++ rest) := by
  obtain ⟨rest, hrest⟩ := h
  refine ⟨rest, hrest.symm, ?_⟩
  rw [← List.drop_drop, ← hrest, functionMarker_append]
  rfl

theorem length_functionMarker (name : String) : (functionMarker name).length = name.toList.length + 23 := by
  rw [← List.append_nil (functionMarker name), functionMarker_append]
  simp only [functionOpening, functionClosing, List.length_append, List.length_cons, List.length_nil]
  omega

theorem DefinedAt.opening_le {other : String} {j : Nat} (h : DefinedAt text name i) (h' : DefinedAt text other j)
    (hij : i < j) : i + 11 ≤ j := by
  have hopening : functionOpening ++ ['"'] <+: text.drop i := by
    obtain ⟨rest, hrest, -⟩ := h.exists_split
    rw [hrest, functionMarker_append]
    exact ⟨_, rfl⟩
  obtain ⟨k, hk⟩ := Nat.exists_eq_add_of_lt hij
  refine add_length_le_of_getElem?_ne hopening h' (Nat.le_of_lt hij) (head?_functionMarker other) fun hat => ?_
  rw [hk, show i + k + 1 - i = k + 1 by omega, ← List.getElem?_tail] at hat
  exact absurd (List.mem_of_getElem? hat) (by decide)

theorem DefinedAt.name_lt {other : String} {j : Nat} (h : DefinedAt text name i) (hname : IsQuotable name)
    (h' : DefinedAt text other j) (hother : IsQuotable other) (hij : i < j) : i + 11 + name.toList.length < j := by
  obtain ⟨rest, -, hbehind⟩ := h.exists_split
  obtain ⟨k, rfl⟩ := Nat.exists_eq_add_of_le (h.opening_le h' hij)
  refine Nat.lt_of_not_le fun hle => ?_
  have hfront : '"' ∉ name.toList.drop k := fun hquote => hname.quote_not_mem (List.mem_of_mem_drop hquote)
  refine not_marker_of_name _ rest hfront hother ?_
  rw [← List.drop_append_of_le_length (by omega), ← hbehind, List.drop_drop]
  exact h'

/-- Two definitions do not overlap. The later one stands behind the opening of the other one, behind its name and so
behind its type, which has no parenthesis. -/
theorem DefinedAt.add_length_le {other : String} {j : Nat} (h : DefinedAt text name i) (hname : IsQuotable name)
    (h' : DefinedAt text other j) (hother : IsQuotable other) (hij : i < j) : i + (functionMarker name).length ≤ j := by
  obtain ⟨rest, -, hbehind⟩ := h.exists_split
  have hclosing : '"' :: functionClosing <+: text.drop (i + 11 + name.toList.length) := by
    rw [← List.drop_drop, hbehind, List.drop_left]
    exact ⟨rest, rfl⟩
  have hle := add_length_le_of_not_mem hclosing h' (Nat.le_of_lt (h.name_lt hname h' hother hij))
    (head?_functionMarker other) (by decide)
  have hlength : ('"' :: functionClosing).length = 12 := rfl
  rw [length_functionMarker]
  omega

theorem DefinedAt.eq_name {other : String} (h : DefinedAt text name i) (hname : IsQuotable name)
    (h' : DefinedAt text other i) (hother : IsQuotable other) : name = other := by
  obtain ⟨rest, -, hbehind⟩ := h.exists_split
  obtain ⟨rest', -, hbehind'⟩ := h'.exists_split
  rw [hbehind] at hbehind'
  exact String.toList_injective (append_quote_inj hname.quote_not_mem hother.quote_not_mem hbehind').1

/-- A pattern passes over no definition that it can read, if all that it captures are definitions and it reads none of
them into the next. -/
theorem exists_mem_captures {p : Pattern Capture} (hadvances : p.Advances)
    (hdefined : ∀ other, ∀ m ∈ captures p text other, IsQuotable other ∧ DefinedAt text other m.start ∧
      ∀ next j, IsQuotable next → DefinedAt text next j → m.start < j → m.stop ≤ j)
    (hname : IsQuotable name) (h : DefinedAt text name i) {found : Capture × List Char}
    (hmatch : p (text.take i).getLast? (text.drop i) = some found) : ∃ m ∈ captures p text name, m.start = i := by
  have hlength := add_length_le_of_stands (functionMarker_ne_nil name) h
  rw [length_functionMarker] at hlength
  obtain ⟨m, hm, hle, hlt⟩ :=
    Pattern.exists_covering_findAll hadvances (by omega) (Option.isSome_of_eq_some hmatch)
  have hmine : m ∈ captures p text m.value.name := List.mem_filter.mpr ⟨hm, decide_eq_true rfl⟩
  obtain ⟨hother, hstart, hapart⟩ := hdefined m.value.name m hmine
  have heq : m.start = i := by
    refine Nat.le_antisymm hle (Nat.le_of_not_lt fun hbefore => ?_)
    have := hapart name i hname h hbefore
    omega
  subst heq
  rw [← h.eq_name hname hstart hother] at hmine
  exact ⟨m, hmine, rfl⟩

theorem exists_mem_captures_functionPattern (hname : IsQuotable name) (h : DefinedAt text name i) :
    ∃ m ∈ captures functionPattern text name, m.start = i ∧ m.stop = i + (functionMarker name).length := by
  obtain ⟨rest, hrest, -⟩ := h.exists_split
  have hmatch : functionPattern (text.take i).getLast? (text.drop i) = some ({ name }, rest) :=
    functionPattern_eq_some_iff.mpr ⟨hname, rfl, hrest⟩
  obtain ⟨m, hm, rfl⟩ := exists_mem_captures (named_advances _ _) (fun other m hm => by
    obtain ⟨hother, hdefined, hstop⟩ := of_mem_captures_functionPattern hm
    exact ⟨hother, hdefined, fun next j hnext hj hlt => hstop ▸ hdefined.add_length_le hother hj hnext hlt⟩) hname h hmatch
  exact ⟨m, hm, rfl, (of_mem_captures_functionPattern hm).2.2⟩

theorem definesFunction_iff :
    DefinesFunction text name ↔ IsQuotable name ∧ ∃ i, DefinedAt text name i ∧ ¬RejectedAt text name i := by
  simp only [DefinesFunction, RejectedAt, not_or, Bool.not_eq_true]
  constructor
  · rintro ⟨m, hm, hinternal, hexternal⟩
    obtain ⟨hname, hdefined, hstop⟩ := of_mem_captures_functionPattern hm
    exact ⟨hname, m.start, hdefined, hinternal, by rwa [← hstop]⟩
  · rintro ⟨hname, i, hdefined, hinternal, hexternal⟩
    obtain ⟨m, hm, rfl, hstop⟩ := exists_mem_captures_functionPattern hname hdefined
    exact ⟨m, hm, hinternal, by rwa [hstop]⟩

end MiningRule

/-! ### Names that count as functions of the user's -/

namespace SymbolMap

open MiningRule

theorem get?_mineSection_eq_or (userSection fullDump : List Char) (name : String) :
    (mineSection userSection fullDump).get? name =
      (lastOf name (typedVariable.proposals userSection fullDump)).or
        ((lastOf name (importedPath.proposals userSection fullDump)).or
          ((lastOf name (userFunction.proposals userSection fullDump)).or
            ((firstOf name (parameterReference.proposals userSection fullDump)).or
              ((firstOf name (selectorMethod.proposals userSection fullDump)).or
                ((firstOf name (localCall.proposals userSection fullDump)).or
                  ((firstOf name (externalFunction.proposals userSection fullDump)).or
                    (firstOf name (variableUsage.proposals userSection fullDump)))))))) := by
  simp only [mineSection, table, List.foldl_cons, List.foldl_nil]
  rw [get?_apply_filling _ _ _ _ _ rfl, get?_apply_filling _ _ _ _ _ rfl, get?_apply_filling _ _ _ _ _ rfl,
    get?_apply_filling _ _ _ _ _ rfl, get?_apply_filling _ _ _ _ _ rfl, get?_apply_overriding _ _ _ _ _ rfl,
    get?_apply_overriding _ _ _ _ _ rfl, get?_apply_overriding _ _ _ _ _ rfl]
  have hempty : SymbolMap.empty.get? name = none := rfl
  simp only [hempty, Option.or_none, Option.or_assoc]

/-- What makes a name a function of the user's: an accepted definition, or a call where the rules in front of the one
for calls have nothing to say. -/
theorem kind_mineSection_iff (userSection fullDump : List Char) (name : String) :
    ((mineSection userSection fullDump).get? name).map (·.kind) = some .userFunction ↔
      declaredType? userSection name = none ∧ importedFrom? userSection name = none ∧
        ((IsQuotable name ∧ ∃ i, DefinedAt userSection name i ∧ ¬RejectedAt userSection name i) ∨
          ¬RefersToParameter userSection name ∧ ¬SelectsMethod userSection name ∧ CallsFunction userSection name) := by
  rw [← definesFunction_iff, get?_mineSection_eq_or, lastOf_typedVariable, lastOf_importedPath, lastOf_userFunction,
    firstOf_parameterReference, firstOf_selectorMethod, firstOf_localCall, firstOf_externalFunction,
    firstOf_variableUsage]
  cases declaredType? userSection name with
  | some type => simp
  | none =>
    cases importedFrom? userSection name with
    | some path => simp
    | none =>
      simp only [Option.map_none, Option.none_or, ite_some_or, true_and]
      by_cases hdefines : DefinesFunction userSection name
      · simp [hdefines]
      by_cases hrefers : RefersToParameter userSection name
      · simp [hdefines, hrefers]
      by_cases hselects : SelectsMethod userSection name
      · simp [hdefines, hrefers, hselects]
      by_cases hcalls : CallsFunction userSection name
      · simp [hdefines, hrefers, hselects, hcalls]
      simp only [hdefines, hrefers, hselects, hcalls, if_false, not_false_eq_true, and_false, or_false, iff_false]
      split
      · simp
      · split <;> simp

/-- A function all of whose definitions are rejected is left to the later rules, and it still counts as the user's
where it is called: the rule for calls asks for the text of a definition only, not whether the definition was
accepted. -/
theorem kind_mineSection_of_rejected (userSection fullDump : List Char) (name : String)
    (h : ∀ i, DefinedAt userSection name i → RejectedAt userSection name i) :
    ((mineSection userSection fullDump).get? name).map (·.kind) = some .userFunction ↔
      CallsFunction userSection name ∧ declaredType? userSection name = none ∧
        importedFrom? userSection name = none ∧ ¬RefersToParameter userSection name ∧
        ¬SelectsMethod userSection name := by
  have hrejected : ¬∃ i, DefinedAt userSection name i ∧ ¬RejectedAt userSection name i :=
    fun ⟨i, hdefined, haccepted⟩ => haccepted (h i hdefined)
  rw [kind_mineSection_iff]
  simp only [hrejected, and_false, false_or]
  constructor
  · rintro ⟨hdeclared, himported, hrefers, hselects, hcalls⟩
    exact ⟨hcalls, hdeclared, himported, hrefers, hselects⟩
  · rintro ⟨hcalls, hdeclared, himported, hrefers, hselects⟩
    exact ⟨hdeclared, himported, hrefers, hselects, hcalls⟩

/-- A function of the compiler's own making, defined and called. -/
def internalCall : List Char :=
  "(Function \"tri_init\" \"functype\")\n".toList ++
    "(CallExpr \"нет результата\" (IdentExpr \"functype\" RO \"tri_init\"))".toList

theorem rejectedAt_internalCall (i : Nat) : RejectedAt internalCall "tri_init" i :=
  .inl (by decide)

theorem kind_mineSection_of_rejected_internalCall :
    ((mineSection internalCall internalCall).get? "tri_init").map (·.kind) = some .userFunction :=
  (kind_mineSection_of_rejected internalCall internalCall "tri_init" fun i _ => rejectedAt_internalCall i).mpr
    (by decide +kernel)

/-- Its definition is rejected, and yet the function counts as the user's. -/
theorem rejected_and_userFunction :
    (∀ i, DefinedAt internalCall "tri_init" i → RejectedAt internalCall "tri_init" i) ∧
      (mineSection internalCall internalCall).get? "tri_init" = some ⟨.userFunction, none⟩ :=
  ⟨fun i _ => rejectedAt_internalCall i, by decide +kernel⟩

end SymbolMap
end SnippetLab
