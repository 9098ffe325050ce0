import SnippetLab.Proofs.Symbol.Rule
import SnippetLab.Symbol.Mine

/-!
What a symbol map says of a name is decided by the matches that capture this name. The rules run one after
another over a shared map; here their result is told without a map, as the first that applies of eight
conditions.
-/
namespace SnippetLab

open SnippetLab.Text

namespace MiningRule

def captures (p : Pattern Capture) (text : List Char) (name : String) : List (Match Capture) :=
  (p.findAll text).filter (·.value.name = name)

def segments : List Char → List (List Char)
  | [] => [[]]
  | ':' :: ':' :: rest => [] :: segments rest
  | c :: rest => (segments rest).modifyHead (c :: ·)

/-- The type in the last declaration of a name that may be a variable. -/
def declaredType? (userSection : List Char) (name : String) : Option String :=
  if Vocabulary.isKeyword name ∨ name.length ≤ 1 then none
  else (captures variablePattern userSection name).getLast?.map (·.value.type)

def Imports (path name : String) : Prop :=
  1 < (segments path.toList).length ∧ (segments path.toList).getLast? = some name.toList

instance (path name : String) : Decidable (Imports path name) := inferInstanceAs (Decidable (_ ∧ _))

def importedFrom? (userSection : List Char) (name : String) : Option String :=
  ((importPattern.values userSection).map (·.name)).filter (Imports · name) |>.getLast?

/-- A definition of a name that is not internal has no word `External` in the rest of its line. -/
def DefinesFunction (userSection : List Char) (name : String) : Prop :=
  ∃ m ∈ captures functionPattern userSection name, isInternalFunction name = false ∧
    occursIn external (firstLine (userSection.drop m.stop)) = false

/-- A reference to a short name that starts with a letter has no definition of the name before it. -/
def RefersToParameter (userSection : List Char) (name : String) : Prop :=
  ∃ m ∈ captures referencePattern userSection name,
    Vocabulary.isKeyword name = false ∧ Vocabulary.isBuiltInType name = false ∧ name ≠ "RO" ∧
    name.length ≤ maxParameterLength ∧ name.toList.head?.any isAlphabetic ∧
    occursIn (functionMarker name) (userSection.take m.start) = false

def SelectsMethod (userSection : List Char) (name : String) : Prop :=
  ∃ _ ∈ captures selectorPattern userSection name, Vocabulary.isKeyword name = false

/-- There are a call of the name and, anywhere, a definition of it. -/
def CallsFunction (userSection : List Char) (name : String) : Prop :=
  ∃ _ ∈ captures callPattern userSection name,
    Vocabulary.isKeyword name = false ∧ 1 < name.length ∧ startsWith name "std" = false ∧
    occursIn (functionMarker name) userSection

def IsExternal (fullDump : List Char) (name : String) : Prop :=
  captures externalPattern fullDump name ≠ []

def IsAssigned (userSection : List Char) (name : String) : Prop :=
  occursIn ("(VarDecl \"".toList ++ name.toList ++ ['"']) userSection ∨
  occursIn ("= ".toList ++ name.toList) userSection ∨ occursIn (name.toList ++ " =".toList) userSection

/-- A use of an assigned name does not close the node around it. -/
def UsesVariable (userSection : List Char) (name : String) : Prop :=
  ∃ m ∈ captures usagePattern userSection name,
    Vocabulary.isKeyword name = false ∧ Vocabulary.isBuiltInType name = false ∧ 1 < name.length ∧
    (trimStart (userSection.drop m.stop)).head? ≠ some ')' ∧ IsAssigned userSection name

section
variable (text : List Char) (name : String)

instance : Decidable (DefinesFunction text name) := inferInstanceAs (Decidable (∃ _ ∈ _, _))
instance : Decidable (RefersToParameter text name) := inferInstanceAs (Decidable (∃ _ ∈ _, _))
instance : Decidable (SelectsMethod text name) := inferInstanceAs (Decidable (∃ _ ∈ _, _))
instance : Decidable (CallsFunction text name) := inferInstanceAs (Decidable (∃ _ ∈ _, _))
instance : Decidable (IsExternal text name) := inferInstanceAs (Decidable (_ ≠ _))
instance : Decidable (IsAssigned text name) := inferInstanceAs (Decidable (_ ∨ _))
instance : Decidable (UsesVariable text name) := inferInstanceAs (Decidable (∃ _ ∈ _, _))

end

def meaning (userSection fullDump : List Char) (name : String) : Option SymbolInfo :=
  if let some type := declaredType? userSection name then some ⟨.userVariable, some type⟩
  else if let some path := importedFrom? userSection name then some ⟨.importedClass, some path⟩
  else if DefinesFunction userSection name then some ⟨.userFunction, none⟩
  else if RefersToParameter userSection name then some ⟨.functionParameter, none⟩
  else if SelectsMethod userSection name then some ⟨.importedFunction, some "method"⟩
  else if CallsFunction userSection name then some ⟨.userFunction, none⟩
  else if IsExternal fullDump name then some ⟨.importedFunction, none⟩
  else if UsesVariable userSection name then some ⟨.userVariable, none⟩
  else none

/-! ### Paths -/

theorem segments_ne_nil (path : List Char) : segments path ≠ [] := by
  induction path using segments.induct with
  | case1 => simp [segments]
  | case2 rest _ => simp [segments]
  | case3 c rest hc ih => simpa [segments.eq_3 c rest hc, List.modifyHead_eq_nil_iff] using ih

theorem segments_eq_singleton {path : List Char} (h : (segments path).length ≤ 1) :
    segments path = [path] := by
  induction path using segments.induct with
  | case1 => rfl
  | case2 rest _ => simp [segments, segments_ne_nil] at h
  | case3 c rest hc ih =>
    rw [segments.eq_3 c rest hc] at h ⊢
    rw [ih (by simpa using h)]
    rfl

theorem lastSegment?_eq (path : List Char) :
    lastSegment? path = if 1 < (segments path).length then (segments path).getLast? else none := by
  induction path using segments.induct with
  | case1 => rfl
  | case2 rest ih =>
    have hpos := List.length_pos_iff.mpr (segments_ne_nil rest)
    have hlast : (lastSegment? rest).getD rest = (segments rest).getLast (segments_ne_nil rest) := by
      by_cases h : 1 < (segments rest).length
      · rw [ih, if_pos h, List.getLast?_eq_some_getLast (segments_ne_nil rest)]
        rfl
      · simp [ih, segments_eq_singleton (Nat.le_of_not_lt h)]
    rw [segments, lastSegment?, hlast, if_pos (by rw [List.length_cons]; omega), List.getLast?_cons,
      List.getLast?_eq_some_getLast (segments_ne_nil rest)]
    rfl
  | case3 c rest hc ih =>
    rw [segments.eq_3 c rest hc, lastSegment?.eq_3 c rest hc, ih, List.length_modifyHead]
    by_cases h : 1 < (segments rest).length
    · match hs : segments rest, h with
      | first :: second :: more, _ => simp
    · simp [h]

/-! ### One rule -/

def found (userSection text : List Char) (m : Match Capture) : Finding :=
  { userSection, before := text.take m.start, after := text.drop m.stop, capture := m.value }

section
variable (r : MiningRule) (userSection fullDump : List Char) (symbols : SymbolMap) (name : String)

theorem get?_apply_overriding (h : r.overrides = true) :
    (r.apply userSection fullDump symbols).get? name =
      (SymbolMap.lastOf name (r.proposals userSection fullDump)).or (symbols.get? name) := by
  have henter : r.enter = fun m e => m.put e.1 e.2 := by
    funext m e
    simp [enter, h]
  rw [apply, henter, SymbolMap.get?_foldl_put]

theorem get?_apply_filling (h : r.overrides = false) :
    (r.apply userSection fullDump symbols).get? name =
      (symbols.get? name).or (SymbolMap.firstOf name (r.proposals userSection fullDump)) := by
  have henter : r.enter = fun m e => m.add e.1 e.2 := by
    funext m e
    simp [enter, h]
  rw [apply, henter, SymbolMap.get?_foldl_add]

variable {r userSection fullDump}
variable (Fits : String → Match Capture → Prop) [∀ n, DecidablePred (Fits n)]

/-- A rule that proposes the captured name itself proposes for a name what its own matches say. -/
theorem filter_proposals (info : Match Capture → SymbolInfo)
    (h : ∀ m, r.propose (found userSection (r.scanned userSection fullDump) m) =
      if Fits m.value.name m then some (m.value.name, info m) else none) :
    (r.proposals userSection fullDump).filter (·.1 = name) =
      ((captures r.pattern (r.scanned userSection fullDump) name).filter (Fits name)).map
        fun m => (name, info m) := by
  unfold proposals captures
  simp only [found] at h
  simp only [h]
  induction r.pattern.findAll (r.scanned userSection fullDump) with
  | nil => rfl
  | cons m rest ih =>
    by_cases hn : m.value.name = name
    · subst hn
      by_cases hf : Fits m.value.name m <;> simp [hf, ih]
    · by_cases hf : Fits m.value.name m <;> simp [hf, hn, ih]

/-- The last match that fits decides what an overriding rule says. -/
theorem lastOf_proposals (info : Match Capture → SymbolInfo)
    (h : ∀ m, r.propose (found userSection (r.scanned userSection fullDump) m) =
      if Fits m.value.name m then some (m.value.name, info m) else none) :
    SymbolMap.lastOf name (r.proposals userSection fullDump) =
      ((captures r.pattern (r.scanned userSection fullDump) name).filter (Fits name)).getLast?.map info := by
  simp [SymbolMap.lastOf, filter_proposals name Fits info h, Function.comp_def]

/-- Where all matches propose the same entry, one match that fits is enough. -/
theorem firstOf_proposals (entry : SymbolInfo)
    (h : ∀ m, r.propose (found userSection (r.scanned userSection fullDump) m) =
      if Fits m.value.name m then some (m.value.name, entry) else none) :
    SymbolMap.firstOf name (r.proposals userSection fullDump) =
      if ∃ m ∈ captures r.pattern (r.scanned userSection fullDump) name, Fits name m then some entry
      else none := by
  rw [SymbolMap.firstOf, filter_proposals name Fits (fun _ => entry) h]
  split
  · next hfit =>
    obtain ⟨m, hm, hf⟩ := hfit
    have hmem : m ∈ (captures r.pattern (r.scanned userSection fullDump) name).filter (Fits name) := by
      simp [hm, hf]
    rw [List.head?_map, List.head?_eq_some_head (List.ne_nil_of_mem hmem)]
    rfl
  · next hfit =>
    rw [List.filter_eq_nil_iff.mpr fun m hm => by simpa using fun hf => hfit ⟨m, hm, hf⟩]
    rfl

theorem lastOf_proposals_entry (entry : SymbolInfo)
    (h : ∀ m, r.propose (found userSection (r.scanned userSection fullDump) m) =
      if Fits m.value.name m then some (m.value.name, entry) else none) :
    SymbolMap.lastOf name (r.proposals userSection fullDump) =
      if ∃ m ∈ captures r.pattern (r.scanned userSection fullDump) name, Fits name m then some entry
      else none := by
  rw [← firstOf_proposals name Fits entry h, lastOf_proposals name Fits (fun _ => entry) h,
    SymbolMap.firstOf, filter_proposals name Fits (fun _ => entry) h]
  cases hms : (captures r.pattern (r.scanned userSection fullDump) name).filter (Fits name) with
  | nil => rfl
  | cons m ms =>
    rw [List.getLast?_eq_some_getLast (List.cons_ne_nil m ms)]
    rfl

end

/-! ### The eight rules -/

section
variable (userSection fullDump : List Char) (name : String)

theorem lastOf_typedVariable :
    SymbolMap.lastOf name (typedVariable.proposals userSection fullDump) =
      (declaredType? userSection name).map fun type => ⟨.userVariable, some type⟩ := by
  rw [lastOf_proposals name (fun n _ => ¬(Vocabulary.isKeyword n ∨ n.length ≤ 1))
    fun m => ⟨.userVariable, some m.value.type⟩]
  · unfold declaredType?
    by_cases h : Vocabulary.isKeyword name ∨ name.length ≤ 1
    · simp [h]
    · simp only [h, not_false_eq_true, decide_true, if_false, Option.map_map]
      rw [List.filter_eq_self.mpr fun _ _ => rfl]
      rfl
  · intro m
    by_cases h : Vocabulary.isKeyword m.value.name ∨ m.value.name.length ≤ 1 <;>
      simp only [typedVariable, found, Bool.or_eq_true, decide_eq_true_eq, h, if_true, if_false,
        not_true_eq_false, not_false_eq_true]

theorem imports_iff (path : String) : Imports path name ↔ lastSegment? path.toList = some name.toList := by
  rw [lastSegment?_eq, Imports]
  by_cases h : 1 < (segments path.toList).length <;> simp [h]

theorem lastOf_importedPath :
    SymbolMap.lastOf name (importedPath.proposals userSection fullDump) =
      (importedFrom? userSection name).map fun path => ⟨.importedClass, some path⟩ := by
  have hfilter : (importedPath.proposals userSection fullDump).filter (·.1 = name) =
      (((importPattern.values userSection).map (·.name)).filter (Imports · name)).map
        fun path => (name, ⟨.importedClass, some path⟩) := by
    unfold proposals Pattern.values
    simp only [importedPath, scanned]
    induction importPattern.findAll userSection with
    | nil => rfl
    | cons m rest ih =>
      have hm := imports_iff name m.value.name
      cases hl : lastSegment? m.value.name.toList with
      | none => simp [hm, hl, ih]
      | some last =>
        by_cases h : last = name.toList
        · simp [hm, hl, ih, h]
        · have hne : String.ofList last ≠ name := fun hn => h (by rw [← hn, String.toList_ofList])
          simp [hm, hl, ih, h, hne]
  simp [SymbolMap.lastOf, hfilter, importedFrom?, Function.comp_def]

theorem lastOf_userFunction :
    SymbolMap.lastOf name (userFunction.proposals userSection fullDump) =
      if DefinesFunction userSection name then some ⟨.userFunction, none⟩ else none := by
  refine lastOf_proposals_entry name (fun n m => isInternalFunction n = false ∧
    occursIn external (firstLine (userSection.drop m.stop)) = false) _ fun m => ?_
  simp only [userFunction, found, scanned]
  rw [← ite_not]
  simp [and_comm]

theorem firstOf_parameterReference :
    SymbolMap.firstOf name (parameterReference.proposals userSection fullDump) =
      if RefersToParameter userSection name then some ⟨.functionParameter, none⟩ else none := by
  refine firstOf_proposals name (fun n m =>
    Vocabulary.isKeyword n = false ∧ Vocabulary.isBuiltInType n = false ∧ n ≠ "RO" ∧
    n.length ≤ maxParameterLength ∧ n.toList.head?.any isAlphabetic ∧
    occursIn (functionMarker n) (userSection.take m.start) = false) _ fun m => ?_
  simp only [parameterReference, found, scanned]
  rw [← ite_not]
  congr 1
  simp [and_assoc]

theorem firstOf_selectorMethod :
    SymbolMap.firstOf name (selectorMethod.proposals userSection fullDump) =
      if SelectsMethod userSection name then some ⟨.importedFunction, some "method"⟩ else none := by
  refine firstOf_proposals name (fun n _ => Vocabulary.isKeyword n = false) _ fun m => ?_
  simp only [selectorMethod, found]
  rw [← ite_not]
  simp

theorem firstOf_localCall :
    SymbolMap.firstOf name (localCall.proposals userSection fullDump) =
      if CallsFunction userSection name then some ⟨.userFunction, none⟩ else none := by
  refine firstOf_proposals name (fun n _ =>
    Vocabulary.isKeyword n = false ∧ 1 < n.length ∧ startsWith n "std" = false ∧
    occursIn (functionMarker n) userSection) _ fun m => ?_
  simp only [localCall, found]
  by_cases ho : occursIn (functionMarker m.value.name) userSection
  · rw [← ite_not]
    simp [ho, and_assoc, and_comm]
  · simp [ho]

theorem firstOf_externalFunction :
    SymbolMap.firstOf name (externalFunction.proposals userSection fullDump) =
      if IsExternal fullDump name then some ⟨.importedFunction, none⟩ else none := by
  have hany : (∃ m ∈ captures externalPattern fullDump name, True) ↔ IsExternal fullDump name :=
    ⟨fun ⟨_, hm, _⟩ => List.ne_nil_of_mem hm,
      fun h => (List.exists_mem_of_ne_nil _ h).imp fun _ hm => ⟨hm, trivial⟩⟩
  simp only [← hany]
  exact firstOf_proposals name (fun _ _ => True) _ fun _ => rfl

theorem firstOf_variableUsage :
    SymbolMap.firstOf name (variableUsage.proposals userSection fullDump) =
      if UsesVariable userSection name then some ⟨.userVariable, none⟩ else none := by
  refine firstOf_proposals name (fun n m =>
    Vocabulary.isKeyword n = false ∧ Vocabulary.isBuiltInType n = false ∧ 1 < n.length ∧
    (trimStart (userSection.drop m.stop)).head? ≠ some ')' ∧ IsAssigned userSection n) _ fun m => ?_
  have hassigned : (occursIn ("(VarDecl \"".toList ++ m.value.name.toList ++ ['"']) userSection
      || occursIn ("= ".toList ++ m.value.name.toList) userSection
      || occursIn (m.value.name.toList ++ " =".toList) userSection) =
        decide (IsAssigned userSection m.value.name) := by
    rw [Bool.eq_iff_iff, decide_eq_true_eq]
    simp only [Bool.or_eq_true, IsAssigned, or_assoc]
  simp only [variableUsage, found, scanned, hassigned]
  by_cases hclose : (trimStart (userSection.drop m.stop)).head? = some ')'
  · simp [hclose]
  by_cases ha : IsAssigned userSection m.value.name
  · rw [if_neg (by simpa using hclose), ← ite_not]
    simp [hclose, ha, and_assoc]
  · simp [ha]

end

theorem ite_some_or (p : Prop) [Decidable p] (entry : SymbolInfo) (other : Option SymbolInfo) :
    (if p then some entry else none).or other = if p then some entry else other := by
  split <;> rfl

end MiningRule

open MiningRule in
/-- The rules come down to a fixed order of precedence in which no other name has a say. -/
theorem SymbolMap.get?_mineSection (userSection fullDump : List Char) (name : String) :
    (mineSection userSection fullDump).get? name = meaning userSection fullDump name := by
  have hrun : mineSection userSection fullDump =
      ([userFunction, importedPath, typedVariable, parameterReference, selectorMethod, localCall,
        externalFunction, variableUsage]).foldl (fun m r => r.apply userSection fullDump m) empty := rfl
  simp only [hrun, List.foldl_cons, List.foldl_nil]
  rw [get?_apply_filling _ _ _ _ _ rfl, get?_apply_filling _ _ _ _ _ rfl,
    get?_apply_filling _ _ _ _ _ rfl, get?_apply_filling _ _ _ _ _ rfl,
    get?_apply_filling _ _ _ _ _ rfl, get?_apply_overriding _ _ _ _ _ rfl,
    get?_apply_overriding _ _ _ _ _ rfl, get?_apply_overriding _ _ _ _ _ rfl,
    lastOf_typedVariable, lastOf_importedPath, lastOf_userFunction, firstOf_parameterReference,
    firstOf_selectorMethod, firstOf_localCall, firstOf_externalFunction, firstOf_variableUsage]
  have hempty : SymbolMap.empty.get? name = none := rfl
  rw [hempty, meaning]
  cases declaredType? userSection name with
  | some type => rfl
  | none =>
    cases importedFrom? userSection name with
    | some path => rfl
    | none =>
      simp only [Option.map_none, Option.none_or, Option.or_assoc]
      simp only [ite_some_or]

end SnippetLab
