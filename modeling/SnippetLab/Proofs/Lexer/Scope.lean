import SnippetLab.Proofs.Lexer.Spans

/-! What a word is taken for, between the names that its own line declares and those that the whole text
declares. Whatever a line declares in front of its comment the text declares too, so the names of the line decide
nothing: a parameter is taken for a function wherever any line declares a function of its name. -/
namespace SnippetLab

open SnippetLab.Text SnippetLab.Lexer

namespace Lexer

/-! ### A line and its comment -/

theorem identifier?_append {c : Char} (hc : continuesIdentifier c = false) (cs tail : List Char) :
    identifier? (cs ++ c :: tail) = (identifier? cs).map fun found => (found.1, found.2 ++ c :: tail) := by
  cases cs with
  | nil =>
    have hstarts : startsIdentifier c = false := by
      rw [← Bool.not_eq_true]
      intro hstarts
      rw [continuesIdentifier_of_starts hstarts] at hc
      cases hc
    simp [identifier?, hstarts]
  | cons d cs =>
    simp only [List.cons_append, identifier?, takeWhile_append_stop hc, dropWhile_append_stop hc]
    split <;> rfl

theorem declaration_append {word : String} {close : Char} (hword : '/' ∉ word.toList) (hclose : '/' ≠ close)
    (before : Option Char) (cs tail : List Char) :
    declaration word close before (cs ++ '/' :: tail) =
      (declaration word close before cs).map fun found => (found.1, found.2 ++ '/' :: tail) := by
  unfold declaration
  rw [after?_append_stop hword]
  cases after? word.toList cs with
  | none => rfl
  | some cs =>
    simp only [Option.map_some, Option.bind_eq_bind, Option.bind_some]
    rw [some?_append_stop rfl]
    cases some? isBlank cs with
    | none => rfl
    | some blanks =>
      simp only [Option.map_some, Option.bind_some]
      rw [identifier?_append rfl]
      cases identifier? blanks.2 with
      | none => rfl
      | some found =>
        simp only [Option.map_some, Option.bind_some]
        rw [dropWhile_append_stop rfl]
        cases found.2.dropWhile isBlank with
        | nil => simp [hclose]
        | cons c rest =>
          simp only [List.cons_append]
          split <;> rfl

theorem functionDeclaration_endures (tail : List Char) : functionDeclaration.Endures ('/' :: tail) :=
  .of_append fun before cs => declaration_append (by decide) (by decide) before cs tail

theorem parameterGroup_eq_some {before : Option Char} {cs inside rest : List Char}
    (h : parameterGroup before cs = some (inside, rest)) : cs = '(' :: (inside ++ ')' :: rest) := by
  unfold parameterGroup at h
  split at h
  · next cs =>
    split at h
    · next closing _ hsome =>
      cases h
      obtain ⟨-, hrest, -⟩ := some?_eq_some hsome
      have hclosing := List.head?_dropWhile_not (· ≠ ')') cs
      rw [← hrest] at hclosing
      rw [← show closing = ')' by simpa using hclosing, ← (some?_append hsome).1]
    · cases h
  · cases h

theorem mem_of_parameterGroup {before : Option Char} {cs inside rest : List Char}
    (h : parameterGroup before cs = some (inside, rest)) : ')' ∈ cs := by
  rw [parameterGroup_eq_some h]
  simp

theorem parameterGroup_append {before : Option Char} {cs : List Char} (h : ')' ∈ cs) (tail : List Char) :
    parameterGroup before (cs ++ tail) = (parameterGroup before cs).map fun found => (found.1, found.2 ++ tail) := by
  cases cs with
  | nil => cases h
  | cons c cs =>
    by_cases hopen : c = '('
    · subst hopen
      obtain ⟨front, rest, rfl⟩ := List.append_of_mem (List.mem_of_ne_of_mem (by decide) h)
      simp only [List.cons_append, List.append_assoc, parameterGroup]
      rw [some?_append_stop (by simp), some?_append_stop (by simp)]
      cases some? (· ≠ ')') front with
      | none => rfl
      | some found =>
        obtain ⟨inside, left⟩ := found
        cases left <;> simp
    · simp [parameterGroup, hopen]

/-- A group that is closed in the comment only is the last one of its line. -/
theorem parameterGroup_endures (tail : List Char) : parameterGroup.Endures tail where
  stays before cs inside rest h := by
    rw [parameterGroup_append (mem_of_parameterGroup h), h]
    rfl
  isLast before cs h := by
    by_cases hclosed : ')' ∈ cs
    · rw [parameterGroup_append hclosed, h]
      exact .inl rfl
    · refine .inr ?_
      intro before' ending hending
      refine Option.eq_none_iff_forall_ne_some.mpr ?_
      rintro ⟨inside, rest⟩ hfound
      exact hclosed (hending.subset (mem_of_parameterGroup hfound))

theorem values_splitComment_subset {p : Pattern α} (hp : ∀ tail, p.Endures ('/' :: tail)) (full : List Char) :
    p.values (splitComment full).1 ⊆ p.values full := by
  rcases splitComment_cases full with hsplit | ⟨line, tail, hfull, hsplit⟩
  · rw [hsplit]
    exact List.Subset.refl _
  · rw [hsplit, hfull]
    exact (hp _).values_subset line

theorem flatMap_subset_flatMap {xs ys : List α} {f g : α → List β} (hxs : xs ⊆ ys) (h : ∀ x, f x ⊆ g x) :
    xs.flatMap f ⊆ ys.flatMap g := by
  intro y hy
  obtain ⟨x, hx, hy⟩ := List.mem_flatMap.mp hy
  exact List.mem_flatMap.mpr ⟨x, hxs hx, h x hy⟩

end Lexer

namespace Declarations

theorem functions_ofSignatures_subset (full : List Char) :
    (ofSignatures (splitComment full).1).functions ⊆ (ofSignatures full).functions :=
  values_splitComment_subset functionDeclaration_endures full

theorem parameters_ofSignatures_subset (full : List Char) :
    (ofSignatures (splitComment full).1).parameters ⊆ (ofSignatures full).parameters :=
  flatMap_subset_flatMap (values_splitComment_subset (fun _ => parameterGroup_endures _) full) fun _ =>
    List.Subset.refl _

/-! ### The whole text -/

theorem foldr_append (found : List Declarations) : found.foldr append {} =
    ⟨found.flatMap (·.functions), found.flatMap (·.parameters), found.flatMap (·.variableNames)⟩ := by
  induction found with
  | nil => rfl
  | cons d found ih => simp only [List.foldr_cons, List.flatMap_cons, ih, append]

theorem mem_functions_ofSource {source name : String} : name ∈ (ofSource source).functions ↔
    ∃ line ∈ source.toList.splitOn '\n', name ∈ (ofSignatures line).functions := by
  simp [ofSource, foldr_append, lines_eq_splitOn, List.flatMap_map, ofLine]

theorem mem_parameters_ofSource {source name : String} : name ∈ (ofSource source).parameters ↔
    ∃ line ∈ source.toList.splitOn '\n', name ∈ (ofSignatures line).parameters := by
  simp [ofSource, foldr_append, lines_eq_splitOn, List.flatMap_map, ofLine]

theorem mem_variableNames_ofSource {source name : String} : name ∈ (ofSource source).variableNames ↔
    ∃ line ∈ source.toList.splitOn '\n', name ∈ variablesOf line := by
  simp [ofSource, foldr_append, lines_eq_splitOn, List.flatMap_map, ofLine]

/-- What a line declares in front of its comment is declared by the text. -/
theorem ofSignatures_subset_ofSource {source : String} {line : List Char} (h : line ∈ source.toList.splitOn '\n') :
    (ofSignatures (splitComment line).1).functions ⊆ (ofSource source).functions ∧
      (ofSignatures (splitComment line).1).parameters ⊆ (ofSource source).parameters := by
  constructor
  · intro name hname
    exact mem_functions_ofSource.mpr ⟨line, h, functions_ofSignatures_subset line hname⟩
  · intro name hname
    exact mem_parameters_ofSource.mpr ⟨line, h, parameters_ofSignatures_subset line hname⟩

end Declarations

namespace Lexer

theorem identifierKind_of_subset {onLine everywhere : Declarations} (hfunctions : onLine.functions ⊆ everywhere.functions)
    (hparameters : onLine.parameters ⊆ everywhere.parameters) (word : String) :
    identifierKind onLine everywhere word = identifierKind {} everywhere word := by
  have hcontains {names names' : List String} (hsubset : names ⊆ names') :
      (names.contains word || names'.contains word) = names'.contains word := by
    simp only [Bool.or_eq_right_iff_imp, List.contains_iff_mem]
    exact fun hmem => hsubset hmem
  simp only [identifierKind, hcontains hfunctions, hcontains hparameters, List.contains_nil, Bool.false_or]

theorem kind_eq_of_word {source : String} {t : Token} (ht : t ∈ tokenize source) (hword : t.kind.category = .word) :
    t.kind = identifierKind {} (.ofSource source) t.text := by
  obtain ⟨number, line, hline, ht⟩ := mem_tokenize.mp ht
  obtain ⟨category, m, hm, rfl⟩ := mem_lineTokens.mp ht
  rw [category_tokenAt] at hword
  subst hword
  obtain ⟨hfunctions, hparameters⟩ := Declarations.ofSignatures_subset_ofSource (List.mem_of_getElem? hline)
  exact identifierKind_of_subset hfunctions hparameters _

theorem identifierKind_eq (names : Declarations) (word : String) :
    identifierKind {} names word =
      if word ∈ names.functions then .userFunction
      else if word ∈ names.parameters then .parameter
      else if word ∈ names.variableNames then .userVariable
      else Vocabulary.classify word := by
  simp only [identifierKind, List.contains_nil, Bool.false_or, List.contains_iff_mem]

/-- **What decides on a word.** The names of a line in front of its comment are among those of the text, so the
names of the text alone say what a word is: a function before a parameter, a parameter before a variable, and
otherwise what the word is by itself. Wherever the word stands, it is the same. -/
theorem tokenize_kinds (source : String) :
    let names := Declarations.ofSource source
    (∀ line ∈ source.toList.splitOn '\n',
      (Declarations.ofSignatures (splitComment line).1).functions ⊆ names.functions ∧
        (Declarations.ofSignatures (splitComment line).1).parameters ⊆ names.parameters) ∧
    (∀ t ∈ tokenize source, t.kind.category = .word →
      t.kind =
        if t.text ∈ names.functions then .userFunction
        else if t.text ∈ names.parameters then .parameter
        else if t.text ∈ names.variableNames then .userVariable
        else Vocabulary.classify t.text) ∧
    ∀ t ∈ tokenize source, ∀ u ∈ tokenize source, t.kind.category = .word → u.kind.category = .word →
      t.text = u.text → t.kind = u.kind := by
  intro names
  refine ⟨fun line hline => Declarations.ofSignatures_subset_ofSource hline, ?_, ?_⟩
  · intro t ht hword
    rw [kind_eq_of_word ht hword, identifierKind_eq]
  · intro t ht u hu htword huword htext
    rw [kind_eq_of_word ht htword, kind_eq_of_word hu huword, htext]

/-- A parameter of the first line which the comment there declares as a function. -/
theorem tokenize_kinds_commented :
    let source := "ф(а: Цел64) // фн а()\nа"
    let line := "ф(а: Цел64) // фн а()".toList
    let t := Token.onLine 0 2 3 .userFunction "а"
    let u := Token.onLine 1 0 1 .userFunction "а"
    (line ∈ source.toList.splitOn '\n' ∧ (Declarations.ofSignatures (splitComment line).1).parameters = ["а"] ∧
      (Declarations.ofSignatures (splitComment line).1).parameters ⊆ (Declarations.ofSource source).parameters) ∧
    (t ∈ tokenize source ∧ t.kind.category = .word ∧ "а" ∈ (Declarations.ofSource source).functions ∧
      t.kind = .userFunction) ∧
    (u ∈ tokenize source ∧ u.kind.category = .word ∧ t.text = u.text ∧ t.kind = u.kind) := by
  intro source line t u
  obtain ⟨hsubset, hkind, hsame⟩ := tokenize_kinds source
  have hline : line ∈ source.toList.splitOn '\n' := by decide +kernel
  have ht : t ∈ tokenize source := by decide +kernel
  have hu : u ∈ tokenize source := by decide +kernel
  have hfunction : "а" ∈ (Declarations.ofSource source).functions := by decide +kernel
  refine ⟨⟨hline, by decide +kernel, (hsubset line hline).2⟩, ⟨ht, rfl, hfunction, ?_⟩, hu, rfl, rfl, ?_⟩
  · exact (hkind t ht rfl).trans (if_pos hfunction)
  · exact hsame t ht u hu rfl rfl rfl

/-- **What a word is on a line that declares it as a parameter.** Like every word, it is what the whole text
makes of it: a parameter as long as no line of the text, its comment included, declares a function of that name,
and a function otherwise. -/
theorem kind_of_parameter (source : String) (line : List Char) (t : Token) (ht : t ∈ tokenize source)
    (hword : t.kind.category = .word) (hline : (source.toList.splitOn '\n')[t.startLine]? = some line)
    (hparameter : t.text ∈ (Declarations.ofSignatures (splitComment line).1).parameters) :
    t.kind = identifierKind {} (.ofSource source) t.text ∧
    (t.kind = .parameter ↔
      ∀ other ∈ source.toList.splitOn '\n', t.text ∉ (Declarations.ofSignatures other).functions) ∧
    (t.kind ≠ .parameter → t.kind = .userFunction) := by
  have hkind := kind_eq_of_word ht hword
  have hdeclared : t.text ∈ (Declarations.ofSource source).parameters :=
    Declarations.mem_parameters_ofSource.mpr
      ⟨line, List.mem_of_getElem? hline, Declarations.parameters_ofSignatures_subset line hparameter⟩
  refine ⟨hkind, ?_⟩
  by_cases hfunction : t.text ∈ (Declarations.ofSource source).functions
  · have hkind' : t.kind = .userFunction := by simp [hkind, identifierKind, hfunction]
    obtain ⟨other, hother, hmem⟩ := Declarations.mem_functions_ofSource.mp hfunction
    refine ⟨⟨fun h => ?_, fun h => absurd hmem (h other hother)⟩, fun _ => hkind'⟩
    rw [hkind'] at h
    cases h
  · have hkind' : t.kind = .parameter := by simp [hkind, identifierKind, hfunction, hdeclared]
    refine ⟨⟨fun _ other hother hmem => ?_, fun _ => hkind'⟩, fun h => absurd hkind' h⟩
    exact hfunction (Declarations.mem_functions_ofSource.mpr ⟨other, hother, hmem⟩)

theorem kind_of_parameter_header :
    let source := "фн ф(а: Цел64)\nфн б()"
    let line := "фн ф(а: Цел64)".toList
    let t := Token.onLine 0 5 6 .parameter "а"
    t ∈ tokenize source ∧ t.kind.category = .word ∧ (source.toList.splitOn '\n')[t.startLine]? = some line ∧
      t.text ∈ (Declarations.ofSignatures (splitComment line).1).parameters ∧
      t.kind = identifierKind {} (.ofSource source) t.text ∧
      (t.kind = .parameter ↔
        ∀ other ∈ source.toList.splitOn '\n', t.text ∉ (Declarations.ofSignatures other).functions) := by
  intro source line t
  have ht : t ∈ tokenize source := by decide +kernel
  have hline : (source.toList.splitOn '\n')[t.startLine]? = some line := by decide +kernel
  have hparameter : t.text ∈ (Declarations.ofSignatures (splitComment line).1).parameters := by decide +kernel
  obtain ⟨hkind, hiff, -⟩ := kind_of_parameter source line t ht rfl hline hparameter
  exact ⟨ht, rfl, hline, hparameter, hkind, hiff⟩

/-- A parameter on its own line, and not a function there, is taken for the function of the next line. -/
theorem parameter_overruled :
    let source := "фн ф(а: Цел64) \x7b\x7d\nфн а() \x7b\x7d"
    let line := "фн ф(а: Цел64) \x7b\x7d".toList
    let t := Token.onLine 0 5 6 .userFunction "а"
    t ∈ tokenize source ∧ (source.toList.splitOn '\n')[t.startLine]? = some line ∧
      t.text ∈ (Declarations.ofSignatures (splitComment line).1).parameters ∧
      t.text ∉ (Declarations.ofSignatures (splitComment line).1).functions ∧ t.kind ≠ .parameter := by
  decide +kernel

end Lexer
end SnippetLab
