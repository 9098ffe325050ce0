import Mathlib.Data.List.Induction
import SnippetLab.Proofs.Symbol.Priority

/-! Rules one after another over a map that others have begun. A pass over the rules is a list of changes that does not
depend on the map, and such a list made twice comes to what it comes to once: of the changes for one name the last one
that overrides decides, or the first one if the name was new. -/
namespace SnippetLab

namespace SymbolMap

def names (m : SymbolMap) : List String := m.entries.map (·.1)

variable {m : SymbolMap} {name other : String} {info info' : SymbolInfo}

theorem length_names (m : SymbolMap) : m.names.length = m.size := by
  simp [names, size]

theorem names_put (m : SymbolMap) (name : String) (info : SymbolInfo) :
    (m.put name info).names = if name ∈ m.names then m.names else m.names ++ [name] := by
  unfold put names
  induction m.entries with
  | nil => simp [put.go]
  | cons e rest ih =>
    obtain ⟨n, i⟩ := e
    by_cases hn : n = name
    · simp [put.go, hn]
    · simp only [put.go, beq_eq_false_iff_ne.mpr hn, Bool.false_eq_true, if_false, List.map_cons, ih, List.mem_cons,
        Ne.symm hn, false_or]
      split <;> rfl

theorem put_put (m : SymbolMap) (name : String) (info info' : SymbolInfo) :
    (m.put name info).put name info' = m.put name info' := by
  unfold put
  congr 1
  induction m.entries with
  | nil => simp [put.go]
  | cons e rest ih =>
    obtain ⟨n, i⟩ := e
    by_cases hn : n = name
    · simp [put.go, hn]
    · simp [put.go, hn, ih]

theorem put_comm (h : other ∈ m.names) (hne : other ≠ name) :
    (m.put name info).put other info' = (m.put other info').put name info := by
  obtain ⟨entries⟩ := m
  simp only [names] at h
  simp only [put, mk.injEq]
  induction entries with
  | nil => simp at h
  | cons e rest ih =>
    obtain ⟨n, i⟩ := e
    by_cases hn : n = name
    · subst hn
      simp [put.go, Ne.symm hne]
    · by_cases ho : n = other
      · subst ho
        simp [put.go, hn]
      · have hrest : other ∈ rest.map (·.1) := by simpa [Ne.symm ho] using h
        simp [put.go, hn, ho, ih hrest]

theorem contains_iff : m.contains name = true ↔ name ∈ m.names := by
  simp [contains, get?, names, List.find?_isSome]

theorem add_of_mem (h : name ∈ m.names) : m.add name info = m := by
  rw [add, if_pos (contains_iff.mpr h)]

theorem add_of_not_mem (h : name ∉ m.names) : m.add name info = m.put name info := by
  rw [add, if_neg fun hcontains => h (contains_iff.mp hcontains)]

theorem names_add (m : SymbolMap) (name : String) (info : SymbolInfo) :
    (m.add name info).names = if name ∈ m.names then m.names else m.names ++ [name] := by
  by_cases h : name ∈ m.names
  · rw [add_of_mem h, if_pos h]
  · rw [add_of_not_mem h, names_put]

theorem entries_put_of_not_mem (h : name ∉ m.names) : (m.put name info).entries = m.entries ++ [(name, info)] := by
  obtain ⟨entries⟩ := m
  simp only [names] at h
  simp only [put]
  induction entries with
  | nil => simp [put.go]
  | cons e rest ih =>
    simp only [List.map_cons, List.mem_cons, not_or] at h
    simp [put.go, Ne.symm h.1, ih h.2]

/-! ### Changes -/

/-- An entry for a map, to override what is known of the name or only to add to it. -/
structure Change where
  overrides : Bool
  name : String
  info : SymbolInfo

namespace Change

def make (m : SymbolMap) (c : Change) : SymbolMap :=
  if c.overrides then m.put c.name c.info else m.add c.name c.info

def makeAll (cs : List Change) (m : SymbolMap) : SymbolMap := cs.foldl make m

variable {c : Change} {cs : List Change}

theorem makeAll_cons (c : Change) (cs : List Change) (m : SymbolMap) :
    makeAll (c :: cs) m = makeAll cs (make m c) := rfl

theorem makeAll_concat (cs : List Change) (c : Change) (m : SymbolMap) :
    makeAll (cs ++ [c]) m = make (makeAll cs m) c := by
  rw [makeAll, List.foldl_append]
  rfl

theorem make_of_overrides (h : c.overrides = true) : make m c = m.put c.name c.info := by
  rw [make, if_pos h]

theorem make_of_fills (h : c.overrides = false) : make m c = m.add c.name c.info := by
  simp [make, h]

theorem names_make (m : SymbolMap) (c : Change) :
    (make m c).names = if c.name ∈ m.names then m.names else m.names ++ [c.name] := by
  cases h : c.overrides with
  | true => rw [make_of_overrides h, names_put]
  | false => rw [make_of_fills h, names_add]

theorem prefix_names_make (m : SymbolMap) (c : Change) : m.names <+: (make m c).names := by
  rw [names_make]
  split
  · exact List.prefix_rfl
  · exact List.prefix_append _ _

theorem mem_names_make (m : SymbolMap) (c : Change) : c.name ∈ (make m c).names := by
  rw [names_make]
  split
  · assumption
  · simp

theorem prefix_names_makeAll (cs : List Change) (m : SymbolMap) : m.names <+: (makeAll cs m).names := by
  induction cs generalizing m with
  | nil => exact List.prefix_rfl
  | cons c cs ih => exact (prefix_names_make m c).trans (ih _)

theorem mem_names_makeAll (hc : c ∈ cs) (m : SymbolMap) : c.name ∈ (makeAll cs m).names := by
  induction cs generalizing m with
  | nil => cases hc
  | cons d cs ih =>
    rcases List.mem_cons.mp hc with rfl | hc
    · exact (prefix_names_makeAll cs _).subset (mem_names_make m c)
    · exact ih hc _

/-! ### A list of changes made twice -/

/-- The changes that still do something where all names are known. -/
def overriding (cs : List Change) : List Change := cs.filter (·.overrides)

theorem makeAll_of_known (h : ∀ c ∈ cs, c.name ∈ m.names) : makeAll cs m = makeAll (overriding cs) m := by
  induction cs generalizing m with
  | nil => rfl
  | cons c cs ih =>
    have hrest : ∀ d ∈ cs, d.name ∈ (make m c).names := by
      intro d hd
      exact (prefix_names_make m c).subset (h d (List.mem_cons_of_mem c hd))
    rw [makeAll_cons, ih hrest]
    cases hc : c.overrides with
    | true => rw [overriding, overriding, List.filter_cons_of_pos hc, makeAll_cons]
    | false =>
      rw [overriding, overriding, List.filter_cons_of_neg (by simp [hc]), make_of_fills hc,
        add_of_mem (h c List.mem_cons_self)]

structure Renews (cs : List Change) (m : SymbolMap) : Prop where
  overrides (c : Change) (mem : c ∈ cs) : c.overrides = true
  known (c : Change) (mem : c ∈ cs) : c.name ∈ m.names

theorem Renews.tail (h : Renews (c :: cs) m) : Renews cs (m.put c.name c.info) where
  overrides d hd := h.overrides d (List.mem_cons_of_mem c hd)
  known d hd := by
    rw [names_put, if_pos (h.known c List.mem_cons_self)]
    exact h.known d (List.mem_cons_of_mem c hd)

theorem Renews.makeAll_cons (h : Renews (c :: cs) m) : makeAll (c :: cs) m = makeAll cs (m.put c.name c.info) := by
  rw [Change.makeAll_cons, make_of_overrides (h.overrides c List.mem_cons_self)]

theorem Renews.put (h : Renews cs m) (name : String) (info : SymbolInfo) : Renews cs (m.put name info) where
  overrides := h.overrides
  known c hc := by
    rw [names_put]
    split
    · exact h.known c hc
    · exact List.mem_append_left _ (h.known c hc)

/-- What is put in the end may have been put before as well. -/
theorem Renews.makeAll_put (h : Renews cs m) :
    (makeAll cs (m.put name info)).put name info = (makeAll cs m).put name info := by
  induction cs generalizing m with
  | nil => exact put_put m name info info
  | cons c cs ih =>
    rw [(h.put name info).makeAll_cons, h.makeAll_cons]
    by_cases hc : c.name = name
    · rw [hc, put_put]
    · rw [put_comm (h.known c List.mem_cons_self) hc, ih h.tail]

theorem Renews.makeAll_put_of_new (h : Renews cs m) (hnew : name ∉ m.names) :
    makeAll cs (m.put name info) = (makeAll cs m).put name info := by
  induction cs generalizing m with
  | nil => rfl
  | cons c cs ih =>
    have hknown := h.known c List.mem_cons_self
    have hc : c.name ≠ name := ne_of_mem_of_not_mem hknown hnew
    rw [(h.put name info).makeAll_cons, h.makeAll_cons, put_comm hknown hc, ih h.tail]
    rwa [names_put, if_pos hknown]

theorem renews_overriding (cs : List Change) (m : SymbolMap) : Renews (overriding cs) (makeAll cs m) where
  overrides _ hc := (List.mem_filter.mp hc).2
  known _ hc := mem_names_makeAll (List.mem_filter.mp hc).1 m

theorem makeAll_overriding (cs : List Change) (m : SymbolMap) :
    makeAll (overriding cs) (makeAll cs m) = makeAll cs m := by
  -- from the right: the last change meets the outcome of all the others
  induction cs using List.reverseRecOn with
  | nil => rfl
  | append_singleton cs c ih =>
    have hrenews := renews_overriding cs m
    rw [makeAll_concat, overriding, List.filter_append]
    change makeAll (overriding cs ++ overriding [c]) _ = _
    cases hc : c.overrides with
    | true =>
      have hlast : overriding [c] = [c] := by simp [overriding, hc]
      rw [hlast, makeAll_concat, make_of_overrides hc, make_of_overrides hc, hrenews.makeAll_put, ih]
    | false =>
      have hnone : overriding [c] = [] := by simp [overriding, hc]
      rw [hnone, List.append_nil, make_of_fills hc]
      by_cases hknown : c.name ∈ (makeAll cs m).names
      · rw [add_of_mem hknown, ih]
      · rw [add_of_not_mem hknown, hrenews.makeAll_put_of_new hknown, ih]

theorem makeAll_makeAll (cs : List Change) (m : SymbolMap) : makeAll cs (makeAll cs m) = makeAll cs m := by
  rw [makeAll_of_known fun c hc => mem_names_makeAll hc m, makeAll_overriding]

/-- Changes that only add leave every entry where it is. -/
theorem prefix_entries_makeAll (h : ∀ c ∈ cs, c.overrides = false) (m : SymbolMap) :
    m.entries <+: (makeAll cs m).entries := by
  induction cs generalizing m with
  | nil => exact List.prefix_rfl
  | cons c cs ih =>
    have hstep : m.entries <+: (make m c).entries := by
      rw [make_of_fills (h c List.mem_cons_self)]
      by_cases hknown : c.name ∈ m.names
      · simp only [add_of_mem hknown, List.prefix_rfl]
      · rw [add_of_not_mem hknown, entries_put_of_not_mem hknown]
        exact List.prefix_append _ _
    exact hstep.trans (ih (fun d hd => h d (List.mem_cons_of_mem c hd)) _)

end Change
end SymbolMap

/-! ### Rules -/

namespace MiningRule

open SymbolMap

def changes (r : MiningRule) (userSection fullDump : List Char) : List Change :=
  (r.proposals userSection fullDump).map fun e => ⟨r.overrides, e.1, e.2⟩

def applyAll (rules : List MiningRule) (userSection fullDump : List Char) (symbols : SymbolMap) : SymbolMap :=
  rules.foldl (fun symbols r => r.apply userSection fullDump symbols) symbols

variable (r : MiningRule) (rules : List MiningRule) (userSection fullDump : List Char) (symbols : SymbolMap)

theorem apply_eq_makeAll :
    r.apply userSection fullDump symbols = Change.makeAll (r.changes userSection fullDump) symbols := by
  rw [apply, changes, Change.makeAll, List.foldl_map]
  rfl

theorem applyAll_eq_makeAll :
    applyAll rules userSection fullDump symbols =
      Change.makeAll (rules.flatMap fun r => r.changes userSection fullDump) symbols := by
  rw [applyAll, Change.makeAll, List.foldl_flatMap]
  congr 1
  funext symbols r
  exact apply_eq_makeAll r userSection fullDump symbols

theorem applyAll_applyAll :
    applyAll rules userSection fullDump (applyAll rules userSection fullDump symbols) =
      applyAll rules userSection fullDump symbols := by
  simp only [applyAll_eq_makeAll, Change.makeAll_makeAll]

theorem prefix_names_applyAll : symbols.names <+: (applyAll rules userSection fullDump symbols).names := by
  rw [applyAll_eq_makeAll]
  exact Change.prefix_names_makeAll _ _

variable {r} in
theorem prefix_entries_apply (h : r.overrides = false) :
    symbols.entries <+: (r.apply userSection fullDump symbols).entries := by
  rw [apply_eq_makeAll]
  apply Change.prefix_entries_makeAll
  intro c hc
  obtain ⟨e, -, rfl⟩ := List.mem_map.mp hc
  exact h

/-! ### Which entries a rule may change -/

section

variable {r rules userSection fullDump symbols} {name : String} {info : SymbolInfo}

theorem get?_apply_of_not_mines (h : r.overrides = true → ¬r.Mines userSection fullDump name)
    (hknown : symbols.get? name = some info) : (r.apply userSection fullDump symbols).get? name = some info := by
  cases hoverrides : r.overrides with
  | true =>
    have hnone : SymbolMap.lastOf name (r.proposals userSection fullDump) = none := by
      simpa [mines_iff_lastOf] using h hoverrides
    rw [get?_apply_overriding _ _ _ _ _ hoverrides, hnone, Option.none_or, hknown]
  | false => rw [get?_apply_filling _ _ _ _ _ hoverrides, hknown, Option.some_or]

/-- What is known of a name stays, unless a rule that overrides has an entry for it. -/
theorem get?_applyAll_of_not_mines
    (h : ∀ r ∈ rules, r.overrides = true → ¬r.Mines userSection fullDump name)
    (hknown : symbols.get? name = some info) :
    (applyAll rules userSection fullDump symbols).get? name = some info := by
  induction rules generalizing symbols with
  | nil => exact hknown
  | cons r rules ih =>
    apply ih (fun r hr => h r (List.mem_cons_of_mem _ hr))
    exact get?_apply_of_not_mines (h r List.mem_cons_self) hknown

theorem mines_of_get?_apply_ne (hoverrides : r.overrides = true)
    (h : (r.apply userSection fullDump symbols).get? name ≠ symbols.get? name) : r.Mines userSection fullDump name := by
  rw [mines_iff_lastOf, Option.isSome_iff_ne_none]
  intro hnone
  rw [get?_apply_overriding _ _ _ _ _ hoverrides, hnone, Option.none_or] at h
  exact h rfl

theorem mines_userFunction (h : userFunction.Mines userSection fullDump name) :
    captures functionPattern userSection name ≠ [] := by
  rw [mines_iff_lastOf, lastOf_userFunction, Option.isSome_ite] at h
  obtain ⟨m, hm, -⟩ := h
  exact List.ne_nil_of_mem hm

theorem mines_importedPath (h : importedPath.Mines userSection fullDump name) :
    ∃ path ∈ (importPattern.values userSection).map (·.name), Imports path name := by
  rw [mines_iff_lastOf, lastOf_importedPath, Option.isSome_map] at h
  obtain ⟨path, hpath⟩ := Option.isSome_iff_exists.mp h
  have hmem := List.mem_filter.mp (List.mem_of_getLast? hpath)
  exact ⟨path, hmem.1, of_decide_eq_true hmem.2⟩

theorem mines_typedVariable (h : typedVariable.Mines userSection fullDump name) :
    captures variablePattern userSection name ≠ [] := by
  rw [mines_iff_lastOf, lastOf_typedVariable, Option.isSome_map, declaredType?] at h
  intro hnil
  simp [hnil] at h

end

/-- Rules only add to what is known of a text, in whatever order they run. They take no name away; five of the eight
leave every entry as it is, the other three change what is known of names that they capture themselves; and to run a
rule, or any number of rules, once more changes nothing. -/
theorem applyAll_accumulates (userSection fullDump : List Char) (symbols : SymbolMap) (rules : List MiningRule) :
    symbols.names <+: (applyAll rules userSection fullDump symbols).names ∧
    symbols.size ≤ (applyAll rules userSection fullDump symbols).size ∧
    (∀ r ∈ [parameterReference, selectorMethod, localCall, externalFunction, variableUsage],
      symbols.entries <+: (r.apply userSection fullDump symbols).entries) ∧
    (∀ name, (userFunction.apply userSection fullDump symbols).get? name ≠ symbols.get? name →
      captures functionPattern userSection name ≠ []) ∧
    (∀ name, (importedPath.apply userSection fullDump symbols).get? name ≠ symbols.get? name →
      ∃ path ∈ (importPattern.values userSection).map (·.name), Imports path name) ∧
    (∀ name, (typedVariable.apply userSection fullDump symbols).get? name ≠ symbols.get? name →
      captures variablePattern userSection name ≠ []) ∧
    (∀ name info, symbols.get? name = some info →
      (∀ r ∈ rules, r.overrides = true → ¬r.Mines userSection fullDump name) →
      (applyAll rules userSection fullDump symbols).get? name = some info) ∧
    (∀ r : MiningRule, r.apply userSection fullDump (r.apply userSection fullDump symbols) =
      r.apply userSection fullDump symbols) ∧
    applyAll rules userSection fullDump (applyAll rules userSection fullDump symbols) =
      applyAll rules userSection fullDump symbols := by
  have hnames := prefix_names_applyAll rules userSection fullDump symbols
  refine ⟨hnames, ?_, ?_, ?_, ?_, ?_, ?_, ?_, applyAll_applyAll rules userSection fullDump symbols⟩
  · rw [← length_names, ← length_names]
    exact hnames.length_le
  · intro r hr
    apply prefix_entries_apply
    revert r
    decide
  · intro name h
    exact mines_userFunction (mines_of_get?_apply_ne rfl h)
  · intro name h
    exact mines_importedPath (mines_of_get?_apply_ne rfl h)
  · intro name h
    exact mines_typedVariable (mines_of_get?_apply_ne rfl h)
  · intro name info hknown h
    exact get?_applyAll_of_not_mines h hknown
  · intro r
    exact applyAll_applyAll [r] userSection fullDump symbols

/-- A definition, an import and a declaration, one for each of the rules that override. -/
def overrider : List Char :=
  "(Function \"шаг\" \"functype\") ".toList ++ "(Import \"стд::вывод\") ".toList ++
    "(VarDecl \"итог\" \"Цел64\" 0)".toList

/-- What an earlier text may have left: three names that the rules override and one that they know nothing of. -/
def begun : SymbolMap :=
  SymbolMap.ofList (["шаг", "вывод", "итог", "икс"].map fun name => (name, { kind := .functionParameter }))

/-- Each of the three changes one of the names, `икс` stays through the whole table, and the table is run twice. -/
theorem applyAll_accumulates_overrider :
    (userFunction.apply overrider overrider begun).get? "шаг" = some { kind := .userFunction } ∧
    captures functionPattern overrider "шаг" ≠ [] ∧
    (∃ path ∈ (importPattern.values overrider).map (·.name), Imports path "вывод") ∧
    captures variablePattern overrider "итог" ≠ [] ∧
    (∀ r ∈ table, ¬r.Mines overrider overrider "икс") ∧
    (applyAll table overrider overrider begun).get? "икс" = some { kind := .functionParameter } ∧
    (externalFunction.apply overrider overrider begun).entries = begun.entries ∧
    applyAll table overrider overrider (SymbolMap.mineSection overrider overrider) =
      SymbolMap.mineSection overrider overrider := by
  obtain ⟨-, -, hkeep, hfunction, himport, hvariable, hother, -, -⟩ :=
    applyAll_accumulates overrider overrider begun table
  obtain ⟨-, -, -, -, -, -, -, -, htwice⟩ := applyAll_accumulates overrider overrider .empty table
  have hmines : ∀ r ∈ table, ¬r.Mines overrider overrider "икс" := by decide +kernel
  refine ⟨by decide +kernel, hfunction "шаг" ?_, himport "вывод" ?_, hvariable "итог" ?_, hmines,
    hother "икс" _ (by decide) fun r hr _ => hmines r hr, ?_, htwice⟩
  · decide +kernel
  · decide +kernel
  · decide +kernel
  · symm
    apply (hkeep externalFunction (by simp)).eq_of_length
    decide +kernel

end MiningRule
end SnippetLab
