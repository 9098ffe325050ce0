import SnippetLab.Proofs.Text.Pattern
import SnippetLab.Symbol.Rule

/-! The two ends of a rule: what its pattern takes of a text, and what a map knows of one name after the entries
that it proposes. -/
namespace SnippetLab

/-! ### Entries of one name -/

namespace SymbolMap

def lastOf (name : String) (entries : List (String × SymbolInfo)) : Option SymbolInfo :=
  (entries.filter (·.1 = name)).getLast?.map (·.2)

def firstOf (name : String) (entries : List (String × SymbolInfo)) : Option SymbolInfo :=
  (entries.filter (·.1 = name)).head?.map (·.2)

theorem lastOf_cons (name : String) (e : String × SymbolInfo) (rest : List (String × SymbolInfo)) :
    lastOf name (e :: rest) = (lastOf name rest).or (if e.1 = name then some e.2 else none) := by
  by_cases h : e.1 = name
  · simp [lastOf, h, List.getLast?_cons]
  · simp [lastOf, h]

theorem firstOf_cons (name : String) (e : String × SymbolInfo) (rest : List (String × SymbolInfo)) :
    firstOf name (e :: rest) = (if e.1 = name then some e.2 else none).or (firstOf name rest) := by
  by_cases h : e.1 = name <;> simp [firstOf, h]

theorem find?_go (name key : String) (info : SymbolInfo) (entries : List (String × SymbolInfo)) :
    ((put.go name info entries).find? (·.1 == key)).map (·.2) =
      if name = key then some info else (entries.find? (·.1 == key)).map (·.2) := by
  induction entries with
  | nil => by_cases h : name = key <;> simp [put.go, h]
  | cons e rest ih =>
    obtain ⟨n, i⟩ := e
    by_cases hn : n = name
    · subst hn
      by_cases h : n = key <;> simp [put.go, h]
    · have hgo : put.go name info ((n, i) :: rest) = (n, i) :: put.go name info rest := by
        simp [put.go, hn]
      rw [hgo]
      by_cases hk : n = key
      · subst hk
        simp [Ne.symm hn]
      · simp only [List.find?_cons, beq_eq_false_iff_ne.mpr hk, ih]

theorem get?_put (m : SymbolMap) (name key : String) (info : SymbolInfo) :
    (m.put name info).get? key = if name = key then some info else m.get? key :=
  find?_go name key info m.entries

theorem get?_add (m : SymbolMap) (name key : String) (info : SymbolInfo) :
    (m.add name info).get? key = (m.get? key).or (if name = key then some info else none) := by
  unfold add contains
  by_cases h : name = key
  · subst h
    cases hm : m.get? name <;> simp [get?_put, hm]
  · split <;> simp [get?_put, h]

/-- Of entries that are put one after another, the last one counts. -/
theorem get?_foldl_put (entries : List (String × SymbolInfo)) (m : SymbolMap) (name : String) :
    (entries.foldl (fun m e => m.put e.1 e.2) m).get? name = (lastOf name entries).or (m.get? name) := by
  induction entries generalizing m with
  | nil => rfl
  | cons e rest ih =>
    rw [List.foldl_cons, ih, get?_put, lastOf_cons, Option.or_assoc]
    by_cases h : e.1 = name <;> simp [h]

/-- Of entries that are added one after another, the first one counts, and only for a new name. -/
theorem get?_foldl_add (entries : List (String × SymbolInfo)) (m : SymbolMap) (name : String) :
    (entries.foldl (fun m e => m.add e.1 e.2) m).get? name = (m.get? name).or (firstOf name entries) := by
  induction entries generalizing m with
  | nil => simp [firstOf]
  | cons e rest ih => rw [List.foldl_cons, ih, get?_add, firstOf_cons, Option.or_assoc]

end SymbolMap

namespace MiningRule

open SnippetLab.Text

def Mines (r : MiningRule) (userSection fullDump : List Char) (name : String) : Prop :=
  ∃ e ∈ r.proposals userSection fullDump, e.1 = name

instance (r : MiningRule) (userSection fullDump : List Char) (name : String) :
    Decidable (r.Mines userSection fullDump name) :=
  inferInstanceAs (Decidable (∃ e ∈ r.proposals userSection fullDump, e.1 = name))

section

variable (r : MiningRule) (userSection fullDump : List Char) (name : String)

theorem mines_iff_lastOf :
    r.Mines userSection fullDump name ↔ (SymbolMap.lastOf name (r.proposals userSection fullDump)).isSome := by
  simp [Mines, SymbolMap.lastOf]

theorem mines_iff_firstOf :
    r.Mines userSection fullDump name ↔ (SymbolMap.firstOf name (r.proposals userSection fullDump)).isSome := by
  simp [Mines, SymbolMap.firstOf]

end

/-! ### A name in quotes, after an opening and before a closing -/

structure IsQuotable (name : String) : Prop where
  ne_nil : name.toList ≠ []
  quote_not_mem : '"' ∉ name.toList

section Quote

variable {front : List Char} (h : '"' ∉ front) (rest : List Char)

include h

theorem takeWhile_quote : (front ++ '"' :: rest).takeWhile (· ≠ '"') = front := by
  rw [List.takeWhile_append_of_pos fun c hc => by simpa using ne_of_mem_of_not_mem hc h]
  simp

theorem dropWhile_quote : (front ++ '"' :: rest).dropWhile (· ≠ '"') = '"' :: rest := by
  rw [List.dropWhile_append_of_pos fun c hc => by simpa using ne_of_mem_of_not_mem hc h]
  simp

end Quote

theorem quotedName?_eq_some_iff {cs rest : List Char} {name : String} :
    quotedName? cs = some (name, rest) ↔ IsQuotable name ∧ cs = name.toList ++ '"' :: rest := by
  simp only [quotedName?, Option.bind_eq_bind, Option.bind_eq_some_iff, Option.pure_def, Option.some.injEq,
    Prod.mk.injEq, after?_eq_some_iff]
  constructor
  · rintro ⟨⟨front, back⟩, hfront, left, hback, rfl, rfl⟩
    obtain ⟨hcs, hne, hall⟩ := some?_append hfront
    rw [String.toList_ofList]
    dsimp only at hback
    refine ⟨⟨by rwa [String.toList_ofList], ?_⟩, by rw [hcs, hback]; rfl⟩
    rw [String.toList_ofList]
    intro hquote
    simpa using hall _ hquote
  · rintro ⟨hname, rfl⟩
    refine ⟨(name.toList, '"' :: rest), ?_, rest, rfl, String.ofList_toList, rfl⟩
    rw [some?, takeWhile_quote hname.quote_not_mem, dropWhile_quote hname.quote_not_mem,
      if_neg (by simpa using hname.ne_nil)]

theorem named_eq_some_iff {opening closing : String} {before : Option Char} {cs rest : List Char} {capture : Capture} :
    named opening closing before cs = some (capture, rest) ↔
      IsQuotable capture.name ∧ capture.type = "" ∧
        cs = opening.toList ++ (capture.name.toList ++ '"' :: (closing.toList ++ rest)) := by
  simp only [named, Option.bind_eq_bind, Option.bind_eq_some_iff, Option.pure_def, Option.some.injEq, Prod.mk.injEq,
    after?_eq_some_iff]
  constructor
  · rintro ⟨left, hleft, ⟨name, right⟩, hname, tail, htail, rfl, rfl⟩
    obtain ⟨hquotable, hsplit⟩ := quotedName?_eq_some_iff.mp hname
    dsimp only at htail
    exact ⟨hquotable, rfl, by rw [hleft, hsplit, htail]⟩
  · rintro ⟨hquotable, htype, rfl⟩
    obtain ⟨name, type⟩ := capture
    cases htype
    exact ⟨_, rfl, (name, _), quotedName?_eq_some_iff.mpr ⟨hquotable, rfl⟩, rest, rfl, rfl, rfl⟩

theorem named_advances (opening closing : String) : (named opening closing).Advances := by
  intro before cs capture rest h
  obtain ⟨-, -, rfl⟩ := named_eq_some_iff.mp h
  refine ⟨⟨opening.toList ++ (capture.name.toList ++ '"' :: closing.toList), by simp⟩, ?_⟩
  simp only [List.length_append, List.length_cons]
  omega

end MiningRule
end SnippetLab
