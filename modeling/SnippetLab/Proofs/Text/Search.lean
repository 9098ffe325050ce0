import SnippetLab.Text.Ranges
import SnippetLab.Text.Search

/-! Searching a text, and what of it survives when white space around the text is cut off. -/
namespace SnippetLab.Text

theorem length_lines (cs : List Char) : (lines cs).length = cs.count '\n' + 1 := by
  fun_induction lines cs with
  | case1 => rfl
  | case2 cs ih => simp [ih]
  | case3 c cs hc hnone ih => simp [hnone] at ih
  | case4 c cs hc line rest hsome ih =>
    rw [hsome] at ih
    simpa [List.count_cons, hc] using ih

theorem lines_eq_splitOn (cs : List Char) : lines cs = cs.splitOn '\n' := by
  induction cs with
  | nil => rfl
  | cons c cs ih =>
    rw [lines, ih, List.splitOn_cons_eq_if_modifyHead]
    by_cases h : c = '\n'
    · simp [h]
    · simp only [h, beq_iff_eq, if_false]
      cases hs : cs.splitOn '\n' with
      | nil => exact absurd hs (List.splitOn_ne_nil _ _)
      | cons line rest => rfl

theorem infix_intercalate {α : Type} {sep xs : List α} {ls : List (List α)} (h : xs ∈ ls) :
    xs <:+: sep.intercalate ls := by
  induction ls with
  | nil => cases h
  | cons l ls ih =>
    cases ls with
    | nil =>
      obtain rfl := List.mem_singleton.mp h
      simp
    | cons l' ls =>
      rw [List.intercalate_cons_cons]
      obtain rfl | h := List.mem_cons.mp h
      · rw [List.append_assoc]
        exact (List.prefix_append _ _).isInfix
      · exact (ih h).trans (List.suffix_append _ _).isInfix

theorem infix_of_mem_splitOn {c : Char} {cs line : List Char} (h : line ∈ cs.splitOn c) : line <:+: cs := by
  have hinfix : line <:+: [c].intercalate (cs.splitOn c) := infix_intercalate h
  rwa [List.intercalate_splitOn] at hinfix

theorem not_mem_of_mem_splitOn {c : Char} {cs line : List Char} (h : line ∈ cs.splitOn c) : c ∉ line := by
  induction cs generalizing line with
  | nil =>
    rw [List.splitOn_nil, List.mem_singleton] at h
    rw [h]
    exact List.not_mem_nil
  | cons d cs ih =>
    rw [List.splitOn_cons_eq_if_modifyHead] at h
    split at h
    · rcases List.mem_cons.mp h with rfl | h
      · exact List.not_mem_nil
      · exact ih h
    · next hne =>
      cases hsplit : cs.splitOn c with
      | nil => exact absurd hsplit (List.splitOn_ne_nil _ _)
      | cons first rest =>
        rw [hsplit] at h ih
        rcases List.mem_cons.mp h with rfl | h
        · refine fun hmem => (List.mem_cons.mp hmem).elim ?_ (ih List.mem_cons_self)
          rintro rfl
          exact hne (beq_self_eq_true _)
        · exact ih (List.mem_cons_of_mem _ h)

theorem isPrefix_of_find? {p cs : List Char} {i : Nat} (h : find? p cs = some i) : p <+: cs.drop i := by
  induction cs generalizing i with
  | nil =>
    cases p with
    | nil => simp
    | cons d p => simp [find?] at h
  | cons c cs ih =>
    simp only [find?] at h
    split at h
    · next hp =>
      cases h
      exact List.isPrefixOf_iff_prefix.mp hp
    · obtain ⟨j, hj, rfl⟩ := Option.map_eq_some_iff.mp h
      exact ih hj

theorem find?_le {p cs : List Char} {i : Nat} (h : p <+: cs.drop i) : ∃ j, find? p cs = some j ∧ j ≤ i := by
  induction cs generalizing i with
  | nil =>
    rw [List.drop_nil, List.prefix_nil] at h
    exact ⟨0, by simp [find?, h], Nat.zero_le i⟩
  | cons c cs ih =>
    simp only [find?]
    split
    · exact ⟨0, rfl, Nat.zero_le i⟩
    · next hne =>
      cases i with
      | zero => exact absurd (List.isPrefixOf_iff_prefix.mpr h) hne
      | succ i =>
        obtain ⟨j, hj, hle⟩ := ih h
        exact ⟨j + 1, by rw [hj]; rfl, Nat.succ_le_succ hle⟩

theorem occursIn_iff {p cs : List Char} : occursIn p cs = true ↔ p <:+: cs := by
  unfold occursIn
  induction cs with
  | nil => cases p <;> simp [find?]
  | cons c cs ih =>
    rw [find?, List.infix_cons_iff, ← ih]
    by_cases h : p.isPrefixOf (c :: cs)
    · simp [h, List.isPrefixOf_iff_prefix.mp h]
    · have hn : ¬p <+: c :: cs := fun hp => h (List.isPrefixOf_iff_prefix.mpr hp)
      simp [h, hn]

/-! ### The first and the last place where a word stands -/

section Stands

variable {p q cs : List Char} {i j : Nat}

structure IsFirstAt (p cs : List Char) (i : Nat) : Prop where
  stands : p <+: cs.drop i
  first : ∀ j, p <+: cs.drop j → i ≤ j

structure IsLastAt (p cs : List Char) (i : Nat) : Prop where
  stands : p <+: cs.drop i
  last : ∀ j, p <+: cs.drop j → j ≤ i

theorem find?_eq_some_iff : find? p cs = some i ↔ IsFirstAt p cs i := by
  constructor
  · intro h
    refine ⟨isPrefix_of_find? h, fun j hj => ?_⟩
    obtain ⟨k, hk, hle⟩ := find?_le hj
    cases h.symm.trans hk
    exact hle
  · intro h
    obtain ⟨k, hk, hle⟩ := find?_le h.stands
    rw [hk, Nat.le_antisymm hle (h.first k (isPrefix_of_find? hk))]

theorem find?_eq_none_iff : find? p cs = none ↔ ∀ i, ¬p <+: cs.drop i := by
  constructor
  · intro h i hi
    obtain ⟨k, hk, -⟩ := find?_le hi
    cases h.symm.trans hk
  · intro h
    cases hfind : find? p cs with
    | none => rfl
    | some i => exact absurd (isPrefix_of_find? hfind) (h i)

theorem isPrefix_of_findLast? (h : findLast? p cs = some i) : p <+: cs.drop i := by
  induction cs generalizing i with
  | nil =>
    cases p with
    | nil => simp
    | cons d p => simp [findLast?] at h
  | cons c cs ih =>
    rw [findLast?] at h
    cases hlast : findLast? p cs with
    | some j =>
      rw [hlast] at h
      cases h
      exact ih hlast
    | none =>
      simp only [hlast] at h
      split at h
      · next hp =>
        cases h
        exact List.isPrefixOf_iff_prefix.mp hp
      · cases h

theorem le_findLast? (hp : p ≠ []) (h : p <+: cs.drop i) : ∃ j, findLast? p cs = some j ∧ i ≤ j := by
  induction cs generalizing i with
  | nil =>
    rw [List.drop_nil, List.prefix_nil] at h
    exact absurd h hp
  | cons c cs ih =>
    rw [findLast?]
    cases i with
    | succ i =>
      obtain ⟨j, hj, hle⟩ := ih h
      exact ⟨j + 1, by rw [hj], Nat.succ_le_succ hle⟩
    | zero =>
      cases findLast? p cs with
      | some j => exact ⟨j + 1, rfl, Nat.zero_le _⟩
      | none => exact ⟨0, if_pos (List.isPrefixOf_iff_prefix.mpr h), Nat.le_refl 0⟩

theorem findLast?_eq_some_iff (hp : p ≠ []) : findLast? p cs = some i ↔ IsLastAt p cs i := by
  constructor
  · intro h
    refine ⟨isPrefix_of_findLast? h, fun j hj => ?_⟩
    obtain ⟨k, hk, hle⟩ := le_findLast? hp hj
    cases h.symm.trans hk
    exact hle
  · intro h
    obtain ⟨k, hk, hle⟩ := le_findLast? hp h.stands
    rw [hk, Nat.le_antisymm (h.last k (isPrefix_of_findLast? hk)) hle]

theorem exists_isLastAt (hp : p ≠ []) (h : p <+: cs.drop i) : ∃ j, IsLastAt p cs j := by
  obtain ⟨j, hj, -⟩ := le_findLast? hp h
  exact ⟨j, (findLast?_eq_some_iff hp).mp hj⟩

theorem add_length_le_of_stands (hp : p ≠ []) (h : p <+: cs.drop i) : i + p.length ≤ cs.length := by
  have hlength := h.length_le
  have hpos := List.length_pos_iff.mpr hp
  rw [List.length_drop] at hlength
  omega

theorem stands_take_iff (hp : p ≠ []) : p <+: (cs.take j).drop i ↔ p <+: cs.drop i ∧ i + p.length ≤ j := by
  have hpos := List.length_pos_iff.mpr hp
  rw [List.drop_take, List.prefix_take_iff]
  exact and_congr_right fun _ => by omega

theorem infix_iff_exists_stands : p <:+: cs ↔ ∃ i, p <+: cs.drop i := by
  rw [← occursIn_iff, occursIn, Option.isSome_iff_exists]
  constructor
  · rintro ⟨i, hi⟩
    exact ⟨i, isPrefix_of_find? hi⟩
  · rintro ⟨i, hi⟩
    obtain ⟨j, hj, -⟩ := find?_le hi
    exact ⟨j, hj⟩

theorem IsFirstAt.unique (h : IsFirstAt p cs i) (h' : IsFirstAt p cs j) : i = j :=
  Nat.le_antisymm (h.first j h'.stands) (h'.first i h.stands)

/-- A word without the character stands in front of the first such character if its first place is not behind it. -/
theorem occursIn_takeWhile_iff {c : Char} (hp : p ≠ []) (hc : c ∉ p) :
    occursIn p (cs.takeWhile (· ≠ c)) = true ↔ ∃ k, IsFirstAt p cs k ∧ c ∉ cs.take k := by
  constructor
  · intro h
    obtain ⟨i, hi⟩ := infix_iff_exists_stands.mp (occursIn_iff.mp h)
    rw [List.prefix_iff_eq_take.mp (List.takeWhile_prefix _), stands_take_iff hp] at hi
    obtain ⟨k, hk, hki⟩ := find?_le hi.1
    refine ⟨k, find?_eq_some_iff.mp hk, fun hmem => ?_⟩
    have hfront : cs.take k <+: cs.takeWhile (· ≠ c) := by
      rw [List.prefix_iff_eq_take.mp (List.takeWhile_prefix _)]
      exact List.take_prefix_take_left (by omega)
    have hother := List.all_eq_true.mp List.all_takeWhile c (hfront.subset hmem)
    simp at hother
  · rintro ⟨k, hk, hfree⟩
    obtain ⟨rest, hrest⟩ := hk.stands
    have hsplit : cs = cs.take k ++ (p ++ rest) := by rw [hrest, List.take_append_drop]
    rw [occursIn_iff, hsplit, List.takeWhile_append_of_pos fun d hd => by simpa using ne_of_mem_of_not_mem hd hfree,
      List.takeWhile_append_of_pos fun d hd => by simpa using ne_of_mem_of_not_mem hd hc]
    exact (List.prefix_append p _).isInfix.trans (List.suffix_append _ _).isInfix

/-- A word stands behind another one if its first character keeps it from beginning inside of that. -/
theorem add_length_le_of_getElem?_ne {c : Char} (hp : p <+: cs.drop i) (hq : q <+: cs.drop j) (hij : i ≤ j)
    (hc : q.head? = some c) (hfree : p[j - i]? ≠ some c) : i + p.length ≤ j := by
  refine Nat.le_of_not_lt fun hlt => hfree ?_
  obtain ⟨k, rfl⟩ := Nat.exists_eq_add_of_le hij
  obtain ⟨rest, rfl⟩ := List.head?_eq_some_iff.mp hc
  obtain ⟨behind, hbehind⟩ := hq
  obtain ⟨after, hafter⟩ := hp
  have hat : (p ++ after)[k]? = p[k]? := List.getElem?_append_left (by omega)
  rw [Nat.add_sub_cancel_left, ← hat, hafter, List.getElem?_drop, ← Nat.add_zero (i + k), ← List.getElem?_drop,
    ← hbehind]
  rfl

theorem add_length_le_of_not_mem {c : Char} (hp : p <+: cs.drop i) (hq : q <+: cs.drop j) (hij : i ≤ j)
    (hc : q.head? = some c) (hfree : c ∉ p) : i + p.length ≤ j :=
  add_length_le_of_getElem?_ne hp hq hij hc fun h => hfree (List.mem_of_getElem? h)

end Stands

theorem infix_dropWhile_iff {q : Char → Bool} {p : List Char} (hp : ∃ c ∈ p.head?, q c = false) (cs : List Char) :
    p <:+: cs.dropWhile q ↔ p <:+: cs := by
  refine ⟨fun h => h.trans (List.dropWhile_suffix q).isInfix, fun h => ?_⟩
  induction cs with
  | nil => simpa using h
  | cons c cs ih =>
    by_cases hc : q c
    · rw [List.dropWhile_cons_of_pos hc]
      rcases List.infix_cons_iff.mp h with hfront | hrest
      · obtain ⟨d, hd, hq⟩ := hp
        cases p with
        | nil => cases hd
        | cons e p =>
          cases hd
          rw [(List.cons_prefix_cons.mp hfront).1, hc] at hq
          cases hq
      · exact ih hrest
    · rwa [List.dropWhile_cons_of_neg hc]

theorem exists_trimEnd_append (cs : List Char) :
    ∃ blanks, cs = trimEnd cs ++ blanks ∧ ∀ c ∈ blanks, isBlank c = true := by
  refine ⟨(cs.reverse.takeWhile isBlank).reverse, ?_, ?_⟩
  · rw [trimEnd, trimStart, ← List.reverse_append, List.takeWhile_append_dropWhile, List.reverse_reverse]
  · intro c hc
    exact List.all_eq_true.mp List.all_takeWhile c (List.mem_reverse.mp hc)

theorem prefix_trimEnd (cs : List Char) : trimEnd cs <+: cs := by
  obtain ⟨blanks, hcs, -⟩ := exists_trimEnd_append cs
  exact ⟨blanks, hcs.symm⟩

theorem infix_trim (cs : List Char) : trim cs <:+: cs :=
  (prefix_trimEnd (trimStart cs)).isInfix.trans (List.dropWhile_suffix isBlank).isInfix

theorem trim_eq_trimEnd {c : Char} {cs : List Char} (hfirst : cs.head? = some c) (hc : isBlank c = false) :
    trim cs = trimEnd cs := by
  obtain ⟨rest, rfl⟩ := List.head?_eq_some_iff.mp hfirst
  rw [trim, trimStart, List.dropWhile_cons_of_neg (by simp [hc])]

/-- Where a word stands that does not end in white space, it still stands when the text is cut at the end. -/
theorem stands_trimEnd_iff {p : List Char} (hlast : ∃ c ∈ p.getLast?, isBlank c = false) (cs : List Char) (i : Nat) :
    p <+: (trimEnd cs).drop i ↔ p <+: cs.drop i := by
  obtain ⟨blanks, hcs, hblank⟩ := exists_trimEnd_append cs
  generalize trimEnd cs = front at hcs ⊢
  subst hcs
  have hfront : front.drop i <+: (front ++ blanks).drop i := by
    rw [List.drop_append]
    exact List.prefix_append _ _
  refine ⟨fun h => h.trans hfront, fun h => ?_⟩
  obtain ⟨c, hc, hcblank⟩ := hlast
  have hpos : 0 < p.length := List.length_pos_iff.mpr (List.ne_nil_of_mem (List.mem_of_getLast? hc))
  refine List.prefix_of_prefix_length_le h hfront ?_
  rw [List.length_drop]
  refine Nat.le_of_not_lt fun hlong => ?_
  obtain ⟨after, hafter⟩ := h
  have hat : (front ++ blanks)[i + (p.length - 1)]? = some c := by
    rw [← List.getElem?_drop, ← hafter, List.getElem?_append_left (by omega), ← List.getLast?_eq_getElem?]
    exact hc
  rw [List.getElem?_append_right (by omega)] at hat
  rw [hblank c (List.mem_of_getElem? hat)] at hcblank
  cases hcblank

theorem occursIn_trim {p : List Char} (hfirst : ∃ c ∈ p.head?, isBlank c = false)
    (hlast : ∃ c ∈ p.getLast?, isBlank c = false) (cs : List Char) :
    occursIn p (trim cs) = occursIn p cs := by
  rw [Bool.eq_iff_iff, occursIn_iff, occursIn_iff, trim, trimEnd, trimStart, trimStart,
    ← List.reverse_infix, List.reverse_reverse, infix_dropWhile_iff (by simpa using hlast),
    List.reverse_infix, infix_dropWhile_iff hfirst]

theorem trimStart_blank_append {before : List Char} (h : ∀ c ∈ before, isBlank c = true) (cs : List Char) :
    trimStart (before ++ cs) = trimStart cs := List.dropWhile_append_of_pos h

theorem trimStart_append_of_visible {cs : List Char} (h : ∀ c ∈ cs, isBlank c = false) (hne : cs ≠ []) (after : List Char) :
    trimStart (cs ++ after) = cs ++ after := by
  obtain ⟨c, cs, rfl⟩ := List.exists_cons_of_ne_nil hne
  exact List.dropWhile_cons_of_neg (by simp [h c List.mem_cons_self])

theorem trim_of_margins {before cs after : List Char} (hbefore : ∀ c ∈ before, isBlank c = true)
    (hcs : ∀ c ∈ cs, isBlank c = false) (hne : cs ≠ []) (hafter : ∀ c ∈ after, isBlank c = true) :
    trim (before ++ cs ++ after) = cs := by
  have hreverse : ∀ c ∈ cs.reverse, isBlank c = false := fun c hc => hcs c (List.mem_reverse.mp hc)
  have hend := trimStart_append_of_visible hreverse (by simpa using hne) []
  rw [List.append_nil] at hend
  rw [trim, List.append_assoc, trimStart_blank_append hbefore, trimStart_append_of_visible hcs hne, trimEnd,
    List.reverse_append, trimStart_blank_append fun c hc => hafter c (List.mem_reverse.mp hc), hend, List.reverse_reverse]

end SnippetLab.Text
