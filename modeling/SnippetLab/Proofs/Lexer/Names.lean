import Mathlib.Data.List.Pairwise
import SnippetLab.Proofs.Lexer.Scope

/-! Declared names as words of their lines. A word goes on as long as it can, so a name that begins within a word
ends where the word ends. White space in front of a name, or a parenthesis, keeps it from beginning there. An
assigned name has neither: it may begin where the assignment before it ended, which is one character into the
value. -/
namespace SnippetLab

open SnippetLab.Text

namespace Text.Pattern

theorem eq_or_apart {p : Pattern α} {text : List Char} {m n : Match α} (hm : m ∈ p.findAll text)
    (hn : n ∈ p.findAll text) : m = n ∨ m.stop ≤ n.start ∨ n.stop ≤ m.start := by
  have hsymm : Std.Symm fun m n : Match α => m.stop ≤ n.start ∨ n.stop ≤ m.start := ⟨fun _ _ => Or.symm⟩
  have hpairs : (p.findAll text).Pairwise fun m n => m.stop ≤ n.start ∨ n.stop ≤ m.start :=
    (pairwise_findAll p text).imp Or.inl
  by_cases heq : m = n
  · exact .inl heq
  · exact .inr (hpairs.forall hm hn heq)

end Text.Pattern

namespace Lexer

/-! ### Words of a line -/

/-- An identifier that is not the front of a longer one. -/
structure WordAt (text : List Char) (start stop : Nat) : Prop where
  start_lt_stop : start < stop
  stop_le : stop ≤ text.length
  first : ∀ c, text[start]? = some c → startsIdentifier c = true
  later : ∀ i c, start ≤ i → i < stop → text[i]? = some c → continuesIdentifier c = true
  ends : ∀ c, text[stop]? = some c → continuesIdentifier c = false

/-- The words of a line, from left to right. -/
def words (line : List Char) : List String :=
  (identifier.findAll line).map fun w => slice line w.start w.stop

theorem exists_range_of_covers {ranges : Ranges} {n : Nat} (h : ranges.covers n = true) :
    ∃ range ∈ ranges, range.1 ≤ n ∧ n ≤ range.2 := by
  induction ranges with
  | nil => cases h
  | cons range ranges ih =>
    rw [Ranges.covers] at h
    split at h
    · next hle => exact ⟨range, List.mem_cons_self, of_decide_eq_true h, hle⟩
    · obtain ⟨later, hlater, hbounds⟩ := ih h
      exact ⟨later, List.mem_cons_of_mem _ hlater, hbounds⟩

theorem continuesIdentifier_of_isBlank {c : Char} (h : isBlank c = true) : continuesIdentifier c = false := by
  obtain ⟨range, hrange, hlow, hhigh⟩ := exists_range_of_covers h
  have hgaps : ∀ range ∈ blankRanges, range.2 < 45 ∨ 122 < range.1 ∧ range.2 < 1025 ∨ 1105 < range.1 := by decide
  have hgap := hgaps range hrange
  rw [← Bool.not_eq_true]
  intro hcontinues
  simp only [continuesIdentifier_eq, Bool.or_eq_true, startsIdentifier_iff, isDigit_iff, decide_eq_true_eq,
    ← Char.toNat_inj, show '-'.toNat = 45 from rfl] at hcontinues
  omega

variable {text : List Char} {start start' stop stop' i : Nat}

theorem wordAt_of_identifier? {word after : List Char} (h : identifier? (text.drop start) = some (word, after)) :
    WordAt text start (start + word.length) ∧ text.drop start = word ++ after := by
  cases hdrop : text.drop start with
  | nil =>
    rw [hdrop] at h
    cases h
  | cons c cs =>
    rw [hdrop, identifier?] at h
    split at h
    · next hstarts =>
      cases h
      have hwhole : c :: cs = (c :: cs.takeWhile continuesIdentifier) ++ cs.dropWhile continuesIdentifier := by simp
      have hat (k : Nat) : text[start + k]? = (c :: cs)[k]? := by rw [← List.getElem?_drop, hdrop]
      refine ⟨⟨by simp, ?_, ?_, ?_, ?_⟩, hwhole⟩
      · have hlength := congrArg List.length hdrop
        have htake := (List.takeWhile_prefix continuesIdentifier (l := cs)).length_le
        simp only [List.length_drop, List.length_cons] at hlength ⊢
        omega
      · intro d hd
        rw [← Nat.add_zero start, hat 0] at hd
        cases hd
        exact hstarts
      · intro i d hi hstop hd
        obtain ⟨k, rfl⟩ := Nat.exists_eq_add_of_le hi
        rw [hat k, hwhole, List.getElem?_append_left (by omega)] at hd
        rcases List.mem_cons.mp (List.mem_of_getElem? hd) with rfl | hmem
        · exact continuesIdentifier_of_starts hstarts
        · exact List.all_eq_true.mp List.all_takeWhile d hmem
      · intro d hd
        rw [hat, hwhole, List.getElem?_append_right (Nat.le_refl _), Nat.sub_self, ← List.head?_eq_getElem?] at hd
        have hnot := List.head?_dropWhile_not continuesIdentifier cs
        simpa [hd] using hnot
    · cases h

theorem append_of_identifier? {cs word after : List Char} (h : identifier? cs = some (word, after)) :
    cs = word ++ after := by
  rw [← List.drop_zero (l := cs)] at h
  rw [← (wordAt_of_identifier? h).2, List.drop_zero]

namespace WordAt

/-- A word that begins within another one ends with it. -/
theorem stop_eq (h : WordAt text start stop) (h' : WordAt text start' stop') (hle : start' ≤ start)
    (hlt : start < stop') : stop = stop' := by
  have hbound := h.stop_le
  have hbound' := h'.stop_le
  have hlt' := h.start_lt_stop
  rcases Nat.lt_trichotomy stop stop' with hless | heq | hless
  · have hc : text[stop]? = some text[stop] := List.getElem?_eq_getElem (by omega)
    have hlater := h'.later stop _ (by omega) hless hc
    rw [h.ends _ hc] at hlater
    cases hlater
  · exact heq
  · have hc : text[stop']? = some text[stop'] := List.getElem?_eq_getElem (by omega)
    have hlater := h.later stop' _ (by omega) hless hc
    rw [h'.ends _ hc] at hlater
    cases hlater

theorem identifier?_eq (h : WordAt text start stop) :
    identifier? (text.drop start) = some ((text.drop start).take (stop - start), text.drop stop) := by
  have hlt := h.start_lt_stop
  have hle := h.stop_le
  have hstarts : startsIdentifier text[start] = true := h.first _ (List.getElem?_eq_getElem (by omega))
  obtain ⟨word, after, hid⟩ : ∃ word after, identifier? (text.drop start) = some (word, after) := by
    rw [List.drop_eq_getElem_cons (by omega)]
    simp [identifier?, hstarts]
  obtain ⟨hword, hdrop⟩ := wordAt_of_identifier? hid
  have hstop : stop = start + word.length := h.stop_eq hword (Nat.le_refl start) hword.start_lt_stop
  have hafter : text.drop stop = after := by
    rw [hstop, ← List.drop_drop, hdrop, List.drop_left]
  rw [hid, hafter, hdrop, hstop, Nat.add_sub_cancel_left, List.take_left]

end WordAt

theorem wordAt_of_mem {w : Match Unit} (h : w ∈ identifier.findAll text) : WordAt text w.start w.stop := by
  have hof := Pattern.isOf_of_mem_findAll identifier_reads.advances h
  have hle := hof.stop_le
  obtain ⟨⟨word, after⟩, hid, hfound⟩ := Option.map_eq_some_iff.mp hof.holds
  cases hfound
  obtain ⟨hword, hdrop⟩ := wordAt_of_identifier? hid
  have hlength := congrArg List.length hdrop
  simp only [List.length_append, List.length_drop] at hlength
  have hlt := hof.start_lt_stop
  have hstop : w.stop = w.start + word.length := by omega
  rw [hstop]
  exact hword

/-- The scan passes no word, but it may have taken it for the end of a longer one. -/
theorem WordAt.exists_ending (h : WordAt text start stop) :
    ∃ w ∈ identifier.findAll text, w.start ≤ start ∧ w.stop = stop := by
  have hlt := h.start_lt_stop
  have hle := h.stop_le
  have hmatches : (identifier (text.take start).getLast? (text.drop start)).isSome := by
    simp [identifier, h.identifier?_eq]
  obtain ⟨w, hw, hstart, hstop⟩ :=
    Pattern.exists_covering_findAll identifier_reads.advances (by omega) hmatches
  exact ⟨w, hw, hstart, ((h.stop_eq (wordAt_of_mem hw) hstart hstop)).symm⟩

/-- Behind a character that no identifier goes on with, a word is a whole one. -/
theorem WordAt.mem_of_boundary (h : WordAt text (i + 1) stop) {c : Char} (hc : text[i]? = some c)
    (hboundary : continuesIdentifier c = false) : ⟨i + 1, stop, ()⟩ ∈ identifier.findAll text := by
  obtain ⟨w, hw, hstart, rfl⟩ := h.exists_ending
  have hlt := h.start_lt_stop
  have heq : w.start = i + 1 := by
    refine Nat.le_antisymm hstart (Nat.lt_of_not_le ?_)
    intro hle
    have hlater := (wordAt_of_mem hw).later i c hle (by omega) hc
    rw [hboundary] at hlater
    cases hlater
  rw [← heq]
  exact hw

variable {count : Nat} {p : Pattern String} {m : Match String}

/-! ### Patterns that begin with a word -/

/-- The pattern takes a word, which it yields, and then what `follow?` takes behind it. -/
def Leads (p : Pattern String) (follow? : List Char → Option (List Char)) : Prop :=
  ∀ before cs, p before cs =
    (identifier? cs).bind fun found => (follow? found.2).map fun rest => (String.ofList found.1, rest)

def colon? (after : List Char) : Option (List Char) :=
  match after.dropWhile isBlank with
  | ':' :: rest => some rest
  | _ => none

/-- The text behind an equals sign and the first character of the value. -/
def assigned? (after : List Char) : Option (List Char) :=
  match after.dropWhile isBlank with
  | '=' :: cs =>
    match cs.dropWhile isBlank with
    | c :: rest => if c ≠ '=' then some rest else if (cs.takeWhile isBlank).isEmpty then none else some (c :: rest)
    | [] => if cs.isEmpty then none else some []
  | _ => none

theorem parameterName_leads : Leads parameterName colon? := by
  intro before cs
  unfold parameterName colon?
  cases identifier? cs with
  | none => rfl
  | some found =>
    simp only [Option.bind_eq_bind, Option.bind_some]
    cases found.2.dropWhile isBlank with
    | nil => rfl
    | cons c rest => by_cases hcolon : c = ':' <;> simp [hcolon]

theorem assignment_leads : Leads assignment assigned? := by
  intro before cs
  unfold assignment assigned?
  cases identifier? cs with
  | none => rfl
  | some found =>
    simp only [Option.bind_eq_bind, Option.bind_some]
    cases found.2.dropWhile isBlank with
    | nil => rfl
    | cons c cs =>
      by_cases hequals : c = '='
      · subst hequals
        cases hvalue : cs.dropWhile isBlank with
        | nil => by_cases hnil : cs = [] <;> simp [hvalue, hnil]
        | cons d rest =>
          by_cases hsecond : d = '=' <;> by_cases hblank : (cs.takeWhile isBlank).isEmpty = true <;>
            simp [hvalue, hsecond, hblank]
      · simp [hequals]

/-- Whatever is taken ends with so many characters behind one that no identifier goes on with. -/
def Stops (follow? : List Char → Option (List Char)) (count : Nat) : Prop :=
  ∀ after rest, follow? after = some rest →
    ∃ front c value, after = front ++ c :: (value ++ rest) ∧ value.length = count ∧ continuesIdentifier c = false

theorem colon?_stops : Stops colon? 0 := by
  intro after rest h
  unfold colon? at h
  split at h
  · next hdrop =>
    cases h
    refine ⟨after.takeWhile isBlank, ':', [], ?_, rfl, rfl⟩
    rw [List.nil_append, ← hdrop, List.takeWhile_append_dropWhile]
  · cases h

theorem exists_split_of_blanks (gap : List Char) {blanks : List Char} (value : Char) (rest : List Char)
    (h : ∀ c ∈ blanks, isBlank c = true) : ∃ front c last, gap ++ '=' :: (blanks ++ value :: rest) =
      front ++ c :: (last ++ rest) ∧ last.length = 1 ∧ continuesIdentifier c = false := by
  have hne : '=' :: blanks ≠ [] := List.cons_ne_nil '=' blanks
  refine ⟨gap ++ ('=' :: blanks).dropLast, ('=' :: blanks).getLast hne, [value], ?_, rfl, ?_⟩
  · calc gap ++ '=' :: (blanks ++ value :: rest) = gap ++ ('=' :: blanks) ++ value :: rest := by simp
      _ = gap ++ (('=' :: blanks).dropLast ++ [('=' :: blanks).getLast hne]) ++ value :: rest := by
        rw [List.dropLast_concat_getLast]
      _ = gap ++ ('=' :: blanks).dropLast ++ ('=' :: blanks).getLast hne :: ([value] ++ rest) := by simp
  · rcases List.mem_cons.mp (List.getLast_mem hne) with hequals | hblank
    · rw [hequals]
      rfl
    · exact continuesIdentifier_of_isBlank (h _ hblank)

/-- The one character is the first of the value, or white space if nothing but a second equals sign follows it. -/
theorem assigned?_stops : Stops assigned? 1 := by
  intro after rest h
  unfold assigned? at h
  split at h
  · next cs hdrop =>
    have hafter : after = after.takeWhile isBlank ++ '=' :: cs := by
      rw [← hdrop, List.takeWhile_append_dropWhile]
    have hcs : cs.takeWhile isBlank ++ cs.dropWhile isBlank = cs := List.takeWhile_append_dropWhile
    have hblank : ∀ c ∈ cs.takeWhile isBlank, isBlank c = true := List.all_eq_true.mp List.all_takeWhile
    rw [hafter]
    have hspare (hne : cs.takeWhile isBlank ≠ []) : ∃ front c last, after.takeWhile isBlank ++ '=' :: cs =
        front ++ c :: (last ++ cs.dropWhile isBlank) ∧ last.length = 1 ∧ continuesIdentifier c = false := by
      have hsplit := exists_split_of_blanks (after.takeWhile isBlank) ((cs.takeWhile isBlank).getLast hne)
        (cs.dropWhile isBlank) fun c hc => hblank c ((List.dropLast_sublist _).subset hc)
      rwa [List.append_cons (cs.takeWhile isBlank).dropLast, List.dropLast_concat_getLast, hcs] at hsplit
    split at h
    · next c left hfirst =>
      have hsplit := exists_split_of_blanks (after.takeWhile isBlank) c left hblank
      rw [← hfirst, hcs] at hsplit
      split at h
      · cases h
        exact hsplit
      · split at h
        · cases h
        · next hne =>
          cases h
          rw [← hfirst]
          exact hspare (by simpa using hne)
    · next hnone =>
      split at h
      · cases h
      · next hne =>
        cases h
        rw [hnone, List.append_nil] at hcs
        rw [← hnone]
        exact hspare (by rw [hcs]; simpa using hne)
  · cases h

/-- What a match of such a pattern takes: a word, and then characters of which the one in front of the last
`count` belongs to no identifier. -/
structure Leading (text : List Char) (count : Nat) (m : Match String) (stop : Nat) : Prop where
  word : WordAt text m.start stop
  value_eq : m.value = slice text m.start stop
  boundary : ∃ i c, stop ≤ i ∧ i + count + 1 = m.stop ∧ text[i]? = some c ∧ continuesIdentifier c = false

theorem slice_of_identifier? {word after : List Char} (h : identifier? (text.drop start) = some (word, after)) :
    slice text start (start + word.length) = String.ofList word := by
  rw [slice, (wordAt_of_identifier? h).2, Nat.add_sub_cancel_left, List.take_left]

section Leads

variable {follow? : List Char → Option (List Char)}

theorem Leads.eq_some (hp : Leads p follow?) {before : Option Char} {cs rest : List Char} {value : String}
    (h : p before cs = some (value, rest)) :
    ∃ word after, identifier? cs = some (word, after) ∧ follow? after = some rest ∧ value = String.ofList word := by
  rw [hp] at h
  obtain ⟨⟨word, after⟩, hid, hfollow⟩ := Option.bind_eq_some_iff.mp h
  obtain ⟨rest, hrest, heq⟩ := Option.map_eq_some_iff.mp hfollow
  cases heq
  exact ⟨word, after, hid, hrest, rfl⟩

theorem Leads.advances (hp : Leads p follow?) (hstops : Stops follow? count) : p.Advances := by
  intro before cs value rest h
  obtain ⟨word, after, hid, hfollow, -⟩ := hp.eq_some h
  obtain ⟨front, c, last, rfl, -, -⟩ := hstops after rest hfollow
  have hsplit := append_of_identifier? hid
  subst hsplit
  constructor
  · exact ⟨word ++ front ++ c :: last, by simp⟩
  · simp only [List.length_append, List.length_cons]
    omega

theorem Leads.leading (hp : Leads p follow?) (hstops : Stops follow? count) (hm : m ∈ p.findAll text) :
    ∃ stop, Leading text count m stop ∧ follow? (text.drop stop) = some (text.drop m.stop) := by
  have hof := Pattern.isOf_of_mem_findAll (hp.advances hstops) hm
  have hlt := hof.start_lt_stop
  have hle := hof.stop_le
  obtain ⟨word, after, hid, hfollow, hvalue⟩ := hp.eq_some hof.holds
  obtain ⟨hword, hdrop⟩ := wordAt_of_identifier? hid
  have hafter : text.drop (m.start + word.length) = after := by
    rw [← List.drop_drop, hdrop, List.drop_left]
  rw [← hafter] at hfollow
  refine ⟨m.start + word.length, ⟨hword, by rw [hvalue, slice_of_identifier? hid], ?_⟩, hfollow⟩
  obtain ⟨front, c, last, hsplit, hlast, hc⟩ := hstops _ _ hfollow
  have hlength := congrArg List.length hsplit
  simp only [List.length_append, List.length_cons, List.length_drop] at hlength
  refine ⟨m.start + word.length + front.length, c, Nat.le_add_right _ _, ?_, ?_, hc⟩
  · have := hword.stop_le
    omega
  · rw [← List.getElem?_drop, hsplit, List.getElem?_append_right (Nat.le_refl _), Nat.sub_self]
    rfl

/-- Where the word of a match is the end of a longer one, the scan has passed that with a match before. -/
theorem Leads.exists_before (hp : Leads p follow?) (hstops : Stops follow? count) (hm : m ∈ p.findAll text)
    (hword : WordAt text m.start stop) (hlonger : WordAt text start stop) (hlt : start < m.start) :
    ∃ n ∈ p.findAll text, start < n.stop ∧ n.stop ≤ start + count ∧ n.stop ≤ m.start := by
  obtain ⟨stop', hleading, hfollow⟩ := hp.leading hstops hm
  have hstop := hleading.word.stop_eq hword (Nat.le_refl _) hword.start_lt_stop
  subst hstop
  have hbound := hlonger.stop_le
  have hlt' := hlonger.start_lt_stop
  have hmatches : (p (text.take start).getLast? (text.drop start)).isSome := by
    rw [hp, hlonger.identifier?_eq, Option.bind_some, hfollow]
    rfl
  obtain ⟨n, hn, hnstart, hnstop⟩ := Pattern.exists_covering_findAll (hp.advances hstops) (by omega) hmatches
  have hapart : n.stop ≤ m.start := by
    rcases Pattern.eq_or_apart hn hm with rfl | h | h
    · omega
    · exact h
    · have := (Pattern.isOf_of_mem_findAll (hp.advances hstops) hm).start_lt_stop
      omega
  refine ⟨n, hn, hnstop, ?_, hapart⟩
  obtain ⟨_, hbefore, -⟩ := hp.leading hstops hn
  obtain ⟨i, c, -, hi, hc, hboundary⟩ := hbefore.boundary
  by_cases hinside : start ≤ i
  · have hlater := hlonger.later i c hinside (by have := hword.start_lt_stop; omega) hc
    rw [hboundary] at hlater
    cases hlater
  · omega

end Leads

/-! ### Declarations by a word in front -/

theorem declaration_eq_some {word : String} {close : Char} {before : Option Char} {cs rest : List Char}
    {value : String} (h : declaration word close before cs = some (value, rest)) :
    ∃ front c left name after, cs = front ++ c :: left ∧ isBlank c = true ∧ identifier? left = some (name, after) ∧
      value = String.ofList name ∧ after.dropWhile isBlank = close :: rest := by
  simp only [declaration, Option.bind_eq_bind, Option.bind_eq_some_iff] at h
  obtain ⟨behind, hafter, ⟨blanks, left⟩, hblanks, ⟨name, after⟩, hid, hclosed⟩ := h
  obtain ⟨rfl, hne, hall⟩ := some?_append hblanks
  refine ⟨word.toList ++ blanks.dropLast, blanks.getLast hne, left, name, after, ?_, ?_, hid, ?_⟩
  · rw [after?_eq_some_iff.mp hafter, List.append_assoc, List.append_cons blanks.dropLast,
      List.dropLast_concat_getLast hne]
  · exact hall _ (List.getLast_mem hne)
  · split at hclosed
    · next hdrop =>
      split at hclosed
      · next hclose =>
        cases hclosed
        exact ⟨rfl, by rw [hdrop, hclose]⟩
      · cases hclosed
    · cases hclosed

theorem declaration_advances (word : String) (close : Char) : (declaration word close).Advances := by
  intro before cs value rest h
  obtain ⟨front, c, left, name, after, rfl, -, hid, -, hclosed⟩ := declaration_eq_some h
  have hleft := append_of_identifier? hid
  have hsuffix : close :: rest <:+ left := by
    rw [hleft, ← hclosed]
    exact (List.dropWhile_suffix _).trans (List.suffix_append _ _)
  have hrest : rest <:+ left := (List.suffix_cons close rest).trans hsuffix
  refine ⟨hrest.trans ((List.suffix_cons c left).trans (List.suffix_append _ _)), ?_⟩
  have hlength := hrest.length_le
  simp only [List.length_append, List.length_cons]
  omega

theorem mem_words_of_declaration {word : String} {close : Char} {full : List Char} {name : String}
    (h : name ∈ (declaration word close).values full) : name ∈ words full := by
  obtain ⟨m, hm, rfl⟩ := List.mem_map.mp h
  have hof := Pattern.isOf_of_mem_findAll (declaration_advances word close) hm
  obtain ⟨front, c, left, name, after, hdrop, hblank, hid, hvalue, -⟩ := declaration_eq_some hof.holds
  have hc : full[m.start + front.length]? = some c := by
    rw [← List.getElem?_drop, hdrop, List.getElem?_append_right (Nat.le_refl _), Nat.sub_self]
    rfl
  have hleft : full.drop (m.start + front.length + 1) = left := by
    rw [Nat.add_assoc, ← List.drop_drop, hdrop, ← List.drop_drop, List.drop_left]
    rfl
  rw [← hleft] at hid
  have hmem := (wordAt_of_identifier? hid).1.mem_of_boundary hc (continuesIdentifier_of_isBlank hblank)
  rw [hvalue, ← slice_of_identifier? hid]
  exact List.mem_map.mpr ⟨_, hmem, rfl⟩

/-! ### Parameters of a group -/

section Inside

variable {inside back : List Char} {offset : Nat}

theorem getElem?_inside (hinside : text.drop offset = inside ++ back) {i : Nat} (hi : i < inside.length) :
    text[offset + i]? = inside[i]? := by
  rw [← List.getElem?_drop, hinside, List.getElem?_append_left hi]

/-- A word within a stretch of a text is one of the text if the text breaks off there as well. -/
theorem WordAt.outward (hinside : text.drop offset = inside ++ back)
    (hback : ∀ c, back.head? = some c → continuesIdentifier c = false) (h : WordAt inside start stop) :
    WordAt text (offset + start) (offset + stop) := by
  have hlt := h.start_lt_stop
  have hle := h.stop_le
  have hlength := congrArg List.length hinside
  simp only [List.length_append, List.length_drop] at hlength
  refine ⟨by omega, by omega, ?_, ?_, ?_⟩
  · intro c hc
    rw [getElem?_inside hinside (by omega)] at hc
    exact h.first c hc
  · intro i c hi hstop hc
    obtain ⟨k, rfl⟩ := Nat.exists_eq_add_of_le (Nat.le_trans (Nat.le_add_right offset start) hi)
    rw [getElem?_inside hinside (by omega)] at hc
    exact h.later k c (by omega) (by omega) hc
  · intro c hc
    rcases Nat.lt_or_eq_of_le hle with hless | rfl
    · rw [getElem?_inside hinside hless] at hc
      exact h.ends c hc
    · rw [← List.getElem?_drop, hinside, List.getElem?_append_right (Nat.le_refl _), Nat.sub_self,
        ← List.head?_eq_getElem?] at hc
      exact hback c hc

theorem WordAt.inward (hinside : text.drop offset = inside ++ back) (hle : stop ≤ inside.length)
    (h : WordAt text (offset + start) (offset + stop)) : WordAt inside start stop := by
  have hlt := h.start_lt_stop
  refine ⟨by omega, hle, ?_, ?_, ?_⟩
  · intro c hc
    rw [← getElem?_inside hinside (by omega)] at hc
    exact h.first c hc
  · intro i c hi hstop hc
    rw [← getElem?_inside hinside (by omega)] at hc
    exact h.later _ c (by omega) (by omega) hc
  · intro c hc
    obtain ⟨hless, -⟩ := List.getElem?_eq_some_iff.mp hc
    rw [← getElem?_inside hinside hless] at hc
    exact h.ends c hc

end Inside

theorem parameterGroup_advances : parameterGroup.Advances := by
  intro before cs inside rest h
  rw [parameterGroup_eq_some h]
  constructor
  · exact ⟨'(' :: (inside ++ [')']), by simp⟩
  · simp only [List.length_cons, List.length_append]
    omega

theorem mem_words_of_parameter {full inside : List Char} {name : String} (hgroup : inside ∈ parameterGroup.values full)
    (h : name ∈ parameterName.values inside) : name ∈ words full := by
  obtain ⟨g, hg, rfl⟩ := List.mem_map.mp hgroup
  obtain ⟨m, hm, rfl⟩ := List.mem_map.mp h
  have hof := Pattern.isOf_of_mem_findAll parameterGroup_advances hg
  have hdrop := parameterGroup_eq_some hof.holds
  have hinside : full.drop (g.start + 1) = g.value ++ ')' :: full.drop g.stop := by
    rw [← List.drop_drop, hdrop]
    rfl
  have hopen : full[g.start]? = some '(' := by
    rw [← Nat.add_zero g.start, ← List.getElem?_drop, hdrop]
    rfl
  obtain ⟨stop, hleading, -⟩ := parameterName_leads.leading colon?_stops hm
  have hbound := hleading.word.stop_le
  have hword : WordAt full (g.start + 1 + m.start) (g.start + 1 + stop) :=
    hleading.word.outward hinside (by rintro c ⟨⟩; rfl)
  obtain ⟨w, hw, hstart, hstop⟩ := hword.exists_ending
  have hlt := hword.start_lt_stop
  -- The parenthesis bounds the word on its left, and no match in the group may have ended within it.
  have hwithin : g.start + 1 ≤ w.start := by
    refine Nat.lt_of_not_le ?_
    intro hle
    have hlater := (wordAt_of_mem hw).later g.start '(' hle (by omega) hopen
    cases hlater
  have heq : w.start = g.start + 1 + m.start := by
    refine Nat.le_antisymm hstart (Nat.le_of_not_lt ?_)
    intro hless
    obtain ⟨k, hk⟩ := Nat.exists_eq_add_of_le hwithin
    have hlonger := wordAt_of_mem hw
    rw [hk, hstop] at hlonger
    obtain ⟨n, -, hafter, hbefore, -⟩ :=
      parameterName_leads.exists_before colon?_stops hm hleading.word (hlonger.inward hinside hbound) (by omega)
    omega
  have hslice : m.value = slice full w.start w.stop := by
    rw [hleading.value_eq, heq, hstop, slice, slice, ← List.drop_drop, hinside, List.drop_append_of_le_length (by omega),
      List.take_append_of_le_length (by rw [List.length_drop]; omega), Nat.add_sub_add_left]
  rw [hslice]
  exact List.mem_map.mpr ⟨w, hw, rfl⟩

/-! ### Assigned names -/

/-- The name is a word of the line. -/
def IsWhole (line : List Char) (m : Match String) : Prop :=
  ∃ w ∈ identifier.findAll line, w.start = m.start ∧ m.value = slice line w.start w.stop

/-- The name is the end of a word, of which an assignment has taken the first character for its value. -/
def IsLeftOver (line : List Char) (m : Match String) : Prop :=
  ∃ n ∈ assignment.findAll line, ∃ w ∈ identifier.findAll line,
    n.stop = w.start + 1 ∧ n.stop ≤ m.start ∧ m.start < w.stop ∧ m.value = slice line m.start w.stop

theorem isWhole_or_isLeftOver {line : List Char} (hm : m ∈ assignment.findAll line) :
    IsWhole line m ∨ IsLeftOver line m := by
  obtain ⟨stop, hleading, -⟩ := assignment_leads.leading assigned?_stops hm
  obtain ⟨w, hw, hstart, rfl⟩ := hleading.word.exists_ending
  rcases Nat.lt_or_eq_of_le hstart with hless | heq
  · obtain ⟨n, hn, hafter, hbefore, hapart⟩ :=
      assignment_leads.exists_before assigned?_stops hm hleading.word (wordAt_of_mem hw) hless
    exact .inr ⟨n, hn, w, hw, by omega, hapart, hleading.word.start_lt_stop, hleading.value_eq⟩
  · exact .inl ⟨w, hw, heq, by rw [hleading.value_eq, heq]⟩

theorem not_isWhole_of_isLeftOver {line : List Char} (h : IsLeftOver line m) : ¬IsWhole line m := by
  obtain ⟨n, -, w, hw, hstop, hle, hlt, -⟩ := h
  rintro ⟨w', hw', hstart, -⟩
  have hlt' := (wordAt_of_mem hw').start_lt_stop
  rcases Pattern.eq_or_apart hw hw' with rfl | h | h <;> omega

end Lexer

open Lexer

/-- **Which declared names are words.** The names of functions and of parameters are words of some line, and so
are those of variables, but for what an assignment leaves of a word if it takes the first character of it for its
value: in such a chain, and only there, the end of the word counts as the next name. -/
theorem Declarations.declared_words (source : String) :
    let names := Declarations.ofSource source
    (∀ name, name ∈ names.functions ∨ name ∈ names.parameters →
      ∃ line ∈ source.toList.splitOn '\n', name ∈ words line) ∧
    (∀ name ∈ names.variableNames, ∃ line ∈ source.toList.splitOn '\n',
      name ∈ words line ∨ ∃ m ∈ assignment.findAll line, m.value = name ∧ IsLeftOver line m) ∧
    ∀ line ∈ source.toList.splitOn '\n', ∀ m ∈ assignment.findAll line, IsLeftOver line m ↔ ¬IsWhole line m := by
  intro names
  refine ⟨?_, ?_, ?_⟩
  · rintro name (hname | hname)
    · obtain ⟨line, hline, hmem⟩ := mem_functions_ofSource.mp hname
      exact ⟨line, hline, mem_words_of_declaration hmem⟩
    · obtain ⟨line, hline, hmem⟩ := mem_parameters_ofSource.mp hname
      obtain ⟨inside, hgroup, hmem⟩ := List.mem_flatMap.mp hmem
      exact ⟨line, hline, mem_words_of_parameter hgroup hmem⟩
  · intro name hname
    obtain ⟨line, hline, hmem⟩ := mem_variableNames_ofSource.mp hname
    refine ⟨line, hline, ?_⟩
    rcases List.mem_append.mp hmem with hdeclared | hassigned
    · exact .inl (mem_words_of_declaration hdeclared)
    · obtain ⟨m, hm, rfl⟩ := List.mem_map.mp (List.mem_filter.mp hassigned).1
      rcases isWhole_or_isLeftOver hm with ⟨w, hw, -, hvalue⟩ | hleft
      · exact .inl (hvalue ▸ List.mem_map.mpr ⟨w, hw, rfl⟩)
      · exact .inr ⟨m, hm, rfl, hleft⟩
  · intro line _ m hm
    exact ⟨not_isWhole_of_isLeftOver, fun h => (isWhole_or_isLeftOver hm).resolve_left h⟩

/-- A function, its parameter and what the first of two assignments leaves of the second name. -/
theorem Declarations.declared_words_chained :
    let source := "фн ф(п: Цел64)\nа=бв=1"
    let names := Declarations.ofSource source
    let chain := "а=бв=1".toList
    let m : Match String := ⟨3, 6, "в"⟩
    (("ф" ∈ names.functions ∧ "п" ∈ names.parameters) ∧
      (∃ line ∈ source.toList.splitOn '\n', "ф" ∈ words line) ∧ ∃ line ∈ source.toList.splitOn '\n', "п" ∈ words line) ∧
    ("в" ∈ names.variableNames ∧ ∃ line ∈ source.toList.splitOn '\n',
      "в" ∈ words line ∨ ∃ m ∈ assignment.findAll line, m.value = "в" ∧ IsLeftOver line m) ∧
    (chain ∈ source.toList.splitOn '\n' ∧ m ∈ assignment.findAll chain ∧ (IsLeftOver chain m ↔ ¬IsWhole chain m)) := by
  intro source names chain m
  obtain ⟨hsignatures, hvariables, hexact⟩ := Declarations.declared_words source
  have hfunction : "ф" ∈ names.functions := by decide +kernel
  have hparameter : "п" ∈ names.parameters := by decide +kernel
  have hvariable : "в" ∈ names.variableNames := by decide +kernel
  have hchain : chain ∈ source.toList.splitOn '\n' := by decide +kernel
  have hm : m ∈ assignment.findAll chain := by decide +kernel
  exact ⟨⟨⟨hfunction, hparameter⟩, hsignatures _ (.inl hfunction), hsignatures _ (.inr hparameter)⟩,
    ⟨hvariable, hvariables _ hvariable⟩, hchain, hm, hexact chain hchain m hm⟩

/-- The first of two assignments takes the first letter of `бв`, and the second one has the other for its name. -/
theorem Declarations.remainder_declared :
    let source := "а=бв=1"
    "в" ∈ (Declarations.ofSource source).variableNames ∧
      ∀ line ∈ source.toList.splitOn '\n', "в" ∉ words line := by
  decide +kernel

end SnippetLab
