import SnippetLab.Regex.Reader
import SnippetLab.Regex.Search
import SnippetLab.Proofs.Except
import Mathlib.Data.List.Basic
import Mathlib.Data.Nat.Bitwise

/-!
What a regular expression matches, apart from how matches are found. Following all ways at once, by sets of places,
finds a match exactly if there is one.
-/
namespace SnippetLab

/-- The set has the character. No character of a text is a stray octet, so that every one is in the set of all. -/
def CharSet.Admits (s : CharSet) (c : Char) : Prop := s = .any ∨ s.contains c = true

theorem CharSet.admits_iff {s : CharSet} {c : Char} (h : Text.Wide.isStray c = false) :
    s.Admits c ↔ s.contains c = true := by
  constructor
  · rintro (rfl | hc)
    · simp [contains, h]
    · exact hc
  · exact .inr

theorem CharSet.admits_single {c d : Char} : (single c).Admits d ↔ d = c := by
  simp only [Admits, single, contains, List.any_cons, List.any_nil, Bool.or_false, reduceCtorEq, false_or,
    Bool.false_eq_true, if_false, Bool.and_eq_true, decide_eq_true_eq]
  constructor
  · rintro ⟨hc, hd⟩
    exact Char.le_antisymm hd hc
  · rintro rfl
    exact ⟨Char.le_refl d, Char.le_refl d⟩

namespace Regex

def Iterated (R : Nat → Nat → Prop) : Nat → Nat → Nat → Prop
  | 0, i, j => i = j
  | n + 1, i, k => ∃ j, R i j ∧ Iterated R n j k

/-- The expression matches what stands between two places of a text. A back reference, of which extended
expressions have none, matches nothing. -/
def Spans (s : Subject) : Regex → Nat → Nat → Prop
  | .empty, i, j => i = j
  | .one set, i, j => j = i + 1 ∧ ∃ c, s.text[i]? = some c ∧ set.Admits c
  | .assertion a, i, j => i = j ∧ s.holds i a = true
  | .seq a b, i, k => ∃ j, a.Spans s i j ∧ b.Spans s j k
  | .alt a b, i, j => a.Spans s i j ∨ b.Spans s i j
  | .loop r least most, i, j => ∃ n, least ≤ n ∧ (∀ m ∈ most, n ≤ max least m) ∧ Iterated (r.Spans s) n i j
  | .group _ r, i, j => r.Spans s i j
  | .back _, _, _ => False

def Denotes (r : Regex) (cs : List Char) : Prop := r.Spans { text := cs.toArray } 0 cs.length

def Finds (r : Regex) (cs : List Char) : Prop := ∃ i ≤ cs.length, ∃ j, r.Spans { text := cs.toArray } i j

/-! ### Steps -/

section Steps

variable {R : Nat → Nat → Prop} {i j k m n size : Nat}

theorem iterated_add : Iterated R (m + n) i k ↔ ∃ j, Iterated R m i j ∧ Iterated R n j k := by
  induction m generalizing i with
  | zero => simp [Iterated]
  | succ m ih =>
    rw [Nat.add_right_comm]
    simp only [Iterated, ih]
    constructor
    · rintro ⟨j, hj, j', hj', hk⟩
      exact ⟨j', ⟨j, hj, hj'⟩, hk⟩
    · rintro ⟨j', ⟨j, hj, hj'⟩, hk⟩
      exact ⟨j, hj, j', hj', hk⟩

theorem iterated_one : Iterated R 1 i j ↔ R i j := by simp [Iterated]

/-- Steps within a text that do not go back. -/
def IsForward (size : Nat) (R : Nat → Nat → Prop) : Prop := ∀ ⦃i j⦄, i ≤ size → R i j → i ≤ j ∧ j ≤ size

theorem IsForward.iterated (h : IsForward size R) (n : Nat) : IsForward size (Iterated R n) := by
  induction n with
  | zero =>
    rintro i j hi rfl
    exact ⟨Nat.le_refl i, hi⟩
  | succ n ih =>
    rintro i k hi ⟨j, hij, hjk⟩
    obtain ⟨hle, hj⟩ := h hi hij
    obtain ⟨hle', hk⟩ := ih hj hjk
    exact ⟨Nat.le_trans hle hle', hk⟩

/-- Steps that stay where they are can be left out. -/
theorem IsForward.exists_short (h : IsForward size R) (hi : i ≤ size) (hsteps : Iterated R n i j) :
    ∃ m ≤ j - i, Iterated R m i j := by
  induction n generalizing i with
  | zero => exact ⟨0, Nat.zero_le _, hsteps⟩
  | succ n ih =>
    obtain ⟨i', hstep, hrest⟩ := hsteps
    obtain ⟨hle, hi'⟩ := h hi hstep
    obtain ⟨m, hm, hshort⟩ := ih hi' hrest
    have hj := (h.iterated m hi' hshort).1
    obtain rfl | hlt := Nat.eq_or_lt_of_le hle
    · exact ⟨m, hm, hshort⟩
    · exact ⟨m + 1, by omega, i', hstep, hshort⟩

theorem isForward_spans (s : Subject) (r : Regex) : IsForward s.size (r.Spans s) := by
  induction r with
  | empty =>
    rintro i j hi rfl
    exact ⟨Nat.le_refl i, hi⟩
  | one set =>
    rintro i j - ⟨rfl, c, hc, -⟩
    obtain ⟨hlt, -⟩ := Array.getElem?_eq_some_iff.mp hc
    exact ⟨Nat.le_succ i, hlt⟩
  | assertion a =>
    rintro i j hi ⟨rfl, -⟩
    exact ⟨Nat.le_refl i, hi⟩
  | seq a b iha ihb =>
    rintro i k hi ⟨j, ha, hb⟩
    obtain ⟨hle, hj⟩ := iha hi ha
    obtain ⟨hle', hk⟩ := ihb hj hb
    exact ⟨Nat.le_trans hle hle', hk⟩
  | alt a b iha ihb => exact fun i j hi h => h.elim (iha hi) (ihb hi)
  | loop r least most ih => exact fun i j hi ⟨n, _, _, h⟩ => ih.iterated n hi h
  | group n r ih => exact ih
  | back n => exact fun i j _ h => h.elim

end Steps

/-! ### Sets of places -/

namespace Places

variable {p q : Places} {i j : Nat}

@[simp] theorem contains_or : Places.contains (p ||| q) i = (p.contains i || q.contains i) := Nat.testBit_or ..

@[simp] theorem contains_and : Places.contains (p &&& q) i = (p.contains i && q.contains i) := Nat.testBit_and ..

@[simp] theorem contains_xor : Places.contains (p ^^^ q) i = (p.contains i ^^ q.contains i) := Nat.testBit_xor ..

theorem contains_shiftLeft_one : Places.contains (p <<< 1) j = true ↔ ∃ i, p.contains i = true ∧ j = i + 1 := by
  rw [contains, Nat.testBit_shiftLeft, Bool.and_eq_true, decide_eq_true_eq]
  constructor
  · rintro ⟨hpos, h⟩
    exact ⟨j - 1, h, by omega⟩
  · rintro ⟨i, hi, rfl⟩
    exact ⟨Nat.succ_pos i, hi⟩

theorem isEmpty_iff : p.isEmpty = true ↔ ∀ i, p.contains i = false := by
  rw [isEmpty, decide_eq_true_eq]
  refine ⟨fun h i => by rw [h]; exact Nat.zero_testBit i, fun h => Nat.eq_of_testBit_eq fun i => ?_⟩
  rw [Nat.zero_testBit]
  exact h i

theorem contains_upTo (size : Nat) : Places.contains (single (size + 1) - 1) i = true ↔ i ≤ size := by
  rw [contains, single, Nat.one_shiftLeft, Nat.testBit_two_pow_sub_one, decide_eq_true_eq, Nat.lt_succ_iff]

theorem testBit_foldr (holds : Nat → Bool) (l : List Nat) (i : Nat) :
    (l.foldr (fun i p => if holds i then 2 * p + 1 else 2 * p) 0).testBit i = (l[i]?).any holds := by
  induction l generalizing i with
  | nil => simp
  | cons x l ih =>
    rw [List.foldr_cons]
    cases i with
    | zero => by_cases hx : holds x <;> simp [hx, Nat.testBit_zero]
    | succ i =>
      rw [Nat.testBit_succ, List.getElem?_cons_succ, ← ih]
      congr 1
      split <;> omega

theorem contains_ofPredicate (greatest : Nat) (holds : Nat → Bool) :
    (ofPredicate greatest holds).contains i = true ↔ i ≤ greatest ∧ holds i = true := by
  rw [contains, ofPredicate, testBit_foldr]
  by_cases hi : i ≤ greatest
  · rw [List.getElem?_range (Nat.lt_succ_of_le hi)]
    simp [hi]
  · rw [List.getElem?_eq_none (by simp; omega)]
    simp [hi]

def Within (size : Nat) (p : Places) : Prop := ∀ i, p.contains i = true → i ≤ size

end Places

/-! ### Following all ways at once -/

section Ways

open Places

variable {R : Nat → Nat → Prop} {f : Places → Places} {p start all last : Places} {size rounds m i j : Nat}

/-- It goes from the places of a set to all those that a step leads to. -/
def Follows (size : Nat) (f : Places → Places) (R : Nat → Nat → Prop) : Prop :=
  ∀ ⦃p⦄, Within size p → ∀ j, (f p).contains j = true ↔ ∃ i, p.contains i = true ∧ R i j

theorem Follows.within (h : Follows size f R) (hR : IsForward size R) (hp : Within size p) : Within size (f p) := by
  intro j hj
  obtain ⟨i, hi, hstep⟩ := (h hp j).mp hj
  exact (hR (hp i hi) hstep).2

theorem follows_gate (size : Nat) (holds : Nat → Bool) :
    Follows size (Plan.advance size (.gate (ofPredicate size holds))) fun i j => i = j ∧ holds i = true := by
  intro p hp j
  rw [Plan.advance, contains_and, Bool.and_eq_true, contains_ofPredicate]
  constructor
  · rintro ⟨hj, -, hholds⟩
    exact ⟨j, hj, rfl, hholds⟩
  · rintro ⟨i, hi, rfl, hholds⟩
    exact ⟨hi, hp i hi, hholds⟩

theorem follows_step (size : Nat) (holds : Nat → Bool) :
    Follows size (Plan.advance size (.step (ofPredicate size holds))) fun i j => j = i + 1 ∧ holds i = true := by
  intro p hp j
  rw [Plan.advance, contains_shiftLeft_one]
  refine exists_congr fun i => ?_
  rw [contains_and, Bool.and_eq_true, contains_ofPredicate]
  constructor
  · rintro ⟨⟨hi, -, hholds⟩, rfl⟩
    exact ⟨hi, rfl, hholds⟩
  · rintro ⟨hi, rfl, hholds⟩
    exact ⟨⟨hi, hp i hi, hholds⟩, rfl⟩

theorem follows_times (h : Follows size f R) (hR : IsForward size R) (n : Nat) :
    Follows size (Plan.times f n) (Iterated R n) := by
  induction n with
  | zero =>
    intro p hp j
    simp [Plan.times, Iterated]
  | succ n ih =>
    intro p hp j
    rw [Plan.times]
    split
    · next hempty => simp [isEmpty_iff.mp hempty]
    · rw [ih (h.within hR hp)]
      simp only [h hp, Iterated]
      constructor
      · rintro ⟨i', ⟨i, hi, hstep⟩, hrest⟩
        exact ⟨i, hi, i', hstep, hrest⟩
      · rintro ⟨i, hi, i', hstep, hrest⟩
        exact ⟨i', ⟨i, hi, hstep⟩, hrest⟩

def Near (R : Nat → Nat → Prop) (start : Places) (m j : Nat) : Prop :=
  ∃ n ≤ m, ∃ i, start.contains i = true ∧ Iterated R n i j

theorem near_zero : Near R start 0 j ↔ start.contains j = true := by simp [Near, Iterated]

theorem near_succ : Near R start (m + 1) j ↔ Near R start m j ∨ ∃ i, Near R start m i ∧ R i j := by
  constructor
  · rintro ⟨n, hn, i, hi, hsteps⟩
    cases n with
    | zero => exact .inl ⟨0, Nat.zero_le m, i, hi, hsteps⟩
    | succ n =>
      obtain ⟨k, hk, hlast⟩ := iterated_add.mp hsteps
      exact .inr ⟨k, ⟨n, by omega, i, hi, hk⟩, iterated_one.mp hlast⟩
  · rintro (⟨n, hn, h⟩ | ⟨k, ⟨n, hn, i, hi, hk⟩, hlast⟩)
    · exact ⟨n, by omega, h⟩
    · exact ⟨n + 1, by omega, i, hi, iterated_add.mpr ⟨k, hk, iterated_one.mpr hlast⟩⟩

/-- Once a step leads to nothing new, no step does any more. -/
theorem near_add_of_closed (h : ∀ j, Near R start (m + 1) j → Near R start m j) (n : Nat) :
    Near R start (m + n) j ↔ Near R start m j := by
  induction n generalizing j with
  | zero => rfl
  | succ n ih =>
    rw [← Nat.add_assoc, near_succ]
    simp only [ih]
    exact ⟨fun hj => hj.elim id fun hj => h j (near_succ.mpr (.inr hj)), .inl⟩

/-- The state of a search in rounds: all places found so far, and the last ones, from which alone new ones follow. -/
structure Explored (R : Nat → Nat → Prop) (size : Nat) (start : Places) (m : Nat) (all last : Places) : Prop where
  all_iff : ∀ j, all.contains j = true ↔ Near R start m j
  next_iff : ∀ j, Near R start (m + 1) j ↔ all.contains j = true ∨ ∃ i, last.contains i = true ∧ R i j
  within : Within size last

theorem explored_start (hstart : Within size start) : Explored R size start 0 start start where
  all_iff _ := near_zero.symm
  next_iff j := by
    rw [near_succ]
    simp only [near_zero]
  within := hstart

theorem contains_more (h : Follows size f R) (hwithin : Within size last) (all : Places) (j : Nat) :
    Places.contains (f last ^^^ (f last &&& all)) j = true ↔
      (∃ i, last.contains i = true ∧ R i j) ∧ ¬all.contains j = true := by
  rw [← h hwithin, contains_xor, contains_and]
  cases (f last).contains j <;> simp

theorem Explored.next (e : Explored R size start m all last) (h : Follows size f R) (hR : IsForward size R) :
    Explored R size start (m + 1) (all ||| (f last ^^^ (f last &&& all))) (f last ^^^ (f last &&& all)) := by
  have hmore := contains_more h e.within all
  have hall : ∀ j, Places.contains (all ||| (f last ^^^ (f last &&& all))) j = true ↔ Near R start (m + 1) j := by
    intro j
    rw [e.next_iff, contains_or, Bool.or_eq_true, hmore]
    tauto
  refine ⟨hall, fun j => ?_, fun j hj => ?_⟩
  · rw [near_succ, hall]
    refine or_congr_right' fun hnew => ⟨?_, ?_⟩
    · rintro ⟨i, hi, hstep⟩
      -- a step from an older place leads to no new one
      have hnot : ¬all.contains i = true := fun hold =>
        hnew (near_succ.mpr (.inr ⟨i, (e.all_iff i).mp hold, hstep⟩))
      exact ⟨i, (hmore i).mpr ⟨((e.next_iff i).mp hi).resolve_left hnot, hnot⟩, hstep⟩
    · rintro ⟨i, hi, hstep⟩
      exact ⟨i, (e.next_iff i).mpr (.inr ((hmore i).mp hi).1), hstep⟩
  · exact h.within hR e.within j ((h e.within j).mpr ((hmore j).mp hj).1)

theorem contains_reached (e : Explored R size start m all last) (h : Follows size f R) (hR : IsForward size R)
    (rounds : Nat) : (Plan.reached f rounds all last).contains j = true ↔ Near R start (m + rounds) j := by
  induction rounds generalizing m all last with
  | zero => exact e.all_iff j
  | succ rounds ih =>
    rw [Plan.reached]
    split
    · next hempty =>
      rw [e.all_iff, near_add_of_closed]
      intro j hj
      refine (e.all_iff j).mp (((e.next_iff j).mp hj).elim id fun hstep => ?_)
      by_contra hnew
      have hmore := (contains_more h e.within _ j).mpr ⟨hstep, hnew⟩
      rw [isEmpty_iff.mp hempty] at hmore
      cases hmore
    · rw [ih (e.next h hR), Nat.add_assoc, Nat.add_comm 1]

/-- First as often as it has to be, then as far as it may go. Without a bound, as many rounds as the text has places
are enough. -/
theorem follows_loop (h : Follows size f R) (hR : IsForward size R) (least : Nat) (most : Option Nat) :
    Follows size
      (fun p => Plan.reached f (most.elim (size + 1) (· - least)) (Plan.times f least p) (Plan.times f least p))
      fun i j => ∃ n, least ≤ n ∧ (∀ m ∈ most, n ≤ max least m) ∧ Iterated R n i j := by
  intro p hp j
  have htimes := follows_times h hR least
  have hstart := htimes.within (hR.iterated least) hp
  rw [contains_reached (explored_start hstart) h hR, Nat.zero_add]
  constructor
  · rintro ⟨n, hn, i', hi', hrest⟩
    obtain ⟨i, hi, hfirst⟩ := (htimes hp i').mp hi'
    refine ⟨i, hi, least + n, Nat.le_add_right _ _, fun m hm => ?_, iterated_add.mpr ⟨i', hfirst, hrest⟩⟩
    rw [Option.mem_def.mp hm, Option.elim] at hn
    omega
  · rintro ⟨i, hi, n, hleast, hmost, hsteps⟩
    obtain ⟨n, rfl⟩ := Nat.exists_eq_add_of_le hleast
    obtain ⟨i', hfirst, hrest⟩ := iterated_add.mp hsteps
    have hi' := (htimes hp i').mpr ⟨i, hi, hfirst⟩
    cases most with
    | some m =>
      have hm := hmost m rfl
      refine ⟨n, ?_, i', hi', hrest⟩
      rw [Option.elim]
      omega
    | none =>
      have hle := hstart i' hi'
      have hj := (hR.iterated n hle hrest).2
      obtain ⟨n', hn', hshort⟩ := hR.exists_short hle hrest
      refine ⟨n', ?_, i', hi', hshort⟩
      rw [Option.elim]
      omega

theorem follows_advance {s : Subject} (hs : ∀ c ∈ s.text, Text.Wide.isStray c = false) (r : Regex) :
    Follows s.size ((Plan.ofRegex s r).advance s.size) (r.Spans s) := by
  induction r with
  | empty => simpa [Spans, Plan.ofRegex] using follows_gate s.size fun _ => true
  | one set =>
    intro p hp j
    refine (follows_step s.size (fun i => (s.text[i]?).any set.contains) hp j).trans ?_
    refine exists_congr fun i => and_congr_right fun _ => and_congr_right fun _ => ?_
    rw [Option.any_eq_true]
    refine exists_congr fun c => and_congr_right fun hc => ?_
    exact (CharSet.admits_iff (hs c (Array.mem_of_getElem? hc))).symm
  | assertion a => exact follows_gate s.size fun i => s.holds i a
  | seq a b iha ihb =>
    intro p hp k
    refine (ihb (iha.within (isForward_spans s a) hp) k).trans ?_
    simp only [iha hp, Spans]
    constructor
    · rintro ⟨j, ⟨i, hi, ha⟩, hb⟩
      exact ⟨i, hi, j, ha, hb⟩
    · rintro ⟨i, hi, j, ha, hb⟩
      exact ⟨j, ⟨i, hi, ha⟩, hb⟩
  | alt a b iha ihb =>
    intro p hp j
    rw [Plan.ofRegex, Plan.advance, contains_or, Bool.or_eq_true, iha hp, ihb hp, ← exists_or]
    simp only [Spans, and_or_left]
  | loop r least most ih => exact follows_loop ih (isForward_spans s r) least most
  | group n r ih => exact ih
  | back n =>
    intro p hp j
    simp [Plan.ofRegex, Plan.advance, Spans, Places.contains]

end Ways

/-- A text is searched with success exactly if the expression matches a part of it. -/
theorem isFound_iff {p : Pattern} {cs : List Char} (hback : p.hasBack = false)
    (hcs : ∀ c ∈ cs, Text.Wide.isStray c = false) : p.isFound cs = true ↔ p.regex.Finds cs := by
  have hs : ∀ c ∈ cs.toArray, Text.Wide.isStray c = false := by simpa using hcs
  have hall : Places.Within cs.length (Places.single (cs.length + 1) - 1) := fun i hi => (Places.contains_upTo _).mp hi
  have hsize : Subject.size { text := cs.toArray } = cs.length := rfl
  have hfollows := follows_advance (s := { text := cs.toArray }) hs p.regex
  rw [hsize] at hfollows
  rw [Pattern.isFound, hback, if_neg Bool.false_ne_true, hsize, Bool.not_eq_true', Bool.eq_false_iff, ne_eq,
    Places.isEmpty_iff, not_forall]
  simp only [Bool.not_eq_false, hfollows hall, Places.contains_upTo, Finds]
  constructor
  · rintro ⟨j, i, hi, hspans⟩
    exact ⟨i, hi, j, hspans⟩
  · rintro ⟨i, hi, j, hspans⟩
    exact ⟨j, i, hi, hspans⟩

/-! ### Reading -/

section Reader

variable {d : Dialect} {fuel depth : Nat} {before r r' : Regex} {atStart : Bool} {s s' s'' : Reading}

def followed (before r : Regex) : Regex := if before = .empty then r else .seq before r

theorem spans_followed {s : Subject} {a b : Regex} {i k : Nat} :
    (followed a b).Spans s i k ↔ ∃ j, a.Spans s i j ∧ b.Spans s j k := by
  unfold followed
  split
  · next h =>
    subst h
    simp [Spans]
  · rfl

theorem hasBack_followed {a b : Regex} (ha : a.hasBack = false) (hb : b.hasBack = false) :
    (followed a b).hasBack = false := by
  unfold followed
  split
  · exact hb
  · simp [hasBack, ha, hb]

@[simp] theorem run_rest (s : Reading) : Parse.rest.run s = .ok (s.rest, s) := rfl

theorem repeated_of_none (h : operator d s.rest = .none) (fuel : Nat) (r : Regex) :
    (repeated d fuel r).run s = .ok (r, s) := by
  cases fuel with
  | zero => rfl
  | succ fuel =>
    simp only [repeated, StateT.run_bind, run_rest, Except.ok_bind, h]
    rfl

theorem branch_nil (hnil : s.rest = []) : (branch d (fuel + 1) depth before atStart).run s = .ok (before, s) := by
  rw [branch]
  simp only [StateT.run_bind, run_rest, Except.ok_bind, hnil]
  rfl

theorem branch_piece (hne : s.rest ≠ []) (hbar : isBar d s.rest = none) (hclose : isClose d s.rest = none)
    (hop : operator d s.rest = .none) (hatom : (atom d fuel depth atStart).run s = .ok ((r, false), s'))
    (hrepeated : (repeated d fuel r).run s' = .ok (r', s'')) :
    (branch d (fuel + 1) depth before atStart).run s = (branch d fuel depth (followed before r') false).run s'' := by
  rw [branch]
  cases atStart <;> simp [Except.ok_bind, hne, hbar, hclose, hop, hatom, hrepeated, followed]

theorem read_of_branch {cs : List Char} (hnil : s.rest = [])
    (h : (branch d (4 * cs.length + 7) 0 .empty true).run { rest := cs } = .ok (r, s)) :
    read d cs = .ok (r, s.strays) := by
  have hbar : isBar d [] = none := by
    unfold isBar
    split <;> simp_all
  have hread : (alternatives d (4 * cs.length + 8) 0).run { rest := cs } = .ok (r, s) := by
    rw [alternatives]
    simp only [StateT.run_bind, h, run_rest, Except.ok_bind, hnil, hbar]
    rfl
  rw [read, hread]
  simp [Except.ok_bind, hnil]
  rfl

end Reader

end Regex
end SnippetLab
