import SnippetLab.Text.Pattern

/-! Where the matches of a pattern lie, what they read as and which of them stay when the text goes on, for
patterns that take at least one character and hand on the rest of the text untouched. -/
namespace SnippetLab.Text

structure Match.IsOf (m : Match α) (p : Pattern α) (text : List Char) : Prop where
  start_lt_stop : m.start < m.stop
  stop_le : m.stop ≤ text.length
  holds : p (text.take m.start).getLast? (text.drop m.start) = some (m.value, text.drop m.stop)

namespace Pattern

/-- A match takes a character and its rest is the rest of the text. -/
def Advances (p : Pattern α) : Prop :=
  ∀ before cs value rest, p before cs = some (value, rest) → rest <:+ cs ∧ rest.length < cs.length

theorem Advances.eq_none {p : Pattern α} (hp : p.Advances) (before : Option Char) : p before [] = none := by
  cases h : p before [] with
  | none => rfl
  | some found => exact absurd (hp _ _ _ _ h).2 (Nat.not_lt_zero _)

theorem isOf_of_mem_scan {p : Pattern α} (hp : p.Advances) {m : Match α} (cs : List Char) (skip : Nat)
    (front : List Char) (h : m ∈ p.scan skip front.getLast? front.length cs) : m.IsOf p (front ++ cs) := by
  -- on the rest of the text; what lies before it grows to the right
  induction cs generalizing skip front with
  | nil => simp [scan] at h
  | cons c cs ih =>
    have hsplit : front ++ c :: cs = (front ++ [c]) ++ cs := by simp
    have hnext (skip : Nat) (h : m ∈ p.scan skip (some c) (front.length + 1) cs) :
        m.IsOf p (front ++ c :: cs) := by
      rw [hsplit]
      exact ih skip (front ++ [c]) (by simpa using h)
    cases skip with
    | succ skip => exact hnext skip (by simpa [scan] using h)
    | zero =>
      cases hc : p front.getLast? (c :: cs) with
      | none => exact hnext 0 (by simpa [scan, hc] using h)
      | some found =>
        obtain ⟨value, rest⟩ := found
        simp only [scan, hc, List.mem_cons] at h
        rcases h with rfl | h
        · obtain ⟨hsuffix, hshort⟩ := hp _ _ _ _ hc
          rw [List.length_cons] at hshort
          have hrest : (c :: cs).drop (cs.length + 1 - rest.length) = rest := by
            simpa using (List.suffix_iff_eq_drop.mp hsuffix).symm
          refine ⟨?_, ?_, ?_⟩
          · dsimp only
            omega
          · simp only [List.length_append, List.length_cons]
            omega
          · simp [hc, List.drop_append, hrest]
        · exact hnext _ h

theorem isOf_of_mem_findAll {p : Pattern α} (hp : p.Advances) {m : Match α} {text : List Char}
    (h : m ∈ p.findAll text) : m.IsOf p text :=
  isOf_of_mem_scan hp text 0 [] h

/-! ### Order and completeness -/

theorem le_start_of_mem_scan {p : Pattern α} {m : Match α} (cs : List Char) (skip here : Nat) (before : Option Char)
    (h : m ∈ p.scan skip before here cs) : here + skip ≤ m.start := by
  induction cs generalizing skip here before with
  | nil => simp [scan] at h
  | cons c cs ih =>
    cases skip with
    | succ skip =>
      have := ih skip (here + 1) (some c) (by simpa only [scan] using h)
      omega
    | zero =>
      simp only [scan] at h
      split at h
      · have := ih 0 (here + 1) (some c) h
        omega
      · rcases List.mem_cons.mp h with rfl | h
        · simp
        · have := ih _ _ _ h
          omega

theorem pairwise_scan (p : Pattern α) (cs : List Char) (skip here : Nat) (before : Option Char) :
    (p.scan skip before here cs).Pairwise fun m n => m.stop ≤ n.start := by
  induction cs generalizing skip here before with
  | nil => simp [scan]
  | cons c cs ih =>
    cases skip with
    | succ skip => simpa only [scan] using ih skip (here + 1) (some c)
    | zero =>
      simp only [scan]
      split
      · exact ih 0 (here + 1) (some c)
      · refine List.pairwise_cons.mpr ⟨?_, ih _ _ _⟩
        intro n hn
        have := le_start_of_mem_scan _ _ _ _ hn
        dsimp only
        omega

theorem pairwise_findAll (p : Pattern α) (text : List Char) :
    (p.findAll text).Pairwise fun m n => m.stop ≤ n.start :=
  pairwise_scan p text 0 0 none

/-- A place where the pattern holds is passed only inside a match. -/
theorem exists_covering_scan {p : Pattern α} (hp : p.Advances) {i : Nat} (cs : List Char) (skip : Nat)
    (front : List Char) (hskip : front.length + skip ≤ i) (hi : i < (front ++ cs).length)
    (h : (p ((front ++ cs).take i).getLast? ((front ++ cs).drop i)).isSome) :
    ∃ m ∈ p.scan skip front.getLast? front.length cs, m.start ≤ i ∧ i < m.stop := by
  induction cs generalizing skip front with
  | nil =>
    rw [List.append_nil] at hi
    omega
  | cons c cs ih =>
    have hsplit : front ++ c :: cs = (front ++ [c]) ++ cs := by simp
    have hnext (skip : Nat) (hskip : front.length + 1 + skip ≤ i) :
        ∃ m ∈ p.scan skip (some c) (front.length + 1) cs, m.start ≤ i ∧ i < m.stop := by
      rw [hsplit] at hi h
      simpa using ih skip (front ++ [c]) (by simpa using hskip) hi h
    cases skip with
    | succ skip => simpa only [scan] using hnext skip (by omega)
    | zero =>
      simp only [scan]
      split
      · next hnone =>
        refine hnext 0 ?_
        have hne : i ≠ front.length := by
          rintro rfl
          simp [hnone] at h
        omega
      · next value rest hsome =>
        have hshort := (hp _ _ _ _ hsome).2
        rw [List.length_cons] at hshort
        by_cases hstop : i < front.length + (cs.length + 1 - rest.length)
        · exact ⟨_, List.mem_cons_self, by simpa using hskip, hstop⟩
        · obtain ⟨m, hm, hspan⟩ := hnext (cs.length + 1 - rest.length - 1) (by omega)
          exact ⟨m, List.mem_cons_of_mem _ hm, hspan⟩

theorem exists_covering_findAll {p : Pattern α} (hp : p.Advances) {text : List Char} {i : Nat} (hi : i < text.length)
    (h : (p (text.take i).getLast? (text.drop i)).isSome) : ∃ m ∈ p.findAll text, m.start ≤ i ∧ i < m.stop :=
  exists_covering_scan hp text 0 [] (Nat.zero_le i) hi h

/-! ### From one match to the next -/

def findFrom (p : Pattern α) (text : List Char) (i : Nat) : List (Match α) :=
  p.scan 0 (text.take i).getLast? i (text.drop i)

theorem findFrom_of_length_le {p : Pattern α} {text : List Char} {i : Nat} (h : text.length ≤ i) :
    p.findFrom text i = [] := by
  rw [findFrom, List.drop_eq_nil_of_le h, scan]

theorem scan_eq_findFrom (p : Pattern α) (text : List Char) (skip i : Nat) :
    p.scan skip (text.take i).getLast? i (text.drop i) = p.findFrom text (i + skip) := by
  induction skip generalizing i with
  | zero => rfl
  | succ skip ih =>
    by_cases hi : i < text.length
    · rw [List.drop_eq_getElem_cons hi, scan, show i + (skip + 1) = i + 1 + skip by omega, ← ih (i + 1),
        List.take_succ_eq_append_getElem hi, List.getLast?_concat]
    · rw [List.drop_eq_nil_of_le (by omega), scan, findFrom_of_length_le (by omega)]

theorem findFrom_of_none {p : Pattern α} {text : List Char} {i : Nat}
    (h : p (text.take i).getLast? (text.drop i) = none) : p.findFrom text i = p.findFrom text (i + 1) := by
  by_cases hi : i < text.length
  · rw [List.drop_eq_getElem_cons hi] at h
    have hnext := scan_eq_findFrom p text 1 i
    rw [List.drop_eq_getElem_cons hi, scan] at hnext
    rw [findFrom, List.drop_eq_getElem_cons hi, scan, h]
    exact hnext
  · rw [findFrom_of_length_le (by omega), findFrom_of_length_le (by omega)]

theorem findFrom_of_some {p : Pattern α} {text : List Char} {i stop : Nat} {value : α} (hlt : i < stop)
    (hle : stop ≤ text.length) (h : p (text.take i).getLast? (text.drop i) = some (value, text.drop stop)) :
    p.findFrom text i = ⟨i, stop, value⟩ :: p.findFrom text stop := by
  have hi : i < text.length := by omega
  have hrest := scan_eq_findFrom p text (stop - i) i
  obtain ⟨skip, hskip⟩ := Nat.exists_eq_add_of_lt hlt
  rw [show stop - i = skip + 1 by omega, List.drop_eq_getElem_cons hi, scan] at hrest
  have hlength : (text.drop (i + 1)).length + 1 - (text.drop stop).length = stop - i := by
    simp only [List.length_drop]
    omega
  rw [List.drop_eq_getElem_cons hi] at h
  rw [findFrom, List.drop_eq_getElem_cons hi, scan, h]
  simp only [hlength]
  rw [show stop - i - 1 = skip by omega, hrest, show i + (stop - i) = stop by omega, show i + (skip + 1) = stop by omega]

end Pattern

/-! ### A text that goes on -/

/-- A match stays one when the text goes on with `tail`, and where the longer text has a new one, the text itself
has no other from there on. -/
structure Pattern.Endures (p : Pattern α) (tail : List Char) : Prop where
  stays : ∀ before cs value rest, p before cs = some (value, rest) → p before (cs ++ tail) = some (value, rest ++ tail)
  isLast : ∀ before cs, p before cs = none →
    p before (cs ++ tail) = none ∨ ∀ before' ending, ending <:+ cs → p before' ending = none

namespace Pattern

theorem Endures.of_append {p : Pattern α} {tail : List Char}
    (h : ∀ before cs, p before (cs ++ tail) = (p before cs).map fun found => (found.1, found.2 ++ tail)) :
    p.Endures tail where
  stays before cs value rest hp := by rw [h, hp]; rfl
  isLast before cs hp := .inl (by rw [h, hp]; rfl)

theorem scan_eq_nil {p : Pattern α} (cs : List Char) (skip here : Nat) (before : Option Char)
    (h : ∀ before' ending, ending <:+ cs → p before' ending = none) : p.scan skip before here cs = [] := by
  induction cs generalizing skip here before with
  | nil => cases skip <;> rfl
  | cons c cs ih =>
    have hrest : ∀ before' ending, ending <:+ cs → p before' ending = none :=
      fun before' ending hending => h before' ending (hending.trans (List.suffix_cons c cs))
    cases skip with
    | succ skip => exact ih skip (here + 1) (some c) hrest
    | zero =>
      simp only [scan, h before (c :: cs) List.suffix_rfl]
      exact ih 0 (here + 1) (some c) hrest

theorem scan_subset_append {p : Pattern α} {tail : List Char} (cs : List Char) (skip here : Nat)
    (before : Option Char)
    (hstays : ∀ before ending value rest, ending <:+ cs → p before ending = some (value, rest) →
      p before (ending ++ tail) = some (value, rest ++ tail))
    (hlast : ∀ before ending, ending <:+ cs → p before ending = none →
      p before (ending ++ tail) = none ∨ ∀ before' ending', ending' <:+ ending → p before' ending' = none) :
    p.scan skip before here cs ⊆ p.scan skip before here (cs ++ tail) := by
  induction cs generalizing skip here before with
  | nil =>
    have hnil : p.scan skip before here [] = [] := by cases skip <;> rfl
    rw [hnil]
    exact List.nil_subset _
  | cons c cs ih =>
    have hrest {ending : List Char} (hending : ending <:+ cs) : ending <:+ c :: cs :=
      hending.trans (List.suffix_cons c cs)
    have hnext (skip here : Nat) (before : Option Char) :
        p.scan skip before here cs ⊆ p.scan skip before here (cs ++ tail) :=
      ih skip here before (fun before ending value rest hending => hstays before ending value rest (hrest hending))
        (fun before ending hending => hlast before ending (hrest hending))
    cases skip with
    | succ skip => exact hnext skip (here + 1) (some c)
    | zero =>
      cases hc : p before (c :: cs) with
      | none =>
        rcases hlast before (c :: cs) List.suffix_rfl hc with hnone | hnever
        · rw [List.cons_append] at hnone ⊢
          simp only [scan, hc, hnone]
          exact hnext 0 (here + 1) (some c)
        · rw [scan_eq_nil _ _ _ _ hnever]
          exact List.nil_subset _
      | some found =>
        obtain ⟨value, rest⟩ := found
        have hlonger := hstays before (c :: cs) value rest List.suffix_rfl hc
        have hlength : (cs ++ tail).length + 1 - (rest ++ tail).length = cs.length + 1 - rest.length := by
          simp only [List.length_append]
          omega
        rw [List.cons_append] at hlonger ⊢
        simp only [scan, hc, hlonger, hlength]
        exact List.cons_subset_cons _ (hnext _ _ _)

theorem Endures.values_subset {p : Pattern α} {tail : List Char} (hp : p.Endures tail) (cs : List Char) :
    p.values cs ⊆ p.values (cs ++ tail) :=
  List.map_subset _ <| scan_subset_append cs 0 0 none (fun before ending value rest _ => hp.stays before ending value rest)
    fun before ending _ => hp.isLast before ending

/-- The pattern looks past no such character, but it may take one. -/
def Closes (p : Pattern α) (c : Char) : Prop :=
  ∀ before cs tail, p before (cs ++ c :: tail) = (p before (cs ++ [c])).map fun found => (found.1, found.2 ++ tail)

theorem Closes.values_subset {p : Pattern α} {c : Char} (hp : p.Closes c) (hadvances : p.Advances)
    (cs tail : List Char) : p.values (cs ++ [c]) ⊆ p.values (cs ++ c :: tail) := by
  have hcases {ending : List Char} (h : ending <:+ cs ++ [c]) : ending = [] ∨ ∃ front, ending = front ++ [c] := by
    rcases List.suffix_concat_iff.mp h with hending | ⟨front, hfront, -⟩
    · exact .inl hending
    · exact .inr ⟨front, hfront⟩
  have hlonger (before : Option Char) (front : List Char) :
      p before ((front ++ [c]) ++ tail) = (p before (front ++ [c])).map fun found => (found.1, found.2 ++ tail) := by
    rw [List.append_assoc]
    exact hp before front tail
  rw [List.append_cons cs c tail]
  refine List.map_subset _ (scan_subset_append _ 0 0 none ?_ ?_)
  · intro before ending value rest hending h
    rcases hcases hending with rfl | ⟨front, rfl⟩
    · rw [hadvances.eq_none] at h
      cases h
    · rw [hlonger, h]
      rfl
  · intro before ending hending h
    rcases hcases hending with rfl | ⟨front, rfl⟩
    · refine .inr ?_
      intro before' ending' hending'
      rw [List.suffix_nil.mp hending']
      exact hadvances.eq_none before'
    · refine .inl ?_
      rw [hlonger, h]
      rfl

end Pattern

/-! ### What matches read as -/

structure Shape where
  first : Char → Bool
  later : Char → Bool
  last : Char → Bool

structure Shape.Fits (s : Shape) (word : List Char) : Prop where
  ne_nil : word ≠ []
  first : ∀ c, word.head? = some c → s.first c = true
  later : ∀ c ∈ word.tail, s.later c = true
  last : ∀ c, word.getLast? = some c → s.last c = true

/-- What the pattern takes fits the shape. -/
def Pattern.Reads (p : Pattern α) (s : Shape) : Prop :=
  ∀ before cs value rest, p before cs = some (value, rest) → ∃ word, s.Fits word ∧ cs = word ++ rest

theorem Pattern.Reads.advances {p : Pattern α} {s : Shape} (hp : p.Reads s) : p.Advances := by
  intro before cs value rest h
  obtain ⟨word, hfits, rfl⟩ := hp before cs value rest h
  have hpos := List.length_pos_iff.mpr hfits.ne_nil
  refine ⟨List.suffix_append _ _, ?_⟩
  rw [List.length_append]
  omega

structure Match.Shows (m : Match α) (s : Shape) (text : List Char) : Prop where
  start_lt_stop : m.start < m.stop
  stop_le : m.stop ≤ text.length
  first : ∀ c, text[m.start]? = some c → s.first c = true
  later : ∀ i c, m.start < i → i < m.stop → text[i]? = some c → s.later c = true
  last : ∀ c, text[m.stop - 1]? = some c → s.last c = true

theorem Match.IsOf.shows {p : Pattern α} {s : Shape} {m : Match α} {text : List Char} (h : m.IsOf p text)
    (hp : p.Reads s) : m.Shows s text := by
  obtain ⟨word, hfits, hword⟩ := hp _ _ _ _ h.holds
  have hlt := h.start_lt_stop
  have hle := h.stop_le
  have hlength : word.length = m.stop - m.start := by
    have := congrArg List.length hword
    simp only [List.length_append, List.length_drop] at this
    omega
  have hat (i : Nat) (hi : i < word.length) : text[m.start + i]? = word[i]? := by
    rw [← List.getElem?_drop, hword, List.getElem?_append_left hi]
  refine ⟨hlt, hle, ?_, ?_, ?_⟩
  · intro c hc
    rw [← Nat.add_zero m.start, hat 0 (by omega)] at hc
    exact hfits.first c (by rw [List.head?_eq_getElem?, hc])
  · intro i c hstart hstop hc
    obtain ⟨k, rfl⟩ := Nat.exists_eq_add_of_lt hstart
    rw [Nat.add_assoc, hat (k + 1) (by omega), ← List.getElem?_tail] at hc
    exact hfits.later c (List.mem_of_getElem? hc)
  · intro c hc
    rw [show m.stop - 1 = m.start + (word.length - 1) by omega, hat _ (by omega)] at hc
    exact hfits.last c (by rw [List.getLast?_eq_getElem?, hc])

theorem Match.Shows.first_or_later {m : Match α} {s : Shape} {text : List Char} (h : m.Shows s text) {i : Nat}
    (hstart : m.start ≤ i) (hstop : i < m.stop) {c : Char} (hc : text[i]? = some c) :
    s.first c = true ∨ s.later c = true := by
  rcases Nat.lt_or_eq_of_le hstart with hlater | rfl
  · exact .inr (h.later i c hlater hstop hc)
  · exact .inl (h.first c hc)

/-- What a match shows stays when the text goes on. -/
theorem Match.Shows.append {m : Match α} {s : Shape} {text : List Char} (h : m.Shows s text) (tail : List Char) :
    m.Shows s (text ++ tail) := by
  have hlt := h.start_lt_stop
  have hle := h.stop_le
  have hat (i : Nat) (hi : i < m.stop) : (text ++ tail)[i]? = text[i]? :=
    List.getElem?_append_left (Nat.lt_of_lt_of_le hi hle)
  refine ⟨hlt, by rw [List.length_append]; omega, ?_, ?_, ?_⟩
  · intro c hc
    exact h.first c (by rwa [hat _ hlt] at hc)
  · intro i c hstart hstop hc
    exact h.later i c hstart hstop (by rwa [hat i hstop] at hc)
  · intro c hc
    exact h.last c (by rwa [hat _ (by omega)] at hc)

/-! ### Fronts -/

theorem some?_eq_some {p : Char → Bool} {cs front rest : List Char} (h : some? p cs = some (front, rest)) :
    front = cs.takeWhile p ∧ rest = cs.dropWhile p ∧ front ≠ [] := by
  unfold some? at h
  split at h
  · cases h
  · next hne =>
    cases h
    exact ⟨rfl, rfl, fun hnil => hne (by simp [hnil])⟩

theorem some?_append {p : Char → Bool} {cs front rest : List Char} (h : some? p cs = some (front, rest)) :
    cs = front ++ rest ∧ front ≠ [] ∧ ∀ c ∈ front, p c = true := by
  obtain ⟨rfl, rfl, hne⟩ := some?_eq_some h
  exact ⟨List.takeWhile_append_dropWhile.symm, hne, List.all_eq_true.mp List.all_takeWhile⟩

theorem after?_eq_some_iff {word cs rest : List Char} : after? word cs = some rest ↔ cs = word ++ rest := by
  unfold after?
  constructor
  · intro h
    split at h
    · next hprefix =>
      cases h
      obtain ⟨tail, rfl⟩ := List.isPrefixOf_iff_prefix.mp hprefix
      rw [List.drop_left]
    · cases h
  · rintro rfl
    rw [if_pos (List.isPrefixOf_iff_prefix.mpr (List.prefix_append word rest)), List.drop_left]

section Stop

variable {p : Char → Bool} {c : Char} {tail : List Char}

/-! A character without the property ends the longest front, whatever follows it. -/

theorem takeWhile_append_stop (hc : p c = false) (cs : List Char) : (cs ++ c :: tail).takeWhile p = cs.takeWhile p := by
  induction cs with
  | nil => simp [hc]
  | cons d cs ih => simp only [List.cons_append, List.takeWhile_cons, ih]

theorem dropWhile_append_stop (hc : p c = false) (cs : List Char) :
    (cs ++ c :: tail).dropWhile p = cs.dropWhile p ++ c :: tail := by
  induction cs with
  | nil => simp [hc]
  | cons d cs ih =>
    simp only [List.cons_append, List.dropWhile_cons, ih]
    split <;> rfl

theorem some?_append_stop (hc : p c = false) (cs : List Char) :
    some? p (cs ++ c :: tail) = (some? p cs).map fun found => (found.1, found.2 ++ c :: tail) := by
  simp only [some?, takeWhile_append_stop hc, dropWhile_append_stop hc]
  split <;> rfl

theorem isPrefixOf_append_stop {word : List Char} (hc : c ∉ word) (cs : List Char) :
    word.isPrefixOf (cs ++ c :: tail) = word.isPrefixOf cs := by
  induction word generalizing cs with
  | nil => simp
  | cons d word ih =>
    rw [List.mem_cons, not_or] at hc
    cases cs with
    | nil => simp [List.isPrefixOf, Ne.symm hc.1]
    | cons e cs => simp [List.isPrefixOf, ih hc.2]

theorem after?_append_stop {word : List Char} (hc : c ∉ word) (cs : List Char) :
    after? word (cs ++ c :: tail) = (after? word cs).map (· ++ c :: tail) := by
  simp only [after?, isPrefixOf_append_stop hc]
  split
  · next hprefix =>
    have hlength := (List.isPrefixOf_iff_prefix.mp hprefix).length_le
    rw [Option.map_some, List.drop_append_of_le_length hlength]
  · rfl

end Stop

end SnippetLab.Text
