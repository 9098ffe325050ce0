import SnippetLab.Proofs.Lexer.Lines

/-! String and number literals as a single pass over a line finds them. The pass goes back to nothing: a quote that
is not closed hides the rest of the line, and a run of digits is looked at once, with the characters around it and
the run behind its point. The patterns try every place anew, and find the same. -/
namespace SnippetLab.Lexer

open SnippetLab.Text

/-! ### One pass -/

def beforeSlashes : List Char → List Char
  | [] => []
  | c :: cs => if c = '/' ∧ cs.head? = some '/' then [] else c :: beforeSlashes cs

abbrev Span := Nat × Nat

def Span.toMatch (span : Span) : Match Unit := ⟨span.1, span.2, ()⟩

/-- Where a pass over the line is: outside of quotes, behind a quote that opened at a place, or behind a backslash
there. -/
inductive QuoteState
  | outside
  | inside (opened : Nat)
  | escaped (opened : Nat)

/-- Where the quotations of the rest of a line begin and end. -/
def quotationsFrom : QuoteState → Nat → List Char → List Span
  | _, _, [] => []
  | .outside, here, c :: cs => quotationsFrom (if c = '"' then .inside here else .outside) (here + 1) cs
  | .inside opened, here, c :: cs =>
    if c = '"' then (opened, here + 1) :: quotationsFrom .outside (here + 1) cs
    else quotationsFrom (if c = '\\' then .escaped opened else .inside opened) (here + 1) cs
  | .escaped opened, here, _ :: cs => quotationsFrom (.inside opened) (here + 1) cs

def quotations (row : List Char) : List Span := quotationsFrom .outside 0 row

def isUnquoted (quoted : List Span) (i : Nat) : Bool :=
  quoted.all fun q => decide (i < q.1 ∨ q.2 ≤ i)

/-- A digit that follows no digit. -/
def beginsRun (row : List Char) (i : Nat) : Bool :=
  row[i]?.any Char.isDigit && !(row.take i).getLast?.any Char.isDigit

def runStop (row : List Char) (i : Nat) : Nat := i + ((row.drop i).takeWhile Char.isDigit).length

/-- Where the longest runs of digits begin and end. -/
def digitRuns (row : List Char) : List Span :=
  ((List.range row.length).filter (beginsRun row)).map fun i => (i, runStop row i)

/-- No word character stands on either side of the run. -/
def standsAlone (row : List Char) (run : Span) : Bool :=
  !(row.take run.1).getLast?.any isWordChar && !row[run.2]?.any isWordChar

/-- The next run stands behind a point after the run, and no word character behind it. -/
def isFraction (row : List Char) (run next : Span) : Bool :=
  row[run.2]? == some '.' && next.1 == run.2 + 1 && !row[next.2]?.any isWordChar

/-- The runs that stand alone, each with its fraction if it has one; a run is used once. -/
def numerals (row : List Char) : List Span → List Span
  | [] => []
  | [run] => if standsAlone row run then [run] else []
  | run :: next :: runs =>
    if standsAlone row run then
      if isFraction row run next then (run.1, next.2) :: numerals row runs else run :: numerals row (next :: runs)
    else numerals row (next :: runs)

def numbers (row : List Char) : List Span :=
  numerals row ((digitRuns row).filter fun run => isUnquoted (quotations row) run.1)

theorem beforeSlashes_eq (full : List Char) : (splitComment full).1 = beforeSlashes full := by
  induction full with
  | nil => rfl
  | cons c cs ih =>
    have hslashes : ['/', '/'].isPrefixOf (c :: cs) = true ↔ c = '/' ∧ cs.head? = some '/' := by
      cases cs <;> simp [List.isPrefixOf, beq_iff_eq, @eq_comm Char '/']
    rw [beforeSlashes, ← ih]
    unfold splitComment
    by_cases h : c = '/' ∧ cs.head? = some '/'
    · rw [find?, if_pos (hslashes.mpr h), if_pos h]
      rfl
    · rw [find?, if_neg (mt hslashes.mp h), if_neg h]
      cases find? ['/', '/'] cs <;> rfl

/-! ### Quotations -/

/-- Behind an opening quote the pass goes on to the quote that closes it. -/
theorem quotationsFrom_closed (opened here : Nat) {cs rest : List Char} (h : closingQuote? cs = some rest) :
    ∃ inside, cs = inside ++ '"' :: rest ∧
      quotationsFrom (.inside opened) here cs = (opened, here + inside.length + 1) ::
        quotationsFrom .outside (here + inside.length + 1) rest := by
  fun_induction closingQuote? cs generalizing here with
  | case1 => cases h
  | case2 cs =>
    cases h
    exact ⟨[], rfl, rfl⟩
  | case3 d cs ih =>
    obtain ⟨inside, hinside, hpass⟩ := ih (here + 2) h
    refine ⟨'\\' :: d :: inside, by rw [hinside]; rfl, ?_⟩
    rw [show here + ('\\' :: d :: inside).length + 1 = here + 2 + inside.length + 1 by simp only [List.length_cons]; omega]
    exact hpass
  | case4 => cases h
  | case5 c cs hquote hescape hplain ih =>
    obtain ⟨inside, hinside, hpass⟩ := ih (here + 1) h
    refine ⟨c :: inside, by rw [hinside]; rfl, ?_⟩
    rw [show here + (c :: inside).length + 1 = here + 1 + inside.length + 1 by simp only [List.length_cons]; omega,
      quotationsFrom, if_neg hquote, if_neg hplain]
    exact hpass

theorem quotationsFrom_unclosed (opened here : Nat) {cs : List Char} (h : closingQuote? cs = none) :
    quotationsFrom (.inside opened) here cs = [] := by
  fun_induction closingQuote? cs generalizing here with
  | case1 => rfl
  | case2 => cases h
  | case3 d cs ih => exact ih (here + 2) h
  | case4 cs hquote hescape =>
    cases cs with
    | nil => rfl
    | cons d cs => exact absurd rfl (hescape d cs rfl)
  | case5 c cs hquote hescape hplain ih =>
    rw [quotationsFrom, if_neg hquote, if_neg hplain]
    exact ih (here + 1) h

/-- All quotes behind a quote that is not closed are hidden by backslashes, so none of them is closed either. -/
theorem unclosed_of_suffix {cs tail : List Char} (h : closingQuote? cs = none) (htail : '"' :: tail <:+ cs) :
    closingQuote? tail = none := by
  fun_induction closingQuote? cs with
  | case1 => simp at htail
  | case2 => cases h
  | case3 d cs ih =>
    rcases List.suffix_cons_iff.mp htail with heq | htail
    · cases heq
    rcases List.suffix_cons_iff.mp htail with heq | htail
    · cases heq
      exact h
    · exact ih h htail
  | case4 cs hquote hescape =>
    rcases List.suffix_cons_iff.mp htail with heq | htail
    · cases heq
    · cases cs with
      | nil => simp at htail
      | cons d cs => exact absurd rfl (hescape d cs rfl)
  | case5 c cs hquote hescape hplain ih =>
    rcases List.suffix_cons_iff.mp htail with heq | htail
    · cases heq
      exact absurd rfl hquote
    · exact ih h htail

theorem stringLiteral_eq_none {cs : List Char} (h : cs.head? ≠ some '"') (before : Option Char) :
    stringLiteral before cs = none := by
  unfold stringLiteral
  split
  · exact absurd rfl h
  · rfl

theorem scan_stringLiteral_unclosed {cs : List Char} (h : closingQuote? cs = none) (here : Nat) (before : Option Char) :
    stringLiteral.scan 0 before here cs = [] := by
  refine Pattern.scan_eq_nil cs 0 here before ?_
  intro before' ending hending
  by_cases hquote : ending.head? = some '"'
  · obtain ⟨tail, rfl⟩ := List.head?_eq_some_iff.mp hquote
    rw [stringLiteral, unclosed_of_suffix h hending]
    rfl
  · exact stringLiteral_eq_none hquote before'

theorem findFrom_stringLiteral_of_closed {row rest : List Char} {i : Nat} (hdrop : row.drop i = '"' :: row.drop (i + 1))
    (h : closingQuote? (row.drop (i + 1)) = some rest) :
    ∃ stop, i < stop ∧ stop ≤ row.length ∧
      stringLiteral.findFrom row i = ⟨i, stop, ()⟩ :: stringLiteral.findFrom row stop ∧
      quotationsFrom .outside i (row.drop i) = (i, stop) :: quotationsFrom .outside stop (row.drop stop) := by
  obtain ⟨inside, hinside, hpass⟩ := quotationsFrom_closed i (i + 1) h
  have hstop : row.drop (i + 1 + inside.length + 1) = rest := by
    rw [Nat.add_assoc, ← List.drop_drop, hinside, List.drop_append]
    simp
  have hlength := congrArg List.length hinside
  simp only [List.length_drop, List.length_append, List.length_cons] at hlength
  have hmatch : stringLiteral (row.take i).getLast? (row.drop i) =
      some ((), row.drop (i + 1 + inside.length + 1)) := by
    rw [hstop, hdrop, stringLiteral, h]
    rfl
  refine ⟨i + 1 + inside.length + 1, by omega, by omega, ?_, ?_⟩
  · exact Pattern.findFrom_of_some (by omega) (by omega) hmatch
  · rw [hstop, hdrop, quotationsFrom, if_pos rfl, hpass]

theorem findFrom_stringLiteral_of_unclosed {row : List Char} {i : Nat} (hdrop : row.drop i = '"' :: row.drop (i + 1))
    (h : closingQuote? (row.drop (i + 1)) = none) :
    stringLiteral.findFrom row i = [] ∧ quotationsFrom .outside i (row.drop i) = [] := by
  constructor
  · rw [Pattern.findFrom_of_none (by rw [hdrop, stringLiteral, h]; rfl), Pattern.findFrom, scan_stringLiteral_unclosed h]
  · rw [hdrop, quotationsFrom, if_pos rfl, quotationsFrom_unclosed i (i + 1) h]

theorem findFrom_stringLiteral (row : List Char) (i : Nat) (hi : i ≤ row.length) :
    stringLiteral.findFrom row i = (quotationsFrom .outside i (row.drop i)).map Span.toMatch := by
  -- on what is left of the line outside of quotes
  induction hleft : row.length - i using Nat.strongRecOn generalizing i with
  | ind left ih =>
    by_cases hend : i = row.length
    · rw [Pattern.findFrom_of_length_le (by omega), List.drop_eq_nil_of_le (by omega)]
      rfl
    have hlt : i < row.length := by omega
    have hdrop := List.drop_eq_getElem_cons hlt
    by_cases hquote : row[i] = '"'
    · rw [hquote] at hdrop
      cases hclose : closingQuote? (row.drop (i + 1)) with
      | none =>
        obtain ⟨hfind, hpass⟩ := findFrom_stringLiteral_of_unclosed hdrop hclose
        rw [hfind, hpass]
        rfl
      | some rest =>
        obtain ⟨stop, hbehind, hle, hfind, hpass⟩ := findFrom_stringLiteral_of_closed hdrop hclose
        rw [hfind, hpass, ih _ (by omega) stop hle rfl]
        rfl
    · rw [Pattern.findFrom_of_none (stringLiteral_eq_none (by rw [hdrop, List.head?_cons]; simpa using hquote) _),
        ih _ (by omega) (i + 1) (by omega) rfl, hdrop, quotationsFrom, if_neg hquote]

/-! ### Runs of digits -/

theorem isDigit_eq : isDigit = Char.isDigit := rfl

theorem drop_runStop (row : List Char) (i : Nat) :
    row.drop (runStop row i) = (row.drop i).dropWhile Char.isDigit := by
  rw [runStop, ← List.drop_drop]
  generalize row.drop i = cs
  conv => lhs; arg 2; rw [← List.takeWhile_append_dropWhile (p := Char.isDigit) (l := cs)]
  exact List.drop_left

theorem runStop_le (row : List Char) {i : Nat} (hi : i ≤ row.length) : runStop row i ≤ row.length := by
  have hfront := (List.takeWhile_prefix Char.isDigit (l := row.drop i)).length_le
  rw [List.length_drop] at hfront
  rw [runStop]
  omega

theorem isDigit_of_lt_runStop {row : List Char} {i k : Nat} (hi : i ≤ k) (hk : k < runStop row i) :
    row[k]?.any Char.isDigit = true := by
  obtain ⟨j, rfl⟩ := Nat.exists_eq_add_of_le hi
  have hj : j < ((row.drop i).takeWhile Char.isDigit).length := by
    rw [runStop] at hk
    omega
  have hat : row[i + j]? = some ((row.drop i).takeWhile Char.isDigit)[j] := by
    rw [← List.getElem?_drop, (List.takeWhile_prefix Char.isDigit).getElem hj]
    exact List.getElem?_eq_getElem _
  rw [hat, Option.any_some]
  exact List.all_eq_true.mp (List.all_takeWhile (p := Char.isDigit)) _ (List.getElem_mem hj)

theorem isDigit_runStop (row : List Char) (i : Nat) : row[runStop row i]?.any Char.isDigit = false := by
  rw [← List.head?_drop, drop_runStop]
  have hnot := List.head?_dropWhile_not Char.isDigit (row.drop i)
  cases hhead : ((row.drop i).dropWhile Char.isDigit).head? with
  | none => rfl
  | some c => simpa [hhead] using hnot

theorem lt_runStop_iff {row : List Char} {i : Nat} : i < runStop row i ↔ row[i]?.any Char.isDigit = true := by
  refine ⟨isDigit_of_lt_runStop (Nat.le_refl i), fun hdigit => ?_⟩
  refine Nat.lt_of_le_of_ne (by simp [runStop]) fun heq => ?_
  have hnot := isDigit_runStop row i
  rw [← heq, hdigit] at hnot
  cases hnot

theorem lt_length_of_any {row : List Char} {i : Nat} {p : Char → Bool} (h : row[i]?.any p = true) :
    i < row.length := by
  by_cases hi : i < row.length
  · exact hi
  · rw [List.getElem?_eq_none (Nat.le_of_not_lt hi)] at h
    cases h

theorem getLast?_take_succ {row : List Char} {i : Nat} (hi : i < row.length) :
    (row.take (i + 1)).getLast? = row[i]? := by
  rw [List.take_succ_eq_append_getElem hi, List.getLast?_concat, List.getElem?_eq_getElem hi]

theorem not_beginsRun_of_lt_runStop {row : List Char} {i k : Nat} (hi : i < k) (hk : k < runStop row i) :
    beginsRun row k = false := by
  obtain ⟨j, rfl⟩ : ∃ j, k = j + 1 := ⟨k - 1, by omega⟩
  have hbefore := isDigit_of_lt_runStop (k := j) (by omega) (Nat.lt_of_succ_lt hk)
  rw [beginsRun, getLast?_take_succ (lt_length_of_any hbefore), hbefore]
  simp

/-! ### One number -/

theorem some?_digits (row : List Char) (i : Nat) :
    some? isDigit (row.drop i) =
      if row[i]?.any Char.isDigit = true then
        some ((row.drop i).takeWhile Char.isDigit, row.drop (runStop row i))
      else none := by
  rw [isDigit_eq, some?, drop_runStop, ← List.head?_drop]
  cases row.drop i with
  | nil => rfl
  | cons c cs => by_cases hc : c.isDigit = true <;> simp [hc]

theorem wordEnds_drop (row : List Char) (i : Nat) : wordEnds (row.drop i) = !row[i]?.any isWordChar := by
  rw [← List.head?_drop]
  cases row.drop i <;> rfl

theorem beginsRun_succ_of_point {row : List Char} {i : Nat} (h : row[i]? = some '.') :
    beginsRun row (i + 1) = row[i + 1]?.any Char.isDigit := by
  obtain ⟨hi, -⟩ := List.getElem?_eq_some_iff.mp h
  rw [beginsRun, getLast?_take_succ hi, h]
  simp

/-- Here stands a point, and behind it a run of digits without a word character behind them. -/
structure HasFraction (row : List Char) (i : Nat) : Prop where
  point : row[i]? = some '.'
  begins : beginsRun row (i + 1) = true
  ends : row[runStop row (i + 1)]?.any isWordChar = false

theorem hasFraction_iff {row : List Char} {i : Nat} : HasFraction row i ↔
    row[i]? = some '.' ∧ beginsRun row (i + 1) = true ∧ row[runStop row (i + 1)]?.any isWordChar = false :=
  ⟨fun h => ⟨h.point, h.begins, h.ends⟩, fun h => ⟨h.1, h.2.1, h.2.2⟩⟩

instance (row : List Char) (i : Nat) : Decidable (HasFraction row i) :=
  decidable_of_iff' _ hasFraction_iff

theorem fraction?_drop (row : List Char) (i : Nat) :
    fraction? (row.drop i) = if HasFraction row i then some (row.drop (runStop row (i + 1))) else none := by
  simp only [hasFraction_iff]
  by_cases hpoint : row[i]? = some '.'
  · obtain ⟨hi, hget⟩ := List.getElem?_eq_some_iff.mp hpoint
    rw [List.drop_eq_getElem_cons hi, hget, fraction?, some?_digits, beginsRun_succ_of_point hpoint]
    by_cases hdigit : row[i + 1]?.any Char.isDigit = true
    · simp only [hpoint, hdigit, wordEnds_drop, true_and, if_true, Bool.not_eq_true']
    · simp [hdigit]
  · rw [if_neg fun h => hpoint h.1]
    unfold fraction?
    split
    · next cs hcs =>
      rw [← List.head?_drop, hcs] at hpoint
      exact absurd rfl hpoint
    · rfl

/-- A number begins where a run of digits does. -/
theorem number_of_not_beginsRun {row : List Char} {i : Nat} (h : beginsRun row i = false) :
    number (row.take i).getLast? (row.drop i) = none := by
  unfold number
  split
  · rfl
  · next hbefore =>
    have hdigit : ¬(row[i]?.any Char.isDigit = true) := by
      intro hdigit
      rw [beginsRun, hdigit, Bool.true_and, Bool.not_eq_false'] at h
      obtain ⟨c, hc, hcdigit⟩ := (Option.any_eq_true _ _).mp h
      exact hbefore ((Option.any_eq_true _ _).mpr ⟨c, hc, isWordChar_of_word (.inl hcdigit)⟩)
    rw [some?_digits, if_neg hdigit]

theorem number_of_beginsRun {row : List Char} {i : Nat} (h : beginsRun row i = true) :
    number (row.take i).getLast? (row.drop i) =
      if standsAlone row (i, runStop row i) = true then
        some ((), row.drop (if HasFraction row (runStop row i) then runStop row (runStop row i + 1)
          else runStop row i))
      else none := by
  rw [beginsRun, Bool.and_eq_true] at h
  rw [standsAlone, number, some?_digits, if_pos h.1]
  dsimp only
  by_cases hbefore : (row.take i).getLast?.any isWordChar = true
  · simp [hbefore]
  rw [if_neg hbefore, wordEnds_drop, fraction?_drop]
  by_cases hfraction : HasFraction row (runStop row i)
  · have hpoint : isWordChar '.' = false := by decide +kernel
    simp [hbefore, hfraction, hfraction.point, hpoint]
  · simp [hbefore, hfraction]

/-! ### All numbers -/

/-- The runs from a position of the line on. -/
def digitRunsFrom (row : List Char) (i : Nat) : List Span :=
  ((List.range' i (row.length - i)).filter (beginsRun row)).map fun k => (k, runStop row k)

theorem digitRuns_eq (row : List Char) : digitRuns row = digitRunsFrom row 0 := by
  rw [digitRuns, List.range_eq_range']
  rfl

theorem digitRunsFrom_eq {row : List Char} {i : Nat} (hi : i < row.length) :
    digitRunsFrom row i =
      if beginsRun row i = true then (i, runStop row i) :: digitRunsFrom row (i + 1) else digitRunsFrom row (i + 1) := by
  rw [digitRunsFrom, show row.length - i = row.length - (i + 1) + 1 by omega, List.range'_succ, List.filter_cons]
  split <;> rfl

theorem digitRunsFrom_of_length_le {row : List Char} {i : Nat} (hi : row.length ≤ i) : digitRunsFrom row i = [] := by
  rw [digitRunsFrom, Nat.sub_eq_zero_of_le hi]
  rfl

theorem digitRunsFrom_of_not {row : List Char} {i : Nat} (h : beginsRun row i = false) :
    digitRunsFrom row i = digitRunsFrom row (i + 1) := by
  by_cases hi : i < row.length
  · simp [digitRunsFrom_eq hi, h]
  · rw [digitRunsFrom_of_length_le (by omega), digitRunsFrom_of_length_le (by omega)]

/-- What does not change from place to place is the same further on. -/
theorem eq_of_steps {f : Nat → β} {i j : Nat} (hij : i ≤ j) (h : ∀ k, i ≤ k → k < j → f k = f (k + 1)) : f i = f j := by
  induction hij with
  | refl => rfl
  | step hj ih => rw [ih fun k hk hkj => h k hk (Nat.lt_succ_of_lt hkj), h _ hj (Nat.lt_succ_self _)]

theorem quotes_of_mem {row : List Char} {m : Match Unit} (h : m ∈ stringLiteral.findAll row) :
    row[m.start]? = some '"' ∧ row[m.stop - 1]? = some '"' := by
  have hshows := (Pattern.isOf_of_mem_findAll stringLiteral_reads.advances h).shows stringLiteral_reads
  have hlt := hshows.start_lt_stop
  have hle := hshows.stop_le
  have hstart := List.getElem?_eq_getElem (l := row) (i := m.start) (by omega)
  have hstop := List.getElem?_eq_getElem (l := row) (i := m.stop - 1) (by omega)
  have hfirst : row[m.start] = '"' := by simpa [quotedShape] using hshows.first _ hstart
  have hlast : row[m.stop - 1] = '"' := by simpa [quotedShape] using hshows.last _ hstop
  exact ⟨hfirst ▸ hstart, hlast ▸ hstop⟩

/-- Between places without a quote from one to the other no string literal begins or ends. -/
theorem covered_eq_covered {row : List Char} {a b : Nat} (hab : a ≤ b)
    (h : ∀ k, a ≤ k → k ≤ b → row[k]? ≠ some '"') :
    covered (stringLiteral.findAll row) a = covered (stringLiteral.findAll row) b := by
  rw [Bool.eq_iff_iff, covered_iff, covered_iff]
  refine exists_congr fun m => and_congr_right fun hm => ?_
  obtain ⟨hfirst, hlast⟩ := quotes_of_mem hm
  constructor
  · rintro ⟨hstart, hstop⟩
    by_cases hb : b < m.stop
    · exact ⟨by omega, hb⟩
    · exact absurd hlast (h _ (by omega) (by omega))
  · rintro ⟨hstart, hstop⟩
    by_cases ha : m.start ≤ a
    · exact ⟨ha, by omega⟩
    · exact absurd hfirst (h _ (by omega) (by omega))

theorem isUnquoted_eq (row : List Char) (i : Nat) :
    isUnquoted (quotations row) i = !covered (stringLiteral.findAll row) i := by
  have hspans : stringLiteral.findAll row = (quotations row).map Span.toMatch :=
    findFrom_stringLiteral row 0 (Nat.zero_le _)
  rw [Bool.eq_iff_iff, Bool.not_eq_true', ← Bool.not_eq_true, covered_iff, hspans]
  simp only [isUnquoted, List.all_eq_true, decide_eq_true_eq, List.mem_map]
  constructor
  · rintro h ⟨m, ⟨q, hq, rfl⟩, hstart, hstop⟩
    have hout := h q hq
    dsimp only [Span.toMatch] at hstart hstop
    omega
  · intro h q hq
    by_cases hout : i < q.1 ∨ q.2 ≤ i
    · exact hout
    · exact absurd ⟨Span.toMatch q, ⟨q, hq, rfl⟩, by dsimp only [Span.toMatch]; omega, by dsimp only [Span.toMatch]; omega⟩ h

theorem not_isFraction {row : List Char} {i : Nat} (hfraction : ¬HasFraction row (runStop row i)) {next : Span}
    (hnext : next ∈ digitRunsFrom row (runStop row i)) : isFraction row (i, runStop row i) next = false := by
  obtain ⟨k, hk, rfl⟩ := List.mem_map.mp hnext
  rw [← Bool.not_eq_true]
  intro hjoin
  simp only [isFraction, Bool.and_eq_true, beq_iff_eq, Bool.not_eq_true'] at hjoin
  obtain ⟨⟨hpoint, rfl⟩, hends⟩ := hjoin
  exact hfraction ⟨hpoint, (List.mem_filter.mp hk).2, hends⟩

section Run

variable {row : List Char} {i : Nat} (hbegins : beginsRun row i = true)

include hbegins

theorem lt_runStop_of_beginsRun : i < runStop row i := by
  rw [beginsRun, Bool.and_eq_true] at hbegins
  exact lt_runStop_iff.mpr hbegins.1

theorem digitRunsFrom_run : digitRunsFrom row i = (i, runStop row i) :: digitRunsFrom row (runStop row i) := by
  have hlt := lt_runStop_of_beginsRun hbegins
  have hi : i < row.length := lt_length_of_any (isDigit_of_lt_runStop (Nat.le_refl i) hlt)
  rw [digitRunsFrom_eq hi, if_pos hbegins]
  congr 1
  exact eq_of_steps hlt fun k hik hk => digitRunsFrom_of_not (not_beginsRun_of_lt_runStop hik hk)

theorem findFrom_number_succ : number.findFrom row (i + 1) = number.findFrom row (runStop row i) :=
  eq_of_steps (lt_runStop_of_beginsRun hbegins) fun _ hik hk =>
    Pattern.findFrom_of_none (number_of_not_beginsRun (not_beginsRun_of_lt_runStop hik hk))

theorem findFrom_number_of_not_standsAlone (halone : standsAlone row (i, runStop row i) = false) :
    number.findFrom row i = number.findFrom row (runStop row i) := by
  have hmatch := number_of_beginsRun hbegins
  rw [halone] at hmatch
  rw [Pattern.findFrom_of_none hmatch, findFrom_number_succ hbegins]

theorem runStop_le_of_beginsRun : runStop row i ≤ row.length :=
  runStop_le row (Nat.le_of_lt (lt_length_of_any (isDigit_of_lt_runStop (Nat.le_refl i) (lt_runStop_of_beginsRun hbegins))))

theorem findFrom_number_of_whole (halone : standsAlone row (i, runStop row i) = true)
    (hfraction : ¬HasFraction row (runStop row i)) :
    number.findFrom row i = Span.toMatch (i, runStop row i) :: number.findFrom row (runStop row i) := by
  have hmatch := number_of_beginsRun hbegins
  rw [if_pos halone, if_neg hfraction] at hmatch
  exact Pattern.findFrom_of_some (lt_runStop_of_beginsRun hbegins) (runStop_le_of_beginsRun hbegins) hmatch

variable (hfraction : HasFraction row (runStop row i))

include hfraction

theorem findFrom_number_of_fraction (halone : standsAlone row (i, runStop row i) = true) :
    number.findFrom row i = Span.toMatch (i, runStop row (runStop row i + 1)) ::
      number.findFrom row (runStop row (runStop row i + 1)) := by
  have hmatch := number_of_beginsRun hbegins
  rw [if_pos halone, if_pos hfraction] at hmatch
  have hlt := lt_runStop_of_beginsRun hbegins
  have hnext := lt_runStop_of_beginsRun hfraction.begins
  exact Pattern.findFrom_of_some (by omega) (runStop_le_of_beginsRun hfraction.begins) hmatch

/-- Nothing but the point is between the two runs of a number. -/
theorem digitRunsFrom_fraction :
    digitRunsFrom row i = (i, runStop row i) :: (runStop row i + 1, runStop row (runStop row i + 1)) ::
      digitRunsFrom row (runStop row (runStop row i + 1)) := by
  have hpoint : beginsRun row (runStop row i) = false := by
    rw [beginsRun, isDigit_runStop]
    rfl
  rw [digitRunsFrom_run hbegins, digitRunsFrom_of_not hpoint, digitRunsFrom_run hfraction.begins]

/-- The two runs of a number lie in the same string literal or in none. -/
theorem isUnquoted_fraction :
    isUnquoted (quotations row) i = isUnquoted (quotations row) (runStop row i + 1) := by
  have hlt := lt_runStop_of_beginsRun hbegins
  have hnextlt := lt_runStop_of_beginsRun hfraction.begins
  rw [isUnquoted_eq, isUnquoted_eq]
  congr 1
  refine covered_eq_covered (by omega) ?_
  intro k hik hk hquote
  have hdigit (start : Nat) (hstart : start ≤ k) (hstop : k < runStop row start) : False := by
    have hk := isDigit_of_lt_runStop hstart hstop
    rw [hquote] at hk
    cases hk
  rcases Nat.lt_trichotomy k (runStop row i) with hless | rfl | hless
  · exact hdigit i hik hless
  · cases hquote.symm.trans hfraction.point
  · exact hdigit (runStop row i + 1) hless (by omega)

end Run

section Numerals

variable {row : List Char} {run next : Span} {runs : List Span}

theorem numerals_of_not_standsAlone (h : standsAlone row run = false) :
    numerals row (run :: runs) = numerals row runs := by
  cases runs <;> simp [numerals, h]

theorem numerals_of_standsAlone (h : standsAlone row run = true)
    (hnext : ∀ next, runs.head? = some next → isFraction row run next = false) :
    numerals row (run :: runs) = run :: numerals row runs := by
  cases runs with
  | nil => simp [numerals, h]
  | cons next runs => simp [numerals, h, hnext next rfl]

theorem numerals_of_isFraction (h : standsAlone row run = true) (hnext : isFraction row run next = true) :
    numerals row (run :: next :: runs) = (run.1, next.2) :: numerals row runs := by
  simp [numerals, h, hnext]

end Numerals

theorem HasFraction.isFraction {row : List Char} {i : Nat} (h : HasFraction row (runStop row i)) :
    isFraction row (i, runStop row i) (runStop row i + 1, runStop row (runStop row i + 1)) = true := by
  simp [Lexer.isFraction, h.point, h.ends]

theorem findFrom_number (row : List Char) (i : Nat) :
    (number.findFrom row i).filter (fun m => isUnquoted (quotations row) m.start) =
      (numerals row ((digitRunsFrom row i).filter fun run => isUnquoted (quotations row) run.1)).map Span.toMatch := by
  -- from one run of digits to the next, or to the one behind the fraction
  induction hleft : row.length - i using Nat.strongRecOn generalizing i with
  | ind left ih =>
    by_cases hi : row.length ≤ i
    · rw [Pattern.findFrom_of_length_le hi, digitRunsFrom_of_length_le hi]
      rfl
    cases hbegins : beginsRun row i with
    | false =>
      rw [Pattern.findFrom_of_none (number_of_not_beginsRun hbegins), digitRunsFrom_of_not hbegins]
      exact ih _ (by omega) (i + 1) rfl
    | true =>
      have hlt := lt_runStop_of_beginsRun hbegins
      cases halone : standsAlone row (i, runStop row i) with
      | false =>
        rw [findFrom_number_of_not_standsAlone hbegins halone, ih _ (by omega) _ rfl, digitRunsFrom_run hbegins,
          List.filter_cons]
        split
        · rw [numerals_of_not_standsAlone halone]
        · rfl
      | true =>
        by_cases hfraction : HasFraction row (runStop row i)
        · have hnextlt := lt_runStop_of_beginsRun hfraction.begins
          rw [findFrom_number_of_fraction hbegins hfraction halone, List.filter_cons, ih _ (by omega) _ rfl,
            digitRunsFrom_fraction hbegins hfraction, List.filter_cons, List.filter_cons,
            ← isUnquoted_fraction hbegins hfraction, Span.toMatch]
          split
          · rw [numerals_of_isFraction halone hfraction.isFraction]
            rfl
          · rfl
        · rw [findFrom_number_of_whole hbegins halone hfraction, List.filter_cons, ih _ (by omega) _ rfl,
            digitRunsFrom_run hbegins, List.filter_cons, Span.toMatch]
          split
          · rw [numerals_of_standsAlone halone fun next hnext =>
              not_isFraction hfraction (List.mem_filter.mp (List.mem_of_head? hnext)).1]
            rfl
          · rfl

theorem findAll_stringLiteral (row : List Char) : stringLiteral.findAll row = (quotations row).map Span.toMatch :=
  findFrom_stringLiteral row 0 (Nat.zero_le _)

theorem unquoted_number (row : List Char) : unquoted row number = (numbers row).map Span.toMatch := by
  rw [numbers, digitRuns_eq, ← findFrom_number]
  simp only [isUnquoted_eq]
  rfl

/-! ### The tokens of a line -/

theorem filter_lineTokens (names : Declarations) (number : Nat) (full : List Char) (category : TokenCategory) :
    (lineTokens names number full).filter (fun t => t.kind.category = category) =
      (spans full category).map (tokenAt names number full category) := by
  have hone (other : TokenCategory) :
      ((spans full other).map (tokenAt names number full other)).filter (fun t => t.kind.category = category) =
        if other = category then (spans full other).map (tokenAt names number full other) else [] := by
    split
    · next heq =>
      refine List.filter_eq_self.mpr ?_
      intro t ht
      obtain ⟨m, -, rfl⟩ := List.mem_map.mp ht
      simpa using heq
    · next hne =>
      refine List.filter_eq_nil_iff.mpr ?_
      intro t ht
      obtain ⟨m, -, rfl⟩ := List.mem_map.mp ht
      simpa using hne
  rw [lineTokens_eq, List.filter_flatMap]
  simp only [hone]
  cases category <;> simp [TokenCategory.all]

theorem filter_eq_of_startLine {tokens : List Token} {here number : Nat} (h : ∀ t ∈ tokens, t.startLine = here) :
    tokens.filter (fun t => t.startLine = number) = if here = number then tokens else [] := by
  split
  · next heq => exact List.filter_eq_self.mpr fun t ht => by simpa [h t ht] using heq
  · next hne => exact List.filter_eq_nil_iff.mpr fun t ht => by simpa [h t ht] using hne

theorem filter_tokensOf (names : Declarations) (above : Nat) {number : Nat} {ls : List (List Char)} {full : List Char}
    (hline : ls[number]? = some full) :
    (tokensOf names above ls).filter (fun t => t.startLine = above + number) = lineTokens names (above + number) full := by
  have hlines (row : List Char) (here : Nat) : ∀ t ∈ lineTokens names here row, t.startLine = here := by
    intro t ht
    obtain ⟨start, stop, kind, -, -, rfl⟩ := exists_of_mem_lineTokens ht
    rfl
  induction ls generalizing above number with
  | nil => cases hline
  | cons row ls ih =>
    have hcons : tokensOf names above (row :: ls) = lineTokens names above row ++ tokensOf names (above + 1) ls := rfl
    rw [hcons, List.filter_append, filter_eq_of_startLine (hlines row above)]
    cases number with
    | zero =>
      cases hline
      have hbelow : (tokensOf names (above + 1) ls).filter (fun t => t.startLine = above + 0) = [] := by
        refine List.filter_eq_nil_iff.mpr ?_
        intro t ht
        have hbounds := startLine_of_mem_tokensOf ht
        simp only [decide_eq_true_eq]
        omega
      rw [hbelow, List.append_nil]
      exact if_pos rfl
    | succ number =>
      rw [if_neg (by omega), List.nil_append, show above + (number + 1) = above + 1 + number by omega]
      exact ih (above + 1) hline

theorem filter_tokenize {source : String} {number : Nat} {full : List Char}
    (hline : (source.toList.splitOn '\n')[number]? = some full) (category : TokenCategory) :
    (tokenize source).filter (fun t => t.startLine = number ∧ t.kind.category = category) =
      (spans full category).map (tokenAt (.ofSource source) number full category) := by
  have hhere := filter_tokensOf (.ofSource source) 0 hline
  rw [Nat.zero_add] at hhere
  rw [← filter_lineTokens, ← hhere, List.filter_filter, tokenize_eq]
  congr 1
  funext t
  rw [Bool.decide_and, Bool.and_comm]

/-- **Literals are found in one pass.** On every line of a text the string literals are the quotations that a single
pass over the line in front of its comment finds, and the numbers are the runs of digits outside of them that stand
alone, with their fractions; both in the order of the line. -/
theorem tokenize_literals (source : String) (number : Nat) (full : List Char)
    (hline : (source.toList.splitOn '\n')[number]? = some full) :
    let token (kind : TokenKind) (span : Span) : Token :=
      .onLine number span.1 span.2 kind (slice full span.1 span.2)
    (tokenize source).filter (fun t => t.startLine = number ∧ t.kind = .stringLiteral) =
      (quotations (beforeSlashes full)).map (token .stringLiteral) ∧
    (tokenize source).filter (fun t => t.startLine = number ∧ t.kind = .numberLiteral) =
      (numbers (beforeSlashes full)).map (token .numberLiteral) := by
  intro token
  have hstring (t : Token) : t.kind = .stringLiteral ↔ t.kind.category = .string := by
    cases t.kind <;> decide
  have hnumber (t : Token) : t.kind = .numberLiteral ↔ t.kind.category = .number := by
    cases t.kind <;> decide
  simp only [hstring, hnumber, filter_tokenize hline]
  constructor
  · rw [spans, beforeSlashes_eq, findAll_stringLiteral, List.map_map]
    rfl
  · rw [spans, beforeSlashes_eq, unquoted_number, List.map_map]
    rfl

/-- An escaped quote, numbers beside points, letters and each other, and a quote that is not closed. -/
theorem tokenize_literals_unclosed :
    let source := "п\n1.2.3 \"4\\\"5\" 6ё 7.8ж \"9\\\"10 // 11"
    let full := "1.2.3 \"4\\\"5\" 6ё 7.8ж \"9\\\"10 // 11".toList
    (source.toList.splitOn '\n')[1]? = some full ∧
    (tokenize source).filter (fun t => t.startLine = 1 ∧ t.kind = .stringLiteral) =
      [.onLine 1 6 12 .stringLiteral "\"4\\\"5\""] ∧
    (tokenize source).filter (fun t => t.startLine = 1 ∧ t.kind = .numberLiteral) =
      [.onLine 1 0 3 .numberLiteral "1.2", .onLine 1 4 5 .numberLiteral "3", .onLine 1 16 17 .numberLiteral "7",
        .onLine 1 22 23 .numberLiteral "9", .onLine 1 25 27 .numberLiteral "10"] := by
  intro source full
  have hline : (source.toList.splitOn '\n')[1]? = some full := by decide +kernel
  have hquotations : quotations (beforeSlashes full) = [(6, 12)] := by decide +kernel
  have hnumbers : numbers (beforeSlashes full) = [(0, 3), (4, 5), (16, 17), (22, 23), (25, 27)] := by decide +kernel
  refine ⟨hline, ?_, ?_⟩
  · rw [(tokenize_literals source 1 full hline).1, hquotations]
    decide +kernel
  · rw [(tokenize_literals source 1 full hline).2, hnumbers]
    decide +kernel

end SnippetLab.Lexer
