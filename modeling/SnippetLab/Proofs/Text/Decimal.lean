import SnippetLab.Text.Decimal
import SnippetLab.Text.Ranges
import SnippetLab.Proofs.Except

/-! Numerals. Reading gives the value that the digits spell, if that lies below the bound, and nothing else. -/
namespace SnippetLab.Text

variable {bound n : Nat} {cs ds : List Char}

inductive IsNumeral : List Char → Nat → Prop
  | plain {ds : List Char} (nonempty : ds ≠ []) (digits : ∀ d ∈ ds, d.isDigit = true) :
      IsNumeral ds (Nat.ofDigitChars 10 ds 0)
  | signed {ds : List Char} (nonempty : ds ≠ []) (digits : ∀ d ∈ ds, d.isDigit = true) :
      IsNumeral ('+' :: ds) (Nat.ofDigitChars 10 ds 0)

theorem digit?_eq_some_iff {c : Char} {d : Nat} :
    digit? c = some d ↔ c.isDigit = true ∧ d = c.toNat - '0'.toNat := by
  have hrange : ('0' ≤ c ∧ c ≤ '9') ↔ c.isDigit = true := by
    simp only [Char.isDigit, Bool.and_eq_true, decide_eq_true_eq]
    rfl
  by_cases hc : c.isDigit = true
  · rw [digit?, if_pos (hrange.mpr hc)]
    simp [hc, eq_comm]
  · rw [digit?, if_neg (mt hrange.mp hc)]
    simp [hc]

theorem le_ofDigitChars (ds : List Char) (n : Nat) : n ≤ Nat.ofDigitChars 10 ds n := by
  induction ds generalizing n with
  | nil => simp
  | cons d ds ih =>
    rw [Nat.ofDigitChars_cons]
    have hrest := ih (10 * n + (d.toNat - '0'.toNat))
    omega

/-- Once the value is beyond the bound, more digits do not bring it back. -/
theorem readDigits_eq_ok_iff {value : Nat} (h : value < bound) :
    readDigits bound value cs = .ok n ↔
      (∀ c ∈ cs, c.isDigit = true) ∧ n = Nat.ofDigitChars 10 cs value ∧ n < bound := by
  induction cs generalizing value with
  | nil => grind [readDigits, Nat.ofDigitChars_nil]
  | cons c cs ih =>
    rw [readDigits, Nat.ofDigitChars_cons, List.forall_mem_cons, Nat.mul_comm 10 value]
    cases hdigit : digit? c with
    | none =>
      have hc : ¬c.isDigit = true := fun hc => by simp [digit?_eq_some_iff.mpr ⟨hc, rfl⟩] at hdigit
      simp [hc]
    | some d =>
      obtain ⟨hc, rfl⟩ := digit?_eq_some_iff.mp hdigit
      dsimp only
      split
      · next hless => rw [ih hless, and_iff_right hc]
      · next hlong =>
        have hgrows := le_ofDigitChars cs (value * 10 + (c.toNat - '0'.toNat))
        refine iff_of_false (fun h => nomatch h) ?_
        rintro ⟨-, rfl, hless⟩
        omega

theorem readSome_eq_ok_iff (h : 0 < bound) :
    readSome bound cs = .ok n ↔
      cs ≠ [] ∧ (∀ c ∈ cs, c.isDigit = true) ∧ n = Nat.ofDigitChars 10 cs 0 ∧ n < bound := by
  rw [readSome]
  cases cs with
  | nil => simp
  | cons c cs =>
    rw [if_neg (by simp), readDigits_eq_ok_iff h]
    simp

theorem readNatural_eq_ok_iff (h : 0 < bound) :
    readNatural bound cs = .ok n ↔ IsNumeral cs n ∧ n < bound := by
  have hplus : ('+').isDigit ≠ true := by decide
  constructor
  · intro hread
    unfold readNatural at hread
    split at hread
    · cases hread
    · obtain ⟨hne, hdigits, rfl, hless⟩ := (readSome_eq_ok_iff h).mp hread
      exact ⟨.signed hne hdigits, hless⟩
    · obtain ⟨hne, hdigits, rfl, hless⟩ := (readSome_eq_ok_iff h).mp hread
      exact ⟨.plain hne hdigits, hless⟩
  · rintro ⟨hnumeral, hless⟩
    cases hnumeral with
    | signed hne hdigits => exact (readSome_eq_ok_iff h).mpr ⟨hne, hdigits, rfl, hless⟩
    | plain hne hdigits =>
      unfold readNatural
      split
      · exact absurd rfl hne
      · exact absurd (hdigits '+' List.mem_cons_self) hplus
      · exact (readSome_eq_ok_iff h).mpr ⟨hne, hdigits, rfl, hless⟩

inductive IsInteger : List Char → Int → Prop
  | natural {cs : List Char} {n : Nat} (h : IsNumeral cs n) : IsInteger cs n
  | negative {ds : List Char} (nonempty : ds ≠ []) (digits : ∀ d ∈ ds, d.isDigit = true) :
      IsInteger ('-' :: ds) (-(Nat.ofDigitChars 10 ds 0 : Int))

theorem not_isNumeral_minus (ds : List Char) (n : Nat) : ¬IsNumeral ('-' :: ds) n := by
  intro h
  cases h with
  | plain _ digits => exact absurd (digits '-' List.mem_cons_self) (by decide)

theorem readInteger_minus (bound : Nat) (ds : List Char) (v : Int) :
    readInteger bound ('-' :: ds) = .ok v ↔ ∃ n : Nat, readSome (bound + 1) ds = .ok n ∧ -(n : Int) = v := by
  rw [readInteger]
  cases readSome (bound + 1) ds <;> simp [Except.map, bind, Except.bind, pure, Except.pure]

theorem readInteger_of_ne {cs : List Char} (h : ∀ ds, cs ≠ '-' :: ds) (bound : Nat) (v : Int) :
    readInteger bound cs = .ok v ↔ ∃ n : Nat, readNatural bound cs = .ok n ∧ (n : Int) = v := by
  unfold readInteger
  split
  · exact absurd rfl (h _)
  · cases readNatural bound cs <;> simp [Except.map, bind, Except.bind, pure, Except.pure]

theorem readInteger_eq_ok_iff {v : Int} (h : 0 < bound) :
    readInteger bound cs = .ok v ↔ IsInteger cs v ∧ -(bound : Int) ≤ v ∧ v < bound := by
  by_cases hminus : ∃ ds, cs = '-' :: ds
  · obtain ⟨ds, rfl⟩ := hminus
    rw [readInteger_minus]
    simp only [readSome_eq_ok_iff (Nat.add_one_pos bound)]
    constructor
    · rintro ⟨n, ⟨hne, hdigits, rfl, hless⟩, rfl⟩
      exact ⟨.negative hne hdigits, by omega, by omega⟩
    · rintro ⟨hinteger, hlow, -⟩
      cases hinteger with
      | natural hnumeral => exact absurd hnumeral (not_isNumeral_minus ds _)
      | negative hne hdigits => exact ⟨_, ⟨hne, hdigits, rfl, by omega⟩, rfl⟩
  · rw [not_exists] at hminus
    rw [readInteger_of_ne hminus]
    simp only [readNatural_eq_ok_iff h]
    constructor
    · rintro ⟨n, ⟨hnumeral, hless⟩, rfl⟩
      exact ⟨.natural hnumeral, by omega, by omega⟩
    · rintro ⟨hinteger, -, hless⟩
      cases hinteger with
      | natural hnumeral => exact ⟨_, ⟨hnumeral, by omega⟩, rfl⟩
      | negative => exact absurd rfl (hminus _)

theorem IsInteger.unique {v w : Int} (hv : IsInteger cs v) (hw : IsInteger cs w) : v = w := by
  have hread {x : Int} (hx : IsInteger cs x) (hle : x.natAbs ≤ v.natAbs + w.natAbs) :
      readInteger (v.natAbs + w.natAbs + 1) cs = .ok x :=
    (readInteger_eq_ok_iff (Nat.succ_pos _)).mpr ⟨hx, by omega, by omega⟩
  exact Except.ok.inj ((hread hv (by omega)).symm.trans (hread hw (by omega)))

theorem isNumeral_toString (n : Nat) : IsNumeral (toString n).toList n := by
  have hdigits : (toString n).toList = Nat.toDigits 10 n := by simp
  have hne : Nat.toDigits 10 n ≠ [] := Nat.toDigits_ne_nil
  have h := IsNumeral.plain hne fun _ hd => Nat.isDigit_of_mem_toDigits (by decide) (by decide) hd
  rwa [Nat.ofDigitChars_ten_toDigits, ← hdigits] at h

theorem isInteger_toString (v : Int) : IsInteger (toString v).toList v := by
  cases v with
  | ofNat n => exact .natural (isNumeral_toString n)
  | negSucc n =>
    have hdigits : (toString (Int.negSucc n)).toList = '-' :: Nat.toDigits 10 (n + 1) := by
      simp [toString, Int.repr]
    have hne : Nat.toDigits 10 (n + 1) ≠ [] := Nat.toDigits_ne_nil
    have h := IsInteger.negative hne fun _ hd => Nat.isDigit_of_mem_toDigits (by decide) (by decide) hd
    rwa [Nat.ofDigitChars_ten_toDigits, ← hdigits] at h

theorem isBlank_of_isDigit {c : Char} (h : c.isDigit = true) : isBlank c = false := by
  have hbounds : 48 ≤ c.toNat ∧ c.toNat ≤ 57 := by simpa [Char.isDigit, UInt32.le_iff_toNat_le] using h
  rw [isBlank, blankRanges, Ranges.covers, if_neg (by omega), Ranges.covers, if_neg (by omega), Ranges.covers,
    if_pos (by omega), decide_eq_false (by omega)]

theorem IsNumeral.isDigit_or_plus {c : Char} (h : IsNumeral cs n) (hc : c ∈ cs) : c.isDigit = true ∨ c = '+' := by
  cases h with
  | plain _ digits => exact .inl (digits c hc)
  | signed _ digits => exact (List.mem_cons.mp hc).symm.imp_left (digits c)

theorem IsInteger.visible {v : Int} (h : IsInteger cs v) : ∀ c ∈ cs, isBlank c = false := by
  intro c hc
  cases h with
  | natural h =>
    obtain hdigit | rfl := h.isDigit_or_plus hc
    · exact isBlank_of_isDigit hdigit
    · decide
  | negative _ digits =>
    obtain rfl | hdigit := List.mem_cons.mp hc
    · decide
    · exact isBlank_of_isDigit (digits c hdigit)

theorem IsInteger.ne_nil {v : Int} (h : IsInteger cs v) : cs ≠ [] := by
  rintro rfl
  cases h with
  | natural h => cases h with
    | plain nonempty => exact nonempty rfl

theorem isInteger_toString_iff {v w : Int} : IsInteger (toString v).toList w ↔ v = w :=
  ⟨fun h => (isInteger_toString v).unique h, fun h => h ▸ isInteger_toString v⟩

end SnippetLab.Text
