import SnippetLab.Proofs.Json.Scan
import Mathlib.Data.List.Induction

/-!
Integer literals. Without a sign, a fraction or an exponent a literal is the decimal form of its value, and only
such a literal is read as a natural number.
-/
namespace SnippetLab.Json

variable {ds cs rest : List Char} {n : Nat}

/-! Decimal forms -/

theorem digitsValue_eq (ds : List Char) : digitsValue ds = Nat.ofDigitChars 10 ds 0 := by
  unfold digitsValue Nat.ofDigitChars
  congr 1
  funext n d
  rw [Nat.mul_comm]

theorem digitsValue_toDigits (n : Nat) : digitsValue (Nat.toDigits 10 n) = n := by
  rw [digitsValue_eq]
  exact Nat.ofDigitChars_toDigits (by decide) (by decide)

theorem digitsValue_concat (ds : List Char) (d : Char) :
    digitsValue (ds ++ [d]) = digitsValue ds * 10 + (d.toNat - '0'.toNat) := by
  simp [digitsValue]

theorem toDigits_value {d : Char} (h : d.isDigit = true) :
    d.toNat - '0'.toNat < 10 ∧ Nat.toDigits 10 (d.toNat - '0'.toNat) = [d] := by
  have hbounds : 48 ≤ d.toNat ∧ d.toNat ≤ 57 := by simpa [Char.isDigit, UInt32.le_iff_toNat_le] using h
  have hless : d.toNat - '0'.toNat < 10 := by
    have hzero : '0'.toNat = 48 := rfl
    omega
  refine ⟨hless, ?_⟩
  rw [Nat.toDigits_of_lt_base hless, List.singleton_inj, ← Char.toNat_inj, Nat.toNat_digitChar_of_lt_ten hless]
  have hzero : '0'.toNat = 48 := rfl
  omega

theorem areDigits_toDigits (n : Nat) : AreDigits (Nat.toDigits 10 n) :=
  ⟨Nat.toDigits_ne_nil, fun _ hd => Nat.isDigit_of_mem_toDigits (by decide) (by decide) hd⟩

namespace Digits

theorem isWhole_toDigits (n : Nat) : IsWhole (Nat.toDigits 10 n) := by
  refine ⟨areDigits_toDigits n, ?_⟩
  induction n using Nat.strongRecOn with
  | ind n ih =>
    intro rest hrest
    by_cases hsmall : n < 10
    · rw [Nat.toDigits_of_lt_base hsmall] at hrest
      exact (List.cons_eq_cons.mp hrest).2.symm
    · have hdigits := Nat.toDigits_append_toDigits (b := 10) (n := n / 10) (d := n % 10) (by decide) (by omega)
        (Nat.mod_lt n (by decide))
      rw [Nat.div_add_mod, hrest] at hdigits
      -- the front is not zero
      obtain ⟨c, front, hfront⟩ := List.exists_cons_of_ne_nil (areDigits_toDigits (n / 10)).1
      rw [hfront, List.cons_append, List.cons_eq_cons] at hdigits
      obtain ⟨rfl, -⟩ := hdigits
      obtain rfl := ih (n / 10) (by omega) front hfront
      have hvalue := digitsValue_toDigits (n / 10)
      rw [hfront] at hvalue
      have hzero : digitsValue ['0'] = 0 := rfl
      omega

theorem IsWhole.eq_toDigits (h : IsWhole ds) : ds = Nat.toDigits 10 (digitsValue ds) := by
  induction ds using List.reverseRecOn with
  | nil => exact absurd rfl h.1.1
  | append_singleton ds d ih =>
    obtain ⟨hless, hdigit⟩ := toDigits_value (h.1.2 d (by simp))
    rw [digitsValue_concat]
    by_cases hnil : ds = []
    · subst hnil
      simpa [digitsValue] using hdigit.symm
    · have hwhole : IsWhole ds := by
        refine ⟨⟨hnil, fun x hx => h.1.2 x (List.mem_append_left _ hx)⟩, fun rest hrest => ?_⟩
        have hlast := h.2 (rest ++ [d]) (by rw [hrest]; rfl)
        simp at hlast
      have hpos : 0 < digitsValue ds := by
        refine Nat.pos_of_ne_zero fun hzero => ?_
        have hds := ih hwhole
        rw [hzero] at hds
        have hlast := h.2 [d] (by rw [hds]; rfl)
        cases hlast
      conv => lhs; rw [ih hwhole, ← hdigit]
      rw [Nat.toDigits_append_toDigits (by decide) hpos hless, Nat.mul_comm]

/-! Values -/

theorem value?_of_whole (h : digitsValue ds < UInt64.size) :
    value? false ⟨ds, [], none⟩ = some (.natural (digitsValue ds)) := by
  simp [value?, h]

/-- Only an integer literal without a sign has a natural value. -/
theorem of_value?_eq_natural {d : Digits} {negative : Bool} (h : d.value? negative = some (.natural n)) :
    d.fraction = [] ∧ d.exponent = none ∧ negative = false ∧ n = digitsValue d.whole ∧ n < UInt64.size := by
  unfold value? at h
  simp only at h
  split at h
  · next hnatural =>
    cases h
    simpa [and_assoc] using hnatural
  · split at h
    · cases h
    · simp at h

theorem IsWritten.eq_whole {d : Digits} (h : d.IsWritten cs) (hfraction : d.fraction = [])
    (hexponent : d.exponent = none) : Digits.IsWhole cs ∧ cs = d.whole := by
  cases h with
  | @mk whole fraction fs es exponent hwhole hfs hes =>
    subst hfraction hexponent
    cases hfs with
    | some hdigits => exact absurd rfl hdigits.1
    | none =>
      cases hes
      simpa using hwhole

end Digits

variable {c : Cursor} {p : Position}

theorem scanNumber_eq {d : Digits} (h : d.IsWritten cs) (hrest : EndsNumber rest) (negative : Bool) (p : Position) :
    ∃ p', scanNumber negative ⟨cs ++ rest, p⟩ =
      match d.value? negative with
      | some n => .ok (n, ⟨rest, p'⟩)
      | none => flawAt .numberOutOfRange { p' with column := p'.column - d.excess } := by
  have hscan : ∃ p', scanDigits .endInValue ⟨cs ++ rest, p⟩ = _ := Digits.scanDigits_eq h hrest p
  obtain ⟨p', hscan⟩ := hscan
  refine ⟨p', ?_⟩
  rw [scanNumber, hscan]
  rfl

theorem shape_of_digit {d : Char} (hd : d.isDigit = true) (ds : List Char) (p : Position) :
    shape ⟨d :: ds, p⟩ = (scanNumber false ⟨d :: ds, p⟩).map fun (n, c) => (.number n, c) := by
  have hother (c : Char) : c.isDigit = false → d ≠ c := ne_of_isDigit hd
  simp [shape, hother 'n', hother 't', hother 'f', hother '"', hother '-', hother '[', hother '\x7b', hd]

theorem isWritten_toDigits (n : Nat) : Digits.IsWritten ⟨Nat.toDigits 10 n, [], none⟩ (Nat.toDigits 10 n) := by
  simpa using Digits.IsWritten.mk (Digits.isWhole_toDigits n) .none .none

theorem shape_toDigits (hn : n < UInt64.size) (hrest : EndsNumber rest) (p : Position) :
    ∃ p', shape ⟨Nat.toDigits 10 n ++ rest, p⟩ = .ok (.number (.natural n), ⟨rest, p'⟩) := by
  obtain ⟨d, ds, hds, hd⟩ := (isWritten_toDigits n).front
  obtain ⟨p', hscan⟩ := scanNumber_eq (isWritten_toDigits n) hrest false p
  rw [Digits.value?_of_whole (by rwa [digitsValue_toDigits]), digitsValue_toDigits] at hscan
  refine ⟨p', ?_⟩
  rw [hds, List.cons_append] at hscan ⊢
  rw [shape_of_digit hd, hscan]
  rfl

theorem IsValue.eq_toDigits (h : IsValue cs) (hrest : EndsNumber rest)
    (hshape : shape ⟨cs ++ rest, p⟩ = .ok (.number (.natural n), c)) : n < UInt64.size ∧ cs = Nat.toDigits 10 n := by
  have hnumber {d : Digits} {cs : List Char} {negative : Bool} {p : Position} (h : d.IsWritten cs)
      (hscan : scanNumber negative ⟨cs ++ rest, p⟩ = .ok (.natural n, c)) :
      negative = false ∧ n < UInt64.size ∧ cs = Nat.toDigits 10 n := by
    obtain ⟨p', hnumber⟩ := scanNumber_eq h hrest negative p
    rw [hnumber] at hscan
    split at hscan
    · next m hvalue =>
      cases hscan
      obtain ⟨hfraction, hexponent, hsign, rfl, hless⟩ := Digits.of_value?_eq_natural hvalue
      obtain ⟨hwhole, rfl⟩ := h.eq_whole hfraction hexponent
      exact ⟨hsign, hless, hwhole.eq_toDigits⟩
    · cases hscan
  cases h with
  | null | isTrue | isFalse | text | list | record =>
    simp only [shape, List.cons_append, Except.map_eq_ok_iff] at hshape
    simp at hshape
  | negative h =>
    simp only [shape, List.cons_append, Except.map_eq_ok_iff] at hshape
    obtain ⟨⟨m, c'⟩, hscan, heq⟩ := hshape
    cases heq
    cases (hnumber h hscan).1
  | number h =>
    obtain ⟨d, ds, rfl, hd⟩ := h.front
    rw [List.cons_append, shape_of_digit hd, Except.map_eq_ok_iff] at hshape
    obtain ⟨⟨m, c'⟩, hscan, heq⟩ := hshape
    cases heq
    exact (hnumber h hscan).2

/-! Natural numbers of a document -/

section

variable {c c' : Cursor} {fuel : Nat} {name : String}

theorem lt_of_scanNumber {negative : Bool} (h : scanNumber negative c = .ok (.natural n, c')) : n < UInt64.size := by
  obtain ⟨⟨d, c''⟩, -, hvalue⟩ := Except.bind_eq_ok_iff.mp h
  dsimp only at hvalue
  split at hvalue
  · next hd =>
    cases hvalue
    exact (Digits.of_value?_eq_natural hd).2.2.2.2
  · cases hvalue

theorem lt_of_shape (h : shape c = .ok (.number (.natural n), c')) : n < UInt64.size := by
  have hnumber {negative : Bool} {c : Cursor}
      (h : (scanNumber negative c).map (fun x => (Shape.number x.1, x.2)) = .ok (.number (.natural n), c')) :
      n < UInt64.size := by
    obtain ⟨⟨m, c''⟩, hscan, heq⟩ := Except.map_eq_ok_iff.mp h
    cases heq
    exact lt_of_scanNumber hscan
  unfold shape at h
  split at h
  case h_7 => exact hnumber h
  case h_8 =>
    split at h
    · exact hnumber h
    · cases h
  case h_5 | h_6 | h_9 => cases h
  case h_1 | h_2 | h_3 | h_4 =>
    obtain ⟨x, -, heq⟩ := Except.map_eq_ok_iff.mp h
    cases heq

theorem lt_of_readValue (h : readValue fuel c = .ok (.nat n, c')) : n < UInt64.size := by
  cases fuel with
  | zero => cases h
  | succ fuel =>
    rw [readValue] at h
    obtain ⟨c₁, -, h⟩ := Except.bind_eq_ok_iff.mp h
    obtain ⟨⟨s, c₂⟩, hshape, h⟩ := Except.bind_eq_ok_iff.mp h
    cases s with
    | number m =>
      cases h
      exact lt_of_shape hshape
    | null | bool | text => cases h
    | list | record =>
      obtain ⟨x, -, h⟩ := Except.bind_eq_ok_iff.mp h
      cases h

theorem lt_of_readFields {first : Bool} {fields : List (String × Json)}
    (h : readFields fuel first c = .ok (fields, c')) (hfield : (name, .nat n) ∈ fields) : n < UInt64.size := by
  induction fuel generalizing first c fields with
  | zero => cases h
  | succ fuel ih =>
    rw [readFields] at h
    obtain ⟨next, -, h⟩ := Except.bind_eq_ok_iff.mp h
    cases next with
    | closed c₁ =>
      cases h
      cases hfield
    | part c₁ =>
      obtain ⟨⟨key, c₂⟩, -, h⟩ := Except.bind_eq_ok_iff.mp h
      obtain ⟨c₃, -, h⟩ := Except.bind_eq_ok_iff.mp h
      obtain ⟨⟨value, c₄⟩, hvalue, h⟩ := Except.bind_eq_ok_iff.mp h
      obtain ⟨⟨fields, c₅⟩, hfields, h⟩ := Except.bind_eq_ok_iff.mp h
      cases h
      obtain heq | hfield := List.mem_cons.mp hfield
      · cases heq
        exact lt_of_readValue hvalue
      · exact ih hfields hfield

/-- A field that is a natural number has 64 bits; an integer literal beyond them is read as a double. -/
theorem lt_of_parse {text : String} {fields : List (String × Json)} (h : parse text = .ok (.record fields))
    (hfield : (name, .nat n) ∈ fields) : n < UInt64.size := by
  obtain ⟨⟨j, c₁⟩, hread, h⟩ := Except.bind_eq_ok_iff.mp h
  obtain ⟨-, -, h⟩ := Except.bind_eq_ok_iff.mp h
  cases h
  rw [Cursor.fuel, readValue] at hread
  obtain ⟨c₂, -, h⟩ := Except.bind_eq_ok_iff.mp hread
  obtain ⟨⟨s, c₃⟩, -, h⟩ := Except.bind_eq_ok_iff.mp h
  cases s with
  | record =>
    obtain ⟨⟨fields, c₄⟩, hfields, h⟩ := Except.bind_eq_ok_iff.mp h
    cases h
    exact lt_of_readFields hfields hfield
  | null | bool | number | text => cases h
  | list =>
    obtain ⟨x, -, h⟩ := Except.bind_eq_ok_iff.mp h
    cases h

end

end SnippetLab.Json
