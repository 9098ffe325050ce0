import SnippetLab.Text.Utf8
import Mathlib.Data.List.Induction

/-!
What is encoded is decoded again. Of a text that is cut somewhere in its octets the characters that are complete
come back, and one sign for a character that is not.
-/
namespace SnippetLab.Text.Utf8

variable {b : Nat} {read : List Char}

/-! The first octet says how many there are, and bounds the second one. -/

theorem lead_of_two (hb : 0xC2 ≤ b ∧ b ≤ 0xDF) : lead b = .begins ⟨b - 0xC0, 1, 0x80, 0xBF⟩ := by
  rw [lead, if_neg (by omega), if_pos hb]

/-- Neither shorter forms nor surrogates are let in. -/
theorem lead_of_three (hb : 0xE0 ≤ b ∧ b ≤ 0xEF) : ∃ low high, lead b = .begins ⟨b - 0xE0, 2, low, high⟩ ∧
    ∀ x, 0x80 ≤ x → x ≤ 0xBF → (b = 0xE0 → 0xA0 ≤ x) → (b = 0xED → x ≤ 0x9F) → low ≤ x ∧ x ≤ high := by
  rw [lead, if_neg (by omega), if_neg (by omega)]
  split
  · next h => exact ⟨0xA0, 0xBF, by rw [h], by omega⟩
  · split
    · next h => exact ⟨0x80, 0x9F, by rw [h], by omega⟩
    · rw [if_pos (by omega)]
      exact ⟨0x80, 0xBF, rfl, by omega⟩

theorem lead_of_four (hb : 0xF0 ≤ b ∧ b ≤ 0xF4) : ∃ low high, lead b = .begins ⟨b - 0xF0, 3, low, high⟩ ∧
    ∀ x, 0x80 ≤ x → x ≤ 0xBF → (b = 0xF0 → 0x90 ≤ x) → (b = 0xF4 → x ≤ 0x8F) → low ≤ x ∧ x ≤ high := by
  rw [lead, if_neg (by omega), if_neg (by omega), if_neg (by omega), if_neg (by omega), if_neg (by omega)]
  split
  · next h => exact ⟨0x90, 0xBF, by rw [h], by omega⟩
  · split
    · exact ⟨0x80, 0xBF, rfl, by omega⟩
    · rw [if_pos (by omega)]
      exact ⟨0x80, 0x8F, by rw [show b = 0xF4 by omega], by omega⟩

namespace Decoder

theorem step_whole (hb : b ≤ 0x7F) : step ⟨read, none⟩ (UInt8.ofNat b) = ⟨Char.ofNat b :: read, none⟩ := by
  rw [step, UInt8.toNat_ofNat_of_lt' (Nat.lt_of_le_of_lt hb (by decide))]
  simp only [begin, lead, if_pos hb]

theorem step_begins {p : Pending} (hb : b < 256) (h : lead b = .begins p) :
    step ⟨read, none⟩ (UInt8.ofNat b) = ⟨read, some p⟩ := by
  rw [step, UInt8.toNat_ofNat_of_lt' hb]
  simp only [begin, h]

theorem step_within {p : Pending} (hb : b < 256) (hlow : p.low ≤ b) (hhigh : b ≤ p.high) (hneeded : p.needed ≠ 1) :
    step ⟨read, some p⟩ (UInt8.ofNat b) = ⟨read, some ⟨p.bits * 64 + (b - 0x80), p.needed - 1, 0x80, 0xBF⟩⟩ := by
  rw [step, UInt8.toNat_ofNat_of_lt' hb]
  simp only [hlow, hhigh, hneeded, and_self, if_true, if_false]

theorem step_completes {p : Pending} (hb : b < 256) (hlow : p.low ≤ b) (hhigh : b ≤ p.high) (hneeded : p.needed = 1) :
    step ⟨read, some p⟩ (UInt8.ofNat b) = ⟨Char.ofNat (p.bits * 64 + (b - 0x80)) :: read, none⟩ := by
  rw [step, UInt8.toNat_ofNat_of_lt' hb]
  simp only [hlow, hhigh, hneeded, and_self, if_true]

end Decoder

open Decoder

/-- Octets that complete a pending character. -/
inductive Completes (c : Char) : Pending → List UInt8 → Prop
  | last {p : Pending} {b : Nat} (octet : b < 256) (low : p.low ≤ b) (high : b ≤ p.high) (needed : p.needed = 1)
      (char : Char.ofNat (p.bits * 64 + (b - 0x80)) = c) : Completes c p [UInt8.ofNat b]
  | more {p : Pending} {b : Nat} {octets : List UInt8} (octet : b < 256) (low : p.low ≤ b) (high : b ≤ p.high)
      (needed : p.needed ≠ 1) (rest : Completes c ⟨p.bits * 64 + (b - 0x80), p.needed - 1, 0x80, 0xBF⟩ octets) :
      Completes c p (UInt8.ofNat b :: octets)

theorem utf8EncodeChar_cases (c : Char) :
    (∃ b, b ≤ 0x7F ∧ Char.ofNat b = c ∧ String.utf8EncodeChar c = [UInt8.ofNat b]) ∨
    ∃ b p octets, b < 256 ∧ lead b = .begins p ∧ Completes c p octets ∧
      String.utf8EncodeChar c = UInt8.ofNat b :: octets := by
  unfold String.utf8EncodeChar
  extract_lets v
  have hvalid : v < 0xD800 ∨ 0xDFFF < v ∧ v < 0x110000 := c.valid
  have hchar {n : Nat} (hn : n = v) : Char.ofNat n = c := hn ▸ Char.ofNat_toNat c
  clear_value v
  split
  · next hv => exact .inl ⟨v, hv, hchar rfl, rfl⟩
  · refine .inr ?_
    split
    · next hv =>
      have hlead := lead_of_two (b := v / 64 % 32 + 192) (by omega)
      refine ⟨_, _, _, by omega, hlead, ?_, rfl⟩
      exact .last (by omega) (by simp) (by simp only; omega) rfl (hchar (by simp only; omega))
    · split
      · next hv =>
        obtain ⟨low, high, hlead, hrange⟩ := lead_of_three (b := v / 4096 % 16 + 224) (by omega)
        obtain ⟨hlow, hhigh⟩ := hrange (v / 64 % 64 + 128) (by omega) (by omega) (by omega) (by omega)
        refine ⟨_, _, _, by omega, hlead, ?_, rfl⟩
        refine .more (by omega) hlow hhigh (by simp) ?_
        exact .last (by omega) (by simp) (by simp only; omega) rfl (hchar (by simp only; omega))
      · next hv =>
        obtain ⟨low, high, hlead, hrange⟩ := lead_of_four (b := v / 262144 % 8 + 240) (by omega)
        obtain ⟨hlow, hhigh⟩ := hrange (v / 4096 % 64 + 128) (by omega) (by omega) (by omega) (by omega)
        refine ⟨_, _, _, by omega, hlead, ?_, rfl⟩
        refine .more (by omega) hlow hhigh (by simp) ?_
        refine .more (by omega) (by simp) (by simp only; omega) (by simp) ?_
        exact .last (by omega) (by simp) (by simp only; omega) rfl (hchar (by simp only; omega))

namespace Completes

variable {c : Char} {p : Pending} {octets : List UInt8}

theorem foldl (h : Completes c p octets) (read : List Char) : octets.foldl step ⟨read, some p⟩ = ⟨c :: read, none⟩ := by
  induction h with
  | last octet low high needed char => rw [List.foldl_cons, step_completes octet low high needed, char, List.foldl_nil]
  | more octet low high needed rest ih => rw [List.foldl_cons, step_within octet low high needed, ih]

theorem foldl_take (h : Completes c p octets) (read : List Char) {n : Nat} (hn : n < octets.length) :
    ∃ q, (octets.take n).foldl step ⟨read, some p⟩ = ⟨read, some q⟩ := by
  induction h generalizing n with
  | @last p b octet low high needed char =>
    obtain rfl : n = 0 := by simpa using hn
    exact ⟨p, rfl⟩
  | @more p b octets octet low high needed rest ih =>
    cases n with
    | zero => exact ⟨p, rfl⟩
    | succ n =>
      rw [List.take_succ_cons, List.foldl_cons, step_within octet low high needed]
      exact ih (by simpa using hn)

end Completes

theorem foldl_utf8EncodeChar (c : Char) (read : List Char) :
    (String.utf8EncodeChar c).foldl step ⟨read, none⟩ = ⟨c :: read, none⟩ := by
  obtain ⟨b, hb, hchar, hc⟩ | ⟨b, p, octets, hb, hlead, hoctets, hc⟩ := utf8EncodeChar_cases c
  · rw [hc, List.foldl_cons, step_whole hb, hchar, List.foldl_nil]
  · rw [hc, List.foldl_cons, step_begins hb hlead, hoctets.foldl]

/-- A character that is cut is pending in the end. -/
theorem foldl_take_utf8EncodeChar (c : Char) (read : List Char) {n : Nat} (hpos : 0 < n)
    (hcut : n < (String.utf8EncodeChar c).length) :
    ∃ q, ((String.utf8EncodeChar c).take n).foldl step ⟨read, none⟩ = ⟨read, some q⟩ := by
  obtain ⟨k, rfl⟩ := Nat.exists_eq_succ_of_ne_zero (Nat.ne_of_gt hpos)
  obtain ⟨b, hb, hchar, hc⟩ | ⟨b, p, octets, hb, hlead, hoctets, hc⟩ := utf8EncodeChar_cases c
  · simp [hc] at hcut
  · rw [hc] at hcut ⊢
    rw [List.take_succ_cons, List.foldl_cons, step_begins hb hlead]
    exact hoctets.foldl_take read (by simpa using hcut)

theorem foldl_encode (cs read : List Char) : (encode cs).foldl step ⟨read, none⟩ = ⟨cs.reverse ++ read, none⟩ := by
  induction cs generalizing read with
  | nil => rfl
  | cons c cs ih =>
    rw [encode, List.flatMap_cons, List.foldl_append, foldl_utf8EncodeChar, ← encode, ih]
    simp

theorem decodeLossy_encode (cs : List Char) : decodeLossy (encode cs) = cs := by
  rw [decodeLossy, foldl_encode]
  simp [Decoder.finish]

theorem decode?_encode (cs : List Char) : decode? (encode cs) = some cs := by
  rw [decode?, decodeLossy_encode]
  simp

/-! ### A text cut somewhere in its octets -/

theorem encode_append (cs ds : List Char) : encode (cs ++ ds) = encode cs ++ encode ds := List.flatMap_append

theorem encode_singleton (c : Char) : encode [c] = String.utf8EncodeChar c := by simp [encode]

theorem length_encode_le {cs ds : List Char} (h : cs <+: ds) : (encode cs).length ≤ (encode ds).length := by
  obtain ⟨rest, rfl⟩ := h
  rw [encode_append, List.length_append]
  omega

/-- The longest front of a text that needs no more than so many octets. -/
structure IsFitting (limit : Nat) (cs front : List Char) : Prop where
  isPrefix : front <+: cs
  fits : (encode front).length ≤ limit
  longest : ∀ other, other <+: cs → (encode other).length ≤ limit → other <+: front

/-- The limit falls between two octets of one character. -/
def CutsChar (limit : Nat) (cs : List Char) : Prop :=
  ∃ front c back, cs = front ++ c :: back ∧
    (encode front).length < limit ∧ limit < (encode (front ++ [c])).length

variable {limit : Nat} {cs front back : List Char} {c : Char}

/-- A text with too many octets has a character at which they become too many. -/
theorem exists_split_of_lt (h : limit < (encode cs).length) :
    ∃ front c back, cs = front ++ c :: back ∧
      (encode front).length ≤ limit ∧ limit < (encode (front ++ [c])).length := by
  induction cs using List.reverseRecOn with
  | nil => exact absurd h (Nat.not_lt_zero limit)
  | append_singleton cs c ih =>
    by_cases hfits : (encode cs).length ≤ limit
    · exact ⟨cs, c, [], rfl, hfits, h⟩
    · obtain ⟨front, d, back, rfl, hfront, hd⟩ := ih (Nat.not_le.mp hfits)
      exact ⟨front, d, back ++ [c], by simp, hfront, hd⟩

theorem isFitting_self (h : (encode cs).length ≤ limit) : IsFitting limit cs cs :=
  ⟨List.prefix_refl cs, h, fun _ hother _ => hother⟩

theorem isFitting_of_split (hfront : (encode front).length ≤ limit)
    (hc : limit < (encode (front ++ [c])).length) : IsFitting limit (front ++ c :: back) front := by
  refine ⟨List.prefix_append front _, hfront, fun other hother hfits => ?_⟩
  have hnext : front ++ [c] <+: front ++ c :: back := by simp
  obtain hle | hle := List.prefix_or_prefix_of_prefix hother hnext
  · obtain rfl | hshort := List.prefix_concat_iff.mp hle
    · omega
    · exact hshort
  · have hlong := length_encode_le hle
    omega

theorem IsFitting.unique {front' : List Char} (h : IsFitting limit cs front) (h' : IsFitting limit cs front') :
    front' = front :=
  (h.longest front' h'.isPrefix h'.fits).eq_of_length_le (h'.longest front h.isPrefix h.fits).length_le

theorem not_cutsChar (h : (encode cs).length ≤ limit) : ¬CutsChar limit cs := by
  rintro ⟨front, c, back, rfl, -, hc⟩
  have hle : (encode (front ++ [c])).length ≤ (encode (front ++ c :: back)).length := length_encode_le (by simp)
  omega

/-- A cut shows in that octets are kept beyond the longest front. -/
theorem cutsChar_iff (hfront : (encode front).length ≤ limit) (hc : limit < (encode (front ++ [c])).length) :
    CutsChar limit (front ++ c :: back) ↔ (encode front).length < limit := by
  refine ⟨fun ⟨front', c', back', heq, hlt, hc'⟩ => ?_, fun h => ⟨front, c, back, rfl, h, hc⟩⟩
  have hfitting : IsFitting limit (front ++ c :: back) front' := heq ▸ isFitting_of_split (Nat.le_of_lt hlt) hc'
  rwa [hfitting.unique (isFitting_of_split hfront hc)]

/-- Decoding the front of the octets of a text gives the characters that are complete there, and one sign for
a character that is not. -/
theorem decodeLossy_take (limit : Nat) (cs : List Char) :
    ∃ front, IsFitting limit cs front ∧
      (CutsChar limit cs → decodeLossy ((encode cs).take limit) = front ++ ['\uFFFD']) ∧
      (¬CutsChar limit cs → decodeLossy ((encode cs).take limit) = front) := by
  by_cases hfits : (encode cs).length ≤ limit
  · refine ⟨cs, isFitting_self hfits, fun h => absurd h (not_cutsChar hfits), fun _ => ?_⟩
    rw [List.take_of_length_le hfits, decodeLossy_encode]
  · obtain ⟨front, c, back, rfl, hfront, hc⟩ := exists_split_of_lt (Nat.not_le.mp hfits)
    have hcut : limit - (encode front).length < (String.utf8EncodeChar c).length := by
      rw [encode_append, encode_singleton, List.length_append] at hc
      omega
    have htake : (encode (front ++ c :: back)).take limit =
        encode front ++ (String.utf8EncodeChar c).take (limit - (encode front).length) := by
      rw [← List.singleton_append, encode_append, encode_append, encode_singleton, List.take_append,
        List.take_of_length_le hfront, List.take_append_of_le_length (Nat.le_of_lt hcut)]
    refine ⟨front, isFitting_of_split hfront hc, ?_⟩
    rw [cutsChar_iff hfront hc, htake, decodeLossy, List.foldl_append, foldl_encode]
    constructor
    · intro hlt
      obtain ⟨q, hq⟩ := foldl_take_utf8EncodeChar c (front.reverse ++ []) (Nat.sub_pos_of_lt hlt) hcut
      rw [hq]
      simp [Decoder.finish]
    · intro hle
      rw [Nat.sub_eq_zero_of_le (Nat.not_lt.mp hle)]
      simp [Decoder.finish]

end SnippetLab.Text.Utf8
