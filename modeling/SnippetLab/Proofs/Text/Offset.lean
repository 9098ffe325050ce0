import SnippetLab.Proofs.Text.Utf8
import SnippetLab.Text.Offset
import SnippetLab.Text.Search

/-!
Octets and characters. A place between characters has one number of octets before it, which grows with the place, so
matches that are told by octets are those that are told by characters.
-/
namespace SnippetLab.Text

variable {cs : List Char} {i j : Nat}

theorem Utf8.size_append (a b : List Char) : Utf8.size (a ++ b) = Utf8.size a + Utf8.size b := by
  induction a with
  | nil => simp [Utf8.size]
  | cons c a ih => simp only [List.cons_append, Utf8.size, ih, Nat.add_assoc]

theorem Utf8.length_encode (cs : List Char) : (Utf8.encode cs).length = Utf8.size cs := by
  induction cs with
  | nil => rfl
  | cons c cs ih =>
    rw [Utf8.encode] at ih
    rw [Utf8.encode, List.flatMap_cons, List.length_append, String.length_utf8EncodeChar, ih, Utf8.size]

/-- The octet at which character number `i` begins, or the text ends. -/
def octetAt (cs : List Char) (i : Nat) : Nat := Utf8.size (cs.take i)

@[simp]
theorem octetAt_zero (cs : List Char) : octetAt cs 0 = 0 := rfl

@[simp]
theorem octetAt_cons_succ (c : Char) (cs : List Char) (i : Nat) :
    octetAt (c :: cs) (i + 1) = c.utf8Size + octetAt cs i := rfl

theorem octetAt_of_length_le (h : cs.length ≤ i) : octetAt cs i = Utf8.size cs := by
  rw [octetAt, List.take_of_length_le h]

theorem octetAt_length_add (front rest : List Char) (i : Nat) :
    octetAt (front ++ rest) (front.length + i) = Utf8.size front + octetAt rest i := by
  rw [octetAt, List.take_length_add_append, Utf8.size_append, octetAt]

theorem octetAt_append_of_le (h : i ≤ cs.length) (tail : List Char) : octetAt (cs ++ tail) i = octetAt cs i := by
  rw [octetAt, octetAt, List.take_append_of_le_length h]

theorem octetAt_lt (hij : i < j) (hi : i < cs.length) : octetAt cs i < octetAt cs j := by
  have hsplit : cs.take j = cs.take i ++ (cs.drop i).take (j - i) := by
    rw [← List.take_add, Nat.add_sub_cancel' (Nat.le_of_lt hij)]
  obtain ⟨n, hn⟩ : ∃ n, j - i = n + 1 := ⟨j - i - 1, by omega⟩
  have hpos := cs[i].utf8Size_pos
  rw [octetAt, octetAt, hsplit, Utf8.size_append, hn, List.drop_eq_getElem_cons hi, List.take_succ_cons, Utf8.size]
  omega

theorem octetAt_le_iff (hi : i ≤ cs.length) (hj : j ≤ cs.length) : octetAt cs i ≤ octetAt cs j ↔ i ≤ j := by
  constructor
  · intro h
    refine Nat.le_of_not_lt fun hlt => ?_
    have := octetAt_lt hlt (by omega : j < cs.length)
    omega
  · intro h
    obtain hlt | rfl := Nat.lt_or_eq_of_le h
    · exact Nat.le_of_lt (octetAt_lt hlt (by omega))
    · exact Nat.le_refl _

theorem octetAt_lt_iff (hi : i ≤ cs.length) (hj : j ≤ cs.length) : octetAt cs i < octetAt cs j ↔ i < j := by
  rw [← Nat.not_le, ← Nat.not_le, octetAt_le_iff hj hi]

theorem length_starts (here : Nat) (cs : List Char) : (starts here cs).length = cs.length := by
  induction cs generalizing here with
  | nil => rfl
  | cons c cs ih => simp [starts, ih]

theorem getElem?_starts (here i : Nat) (cs : List Char) :
    (starts here cs)[i]? = if i < cs.length then some (here + octetAt cs i) else none := by
  induction cs generalizing here i with
  | nil => simp [starts]
  | cons c cs ih =>
    cases i with
    | zero => simp [starts]
    | succ i =>
      simp only [starts, List.getElem?_cons_succ, ih, List.length_cons, Nat.add_lt_add_iff_right, octetAt_cons_succ,
        Nat.add_assoc]

theorem findOctet?_eq (p cs : List Char) : findOctet? p cs = (find? p cs).map (octetAt cs) := by
  induction cs with
  | nil =>
    rw [findOctet?, find?]
    split <;> rfl
  | cons c cs ih =>
    rw [findOctet?, find?]
    split
    · rfl
    · rw [ih, Option.map_map, Option.map_map]
      refine congrFun (congrArg Option.map (funext fun i => ?_)) _
      exact Nat.add_comm _ _

theorem splitAtOctet_octetAt (cs : List Char) (i : Nat) : splitAtOctet (octetAt cs i) cs = (cs.take i, cs.drop i) := by
  induction cs generalizing i with
  | nil => simp [splitAtOctet]
  | cons c cs ih =>
    cases i with
    | zero => rfl
    | succ i =>
      have hpos := c.utf8Size_pos
      rw [octetAt_cons_succ, splitAtOctet, if_neg (by omega), Nat.add_sub_cancel_left, ih]
      rfl

/-! ### Matches -/

def Match.stretch (m : Match α) (text : List Char) : Stretch :=
  ⟨octetAt text m.start, octetAt text m.stop, (text.drop m.start).take (m.stop - m.start)⟩

theorem Match.stretch_append {m : Match α} (hstart : m.start ≤ m.stop) (hstop : m.stop ≤ cs.length) (tail : List Char) :
    m.stretch (cs ++ tail) = m.stretch cs := by
  have hlength : m.stop - m.start ≤ (cs.drop m.start).length := by
    rw [List.length_drop]
    omega
  simp only [stretch, octetAt_append_of_le hstop, octetAt_append_of_le (Nat.le_trans hstart hstop),
    List.drop_append_of_le_length (Nat.le_trans hstart hstop), List.take_append_of_le_length hlength]

namespace Pattern

theorem scanOctets_eq (p : Pattern α) (cs : List Char) (skip : Nat) (before : Option Char) (front : List Char) :
    p.scanOctets skip before (Utf8.size front) cs =
      (p.scan skip before front.length cs).map fun m => m.stretch (front ++ cs) := by
  -- on the rest of the text, as in the scan; what was passed grows to the right
  induction cs generalizing skip before front with
  | nil => simp [scanOctets, scan]
  | cons c cs ih =>
    have hnext (skip : Nat) : p.scanOctets skip (some c) (Utf8.size front + c.utf8Size) cs =
        (p.scan skip (some c) (front.length + 1) cs).map fun m => m.stretch (front ++ c :: cs) := by
      have hstep := ih skip (some c) (front ++ [c])
      rw [Utf8.size_append, List.length_append, List.append_assoc] at hstep
      exact hstep
    cases skip with
    | succ skip => simpa only [scanOctets, scan] using hnext skip
    | zero =>
      cases hc : p before (c :: cs) with
      | none => simpa only [scanOctets, scan, hc] using hnext 0
      | some found =>
        have hstart := octetAt_length_add front (c :: cs) 0
        simp only [scanOctets, scan, hc, List.map_cons, hnext]
        refine congrFun (congrArg List.cons ?_) _
        simp only [Match.stretch, octetAt_length_add, List.drop_left, Nat.add_sub_cancel_left]
        exact congrFun (congrArg₂ Stretch.mk hstart.symm rfl) _

theorem stretches_eq (p : Pattern α) (cs : List Char) : p.stretches cs = (p.findAll cs).map fun m => m.stretch cs :=
  scanOctets_eq p cs 0 none []

end Pattern
end SnippetLab.Text
