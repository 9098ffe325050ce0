import SnippetLab.Lexer.Columns
import SnippetLab.Proofs.Text.Offset

/-!
Octets told as columns. The search by halves finds how many characters begin in front of an octet, so the column of
a place between characters is the number of characters before it, however many octets they take.
-/
namespace SnippetLab.Lexer

open SnippetLab.Text

section
variable {row : Array Nat} {x i : Nat}

/-- All that is smaller than `x` stands before place `i`, and nothing else does. -/
structure IsPlace (row : Array Nat) (x i : Nat) : Prop where
  le_size : i ≤ row.size
  below : ∀ j (h : j < row.size), j < i → row[j] < x
  above : ∀ j (h : j < row.size), i ≤ j → x ≤ row[j]

theorem IsPlace.unique {k : Nat} (h : IsPlace row x i) (h' : IsPlace row x k) : i = k := by
  have hle {i k : Nat} (h : IsPlace row x i) (h' : IsPlace row x k) : i ≤ k := by
    refine Nat.le_of_not_lt fun hlt => ?_
    have hk := Nat.lt_of_lt_of_le hlt h.le_size
    exact Nat.not_le.mpr (h.below k hk hlt) (h'.above k hk (Nat.le_refl k))
  exact Nat.le_antisymm (hle h h') (hle h' h)

section
variable (hrow : ∀ i j (hi : i < row.size) (hj : j < row.size), i < j → row[i] < row[j])
include hrow

theorem isPlace_of_eq (hi : i < row.size) (hx : row[i] = x) : IsPlace row x i := by
  refine ⟨Nat.le_of_lt hi, fun j hj hji => hx ▸ hrow j i hj hi hji, fun j hj hij => ?_⟩
  obtain hlt | rfl := Nat.lt_or_eq_of_le hij
  · exact Nat.le_of_lt (hx ▸ hrow i j hi hj hlt)
  · exact Nat.le_of_eq hx.symm

/-- What lies before the part still searched is smaller, and what lies behind it is not. -/
theorem isPlace_go (low high : Nat) (hhigh : high ≤ row.size) (hle : low ≤ high)
    (hbelow : ∀ j (h : j < row.size), j < low → row[j] < x) (habove : ∀ j (h : j < row.size), high ≤ j → x ≤ row[j]) :
    IsPlace row x (match binarySearch.go row x low high hhigh with | .ok i | .error i => i) := by
  fun_induction binarySearch.go row x low high hhigh with
  | case1 low high hhigh hlt middle hmiddle heq => exact isPlace_of_eq hrow hmiddle heq
  | case2 low high hhigh hlt middle hmiddle hne hless ih =>
    have hdef : middle = low + (high - low) / 2 := rfl
    refine ih (by omega) (fun j hj hjm => ?_) habove
    obtain hjm | rfl := Nat.lt_or_eq_of_le (Nat.le_of_lt_succ hjm)
    · exact Nat.lt_trans (hrow j middle hj hmiddle hjm) hless
    · exact hless
  | case3 low high hhigh hlt middle hmiddle hne hless ih =>
    have hdef : middle = low + (high - low) / 2 := rfl
    refine ih (by omega) hbelow (fun j hj hmj => ?_)
    obtain hmj | rfl := Nat.lt_or_eq_of_le hmj
    · exact Nat.le_trans (Nat.le_of_not_lt hless) (Nat.le_of_lt (hrow middle j hmiddle hj hmj))
    · exact Nat.le_of_not_lt hless
  | case4 low high hhigh hlt =>
    have hempty : high ≤ low := Nat.le_of_not_lt hlt
    exact ⟨Nat.le_trans hle hhigh, hbelow, fun j hj hlow => habove j hj (Nat.le_trans hempty hlow)⟩

theorem isPlace_binarySearch (x : Nat) :
    IsPlace row x (match binarySearch row x with | .ok i | .error i => i) :=
  isPlace_go hrow 0 row.size (Nat.le_refl _) (Nat.zero_le _) (fun _ _ hj => absurd hj (Nat.not_lt_zero _))
    fun _ hj hle => absurd hj (Nat.not_lt.mpr hle)

end
end

namespace ColumnIndex

variable {line : List Char} {i : Nat}

theorem size_starts (line : List Char) : (ofLine line).starts.size = line.length :=
  length_starts 0 line

theorem getElem_starts (h : i < (ofLine line).starts.size) : (ofLine line).starts[i] = octetAt line i := by
  have hstart := getElem?_starts 0 i line
  rw [if_pos (by rwa [size_starts] at h), Nat.zero_add] at hstart
  exact (List.getElem?_eq_some_iff.mp hstart).2

/-- The characters that begin in front of the octet are those before the column. -/
theorem isPlace_column (line : List Char) (octet : Nat) :
    IsPlace (ofLine line).starts octet ((ofLine line).column octet) := by
  have hrow (i j : Nat) (hi : i < (ofLine line).starts.size) (hj : j < (ofLine line).starts.size) (hij : i < j) :
      (ofLine line).starts[i] < (ofLine line).starts[j] := by
    rw [getElem_starts, getElem_starts]
    exact octetAt_lt hij (by rwa [size_starts] at hi)
  unfold column
  split
  · next hsize =>
    refine ⟨Nat.le_refl _, fun j hj _ => ?_, fun j hj hle => absurd hj (Nat.not_lt.mpr hle)⟩
    rw [size_starts] at hj
    rw [getElem_starts]
    refine Nat.lt_of_lt_of_le (octetAt_lt hj hj) ?_
    rw [octetAt_of_length_le (Nat.le_refl line.length)]
    exact hsize
  · exact isPlace_binarySearch hrow octet

theorem column_octetAt (h : i ≤ line.length) : (ofLine line).column (octetAt line i) = i := by
  refine (isPlace_column line (octetAt line i)).unique ⟨by rwa [size_starts], fun j hj hji => ?_, fun j hj hij => ?_⟩
  · rw [getElem_starts]
    rw [size_starts] at hj
    exact octetAt_lt hji hj
  · rw [getElem_starts]
    rw [size_starts] at hj
    exact (octetAt_le_iff h (Nat.le_of_lt hj)).mpr hij

example : let columns := ofLine "ёж=1//€".toList
    [0, 2, 4, 5, 6, 8, 11, 20].map columns.column = [0, 1, 2, 3, 4, 6, 7, 7] ∧ columns.column 3 = 2 := by
  decide +kernel

end ColumnIndex
end SnippetLab.Lexer
