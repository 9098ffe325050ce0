import SnippetLab.Text.Offset

/-! Columns of a line. Matches are found by octets, tokens are told by characters. -/
namespace SnippetLab.Lexer

/-- Where a number stands in a rising row, or where it would have to stand. -/
def binarySearch (row : Array Nat) (x : Nat) : Except Nat Nat :=
  go 0 row.size (Nat.le_refl _)
where
  go (low high : Nat) (hhigh : high ≤ row.size) : Except Nat Nat :=
    if hlt : low < high then
      let middle := low + (high - low) / 2
      have hmiddle : middle < row.size := by omega
      if row[middle] = x then .ok middle
      else if row[middle] < x then go (middle + 1) high hhigh
      else go low middle (by omega)
    else .error low
  termination_by high - low

/-- The octets at which the characters of a line begin, and how many there are in all. -/
structure ColumnIndex where
  starts : Array Nat
  size : Nat

namespace ColumnIndex

def ofLine (line : List Char) : ColumnIndex := ⟨(Text.starts 0 line).toArray, Text.Utf8.size line⟩

/-- The column of the character that begins at an octet, or else of the next one. -/
def column (index : ColumnIndex) (octet : Nat) : Nat :=
  if index.size ≤ octet then index.starts.size
  else match binarySearch index.starts octet with
    | .ok column | .error column => column

end ColumnIndex
end SnippetLab.Lexer
