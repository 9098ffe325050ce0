import SnippetLab.Text.Ranges

/-! Amounts in arguments, with letters for great factors. -/
namespace SnippetLab.Program

open SnippetLab.Text

inductive Amount
  | exact (n : Nat)
  | tooLarge
  | malformed
  deriving DecidableEq, Repr

namespace Amount

def power? (c : Char) : Option Nat := "KMGTPEZYRQ".toList.idxOf? c.toUpper |>.map (· + 1)

def factor? (allowed : String) : List Char → Option Nat
  | [] => some 1
  | c :: more =>
    if !allowed.toList.contains c then none
    else match c, power? c, more with
      | 'b', _, [] => some 512
      | 'c', _, [] => some 1
      | 'w', _, [] => some 2
      | 'B', _, [] => some 1024
      | _, some p, [] | _, some p, ['i', 'B'] => some (Nat.pow 1024 p)
      | _, some p, ['B'] | _, some p, ['D'] => some (Nat.pow 1000 p)
      | _, _, _ => none

def limit : Nat := Nat.pow 2 64

def read (allowed : String) (text : String) : Amount :=
  let cs := text.toList.dropWhile CharClass.isSpace
  let cs := if cs.head? = some '+' then cs.drop 1 else cs
  let ds := cs.takeWhile Char.isDigit
  let rest := cs.drop ds.length
  match factor? allowed rest with
  | none => .malformed
  | some f =>
    if ds.isEmpty && (rest.isEmpty || text.startsWith "+") then .malformed
    else
      let n := (if ds.isEmpty then 1 else (String.ofList ds).toNat?.getD 0) * f
      if limit ≤ n then .tooLarge else .exact n

def common : String := "bkKmMGTPEZYRQ"

end Amount
end SnippetLab.Program
