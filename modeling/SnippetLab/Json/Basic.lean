/-! JSON values. The fields of a record keep their order. -/
namespace SnippetLab

inductive Numeral
  /-- An integer literal below 2^64. -/
  | natural (n : Nat)
  /-- The literal of `-n`, with `n` from 1 to 2^63. -/
  | negative (n : Nat)
  | floating (x : Float)
  deriving Repr, Inhabited

inductive Json
  | null
  | bool (b : Bool)
  | number (n : Numeral)
  | text (s : String)
  | list (items : List Json)
  | record (fields : List (String × Json))
  deriving Repr, Inhabited

namespace Json

def nat (n : Nat) : Json := .number (.natural n)

def field? (j : Json) (name : String) : Option Json :=
  match j with
  | .record fields => (fields.find? (·.1 == name)).map (·.2)
  | _ => none

def text? : Json → Option String
  | .text s => some s
  | _ => none

def nat? : Json → Option Nat
  | .number (.natural n) => some n
  | _ => none

def int? : Json → Option Int
  | .number (.natural n) => some n
  | .number (.negative n) => some (-(n : Int))
  | _ => none

def bool? : Json → Option Bool
  | .bool b => some b
  | _ => none

def items? : Json → Option (List Json)
  | .list items => some items
  | _ => none

def fields? : Json → Option (List (String × Json))
  | .record fields => some fields
  | _ => none

end Json
end SnippetLab
