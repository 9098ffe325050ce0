import SnippetLab.Token.Basic

/-! What is known about the names of a program. -/
namespace SnippetLab

/-- The meaning of a name, with the declared type of a variable or the path of an import. -/
structure SymbolInfo where
  kind : SymbolKind
  detail : Option String := none
  deriving DecidableEq, Repr

/-- Names in the order in which they became known; each comes once. -/
structure SymbolMap where
  entries : List (String × SymbolInfo) := []
  deriving DecidableEq, Repr

namespace SymbolMap

def empty : SymbolMap := {}

def get? (m : SymbolMap) (name : String) : Option SymbolInfo :=
  (m.entries.find? (·.1 == name)).map (·.2)

def contains (m : SymbolMap) (name : String) : Bool := (m.get? name).isSome

def size (m : SymbolMap) : Nat := m.entries.length

def put (m : SymbolMap) (name : String) (info : SymbolInfo) : SymbolMap :=
  ⟨go m.entries⟩
where
  go : List (String × SymbolInfo) → List (String × SymbolInfo)
    | [] => [(name, info)]
    | (n, i) :: rest => if n == name then (name, info) :: rest else (n, i) :: go rest

def add (m : SymbolMap) (name : String) (info : SymbolInfo) : SymbolMap :=
  if m.contains name then m else m.put name info

def ofList (entries : List (String × SymbolInfo)) : SymbolMap :=
  entries.foldl (fun m e => m.put e.1 e.2) empty

end SymbolMap
end SnippetLab
