import SnippetLab.Path
import SnippetLab.SystemError

/-!
A tree of directories, files and symbolic links. A place is the list of names from the root. The root
is always a directory. Each entry has the time of its last change in milliseconds.
-/
namespace SnippetLab

abbrev Place := List String

inductive Device
  | null
  | zero
  | full
  | random
  | terminal
  deriving DecidableEq, Repr

inductive Node
  | directory
  | file (content : List UInt8) (mode : Nat)
  | link (target : String)
  | device (kind : Device)
  | fifo (mode : Nat)
  deriving DecidableEq, Repr

namespace Node

def isDirectory : Node → Bool
  | directory => true
  | _ => false

def isFile : Node → Bool
  | file _ _ => true
  | _ => false

def isRunnable : Node → Bool
  | file _ mode => mode &&& 0o111 ≠ 0
  | _ => false

end Node

structure FileTree where
  entries : List (Place × Node × Int) := []
  deriving DecidableEq, Repr

namespace FileTree

def entry? (t : FileTree) (p : Place) : Option (Node × Int) :=
  (t.entries.find? (·.1 == p)).map (·.2)

def node? (t : FileTree) (p : Place) : Option Node :=
  if p.isEmpty then some .directory else (t.entry? p).map (·.1)

def changed? (t : FileTree) (p : Place) : Option Int := (t.entry? p).map (·.2)

def isDirectoryAt (t : FileTree) (p : Place) : Bool := (t.node? p).any Node.isDirectory

/-- The place lies at or under `top`. -/
def within (top p : Place) : Bool := top.isPrefixOf p

def children (t : FileTree) (p : Place) : List String :=
  t.entries.filterMap fun e =>
    if e.1.dropLast = p ∧ e.1 ≠ [] then e.1.getLast? else none

def stamp (t : FileTree) (p : Place) (now : Int) : FileTree :=
  ⟨t.entries.map fun e => if e.1 = p then (e.1, e.2.1, now) else e⟩

/-- Puts a node in a place; a new entry changes the directory that holds it. -/
def put (t : FileTree) (now : Int) (p : Place) (n : Node) : FileTree :=
  match t.entry? p with
  | some _ => ⟨t.entries.map fun e => if e.1 = p then (p, n, now) else e⟩
  | none => (⟨t.entries ++ [(p, n, now)]⟩ : FileTree).stamp p.dropLast now

/-- Removes the entry and all under it; this changes the directory that held it. -/
def erase (t : FileTree) (now : Int) (p : Place) : FileTree :=
  (⟨t.entries.filter fun e => !within p e.1⟩ : FileTree).stamp p.dropLast now

/-- Removes all under a directory, which stays. -/
def clear (t : FileTree) (now : Int) (p : Place) : FileTree :=
  (⟨t.entries.filter fun e => !within p e.1 || e.1 = p⟩ : FileTree).stamp p now

def move (t : FileTree) (now : Int) (source target : Place) : FileTree :=
  let t : FileTree := ⟨t.entries.filter fun e => !within target e.1⟩
  let moved : FileTree := ⟨t.entries.map fun e =>
    if within source e.1 then (target ++ e.1.drop source.length, e.2) else e⟩
  (moved.stamp source.dropLast now).stamp target.dropLast now

/-- Paths under a place, relative to it: a directory ends in a slash, a link in an at sign. -/
def listing (t : FileTree) (top : Place) : List String :=
  let shown := t.entries.filterMap fun e =>
    if within top e.1 ∧ e.1 ≠ top then
      some <| "/".intercalate (e.1.drop top.length) ++
        match e.2.1 with
        | .directory => "/"
        | .link _ => "@"
        | _ => ""
    else none
  shown.mergeSort fun a b => decide (a ≤ b)

end FileTree
end SnippetLab
