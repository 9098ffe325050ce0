import SnippetLab.FileTree.Operations
import SnippetLab.Text.Search

/-! Removing leftovers. What cannot be removed stays, and nothing else happens. -/
namespace SnippetLab.Cleanup

open SnippetLab.Text

def isStale (name : String) : Bool :=
  endsWith name ".tri" || endsWith name ".exe" || startsWith name "temp_"
    || ["privet", "a.out", "main"].contains name

def removeTree (t : FileTree) (now : Int) (cwd : Place) (path : String) : Bool × FileTree :=
  let (error, t) := t.removeTree now cwd path
  (error.all (· == .noEntry), t)

def staleNames (t : FileTree) (place : Place) (names : List String) : List String :=
  names.filter fun name => isStale name && (t.node? (place ++ [name])).any Node.isFile

/-- What the system refuses whatever the tree looks like: rights, quotas, a file system that nobody may write. -/
structure Refusals where
  listing : Option SystemError
  removal : String → Option SystemError

def Refusals.nothing : Refusals := ⟨none, fun _ => none⟩

def removeStale (refusals : Refusals) (t : FileTree) (now : Int) (cwd : Place) (root : String) (place : Place)
    (name : String) : Except SystemError FileTree :=
  match t.find cwd false (Path.join root name) with
  | .error e => .error e
  | .ok _ =>
    match refusals.removal name with
    | some e => .error e
    | none => .ok (t.erase now (place ++ [name]))

def purgeOne (refusals : Refusals) (now : Int) (cwd : Place) (root : String) (place : Place) (done : Nat × FileTree)
    (name : String) : Nat × FileTree :=
  match removeStale refusals done.2 now cwd root place name with
  | .ok t => (done.1 + 1, t)
  | .error _ => done

/-- Removes the stale files that the system lets go, one after the other, and counts them. -/
def purgeUnless (refusals : Refusals) (t : FileTree) (now : Int) (cwd : Place) (root : String) : Nat × FileTree :=
  match refusals.listing, t.listDirectory cwd root with
  | some _, _ => (0, t)
  | none, .error _ => (0, t)
  | none, .ok (place, names) => (staleNames t place names).foldl (purgeOne refusals now cwd root place) (0, t)

def purge (t : FileTree) (now : Int) (cwd : Place) (root : String) : Nat × FileTree :=
  purgeUnless .nothing t now cwd root

end SnippetLab.Cleanup
