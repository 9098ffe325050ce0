import SnippetLab.Cleanup
import SnippetLab.Failure
import SnippetLab.Text.Utf8

/-!
Directories that belong to one request each. They lie under a common base and are named by a fresh id.
-/
namespace SnippetLab

structure Workspace where
  id : String
  directory : String
  /-- The file last written. -/
  source : Option String := none
  disposed : Bool := false
  deriving DecidableEq, Repr

namespace Workspace

def runPrefix : String := "run_"

def sessionPrefix : String := "session_"

def create (t : FileTree) (now : Int) (cwd : Place) (base first id : String) :
    Except Failure Workspace × FileTree :=
  let directory := Path.join base (first ++ id)
  match t.createDirectories now cwd directory with
  | (none, t) => (.ok { id, directory }, t)
  | (some e, t) =>
    (.error (.io ("Failed to create workspace directory " ++ directory ++ ": " ++ e.message)), t)

/-- Writes a file into the workspace as far as the system goes along; a name that is absolute leads elsewhere. -/
def writeWithin (limit : FileTree.WriteLimit) (w : Workspace) (t : FileTree) (now : Int) (cwd : Place)
    (name content : String) : Except Failure String × Workspace × FileTree :=
  let path := Path.join w.directory name
  match FileTree.writeFileWithin limit t now cwd path (Text.Utf8.encode content.toList) with
  | (none, t) => (.ok path, { w with source := some path }, t)
  | (some e, t) => (.error (.io ("Failed to write source file " ++ path ++ ": " ++ e.message)), w, t)

def write (w : Workspace) (t : FileTree) (now : Int) (cwd : Place) (name content : String) :
    Except Failure String × Workspace × FileTree :=
  writeWithin .unlimited w t now cwd name content

def dispose (w : Workspace) (t : FileTree) (now : Int) (cwd : Place) : Workspace × FileTree :=
  if w.disposed then (w, t)
  else ({ w with disposed := true }, (Cleanup.removeTree t now cwd w.directory).2)

def isWorkspaceName (name : String) : Bool :=
  Text.startsWith name runPrefix || Text.startsWith name sessionPrefix

/-- A directory of that name that last changed at least so long ago. -/
def isAbandoned (t : FileTree) (now : Int) (maxAge : Nat) (place : Place) (name : String) : Bool :=
  isWorkspaceName name && t.isDirectoryAt (place ++ [name]) &&
    (t.changed? (place ++ [name])).any fun changed => changed ≤ now && (maxAge : Int) ≤ now - changed

/-- Removes a workspace that is abandoned by now, unless its path leads nowhere, and counts it if it is gone. -/
def reclaimOne (now : Int) (cwd : Place) (base : String) (maxAge : Nat) (place : Place) (done : Nat × FileTree)
    (name : String) : Nat × FileTree :=
  let (count, t) := done
  let path := Path.join base name
  if isAbandoned t now maxAge place name && (t.find cwd false path).isOk then
    let (gone, t) := Cleanup.removeTree t now cwd path
    (if gone then count + 1 else count, t)
  else (count, t)

/-- Removes the abandoned workspaces of a base, one after the other, and counts them. -/
def reclaim (t : FileTree) (now : Int) (cwd : Place) (base : String) (maxAge : Nat) :
    Except Failure Nat × FileTree :=
  if !t.isPresent cwd base then (.ok 0, t)
  else match t.listDirectory cwd base with
    | .error e => (.error (.io ("Failed to read workspace root " ++ base ++ ": " ++ e.message)), t)
    | .ok (place, names) =>
      let (count, t) := names.foldl (reclaimOne now cwd base maxAge place) (0, t)
      (.ok count, t)

end Workspace
end SnippetLab
