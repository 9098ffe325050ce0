import SnippetLab.FileTree.Resolve

/-! Reading and changing a tree by path. A refused change leaves the tree as it was, unless said
otherwise. -/
namespace SnippetLab.FileTree

def defaultMode : Nat := 0o644

def readFile (t : FileTree) (cwd : Place) (path : String) : Except SystemError (List UInt8) :=
  match t.find cwd true path with
  | .ok (_, .file content _) => .ok content
  | .ok (_, .directory) => .error .isDirectory
  | .ok _ => .ok []
  | .error e => .error e

def listDirectory (t : FileTree) (cwd : Place) (path : String) : Except SystemError (Place × List String) :=
  match t.find cwd true path with
  | .ok (place, .directory) => .ok (place, t.children place)
  | .ok _ => .error .notDirectory
  | .error e => .error e

/-- How far the system goes along with a write, whatever the tree looks like. -/
inductive WriteLimit
  | unlimited
  | closed (e : SystemError)
  /-- A full disk, a quota or a limit on the size of files leaves room for so many octets. -/
  | room (octets : Nat) (e : SystemError)
  deriving DecidableEq, Repr

namespace WriteLimit

def taken : WriteLimit → List UInt8 → List UInt8
  | room octets _, content => content.take octets
  | _, content => content

def shortage? : WriteLimit → List UInt8 → Option SystemError
  | unlimited, _ => none
  | closed e, _ => some e
  | room octets e, content => if octets < content.length then some e else none

end WriteLimit

/-- The file that a path is about to be written to, with its mode; a new one gets the default mode. A link that leads
nowhere yet is followed. Other entries that can be written are no files. -/
def writable (t : FileTree) (cwd : Place) (path : String) : Except SystemError (Option (Place × Nat)) :=
  let free := Path.endsInSlash path
    && match t.resolve cwd true (Path.withoutSlash path) with
      | .ok (.free _) => true
      | _ => false
  if free then .error .isDirectory
  else match t.resolve cwd true path with
    | .ok (.entry _ .directory) => .error .isDirectory
    | .ok (.entry place (.file _ mode)) => .ok (some (place, mode))
    | .ok (.entry _ (.link _)) => .error .tooManyLinks
    | .ok (.entry _ _) => .ok none
    | .ok (.free place) => .ok (some (place, defaultMode))
    | .error e => .error e

def fill (t : FileTree) (now : Int) (content : List UInt8) : Option (Place × Nat) → FileTree
  | some (place, mode) => t.put now place (.file content mode)
  | none => t

/-- Makes a file or empties it, and then writes to it. What the system took stays when the rest does not go in. -/
def writeFileWithin (limit : WriteLimit) (t : FileTree) (now : Int) (cwd : Place) (path : String)
    (content : List UInt8) : Option SystemError × FileTree :=
  match t.writable cwd path, limit with
  | .error e, _ => (some e, t)
  | .ok _, .closed e => (some e, t)
  | .ok target, limit => (limit.shortage? content, t.fill now (limit.taken content) target)

def writeFile (t : FileTree) (now : Int) (cwd : Place) (path : String) (content : List UInt8) :
    Except SystemError FileTree :=
  match writeFileWithin .unlimited t now cwd path content with
  | (none, t) => .ok t
  | (some e, _) => .error e

def createDirectory (t : FileTree) (now : Int) (cwd : Place) (path : String) : Except SystemError FileTree :=
  match t.resolve cwd false (Path.withoutSlash path) with
  | .ok (.entry _ _) => .error .alreadyExists
  | .ok (.free place) => .ok (t.put now place .directory)
  | .error e => .error e

/-- Makes a directory with its missing parents; one that exists is kept. The parents that were made
stay when the directory itself is refused. -/
def createDirectories (t : FileTree) (now : Int) (cwd : Place) (path : String) :
    Option SystemError × FileTree :=
  go t path path.length
where
  finish (t : FileTree) (path : String) : Option SystemError × FileTree :=
    match t.createDirectory now cwd path with
    | .ok t => (none, t)
    | .error e => if t.isDirectory cwd path then (none, t) else (some e, t)
  go (t : FileTree) (path : String) : Nat → Option SystemError × FileTree
    | 0 => (none, t)
    | fuel + 1 =>
      if path.isEmpty then (none, t)
      else match t.createDirectory now cwd path with
        | .ok t => (none, t)
        | .error .noEntry =>
          match Path.parent? path with
          | none => (some .noEntry, t)
          | some parent =>
            match go t parent fuel with
            | (some e, t) => (some e, t)
            | (none, t) => finish t path
        | .error e => if t.isDirectory cwd path then (none, t) else (some e, t)

/-- Removes an emptied directory by its path, which may end in dots or lead through what is gone by now. It stays
when its path leads nowhere any more; nobody is told of that. -/
def removeEmptied (t : FileTree) (now : Int) (cwd : Place) (path : String) (place : Place) :
    Option SystemError × FileTree :=
  match (Path.names (Path.withoutSlash path)).getLast? with
  | some "." => (some .invalidArgument, t)
  | some ".." => (if t.isPresent cwd path then some .notEmpty else none, t)
  | _ =>
    match t.find cwd false (Path.withoutSlash path) with
    | .ok (_, .link _) => (some .notDirectory, t)
    | .ok _ => (none, t.erase now place)
    | .error e => (if e = .noEntry then none else some e, t)

/-- Removes a directory with all under it, or a link, which is not followed. A directory whose path ends in
a dot, or in a slash after a link, is emptied and stays. -/
def removeTree (t : FileTree) (now : Int) (cwd : Place) (path : String) : Option SystemError × FileTree :=
  match t.find cwd false path with
  | .error e => (some e, t)
  | .ok (place, .link _) => (none, t.erase now place)
  | .ok (place, .directory) => (t.clear now place).removeEmptied now cwd path place
  | .ok _ => (some .notDirectory, t)

/-- Makes a link in a free place. -/
def makeLink (t : FileTree) (now : Int) (cwd : Place) (target path : String) : Except SystemError FileTree :=
  match t.resolve cwd false path with
  | .ok (.entry _ _) => .error .alreadyExists
  | .ok (.free place) => .ok (t.put now place (.link target))
  | .error e => .error e

def setMode (t : FileTree) (cwd : Place) (path : String) (mode : Nat) : Except SystemError FileTree :=
  match t.find cwd true path with
  | .ok (place, .file content _) =>
    .ok (t.put ((t.changed? place).getD 0) place (.file content mode))
  | .ok (place, .fifo _) => .ok (t.put ((t.changed? place).getD 0) place (.fifo mode))
  | .ok _ => .ok t
  | .error e => .error e

end SnippetLab.FileTree
