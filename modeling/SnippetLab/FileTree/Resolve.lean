import SnippetLab.FileTree.Basic

/-! Where a path leads in a tree. -/
namespace SnippetLab.FileTree

/-- What a path names: an entry, or a free place in a directory. -/
inductive Target
  | entry (place : Place) (node : Node)
  | free (place : Place)
  deriving DecidableEq, Repr

/-- How far names lead without following a link: to an end, or to a link with names after it. -/
inductive Stretch
  | reached (result : Except SystemError Target)
  | link (directory : Place) (target : String) (rest : List String)

def maxNameSize : Nat := 255

def maxPathSize : Nat := 4095

/-- Links that one path may lead through. -/
def maxLinks : Nat := 40

/-- Follows names from a directory. A link in last place is followed only if asked for. -/
def stretch (t : FileTree) (follow : Bool) : Place → List String → Stretch
  | here, [] => .reached (.ok (.entry here .directory))
  | here, name :: rest =>
    if name = "." then t.stretch follow here rest
    else if name = ".." then t.stretch follow here.dropLast rest
    else if maxNameSize < name.utf8ByteSize then .reached (.error .nameTooLong)
    else
      match t.node? (here ++ [name]) with
      | none => .reached (if rest.isEmpty then .ok (.free (here ++ [name])) else .error .noEntry)
      | some .directory => t.stretch follow (here ++ [name]) rest
      | some (.link target) =>
        if rest.isEmpty && !follow then .reached (.ok (.entry (here ++ [name]) (.link target)))
        else .link here target rest
      | some node =>
        .reached (if rest.isEmpty then .ok (.entry (here ++ [name]) node) else .error .notDirectory)

/-- Follows names through at most so many links. -/
def walk (t : FileTree) (follow : Bool) : Nat → Place → List String → Except SystemError Target
  | links, here, names =>
    match t.stretch follow here names with
    | .reached result => result
    | .link directory target rest =>
      match links with
      | 0 => .error .tooManyLinks
      | links + 1 =>
        t.walk follow links (if Path.isAbsolute target then [] else directory) (Path.names target ++ rest)

def resolve (t : FileTree) (cwd : Place) (follow : Bool) (path : String) : Except SystemError Target :=
  if path.isEmpty then .error .noEntry
  else if path.toList.contains '\x00' then .error .nulInPath
  else if maxPathSize < path.utf8ByteSize then .error .nameTooLong
  else if Path.isAbsolute path then t.walk follow maxLinks [] (Path.names path)
  else if t.isDirectoryAt cwd then t.walk follow maxLinks cwd (Path.names path)
  else .error .noEntry

def find (t : FileTree) (cwd : Place) (follow : Bool) (path : String) : Except SystemError (Place × Node) :=
  match t.resolve cwd follow path with
  | .ok (.entry place node) => .ok (place, node)
  | .ok (.free _) => .error .noEntry
  | .error e => .error e

def isPresent (t : FileTree) (cwd : Place) (path : String) : Bool := (t.find cwd true path).isOk

def check (t : FileTree) (cwd : Place) (path : String) (p : Node → Bool) : Bool :=
  match t.find cwd true path with
  | .ok (_, node) => p node
  | .error _ => false

def isFile (t : FileTree) (cwd : Place) (path : String) : Bool := t.check cwd path Node.isFile

def isDirectory (t : FileTree) (cwd : Place) (path : String) : Bool := t.check cwd path Node.isDirectory

def placePath (p : Place) : String := "/" ++ "/".intercalate p

end SnippetLab.FileTree
