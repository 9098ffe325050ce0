import SnippetLab.Program.Mode

/-! Making and removing directories and files. -/
namespace SnippetLab.Program

open SnippetLab.Machine SnippetLab.Text

/-! Changes of the tree by path -/

namespace Change

def makeDirectory (path : String) : Routine (Option SystemError) :=
  Routine.attempt fun pid k =>
    (k.tree.createDirectory k.now (k.cwd pid) (Octets.gather path)).map fun tree => { k with tree }

def find (k : Kernel) (pid : Pid) (follow : Bool) (path : String) : Except SystemError (Place × Node) :=
  k.tree.find (k.cwd pid) follow (Octets.gather path)

def removeFile (path : String) : Routine (Option SystemError) :=
  Routine.attempt fun pid k =>
    match find k pid false path with
    | .ok (_, .directory) => .error .isDirectory
    | .ok (p, _) => .ok (k.unlink p)
    | .error e => .error e

def removeDirectory (path : String) : Routine (Option SystemError) :=
  Routine.attempt fun pid k =>
    match find k pid false path with
    | .ok (p, .directory) =>
      let bare := (path.toList.reverse.dropWhile (· = '/')).takeWhile (· ≠ '/')
      if bare = ['.'] then .error .invalidArgument
      else if !(k.tree.children p).isEmpty || bare = ['.', '.'] then .error .notEmpty
      else .ok { k with tree := k.tree.erase k.now p }
    | .ok _ => .error .notDirectory
    | .error e => .error e

def free (k : Kernel) (pid : Pid) (path : String) : Except SystemError Place :=
  match k.tree.resolve (k.cwd pid) false (Path.withoutSlash (Octets.gather path)) with
  | .ok (.entry _ _) => .error .alreadyExists
  | .ok (.free p) => .ok p
  | .error e => .error e

def makeNode (path : String) (node : Node) : Routine (Option SystemError) :=
  Routine.attempt fun pid k =>
    (free k pid path).map fun p => { k with tree := k.tree.put k.now p node }

def makeLink (target path : String) : Routine (Option SystemError) :=
  if target.isEmpty then return some .noEntry else makeNode path (.link (Octets.gather target))

def link (follow : Bool) (source path : String) : Routine (Option SystemError) :=
  Routine.attempt fun pid k => do
    match ← find k pid follow source with
    | (_, .directory) => throw .notPermitted
    | (p, _) => return k.link p (← free k pid path)

def rename (source target : String) : Routine (Option SystemError) :=
  Routine.attempt fun pid k => do
    let (p, node) ← find k pid false (Path.withoutSlash source)
    match ← k.tree.resolve (k.cwd pid) false (Path.withoutSlash (Octets.gather target)) with
    | .free q =>
      if node.isDirectory && FileTree.within p q then throw .invalidArgument
      if Path.endsInSlash target && !node.isDirectory then throw .notDirectory
      return k.rename p q
    | .entry q old =>
      if p = q || (!node.isDirectory && (k.placesOf p).contains q) then return k
      if node.isDirectory && FileTree.within p q then throw .invalidArgument
      if node.isDirectory && !old.isDirectory then throw .notDirectory
      if !node.isDirectory && old.isDirectory then throw .isDirectory
      if old.isDirectory && !(k.tree.children q).isEmpty then throw .notEmpty
      return k.rename p q

def setTime (path : String) (time : Int) : Routine (Option SystemError) :=
  Routine.attempt fun pid k => do
    let (p, _) ← find k pid true path
    return { k with tree := (k.placesOf p).foldl (fun t q => t.stamp q time) k.tree }

end Change

/-! Directories -/

namespace Mkdir

def switches : List Switch :=
  Switch.letters "pm:v" ++ Switch.words [("p", "parents"), ("m", "mode="), ("v", "verbose")]

def told (i : Invocation) (c : Chosen) (path : String) : Routine Unit := do
  if c.has "v" then putText i ("mkdir: created directory " ++ Quote.always path ++ "\n")

def refused (i : Invocation) (path : String) (e : SystemError) : Routine Bool := do
  complain i ("cannot create directory " ++ Quote.literal path ++ ": " ++ e.text)
  return false

def parents (path : String) : List String :=
  let cs := (path.toList.reverse.dropWhile (· = '/')).reverse
  ((List.range cs.length).filter fun n =>
    0 < n && cs[n]? = some '/' && cs[n - 1]? ≠ some '/').map fun n => String.ofList (cs.take n)

def makeParents (i : Invocation) (c : Chosen) : List String → Routine Bool
  | [] => return true
  | p :: ps => do
    match ← Change.makeDirectory p with
    | none => do
      told i c p
      makeParents i c ps
    | some e => do
      let info ← Routine.info true p
      match info with
      | .ok info =>
        if info.node.isDirectory then makeParents i c ps
        else refused i p .notDirectory
      | .error _ => refused i p e

def one (i : Invocation) (c : Chosen) (path : String) : Routine Bool := do
  let ready ← if c.has "p" then makeParents i c (parents path) else pure true
  if !ready then return false
  match ← Change.makeDirectory path with
  | none => do
    told i c path
    return true
  | some e => do
    let isThere := match ← Routine.info true path with
      | .ok info => info.node.isDirectory
      | .error _ => false
    if c.has "p" && isThere then return true
    refused i path e

def program : Program := fun i => do
  let c ← chosen i switches
  if c.operands.isEmpty then missingOperand i
  match c.last? "m" with
  | some m => if (Mode.read? m).isNone then die i ("invalid mode " ++ Quote.literal m)
  | none => pure ()
  let made ← c.operands.mapM (one i c)
  return if made.all id then 0 else 1

end Mkdir

def rmdir : Program := fun i => do
  let c ← chosen i (Switch.letters "pv" ++ Switch.words [("p", "parents"), ("v", "verbose"),
    ("ignore", "ignore-fail-on-non-empty")])
  if c.operands.isEmpty then missingOperand i
  let remove (path : String) : Routine Bool := do
    if c.has "v" then putText i ("rmdir: removing directory, " ++ Quote.always path ++ "\n")
    match ← Change.removeDirectory path with
    | none => return true
    | some e => do
      if c.has "ignore" && e = .notEmpty then return true
      complain i ("failed to remove " ++ Quote.always path ++ ": " ++ e.text)
      return false
  let rec upwards : List String → Routine Bool
    | [] => return true
    | p :: ps => do
      if ← remove p then upwards ps else return false
  let removed ← c.operands.mapM fun path =>
    upwards (path :: if c.has "p" then (Mkdir.parents path).reverse else [])
  return if removed.all id then 0 else 1

/-! Removing -/

namespace Rm

def switches : List Switch :=
  Switch.letters "rRfdivI" ++ Switch.words [("r", "recursive"), ("f", "force"), ("d", "dir"), ("v", "verbose"),
    ("one", "one-file-system"), ("no", "no-preserve-root"), ("keep", "preserve-root?"), ("i", "interactive?")]

structure Style where
  recursive : Bool
  force : Bool
  directories : Bool
  verbose : Bool
  asks : Bool

def kindName (info : FileInfo) : String :=
  match info.node with
  | .directory => "directory"
  | .file [] _ => "regular empty file"
  | .file _ _ => "regular file"
  | .link _ => "symbolic link"
  | .fifo _ => "fifo"
  | .device _ => "character special file"

def agrees (i : Invocation) (question : String) : Routine Bool := do
  Routine.complain (i.name ++ ": " ++ question ++ "? ")
  let answer ← Routine.iterate [] (fun (cs : List Char) => do
    match ← Routine.read 0 1 with
    | .ok [c] => return if c = '\n' then .inr cs.reverse else .inl (c :: cs)
    | _ => return .inr cs.reverse) Routine.rounds []
  return answer.head? = some 'y' || answer.head? = some 'Y'

def refused (i : Invocation) (path : String) (e : SystemError) : Routine Bool := do
  complain i ("cannot remove " ++ Quote.always path ++ ": " ++ e.text)
  return false

def finish (i : Invocation) (y : Style) (path what : String) : Option SystemError → Routine Bool
  | none => do
    if y.verbose then putText i ("removed " ++ what ++ Quote.always path ++ "\n")
    return true
  | some e => refused i path e

/-- Removes an entry, and all under it if that is wanted. The fuel bounds the depth. -/
def remove (i : Invocation) (y : Style) : Nat → String → Routine Bool
  | 0, path => refused i path .nameTooLong
  | fuel + 1, path => do
    match ← Routine.info false path with
    | .error .noEntry => if y.force then return true else refused i path .noEntry
    | .error .notDirectory => if y.force then return true else refused i path .notDirectory
    | .error e => refused i path e
    | .ok info =>
      if info.node.isDirectory then
        let children ← Routine.query fun _ k => (info.place.map k.tree.children).getD []
        if !y.recursive then
          if !y.directories then refused i path .isDirectory
          else finish i y path "directory " (← Change.removeDirectory path)
        else if Path.endsInSlash path && (← isLink (Path.withoutSlash path)) then refused i path .notDirectory
        else do
          if y.asks && !children.isEmpty then
            if !(← agrees i ("descend into directory " ++ Quote.always path)) then return true
          let inner ← children.mapM fun name => remove i y fuel (Path.join path (Octets.spread name))
          if !inner.all id then return false
          if y.asks then
            if !(← agrees i ("remove directory " ++ Quote.always path)) then return true
          finish i y path "directory " (← Change.removeDirectory path)
      else do
        if y.asks then
          if !(← agrees i ("remove " ++ kindName info ++ " " ++ Quote.always path)) then return true
        finish i y path "" (← Change.removeFile path)
where
  isLink (path : String) : Routine Bool := do
    return match ← Routine.info false path with
      | .ok { node := .link _, .. } => true
      | _ => false

def isDots (path : String) : Bool :=
  let name := ((path.toList.reverse.dropWhile (· = '/')).takeWhile (· ≠ '/'))
  name = ['.'] || name = ['.', '.']

def deepest : Nat := 4096

def program : Program := fun i => do
  let c ← match Options.read switches i.arguments with
    | .ok c => pure c
    | .error e => do
      complain i e
      for a in i.arguments do
        if a.startsWith "-" && a ≠ "-" then
          match ← Routine.info false a with
          | .ok _ =>
            Routine.complain ("Try '" ++ i.name ++ " ./" ++ a ++ "' to remove the file " ++ Quote.always a ++ ".\n")
          | .error _ => pure ()
      hint i
      Routine.exitCode 1
  let force := c.lastOf? ["f", "i", "I"] = some "f"
  if c.operands.isEmpty then if force then return 0 else missingOperand i
  let y : Style := {
    recursive := c.has "r" || c.has "R", force, directories := c.has "d", verbose := c.has "v"
    asks := c.lastOf? ["f", "i"] = some "i" }
  let one (path : String) : Routine Bool := do
    if y.recursive && isDots path then
      complain i ("refusing to remove '.' or '..' directory: skipping " ++ Quote.always path)
      return false
    let isRoot := match ← Routine.info false path with
      | .ok info => info.place = some []
      | .error _ => false
    if y.recursive && isRoot && !c.has "no" then
      complain i "it is dangerous to operate recursively on '/'"
      complain i "use --no-preserve-root to override this failsafe"
      return false
    remove i y deepest path
  let removed ← c.operands.mapM one
  return if removed.all id then 0 else 1

end Rm

end SnippetLab.Program
