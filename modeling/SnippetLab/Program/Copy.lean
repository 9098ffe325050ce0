import SnippetLab.Program.Directory

/-! Copying, moving and linking files. -/
namespace SnippetLab.Program

open SnippetLab.Machine SnippetLab.Text

/-! Where to -/

structure Aim where
  noun : String := "file"
  alone : Bool := false

def isDirectoryPath (path : String) : Routine Bool := do
  return match ← Routine.info true path with
    | .ok info => info.node.isDirectory
    | .error _ => false

def inside (directory source : String) : String := Path.join directory (baseName source)

/-- The sources with their targets: one target, or names in a directory. -/
def aims (i : Invocation) (c : Chosen) (aim : Aim) (isTarget : String → Routine Bool) : Routine (List (String × String)) := do
  match c.last? "t" with
  | some d =>
    if c.operands.isEmpty then misuse i ("missing " ++ aim.noun ++ " operand")
    match ← Routine.info true d with
    | .ok info => if !info.node.isDirectory then die i ("target directory " ++ Quote.always d ++ ": Not a directory")
    | .error e => die i ("target directory " ++ Quote.always d ++ ": " ++ e.text)
    return c.operands.map fun s => (s, inside d s)
  | none =>
    match c.operands with
    | [] => misuse i ("missing " ++ aim.noun ++ " operand")
    | [s] =>
      if aim.alone then return [(s, inside "." s)]
      else misuse i ("missing destination file operand after " ++ Quote.always s)
    | [s, t] => do
      if c.has "T" then return [(s, t)]
      return [(s, if ← isTarget t then inside t s else t)]
    | operands => do
      let d := operands.getLast?.getD ""
      if c.has "T" then misuse i ("extra operand " ++ Quote.always ((operands[2]?).getD ""))
      match ← Routine.info true d with
      | .ok info => if !info.node.isDirectory then die i ("target " ++ Quote.always d ++ ": Not a directory")
      | .error e => die i ("target " ++ Quote.always d ++ ": " ++ e.text)
      return operands.dropLast.map fun s => (s, inside d s)

/-! Copies -/

namespace Cp

def switches : List Switch :=
  Switch.letters "abdfHiLlnPprRsSt:Tuvx" ++ Switch.words [("a", "archive"), ("d", "no-dereference-links"),
    ("f", "force"), ("i", "interactive"), ("L", "dereference"), ("l", "link"), ("n", "no-clobber"),
    ("P", "no-dereference"), ("p", "preserve?"), ("r", "recursive"), ("s", "symbolic-link"),
    ("t", "target-directory="), ("T", "no-target-directory"), ("u", "update?"), ("v", "verbose"),
    ("parents", "parents"), ("x", "one-file-system"), ("reflink", "reflink?"), ("sparse", "sparse="),
    ("remove", "remove-destination"), ("strip", "strip-trailing-slashes")]

structure Style where
  recursive : Bool
  keepsLinks : Bool
  keeps : Bool
  asks : Bool
  spares : Bool
  newer : Bool
  links : Bool
  symbolic : Bool
  verbose : Bool
  removes : Bool

def styleOf (c : Chosen) : Style :=
  let recursive := c.has "r" || c.has "R" || c.has "a"
  let follows := match c.lastOf? ["L", "P", "d", "a", "H"] with
    | some "L" => true
    | some _ => false
    | none => !recursive
  let spares := c.has "n"
  { recursive, keepsLinks := !follows, keeps := c.has "p" || c.has "a"
    asks := c.lastOf? ["i", "n"] = some "i", spares, newer := c.has "u"
    links := c.has "l", symbolic := c.has "s", verbose := c.has "v", removes := c.has "remove" }

def refused (i : Invocation) (text : String) : Routine Bool := do
  complain i text
  return false

def told (i : Invocation) (y : Style) (source target : String) : Routine Unit := do
  if y.verbose then putText i (Quote.always source ++ " -> " ++ Quote.always target ++ "\n")

def keep (y : Style) (info : FileInfo) (target : String) : Routine Unit := do
  if y.keeps then
    match ← Routine.info true target with
    | .ok { place := some p, .. } =>
      Routine.change fun _ k => k.setMode p info.mode
      let _ ← Change.setTime target info.changed
    | _ => pure ()

def writeAll (target : String) (mode : Nat) (cs : List Char) : Routine (Option SystemError) := do
  match ← Routine.openPath target .output mode with
  | .error e => return some e
  | .ok fd => do
    let problem ← Routine.write fd cs
    Routine.close fd
    return problem

def file (i : Invocation) (y : Style) (source target : String) (info : FileInfo) : Routine Bool := do
  match ← Routine.openPath source .input with
  | .error e => refused i ("cannot open " ++ Quote.always source ++ " for reading: " ++ e.text)
  | .ok fd => do
    let cs ← Routine.readAll fd
    Routine.close fd
    match cs with
    | .error e => refused i ("error reading " ++ Quote.always source ++ ": " ++ e.text)
    | .ok cs => do
      if y.removes then let _ ← Change.removeFile target
      match ← writeAll target (info.mode &&& 0o777) cs with
      | some e =>
        match e with
        | .noSpace => refused i ("error writing " ++ Quote.always target ++ ": " ++ e.text)
        | e => refused i ("cannot create regular file " ++ Quote.always target ++ ": " ++ e.text)
      | none => do
        keep y info target
        return true

def mayReplace (i : Invocation) (y : Style) (source : FileInfo) (target : String) : Routine Bool := do
  match ← Routine.info true target with
  | .error _ => return true
  | .ok old =>
    if y.spares then return false
    if y.newer && source.changed ≤ old.changed then return false
    if y.asks then Rm.agrees i ("overwrite " ++ Quote.always target) else return true

def copy (i : Invocation) (y : Style) (top : Option Place) : Nat → String → String → Routine Bool
  | 0, source, _ => refused i ("cannot stat " ++ Quote.always source ++ ": File name too long")
  | fuel + 1, source, target => do
    match ← Routine.info (!y.keepsLinks) source with
    | .error e => refused i ("cannot stat " ++ Quote.always source ++ ": " ++ e.text)
    | .ok info => do
      let old ← Routine.info true target
      let oldLink ← Routine.info false target
      match info.node with
      | .directory => do
        if !y.recursive then return ← refused i ("-r not specified; omitting directory " ++ Quote.always source)
        match old with
        | .ok o =>
          if !o.node.isDirectory then
            return ← refused i ("cannot overwrite non-directory " ++ Quote.always target ++ " with directory "
              ++ Quote.always source)
        | .error _ => do
          match ← Change.makeDirectory target with
          | some e => return ← refused i ("cannot create directory " ++ Quote.always target ++ ": " ++ e.text)
          | none => told i y source target
        let made ← Routine.info true target
        let madeAt : Option Place := match made with
          | .ok m => m.place
          | .error _ => none
        let top := if top.isSome then top else madeAt
        let here := info.place.getD []
        let names ← Routine.query fun _ k => (k.tree.children here).filter fun name => some (here ++ [name]) ≠ top
        let isInside := match top with
          | some t => FileTree.within here t && t ≠ here && t.dropLast = here
          | none => false
        let inner ← names.mapM fun name => do
          let name := Octets.spread name
          copy i y top fuel (Path.join source name) (Path.join target name)
        keep y info target
        if isInside then
          refused i ("cannot copy a directory, " ++ Quote.always source ++ ", into itself, " ++ Quote.always target)
        else return inner.all id
      | node => do
        match old with
        | .ok o => do
          let same ← Routine.query fun _ k => k.isSame info o
          if same && !(y.links || node matches .link _) then
            return ← refused i (Quote.always source ++ " and " ++ Quote.always target ++ " are the same file")
          if o.node.isDirectory && !(node matches .link _) then
            return ← refused i ("cannot overwrite directory " ++ Quote.always target ++ " with non-directory")
        | .error _ => pure ()
        if !(← mayReplace i y info target) then return !y.asks
        match node with
        | .link goal => do
          if oldLink.isOk then let _ ← Change.removeFile target
          match ← Change.makeLink (Octets.spread goal) target with
          | none => do
            told i y source target
            return true
          | some e => refused i ("cannot create symbolic link " ++ Quote.always target ++ ": " ++ e.text)
        | _ => do
          if y.links then
            match ← Change.link true source target with
            | none => return true
            | some e =>
              refused i ("cannot create hard link " ++ Quote.always target ++ " to " ++ Quote.always source ++ ": " ++ e.text)
          else if y.symbolic then
            match ← Change.makeLink source target with
            | none => return true
            | some e =>
              refused i ("cannot create symbolic link " ++ Quote.always target ++ " to " ++ Quote.always source ++ ": "
                ++ e.text)
          else match oldLink, old with
            | .ok _, .error .noEntry =>
              refused i ("not writing through dangling symlink " ++ Quote.always target)
            | _, _ => do
              if Path.endsInSlash target && old matches .error _ then
                let blocked := match ← Routine.info false (Path.withoutSlash target) with
                  | .ok o => !o.node.isDirectory
                  | .error _ => false
                return ← refused i ((if blocked then "cannot stat " else "cannot create regular file ")
                  ++ Quote.always target ++ ": Not a directory")
              told i y source target
              file i y source target info

def makeParents (paths : List String) : Routine Unit :=
  Routine.forEach paths fun p => do
    let _ ← Change.makeDirectory p

def program : Program := fun i => do
  let c ← chosen i switches
  if c.has "n" then
    complain i "warning: behavior of -n is non-portable and may change in future; use --update=none instead"
  let y := styleOf c
  let pairs ← aims i c {} isDirectoryPath
  let pairs ← if c.has "parents" then do
      let d := (c.last? "t").getD (c.operands.getLast?.getD "")
      pure (pairs.map fun (s, _) => (s, Path.join d s))
    else pure pairs
  let copied ← pairs.mapM fun (s, t) => do
    if c.has "parents" then makeParents (Mkdir.parents t)
    copy i y none Rm.deepest s t
  return if copied.all id then 0 else 1

end Cp

/-! Moves -/

namespace Mv

def switches : List Switch :=
  Switch.letters "bfint:TuvS:" ++ Switch.words [("f", "force"), ("i", "interactive"), ("n", "no-clobber"),
    ("t", "target-directory="), ("T", "no-target-directory"), ("u", "update?"), ("v", "verbose"),
    ("strip", "strip-trailing-slashes")]

def move (i : Invocation) (c : Chosen) (source target : String) : Routine Bool := do
  let refused (text : String) : Routine Bool := do
    complain i text
    return false
  match ← Routine.info false source with
  | .error e => refused ("cannot stat " ++ Quote.always source ++ ": " ++ e.text)
  | .ok info => do
    let old ← Routine.info false target
    match old with
    | .error _ => pure ()
    | .ok o =>
      if o.place = info.place then
        if !info.node.isDirectory then
          return ← refused (Quote.always source ++ " and " ++ Quote.always target ++ " are the same file")
      else if c.lastOf? ["f", "i", "n"] = some "n" then
        return ← refused ("not replacing " ++ Quote.always target)
      else if c.has "u" && info.changed ≤ o.changed then return true
      else if c.lastOf? ["f", "i", "n"] = some "i" then
        if !(← Rm.agrees i ("overwrite " ++ Quote.always target)) then return false
      if info.node.isDirectory && !o.node.isDirectory then
        return ← refused ("cannot overwrite non-directory " ++ Quote.always target ++ " with directory "
          ++ Quote.always source)
      if !info.node.isDirectory && o.node.isDirectory then
        return ← refused ("cannot overwrite directory " ++ Quote.always target ++ " with non-directory")
    match ← Change.rename source target with
    | none => do
      if c.has "v" then putText i ("renamed " ++ Quote.always source ++ " -> " ++ Quote.always target ++ "\n")
      return true
    | some .invalidArgument =>
      refused ("cannot move " ++ Quote.always source ++ " to a subdirectory of itself, " ++ Quote.always target)
    | some .notEmpty => refused ("cannot overwrite " ++ Quote.always target ++ ": Directory not empty")
    | some e => refused ("cannot move " ++ Quote.always source ++ " to " ++ Quote.always target ++ ": " ++ e.text)

def program : Program := fun i => do
  let c ← chosen i switches
  let pairs ← aims i c {} isDirectoryPath
  let moved ← pairs.mapM fun (s, t) => move i c s t
  return if moved.all id then 0 else 1

end Mv

/-! Links -/

namespace Ln

def switches : List Switch :=
  Switch.letters "bdFfiLnPrst:TvS:" ++ Switch.words [("f", "force"), ("i", "interactive"), ("L", "logical"),
    ("n", "no-dereference"), ("P", "physical"), ("r", "relative"), ("s", "symbolic"), ("t", "target-directory="),
    ("T", "no-target-directory"), ("v", "verbose")]

def relative (start target : Place) : String :=
  let rec go : Place → Place → Place
    | a :: as, b :: bs => if a = b then go as bs else ((a :: as).map fun _ => "..") ++ b :: bs
    | as, bs => (as.map fun _ => "..") ++ bs
  let names := go start target
  if names.isEmpty then "." else "/".intercalate names

def relativeGoal (source target : String) : Routine String :=
  Routine.query fun pid k =>
    let start := k.tree.resolve (k.cwd pid) true (Octets.gather (directoryName target))
    let goal := k.tree.resolve (k.cwd pid) true (Octets.gather source)
    match start, goal with
    | .ok (.entry p _), .ok (.entry q _) | .ok (.entry p _), .ok (.free q) => Octets.spread (relative p q)
    | _, _ => source

def make (i : Invocation) (c : Chosen) (source target : String) : Routine Bool := do
  let refused (text : String) : Routine Bool := do
    complain i text
    return false
  let symbolic := c.has "s"
  let info ← Routine.info true source
  match info with
  | .error e => if !symbolic then return ← refused ("failed to access " ++ Quote.always source ++ ": " ++ e.text)
  | .ok info =>
    if !symbolic && info.node.isDirectory then
      return ← refused (Quote.ifNeeded source ++ ": hard link not allowed for directory")
  let old ← Routine.info false target
  if c.has "f" then
    match old with
    | .ok o => do
      let same := match info with
        | .ok info => info.place = o.place
        | .error _ => false
      if same && !symbolic then
        return ← refused (Quote.always source ++ " and " ++ Quote.always target ++ " are the same file")
      if !o.node.isDirectory then let _ ← Change.removeFile target
    | .error _ => pure ()
  let goal ← if c.has "r" && symbolic then relativeGoal source target else pure source
  let problem ← if symbolic then Change.makeLink goal target else Change.link (c.has "L") source target
  match problem with
  | none => do
    if c.has "v" then
      putText i (Quote.always target ++ (if symbolic then " -> " else " => ") ++ Quote.always goal ++ "\n")
    return true
  | some e =>
    let what := if symbolic then "symbolic link " else "hard link "
    let from_ := if symbolic then (if goal.isEmpty then " -> " ++ Quote.always goal else "")
      else if e = .alreadyExists then "" else " => " ++ Quote.always source
    refused ("failed to create " ++ what ++ Quote.always target ++ from_ ++ ": " ++ e.text)

def program : Program := fun i => do
  let c ← chosen i switches
  let isTarget (t : String) : Routine Bool := do
    if c.has "n" then
      match ← Routine.info false t with
      | .ok { node := .link _, .. } => return false
      | _ => pure ()
    isDirectoryPath t
  let pairs ← aims i c { alone := true } isTarget
  let made ← pairs.mapM fun (s, t) => make i c s t
  return if made.all id then 0 else 1

end Ln

/-! Times -/

namespace Touch

def program : Program := fun i => do
  let c ← chosen i (Switch.letters "acm" ++ Switch.words [("c", "no-create")])
  let time : Int ← Routine.query fun _ k => (k.now : Int)
  if c.operands.isEmpty then misuse i "missing file operand"
  let touched ← c.operands.mapM fun path => do
    if (← Routine.info true path).isOk then
      let _ ← Change.setTime path time
      return true
    if c.has "c" then return true
    match ← Routine.openPath path { writes := true, creates := true } with
    | .ok fd => do
      Routine.close fd
      return true
    | .error e => do
      complain i ("cannot touch " ++ Quote.always path ++ ": " ++ (if e = .isDirectory then SystemError.noEntry else e).text)
      return false
  return if touched.all id then 0 else 1

end Touch
end SnippetLab.Program
