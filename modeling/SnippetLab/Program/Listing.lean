import SnippetLab.Program.Console

/-! Showing what is in directories. -/
namespace SnippetLab.Program.Ls

open SnippetLab.Machine SnippetLab.Text

def switches : List Switch :=
  Switch.letters "aAdr1" ++ Switch.words [("a", "all"), ("A", "almost-all"), ("d", "directory"), ("r", "reverse")]

def sorted (c : Chosen) (names : List String) : List String :=
  let byName := names.mergeSort fun a b => decide (a ≤ b)
  if c.has "r" then byName.reverse else byName

def render (names : List String) : String := String.join (names.map (· ++ "\n"))

def isHidden (c : Chosen) (name : String) : Bool := name.startsWith "." && !(c.has "a" || c.has "A")

def namesIn (k : Kernel) (c : Chosen) (p : Place) : List String :=
  (if c.has "a" then [".", ".."] else []) ++ (((k.tree.children p).map Octets.spread).filter (!isHidden c ·))

/-- An operand that leads to a directory is shown by what is in that, a link only if it is not asked for itself. -/
def program : Program := fun i => do
  let c ← chosen i switches 2
  let operands := if c.operands.isEmpty then ["."] else c.operands
  let found ← Routine.query fun pid k => operands.map fun p =>
    (p, (k.info pid false p).map fun own => if c.has "d" then own else (k.info pid true p).toOption.getD own)
  for (p, r) in found do
    match r with
    | .error e => complain i ("cannot access " ++ Quote.always p ++ ": " ++ e.text)
    | .ok _ => pure ()
  let isListed (info : FileInfo) : Bool := !c.has "d" && info.node.isDirectory
  let known := found.filterMap fun (p, r) => r.toOption.map (p, ·)
  let files := sorted c ((known.filter (!isListed ·.2)).map (·.1))
  let directories := sorted c ((known.filter (isListed ·.2)).map (·.1))
  let sections ← Routine.query fun _ k => directories.map fun p =>
    let place := ((known.lookup p).bind (·.place)).getD []
    (if 1 < operands.length then p ++ ":\n" else "") ++ render (sorted c (namesIn k c place))
  putText i ("\n".intercalate ((if files.isEmpty then [] else [render files]) ++ sections)) 2
  return if found.all (·.2.isOk) then 0 else 2

end SnippetLab.Program.Ls
