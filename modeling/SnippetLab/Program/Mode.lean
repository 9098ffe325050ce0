import SnippetLab.Program.Console

/-! Permissions: reading what should become of them, showing them, and setting them. -/
namespace SnippetLab.Program

open SnippetLab.Machine SnippetLab.Text

namespace Mode

/-- Permissions in one of the ways of a change: to be added, taken away or set. -/
structure Clause where
  /-- The permissions of those who are named; none means all that the mask leaves. -/
  who : Option Nat
  operator : Char
  bits : Nat
  runsIfRun : Bool := false
  setsId : Bool := false
  sticky : Bool := false
  copied : Option Char := none

inductive Change
  | set (mode : Nat)
  | clauses (cs : List Clause)

def partyMask : Char → Option Nat
  | 'u' => some 0o4700
  | 'g' => some 0o2070
  | 'o' => some 0o1007
  | 'a' => some 0o7777
  | _ => none

def letters (c : Clause) : List Char → Clause × List Char
  | 'r' :: cs => letters { c with bits := c.bits ||| 4 } cs
  | 'w' :: cs => letters { c with bits := c.bits ||| 2 } cs
  | 'x' :: cs => letters { c with bits := c.bits ||| 1 } cs
  | 'X' :: cs => letters { c with runsIfRun := true } cs
  | 's' :: cs => letters { c with setsId := true } cs
  | 't' :: cs => letters { c with sticky := true } cs
  | cs => (c, cs)

def operators (who : Option Nat) : Nat → List Char → Option (List Clause)
  | 0, _ => none
  | _, [] => some []
  | fuel + 1, op :: cs =>
    if !(['+', '-', '='].contains op) then none
    else
      let start : Clause := { who, operator := op, bits := 0 }
      let (c, rest) := match cs with
        | p :: rest => if ['u', 'g', 'o'].contains p then ({ start with copied := some p }, rest) else letters start cs
        | [] => (start, [])
      (operators who fuel rest).map (c :: ·)

def clause (cs : List Char) : Option (List Clause) :=
  let parties := cs.takeWhile fun c => (partyMask c).isSome
  let rest := cs.drop parties.length
  if rest.isEmpty then none
  else
    let who := if parties.isEmpty then none
      else some (parties.foldl (fun m p => m ||| (partyMask p).getD 0) 0)
    operators who (rest.length + 1) rest

def read? (s : String) : Option Change :=
  let cs := s.toList
  if !cs.isEmpty && cs.all Char.isDigit then
    let n := cs.foldl (fun n c => n * 8 + (c.toNat - '0'.toNat)) 0
    if cs.all (· < '8') && n ≤ 0o7777 then some (.set n) else none
  else ((cs.splitOn ',').mapM clause).map fun cs => .clauses cs.flatten

def spread (bits : Nat) : Nat := bits * 0o111

def clauseBits (c : Clause) (isDirectory : Bool) (mode : Nat) : Nat :=
  match c.copied with
  | some p =>
    let shift := match p with
      | 'u' => 64
      | 'g' => 8
      | _ => 1
    spread (mode / shift % 8)
  | none =>
    let run := if c.runsIfRun && (isDirectory || mode &&& 0o111 ≠ 0) then 1 else 0
    spread (c.bits ||| run) ||| (if c.setsId then 0o6000 else 0) ||| (if c.sticky then 0o1000 else 0)

def without (a b : Nat) : Nat := a &&& (0o7777 ^^^ b)

def applyClause (mask : Nat) (isDirectory : Bool) (mode : Nat) (c : Clause) : Nat :=
  let who := c.who.getD (without 0o7777 mask)
  let bits := clauseBits c isDirectory mode &&& who
  match c.operator with
  | '+' => mode ||| bits
  | '-' => without mode bits
  | _ => without mode (c.who.getD 0o7777) ||| bits

def apply (mask : Nat) (isDirectory : Bool) (mode : Nat) : Change → Nat
  | .set n => n
  | .clauses cs => cs.foldl (applyClause mask isDirectory) mode

/-! Text -/

def letter (n : Nat) (special : Bool) (c : Char) : List Char :=
  [if n &&& 4 ≠ 0 then 'r' else '-', if n &&& 2 ≠ 0 then 'w' else '-',
   if special then (if n &&& 1 ≠ 0 then c else c.toUpper) else if n &&& 1 ≠ 0 then 'x' else '-']

def text (mode : Nat) : List Char :=
  letter (mode / 64 % 8) (mode &&& 0o4000 ≠ 0) 's' ++ letter (mode / 8 % 8) (mode &&& 0o2000 ≠ 0) 's'
    ++ letter (mode % 8) (mode &&& 0o1000 ≠ 0) 't'

def octal (width mode : Nat) : String :=
  let ds := Nat.toDigits 8 mode
  String.ofList (List.replicate (width - ds.length) '0' ++ ds)

def kind : Node → Char
  | .directory => 'd'
  | .file _ _ => '-'
  | .link _ => 'l'
  | .device _ => 'c'
  | .fifo _ => 'p'

def described (mode : Nat) : String := octal 4 mode ++ " (" ++ String.ofList (text mode) ++ ")"

end Mode

namespace Chmod

def under (k : Kernel) (path : String) (p : Place) : List (String × Place) :=
  let inner := (k.tree.entries.map (·.1)).filter fun q => FileTree.within p q && q ≠ p
  inner.map fun q => (Path.join path (Octets.spread ("/".intercalate (q.drop p.length))), q)

def one (i : Invocation) (c : Chosen) (change : Mode.Change) (path : String) : Routine Bool := do
  match ← Routine.info true path with
  | .error e => do
    if !c.has "f" then complain i ("cannot access " ++ Quote.always path ++ ": " ++ e.text)
    return false
  | .ok info => do
    let mask ← Routine.query fun pid k => ((k.process? pid).map (·.mask)).getD 0
    let mode := Mode.apply mask info.node.isDirectory info.mode change
    match info.place with
    | some p => Routine.change fun _ k => k.setMode p mode
    | none => pure ()
    if c.has "v" || (c.has "c" && mode ≠ info.mode) then
      let said := if mode = info.mode then "retained as " ++ Mode.described mode
        else "changed from " ++ Mode.described info.mode ++ " to " ++ Mode.described mode
      putText i ("mode of " ++ Quote.always path ++ " " ++ said ++ "\n")
    return true

def switches : List Switch :=
  Switch.letters "cfvR" ++ Switch.words [("c", "changes"), ("f", "quiet"), ("f", "silent"), ("v", "verbose"),
    ("R", "recursive"), ("reference", "reference=")]

def isMode (a : String) : Bool :=
  match a.toList with
  | '-' :: c :: _ => "rwxXstugo".toList.contains c
  | _ => false

def program : Program := fun i => do
  let modes := i.arguments.filter isMode
  let arguments := if modes.isEmpty then i.arguments else
    (i.arguments.filter (!isMode ·)).filter (· ≠ "--")
  let c ← chosen { i with arguments } switches
  let operands := match modes with
    | m :: _ => m :: c.operands
    | [] => c.operands
  let (change, paths) ← match c.last? "reference" with
    | some r =>
      match ← Routine.info true r with
      | .ok info => pure (Mode.Change.set info.mode, operands)
      | .error e => die i ("failed to get attributes of " ++ Quote.always r ++ ": " ++ e.text)
    | none =>
      match operands with
      | [] => missingOperand i
      | [m] => misuse i ("missing operand after " ++ Quote.literal m)
      | m :: paths =>
        match Mode.read? m with
        | some change => pure (change, paths)
        | none => misuse i ("invalid mode: " ++ Quote.literal m)
  let rec go (good : Bool) : List String → Routine Nat
    | [] => return if good then 0 else 1
    | p :: ps => do
      let here ← one i c change p
      let inner : List String ← if c.has "R" then
          Routine.query fun pid k =>
            match k.info pid false p with
            | .ok { place := some q, node := .directory, .. } => (under k p q).map (·.1)
            | _ => []
        else pure []
      let inner ← inner.mapM (one i c change)
      go (good && here && inner.all id) ps
  go true paths

end Chmod
end SnippetLab.Program
