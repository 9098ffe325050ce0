import SnippetLab.Shell.Script

/-!
A script while it is read. Text can be put in front of it, as the value of an alias is; more text may be
wanted than is there so far.
-/
namespace SnippetLab.Shell

inductive Stop
  | fault (text : String) (line : Nat)
  | starved
  deriving DecidableEq, Repr

structure Pushed where
  rest : List Char
  /-- The alias whose value it is; it does not stand for itself. -/
  name : String
  endsInBlank : Bool
  deriving DecidableEq, Repr

structure Checks where
  keywords : Bool := false
  aliases : Bool := false
  newlines : Bool := false
  endMark : Bool := false
  deriving DecidableEq, Repr

inductive Opening
  | file (descriptor : Nat) (kind : RedirectKind)
  | document (descriptor : Nat) (stripsTabs : Bool)
  deriving DecidableEq, Repr

structure Pending where
  number : Nat
  endMark : List Char
  stripsTabs : Bool
  expands : Bool
  deriving DecidableEq, Repr

structure Reading where
  text : List Char
  isWhole : Bool := true
  pushed : List Pushed := []
  line : Nat := 1
  aliases : List (String × String) := []
  busy : List String := []
  last : Token := .newline
  isHeld : Bool := false
  checks : Checks := {}
  word : Word := []
  isQuoted : Bool := false
  opening : Opening := .file 0 .input
  pending : List Pending := []
  documents : List (Nat × Word) := []
  nextDocument : Nat := 0

abbrev Parse := StateT Reading (Except Stop)

namespace Parse

def fault (text : String) : Parse α := do throw (.fault text (← get).line)

def next : Parse (Option Char) := do
  let r ← get
  match r.pushed, r.text with
  | { rest := c :: rest, name, endsInBlank } :: pushed, _ =>
    set { r with pushed := ⟨rest, name, endsInBlank⟩ :: pushed }
    return some c
  | [], c :: text =>
    set { r with text }
    return some c
  | [], [] => if r.isWhole then return none else throw .starved
  | _, _ => fromBelow r
where
  fromBelow (r : Reading) : Parse (Option Char) := do
    let used := (r.pushed.takeWhile (·.rest.isEmpty))
    let r := { r with
      pushed := r.pushed.drop used.length
      checks := if used.any (·.endsInBlank) then { r.checks with aliases := true } else r.checks }
    match r.pushed, r.text with
    | { rest := c :: rest, name, endsInBlank } :: pushed, _ =>
      set { r with pushed := ⟨rest, name, endsInBlank⟩ :: pushed }
      return some c
    | _, c :: text =>
      set { r with text }
      return some c
    | _, [] =>
      set r
      if r.isWhole then return none else throw .starved

def putBack (cs : List Char) : Parse Unit :=
  modify fun r => match r.pushed with
    | p :: pushed => { r with pushed := { p with rest := cs ++ p.rest } :: pushed }
    | [] => { r with text := cs ++ r.text }

def unread (c : Option Char) : Parse Unit :=
  match c with
  | some c => putBack [c]
  | none => pure ()

def passLine : Parse Unit := modify fun r => { r with line := r.line + 1 }

def fuel : Nat := 1000000000

/-- The next character after all joined lines. -/
def joined : Parse (Option Char) := go fuel
where
  go : Nat → Parse (Option Char)
  | 0 => return none
  | fuel + 1 => do
    match ← next with
    | some '\\' =>
      match ← next with
      | some '\n' => do passLine; go fuel
      | c => do unread c; return some '\\'
    | c => return c

def hold : Parse Unit := modify fun r => { r with isHeld := true }

def last : Parse Token := return (← get).last

def setChecks (checks : Checks) : Parse Unit := modify fun r => { r with checks }

def unexpected (expecting : Option Token := none) : Parse α := do
  fault ((← last).name ++ " unexpected" ++ (expecting.elim "" fun t => " (expecting " ++ t.name ++ ")"))

end Parse
end SnippetLab.Shell
