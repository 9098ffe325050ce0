import SnippetLab.Shell.Words

/-! Where commands read from and write to. -/
namespace SnippetLab.Shell.Redirection

open SnippetLab.Machine

inductive Target
  | path (descriptor : Nat) (kind : RedirectKind) (path : String)
  | copy (descriptor : Nat) (source : Option Nat)
  | document (descriptor number : Nat)
  deriving DecidableEq, Repr

/-- Descriptors from here on hold what redirections give back. -/
def keptFrom : Nat := 10

def sourceOf (text : String) : Action (Option Nat) :=
  match text.toList with
  | ['-'] => return none
  | [c] => if c.isDigit then return some (c.toNat - '0'.toNat) else wrong
  | _ => wrong
where
  wrong : Action (Option Nat) := Action.fail "Syntax error: Bad fd number"

def target (i : Interpreter) : Redirect → Action Target
  | .file fd (.copy _) w => do return .copy fd (← sourceOf (← Words.text i w))
  | .file fd kind w => do return .path fd kind (← Words.text i w)
  | .document fd number => return .document fd number

def reason (e : SystemError) (missing : String) : String :=
  if e = .noEntry || e = .notDirectory then missing else e.text

def cannotOpen (path : String) (e : SystemError) : Action α :=
  Action.fail ("cannot open " ++ path ++ ": " ++ reason e "No such file")

def cannotCreate (path : String) (e : SystemError) : Action α :=
  Action.fail ("cannot create " ++ path ++ ": " ++ reason e "Directory nonexistent")

def openOr (refuse : String → SystemError → Action Nat) (path : String) (mode : OpenMode) : Action Nat := do
  match ← Action.routine (Routine.openPath path mode) with
  | .ok fd => return fd
  | .error e => refuse path e

def openUnused (path : String) : Action Nat := do
  match ← Action.routine (Routine.info true path) with
  | .error _ => openOr cannotCreate path .newOutput
  | .ok info =>
    match info.node with
    | .file _ _ => cannotCreate path .alreadyExists
    | _ => openOr cannotCreate path { writes := true }

def pipeSize : Nat := 4096

def openText (cs : List Char) : Action Nat := do
  let (r, w) ← Action.routine (Routine.lift fun pid k => let (r, w, k) := k.makePipe pid; ((r, w), k))
  if cs.length ≤ pipeSize then
    let _ ← Action.routine (Routine.write w cs)
  else
    let _ ← Action.fork do
      Routine.close r
      let _ ← Action.routine (Routine.write w cs)
  Routine.close w
  return r

def opened (i : Interpreter) : Target → Action (Option Nat)
  | .copy fd source => return if source = some fd then none else some (source.getD fd)
  | .document _ number => do
    let s ← get
    some <$> openText (← Words.document i ((s.documents.lookup number).getD []))
  | .path _ kind path => do
    some <$> match kind with
      | .input => openOr cannotOpen path .input
      | .both => openOr cannotCreate path .both
      | .append => openOr cannotCreate path .appending
      | .output => do if (← get).hasOption 'C' then openUnused path else openOr cannotCreate path .output
      | _ => openOr cannotCreate path .output

def descriptor : Target → Nat
  | .path fd _ _ | .copy fd _ | .document fd _ => fd

/-- Keeps a copy of a descriptor, which is closed; none if it was not open. -/
def keep (fd : Nat) : Routine (Option Nat) :=
  Routine.lift fun pid k =>
    match k.duplicateFrom pid fd keptFrom with
    | .ok (copy, k) => (some copy, (k.hide pid copy).close pid fd)
    | .error _ => (none, k)

def move (source fd : Nat) : Routine Unit :=
  Routine.change fun pid k => ((k.duplicate pid source fd).toOption.getD k).close pid source

def apply (i : Interpreter) (saves : Bool) (t : Target) : Action Unit := do
  let fd := descriptor t
  match ← opened i t with
  | none => pure ()
  | some source =>
    if saves then
      let isSaved := ((← get).redirected.headD []).any (·.1 = fd)
      if !isSaved then
        let copy ← if source = fd && !isClosing t then pure none else Action.routine (keep fd)
        modify fun s => { s with redirected := ((fd, copy) :: s.redirected.headD []) :: s.redirected.drop 1 }
    match t with
    | .copy _ none => Routine.close fd
    | .copy _ (some source) =>
      match ← Action.routine (Routine.attempt fun pid k => k.duplicate pid source fd) with
      | some e => Action.fail (toString source ++ ": " ++ e.text)
      | none => pure ()
    | _ => if source ≠ fd then Action.routine (move source fd)
where
  isClosing : Target → Bool
    | .copy _ none => true
    | _ => false

def applyAll (i : Interpreter) (saves : Bool) (ts : List Target) : Action Unit :=
  Action.forEach ts (apply i saves)

def push : Action Unit := modify fun s => { s with redirected := [] :: s.redirected }

def pop (stays : Bool) : Action Unit := do
  let s ← get
  set { s with redirected := s.redirected.drop 1 }
  Action.forEach (s.redirected.headD []) fun
    | (fd, some copy) => Action.routine (if stays then Routine.close copy else move copy fd)
    | (fd, none) => if stays then pure () else Routine.close fd

def unwind : Nat → (depth : Nat) → Action Unit
  | 0, _ => pure ()
  | fuel + 1, depth => do
    if depth < (← get).redirected.length then
      pop false
      unwind fuel depth

def attempt (i : Interpreter) (ts : List Target) : Action Nat := do
  match ← Action.outcome (applyAll i true ts) with
  | .ok () => return 0
  | .error .error => return 2
  | .error e => throw e

end SnippetLab.Shell.Redirection
