import SnippetLab.Shell.State

/-! What a shell does, step by step: it works on its own state and on the machine, and may be broken off. -/
namespace SnippetLab.Shell

open SnippetLab.Machine

inductive Abort
  | error
  | ended
  | exit
  deriving DecidableEq, Repr

structure Action (α : Type) where
  run : State → Pid → (State → α → Thread) → (State → Abort → Thread) → Thread

namespace Action

instance : Monad Action where
  pure a := ⟨fun s _ ok _ => ok s a⟩
  bind t f := ⟨fun s pid ok broken => t.run s pid (fun s a => (f a).run s pid ok broken) broken⟩

instance : MonadExceptOf Abort Action where
  throw e := ⟨fun s _ _ broken => broken s e⟩
  tryCatch t f := ⟨fun s pid ok broken => t.run s pid ok fun s e => (f e).run s pid ok broken⟩

instance : MonadStateOf State Action where
  get := ⟨fun s _ ok _ => ok s s⟩
  set s := ⟨fun _ _ ok _ => ok s ()⟩
  modifyGet f := ⟨fun s _ ok _ => let (a, s) := f s; ok s a⟩

instance : MonadLift Routine Action where
  monadLift t := ⟨fun s pid ok _ => t.run pid fun a => ok s a⟩

instance [Inhabited α] : Inhabited (Action α) := ⟨pure default⟩

def routine (t : Routine α) : Action α := monadLift t

def outcome (t : Action α) : Action (Except Abort α) :=
  ⟨fun s pid ok _ => t.run s pid (fun s a => ok s (.ok a)) fun s e => ok s (.error e)⟩

def andFinally (t : Action α) (after : Action Unit) : Action α := do
  let result ← outcome t
  after
  match result with
  | .ok a => return a
  | .error e => throw e

/-- A copy of the shell in a process of its own, which ends after the action. -/
def fork (body : Action Unit) : Action Pid :=
  ⟨fun s pid ok _ =>
    let child : Routine Unit := ⟨fun pid next => body.run s pid (fun _ _ => next ()) fun _ _ => next ()⟩
    (Routine.fork child).run pid fun child => ok s child⟩

def exitNow (code : Nat) : Action α := ⟨fun _ pid _ _ => (Routine.exitCode code : Routine Unit).run pid fun _ => .done⟩

def iterate (gaveUp : α) (step : σ → Action (σ ⊕ α)) : (fuel : Nat) → σ → Action α
  | 0, _ => pure gaveUp
  | fuel + 1, s => do
    match ← step s with
    | .inl s => iterate gaveUp step fuel s
    | .inr a => pure a

def forEach (items : List β) (f : β → Action Unit) : Action Unit :=
  match items with
  | [] => pure ()
  | b :: items => do f b; forEach items f

/-! Output -/

def print (text : String) : Action Unit := modify fun s => { s with printed := text :: s.printed }

def flush : Action (Option SystemError) := do
  let s ← get
  match s.printed with
  | [] => return none
  | printed =>
    set { s with printed := [] }
    routine (Routine.write 1 (printed.reverse.flatMap String.toList))

def complain (text : String) : Action Unit := do
  let s ← get
  let command := s.commandName.elim "" (· ++ ": ")
  routine (Routine.complain (s.name ++ ": " ++ toString s.errorLine ++ ": " ++ command ++ text ++ "\n"))

def fail (text : String) (status : Nat := 2) : Action α := do
  complain text
  modify fun s => { s with status }
  throw .error

/-! Variables -/

def setVariable (name value : String) (exports : Bool := false) : Action Unit := do
  if (← get).isReadonly name then fail (name ++ ": is read only")
  modify fun s => s.setValue name value exports

def unsetVariable (name : String) : Action Unit := do
  if (← get).isReadonly name then fail (name ++ ": is read only")
  modify fun s => s.dropVariable name

end Action

/-! What the parts of a shell need of the whole. -/

structure Manner where
  isTested : Bool := false
  isLast : Bool := false
  deriving DecidableEq, Repr

structure Interpreter where
  programs : Library
  run : Node → Manner → Action Nat
  runText : String → Manner → Action Nat
  whole : Action Unit → Action Unit

end SnippetLab.Shell
