import SnippetLab.Machine.Files

/-!
What processes do. A thread is a process on its way: it acts on the kernel at once, waits, or starts another
thread. A routine is a part of a thread that yields a value.
-/
namespace SnippetLab.Machine

inductive Thread where
  | done
  | act (run : Kernel → Kernel × Thread)
  | await (ready : Kernel → Bool) (deadline : Option Nat) (next : Thread)
  | fork (child : Pid) (body next : Thread)

instance : Inhabited Thread := ⟨.done⟩

structure Routine (α : Type) where
  run : Pid → (α → Thread) → Thread

namespace Routine

instance : Monad Routine where
  pure a := ⟨fun _ next => next a⟩
  bind t f := ⟨fun pid next => t.run pid fun a => (f a).run pid next⟩

instance [Inhabited α] : Inhabited (Routine α) := ⟨pure default⟩

def lift (f : Pid → Kernel → α × Kernel) : Routine α :=
  ⟨fun pid next => .act fun k => let (a, k) := f pid k; (k, next a)⟩

def query (f : Pid → Kernel → α) : Routine α := lift fun pid k => (f pid k, k)

def change (f : Pid → Kernel → Kernel) : Routine Unit := lift fun pid k => ((), f pid k)

def attempt (f : Pid → Kernel → Except SystemError Kernel) : Routine (Option SystemError) :=
  lift fun pid k => match f pid k with
    | .ok k => (none, k)
    | .error e => (some e, k)

def pid : Routine Pid := ⟨fun pid next => next pid⟩

def await (ready : Pid → Kernel → Bool) (deadline : Option Nat := none) : Routine Unit :=
  ⟨fun pid next => .await (ready pid) deadline (next ())⟩

def spend (duration : Nat) : Routine Unit := do
  let now ← query fun _ k => k.clock
  await (fun _ _ => false) (some (now + duration))

def work (duration : Nat) : Routine Unit := change fun _ k => { k with clock := k.clock + duration }

def sleep (duration : Nat) : Routine Unit := do
  let now ← query fun _ k => k.clock
  await (fun pid k => k.hasPending pid) (some (now + duration))

def exit (status : ExitStatus) : Routine α := ⟨fun pid _ => .act fun k => (k.finish pid status, .done)⟩

def exitCode (n : Nat) : Routine α := exit (.code (n % 256))

def fork (body : Routine Unit) : Routine Pid :=
  ⟨fun pid next => .act fun k =>
    let (child, k) := k.fork pid
    (k, .fork child (body.run child fun _ => (exitCode 0 : Routine Unit).run child fun _ => .done) (next child))⟩

/-- Repeats a step until it yields a result; the fuel bounds the rounds. -/
def iterate (gaveUp : α) (step : σ → Routine (σ ⊕ α)) : (fuel : Nat) → σ → Routine α
  | 0, _ => pure gaveUp
  | fuel + 1, s => do
    match ← step s with
    | .inl s => iterate gaveUp step fuel s
    | .inr a => pure a

def rounds : Nat := 1000000000

def forEach (items : List β) (f : β → Routine Unit) : Routine Unit :=
  match items with
  | [] => pure ()
  | b :: items => do f b; forEach items f

/-! Streams -/

def read (fd count : Nat) : Routine (Except SystemError (List Char)) :=
  iterate (.error .interrupted) (fun () => do
    match ← lift fun pid k => k.read pid fd count with
    | .data cs => return .inr (.ok cs)
    | .failed e => return .inr (.error e)
    | .wait =>
      await fun pid k => k.hasPending pid || (k.read pid fd 1).1 ≠ .wait
      if ← query fun pid k => k.hasPending pid then return .inr (.error .interrupted)
      else return .inl ()) rounds ()

/-- Writes all. Nobody to read it means a signal, and an error if the process survives that. -/
def write (fd : Nat) (cs : List Char) : Routine (Option SystemError) :=
  iterate (some .interrupted) (fun cs =>
    if cs.isEmpty then return .inr none
    else do
      match ← lift fun pid k => k.write pid fd cs with
      | .wrote n => return .inl (cs.drop n)
      | .wait =>
        await fun pid k => (k.write pid fd cs).1 ≠ .wait
        return .inl cs
      | .failed .brokenPipe =>
        change fun pid k => k.raise pid Signal.brokenPipe
        return .inr (some .brokenPipe)
      | .failed e => return .inr (some e)) rounds cs

def chunkSize : Nat := 65536

def readAll (fd : Nat) : Routine (Except SystemError (List Char)) := do
  let chunks : Except SystemError (List (List Char)) ← iterate (.ok []) (fun (chunks : List (List Char)) => do
    match ← read fd chunkSize with
    | .ok [] => return .inr (.ok chunks)
    | .ok cs => return .inl (cs :: chunks)
    | .error e => return .inr (.error e)) rounds []
  return chunks.map fun cs => cs.reverse.flatten

def openPath (path : String) (mode : OpenMode) (permissions : Nat := 0o666) : Routine (Except SystemError Nat) := do
  let result ← lift fun pid k => match k.opened pid path mode permissions with
    | .ok (f, k) => let (fd, k) := k.install pid f; (Except.ok fd, k)
    | .error e => (.error e, k)
  match result with
  | .error e => return .error e
  | .ok fd =>
    if ← query fun pid k => k.isConnected pid fd then return .ok fd
    else
      await fun pid k => k.isConnected pid fd || k.hasPending pid
      return .ok fd

def close (fd : Nat) : Routine Unit := change fun pid k => k.close pid fd

def complain (s : String) : Routine Unit := do let _ ← write 2 s.toList

/-! Other processes -/

def waitFor (child : Pid) : Routine ExitStatus := do
  await fun _ k => !k.isAlive child
  lift fun _ k => ((k.status? child).getD (.code 0), k.reap child)

def info (follow : Bool) (path : String) : Routine (Except SystemError FileInfo) :=
  query fun pid k => k.info pid follow path

end Routine
end SnippetLab.Machine
