import SnippetLab.FileTree.Operations
import SnippetLab.Machine.Signal
import SnippetLab.Process.Child
import SnippetLab.Text.Utf8

/-!
What the processes of a machine share: a file tree, open files, pipes, and a table of the processes
themselves. Times are in microseconds since the machine was started.
-/
namespace SnippetLab.Machine

abbrev Pid := Nat

inductive Stream
  /-- A file by its number, which stays the same when the file is renamed or removed. -/
  | file (number : Nat)
  | directory (place : Place)
  | reader (pipe : Nat)
  | writer (pipe : Nat)
  | pipe (pipe : Nat)
  | device (kind : Device)
  | outlet
  deriving DecidableEq, Repr

/-- Descriptors that were copied from one another share an open file and its offset. -/
structure OpenFile where
  stream : Stream
  offset : Nat := 0
  reads : Bool := false
  writes : Bool := false
  appends : Bool := false
  deriving DecidableEq, Repr

/-- Octets on their way: those to be read next, and those written last, last first. -/
structure Pipe where
  front : List (List Char) := []
  back : List (List Char) := []
  size : Nat := 0
  deriving DecidableEq, Repr

namespace Pipe

def capacity : Nat := 65536

def push (p : Pipe) (cs : List Char) : Pipe :=
  if cs.isEmpty then p else { p with back := cs :: p.back, size := p.size + cs.length }

def take (p : Pipe) (count : Nat) : List Char × Pipe :=
  let front := if p.front.isEmpty then p.back.reverse else p.front
  let back := if p.front.isEmpty then [] else p.back
  match front with
  | [] => ([], p)
  | chunk :: rest =>
    let taken := chunk.take count
    let left := chunk.drop count
    (taken, ⟨if left.isEmpty then rest else left :: rest, back, p.size - taken.length⟩)

end Pipe

inductive FileState
  | at (place : Place)
  | removed (content : List UInt8) (mode : Nat)
  deriving DecidableEq, Repr

structure Process where
  parent : Pid
  descriptors : List (Nat × Nat) := []
  hidden : List Nat := []
  cwd : Place
  mask : Nat := 0o022
  ignored : List Nat := []
  caught : List Nat := []
  pending : List Nat := []
  stopped : Bool := false
  status : Option ExitStatus := none
  deriving Repr

structure Kernel where
  tree : FileTree
  clock : Nat := 0
  startedAt : Nat
  processes : List (Pid × Process) := []
  nextPid : Pid
  openFiles : List (Nat × OpenFile) := []
  files : List (Nat × FileState) := []
  /-- Places that name the same file. -/
  links : List (List Place) := []
  pipes : List (Nat × Pipe) := []
  fifos : List (Place × Nat) := []
  fresh : Nat := 0
  /-- What left the machine, last first. -/
  outlet : List (List Char) := []
  ended : Nat := 0

namespace Kernel

def now (k : Kernel) : Nat := k.startedAt + k.clock / 1000

def process? (k : Kernel) (pid : Pid) : Option Process := k.processes.lookup pid

def modify (k : Kernel) (pid : Pid) (f : Process → Process) : Kernel :=
  { k with processes := k.processes.map fun e => if e.1 = pid then (pid, f e.2) else e }

def cwd (k : Kernel) (pid : Pid) : Place := ((k.process? pid).map (·.cwd)).getD []

def isAlive (k : Kernel) (pid : Pid) : Bool := (k.process? pid).any (·.status.isNone)

def draw (k : Kernel) : Nat × Kernel := (k.fresh, { k with fresh := k.fresh + 1 })

/-! Descriptors -/

def openNumber? (k : Kernel) (pid : Pid) (fd : Nat) : Option Nat :=
  (k.process? pid).bind fun p => p.descriptors.lookup fd

def openFile? (k : Kernel) (pid : Pid) (fd : Nat) : Option OpenFile :=
  (k.openNumber? pid fd).bind fun n => k.openFiles.lookup n

def isReferenced (k : Kernel) (n : Nat) : Bool :=
  k.processes.any fun e => e.2.descriptors.any (·.2 = n)

def release (k : Kernel) (n : Nat) : Kernel :=
  if k.isReferenced n then k else { k with openFiles := k.openFiles.filter (·.1 ≠ n) }

def close (k : Kernel) (pid : Pid) (fd : Nat) : Kernel :=
  match k.openNumber? pid fd with
  | none => k
  | some n =>
    (k.modify pid fun p => { p with
      descriptors := p.descriptors.filter (·.1 ≠ fd), hidden := p.hidden.filter (· ≠ fd) }).release n

def freeDescriptor (k : Kernel) (pid : Pid) (least : Nat) : Nat :=
  let used := ((k.process? pid).map fun p => p.descriptors.map (·.1)).getD []
  ((List.range (used.length + 1)).map (· + least)).find? (fun fd => !used.contains fd) |>.getD least

def attach (k : Kernel) (pid : Pid) (fd n : Nat) : Kernel :=
  if k.openNumber? pid fd = some n then k
  else (k.close pid fd).modify pid fun p => { p with descriptors := (fd, n) :: p.descriptors }

def install (k : Kernel) (pid : Pid) (f : OpenFile) : Nat × Kernel :=
  let (n, k) := k.draw
  let fd := k.freeDescriptor pid 0
  (fd, ({ k with openFiles := (n, f) :: k.openFiles }.attach pid fd n))

def duplicate (k : Kernel) (pid : Pid) (source target : Nat) : Except SystemError Kernel :=
  match k.openNumber? pid source with
  | some n => .ok (k.attach pid target n)
  | none => .error .badDescriptor

def duplicateFrom (k : Kernel) (pid : Pid) (source least : Nat) : Except SystemError (Nat × Kernel) :=
  let fd := k.freeDescriptor pid least
  (k.duplicate pid source fd).map (fd, ·)

/-! Pipes -/

def anyOpen (k : Kernel) (p : Stream → Bool) : Bool := k.openFiles.any fun e => p e.2.stream

def hasReaders (k : Kernel) (pipe : Nat) : Bool := k.anyOpen fun s => s = .reader pipe || s = .pipe pipe

def hasWriters (k : Kernel) (pipe : Nat) : Bool := k.anyOpen fun s => s = .writer pipe || s = .pipe pipe

def pipe (k : Kernel) (n : Nat) : Pipe := (k.pipes.lookup n).getD {}

def setPipe (k : Kernel) (n : Nat) (p : Pipe) : Kernel :=
  { k with pipes := (n, p) :: k.pipes.filter (·.1 ≠ n) }

def makePipe (k : Kernel) (pid : Pid) : Nat × Nat × Kernel :=
  let (n, k) := k.draw
  let k := { k with pipes := (n, {}) :: k.pipes.filter fun e => k.hasReaders e.1 || k.hasWriters e.1 }
  let (r, k) := k.install pid { stream := .reader n, reads := true }
  let (w, k) := k.install pid { stream := .writer n, writes := true }
  (r, w, k)

def holdsOutlet (k : Kernel) : Bool := k.anyOpen (· = .outlet)

/-! Processes -/

def fork (k : Kernel) (pid : Pid) : Pid × Kernel :=
  let child := k.nextPid
  match k.process? pid with
  | none => (child, { k with nextPid := child + 1 })
  | some p =>
    (child, { k with
      nextPid := child + 1, processes := k.processes ++ [(child, { p with parent := pid, pending := [] })] })

def post (k : Kernel) (pid : Pid) (signal : Nat) : Kernel :=
  k.modify pid fun p => if p.pending.contains signal then p else { p with pending := p.pending ++ [signal] }

/-- Ends a process. Its descriptors are closed, its children go to nobody, and its parent is told. -/
def finish (k : Kernel) (pid : Pid) (status : ExitStatus) : Kernel :=
  match k.process? pid with
  | none => k
  | some p =>
    if p.status.isSome then k
    else
      let k := k.modify pid fun p => { p with descriptors := [], status := some status }
      let k := p.descriptors.foldl (fun k d => k.release d.2) k
      let orphaned (e : Pid × Process) : Pid × Process :=
        if e.2.parent = pid then (e.1, { e.2 with parent := 0 }) else e
      let kept (e : Pid × Process) : Bool := e.2.status.isNone || e.2.parent ≠ 0
      let processes := if p.parent = 0 then k.processes.filter (·.1 ≠ pid) else k.processes
      let k := { k with processes := (processes.map orphaned).filter kept, ended := k.ended + 1 }
      if (k.process? p.parent).any fun q => q.caught.contains Signal.child then k.post p.parent Signal.child else k

def signal (k : Kernel) (target : Pid) (n : Nat) : Except SystemError Kernel :=
  match k.process? target with
  | none => .error .noProcess
  | some p =>
    if n = 0 || p.status.isSome then .ok k
    else if n = Signal.kill then .ok (k.finish target (.signal n))
    else if n = Signal.resume then
      let k := k.modify target fun p => { p with stopped := false }
      .ok (if p.caught.contains n then k.post target n else k)
    else if n = Signal.stop then .ok (k.modify target fun p => { p with stopped := true })
    else if p.ignored.contains n then .ok k
    else if p.caught.contains n then .ok (k.post target n)
    else match Signal.effect n with
      | .nothing => .ok k
      | .stops => .ok (k.modify target fun p => { p with stopped := true })
      | .ends => .ok (k.finish target (.signal n))

def raise (k : Kernel) (pid : Pid) (n : Nat) : Kernel := (k.signal pid n).toOption.getD k

def hasPending (k : Kernel) (pid : Pid) : Bool := (k.process? pid).any fun p => !p.pending.isEmpty

def children (k : Kernel) (pid : Pid) : List Pid :=
  (k.processes.filter fun e => e.2.parent = pid).map (·.1)

def status? (k : Kernel) (pid : Pid) : Option ExitStatus := (k.process? pid).bind (·.status)

def reap (k : Kernel) (pid : Pid) : Kernel := { k with processes := k.processes.filter (·.1 ≠ pid) }

def hide (k : Kernel) (pid : Pid) (fd : Nat) : Kernel := k.modify pid fun p => { p with hidden := fd :: p.hidden }

def renew (k : Kernel) (pid : Pid) : Kernel :=
  let hidden := ((k.process? pid).map (·.hidden)).getD []
  (hidden.foldl (fun k fd => k.close pid fd) k).modify pid fun p => { p with caught := [], pending := [] }

def setHandling (k : Kernel) (pid : Pid) (n : Nat) (ignores catches : Bool) : Kernel :=
  k.modify pid fun p =>
    { p with
      ignored := if ignores then n :: p.ignored.filter (· ≠ n) else p.ignored.filter (· ≠ n)
      caught := if catches then n :: p.caught.filter (· ≠ n) else p.caught.filter (· ≠ n) }

end Kernel
end SnippetLab.Machine
