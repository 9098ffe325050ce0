import SnippetLab.Machine.Kernel

/-! Opening, reading and changing files from within a process. Paths are texts of octets. -/
namespace SnippetLab.Machine

open SnippetLab.Text

structure OpenMode where
  reads : Bool := false
  writes : Bool := false
  appends : Bool := false
  creates : Bool := false
  truncates : Bool := false
  exclusive : Bool := false
  deriving DecidableEq, Repr

namespace OpenMode

def input : OpenMode := { reads := true }

def output : OpenMode := { writes := true, creates := true, truncates := true }

def appending : OpenMode := { writes := true, creates := true, appends := true }

def both : OpenMode := { reads := true, writes := true, creates := true }

def newOutput : OpenMode := { writes := true, creates := true, exclusive := true }

end OpenMode

inductive ReadResult
  | data (cs : List Char)
  | wait
  | failed (e : SystemError)
  deriving DecidableEq, Repr

inductive WriteResult
  | wrote (count : Nat)
  | wait
  | failed (e : SystemError)
  deriving DecidableEq, Repr

structure FileInfo where
  place : Option Place
  node : Node
  size : Nat := 0
  mode : Nat := 0o755
  links : Nat := 1
  changed : Int := 0
  deriving DecidableEq, Repr

namespace Kernel

def descriptorPath? (path : String) : Option Nat :=
  match path with
  | "/dev/stdin" => some 0
  | "/dev/stdout" => some 1
  | "/dev/stderr" => some 2
  | _ => (["/dev/fd/", "/proc/self/fd/"].findSome? fun first =>
      if first.toList.isPrefixOf path.toList then some (String.ofList (path.toList.drop first.length)) else none).bind
        String.toNat?

/-! Contents -/

def placesOf (k : Kernel) (p : Place) : List Place := (k.links.find? (·.contains p)).getD [p]

def fileNumber (k : Kernel) (p : Place) : Nat × Kernel :=
  let places := k.placesOf p
  match k.files.find? fun f => places.any fun q => f.2 = .at q with
  | some f => (f.1, k)
  | none => let (n, k) := k.draw; (n, { k with files := (n, .at p) :: k.files })

def content (k : Kernel) (n : Nat) : List UInt8 :=
  match k.files.lookup n with
  | some (.at p) =>
    match k.tree.node? p with
    | some (.file content _) => content
    | _ => []
  | some (.removed content _) => content
  | none => []

def setNode (k : Kernel) (p : Place) (n : Node) : Kernel :=
  { k with tree := (k.placesOf p).foldl (fun t q => t.put k.now q n) k.tree }

def setContent (k : Kernel) (n : Nat) (content : List UInt8) : Kernel :=
  match k.files.lookup n with
  | some (.at p) =>
    match k.tree.node? p with
    | some (.file _ mode) => k.setNode p (.file content mode)
    | _ => k
  | some (.removed _ mode) =>
    { k with files := k.files.map fun f => if f.1 = n then (n, .removed content mode) else f }
  | none => k

/-! Opening -/

def fifoPipe (k : Kernel) (p : Place) : Nat × Kernel :=
  match k.fifos.lookup p with
  | some n => (n, k)
  | none => let (n, k) := k.draw; (n, { k with fifos := (p, n) :: k.fifos, pipes := (n, {}) :: k.pipes })

def openStream (mode : OpenMode) (s : Stream) : OpenFile :=
  { stream := s, reads := mode.reads, writes := mode.writes, appends := mode.appends }

def openFileAt (k : Kernel) (p : Place) (mode : OpenMode) : OpenFile × Kernel :=
  let (n, k) := k.fileNumber p
  (openStream mode (.file n), if mode.truncates && !(k.content n).isEmpty then k.setContent n [] else k)

def pipeEnd (mode : OpenMode) (n : Nat) : Stream :=
  if mode.reads && mode.writes then .pipe n else if mode.writes then .writer n else .reader n

def reopen (k : Kernel) (f : OpenFile) (mode : OpenMode) : Except SystemError (OpenFile × Kernel) :=
  match f.stream with
  | .file n => .ok (openStream mode f.stream, if mode.truncates then k.setContent n [] else k)
  | .reader n | .writer n | .pipe n => .ok (openStream mode (pipeEnd mode n), k)
  | .directory _ => if mode.writes then .error .isDirectory else .ok (openStream mode f.stream, k)
  | _ => .ok (openStream mode f.stream, k)

/-- What a process gets that opens a path. A new file has the permissions that the process does not mask. -/
def opened (k : Kernel) (pid : Pid) (path : String) (mode : OpenMode) (permissions : Nat) :
    Except SystemError (OpenFile × Kernel) :=
  match descriptorPath? path with
  | some fd =>
    match k.openFile? pid fd with
    | some f => k.reopen f mode
    | none => .error .noEntry
  | none =>
    let path := Octets.gather path
    match k.tree.resolve (k.cwd pid) true path with
    | .error e => .error e
    | .ok (.free p) =>
      if !mode.creates then .error .noEntry
      else if Path.endsInSlash path then .error .isDirectory
      else
        let mask := ((k.process? pid).map (·.mask)).getD 0
        let k := { k with tree := k.tree.put k.now p (.file [] (permissions &&& (0o777 ^^^ mask))) }
        .ok (k.openFileAt p mode)
    | .ok (.entry p node) =>
      if mode.exclusive then .error .alreadyExists
      else match node with
        | .directory => if mode.writes then .error .isDirectory else .ok (openStream mode (.directory p), k)
        | .file _ _ => .ok (k.openFileAt p mode)
        | .device .terminal => .error .noDevice
        | .device d => .ok (openStream mode (.device d), k)
        | .fifo _ => let (n, k) := k.fifoPipe p; .ok (openStream mode (pipeEnd mode n), k)
        | .link _ => .error .tooManyLinks

/-- What an open named pipe still waits for: that its other end is opened too. -/
def isConnected (k : Kernel) (pid : Pid) (fd : Nat) : Bool :=
  match (k.openFile? pid fd).map OpenFile.stream with
  | some (.reader n) => k.hasWriters n || !(k.pipe n).front.isEmpty || !(k.pipe n).back.isEmpty
  | some (.writer n) => k.hasReaders n
  | _ => true

/-! Reading and writing -/

def setOffset (k : Kernel) (pid : Pid) (fd offset : Nat) : Kernel :=
  match k.openNumber? pid fd with
  | none => k
  | some n => { k with openFiles := k.openFiles.map fun f => if f.1 = n then (n, { f.2 with offset }) else f }

def noise (seed : Nat) : Nat → List Char
  | 0 => []
  | n + 1 =>
    let seed := (seed * 6364136223846793005 + 1442695040888963407) % UInt64.size
    Char.ofNat (seed / Nat.pow 2 56) :: noise seed n

def read (k : Kernel) (pid : Pid) (fd count : Nat) : ReadResult × Kernel :=
  match k.openFile? pid fd with
  | none => (.failed .badDescriptor, k)
  | some f =>
    if !f.reads then (.failed .badDescriptor, k)
    else match f.stream with
      | .file n =>
        let octets := ((k.content n).drop f.offset).take count
        (.data (Octets.ofList octets), k.setOffset pid fd (f.offset + octets.length))
      | .directory _ => (.failed .isDirectory, k)
      | .reader n | .pipe n =>
        let p := k.pipe n
        if 0 < p.size then let (cs, p) := p.take count; (.data cs, k.setPipe n p)
        else if k.hasWriters n then (.wait, k)
        else (.data [], k)
      | .device .null | .device .terminal | .writer _ => (.data [], k)
      | .device .zero | .device .full => (.data (List.replicate count '\x00'), k)
      | .device .random => let (n, k) := k.draw; (.data (noise (n + k.clock) count), k)
      | .outlet => (.wait, k)

def overwrite (content : List UInt8) (offset : Nat) (octets : List UInt8) : List UInt8 :=
  if offset = content.length then content ++ octets
  else content.take offset ++ List.replicate (offset - content.length) 0 ++ octets
    ++ content.drop (offset + octets.length)

def atomicSize : Nat := 4096

def write (k : Kernel) (pid : Pid) (fd : Nat) (cs : List Char) : WriteResult × Kernel :=
  match k.openFile? pid fd with
  | none => (.failed .badDescriptor, k)
  | some f =>
    if !f.writes then (.failed .badDescriptor, k)
    else match f.stream with
      | .file n =>
        let content := k.content n
        let offset := if f.appends then content.length else f.offset
        let k := (k.setContent n (overwrite content offset (Octets.toList cs))).setOffset pid fd (offset + cs.length)
        (.wrote cs.length, k)
      | .writer n | .pipe n =>
        if !k.hasReaders n then (.failed .brokenPipe, k)
        else
          let p := k.pipe n
          let room := Pipe.capacity - p.size
          if room = 0 || (cs.length ≤ atomicSize && room < cs.length) then (.wait, k)
          else (.wrote (min room cs.length), k.setPipe n (p.push (cs.take room)))
      | .device .full => (.failed .noSpace, k)
      | .outlet => (.wrote cs.length, { k with outlet := cs :: k.outlet })
      | _ => (.wrote cs.length, k)

/-! Names -/

/-- Takes the name of a file away; an open file keeps its content. -/
def unlink (k : Kernel) (p : Place) : Kernel :=
  let others := (k.placesOf p).filter (· ≠ p)
  let state : FileState := match others.head?, k.tree.node? p with
    | some q, _ => .at q
    | none, some (.file content mode) => .removed content mode
    | none, _ => .removed [] 0
  { k with
    files := k.files.map fun f => if f.2 = .at p then (f.1, state) else f
    links := k.links.map (·.filter (· ≠ p))
    fifos := k.fifos.filter (·.1 ≠ p)
    tree := k.tree.erase k.now p }

def eraseTree (k : Kernel) (p : Place) : Kernel :=
  let under := (k.tree.entries.map (·.1)).filter fun q => FileTree.within p q && q ≠ p
  (under.reverse.foldl unlink k).unlink p

def rename (k : Kernel) (source target : Place) : Kernel :=
  let k := if (k.tree.node? target).isSome then k.eraseTree target else k
  let moved (p : Place) : Place := if FileTree.within source p then target ++ p.drop source.length else p
  { k with
    files := k.files.map fun f => match f.2 with
      | .at p => (f.1, .at (moved p))
      | s => (f.1, s)
    links := k.links.map (·.map moved)
    fifos := k.fifos.map fun f => (moved f.1, f.2)
    processes := k.processes.map fun e => (e.1, { e.2 with cwd := moved e.2.cwd })
    tree := k.tree.move k.now source target }

def link (k : Kernel) (source target : Place) : Kernel :=
  match k.tree.node? source with
  | none => k
  | some node =>
    let places := k.placesOf source
    { k with
      links := (target :: places) :: k.links.filter (!·.contains source)
      tree := k.tree.put k.now target node }

def setMode (k : Kernel) (p : Place) (mode : Nat) : Kernel :=
  { k with tree := (k.placesOf p).foldl (fun t q =>
      (t.setMode [] (FileTree.placePath q) mode).toOption.getD t) k.tree }

/-! Facts -/

def infoOfNode (k : Kernel) (p : Place) (node : Node) : FileInfo :=
  let info : FileInfo := { place := some p, node, changed := (k.tree.changed? p).getD 0 }
  match node with
  | .file content mode => { info with size := content.length, mode, links := (k.placesOf p).length }
  | .directory => { info with size := 4096, links := 2 + ((k.tree.children p).filter fun n => k.tree.isDirectoryAt (p ++ [n])).length }
  | .link target => { info with size := target.utf8ByteSize, mode := 0o777 }
  | .device _ => { info with mode := 0o666 }
  | .fifo mode => { info with mode }

def infoOfStream (k : Kernel) (s : Stream) : FileInfo :=
  match s with
  | .file n =>
    match k.files.lookup n with
    | some (.at p) => k.infoOfNode p ((k.tree.node? p).getD .directory)
    | some (.removed content mode) => { place := none, node := .file content mode, size := content.length, mode }
    | none => { place := none, node := .device .null }
  | .directory p => k.infoOfNode p .directory
  | .device d => { place := none, node := .device d, mode := 0o666 }
  | _ => { place := none, node := .fifo 0o600, mode := 0o600 }

def info (k : Kernel) (pid : Pid) (follow : Bool) (path : String) : Except SystemError FileInfo :=
  match descriptorPath? path with
  | some fd =>
    match k.openFile? pid fd with
    | some f => .ok (k.infoOfStream f.stream)
    | none => .error .noEntry
  | none => (k.tree.find (k.cwd pid) follow (Octets.gather path)).map fun (p, node) => k.infoOfNode p node

/-! Directories -/

def enter (k : Kernel) (pid : Pid) (path : String) : Except SystemError Kernel :=
  match k.tree.find (k.cwd pid) true (Octets.gather path) with
  | .ok (place, .directory) => .ok (k.modify pid fun p => { p with cwd := place })
  | .ok _ => .error .notDirectory
  | .error e => .error e

def directoryPath (k : Kernel) (pid : Pid) : String := Octets.spread (FileTree.placePath (k.cwd pid))

def isSame (k : Kernel) (a b : FileInfo) : Bool :=
  match a.place, b.place with
  | some p, some q => (k.placesOf p).contains q
  | none, none => a.node = b.node
  | _, _ => false

end Kernel
end SnippetLab.Machine
