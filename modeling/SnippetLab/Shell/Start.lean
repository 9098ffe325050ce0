import SnippetLab.Shell.Run

/-! Starting a shell from its command line. -/
namespace SnippetLab.Shell.Start

open SnippetLab.Machine

def initialBindings (parent : Pid) : List (String × Variable) :=
  [("IFS", { value := some " \t\n" }), ("PATH", { value := some Builtin.standardPath }), ("PS1", { value := some "# " }),
   ("PS2", { value := some "> " }), ("PS4", { value := some "+ " }), ("OPTIND", { value := some "1" }),
   ("PPID", { value := some (toString parent) })]

def withEnvironment (s : State) (environment : List String) : State :=
  environment.foldl (fun s entry =>
    match Builtin.split? entry with
    | some (name, value) => if isName name && name ≠ "IFS" then s.setValue name value true else s
    | none => s) s

def directory (told : Option String) : Routine String := do
  let here ← Routine.query fun pid k => k.directoryPath pid
  match told with
  | none => return here
  | some path =>
    if !path.startsWith "/" then return here
    let a ← Routine.info true path
    let b ← Routine.info true "."
    return match a, b with
      | .ok a, .ok b => if a.place = b.place then path else here
      | _, _ => here

def placeSelf : Action Unit := do
  let path ← Action.routine (directory ((← get).value? "PWD"))
  modify fun s => { s with directory := path }
  Action.setVariable "PWD" path true

def depth : Nat := 10000000

def run (i : Interpreter) (arguments : List String) : Action Unit := do
  placeSelf
  let l ← Builtin.readOptions true (arguments.length + 1) { rest := arguments }
  match l.hasScript, l.rest with
  | true, [] => Action.fail "-c requires an argument"
  | true, text :: rest => do
    modify fun s => { s with name := rest.headD s.name, parameters := rest.drop 1 }
    let reads := (← get).hasOption 's'
    let _ ← i.runText text { isLast := !reads }
    if reads then standardInput
  | false, rest => do
    if rest.isEmpty || (← get).hasOption 's' then
      modify fun s => { s with options := if s.options.contains 's' then s.options else 's' :: s.options, parameters := rest }
      standardInput
    else
      let path := rest.headD ""
      let fd ← Builtin.openScript path
      modify fun s => { s with name := path, parameters := rest.drop 1, scriptDescriptor := some fd }
      let _ ← Reader.runDescriptor i fd
where
  standardInput : Action Unit := do
    let _ ← Reader.runDescriptor i 0

def program (programs : Library) : Program := fun invocation => do
  let pid ← Routine.pid
  let (parent, ignored) ← Routine.query fun pid k =>
    ((k.process? pid).map fun p => (p.parent, p.ignored)).getD (0, [])
  let s : State := {
    name := invocation.name, rootPid := pid, ignored, bindings := initialBindings parent }
  let s := withEnvironment s invocation.environment
  let i := Run.interpreter programs depth
  ⟨fun pid _ => (Run.whole i (run i invocation.arguments)).run s pid (fun _ _ => .done) fun _ _ => .done⟩

end SnippetLab.Shell.Start
