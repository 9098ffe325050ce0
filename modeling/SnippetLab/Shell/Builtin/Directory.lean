import SnippetLab.Shell.Builtin.Arguments

/-! Commands for the working directory and for the permissions of new files. -/
namespace SnippetLab.Shell.Builtin

open SnippetLab.Machine

def wantsPhysical (found : List (Char × String)) : Bool := (found.getLast?.map (·.1)) = some 'P'

def follow : (done : List (List Char)) → List (List Char) → List (List Char)
  | done, [] => done
  | done, part :: rest =>
    if part = ['.'] then follow done rest
    else if part = ['.', '.'] then follow (done.drop 1) rest
    else follow (part :: done) rest

/-- Two slashes at the start are kept, unless a third one follows. -/
def root (path : List Char) : List Char :=
  match path with
  | ['/', '/'] => ['/', '/']
  | '/' :: '/' :: c :: _ => if c = '/' then ['/'] else ['/', '/']
  | _ => ['/']

def logicalPath (directory path : String) : String :=
  let cs := path.toList
  let parts (cs : List Char) : List (List Char) := (cs.splitOn '/').filter (· ≠ [])
  let (root, done) := if cs.head? = some '/' then (root cs, []) else (root directory.toList, (parts directory.toList).reverse)
  String.ofList (root ++ ['/'].intercalate (follow done (parts cs)).reverse)

def setDirectory (path : String) : Action Unit := do
  let s ← get
  Action.setVariable "OLDPWD" s.directory true
  modify fun s => { s with directory := path }
  Action.setVariable "PWD" path true

def enter (physical : Bool) (path : String) : Action Bool := do
  let s ← get
  let logical := logicalPath s.directory path
  let target := if physical || (s.directory.isEmpty && !path.startsWith "/") then path else logical
  match ← Action.routine (Routine.attempt fun pid k => k.enter pid target) with
  | some _ => return false
  | none => do
    if physical then setDirectory (← Action.routine (Routine.query fun pid k => k.directoryPath pid))
    else setDirectory logical
    return true

/-- A path that starts at a slash or a dot is not looked for in other directories. -/
def isAnchored (path : String) : Bool :=
  match path.toList with
  | '/' :: _ | ['.'] | '.' :: '/' :: _ | ['.', '.'] | '.' :: '.' :: '/' :: _ => true
  | _ => false

def isDirectory (path : String) : Routine Bool :=
  Routine.query fun pid k => match k.info pid true path with
    | .ok info => info.node.isDirectory
    | .error _ => false

def search (path : String) : List String → Action (Option (String × Bool))
  | [] => return none
  | d :: rest => do
    let candidate := if d.isEmpty then path else d ++ "/" ++ path
    if ← Action.routine (isDirectory candidate) then return some (candidate, !d.isEmpty) else search path rest

def cd : Builtin := fun _ arguments => do
  let (found, rest) ← options "LP" arguments
  let s ← get
  let physical := wantsPhysical found
  let (target, shows) := match rest with
    | [] => ((s.value? "HOME").getD "", false)
    | "-" :: _ => ((s.value? "OLDPWD").getD "", true)
    | a :: _ => (a, false)
  let (path, shows) ← if isAnchored target then pure (target, shows) else do
    let path := if target.isEmpty then "." else target
    match ← search path (Environment.directories ((s.value? "CDPATH").getD "")) with
    | some (found, elsewhere) => pure (found, shows || elsewhere)
    | none => pure (target, shows)
  if !(← enter physical path) then Action.fail ("can't cd to " ++ target)
  if shows then Action.print ((← get).directory ++ "\n")
  return 0

def pwd : Builtin := fun _ arguments => do
  let (found, _) ← options "LP" arguments
  let path ← if wantsPhysical found then Action.routine (Routine.query fun pid k => k.directoryPath pid)
    else pure (← get).directory
  Action.print (path ++ "\n")
  return 0

/-! Permissions of new files -/

def classes : Nat → List Char → Nat × List Char
  | n, c :: cs =>
    match [('a', 0o111), ('u', 0o100), ('g', 0o010), ('o', 0o001)].lookup c with
    | some m => classes (n ||| m) cs
    | none => (n, c :: cs)
  | n, [] => (n, [])

def permissions (mask : Nat) : Nat → List Char → Nat × List Char
  | n, c :: cs =>
    match [('r', 4), ('w', 2), ('x', 1), ('u', mask / 64), ('g', mask / 8), ('o', mask), ('s', 0),
        ('X', if mask &&& 0o111 ≠ 0 then 1 else 0)].lookup c with
    | some m => permissions mask (n ||| m) cs
    | none => (n, c :: cs)
  | n, [] => (n, [])

def symbolicMode (mask : Nat) : Nat → (classes_ mode : Nat) → List Char → Option Nat
  | 0, _, _, _ => none
  | _, _, mode, [] => some mode
  | fuel + 1, held, mode, cs =>
    let (found, rest) := classes held cs
    let places := if found = 0 then 0o111 else found
    match rest with
    | operator :: rest =>
      if !(['=', '+', '-'].contains operator) then none
      else
        let (bits, rest) := permissions mask 0 rest
        let value := (bits &&& 7) * places
        let mode := match operator with
          | '-' => mode &&& (0o777 ^^^ value)
          | '+' => mode ||| value
          | _ => value ||| (mode &&& (0o777 ^^^ (places * 7)))
        match rest with
        | ',' :: rest => symbolicMode mask fuel 0 mode rest
        | rest => if rest.head?.all fun c => ['=', '+', '-'].contains c then symbolicMode mask fuel places mode rest else none
    | [] => some mode

def octalMode? (cs : List Char) : Option Nat :=
  cs.foldlM (fun n c => if '0' ≤ c ∧ c < '8' then some (n * 8 + (c.toNat - '0'.toNat)) else none) 0

def umask : Builtin := fun _ arguments => do
  let (found, rest) ← options "S" arguments
  let mask ← Action.routine (Routine.query fun pid k => ((k.process? pid).map (·.mask)).getD 0)
  let set (n : Nat) : Action Unit := Action.routine (Routine.change fun pid k => k.modify pid fun p => { p with mask := n &&& 0o777 })
  match rest with
  | [] =>
    if found.isEmpty then
      let ds := Nat.toDigits 8 mask
      Action.print (String.ofList (List.replicate (4 - ds.length) '0' ++ ds) ++ "\n")
    else
      let allowed (shift : Nat) : String :=
        let n := (0o777 ^^^ mask) / shift
        (if n &&& 4 ≠ 0 then "r" else "") ++ (if n &&& 2 ≠ 0 then "w" else "") ++ (if n &&& 1 ≠ 0 then "x" else "")
      Action.print ("u=" ++ allowed 64 ++ ",g=" ++ allowed 8 ++ ",o=" ++ allowed 1 ++ "\n")
  | text :: _ =>
    let cs := text.toList
    if cs.head?.any Char.isDigit then
      match octalMode? cs with
      | some n => set n
      | none => illegalNumber text
    else
      let mode := 0o777 ^^^ mask
      match symbolicMode mode (cs.length + 1) 0 mode cs with
      | some n => set (0o777 ^^^ (n &&& 0o777))
      | none => Action.fail ("Illegal mode: " ++ text)
  return 0

end SnippetLab.Shell.Builtin
