import SnippetLab.Shell.Builtin.Arguments
import SnippetLab.Shell.Words

/-! Commands that look at variables, parameters and options, or change them. -/
namespace SnippetLab.Shell.Builtin

open SnippetLab.Machine

def show_ (first : String) (p : Variable → Bool) : Action Unit := do
  let s ← get
  let sorted := (s.bindings.filter fun e => p e.2).mergeSort fun a b => decide (a.1 ≤ b.1)
  Action.forEach sorted fun (name, _) =>
    Action.print (first ++ name ++ (s.value? name).elim "" (fun v => "=" ++ quoted v) ++ "\n")

def mark (f : Variable → Variable) (p : Variable → Bool) : Builtin := fun name arguments => do
  let (found, rest) ← options "p" arguments
  if !found.isEmpty || rest.isEmpty then show_ (name ++ " ") p
  else Action.forEach rest fun a => do
    match split? a with
    | some (name, value) => do
      checkName name
      Action.setVariable name value
      put name
    | none => do
      if ((← get).binding? a).isNone then checkName a
      put a
  return 0
where
  put (name : String) : Action Unit :=
    modify fun s => s.putVariable name (f ((s.binding? name).getD { value := none }))

def export_ : Builtin := mark (fun v => { v with isExported := true }) (·.isExported)

def readonly : Builtin := mark (fun v => { v with isReadonly := true }) (·.isReadonly)

def unset : Builtin := fun _ arguments => do
  let (found, rest) ← options "vf" arguments
  let functions := (found.getLast?.map (·.1)) = some 'f'
  Action.forEach rest fun name => do
    if functions then modify fun s => { s with functions := s.functions.filter (·.1 ≠ name) }
    else
      checkName name
      Action.unsetVariable name
  return 0

def save (saved : Saved) : Action Unit :=
  modify fun s => match s.frames with
    | frame :: frames => { s with frames := (saved :: frame) :: frames }
    | [] => s

def isSaved (s : State) (name : String) : Bool :=
  (s.frames.headD []).any fun
    | .variable n _ => n = name
    | .options _ => false

def makeLocal (name : String) (value : Option String) (exports : Bool := false) : Action Unit := do
  checkName name
  let s ← get
  if !isSaved s name then save (.variable name (s.binding? name))
  match value with
  | some value => Action.setVariable name value exports
  | none => if (s.binding? name).isNone then modify fun s => s.putVariable name { value := none }

def local_ : Builtin := fun _ arguments => do
  if (← get).functionDepth = 0 then Action.fail "not in a function"
  let rest := if arguments.head? = some "--" then arguments.drop 1 else arguments
  Action.forEach rest fun a => do
    if a = "-" then
      let s ← get
      save (.options s.options)
    else match split? a with
      | some (name, value) => makeLocal name (some value)
      | none => makeLocal a none
  return 0

def restore (frame : List Saved) : Action Unit :=
  Action.forEach frame fun
    | .variable name (some v) => modify fun s => s.putVariable name v
    | .variable name none => modify fun s => s.dropVariable name
    | .options old => modify fun s => { s with options := old }

/-! Options of the shell -/

def optionNames : List (String × Char) :=
  [("errexit", 'e'), ("noglob", 'f'), ("ignoreeof", 'I'), ("interactive", 'i'), ("monitor", 'm'), ("noexec", 'n'),
   ("stdin", 's'), ("xtrace", 'x'), ("verbose", 'v'), ("vi", 'V'), ("emacs", 'E'), ("noclobber", 'C'),
   ("allexport", 'a'), ("notify", 'b'), ("nounset", 'u'), ("privileged", 'p'), ("nolog", '1'), ("debug", '2')]

def setLetter (c : Char) (on : Bool) : Action Unit := do
  if !c.isDigit && optionNames.any (·.2 = c) then
    modify fun s =>
      let s := s.setOption c on
      if on && c = 'V' then s.setOption 'E' false else if on && c = 'E' then s.setOption 'V' false else s
  else Action.fail ("Illegal option -" ++ String.singleton c)

def showOptions (on : Bool) : Action Unit := do
  let s ← get
  if on then
    Action.print "Current option settings\n"
    Action.forEach optionNames fun (name, c) =>
      Action.print (name ++ "".pushn ' ' (16 - name.length) ++ (if s.hasOption c then "on" else "off") ++ "\n")
  else
    Action.forEach optionNames fun (name, c) =>
      Action.print ("set " ++ (if s.hasOption c then "-o " else "+o ") ++ name ++ "\n")

def setNamed (on : Bool) (name : Option String) : Action Unit := do
  match name with
  | none => showOptions on
  | some name =>
    match optionNames.lookup name with
    | some c => modify fun s => s.setOption c on
    | none => Action.fail ("Illegal option -o " ++ name)

structure CommandLine where
  hasScript : Bool := false
  isLogin : Bool := false
  rest : List String := []
  resets : Bool := false

def optionLetters (atStart on : Bool) : CommandLine → List Char → Action CommandLine
  | l, [] => return l
  | l, c :: cs => do
    if c = 'c' && atStart then optionLetters atStart on { l with hasScript := true } cs
    else if c = 'l' && atStart then optionLetters atStart on { l with isLogin := true } cs
    else if c = 'o' then
      setNamed on l.rest.head?
      optionLetters atStart on { l with rest := l.rest.drop 1 } cs
    else
      setLetter c on
      optionLetters atStart on l cs

def readOptions (atStart : Bool) : Nat → CommandLine → Action CommandLine
  | 0, l => return l
  | fuel + 1, l =>
    match l.rest with
    | [] => return l
    | a :: rest => do
      let l' : CommandLine := { l with rest }
      match a.toList with
      | ['-'] => do
        if !atStart then modify fun s => (s.setOption 'x' false).setOption 'v' false
        return l'
      | ['-', '-'] => return { l' with resets := !atStart }
      | '-' :: cs => do readOptions atStart fuel (← optionLetters atStart true l' cs)
      | '+' :: cs => do readOptions atStart fuel (← optionLetters atStart false l' cs)
      | _ => return l

def setParameters (parameters : List String) : Action Unit :=
  modify fun s => { s with parameters, optionIndex := 1, optionOffset := none }

def set_ : Builtin := fun _ arguments => do
  if arguments.isEmpty then show_ "" fun v => v.value.isSome
  else
    let l ← readOptions false (arguments.length + 1) { rest := arguments }
    if l.resets || !l.rest.isEmpty then setParameters l.rest
  return 0

def shift : Builtin := fun _ arguments => do
  let n ← match arguments with
    | a :: _ => number a
    | [] => pure 1
  let s ← get
  if s.parameters.length < n then Action.fail "can't shift that many"
  setParameters (s.parameters.drop n)
  return 0

/-! Options of scripts -/

structure Found where
  letter : String
  value : Option String := none
  index : Nat
  offset : Option Nat := none
  isDone : Bool := false
  complaint : Option String := none

def nextOption (spec : List Char) (parameters : List String) (index : Nat) (offset : Option Nat) : Found :=
  let current := (parameters[index - 2]?.getD "").toList
  let (cs, index) : Option (List Char) × Nat :=
    match (if 1 < index then offset else none) with
    | some o => if o < current.length then (some (current.drop o), index) else fresh index
    | none => fresh index
  match cs with
  | none => { letter := "?", index, isDone := true }
  | some [] => { letter := "?", index := if parameters[index - 1]? = some "--" then index + 1 else index, isDone := true }
  | some (c :: rest) =>
    let quiet := spec.head? = some ':'
    let name := String.singleton c
    let here := (parameters[index - 2]?.getD "").length - rest.length
    let next : Option Nat := if rest.isEmpty then none else some here
    if c = ':' || !spec.contains c then
      { letter := "?", index, offset := next, value := if quiet then some name else none
        complaint := if quiet then none else some ("Illegal option -" ++ name) }
    else if (spec.dropWhile (· ≠ c))[1]? = some ':' then
      if !rest.isEmpty then { letter := name, value := some (String.ofList rest), index }
      else match parameters[index - 1]? with
        | some value => { letter := name, value := some value, index := index + 1 }
        | none =>
          if quiet then { letter := ":", value := some name, index }
          else { letter := "?", index, complaint := some ("No arg for -" ++ name ++ " option") }
    else { letter := name, value := some "", index, offset := next }
where
  fresh (index : Nat) : Option (List Char) × Nat :=
    match (parameters[index - 1]?.map String.toList) with
    | some ['-', '-'] => (some [], index)
    | some ('-' :: c :: cs) => (some (c :: cs), index + 1)
    | _ => (none, index)

def getopts : Builtin := fun _ arguments => do
  match arguments with
  | spec :: name :: rest =>
    let s ← get
    let parameters := if rest.isEmpty then s.parameters else rest
    let index := if s.optionIndex < 1 || parameters.length + 1 < s.optionIndex then 1 else s.optionIndex
    let f := nextOption spec.toList parameters index s.optionOffset
    match f.complaint with
    | some text => Routine.complain (text ++ "\n")
    | none => pure ()
    if !f.isDone || f.complaint.isSome then
      match f.value with
      | some value => Action.setVariable "OPTARG" value
      | none => if f.complaint.isSome then Action.unsetVariable "OPTARG"
    Action.setVariable "OPTIND" (toString f.index)
    Action.setVariable name f.letter
    modify fun s => { s with optionIndex := f.index, optionOffset := f.offset }
    return if f.isDone then 1 else 0
  | _ => Action.fail "Usage: getopts optstring var [arg...]"

/-! Reading a line -/

/-- Characters of a line with those that stand after a backslash marked; and whether the line has an end. -/
def readLine (raw : Bool) : Action (List (Char × Bool) × Bool) :=
  Action.iterate ([], false) (fun ((done, escaped) : List (Char × Bool) × Bool) => do
    match ← Action.routine (Routine.read 0 1) with
    | .ok (c :: _) =>
      if c = '\x00' then return .inl (done, escaped)
      else if escaped then return .inl (if c = '\n' then (done, false) else ((c, true) :: done, false))
      else if !raw && c = '\\' then return .inl (done, true)
      else if c = '\n' then return .inr (done.reverse, true)
      else return .inl ((c, false) :: done, false)
    | _ => return .inr (done.reverse, false)) Routine.rounds ([], false)

def firstField (separators : List Char) (cs : List (Char × Bool)) : List Char × List (Char × Bool) :=
  let separates (c : Char × Bool) : Bool := !c.2 && separators.contains c.1
  let field := cs.takeWhile (!separates ·)
  let rest := cs.drop field.length
  let blank (c : Char × Bool) : Bool := separates c && Fields.isSpace c.1
  let rest := match rest with
    | c :: more =>
      if blank c then
        match more.dropWhile blank with
        | d :: rest => if separates d then rest.dropWhile blank else d :: rest
        | [] => []
      else more.dropWhile blank
    | [] => []
  (field.map (·.1), rest)

/-- The last field takes the rest of the line; separators after it are left out if it is the only one. -/
def lastField (separators : List Char) (cs : List (Char × Bool)) : List Char :=
  let separates (c : Char × Bool) : Bool := !c.2 && separators.contains c.1
  let blank (c : Char × Bool) : Bool := separates c && Fields.isSpace c.1
  let (field, rest) := firstField separators cs
  if rest.isEmpty then field
  else ((cs.reverse.dropWhile blank).reverse).map (·.1)

def assignFields (separators : List Char) : List String → List (Char × Bool) → Action Unit
  | [], _ => pure ()
  | [name], cs => Action.setVariable name (String.ofList (lastField separators cs))
  | name :: names, cs => do
    let (field, rest) := firstField separators cs
    Action.setVariable name (String.ofList field)
    assignFields separators names rest

def read : Builtin := fun _ arguments => do
  let (found, names) ← options "p:r" arguments
  if names.isEmpty then Action.fail "arg count"
  let (line, isWhole) ← readLine (found.any (·.1 = 'r'))
  let separators := (← get).separators.toList
  let blank (c : Char × Bool) : Bool := !c.2 && separators.contains c.1 && Fields.isSpace c.1
  Action.forEach names checkName
  assignFields separators names (line.dropWhile blank)
  return if isWhole then 0 else 1

end SnippetLab.Shell.Builtin
