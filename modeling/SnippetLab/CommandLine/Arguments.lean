import SnippetLab.Text.Search

/-! What the arguments of the command line ask for. -/
namespace SnippetLab.CommandLine

inductive Input
  | inline (code : String)
  | file (path : String)
  deriving DecidableEq, Repr

inductive Task
  | compile (input : Input)
  | analyze (input : Input) (sorted : Bool)
  | checkCompiler
  deriving DecidableEq, Repr

structure Invocation where
  config : Option String
  compiler : Option String
  task : Task
  deriving DecidableEq, Repr

inductive Stop
  | usageError
  | help
  | version
  deriving DecidableEq, Repr

abbrev Given := List (String × String)

def Given.value? (g : Given) (name : String) : Option String := (g.find? (·.1 == name)).map (·.2)

structure Level where
  texts : List String := []
  paths : List String := ["config", "compiler"]
  flags : List String := []
  versioned : Bool := false

def looksLikeOption (argument : String) : Bool := Text.startsWith argument "-" && argument ≠ "-"

def splitOption (argument : String) : String × Option String :=
  let cs := argument.toList.drop 2
  let name := String.ofList (cs.takeWhile (· ≠ '='))
  match cs.dropWhile (· ≠ '=') with
  | [] => (name, none)
  | _ :: value => (name, some (String.ofList value))

/-- One more option; none comes twice, and a path is not empty. -/
def Level.add (level : Level) (g : Given) (name value : String) : Except Stop Given :=
  if (g.value? name).isSome then .error .usageError
  else if level.paths.contains name && value.isEmpty then .error .usageError
  else .ok (g ++ [(name, value)])

inductive Plain
  | option (name value : String)
  | needsValue (name : String)
  | stop (s : Stop)
  | word

def Level.classify (level : Level) (argument : String) : Plain :=
  if argument == "--" || !looksLikeOption argument then .word
  else if !Text.startsWith argument "--" then
    if Text.startsWith argument "-h" then .stop .help
    else if Text.startsWith argument "-V" && level.versioned then .stop .version
    else .stop .usageError
  else
    let (name, value) := splitOption argument
    if level.texts.contains name || level.paths.contains name then
      match value with
      | some value => .option name value
      | none => .needsValue name
    else if value.isSome then .stop .usageError
    else if level.flags.contains name then .option name ""
    else if name == "help" then .stop .help
    else if name == "version" && level.versioned then .stop .version
    else .stop .usageError

def Level.read (level : Level) (g : Given) : List String → Except Stop (Given × List String)
  | [] => .ok (g, [])
  | argument :: rest =>
    match level.classify argument with
    | .word => .ok (g, argument :: rest)
    | .stop s => .error s
    | .option name value => do level.read (← level.add g name value) rest
    | .needsValue name =>
      match rest with
      | [] => .error .usageError
      | value :: rest =>
        if looksLikeOption value then .error .usageError
        else do level.read (← level.add g name value) rest

def topLevel : Level := { versioned := true }

def compileLevel : Level := { texts := ["code"], paths := ["config", "compiler", "file"] }

def analyzeLevel : Level := { compileLevel with flags := ["sorted"] }

def checkLevel : Level := {}

def tasks : List (String × Level) :=
  [("compile", compileLevel), ("analyze", analyzeLevel), ("check-compiler", checkLevel)]

def input (g : Given) : Except Stop Input :=
  match g.value? "code", g.value? "file" with
  | some code, none => .ok (.inline code)
  | none, some path => .ok (.file path)
  | _, _ => .error .usageError

def task (name : String) (g : Given) : Except Stop Task := do
  match name with
  | "compile" => return .compile (← input g)
  | "analyze" => return .analyze (← input g) (g.value? "sorted").isSome
  | _ => return .checkCompiler

def isHelpTopic (words : List String) : Bool :=
  match words with
  | [] => true
  | [topic] => topic == "help" || tasks.any (·.1 == topic)
  | _ => false

/-- Options stand before or after the task; those after it count for more. -/
def read (arguments : List String) : Except Stop Invocation := do
  let (outer, rest) ← topLevel.read [] arguments
  match rest with
  | [] => .error .usageError
  | name :: rest =>
    match tasks.find? (·.1 == name) with
    | none => .error (if name == "help" && isHelpTopic rest then .help else .usageError)
    | some (_, level) =>
      let (inner, rest) ← level.read [] rest
      if rest ≠ [] ∧ rest ≠ ["--"] then .error .usageError
      return {
        config := (inner.value? "config").or (outer.value? "config")
        compiler := (inner.value? "compiler").or (outer.value? "compiler")
        task := ← task name inner }

end SnippetLab.CommandLine
