import SnippetLab.Machine.Kernel
import SnippetLab.Machine.Routine

/-!
Programs, and how a process becomes one. A file that begins with a number sign and an exclamation mark names the
program that reads it; a program of the machine itself is a mark and its name.
-/
namespace SnippetLab.Machine.Image

open SnippetLab.Text

def mark : List UInt8 := [0x7F, 0x45, 0x4C, 0x46]

def ofProgram (name : String) : List UInt8 := mark ++ Utf8.encode name.toList

def headSize : Nat := 256

def isGap (c : Char) : Bool := c = ' ' || c = '\t'

def endsName (c : Char) : Bool := isGap c || c = '\x00'

def interpreterOfLine? (line : List Char) : Option (String × List String) :=
  let line := ((line.reverse.dropWhile isGap).reverse).dropWhile isGap
  let name := line.takeWhile (!endsName ·)
  let argument := match line.drop name.length with
    | '\x00' :: _ => []
    | rest => (rest.dropWhile isGap).takeWhile (· ≠ '\x00')
  if line.isEmpty then none
  else some (String.ofList name, if argument.isEmpty then [] else [String.ofList argument])

/-- The interpreter that the head of a file names. A name that the head cuts off counts as none; a file that
is shorter than the head goes on with NULs. -/
def interpreter? (content : List UInt8) : Option (String × List String) :=
  let head := Octets.ofList (content.take headSize)
  let head := head ++ List.replicate (headSize - head.length) '\x00'
  match head with
  | '#' :: '!' :: rest =>
    let line := rest.takeWhile fun c => c ≠ '\n' && c ≠ '\x00'
    if (rest.drop line.length).head? = some '\n' then interpreterOfLine? line
    else
      let rest := rest.dropLast
      let named := rest.dropWhile isGap
      if named.any endsName then interpreterOfLine? rest else none
  | _ => none

def maxInterpreters : Nat := 5

def maxArgumentSize : Nat := 131072

def maxArgumentsSize : Nat := 2097152

def fits (arguments : List String) : Bool :=
  arguments.all (·.length < maxArgumentSize) && arguments.foldl (fun n a => n + a.length + 9) 0 < maxArgumentsSize

def load (t : FileTree) (cwd : Place) : Nat → (path : String) → (arguments : List String) →
    Except SystemError (String × List String)
  | 0, _, _ => .error .tooManyLinks
  | fuel + 1, path, arguments =>
    match t.find cwd true (Octets.gather path) with
    | .error e => .error e
    | .ok (_, .file content mode) =>
      if !(Node.file content mode).isRunnable then .error .permissionDenied
      else if !fits arguments then .error .tooManyArguments
      else if mark.isPrefixOf content then
        .ok (String.ofList (Octets.ofList (content.drop mark.length)), arguments)
      else match interpreter? content with
        | some ("", _) => .error .permissionDenied
        | some (name, more) => load t cwd fuel name (name :: more ++ path :: arguments.drop 1)
        | none => .error .execFormat
    | .ok _ => .error .permissionDenied

def searchPath : List String :=
  ["/usr/local/sbin", "/usr/local/bin", "/usr/sbin", "/usr/bin", "/sbin", "/bin"]

/-- Loads the first file of that name that can be run; a file that cannot is the reason if there is none. -/
def search (t : FileTree) (cwd : Place) (name : String) (arguments : List String) (refused : SystemError) :
    List String → Except SystemError (String × List String)
  | [] => .error refused
  | directory :: rest =>
    match load t cwd (maxInterpreters + 1) (Path.join directory name) arguments with
    | .ok found => .ok found
    | .error .permissionDenied => search t cwd name arguments .permissionDenied rest
    | .error .noEntry | .error .notDirectory => search t cwd name arguments refused rest
    | .error e => .error e

def find (t : FileTree) (cwd : Place) (directories : List String) (program : String) (arguments : List String) :
    Except SystemError (String × List String) :=
  if program.toList.contains '/' then load t cwd (maxInterpreters + 1) program (program :: arguments)
  else if program.isEmpty then .error .noEntry
  else search t cwd program (program :: arguments) .noEntry directories

end SnippetLab.Machine.Image

namespace SnippetLab.Machine

structure Invocation where
  name : String
  arguments : List String
  environment : List String := []

abbrev Program := Invocation → Routine Nat

abbrev Library := String → Option Program

namespace Environment

def split (entry : String) : String × String :=
  let cs := entry.toList
  let name := cs.takeWhile (· ≠ '=')
  (String.ofList name, String.ofList (cs.drop (name.length + 1)))

def get? (environment : List String) (name : String) : Option String :=
  (environment.map split).lookup name

def directories (path : String) : List String := (path.toList.splitOn ':').map String.ofList

end Environment

namespace Routine

def become (program : Program) (invocation : Invocation) : Routine α := do
  change fun pid k => k.renew pid
  exitCode (← program invocation)

/-- Becomes the program that a path leads to, with its name as the first argument; returns only if that is
refused. -/
def execute (library : Library) (path : String) (arguments environment : List String) : Routine SystemError := do
  match ← query fun pid k => Image.load k.tree (k.cwd pid) (Image.maxInterpreters + 1) path arguments with
  | .error e => return e
  | .ok (image, arguments) =>
    match library image with
    | some program => become program ⟨arguments.headD "", arguments.drop 1, environment⟩
    | none => return .execFormat

def executeFound (library : Library) (directories : List String) (name : String) (arguments environment : List String) :
    Routine SystemError :=
  if name.toList.contains '/' then execute library name arguments environment
  else if name.isEmpty then return .noEntry
  else go .noEntry directories
where
  go (refused : SystemError) : List String → Routine SystemError
    | [] => return refused
    | directory :: rest => do
      match ← execute library (Path.join directory name) arguments environment with
      | .permissionDenied => go .permissionDenied rest
      | .noEntry | .notDirectory => go refused rest
      | e => return e

end Routine
end SnippetLab.Machine
