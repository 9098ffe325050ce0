import SnippetLab.Program.Console
import SnippetLab.Shell.Pattern

/-! Walking through trees of files. -/
namespace SnippetLab.Program.Find

open SnippetLab.Machine SnippetLab.Text

inductive Test
  | name (pattern : String)
  | kind (letter : String)

def Test.holds (path : String) (node : Node) : Test → Bool
  | .name pattern => Wildcard.fits false pattern (baseName path)
  | .kind "f" => node.isFile
  | .kind "d" => node.isDirectory
  | .kind letter => letter = "l" && !node.isFile && !node.isDirectory

def readTests (i : Invocation) : List String → Routine (List Test)
  | [] => return []
  | "-name" :: pattern :: rest => return .name pattern :: (← readTests i rest)
  | "-type" :: letter :: rest => return .kind letter :: (← readTests i rest)
  | "-print" :: rest => readTests i rest
  | other :: _ => die i ("unknown predicate \x60" ++ other ++ "'")

def maxDepth : Nat := 4096

def under (k : Kernel) : (fuel : Nat) → (path : String) → Place → List (String × Node)
  | 0, _, _ => []
  | fuel + 1, path, p =>
    match k.tree.node? p with
    | some .directory =>
      (path, .directory) :: (k.tree.children p).flatMap fun name =>
        under k fuel (Path.join path (Octets.spread name)) (p ++ [name])
    | some node => [(path, node)]
    | none => []

def walk (i : Invocation) (tests : List Test) (status : Nat) : List String → Routine Nat
  | [] => return status
  | path :: rest => do
    match ← Routine.info false path with
    | .error e => do
      complain i (Quote.literal path ++ ": " ++ e.text)
      walk i tests 1 rest
    | .ok info => do
      let found ← Routine.query fun _ k => info.place.elim [(path, info.node)] (under k maxDepth path)
      let wanted := found.filter fun (p, node) => tests.all (·.holds p node)
      putText i (String.join (wanted.map (·.1 ++ "\n")))
      walk i tests status rest

def program : Program := fun i => do
  let paths := i.arguments.takeWhile (!·.startsWith "-")
  let tests ← readTests i (i.arguments.drop paths.length)
  walk i tests 0 (if paths.isEmpty then ["."] else paths)

end SnippetLab.Program.Find
