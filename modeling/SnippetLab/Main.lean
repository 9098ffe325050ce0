import SnippetLab.CommandLine.Run
import SnippetLab.Machine.Standard

/-!
The command line. It reads the files and variables that a task may need, performs the task on a machine in
memory, and prints the answer.
-/
namespace SnippetLab.Main

def home : Place := ["home"]

def filesOf (arguments : List String) : List String :=
  match CommandLine.read arguments with
  | .error _ => []
  | .ok i =>
    let input := match i.task with
      | .compile (.file path) | .analyze (.file path) _ => [path]
      | _ => []
    i.config.getD Settings.defaultFile :: input

def place (t : FileTree) (now : Int) (path : String) (octets : List UInt8) : FileTree :=
  let t := match Path.parent? path with
    | some parent => (t.createDirectories now home parent).2
    | none => t
  (t.writeFile now home path octets).toOption.getD t

def copyIn (t : FileTree) (now : Int) (path : String) : IO FileTree := do
  try
    let octets ← IO.FS.readBinFile path
    return place t now path octets.toList
  catch _ => return t

def environment : IO Environment := do
  let names := [Environment.compilerPath, Environment.tempDirectory, Environment.compilationTimeout,
    Environment.executionTimeout]
  let values ← names.mapM fun name => do return (← IO.getEnv name).map (name, ·)
  return .ofList (values.filterMap id)

end SnippetLab.Main

open SnippetLab in
def main (arguments : List String) : IO UInt32 := do
  let now ← IO.monoMsNow
  let machine := Machine.Standard.install (({} : FileTree).createDirectories now [] (FileTree.placePath Main.home)).2 now
  let tree ← (Main.filesOf arguments).foldlM (fun t path => Main.copyIn t now path) machine
  let (printed, _) :=
    CommandLine.run Machine.Standard.launcher (← Main.environment) tree Main.home now arguments
  IO.print printed.out
  IO.eprint printed.err
  return printed.exitCode.toUInt32
