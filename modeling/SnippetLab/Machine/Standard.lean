import SnippetLab.Machine.Launch
import SnippetLab.Program.Awk
import SnippetLab.Program.Columns
import SnippetLab.Program.Compare
import SnippetLab.Program.Condition
import SnippetLab.Program.Copy
import SnippetLab.Program.Expr
import SnippetLab.Program.Find
import SnippetLab.Program.Grep
import SnippetLab.Program.Listing
import SnippetLab.Program.Print
import SnippetLab.Program.Sed
import SnippetLab.Program.Show
import SnippetLab.Program.Sort
import SnippetLab.Program.Start
import SnippetLab.Program.Tr
import SnippetLab.Shell.Start

/-! The programs that every machine has. -/
namespace SnippetLab.Machine.Standard

open SnippetLab.Program

def plain : List (String × Program) :=
  [("[", Condition.program true), ("basename", basename), ("cat", cat), ("chmod", Chmod.program), ("cmp", Cmp.program),
   ("cp", Cp.program), ("cut", Cut.program), ("dirname", dirname), ("echo", echo), ("expr", Expr.program),
   ("false", failAlways), ("grep", Grep.run none), ("head", Head.program), ("kill", kill), ("ln", Ln.program),
   ("ls", Ls.program), ("mkdir", Mkdir.program), ("mv", Mv.program), ("printenv", printenv), ("printf", printf),
   ("pwd", pwd), ("rm", Rm.program), ("rmdir", rmdir), ("sed", Sed.program), ("seq", Seq.program), ("sleep", sleep),
   ("sort", Sort.program), ("tail", Tail.program), ("tee", tee), ("test", Condition.program false),
   ("touch", Touch.program), ("tr", Tr.program), ("true", succeed), ("uniq", Uniq.program), ("wc", wc), ("yes", yes),
   ("awk", Awk.program), ("find", Find.program)]

def starters : List (String × (Library → Program)) :=
  [("bash", Shell.Start.program), ("dash", Shell.Start.program), ("env", Env.program), ("sh", Shell.Start.program),
   ("timeout", Timeout.program)]

def names : List String := plain.map (·.1) ++ starters.map (·.1)

def libraryTo : Nat → Library
  | 0 => fun name => List.lookup name plain
  | depth + 1 => fun name =>
    match List.lookup name plain with
    | some program => some program
    | none => (List.lookup name starters).map fun start => start (libraryTo depth)

def depth : Nat := 1000000000

def library : Library := libraryTo depth

def install (t : FileTree) (now : Int) : FileTree := Launch.install names t now

def launcher : Launcher := Launch.launcher library

def script (text : String) (tree : FileTree) (cwd : Place) (now : Nat) : Behaviour :=
  Launch.script library text tree cwd now

end SnippetLab.Machine.Standard
