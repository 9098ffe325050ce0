import SnippetLab.FileTree.Operations
import SnippetLab.Process.Registry
import SnippetLab.Settings.Basic

/-! The command lines of the compiler. -/
namespace SnippetLab

structure Command where
  program : String
  arguments : List String
  directory : String
  deriving DecidableEq, Repr

structure Toolchain where
  compiler : String
  compileFlags : List String
  astFlags : List String
  deriving DecidableEq, Repr

namespace Toolchain

def ofSettings (s : Settings) : Toolchain := ⟨s.compilerPath, s.compileFlags, s.astFlags⟩

/-- The source comes last; it is named relative to the working directory. -/
def compileArguments (t : Toolchain) (source : String) : List String := t.compileFlags ++ [source]

def astArguments (t : Toolchain) (source : String) : List String := t.astFlags ++ [source]

def compile (t : Toolchain) (source directory : String) : Command :=
  ⟨t.compiler, t.compileArguments source, directory⟩

def dumpAst (t : Toolchain) (source directory : String) : Command :=
  ⟨t.compiler, t.astArguments source, directory⟩

end Toolchain

/-! What the service works on: the files, the time, the processes that it started and a supply of names. -/

structure Lab where
  tree : FileTree
  home : Place
  now : Nat
  registry : Registry
  sweeper : Sweeper
  drawn : Nat := 0
  launches : List Command := []

namespace Lab

def hexDigits (width n : Nat) : String :=
  let ds := Nat.toDigits 16 n
  String.ofList (List.replicate (width - ds.length) '0' ++ ds)

/-- Ids that differ for different numbers. -/
def uuid (n : Nat) : String := "00000000-0000-4000-8000-" ++ hexDigits 12 n

def baseName (n : Nat) : String := "temp_" ++ hexDigits 8 n

def moduleName (now : Nat) : String := "sample_" ++ toString (now % 10000)

def ofSettings (s : Settings) (tree : FileTree) (home : Place) (now : Nat) : Lab where
  tree := tree
  home := home
  now := now
  registry := { killGrace := s.killGraceMs }
  sweeper := { interval := s.sweepIntervalSecs * 1000, minAge := s.sweepMinAgeMs }

def draw (l : Lab) : Nat × Lab := (l.drawn, { l with drawn := l.drawn + 1 })

/-- Lets time pass, with the sweeps that are due by then. -/
def advance (l : Lab) (time : Nat) : Lab :=
  let (sweeper, registry) := l.sweeper.advance time l.registry
  { l with sweeper, registry, now := max l.now time }

end Lab
end SnippetLab
