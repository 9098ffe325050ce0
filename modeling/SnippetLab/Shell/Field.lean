import SnippetLab.FileTree.Operations
import SnippetLab.Shell.Pattern
import SnippetLab.Text.Utf8

/-! The paths that a pattern stands for. Paths and patterns are texts of octets. -/
namespace SnippetLab.Shell.Glob

open SnippetLab.Text

def segments (done : List Char) : List Char → List (List Char)
  | '\\' :: '/' :: p | '/' :: p => done.reverse :: segments [] p
  | '\\' :: c :: p => segments (c :: '\\' :: done) p
  | c :: p => segments (c :: done) p
  | [] => [done.reverse]

def acceptsName (p name : List Char) : Bool :=
  Pattern.accepts p name && (name.head? ≠ some '.' || (Pattern.unquoted p).head? = some '.')

def names (t : FileTree) (cwd : Place) (directory : String) : List String :=
  match t.listDirectory cwd (Octets.gather directory) with
  | .ok (_, names) => "." :: ".." :: names.map Octets.spread
  | .error _ => []

def pathsFrom (t : FileTree) (cwd : Place) : (done : List Char) → List (List Char) → List (List Char)
  | done, [] => [done]
  | done, p :: rest =>
    let slash := if rest.isEmpty then [] else ['/']
    if Pattern.isProper p then
      let found := (names t cwd (if done.isEmpty then "." else String.ofList done)).filter fun n => acceptsName p n.toList
      found.flatMap fun n => pathsFrom t cwd (done ++ n.toList ++ slash) rest
    else
      let path := done ++ Pattern.unquoted p ++ slash
      if rest.isEmpty && !(t.find cwd false (Octets.gather (String.ofList path))).isOk then []
      else pathsFrom t cwd path rest

def paths (t : FileTree) (cwd : Place) (p : List Char) : List String :=
  ((pathsFrom t cwd [] (segments [] p)).map String.ofList).mergeSort fun a b => decide (a ≤ b)

end SnippetLab.Shell.Glob

/-!
What words come to when they are expanded: characters that know whether they were quoted, and the stretches
of them that are split into fields.
-/
namespace SnippetLab.Shell

open SnippetLab.Text

inductive Glyph
  | char (c : Char) (quoted : Bool)
  | quotes
  | gap
  deriving DecidableEq, Repr

structure Region where
  start : Nat
  stop : Nat
  gapsOnly : Bool
  deriving DecidableEq, Repr

structure Expansion where
  glyphs : List Glyph := []
  size : Nat := 0
  regions : List Region := []

namespace Expansion

def put (e : Expansion) (g : Glyph) : Expansion := { e with glyphs := g :: e.glyphs, size := e.size + 1 }

def putAll (e : Expansion) (gs : List Glyph) : Expansion := gs.foldl put e

def record (e : Expansion) (start : Nat) (gapsOnly : Bool) : Expansion :=
  { e with regions := ⟨start, e.size, gapsOnly⟩ :: e.regions }

end Expansion

namespace Glyph

def char? : Glyph → Option Char
  | char c _ => some c
  | gap => some '\x00'
  | quotes => none

def text (gs : List Glyph) : List Char := gs.filterMap fun
  | char c _ => some c
  | _ => none

def pattern (gs : List Glyph) : List Char := go false gs
where
  go (afterBackslash : Bool) : List Glyph → List Char
    | char c quoted :: gs =>
      if quoted && !afterBackslash then '\\' :: c :: go false gs
      else c :: go (c = '\\' && !quoted && !afterBackslash) gs
    | _ :: gs => go false gs
    | [] => []

def beforeGap (gs : List Glyph) : List Glyph := gs.takeWhile (· ≠ gap)

end Glyph

namespace Fields

/-- A separator that is white space; so is what keeps parameters apart. -/
def isSpace (c : Char) : Bool := c = ' ' || c = '\t' || c = '\n' || c = '\x00'

structure Split where
  field : List Glyph := []
  done : List (List Glyph) := []

def Split.put (s : Split) (g : Glyph) : Split := { s with field := g :: s.field }

def Split.close (s : Split) : Split := { field := [], done := s.field.reverse :: s.done }

/-- Passes separators after one that ended a field; at most one of them is no white space. -/
def passSeparators (separators : List Char) (space : Bool) : List Glyph → List Glyph
  | [] => []
  | g :: gs =>
    match g.char? with
    | none => g :: gs
    | some c =>
      if !(separators.contains c || c = '\x00') then g :: gs
      else if isSpace c then passSeparators separators space gs
      else if space then passSeparators separators false gs
      else g :: gs

def splitRegion (separators : List Char) (gapsOnly : Bool) : Nat → Split → List Glyph → Split
  | 0, s, _ | _, s, [] => s
  | fuel + 1, s, g :: gs =>
    match g.char? with
    | none => splitRegion separators gapsOnly fuel (s.put g) gs
    | some c =>
      if !((if gapsOnly then [] else separators).contains c || g = .gap) then
        splitRegion separators gapsOnly fuel (s.put g) gs
      else
        let space := !gapsOnly && isSpace c
        if s.field.isEmpty && space then splitRegion separators gapsOnly fuel s gs
        else splitRegion separators gapsOnly fuel s.close (if gapsOnly then gs else passSeparators separators space gs)

def splitFrom (separators : List Char) : (position : Nat) → Split → List Glyph → List Region → Split × List Glyph
  | _, s, gs, [] => (s, gs)
  | position, s, gs, r :: rs =>
    let kept := gs.take (r.start - position)
    let rest := gs.drop kept.length
    let inside := rest.take (r.stop - r.start)
    let s := splitRegion separators r.gapsOnly (inside.length + 1) (kept.foldl Split.put s) inside
    splitFrom separators (max position r.stop) s (rest.drop inside.length) rs

/-- The fields of an expansion. What is left at the end is a field if it is not empty, or if a list of
parameters comes last. -/
def split (separators : String) (e : Expansion) : List (List Glyph) :=
  let regions := e.regions.reverse
  let (s, rest) := splitFrom separators.toList 0 {} e.glyphs.reverse regions
  let s := rest.foldl Split.put s
  let s := if s.field.isEmpty && !(rest.isEmpty && (e.regions.head?.any (·.gapsOnly))) then s else s.close
  s.done.reverse

end Fields
end SnippetLab.Shell
