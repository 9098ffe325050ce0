import SnippetLab.Program.Console
import SnippetLab.Regex.Reader
import SnippetLab.Regex.Search

/-! Editing lines one after another. -/
namespace SnippetLab.Program.Sed

open SnippetLab.Machine SnippetLab.Text

inductive Address
  | every
  | line (n : Nat)
  | last
  | pattern (p : Regex.Pattern)

inductive Part
  | text (cs : List Char)
  | group (n : Nat)

structure Substitution where
  pattern : Regex.Pattern
  parts : List Part
  global : Bool := false
  prints : Bool := false

inductive Action
  | substitute (s : Substitution)
  | delete
  | print
  | quit

structure Command where
  address : Address := .every
  stop : Option Address := none
  negated : Bool := false
  action : Action

/-! Reading -/

def delimited? (mark : Char) (found : List Char) : List Char → Option (List Char × List Char)
  | [] => none
  | '\\' :: c :: cs => delimited? mark (if c = mark then c :: found else c :: '\\' :: found) cs
  | c :: cs => if c = mark then some (found.reverse, cs) else delimited? mark (c :: found) cs

def readPattern (extended folds : Bool) (cs : List Char) : Except String Regex.Pattern :=
  match Regex.read { extended, folds, strict := true } (Wide.ofOctets cs) with
  | .ok (regex, _) => .ok { regex, folds }
  | .error e => .error e.message

def parts : List Char → List Part
  | [] => []
  | '&' :: cs => .group 0 :: parts cs
  | '\\' :: 'n' :: cs => .text ['\n'] :: parts cs
  | '\\' :: c :: cs => (if c.isDigit then .group (c.toNat - '0'.toNat) else .text [c]) :: parts cs
  | c :: cs => .text [c] :: parts cs

def readAddress (extended : Bool) : List Char → Except String (Address × List Char)
  | '$' :: cs => .ok (.last, cs)
  | '/' :: cs =>
    match delimited? '/' [] cs with
    | some (text, rest) => do return (.pattern (← readPattern extended false text), rest)
    | none => .error "unterminated address regex"
  | cs =>
    let ds := cs.takeWhile Char.isDigit
    .ok (if ds.isEmpty then .every else .line ((String.ofList ds).toNat?.getD 0), cs.drop ds.length)

def readSubstitution (extended : Bool) (mark : Char) (cs : List Char) : Except String (Action × List Char) := do
  let some (text, rest) := delimited? mark [] cs | throw "unterminated \x60s' command"
  let some (new, rest) := delimited? mark [] rest | throw "unterminated \x60s' command"
  let flags := rest.takeWhile "gpI".toList.contains
  let pattern ← readPattern extended (flags.contains 'I') text
  let parts := parts (Wide.ofOctets new)
  return (.substitute { pattern, parts, global := flags.contains 'g', prints := flags.contains 'p' },
    rest.drop flags.length)

def isGap (c : Char) : Bool := c = ' ' || c = '\t' || c = '\n' || c = ';'

def readCommands (extended : Bool) : Nat → List Char → Except String (List Command)
  | 0, _ => .ok []
  | fuel + 1, cs => do
    let cs := cs.dropWhile isGap
    if cs.isEmpty then return []
    let (address, cs) ← readAddress extended cs
    let (stop, cs) ← match cs with
      | ',' :: cs => (readAddress extended cs).map fun (a, cs) => (some a, cs)
      | cs => pure (none, cs)
    let negated := cs.head? = some '!'
    let (action, cs) ← match if negated then cs.drop 1 else cs with
      | 's' :: mark :: cs => readSubstitution extended mark cs
      | 'd' :: cs => pure (.delete, cs)
      | 'p' :: cs => pure (.print, cs)
      | 'q' :: cs => pure (.quit, cs)
      | c :: _ => throw ("unknown command: \x60" ++ String.singleton c ++ "'")
      | [] => throw "missing command"
    if cs.head?.any (!isGap ·) then throw "extra characters after command"
    return { address, stop, negated, action } :: (← readCommands extended fuel cs)

/-! Running -/

def rendered (subject : Regex.Subject) (m : Regex.Captures) (parts : List Part) : List Char :=
  parts.flatMap fun
    | .text cs => cs
    | .group n => m.text subject n

/-- The text from a place on with its matches replaced, and whether there was one. An empty match right behind
another one does not count. -/
def substituted (sub : Substitution) (subject : Regex.Subject) :
    (fuel : Nat) → (start : Nat) → (lastStop : Option Nat) → List Char × Bool
  | 0, start, _ => (subject.slice start subject.size, false)
  | fuel + 1, start, lastStop =>
    match if subject.size < start then none else sub.pattern.search subject start with
    | none => (subject.slice start subject.size, false)
    | some m =>
      let isEmpty := m.start = m.stop
      let counts := !(isEmpty && lastStop = some m.start)
      let front := subject.slice start m.start ++ if counts then rendered subject m sub.parts else []
      if counts && !sub.global then (front ++ subject.slice m.stop subject.size, true)
      else
        let next := if isEmpty then m.stop + 1 else m.stop
        let (rest, more) := substituted sub subject fuel next (some m.stop)
        (front ++ subject.slice m.stop next ++ rest, counts || more)

/-- A line with what was printed of it so far; it may be dropped, and it may be the last one. Commands by their
numbers whose lines have begun are kept for the next line. -/
structure Progress where
  space : List Char
  begun : List Nat := []
  out : List (List Char) := []
  dropped : Bool := false
  quits : Bool := false

def Address.fits (number : Nat) (isLast : Bool) (space : List Char) : Address → Bool
  | .every => true
  | .line n => number = n
  | .last => isLast
  | .pattern p => p.isFound space

def Command.selects (c : Command) (number : Nat) (isLast : Bool) (space : List Char) (begun : Bool) : Bool × Bool :=
  match c.stop with
  | none => (c.address.fits number isLast space, false)
  | some stop =>
    if begun then (true, !stop.fits number isLast space)
    else if c.address.fits number isLast space then
      (true, match stop with
        | .line n => number < n
        | .last => !isLast
        | _ => true)
    else (false, false)

def step (number : Nat) (isLast : Bool) (s : Progress) (place : Nat) (c : Command) : Progress :=
  if s.dropped || s.quits then s
  else
    let (selected, goesOn) := c.selects number isLast s.space (s.begun.contains place)
    let begun := s.begun.filter (· ≠ place)
    let s := { s with begun := if goesOn then place :: begun else begun }
    if selected = c.negated then s
    else match c.action with
      | .delete => { s with dropped := true }
      | .print => { s with out := s.space :: s.out }
      | .quit => { s with quits := true }
      | .substitute sub =>
        let subject : Regex.Subject := { text := s.space.toArray }
        match substituted sub subject (2 * subject.size + 4) 0 none with
        | (space, true) => { s with space, out := if sub.prints then space :: s.out else s.out }
        | (_, false) => s

def edited (commands : List Command) (quiet : Bool) : (number : Nat) → (begun : List Nat) → List (List Char × Bool) →
    List (List Char × Bool)
  | _, _, [] => []
  | number, begun, (cs, ended) :: lines =>
    let s := commands.zipIdx.foldl (fun s (c, place) => step number lines.isEmpty s place c)
      { space := Wide.ofOctets cs, begun }
    let out := if quiet || s.dropped then s.out else s.space :: s.out
    out.reverse.map (·, ended) ++ if s.quits then [] else edited commands quiet (number + 1) s.begun lines

def joined : List (List Char × Bool) → List Char
  | [] => []
  | [(cs, ended)] => Wide.toOctets cs ++ if ended then ['\n'] else []
  | (cs, _) :: rest => Wide.toOctets cs ++ '\n' :: joined rest

def switches : List Switch :=
  Switch.letters "ne:Er" ++ Switch.words [("n", "quiet"), ("n", "silent"), ("e", "expression="), ("E", "regexp-extended")]

def readFiles (i : Invocation) (status : Nat) : List String → Routine (Nat × List Char)
  | [] => return (status, [])
  | path :: rest => do
    match ← content path with
    | .ok cs => do
      let (status, more) ← readFiles i status rest
      return (status, cs ++ more)
    | .error e => do
      complain i ("can't read " ++ path ++ ": " ++ e.text)
      readFiles i 2 rest

def program : Program := fun i => do
  let c ← chosen i switches
  let (script, files) := match c.all "e" with
    | [] => (c.operands.headD "", c.operands.drop 1)
    | texts => ("\n".intercalate texts, c.operands)
  match readCommands (c.has "E" || c.has "r") (script.length + 1) script.toList with
  | .error text => die i ("-e expression #1: " ++ text)
  | .ok commands => do
    let (status, cs) ← readFiles i 0 (inputs files)
    put i (joined (edited commands (c.has "n") 1 [] (recordsOf '\n' cs))) 4
    return status

end SnippetLab.Program.Sed
