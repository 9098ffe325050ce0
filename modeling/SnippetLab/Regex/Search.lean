import SnippetLab.Regex.Basic

/-!
Matches of regular expressions. A set of places in a text is a number whose bits tell which places belong to
it, so that all ways through an expression are followed at once; the longest match at the first place that has
any is taken. What its groups match is found afterwards.
-/
namespace SnippetLab.Regex

abbrev Places := Nat

namespace Places

def single (i : Nat) : Places := 1 <<< i

def isEmpty (p : Places) : Bool := p = 0

def greatest (p : Places) : Nat := Nat.log2 p

def contains (p : Places) (i : Nat) : Bool := p.testBit i

def ofPredicate (greatest : Nat) (holds : Nat → Bool) : Places :=
  (List.range (greatest + 1)).foldr (fun i p => if holds i then 2 * p + 1 else 2 * p) 0

end Places

structure Subject where
  text : Array Char
  startsLate : Bool := false

namespace Subject

def size (s : Subject) : Nat := s.text.size

def isWordAt (s : Subject) (i : Nat) : Bool := (s.text[i]?).any isWordChar

def isWordBefore (s : Subject) (i : Nat) : Bool := 0 < i && s.isWordAt (i - 1)

def holds (s : Subject) (i : Nat) : Assertion → Bool
  | .lineStart => (i = 0 && !s.startsLate) || (0 < i && s.text[i - 1]? = some '\n')
  | .lineEnd => i = s.size || s.text[i]? = some '\n'
  | .textStart => i = 0 && !s.startsLate
  | .textEnd => i = s.size
  | .wordStart => !s.isWordBefore i && s.isWordAt i
  | .wordEnd => s.isWordBefore i && !s.isWordAt i
  | .boundary => s.isWordBefore i != s.isWordAt i
  | .noBoundary => s.isWordBefore i == s.isWordAt i

def slice (s : Subject) (start stop : Nat) : List Char := (s.text.extract start stop).toList

end Subject

/-- An expression over one text: each part knows the places where it holds. -/
inductive Plan
  | step (places : Places)
  | gate (places : Places)
  | seq (a b : Plan)
  | alt (a b : Plan)
  | loop (p : Plan) (least : Nat) (most : Option Nat)

namespace Plan

def ofRegex (s : Subject) : Regex → Plan
  | .empty => gate (Places.ofPredicate s.size fun _ => true)
  | .one set => step (Places.ofPredicate s.size fun i => (s.text[i]?).any set.contains)
  | .assertion a => gate (Places.ofPredicate s.size fun i => s.holds i a)
  | .seq a b => seq (ofRegex s a) (ofRegex s b)
  | .alt a b => alt (ofRegex s a) (ofRegex s b)
  | .loop r least most => loop (ofRegex s r) least most
  | .group _ r => ofRegex s r
  | .back _ => gate 0

def times (f : Places → Places) : Nat → Places → Places
  | 0, p => p
  | n + 1, p => if p.isEmpty then p else times f n (f p)

def reached (f : Places → Places) : (rounds : Nat) → (all last : Places) → Places
  | 0, all, _ => all
  | n + 1, all, last =>
    let next := f last
    let more := next ^^^ (next &&& all)
    if more.isEmpty then all else reached f n (all ||| more) more

def advance (size : Nat) : Plan → Places → Places
  | step places, p => (p &&& places) <<< 1
  | gate places, p => p &&& places
  | seq a b, p => advance size b (advance size a p)
  | alt a b, p => advance size a p ||| advance size b p
  | loop a least most, p =>
    let start := times (advance size a) least p
    reached (advance size a) (most.elim (size + 1) (· - least)) start start

end Plan

structure Captures where
  start : Nat
  stop : Nat
  groups : List (Nat × Nat × Nat) := []
  deriving DecidableEq, Repr

namespace Captures

def extent? (c : Captures) (number : Nat) : Option (Nat × Nat) :=
  if number = 0 then some (c.start, c.stop) else c.groups.lookup number

def text (c : Captures) (s : Subject) (number : Nat) : List Char :=
  match c.extent? number with
  | some (i, j) => s.slice i j
  | none => []

end Captures

abbrev Way := Nat × List (Nat × Nat × Nat)

/-- Keeps the first way of those that cannot be told apart by what may follow. -/
def distinct (exact : Bool) (ways : List Way) : List Way :=
  if exact then ways.eraseDups
  else (ways.foldl (fun (seen, kept) w =>
    if Places.contains seen w.1 then (seen, kept) else (seen ||| Places.single w.1, w :: kept)) ((0 : Places), ([] : List Way))).2.reverse

/-- All ways through a repetition, the one with the most rounds first; each round goes on. -/
def loopWays (exact : Bool) (body : Way → List Way) : (fuel : Nat) → (least : Nat) → (most : Option Nat) → Way → List Way
  | 0, _, _, w => [w]
  | fuel + 1, least, most, w =>
    if most = some 0 then [w]
    else
      let next := (body w).filter fun n => n.1 ≠ w.1 || 0 < least
      let more := next.flatMap fun n => loopWays exact body fuel (least - 1) (most.map (· - 1)) n
      distinct exact (more ++ if least = 0 then [w] else [])

def ways (s : Subject) (exact folds : Bool) : Regex → Way → List Way
  | .empty, w => [w]
  | .one set, (i, g) => if (s.text[i]?).any set.contains then [(i + 1, g)] else []
  | .assertion a, (i, g) => if s.holds i a then [(i, g)] else []
  | .seq a b, w => distinct exact ((ways s exact folds a w).flatMap (ways s exact folds b))
  | .alt a b, w => distinct exact (ways s exact folds a w ++ ways s exact folds b w)
  | .loop (.one set) least most, (i, g) =>
    let most := most.getD s.size
    let count := ((s.text.extract i (i + most)).toList.takeWhile set.contains).length
    ((List.range (count + 1)).reverse.filter (least ≤ ·)).map fun n => (i + n, g)
  | .loop r least most, w => loopWays exact (ways s exact folds r) (s.size + least + 2) least most w
  | .group n r, (i, g) => (ways s exact folds r (i, g)).map fun (j, g) => (j, (n, i, j) :: g.filter (·.1 ≠ n))
  | .back n, (i, g) =>
    match g.lookup n with
    | none => []
    | some (a, b) =>
      let fold (cs : List Char) : List Char := if folds then cs.map Text.lowered else cs
      let stop := i + (b - a)
      if stop ≤ s.size && fold (s.slice a b) = fold (s.slice i stop) then [(stop, g)] else []

structure Pattern where
  regex : Regex
  folds : Bool := false
  hasBack : Bool := regex.hasBack
  hasGroups : Bool := 0 < regex.groups

namespace Pattern

/-- The longest match from one place on, of all that its parts allow. -/
def longestWay? (p : Pattern) (s : Subject) (i : Nat) : Option Captures :=
  let ends := ways s true p.folds p.regex (i, [])
  match ends with
  | [] => none
  | w :: ws =>
    let best := ws.foldl (fun best w => if best.1 < w.1 then w else best) w
    some ⟨i, best.1, best.2⟩

def withGroups (p : Pattern) (s : Subject) (start stop : Nat) : Captures :=
  if !p.hasGroups then ⟨start, stop, []⟩
  else match (ways s false p.folds p.regex (start, [])).find? (·.1 = stop) with
    | some w => ⟨start, stop, w.2⟩
    | none => ⟨start, stop, []⟩

def matchAt? (p : Pattern) (s : Subject) (i : Nat) : Option Captures :=
  if p.hasBack then p.longestWay? s i
  else
    let ends := (Plan.ofRegex s p.regex).advance s.size (Places.single i)
    if ends.isEmpty then none else some (p.withGroups s i ends.greatest)

def search (p : Pattern) (s : Subject) (start : Nat) : Option Captures :=
  let places := (List.range (s.size + 1 - start)).map (· + start)
  if p.hasBack then places.findSome? (p.longestWay? s)
  else
    let plan := Plan.ofRegex s p.regex
    let all := Places.single (s.size + 1) - 1
    if (plan.advance s.size ((all >>> start) <<< start)).isEmpty then none
    else places.findSome? fun i =>
      let ends := plan.advance s.size (Places.single i)
      if ends.isEmpty then none else some (p.withGroups s i ends.greatest)

def isFound (p : Pattern) (cs : List Char) : Bool :=
  let s : Subject := { text := cs.toArray }
  if p.hasBack then (p.search s 0).isSome
  else !((Plan.ofRegex s p.regex).advance s.size (Places.single (s.size + 1) - 1)).isEmpty

end Pattern

end SnippetLab.Regex
