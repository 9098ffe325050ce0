import SnippetLab.Program.Console

/-! Replacing, removing and squeezing characters. -/
namespace SnippetLab.Program.Tr

open SnippetLab.Machine SnippetLab.Text

inductive Item
  | char (c : Char)
  | several (cs : List Char)
  | upper
  | lower
  | repeated (c : Char) (count : Nat)
  deriving DecidableEq, Repr

inductive Flaw
  | reversed (first last : Char)
  | badClass (name : String)
  | badEquivalence (text : String)
  | badCount (text : String)
  deriving DecidableEq, Repr

namespace Flaw

def shown (c : Char) : String :=
  if CharClass.isGraph c || c = ' ' then String.singleton c
  else String.ofList ('\\' :: Quote.octal c)

def message : Flaw → String
  | reversed a b =>
    "range-endpoints of '" ++ shown a ++ "-" ++ shown b ++ "' are in reverse collating sequence order"
  | badClass name => "invalid character class " ++ Quote.literal name
  | badEquivalence text => text ++ ": equivalence class operand must be a single character"
  | badCount text => "invalid repeat count " ++ Quote.literal text ++ " in [c*n] construct"

end Flaw

/-! Reading -/

/-- A character after a backslash was read, and whether it was; such a character has no special meaning. -/
abbrev Letter := Char × Bool

def octal : (count value : Nat) → List Char → Nat × List Char
  | count + 1, value, c :: cs =>
    if '0' ≤ c && c ≤ '7' && value * 8 + (c.toNat - '0'.toNat) < 256 then
      octal count (value * 8 + (c.toNat - '0'.toNat)) cs
    else (value, c :: cs)
  | _, value, cs => (value, cs)

def control? : Char → Option Char
  | 'a' => some '\x07'
  | 'b' => some '\x08'
  | 'f' => some '\x0c'
  | 'n' => some '\n'
  | 'r' => some '\r'
  | 't' => some '\t'
  | 'v' => some '\x0b'
  | _ => none

def unescaped : Nat → List Char → List Letter
  | 0, _ | _, [] => []
  | _, ['\\'] => [('\\', false)]
  | fuel + 1, '\\' :: c :: cs =>
    if '0' ≤ c && c ≤ '7' then
      let (n, rest) := octal 3 0 (c :: cs)
      (Char.ofNat n, true) :: unescaped fuel rest
    else ((control? c).getD c, true) :: unescaped fuel cs
  | fuel + 1, c :: cs => (c, false) :: unescaped fuel cs

def upTo? (mark : Char) : List Letter → Option (List Char × List Letter)
  | (a, false) :: (']', false) :: rest => if a = mark then some ([], rest) else (upTo? mark ((']', false) :: rest)).map fun (n, r) => (a :: n, r)
  | (a, _) :: rest => (upTo? mark rest).map fun (n, r) => (a :: n, r)
  | [] => none

def classItem (name : String) : Except Flaw Item :=
  match name, CharClass.ofName? name with
  | "upper", _ => .ok .upper
  | "lower", _ => .ok .lower
  | _, some p => .ok (.several (((List.range 256).map Char.ofNat).filter p))
  | name, none => .error (.badClass name)

def repetition? (c : Char) (rest : List Letter) : Option (Except Flaw (Item × List Letter)) :=
  let digits := rest.takeWhile fun l => l ≠ (']', false)
  match rest.drop digits.length with
  | [] => none
  | _ :: after =>
    let ds := digits.map (·.1)
    if ds.all Char.isDigit then
      let base := if ds.head? = some '0' then 8 else 10
      let n := ds.foldl (fun n d => n * base + (d.toNat - '0'.toNat)) 0
      some (.ok (.repeated c n, after))
    else some (.error (.badCount (String.ofList ds)))

def range (a b : Char) : List Char := ((List.range 256).map Char.ofNat).filter fun c => a ≤ c && c ≤ b

def items : Nat → List Letter → Except Flaw (List Item)
  | 0, _ | _, [] => .ok []
  | fuel + 1, l :: ls =>
    match l, ls with
    | ('[', false), (':', false) :: rest =>
      match upTo? ':' rest with
      | some (name, rest) => do
        let item ← classItem (String.ofList name)
        return item :: (← items fuel rest)
      | none => plain fuel l ls
    | ('[', false), ('=', false) :: rest =>
      match upTo? '=' rest with
      | some ([c], rest) => return .several [c] :: (← items fuel rest)
      | some (text, _) => throw (.badEquivalence (String.ofList text))
      | none => plain fuel l ls
    | ('[', false), (c, _) :: ('*', false) :: rest =>
      match repetition? c rest with
      | some (.ok (item, rest)) => return item :: (← items fuel rest)
      | some (.error e) => throw e
      | none => plain fuel l ls
    | _, _ => plain fuel l ls
where
  plain (fuel : Nat) (l : Letter) (ls : List Letter) : Except Flaw (List Item) :=
    match ls with
    | ('-', false) :: (b, _) :: rest =>
      if b < l.1 then throw (.reversed l.1 b)
      else do return .several (range l.1 b) :: (← items fuel rest)
    | ls => do return .char l.1 :: (← items fuel ls)

def read (s : String) : Except Flaw (List Item) :=
  let letters := unescaped (s.length + 1) s.toList
  items (letters.length + 1) letters

def Item.chars : Item → List Char
  | .char c => [c]
  | .several cs => cs
  | .upper => range 'A' 'Z'
  | .lower => range 'a' 'z'
  | .repeated c n => List.replicate n c

/-- The characters, with one repetition made as long as is needed for a length. -/
def expanded (items : List Item) (length : Nat) : List Char :=
  let known := (items.map fun it => it.chars.length).foldl (· + ·) 0
  items.flatMap fun it => match it with
    | .repeated c 0 => List.replicate (length - known) c
    | it => it.chars

/-! Doing -/

structure Job where
  table : Array (Option Char)
  squeezes : Array Bool

def Job.step (j : Job) (last : Option Char) (cs : List Char) : List Char × Option Char :=
  let (out, last) := cs.foldl (fun (out, last) c =>
    match (j.table[c.toNat]?).getD (some c) with
    | none => (out, last)
    | some d => if last = some d && (j.squeezes[d.toNat]?).getD false then (out, last) else (d :: out, some d))
    (([] : List Char), last)
  (out.reverse, last)

def octets : List Char := (List.range 256).map Char.ofNat

def complemented (complement : Bool) (cs : List Char) : List Char :=
  if complement then octets.filter fun c => !cs.contains c else cs

def mapping (first second : List Char) : Array (Option Char) :=
  (first.zip second).foldl (fun t (a, b) => t.set! a.toNat (some b)) (octets.map some).toArray

def flags (cs : List Char) : Array Bool := (octets.map cs.contains).toArray

/-- The second list in the length of the first one: its last character fills it up. -/
def fitted (truncates : Bool) (first second : List Char) : List Char × List Char :=
  if truncates then (first.take second.length, second)
  else (first, second ++ List.replicate (first.length - second.length) (second.getLast?.getD '\x00'))

def casePlaces : Nat → List Item → List Nat
  | _, [] => []
  | n, it :: rest =>
    let here := match it with
      | .upper | .lower => [n]
      | _ => []
    here ++ casePlaces (n + it.chars.length) rest

def isClass (s : String) (it : Item) : Bool :=
  match it with
  | .several cs => Text.CharClass.named.any fun (name, p) =>
      decide (octets.filter p = cs) && (s.splitOn ("[:" ++ name ++ ":]")).length > 1
  | _ => false

def operandNote (i : Invocation) (text note : String) : Routine α := do
  complain i text
  Routine.complain (note ++ "\n")
  hint i
  Routine.exitCode 1

def readList (i : Invocation) (s : String) : Routine (List Item) := do
  match read s with
  | .ok items => do
    let slashes := (s.toList.reverse.takeWhile (· = '\\')).length
    if slashes % 2 = 1 then complain i "warning: an unescaped backslash at end of string is not portable"
    return items
  | .error e => die i e.message

def translation (i : Invocation) (c : Chosen) (complement : Bool) (a b : String) : Routine Job := do
  let first ← readList i a
  let second ← readList i b
  if first.any fun it => it matches .repeated _ 0 then
    die i "the [c*] repeat construct may not appear in string1"
  if (second.filter fun it => it matches .repeated _ 0).length > 1 then
    die i "only one [c*] repeat construct may appear in string2"
  if second.any (isClass b) then
    die i "when translating, the only character classes that may appear in\nstring2 are 'upper' and 'lower'"
  let from_ := complemented complement (first.flatMap Item.chars)
  let onto := expanded second from_.length
  if onto.isEmpty && !c.has "t" then die i "when not truncating set1, string2 must be non-empty"
  let cases := casePlaces 0 second
  if cases.any fun n => !(casePlaces 0 first).contains n then
    die i "misaligned [:upper:] and/or [:lower:] construct"
  let (from_, onto) := fitted (c.has "t") from_ onto
  return { table := mapping from_ onto, squeezes := flags (if c.has "s" then second.flatMap Item.chars ++ onto else []) }

def program : Program := fun i => do
  let c ← chosen i (Switch.letters "cCdst" ++ Switch.words [("c", "complement"), ("d", "delete"), ("s", "squeeze-repeats"),
    ("t", "truncate-set1")]) 1 true
  let complement := c.has "c" || c.has "C"
  let job ← match c.operands with
    | [] => missingOperand i
    | [a] => do
      if c.has "d" && c.has "s" then
        operandNote i ("missing operand after " ++ Quote.literal a)
          "Two strings must be given when both deleting and squeezing repeats."
      if !c.has "d" && !c.has "s" then
        operandNote i ("missing operand after " ++ Quote.literal a) "Two strings must be given when translating."
      let cs := complemented complement ((← readList i a).flatMap Item.chars)
      if c.has "d" then
        pure { table := (octets.map fun o => if cs.contains o then none else some o).toArray, squeezes := flags [] }
      else pure ({ table := (octets.map some).toArray, squeezes := flags cs } : Job)
    | [a, b] => do
      if c.has "d" && !c.has "s" then
        operandNote i ("extra operand " ++ Quote.literal b)
          "Only one string may be given when deleting without squeezing repeats."
      if c.has "d" then
        let cs := complemented complement ((← readList i a).flatMap Item.chars)
        let ds := (← readList i b).flatMap Item.chars
        pure { table := (octets.map fun o => if cs.contains o then none else some o).toArray, squeezes := flags ds }
      else translation i c complement a b
    | _ :: _ :: e :: _ => extraOperand i e
  let (problem, _) ← eachChunk 0 (none : Option Char) fun last cs => do
    let (out, last) := job.step last cs
    put i out
    return last
  match problem with
  | some e => die i ("read error: " ++ e.text)
  | none => return 0

end SnippetLab.Program.Tr
