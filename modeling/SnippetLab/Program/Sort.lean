import SnippetLab.Program.Console

/-! Putting lines in order by keys. -/
namespace SnippetLab.Program.Sort

open SnippetLab.Machine SnippetLab.Text

structure Order where
  skipsBlanks : Bool := false
  dictionary : Bool := false
  folds : Bool := false
  printable : Bool := false
  numeric : Bool := false
  reverse : Bool := false
  deriving DecidableEq, Repr

namespace Order

def letter? (o : Order) : Char → Option Order
  | 'b' => some { o with skipsBlanks := true }
  | 'd' => some { o with dictionary := true }
  | 'f' => some { o with folds := true }
  | 'i' => some { o with printable := true }
  | 'r' => some { o with reverse := true }
  | 'n' => some { o with numeric := true }
  | _ => none

def letters (o : Order) : List Char → Order × List Char
  | c :: cs =>
    match o.letter? c with
    | some o => letters o cs
    | none => (o, c :: cs)
  | [] => (o, [])

def isDefault (o : Order) : Bool := o = {}

end Order

/-- A part of a line; fields and characters are counted from zero. -/
structure Key where
  startField : Nat := 0
  startChar : Nat := 0
  stop : Option (Nat × Nat) := none
  order : Order := {}
  skipsEndBlanks : Bool := false
  deriving Repr

namespace Key

def isBlank (c : Char) : Bool := c = ' ' || c = '\t' || c = '\n'

def dropFields (tab : Option Char) : Nat → List Char → List Char
  | 0, cs => cs
  | n + 1, cs =>
    match tab with
    | some t => dropFields tab n ((cs.dropWhile (· ≠ t)).drop 1)
    | none => dropFields tab n ((cs.dropWhile isBlank).dropWhile (!isBlank ·))

def fieldsLength (tab : Option Char) (n : Nat) (cs : List Char) : Nat :=
  match n with
  | 0 => 0
  | n + 1 =>
    let rest := dropFields tab n cs
    let last := match tab with
      | some t => rest.takeWhile (· ≠ t)
      | none =>
        let blanks := rest.takeWhile isBlank
        blanks ++ (rest.drop blanks.length).takeWhile (!isBlank ·)
    cs.length - rest.length + last.length

def text (k : Key) (tab : Option Char) (cs : List Char) : List Char :=
  let fromField := dropFields tab k.startField cs
  let fromField := if k.order.skipsBlanks then fromField.dropWhile isBlank else fromField
  let start := cs.length - (fromField.drop k.startChar).length
  let stop := match k.stop with
    | none => cs.length
    | some (fields, 0) => fieldsLength tab fields cs
    | some (fields, chars) =>
      let rest := dropFields tab (fields - 1) cs
      let rest := if k.skipsEndBlanks then rest.dropWhile isBlank else rest
      cs.length - (rest.drop chars).length
  (cs.take stop).drop start

end Key

/-! Comparisons -/

def decimal (cs : List Char) : Bool × List Char × List Char :=
  let cs := cs.dropWhile Key.isBlank
  let (negative, cs) := if cs.head? = some '-' then (true, cs.drop 1) else (false, cs)
  let whole := cs.takeWhile Char.isDigit
  match cs.drop whole.length with
  | '.' :: rest => (negative, whole, rest.takeWhile Char.isDigit)
  | _ => (negative, whole, [])

def valueOf (n : Bool × List Char × List Char) (places : Nat) : Int :=
  let (negative, whole, fraction) := n
  let ds := whole ++ fraction ++ List.replicate (places - fraction.length) '0'
  let v : Int := (String.ofList ds).toNat?.getD 0
  if negative then -v else v

def compareNumbers (a b : List Char) : Ordering :=
  let m := decimal a
  let n := decimal b
  let places := max m.2.2.length n.2.2.length
  compare (valueOf m places) (valueOf n places)

def compareLists : List Char → List Char → Ordering
  | [], [] => .eq
  | [], _ => .lt
  | _, [] => .gt
  | a :: as, b :: bs => if a = b then compareLists as bs else if a < b then .lt else .gt

def compareKeys (o : Order) (a b : List Char) : Ordering :=
  let prepare (cs : List Char) : List Char :=
    let cs := if o.dictionary then cs.filter fun c => c.isAlphanum || Key.isBlank c else cs
    let cs := if o.printable then cs.filter fun c => CharClass.isGraph c || c = ' ' else cs
    if o.folds then cs.map Char.toUpper else cs
  let result := if o.numeric then compareNumbers a b else compareLists (prepare a) (prepare b)
  if o.reverse then result.swap else result

structure Style where
  keys : List Key
  tab : Option Char := none
  stable : Bool := false
  unique : Bool := false
  reverse : Bool := false

namespace Style

def compareByKeys (y : Style) (a b : List Char) : Ordering :=
  y.keys.foldl (fun result k =>
    result.then (compareKeys k.order (k.text y.tab a) (k.text y.tab b))) .eq

def compare (y : Style) (a b : List Char) : Ordering :=
  let first := y.compareByKeys a b
  if y.stable || y.unique then first
  else
    let last := compareLists a b
    first.then (if y.reverse then last.swap else last)

def distinct (y : Style) : List (List Char) → List (List Char)
  | a :: b :: rest =>
    if y.compareByKeys a b = .eq then distinct y (a :: rest) else a :: distinct y (b :: rest)
  | lines => lines
termination_by lines => lines.length

def sort (y : Style) (lines : List (List Char)) : List (List Char) :=
  let sorted := lines.mergeSort fun a b => y.compare a b ≠ .gt
  if y.unique then y.distinct sorted else sorted

end Style

/-! Key texts -/

def count (i : Invocation) (problem : String) (cs : List Char) : Routine (Nat × List Char) := do
  let ds := cs.takeWhile Char.isDigit
  if ds.isEmpty then
    die i (problem ++ ": invalid count at start of " ++ Quote.literal (String.ofList cs)) 2
  return ((String.ofList ds).toNat?.getD 0, cs.drop ds.length)

def badKey (i : Invocation) (problem text : String) : Routine α :=
  die i (problem ++ ": invalid field specification " ++ Quote.literal text) 2

def readKey (i : Invocation) (text : String) : Routine Key := do
  let (field, rest) ← count i "invalid number at field start" text.toList
  if field = 0 then badKey i "field number is zero" text
  let (char, rest) ← match rest with
    | '.' :: rest => do
      let (n, rest) ← count i "invalid number after '.'" rest
      if n = 0 then badKey i "character offset is zero" text
      pure (n - 1, rest)
    | rest => pure (0, rest)
  let (order, rest) := ({} : Order).letters rest
  let key : Key := { startField := field - 1, startChar := char, order }
  match rest with
  | [] => return key
  | ',' :: rest => do
    let (field, rest) ← count i "invalid number after ','" rest
    if field = 0 then badKey i "field number is zero" text
    let (char, rest) ← match rest with
      | '.' :: rest => count i "invalid number after '.'" rest
      | rest => pure (0, rest)
    let (more, rest) := ({ order with skipsBlanks := false } : Order).letters rest
    if !rest.isEmpty then badKey i "stray character in field spec" text
    return { key with
      stop := some (field, char), order := { more with skipsBlanks := order.skipsBlanks }, skipsEndBlanks := more.skipsBlanks }
  | _ => badKey i "stray character in field spec" text

def switches : List Switch :=
  Switch.letters "bdfinrk:st:u" ++ Switch.words [("b", "ignore-leading-blanks"), ("d", "dictionary-order"),
    ("f", "ignore-case"), ("i", "ignore-nonprinting"), ("n", "numeric-sort"), ("r", "reverse"), ("k", "key="),
    ("s", "stable"), ("t", "field-separator="), ("u", "unique")]

def separator (i : Invocation) (text : String) : Routine Char := do
  match text.toList with
  | [] => die i "empty tab" 2
  | [c] => return c
  | ['\\', '0'] => return '\x00'
  | _ => die i ("multi-character tab " ++ Quote.literal text) 2

def readAllLines (i : Invocation) : List String → Routine (List (List Char))
  | [] => return []
  | p :: ps => do
    match ← content p with
    | .ok cs => return linesOf cs ++ (← readAllLines i ps)
    | .error .isDirectory => die i ("read failed: " ++ Quote.ifNeeded p ++ ": Is a directory") 2
    | .error e => die i ("cannot read: " ++ Quote.ifNeeded p ++ ": " ++ e.text) 2

def program : Program := fun i => do
  let c ← chosen i switches 2
  let keys ← (c.all "k").mapM (readKey i)
  let global := c.given.foldl (fun (o : Order) g =>
    match g.1.toList with
    | [l] => (o.letter? l).getD o
    | _ => o) {}
  let adopt (k : Key) : Key :=
    if k.order.isDefault && !k.skipsEndBlanks then { k with order := global, skipsEndBlanks := global.skipsBlanks } else k
  let keys := if keys.isEmpty then [({ order := global } : Key)] else keys.map adopt
  let tab ← match c.last? "t" with
    | some t => do pure (some (← separator i t))
    | none => pure none
  let y : Style := { keys, tab, stable := c.has "s", unique := c.has "u", reverse := global.reverse }
  let lines ← readAllLines i (inputs c.operands)
  put i ((y.sort lines).flatMap fun l => l ++ ['\n']) 2
  return 0

end SnippetLab.Program.Sort
