import SnippetLab.Program.Console
import SnippetLab.Text.Real

/-! Programs that print what they are told. -/
namespace SnippetLab.Program

open SnippetLab.Machine SnippetLab.Text

def succeed : Program := fun _ => return 0

def failAlways : Program := fun _ => return 1

/-! Escapes -/

namespace Escape

def digit? (base : Nat) (c : Char) : Option Nat :=
  if CharClass.isHexDigit c && Real.hexValue c < base then some (Real.hexValue c) else none

def number (base : Nat) : (count : Nat) → (value : Nat) → List Char → Nat × List Char
  | count + 1, value, c :: cs =>
    match digit? base c with
    | some d => number base count (value * base + d) cs
    | none => (value, c :: cs)
  | _, value, cs => (value, cs)

def control? : Char → Option Char
  | '\\' => some '\\'
  | 'a' => some '\x07'
  | 'b' => some '\x08'
  | 'e' => some '\x1b'
  | 'f' => some '\x0c'
  | 'n' => some '\n'
  | 'r' => some '\r'
  | 't' => some '\t'
  | 'v' => some '\x0b'
  | _ => none

def octet (n : Nat) : Char := Char.ofNat (n % 256)

/-- A text with its escapes replaced, and whether one of them stops all output. Octal numbers start with a zero,
which may be missing. -/
def replaced (bareOctal : Bool) : Nat → List Char → List Char × Bool
  | 0, _ | _, [] => ([], false)
  | _, '\\' :: 'c' :: _ => ([], true)
  | fuel + 1, '\\' :: 'x' :: c :: cs =>
    if CharClass.isHexDigit c then
      let (n, rest) := number 16 2 0 (c :: cs)
      put (octet n) fuel rest
    else put '\\' fuel ('x' :: c :: cs)
  | fuel + 1, '\\' :: c :: cs =>
    if c = '0' then
      let (n, rest) := number 8 3 0 cs
      put (octet n) fuel rest
    else if bareOctal && (digit? 8 c).isSome then
      let (n, rest) := number 8 3 0 (c :: cs)
      put (octet n) fuel rest
    else match control? c with
      | some e => put e fuel cs
      | none =>
        let (done, stopped) := replaced bareOctal fuel cs
        ('\\' :: c :: done, stopped)
  | fuel + 1, c :: cs => put c fuel cs
where
  put (c : Char) (fuel : Nat) (cs : List Char) : List Char × Bool :=
    let (done, stopped) := replaced bareOctal fuel cs
    (c :: done, stopped)

end Escape

/-! Words -/

def echoOptions? (a : String) : Option (List Char) :=
  match a.toList with
  | '-' :: c :: cs => if (c :: cs).all ['n', 'e', 'E'].contains then some (c :: cs) else none
  | _ => none

def echo : Program := fun i => do
  let rec options (ends escapes : Bool) : List String → Bool × Bool × List String
    | [] => (ends, escapes, [])
    | a :: rest =>
      match echoOptions? a with
      | none => (ends, escapes, a :: rest)
      | some letters =>
        let escapes := (letters.reverse.find? (· ≠ 'n')).elim escapes (· = 'e')
        options (ends && !letters.contains 'n') escapes rest
  let (ends, escapes, words) := options true false i.arguments
  let text := (" ".intercalate words).toList
  let (text, stopped) := if escapes then Escape.replaced false (text.length + 1) text else (text, false)
  put i (text ++ if ends && !stopped then ['\n'] else [])
  return 0

/-! Formats -/

structure Printed where
  rest : List String
  used : Bool := false
  stopped : Bool := false
  status : Nat := 0
  out : List (List Char) := []

namespace Printed

def take (p : Printed) : Option String × Printed :=
  match p.rest with
  | [] => (none, p)
  | a :: rest => (some a, { p with rest, used := true })

def add (p : Printed) (cs : List Char) : Printed := { p with out := cs :: p.out }

def flush (i : Invocation) (p : Printed) : Routine Printed := do
  put i p.out.reverse.flatten
  return { p with out := [] }

def warn (i : Invocation) (p : Printed) (text : String) : Routine Printed := do
  let p ← p.flush i
  complain i text
  return { p with status := 1 }

def quoted? (s : String) : Option Nat :=
  match s.toList with
  | q :: c :: _ => if q = '"' || q = '\x27' then some c.toNat else none
  | _ => none

def readInteger? (s : String) : Option (Int × List Char) :=
  let cs := s.toList.dropWhile CharClass.isSpace
  let (negative, cs) := match cs with
    | '-' :: cs => (true, cs)
    | '+' :: cs => (false, cs)
    | cs => (false, cs)
  let (base, ds) := match cs with
    | '0' :: x :: d :: rest => if (x = 'x' || x = 'X') && CharClass.isHexDigit d then (16, d :: rest) else (8, cs)
    | '0' :: _ => (8, cs)
    | cs => (10, cs)
  match ds.head?.bind (Escape.digit? base) with
  | none => none
  | some _ =>
    let (n, rest) := Escape.number base ds.length 0 ds
    some (if negative then -(n : Int) else n, rest)

def integer (i : Invocation) (p : Printed) (signed : Bool) : Routine (Int × Printed) := do
  match p.take with
  | (none, p) => return (0, p)
  | (some s, p) =>
    match quoted? s with
    | some n => return (n, p)
    | none =>
      match readInteger? s with
      | none => return (0, ← p.warn i (Quote.literal s ++ ": expected a numeric value"))
      | some (n, rest) =>
        let most : Int := if signed then Int64.maxValue.toInt else UInt64.size - 1
        let least : Int := if signed then Int64.minValue.toInt else -(UInt64.size - 1)
        if most < n || n < least then
          let p ← p.warn i (Quote.literal s ++ ": Numerical result out of range")
          return (if most < n then most else if signed then least else most, p)
        else if rest.isEmpty then return (n, p)
        else return (n, ← p.warn i (Quote.literal s ++ ": value not completely converted"))

def real (i : Invocation) (p : Printed) : Routine (Float × Printed) := do
  match p.take with
  | (none, p) => return (0, p)
  | (some s, p) =>
    match quoted? s with
    | some n => return (Float.ofNat n, p)
    | none =>
      match Real.read? s.toList with
      | none => return (0, ← p.warn i (Quote.literal s ++ ": expected a numeric value"))
      | some (x, []) => return (x, p)
      | some (x, _) => return (x, ← p.warn i (Quote.literal s ++ ": value not completely converted"))

def size (i : Invocation) (p : Printed) (cs : List Char) : Routine (Option Int × List Char × Printed) := do
  match cs with
  | '*' :: cs => do
    let (n, p) ← p.integer i true
    return (some n, cs, p)
  | cs =>
    let ds := cs.takeWhile Char.isDigit
    return ((String.ofList ds).toNat?.map Int.ofNat, cs.drop ds.length, p)

def value (i : Invocation) (p : Printed) (l : Layout) (kind : Char) (directive : String) : Routine Printed := do
  match kind with
  | 's' =>
    let (s, p) := p.take
    return p.add (l.text (s.getD "").toList)
  | 'q' =>
    let (s, p) := p.take
    return p.add (l.text (Quote.ifNeeded (s.getD "")).toList)
  | 'b' =>
    let (s, p) := p.take
    let cs := (s.getD "").toList
    let (cs, stopped) := Escape.replaced true (cs.length + 1) cs
    return { p with stopped }.add (l.text cs)
  | 'c' =>
    let (s, p) := p.take
    return p.add (l.pad [((s.getD "").toList.head?).getD '\x00'])
  | 'd' | 'i' =>
    let (n, p) ← p.integer i true
    return p.add (l.integer n)
  | 'o' | 'u' | 'x' | 'X' =>
    let (n, p) ← p.integer i false
    return p.add (l.natural kind (n.emod UInt64.size).toNat)
  | _ =>
    if "aAeEfFgG".toList.contains kind then
      let (x, p) ← p.real i
      return p.add (l.real kind (.ofFloat x))
    else do
      let _ ← p.flush i
      die i (directive ++ ": invalid conversion specification")

def pass (i : Invocation) : Nat → List Char → Printed → Routine Printed
  | 0, _, p | _, [], p => return p
  | fuel + 1, '\\' :: c :: cs, p => do
    if c = 'c' then return { p with stopped := true }
    if c = '"' then pass i fuel cs (p.add ['"'])
    else if c = 'x' && !(cs.head?.any CharClass.isHexDigit) then do
      let _ ← p.flush i
      die i "missing hexadecimal number in escape"
    else if c = 'x' then
      let (n, rest) := Escape.number 16 2 0 cs
      pass i fuel rest (p.add [Escape.octet n])
    else if (Escape.digit? 8 c).isSome then
      let (n, rest) := Escape.number 8 3 0 (c :: cs)
      pass i fuel rest (p.add [Escape.octet n])
    else match Escape.control? c with
      | some e => pass i fuel cs (p.add [e])
      | none => pass i fuel cs (p.add ['\\', c])
  | fuel + 1, '%' :: '%' :: cs, p => pass i fuel cs (p.add ['%'])
  | fuel + 1, '%' :: cs, p => do
    let (l, rest) := ({} : Layout).flags cs
    let (width, rest, p) ← p.size i rest
    let l := l.withWidth (width.getD 0)
    let (l, rest, p) ← match rest with
      | '.' :: rest => do
        let (precision, rest, p) ← p.size i rest
        let n := precision.getD 0
        pure ({ l with precision := if n < 0 then none else some n.toNat }, rest, p)
      | rest => pure (l, rest, p)
    match rest with
    | [] => do
      let _ ← p.flush i
      die i (String.ofList ('%' :: cs) ++ ": invalid conversion specification")
    | kind :: rest =>
      let p ← p.value i l kind (String.ofList ('%' :: cs.take (cs.length - rest.length)))
      if p.stopped then return p else pass i fuel rest p
  | fuel + 1, c :: cs, p => pass i fuel cs (p.add [c])

/-- Passes over a format as long as each takes arguments and some are left. -/
def passes (i : Invocation) (format : String) : Nat → Printed → Routine Printed
  | 0, p => return p
  | fuel + 1, p => do
    let p ← pass i (format.length + 1) format.toList { p with used := false }
    if p.used && !p.stopped && !p.rest.isEmpty then passes i format fuel p else return p

end Printed

def printf : Program := fun i => do
  let arguments := if i.arguments.head? = some "--" then i.arguments.drop 1 else i.arguments
  match arguments with
  | [] => missingOperand i
  | format :: rest =>
    let p ← Printed.passes i format (rest.length + 1) { rest }
    let p ← p.flush i
    if !p.used && !p.stopped && !p.rest.isEmpty then
      complain i ("warning: ignoring excess arguments, starting with " ++ Quote.literal (p.rest.headD ""))
    return p.status

/-! Numbers in a row -/

structure Decimal where
  units : Int
  places : Nat
  deriving DecidableEq, Repr

namespace Decimal

def read? (s : String) : Option Decimal :=
  let cs := s.toList.dropWhile CharClass.isSpace
  let (negative, cs) := match cs with
    | '-' :: cs => (true, cs)
    | '+' :: cs => (false, cs)
    | cs => (false, cs)
  let (ds, places, rest) := Real.readDigits Char.isDigit cs
  let (e, rest) := Real.readExponent 'e' rest
  if ds.isEmpty || !rest.isEmpty then none
  else
    let n : Int := ((String.ofList ds).toNat?.getD 0) * Nat.pow 10 e.toNat
    some ⟨if negative then -n else n, places + (-e).toNat⟩

def unitsAt (d : Decimal) (places : Nat) : Int := d.units * Nat.pow 10 (places - d.places)

def text (places : Nat) (units : Int) : List Char :=
  (if units < 0 then ['-'] else []) ++ Real.withPoint places false units.natAbs

end Decimal

namespace Seq

def batchSize : Nat := 1000

def batch (render : Int → List Char) (separator : List Char) (step last : Int) : Nat → Int → List Char
  | 0, _ => []
  | n + 1, value =>
    if (0 < step && last < value) || (step < 0 && value < last) then []
    else separator ++ render value ++ batch render separator step last n (value + step)

def readDecimal (i : Invocation) (s : String) : Routine Decimal := do
  match Decimal.read? s with
  | some d => return d
  | none => misuse i ("invalid floating point argument: " ++ Quote.literal s)

def isNumber (a : String) : Bool :=
  match a.toList with
  | '-' :: c :: _ => c.isDigit || c = '.'
  | _ => false

def switches : List Switch :=
  Switch.letters "f:s:w" ++ Switch.words [("f", "format="), ("s", "separator="), ("w", "equal-width")]

def formatted (i : Invocation) (format : String) (places : Nat) : Routine (Int → List Char) := do
  let before := format.toList.takeWhile (· ≠ '%')
  match format.toList.drop before.length with
  | [] => die i ("format " ++ Quote.literal format ++ " has no % directive")
  | _ :: cs =>
    let (l, rest) := ({} : Layout).flags cs
    let width := rest.takeWhile Char.isDigit
    let rest := rest.drop width.length
    let l := l.withWidth (((String.ofList width).toNat?.getD 0 : Nat))
    let (l, rest) := match rest with
      | '.' :: rest =>
        let ds := rest.takeWhile Char.isDigit
        ({ l with precision := some ((String.ofList ds).toNat?.getD 0) }, rest.drop ds.length)
      | rest => (l, rest)
    match rest with
    | kind :: rest =>
      if "aefgAEFG".toList.contains kind then
        return fun units =>
          let x := Float.ofInt units / Float.ofNat (Nat.pow 10 places)
          before ++ l.real kind (.ofFloat x) ++ rest
      else die i ("format " ++ Quote.literal format ++ " has unknown %" ++ String.singleton kind ++ " directive")
    | [] => die i ("format " ++ Quote.literal format ++ " ends in %")

def program : Program := fun i => do
  let front := if i.arguments.contains "--" then i.arguments else i.arguments.takeWhile (!isNumber ·)
  let c ← chosen { i with arguments := front } switches 1 true
  let c := { c with operands := c.operands ++ i.arguments.drop front.length }
  let ds ← match c.operands with
    | [] => missingOperand i
    | [a] => do pure [⟨1, 0⟩, ⟨1, 0⟩, ← readDecimal i a]
    | [a, b] => do
      let a ← readDecimal i a
      pure [a, ⟨1, 0⟩, ← readDecimal i b]
    | [a, b, e] => do
      let a ← readDecimal i a
      let b' ← readDecimal i b
      if b'.units = 0 then misuse i ("invalid Zero increment value: " ++ Quote.literal b)
      pure [a, b', ← readDecimal i e]
    | _ :: _ :: _ :: d :: _ => extraOperand i d
  match ds with
  | [first, step, last] =>
    let places := max first.places step.places
    let scale := max places last.places
    let shown (units : Int) : List Char := Decimal.text places (units / Nat.pow 10 (scale - places))
    let width := max (shown (first.unitsAt scale)).length (shown (last.unitsAt scale)).length
    let padded (units : Int) : List Char :=
      let cs := shown units
      let fill := List.replicate (width - cs.length) '0'
      match cs with
      | '-' :: rest => '-' :: fill ++ rest
      | cs => fill ++ cs
    let render ← match c.last? "f" with
      | some f => formatted i f scale
      | none => pure (if c.has "w" then padded else shown)
    let separator := ((c.last? "s").getD "\n").toList
    let step := step.unitsAt scale
    let last := last.unitsAt scale
    Routine.iterate 0 (fun (value : Int) => do
      let cs := batch render separator step last batchSize value
      if cs.isEmpty then
        if value ≠ first.unitsAt scale then put i ['\n']
        return .inr 0
      else do
        put i (if value = first.unitsAt scale then cs.drop separator.length else cs)
        return .inl (value + step * batchSize)) Routine.rounds (first.unitsAt scale)
  | _ => return 1

end Seq

/-! Paths -/

def basename : Program := fun i => do
  let c ← chosen i (Switch.letters "as:z" ++ Switch.words [("a", "multiple"), ("s", "suffix="), ("z", "zero")]) 1 true
  let mark := if c.has "z" then '\x00' else '\n'
  let trimmed (suffix name : String) : String :=
    if name ≠ suffix && name.endsWith suffix then String.ofList (name.toList.take (name.length - suffix.length)) else name
  let shown (suffix path : String) : List Char := (trimmed suffix (baseName path)).toList ++ [mark]
  match c.operands with
  | [] => missingOperand i
  | paths =>
    if c.has "a" || c.has "s" then put i (paths.flatMap (shown ((c.last? "s").getD "")))
    else match paths with
      | [p] => put i (shown "" p)
      | [p, suffix] => put i (shown suffix p)
      | _ => extraOperand i ((paths[2]?).getD "")
    return 0

def dirname : Program := fun i => do
  let c ← chosen i (Switch.letters "z" ++ Switch.words [("z", "zero")])
  if c.operands.isEmpty then missingOperand i
  put i (c.operands.flatMap fun p => (directoryName p).toList ++ [if c.has "z" then '\x00' else '\n'])
  return 0

def pwd : Program := fun i => do
  let c ← chosen i (Switch.letters "LP" ++ Switch.words [("L", "logical"), ("P", "physical")])
  if !c.operands.isEmpty then complain i "ignoring non-option arguments"
  let here ← Routine.query fun pid k => k.directoryPath pid
  let told := (Environment.get? i.environment "PWD").getD ""
  let isTold ← if told.startsWith "/" then do
      let a ← Routine.info true told
      let b ← Routine.info true "."
      pure (match a, b with
        | .ok a, .ok b => a.place = b.place
        | _, _ => false)
    else pure false
  putText i ((if c.lastOf? ["L", "P"] = some "L" && isTold then told else here) ++ "\n")
  return 0

end SnippetLab.Program
