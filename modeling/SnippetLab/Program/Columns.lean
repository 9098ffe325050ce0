import SnippetLab.Program.Amount
import SnippetLab.Program.Console
import SnippetLab.Text.Real

/-! Counting and cutting lines. -/
namespace SnippetLab.Program

open SnippetLab.Machine SnippetLab.Text

/-! Counts -/

structure Counts where
  lines : Nat := 0
  words : Nat := 0
  octets : Nat := 0
  chars : Nat := 0
  width : Nat := 0
  column : Nat := 0
  inWord : Bool := false

namespace Counts

def isContinuation (c : Char) : Bool := 0x80 ≤ c.toNat && c.toNat < 0xC0

def step (n : Counts) (c : Char) : Counts :=
  let n := { n with octets := n.octets + 1, chars := if isContinuation c then n.chars else n.chars + 1 }
  if c = '\n' || c = '\r' || c = '\x0c' then
    { n with
      lines := if c = '\n' then n.lines + 1 else n.lines, width := max n.width n.column, column := 0, inWord := false }
  else if c = '\t' then { n with column := (n.column / 8 + 1) * 8, inWord := false }
  else if c = ' ' then { n with column := n.column + 1, inWord := false }
  else if c = '\x0b' then { n with inWord := false }
  else if CharClass.isGraph c || 0xC0 ≤ c.toNat then
    { n with column := n.column + 1, words := if n.inWord then n.words else n.words + 1, inWord := true }
  else n

def add (a b : Counts) : Counts :=
  { lines := a.lines + b.lines, words := a.words + b.words, octets := a.octets + b.octets
    chars := a.chars + b.chars, width := max a.width b.width }

def shown (c : Chosen) (n : Counts) : List Nat :=
  let all := [("l", n.lines), ("w", n.words), ("m", n.chars), ("c", n.octets), ("L", max n.width n.column)]
  let wanted := if ["l", "w", "m", "c", "L"].any c.has then c.has else ["l", "w", "c"].contains
  (all.filter fun e => wanted e.1).map (·.2)

end Counts

def wc : Program := fun i => do
  let c ← chosen i (Switch.letters "clLmw" ++ Switch.words [("c", "bytes"), ("m", "chars"), ("l", "lines"),
    ("L", "max-line-length"), ("w", "words"), ("total", "total="), ("files0", "files0-from=")])
  let paths := inputs c.operands
  let infos ← paths.mapM fun p =>
    if p = "-" then Routine.query fun pid k => (k.openFile? pid 0).map fun f => k.infoOfStream f.stream
    else do return (← Routine.info true p).toOption
  let known := infos.filterMap id
  let regular (i : FileInfo) : Bool := i.node.isFile
  let sum := ((known.filter regular).map (·.size)).foldl (· + ·) 0
  let columns := (Counts.shown c {}).length
  let width := if paths.length = 1 && columns = 1 then 1
    else max (toString sum).length (if known.all regular then 1 else 7)
  let row (n : Counts) (name : String) : List Char :=
    let cells := (Counts.shown c n).map fun v => Real.padLeft width ' ' (toString v).toList
    [' '].intercalate cells ++ (if name.isEmpty then [] else ' ' :: name.toList) ++ ['\n']
  let rec go (status : Nat) (total : Counts) : List String → Routine (Nat × Counts)
    | [] => return (status, total)
    | p :: ps => do
      match ← openInput p with
      | .error e => do
        complainOf i p e
        go 1 total ps
      | .ok fd => do
        let (problem, n) ← eachChunk fd ({} : Counts) fun n cs => return cs.foldl Counts.step n
        closeInput fd
        match problem with
        | some e => complainOf i p e
        | none => pure ()
        if c.last? "total" ≠ some "only" then put i (row n (if c.operands.isEmpty then "" else p))
        go (if problem.isSome then 1 else status) (total.add { n with width := max n.width n.column }) ps
  let (status, total) ← go 0 {} paths
  let sums := match c.last? "total" with
    | some "never" => false
    | some "always" | some "only" => true
    | _ => 1 < paths.length
  if sums then
    let name := if c.last? "total" = some "only" then "" else "total"
    let only := c.last? "total" = some "only"
    put i (if only then [' '].intercalate ((Counts.shown c total).map fun v => (toString v).toList) ++ ['\n'] else row total name)
  return status

/-! Repeated lines -/

namespace Uniq

def switches : List Switch := Switch.letters "cdu" ++ Switch.words [("c", "count"), ("d", "repeated"), ("u", "unique")]

def program : Program := fun i => do
  let c ← chosen i switches
  match ← content (c.operands.headD "-") with
  | .error e => die i (Quote.ifNeeded (c.operands.headD "-") ++ ": " ++ e.text)
  | .ok cs => do
    let groups := (linesOf cs).splitBy (· == ·)
    let wanted (g : List (List Char)) : Bool := (!c.has "d" || 1 < g.length) && (!c.has "u" || g.length = 1)
    let label (g : List (List Char)) : List Char :=
      if c.has "c" then Real.padLeft 7 ' ' (toString g.length).toList ++ [' '] else []
    put i ((groups.filter wanted).flatMap fun g => label g ++ g.headD [] ++ ['\n'])
    return 0

end Uniq

/-! Parts of lines -/

namespace Cut

structure Span where
  low : Nat
  high : Option Nat

def Span.contains (s : Span) (n : Nat) : Bool := s.low ≤ n && s.high.all (n ≤ ·)

def switches : List Switch :=
  Switch.letters "b:c:d:f:nsz" ++ Switch.words [("b", "bytes="), ("c", "characters="), ("d", "delimiter="),
    ("f", "fields="), ("s", "only-delimited"), ("z", "zero-terminated"), ("complement", "complement"),
    ("output", "output-delimiter=")]

def readNumber (i : Invocation) (byFields : Bool) (cs : List Char) : Routine Nat := do
  let text := String.ofList cs
  let what := if byFields then "field value" else "byte/character position"
  if !cs.all Char.isDigit then
    misuse i ("invalid " ++ what ++ " " ++ Quote.literal (String.ofList (cs.dropWhile Char.isDigit)))
  let n := text.toNat?.getD 0
  if Amount.limit - 1 ≤ n then
    misuse i ((if byFields then "field number " else "byte/character offset ") ++ Quote.literal text ++ " is too large")
  if n = 0 then misuse i ((if byFields then "fields" else "byte/character positions") ++ " are numbered from 1")
  return n

def readSpan (i : Invocation) (byFields : Bool) (cs : List Char) : Routine Span := do
  match cs.splitOn '-' with
  | [a] =>
    let n ← readNumber i byFields a
    return ⟨n, some n⟩
  | [[], []] => misuse i "invalid range with no endpoint: -"
  | [a, b] => do
    let low ← if a.isEmpty then pure 1 else readNumber i byFields a
    if b.isEmpty then return ⟨low, none⟩
    let high ← readNumber i byFields b
    if high < low then misuse i "invalid decreasing range"
    return ⟨low, some high⟩
  | _ => misuse i (if byFields then "invalid field range" else "invalid byte or character range")

/-- Positions that are chosen and their neighbours count as one piece. -/
def pieces (wanted : Nat → Bool) (starts : Nat → Bool) (delimiter : List Char) : (isFirst : Bool) → (before : Bool) → Nat →
    List Char → List Char
  | _, _, _, [] => []
  | isFirst, before, n, c :: cs =>
    if wanted n then
      (if !isFirst && (!before || starts n) then delimiter else []) ++ c :: pieces wanted starts delimiter false true (n + 1) cs
    else pieces wanted starts delimiter isFirst false (n + 1) cs

def program : Program := fun i => do
  let c ← chosen i switches
  let lists := c.given.filter fun g => ["b", "c", "f"].contains g.1
  let (key, text) ← match lists with
    | [] => misuse i "you must specify a list of bytes, characters, or fields"
    | [g] => pure g
    | _ => misuse i "only one list may be specified"
  let byFields := key = "f"
  match c.last? "d" with
  | some d => if 1 < d.length then misuse i "the delimiter must be a single character"
  | none => pure ()
  if !byFields && c.has "d" then misuse i "an input delimiter may be specified only when operating on fields"
  if !byFields && c.has "s" then
    misuse i "suppressing non-delimited lines makes sense\n\tonly when operating on fields"
  let parts := (text.toList.map fun ch => if ch = ' ' || ch = '\t' then ',' else ch).splitOn ','
  let spans ← parts.mapM fun p => readSpan i byFields p
  let complement := c.has "complement"
  let wanted (n : Nat) : Bool := (spans.any (·.contains n)) != complement
  let starts (n : Nat) : Bool := spans.any (·.low = n) && !spans.any fun s => s.low < n && s.contains n
  let mark := if c.has "z" then '\x00' else '\n'
  let delimiter := match c.last? "d" with
    | some d => (d.toList.head?).getD '\x00'
    | none => '\t'
  let output := c.last? "output"
  let cutLine (l : List Char) : List Char :=
    if byFields then
      if !l.contains delimiter then if c.has "s" then [] else l ++ [mark]
      else
        let fields := l.splitOn delimiter
        let kept := (fields.zip (List.range fields.length)).filterMap fun (f, n) => if wanted (n + 1) then some f else none
        ((output.map String.toList).getD [delimiter]).intercalate kept ++ [mark]
    else match output with
      | none => (l.zip (List.range l.length)).filterMap (fun (ch, n) => if wanted (n + 1) then some ch else none) ++ [mark]
      | some d => pieces wanted starts d.toList true false 1 l ++ [mark]
  let rec go (status : Nat) : List String → Routine Nat
    | [] => return status
    | p :: ps => do
      match ← openInput p with
      | .error e => do
        complainOf i p e
        go 1 ps
      | .ok fd => do
        let (problem, rest) ← eachChunk fd ([] : List Char) fun rest cs => do
          let (lines, rest) := splitLines mark (rest ++ cs)
          put i (lines.flatMap cutLine)
          return rest
        if !rest.isEmpty then put i (cutLine rest)
        closeInput fd
        match problem with
        | some e => do
          complainOf i p e
          go 1 ps
        | none => go status ps
  go 0 (inputs c.operands)

end Cut

end SnippetLab.Program
