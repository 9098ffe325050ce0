import SnippetLab.Program.Amount
import SnippetLab.Program.Console
import SnippetLab.Text.Real

/-! Programs that show files, or parts of them. -/
namespace SnippetLab.Program

open SnippetLab.Machine SnippetLab.Text

/-! Whole files -/

structure CatStyle where
  numbers : Bool
  numbersFull : Bool
  squeezes : Bool
  marksEnds : Bool
  marksTabs : Bool
  marksOthers : Bool

namespace CatStyle

def switches : List Switch :=
  Switch.letters "AbeEnstTuv" ++ Switch.words [("b", "number-nonblank"), ("n", "number"),
    ("s", "squeeze-blank"), ("v", "show-nonprinting"), ("E", "show-ends"), ("T", "show-tabs"), ("A", "show-all")]

def ofChosen (c : Chosen) : CatStyle :=
  { numbers := c.has "n" && !c.has "b", numbersFull := c.has "b", squeezes := c.has "s"
    marksEnds := ["A", "e", "E"].any c.has, marksTabs := ["A", "t", "T"].any c.has
    marksOthers := ["A", "e", "t", "v"].any c.has }

def isPlain (s : CatStyle) : Bool :=
  !(s.numbers || s.numbersFull || s.squeezes || s.marksEnds || s.marksTabs || s.marksOthers)

def visible (c : Char) : List Char :=
  let low (n : Nat) : List Char :=
    if n < 32 then ['^', Char.ofNat (n + 64)] else if n = 127 then ['^', '?'] else [Char.ofNat n]
  if c.toNat < 128 then low c.toNat else 'M' :: '-' :: low (c.toNat - 128)

def shown (s : CatStyle) (c : Char) : List Char :=
  if c = '\t' then if s.marksTabs then ['^', 'I'] else [c]
  else if s.marksOthers then visible c
  else [c]

structure Progress where
  number : Nat := 0
  ends : Nat := 1

def label (n : Nat) : List Char := Real.padLeft 6 ' ' (toString n).toList ++ ['\t']

/-- What is shown of a chunk, backwards before all that was shown. -/
def step (s : CatStyle) (p : Progress) (out : List Char) : List Char → List Char × Progress
  | [] => (out.reverse, p)
  | c :: cs =>
    if c = '\n' then
      if s.squeezes && 2 ≤ p.ends then step s { p with ends := p.ends + 1 } out cs
      else
        let number := s.numbers && 1 ≤ p.ends
        let p' : Progress := { number := p.number + (if number then 1 else 0), ends := p.ends + 1 }
        let out := if number then (label p'.number).reverse ++ out else out
        step s p' ('\n' :: if s.marksEnds then '$' :: out else out) cs
    else
      let number := (s.numbers || s.numbersFull) && 1 ≤ p.ends
      let p' : Progress := { number := p.number + (if number then 1 else 0), ends := 0 }
      let out := if number then (label p'.number).reverse ++ out else out
      step s p' ((s.shown c).reverse ++ out) cs

end CatStyle

/-- A file that is both read and written would never end. -/
def feedsItself (fd : Nat) : Routine Bool :=
  Routine.query fun pid k =>
    match k.openFile? pid fd, k.openFile? pid 1 with
    | some a, some b =>
      match a.stream, b.stream with
      | .file m, .file n => m = n && a.offset < (k.content m).length
      | _, _ => false
    | _, _ => false

def cat : Program := fun i => do
  let c ← chosen i CatStyle.switches
  if ← Routine.query fun pid k => (k.openFile? pid 1).isNone then die i "standard output: Bad file descriptor"
  let style := CatStyle.ofChosen c
  let rec go (status : Nat) (p : CatStyle.Progress) : List String → Routine Nat
    | [] => return status
    | path :: paths => do
      match ← openInput path with
      | .error e => do
        complainOf i path e
        go 1 p paths
      | .ok fd =>
        if ← feedsItself fd then do
          complain i (Quote.ifNeeded path ++ ": input file is output file")
          go 1 p paths
        else do
          let (problem, p) ← eachChunk fd p fun p cs => do
            if style.isPlain then
              put i cs
              return p
            let (out, p) := style.step p [] cs
            put i out
            return p
          closeInput fd
          match problem with
          | some e => do
            complainOf i path e
            go 1 p paths
          | none => go status p paths
  let paths := inputs c.operands
  let status ← go 0 {} paths
  if paths.contains "-" && (← Routine.query fun pid k => (k.openFile? pid 0).isNone) then
    die i "closing standard input: Bad file descriptor"
  return status

/-! Fronts and ends -/

structure Portion where
  count : Nat := 10
  inverted : Bool := false
  byOctets : Bool := false
  deriving DecidableEq, Repr

namespace Portion

def unit (byOctets : Bool) : String := if byOctets then "bytes" else "lines"

def readCount (i : Invocation) (byOctets : Bool) (text shown : String) : Routine Nat := do
  match Amount.read Amount.common text with
  | .exact n => return n
  | .tooLarge =>
    die i ("invalid number of " ++ unit byOctets ++ ": " ++ Quote.literal shown
      ++ ": Value too large for defined data type")
  | .malformed => die i ("invalid number of " ++ unit byOctets ++ ": " ++ Quote.literal shown)

def splitEnd (mark : Char) (n : Nat) (cs : List Char) : List Char × List Char :=
  let records := (recordsOf mark cs).map fun (l, ended) => if ended then l ++ [mark] else l
  let kept := records.length - n
  ((records.take kept).flatten, (records.drop kept).flatten)

def frontLength (mark : Char) : (lines : Nat) → (length : Nat) → List Char → Nat × Nat
  | 0, length, _ => (length, 0)
  | lines, length, [] => (length, lines)
  | lines + 1, length, c :: cs =>
    if c = mark then frontLength mark lines (length + 1) cs else frontLength mark (lines + 1) (length + 1) cs

def dropLines (mark : Char) : Nat → List Char → List Char
  | 0, cs => cs
  | n + 1, cs => dropLines mark n ((cs.dropWhile (· ≠ mark)).drop 1)

end Portion

def banner (isFirst : Bool) (path : String) : String :=
  (if isFirst then "" else "\n") ++ "==> " ++ (if path = "-" then "standard input" else path) ++ " <==\n"

def eachTitled (i : Invocation) (c : Chosen) (f : String → Nat → Routine (Option SystemError)) : Routine Nat := do
  let paths := inputs c.operands
  let titled := match c.lastOf? ["q", "v"] with
    | some "q" => false
    | some _ => true
    | none => 1 < paths.length
  let rec go (status : Nat) (isFirst : Bool) : List String → Routine Nat
    | [] => return status
    | p :: ps => do
      match ← openInput p with
      | .error e => do
        complain i ("cannot open " ++ Quote.always p ++ " for reading: " ++ e.text)
        go 1 isFirst ps
      | .ok fd => do
        if titled then putText i (banner isFirst p)
        let problem ← f p fd
        closeInput fd
        match problem with
        | none => go status false ps
        | some e => do
          complain i ("error reading " ++ Quote.always (if p = "-" then "standard input" else p) ++ ": " ++ e.text)
          go 1 false ps
  go 0 true paths

def partSwitches : List Switch :=
  Switch.letters "c:n:qvz" ++ Switch.words [("c", "bytes="), ("n", "lines="), ("q", "quiet"), ("q", "silent"),
    ("v", "verbose"), ("z", "zero-terminated")]

def unread (fd count : Nat) : Routine Unit :=
  Routine.change fun pid k =>
    match k.openFile? pid fd with
    | some f => match f.stream with
      | .file _ => k.setOffset pid fd (f.offset - count)
      | _ => k
    | none => k

namespace Head

def present (i : Invocation) (mark : Char) (p : Portion) (fd : Nat) : Routine (Option SystemError) := do
  if p.inverted then
    match ← Routine.readAll fd with
    | .error e => return some e
    | .ok cs => do
      put i (if p.byOctets then cs.take (cs.length - p.count) else (Portion.splitEnd mark p.count cs).1)
      return none
  else
    Routine.iterate none (fun left => do
      if left = 0 then return .inr none
      match ← Routine.read fd 8192 with
      | .error e => return .inr (some e)
      | .ok [] => return .inr none
      | .ok cs => do
        let (length, left) := if p.byOctets then (min left cs.length, left - cs.length)
          else Portion.frontLength mark left 0 cs
        if length < cs.length then unread fd (cs.length - length)
        put i (cs.take length)
        return .inl left) Routine.rounds p.count

def oldOptions (i : Invocation) (cs : List Char) : Routine (List String) := do
  let ds := cs.takeWhile Char.isDigit
  let rec go (found : List String) (unit : String) (factor : String) : List Char → Routine (List String)
    | [] => return found ++ [unit ++ String.ofList ds ++ factor]
    | c :: cs =>
      match c with
      | 'c' => go found "-c" "" cs
      | 'b' => go found "-c" "b" cs
      | 'k' | 'm' => go found "-c" (String.singleton c) cs
      | 'l' => go found "-n" factor cs
      | 'q' | 'v' | 'z' => go (found ++ ["-" ++ String.singleton c]) unit factor cs
      | c => misuse i ("invalid trailing option -- " ++ String.singleton c)
  go [] "-n" "" (cs.drop ds.length)

def portion (i : Invocation) (c : Chosen) : Routine Portion := do
  match c.given.reverse.find? fun g => g.1 = "c" || g.1 = "n" with
  | none => return {}
  | some (key, text) =>
    let inverted := text.startsWith "-"
    let n ← Portion.readCount i (key = "c") (if inverted then String.ofList (text.toList.drop 1) else text)
      (if inverted then String.ofList (text.toList.drop 1) else text)
    return { count := n, inverted, byOctets := key = "c" }

def program : Program := fun i => do
  let arguments ← match i.arguments with
    | a :: rest =>
      match a.toList with
      | '-' :: d :: cs => if d.isDigit then pure ((← oldOptions i (d :: cs)) ++ rest) else pure i.arguments
      | _ => pure i.arguments
    | [] => pure []
  let i := { i with arguments }
  let c ← chosen i partSwitches
  let p ← portion i c
  eachTitled i c fun _ fd => present i (if c.has "z" then '\x00' else '\n') p fd

end Head

namespace Tail

def present (i : Invocation) (mark : Char) (p : Portion) (fd : Nat) : Routine (Option SystemError) := do
  match ← Routine.readAll fd with
  | .error e => return some e
  | .ok cs => do
    put i <|
      if p.inverted then
        if p.byOctets then cs.drop (p.count - 1) else Portion.dropLines mark (p.count - 1) cs
      else if p.byOctets then cs.drop (cs.length - p.count)
      else (Portion.splitEnd mark p.count cs).2
    return none

def oldOptions? (sign : Char) (cs : List Char) : Option (List String) :=
  let ds := cs.takeWhile Char.isDigit
  let rest := cs.drop ds.length
  let count := if ds.isEmpty then "10" else String.ofList ds
  let (unit, rest) := match rest with
    | 'b' :: rest => ("-c", rest)
    | 'c' :: rest => ("-c", rest)
    | 'l' :: rest => ("-n", rest)
    | rest => ("-n", rest)
  let amount := unit ++ (if sign = '+' then "+" else "") ++ count ++ if cs.drop ds.length |>.head? |>.any (· = 'b') then "b" else ""
  match rest with
  | [] => some [amount]
  | ['f'] => some [amount, "-f"]
  | _ => none

def portion (i : Invocation) (c : Chosen) : Routine Portion := do
  match c.given.reverse.find? fun g => g.1 = "c" || g.1 = "n" with
  | none => return {}
  | some (key, text) =>
    let inverted := text.startsWith "+"
    let bare := if text.startsWith "-" then String.ofList (text.toList.drop 1) else text
    let n ← Portion.readCount i (key = "c") bare bare
    return { count := n, inverted, byOctets := key = "c" }

def pause : Nat := 1000000

def follow (i : Invocation) (fd : Nat) : Routine Unit :=
  Routine.iterate () (fun () => do
    match ← Routine.read fd Routine.chunkSize with
    | .ok [] => Routine.sleep pause
    | .ok cs => put i cs
    | .error _ => Routine.sleep pause
    return .inl ()) Routine.rounds ()

def program : Program := fun i => do
  let arguments ← match i.arguments with
    | a :: rest =>
      match a.toList with
      | '-' :: d :: cs =>
        if d.isDigit then
          match oldOptions? '-' (d :: cs) with
          | some options =>
            if 1 < rest.length then die i ("option used in invalid context -- " ++ String.singleton d)
            else pure (options ++ rest)
          | none => die i ("option used in invalid context -- " ++ String.singleton d)
        else pure i.arguments
      | '+' :: d :: cs =>
        match if d.isDigit then oldOptions? '+' (d :: cs) else none with
        | some options => if rest.length ≤ 1 then pure (options ++ rest) else pure i.arguments
        | none => pure i.arguments
      | _ => pure i.arguments
    | [] => pure []
  let i := { i with arguments }
  let c ← chosen i (partSwitches ++ Switch.letters "fFs:" ++ Switch.words [("f", "follow?"), ("F", "retry"),
    ("s", "sleep-interval="), ("pid", "pid=")])
  let p ← portion i c
  let status ← eachTitled i c fun path fd => do
    let problem ← present i (if c.has "z" then '\x00' else '\n') p fd
    if (c.has "f" || c.has "F") && problem.isNone && path ≠ "-" then follow i fd
    return problem
  return status

end Tail

/-! Copies of the input -/

def tee : Program := fun i => do
  let c ← chosen i (Switch.letters "aip" ++ Switch.words [("a", "append"), ("i", "ignore-interrupts"), ("p", "output-error?")])
  if c.has "i" then Routine.change fun pid k => k.setHandling pid Signal.interrupt true false
  let mode := if c.has "a" then OpenMode.appending else OpenMode.output
  let rec openAll (status : Nat) (fds : List (Nat × String)) : List String → Routine (Nat × List (Nat × String))
    | [] => return (status, fds)
    | p :: ps => do
      match ← Routine.openPath p mode with
      | .ok fd => openAll status (fds ++ [(fd, p)]) ps
      | .error e => do
        complainOf i p e
        openAll 1 fds ps
  let (status, fds) ← openAll 0 [(1, "standard output")] c.operands
  let rec spread (status : Nat) (cs : List Char) (kept : List (Nat × String)) :
      List (Nat × String) → Routine (Nat × List (Nat × String))
    | [] => return (status, kept)
    | (fd, p) :: rest => do
      match ← Routine.write fd cs with
      | none => spread status cs (kept ++ [(fd, p)]) rest
      | some e => do
        complain i ((if fd = 1 then "'standard output'" else Quote.ifNeeded p) ++ ": " ++ e.text)
        spread 1 cs kept rest
  let (_, status, _) ← eachChunk 0 (status, fds) fun (status, fds) cs => spread status cs [] fds
  return status

def yes : Program := fun i => do
  let c ← chosen i [] 1 true
  let line := (if c.operands.isEmpty then "y" else " ".intercalate c.operands).toList ++ ['\n']
  let block := (List.replicate (8192 / line.length) line).flatten
  Routine.iterate 1 (fun () => do
    put i (if block.isEmpty then line else block)
    return .inl ()) Routine.rounds ()

end SnippetLab.Program
