import SnippetLab.Shell.Builtin.Arguments
import SnippetLab.Text.Real

/-! Commands that print their arguments. -/
namespace SnippetLab.Shell.Builtin

open SnippetLab.Machine SnippetLab.Text

namespace Escape

def octalDigit? (c : Char) : Option Nat := if '0' ≤ c ∧ c ≤ '7' then some (c.toNat - '0'.toNat) else none

def octal : Nat → Nat → List Char → Nat × List Char
  | 0, value, cs => (value, cs)
  | _, value, [] => (value, [])
  | digits + 1, value, c :: cs =>
    match octalDigit? c with
    | some d => octal digits (value * 8 + d) cs
    | none => (value, c :: cs)

def control? : Char → Option Char
  | '\\' => some '\\'
  | 'a' => some '\x07'
  | 'b' => some '\x08'
  | 'e' => some '\x1b'
  | 'f' => some '\x0c'
  | 'n' => some '\n'
  | 'r' => some '\r'
  | 't' => some '\t'
  | 'v' => some '\x0b'
  | _ => none

/-- What a backslash and the text after it stand for; a backslash that begins no escape is itself. -/
def first (cs : List Char) : Char × List Char :=
  match cs with
  | [] => ('\\', [])
  | c :: rest =>
    match octalDigit? c, control? c with
    | some _, _ => let (value, rest) := octal 3 0 cs; (Char.ofNat (value % 256), rest)
    | none, some c => (c, rest)
    | none, none => ('\\', cs)

def replaced : Nat → List Char → List Char × Bool
  | 0, _ | _, [] => ([], false)
  | _, '\\' :: 'c' :: _ => ([], true)
  | fuel + 1, '\\' :: '0' :: d :: cs =>
    let (c, rest) := first (if (octalDigit? d).isSome then d :: cs else '0' :: d :: cs)
    put c fuel rest
  | fuel + 1, '\\' :: cs => let (c, rest) := first cs; put c fuel rest
  | fuel + 1, c :: cs => put c fuel cs
where
  put (c : Char) (fuel : Nat) (cs : List Char) : List Char × Bool :=
    let (done, stopped) := replaced fuel cs
    (c :: done, stopped)

def all (s : String) : List Char × Bool := replaced (s.length + 1) s.toList

end Escape

def echo : Builtin := fun _ arguments => do
  let (ends, words) := if arguments.head? = some "-n" then (false, arguments.drop 1) else (true, arguments)
  go ends words
  return 0
where
  go (ends : Bool) : List String → Action Unit
    | [] => if ends then Action.print "\n" else pure ()
    | w :: ws => do
      let (text, stopped) := Escape.all w
      Action.print (String.ofList text)
      if stopped then pure ()
      else if ws.isEmpty then if ends then Action.print "\n" else pure ()
      else do
        Action.print " "
        go ends ws

/-! Formats -/

structure Printing where
  rest : List String
  used : Bool := false
  stopped : Bool := false
  status : Nat := 0

namespace Printing

def take (p : Printing) : Option String × Printing :=
  match p.rest with
  | [] => (none, p)
  | a :: rest => (some a, { p with rest, used := true })

def warn (p : Printing) (text : String) : Action Printing := do
  Action.complain text
  return { p with status := 1 }

def check (p : Printing) (whole : String) (rest : List Char) (nothing outOfRange : Bool) : Action Printing :=
  if !rest.isEmpty then p.warn (whole ++ if nothing then ": expected numeric value" else ": not completely converted")
  else if outOfRange then p.warn (whole ++ ": Numerical result out of range")
  else return p

def quoted? (s : String) : Option Nat :=
  match s.toList with
  | '"' :: cs | '\x27' :: cs => some ((cs.head?.map Char.toNat).getD 0)
  | _ => none

def integer (p : Printing) (signed : Bool) : Action (Int × Printing) := do
  match p.take with
  | (none, p) => return (0, p)
  | (some s, p) =>
    match quoted? s with
    | some n => return (n, p)
    | none =>
      match Numeral.signed? Numeral.read? s.toList with
      | none => return (0, ← p.check s s.toList true false)
      | some (n, rest) =>
        let most : Int := if signed then Numeral.most else UInt64.size - 1
        let least : Int := if signed then -(Numeral.most : Int) - 1 else -(UInt64.size - 1)
        let clamped := if most < n then most else if n < least then (if signed then least else most) else n
        return (clamped, ← p.check s rest false (clamped ≠ n))

def real (p : Printing) : Action (Float × Printing) := do
  match p.take with
  | (none, p) => return (0, p)
  | (some s, p) =>
    match quoted? s with
    | some n => return (Float.ofNat n, p)
    | none =>
      match Real.read? s.toList with
      | none => return (0, ← p.check s s.toList true false)
      | some (x, rest) => return (x, ← p.check s rest false (x.isInf && !s.toList.any (·.toLower = 'n')))

def size (p : Printing) (cs : List Char) : Action (Option Int × List Char × Printing) := do
  match cs with
  | '*' :: cs => do
    let (n, p) ← p.integer true
    return (some n, cs, p)
  | cs =>
    let ds := cs.takeWhile Char.isDigit
    return ((String.ofList ds).toNat?.map Int.ofNat, cs.drop ds.length, p)

def put (p : Printing) (cs : List Char) : Action Printing := do
  Action.print (String.ofList cs)
  return p

def value (p : Printing) (l : Layout) (kind : Char) (directive : String) : Action Printing := do
  match kind with
  | 's' =>
    let (s, p) := p.take
    p.put (l.text (s.getD "").toList)
  | 'b' =>
    let (s, p) := p.take
    let (cs, stopped) := Escape.all (s.getD "")
    { p with stopped }.put (l.text cs)
  | 'c' =>
    let (s, p) := p.take
    p.put (l.pad [((s.getD "").toList.head?).getD '\x00'])
  | 'd' | 'i' =>
    let (n, p) ← p.integer true
    p.put (l.integer n)
  | 'o' | 'u' | 'x' | 'X' =>
    let (n, p) ← p.integer false
    p.put (l.natural kind (n.emod UInt64.size).toNat)
  | _ =>
    if "aAeEfFgG".toList.contains kind then
      let (x, p) ← p.real
      p.put (l.real kind (.ofFloat x))
    else Action.fail (directive ++ ": invalid directive")

def pass : Nat → List Char → Printing → Action Printing
  | 0, _, p | _, [], p => return p
  | fuel + 1, '\\' :: cs, p => do
    let (c, rest) := Escape.first cs
    pass fuel rest (← p.put [c])
  | fuel + 1, '%' :: '%' :: cs, p => do pass fuel cs (← p.put ['%'])
  | fuel + 1, '%' :: cs, p => do
    let (l, rest) := ({} : Layout).flags cs
    let (width, rest, p) ← p.size rest
    let l := l.withWidth (width.getD 0)
    let (l, rest, p) ← match rest with
      | '.' :: rest => do
        let (precision, rest, p) ← p.size rest
        let n := precision.getD 0
        pure ({ l with precision := if n < 0 then none else some n.toNat }, rest, p)
      | rest => pure (l, rest, p)
    match rest with
    | [] => Action.fail "missing format character"
    | kind :: rest =>
      let p ← p.value l kind (String.ofList ('%' :: cs.take (cs.length - rest.length)))
      if p.stopped then return p else pass fuel rest p
  | fuel + 1, c :: cs, p => do pass fuel cs (← p.put [c])

def passes (format : String) : Nat → Printing → Action Printing
  | 0, p => return p
  | fuel + 1, p => do
    let p ← pass (format.length + 1) format.toList { p with used := false }
    if p.used && !p.stopped && !p.rest.isEmpty then passes format fuel p else return p

end Printing

def printf : Builtin := fun _ arguments => do
  let (_, rest) ← options "" arguments
  match rest with
  | [] => Action.fail "usage: printf format [arg ...]"
  | format :: rest => return (← Printing.passes format (rest.length + 1) { rest }).status

end SnippetLab.Shell.Builtin
