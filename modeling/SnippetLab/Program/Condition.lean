import SnippetLab.Program.Console

/-! Conditions on files, texts and numbers that give a status. -/
namespace SnippetLab.Program.Condition

open SnippetLab.Machine SnippetLab.Text

abbrev Check := ExceptT String Routine

def integer? (text : String) : Option Int :=
  let cs := (text.toList.dropWhile CharClass.isSpace).reverse.dropWhile CharClass.isSpace |>.reverse
  let negative := cs.head? = some '-'
  let ds := if negative || cs.head? = some '+' then cs.drop 1 else cs
  if ds.isEmpty || !ds.all Char.isDigit then none
  else
    let n : Int := (String.ofList ds).toNat?.getD 0
    some (if negative then -n else n)

def number (text : String) : Check Int :=
  match integer? text with
  | some n => return n
  | none => throw ("invalid integer " ++ Quote.literal text)

def info? (path : String) (follow : Bool := true) : Check (Option FileInfo) := do
  return (← (liftM (Routine.info follow path) : Check _)).toOption

def unaries : List Char := "abcdefgGhkLnNOoprsStuvwxz".toList

def unary? (word : String) : Option Char :=
  match word.toList with
  | ['-', c] => if unaries.contains c && c ≠ 'a' && c ≠ 'o' then some c else none
  | _ => none

def binaries : List String :=
  ["=", "==", "!=", "<", ">", "-eq", "-ne", "-lt", "-le", "-gt", "-ge", "-nt", "-ot", "-ef"]

def unary (letter : Char) (operand : String) : Check Bool := do
  match letter with
  | 'n' => return !operand.isEmpty
  | 'z' => return operand.isEmpty
  | 't' => do
    let _ ← number operand
    return false
  | 'h' | 'L' =>
    return (← info? operand false).any fun i => match i.node with
      | .link _ => true
      | _ => false
  | _ =>
    match ← info? operand with
    | none => return false
    | some i =>
      return match letter, i.node with
        | 'x', .file _ mode => mode &&& 0o111 ≠ 0
        | 'x', .directory => true
        | 'x', _ => false
        | 'f', .file _ _ => true
        | 'd', .directory => true
        | 'c', .device _ => true
        | 'p', .fifo _ => true
        | 's', _ => 0 < i.size
        | 'u', _ => i.mode &&& 0o4000 ≠ 0
        | 'g', _ => i.mode &&& 0o2000 ≠ 0
        | 'k', _ => i.mode &&& 0o1000 ≠ 0
        | c, _ => ['e', 'r', 'w', 'O', 'G'].contains c

def compare (p : Int → Int → Bool) (a b : String) : Check Bool := do
  let m ← number a
  let n ← number b
  return p m n

def binary (operator a b : String) : Check Bool := do
  match operator with
  | "=" | "==" => return a = b
  | "!=" => return a ≠ b
  | "<" => return decide (a < b)
  | ">" => return decide (b < a)
  | "-eq" => compare (· = ·) a b
  | "-ne" => compare (· ≠ ·) a b
  | "-lt" => compare (· < ·) a b
  | "-le" => compare (· ≤ ·) a b
  | "-gt" => compare (· > ·) a b
  | "-ge" => compare (· ≥ ·) a b
  | _ => do
    match ← info? a, ← info? b with
    | some x, some y =>
      if operator = "-ef" then (liftM (Routine.query fun _ k => k.isSame x y) : Check Bool)
      else return if operator = "-nt" then y.changed < x.changed else x.changed < y.changed
    | some _, none => return operator = "-nt"
    | none, some _ => return operator = "-ot"
    | none, none => return false

def oneWord (w : String) : Bool := !w.isEmpty

def twoWords (a b : String) : Check Bool := do
  if a = "!" then return !oneWord b
  match unary? a with
  | some c => unary c b
  | none =>
    if a.toList.length = 2 && a.startsWith "-" then throw (Quote.literal a ++ ": unary operator expected")
    throw ("missing argument after " ++ Quote.literal b)

def threeWords (a b c : String) : Check Bool := do
  if binaries.contains b then binary b a c
  else if a = "!" then return !(← twoWords b c)
  else if a = "(" && c = ")" then return oneWord b
  else if b = "-a" then return oneWord a && oneWord c
  else if b = "-o" then return oneWord a || oneWord c
  else throw (Quote.literal b ++ ": binary operator expected")

mutual

def alternatives : Nat → List String → Check (Bool × List String)
  | 0, _ => throw "missing argument"
  | fuel + 1, words => do
    let (a, rest) ← conjunction fuel words
    match rest with
    | "-o" :: rest => do
      let (b, rest) ← alternatives fuel rest
      return (a || b, rest)
    | rest => return (a, rest)

def conjunction : Nat → List String → Check (Bool × List String)
  | 0, _ => throw "missing argument"
  | fuel + 1, words => do
    let (a, rest) ← term fuel words
    match rest with
    | "-a" :: rest => do
      let (b, rest) ← conjunction fuel rest
      return (a && b, rest)
    | rest => return (a, rest)

def term : Nat → List String → Check (Bool × List String)
  | 0, _ => throw "missing argument"
  | fuel + 1, words => do
    match words with
    | [] => throw "missing argument"
    | "!" :: rest => do
      if rest.isEmpty then throw ("missing argument after " ++ Quote.literal "!")
      let (a, rest) ← term fuel rest
      return (!a, rest)
    | "(" :: rest => do
      if rest.isEmpty then throw ("missing argument after " ++ Quote.literal "(")
      match ← alternatives fuel rest with
      | (a, ")" :: rest) => return (a, rest)
      | (_, w :: _) => throw (Quote.literal ")" ++ " expected, found " ++ w)
      | (_, []) => throw (Quote.literal ")" ++ " expected")
    | a :: op :: b :: rest =>
      if binaries.contains op then return (← binary op a b, rest) else single a (op :: b :: rest)
    | a :: rest => single a rest

def single (a : String) (rest : List String) : Check (Bool × List String) := do
  match unary? a, rest with
  | some c, b :: rest => return (← unary c b, rest)
  | some _, [] => throw ("missing argument after " ++ Quote.literal a)
  | none, rest => return (oneWord a, rest)

end

/-- Few words mean the same whatever they look like. -/
def verdict (words : List String) : Check Bool := do
  match words with
  | [] => return false
  | [a] => return oneWord a
  | [a, b] => twoWords a b
  | [a, b, c] => threeWords a b c
  | words =>
    match words with
    | ["!", a, b, c] => return !(← threeWords a b c)
    | ["(", a, b, ")"] => twoWords a b
    | words => do
      let (v, rest) ← alternatives (4 * words.length + 8) words
      match rest with
      | [] => return v
      | w :: _ => throw ("extra argument " ++ Quote.literal w)

def program (bracketed : Bool) : Program := fun i => do
  if bracketed && i.arguments.getLast? ≠ some "]" then die i ("missing " ++ Quote.literal "]") 2
  match ← (verdict (if bracketed then i.arguments.dropLast else i.arguments)).run with
  | .ok v => return if v then 0 else 1
  | .error text => die i text 2

end SnippetLab.Program.Condition
