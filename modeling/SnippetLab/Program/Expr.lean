import SnippetLab.Program.Console
import SnippetLab.Regex.Reader
import SnippetLab.Regex.Search

/-! Expressions whose parts are the arguments of a command. -/
namespace SnippetLab.Program.Expr

open SnippetLab.Machine SnippetLab.Text

def integer? (s : String) : Option Int :=
  let cs := s.toList
  let ds := if cs.head? = some '-' then cs.drop 1 else cs
  if ds.isEmpty || !ds.all Char.isDigit then none
  else
    let n : Int := (String.ofList ds).toNat?.getD 0
    some (if cs.head? = some '-' then -n else n)

def isNull (s : String) : Bool := s.isEmpty || (integer? s) = some 0

abbrev Parse := StateT (List String) (Except String)

def peek : Parse (Option String) := return (← get).head?

def skip : Parse Unit := modify (·.drop 1)

def last (all : List String) : Parse String :=
  return (all[all.length - (← get).length - 1]?).getD ""

def take (all : List String) : Parse String := do
  match ← peek with
  | some w => do
    skip
    return w
  | none => throw ("syntax error: missing argument after " ++ Quote.literal (← last all))

def number (s : String) : Parse Int :=
  match integer? s with
  | some n => return n
  | none => throw "non-integer argument"

def matched (s pattern : String) : Parse String := do
  match Regex.read {} (Wide.ofOctets pattern.toList) with
  | .error e => throw e.message
  | .ok (regex, _) =>
    let p : Regex.Pattern := { regex }
    let subject : Regex.Subject := { text := (Wide.ofOctets s.toList).toArray }
    match p.matchAt? subject 0 with
    | none => return if p.hasGroups then "" else "0"
    | some c =>
      return if p.hasGroups then String.ofList (Wide.toOctets (c.text subject 1)) else toString c.stop

def part (s : String) (start count : Option Int) : String :=
  match start, count with
  | some i, some n =>
    if i ≤ 0 || n ≤ 0 then ""
    else String.ofList (Wide.toOctets (((Wide.ofOctets s.toList).drop (i.toNat - 1)).take n.toNat))
  | _, _ => ""

def indexOf (s marks : String) : Nat :=
  let cs := Wide.ofOctets s.toList
  let ms := Wide.ofOctets marks.toList
  match cs.findIdx? ms.contains with
  | some n => n + 1
  | none => 0

def compare (op a b : String) : Bool :=
  let o : Ordering := match integer? a, integer? b with
    | some m, some n => Ord.compare m n
    | _, _ => if a = b then .eq else if a < b then .lt else .gt
  match op with
  | "<" => o = .lt
  | "<=" => o ≠ .gt
  | "=" | "==" => o = .eq
  | "!=" => o ≠ .eq
  | ">=" => o ≠ .lt
  | _ => o = .gt

def calculate (op a b : String) : Parse String := do
  let m ← number a
  let n ← number b
  match op with
  | "+" => return toString (m + n)
  | "-" => return toString (m - n)
  | "*" => return toString (m * n)
  | _ => do
    if n = 0 then throw "division by zero"
    return toString (if op = "/" then m.tdiv n else m.tmod n)

mutual

/-- The first value that is not null. The fuel bounds the depth and the length; what does not count is read
only. -/
def choice (all : List String) : Nat → (counts : Bool) → Parse String
  | 0, _ => throw "syntax error"
  | fuel + 1, counts => do
    let a ← both all fuel counts
    choiceFrom all fuel counts a

def choiceFrom (all : List String) : Nat → (counts : Bool) → String → Parse String
  | fuel + 1, counts, a => do
    if (← peek) = some "|" then
      skip
      let b ← both all fuel (counts && isNull a)
      choiceFrom all fuel counts (if !isNull a then a else if isNull b then "0" else b)
    else return a
  | 0, _, a => return a

def both (all : List String) : Nat → (counts : Bool) → Parse String
  | 0, _ => throw "syntax error"
  | fuel + 1, counts => do
    let a ← comparison all fuel counts
    bothFrom all fuel counts a

def bothFrom (all : List String) : Nat → (counts : Bool) → String → Parse String
  | fuel + 1, counts, a => do
    if (← peek) = some "&" then
      skip
      let b ← comparison all fuel (counts && !isNull a)
      bothFrom all fuel counts (if isNull a || isNull b then "0" else a)
    else return a
  | 0, _, a => return a

def comparison (all : List String) : Nat → (counts : Bool) → Parse String
  | 0, _ => throw "syntax error"
  | fuel + 1, counts => do
    let a ← level all fuel counts ["+", "-"]
    comparisonFrom all fuel counts a

def comparisonFrom (all : List String) : Nat → (counts : Bool) → String → Parse String
  | fuel + 1, counts, a => do
    match ← peek with
    | some op =>
      if ["<", "<=", "=", "==", "!=", ">=", ">"].contains op then
        skip
        let b ← level all fuel counts ["+", "-"]
        comparisonFrom all fuel counts (if compare op a b then "1" else "0")
      else return a
    | none => return a
  | 0, _, a => return a

def level (all : List String) : Nat → (counts : Bool) → List String → Parse String
  | 0, _, _ => throw "syntax error"
  | fuel + 1, counts, operators => do
    let a ← operand all fuel counts operators
    levelFrom all fuel counts operators a

def levelFrom (all : List String) : Nat → (counts : Bool) → List String → String → Parse String
  | fuel + 1, counts, operators, a => do
    match ← peek with
    | some op =>
      if operators.contains op then
        skip
        let b ← operand all fuel counts operators
        let c ← if counts then calculate op a b else pure "0"
        levelFrom all fuel counts operators c
      else return a
    | none => return a
  | 0, _, _, a => return a

def operand (all : List String) : Nat → (counts : Bool) → List String → Parse String
  | 0, _, _ => throw "syntax error"
  | fuel + 1, counts, operators => do
    if operators.contains "+" then level all fuel counts ["*", "/", "%"]
    else
      let a ← single all fuel counts
      matchedFrom all fuel counts a

def matchedFrom (all : List String) : Nat → (counts : Bool) → String → Parse String
  | fuel + 1, counts, a => do
    if (← peek) = some ":" then
      skip
      let b ← single all fuel counts
      let c ← if counts then matched a b else pure a
      matchedFrom all fuel counts c
    else return a
  | 0, _, a => return a

def single (all : List String) : Nat → (counts : Bool) → Parse String
  | 0, _ => throw "syntax error"
  | fuel + 1, counts => do
    match ← take all with
    | "+" => take all
    | "(" => do
      let a ← choice all fuel counts
      match ← peek with
      | some ")" => do
        skip
        return a
      | none => throw ("syntax error: expecting ')' after " ++ Quote.literal (← last all))
      | some w => throw ("syntax error: expecting ')' instead of " ++ Quote.literal w)
    | ")" => throw "syntax error: unexpected ')'"
    | "length" => do
      let a ← single all fuel counts
      return toString (Wide.ofOctets a.toList).length
    | "match" => do
      let a ← single all fuel counts
      let b ← single all fuel counts
      if counts then matched a b else return a
    | "index" => do
      let a ← single all fuel counts
      let b ← single all fuel counts
      return toString (indexOf a b)
    | "substr" => do
      let a ← single all fuel counts
      let i ← single all fuel counts
      let n ← single all fuel counts
      return part a (integer? i) (integer? n)
    | w => return w

end

def value (arguments : List String) : Except String String := do
  let (v, rest) ← (choice arguments (8 * arguments.length + 16) true).run arguments
  match rest with
  | [] => return v
  | w :: _ => throw ("syntax error: unexpected argument " ++ Quote.literal w)

def program : Program := fun i => do
  let arguments := if i.arguments.head? = some "--" then i.arguments.drop 1 else i.arguments
  if arguments.isEmpty then missingOperand i 2
  match value arguments with
  | .error text => die i text 2
  | .ok v => do
    putLine i v.toList 3
    return if isNull v then 1 else 0

end SnippetLab.Program.Expr
