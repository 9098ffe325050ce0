import SnippetLab.Shell.Builtin.Arguments

/-! The conditions that scripts test: of files, of texts and of numbers. -/
namespace SnippetLab.Shell.Builtin

open SnippetLab.Machine

namespace Condition

inductive Sign
  | unary (letter : Char)
  | binary (name : String)
  | not
  | and
  | or
  | open
  | close
  | operand
  | end
  deriving DecidableEq, Repr

def unaries : List Char := "rwxefdcbpugkstznhOGLS".toList

def binaries : List String :=
  ["=", "!=", "<", ">", "-eq", "-ne", "-ge", "-gt", "-le", "-lt", "-nt", "-ot", "-ef"]

def sign? (word : String) : Option Sign :=
  if binaries.contains word then some (.binary word)
  else match word.toList with
    | ['!'] => some .not
    | ['('] => some .open
    | [')'] => some .close
    | ['-', c] => if c = 'a' then some .and else if c = 'o' then some .or else if unaries.contains c then some (.unary c) else none
    | _ => none

def isBinary : Option Sign → Bool
  | some (.binary _) => true
  | _ => false

/-- An operator for one operand that has none stands for itself. -/
def isOperand : List String → Bool
  | [] => true
  | [_] => false
  | word :: _ => isBinary (sign? word)

def signAt : List String → Sign
  | [] => .end
  | word :: rest =>
    match sign? word with
    | some (.unary c) => if isOperand rest then .operand else .unary c
    | some .open => if rest.isEmpty then .operand else .open
    | some s => s
    | none => .operand

def info? (path : String) (follow : Bool := true) : Action (Option FileInfo) := do
  return (← Action.routine (Routine.info follow path)).toOption

def number (text : String) : Action Int :=
  match Numeral.ofText? text with
  | some n => return n
  | none => illegalNumber text

def unary (letter : Char) (operand : String) : Action Bool := do
  match letter with
  | 'n' => return !operand.isEmpty
  | 'z' => return operand.isEmpty
  | 't' => do
    let _ ← number operand
    return false
  | 'h' | 'L' =>
    return (← info? operand false).any fun i => match i.node with
      | .link _ => true
      | _ => false
  | _ =>
    match ← info? operand with
    | none => return false
    | some i =>
      return match letter, i.node with
        | 'x', .file _ mode => mode &&& 0o111 ≠ 0
        | 'x', .directory => true
        | 'x', _ => false
        | 'f', .file _ _ => true
        | 'd', .directory => true
        | 'c', .device _ => true
        | 'p', .fifo _ => true
        | 's', _ => 0 < i.size
        | 'u', _ => i.mode &&& 0o4000 ≠ 0
        | 'g', _ => i.mode &&& 0o2000 ≠ 0
        | 'k', _ => i.mode &&& 0o1000 ≠ 0
        | c, _ => ['e', 'r', 'w', 'O', 'G'].contains c

def compare (p : Int → Int → Bool) (a b : String) : Action Bool := do
  let m ← number a
  let n ← number b
  return p m n

def binary (operator a b : String) : Action Bool := do
  match operator with
  | "=" => return a = b
  | "!=" => return a ≠ b
  | "<" => return decide (a < b)
  | ">" => return decide (b < a)
  | "-eq" => compare (· = ·) a b
  | "-ne" => compare (· ≠ ·) a b
  | "-ge" => compare (· ≥ ·) a b
  | "-gt" => compare (· > ·) a b
  | "-le" => compare (· ≤ ·) a b
  | "-lt" => compare (· < ·) a b
  | "-nt" => return both (← info? a) (← info? b) fun x y => y.changed < x.changed
  | "-ot" => return both (← info? a) (← info? b) fun x y => x.changed < y.changed
  | _ => do
    let x ← info? a
    let y ← info? b
    Action.routine (Routine.query fun _ k => both x y k.isSame)
where
  both (x y : Option FileInfo) (p : FileInfo → FileInfo → Bool) : Bool :=
    match x, y with
    | some x, some y => p x y
    | _, _ => false

abbrev Verdict := Action (Bool × List String)

mutual

def alternatives : Nat → Sign → List String → Verdict
  | 0, _, words => return (false, words)
  | fuel + 1, sign, words => do
    let (a, words) ← conjunction fuel sign words
    if signAt (words.drop 1) = .or then
      let rest := words.drop 2
      let (b, words) ← alternatives fuel (signAt rest) rest
      return (a || b, words)
    return (a, words)

def conjunction : Nat → Sign → List String → Verdict
  | 0, _, words => return (false, words)
  | fuel + 1, sign, words => do
    let (a, words) ← negation fuel sign words
    if signAt (words.drop 1) = .and then
      let rest := words.drop 2
      let (b, words) ← conjunction fuel (signAt rest) rest
      return (a && b, words)
    return (a, words)

def negation : Nat → Sign → List String → Verdict
  | 0, _, words => return (false, words)
  | fuel + 1, sign, words => do
    if sign ≠ .not then primary fuel sign words
    else
      let next := signAt (words.drop 1)
      let (a, words) ← negation fuel next (if next = .end then words else words.drop 1)
      return (!a, words)

def primary : Nat → Sign → List String → Verdict
  | 0, _, words => return (false, words)
  | fuel + 1, sign, words => do
    match sign with
    | .end => return (false, words)
    | .open =>
      let rest := words.drop 1
      let next := signAt rest
      if next = .close then return (false, rest)
      let (a, words) ← alternatives fuel next rest
      if signAt (words.drop 1) ≠ .close then Action.fail "closing paren expected"
      return (a, words.drop 1)
    | .unary c =>
      match words.drop 1 with
      | [] => Action.fail (words.headD "" ++ ": argument expected")
      | a :: rest => return (← unary c a, a :: rest)
    | _ =>
      match signAt (words.drop 1) with
      | .binary operator =>
        match words with
        | a :: _ :: b :: rest => return (← binary operator a b, b :: rest)
        | _ => Action.fail (operator ++ ": argument expected")
      | _ => return (!(words.headD "").isEmpty, words)

end

def evaluated (sign : Sign) (words : List String) : Action Bool := do
  let (a, words) ← alternatives (8 * (words.length + 2)) sign words
  match words with
  | a :: _ :: _ => if a.isEmpty then Action.fail "unexpected operator" else Action.fail (a ++ ": unexpected operator")
  | _ => return a

/-- Conditions of up to four words are told apart by their number. However often they are negated, that counts
once. -/
def holds (negated : Bool) : Nat → List String → Action Bool
  | 0, _ | _, [] => return negated
  | fuel + 1, words => do
    let whole : Action Bool := return (← evaluated (signAt words) words) != negated
    match words with
    | [a, operator, b] =>
      if isBinary (sign? operator) then return (← evaluated .operand words) != negated
      else if a = "(" && b = ")" then return (← evaluated (signAt [operator]) [operator]) != negated
      else if a = "!" then holds true fuel [operator, b]
      else whole
    | [a, b, c, d] =>
      if a = "(" && d = ")" then return (← evaluated (signAt [b, c]) [b, c]) != negated
      else if a = "!" then holds true fuel [b, c, d]
      else whole
    | _ => whole

end Condition

def test : Builtin := fun name arguments => do
  let words ← if name = "[" then
      if ((arguments.getLast?).getD name).toList.head? = some ']' then pure arguments.dropLast else Action.fail "missing ]"
    else pure arguments
  return if ← Condition.holds false 5 words then 0 else 1

end SnippetLab.Shell.Builtin
