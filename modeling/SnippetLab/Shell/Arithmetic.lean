import SnippetLab.Shell.Script
import SnippetLab.Text.Ranges

/-! Numbers as they are written in scripts. -/
namespace SnippetLab.Shell.Numeral

open SnippetLab.Text

def digit? (base : Nat) (c : Char) : Option Nat :=
  let d := if c.isDigit then c.toNat - '0'.toNat else if 'a' ≤ c ∧ c ≤ 'z' then c.toNat - 'a'.toNat + 10
    else if 'A' ≤ c ∧ c ≤ 'Z' then c.toNat - 'A'.toNat + 10 else base
  if d < base then some d else none

def digits (base : Nat) (n : Nat) : List Char → Nat × List Char
  | [] => (n, [])
  | c :: cs =>
    match digit? base c with
    | some d => digits base (n * base + d) cs
    | none => (n, c :: cs)

def read? (cs : List Char) : Option (Nat × List Char) :=
  match cs with
  | '0' :: x :: c :: rest =>
    if (x = 'x' || x = 'X') && (digit? 16 c).isSome then some (digits 16 0 (c :: rest))
    else some (digits 8 0 cs)
  | '0' :: rest => some (digits 8 0 rest)
  | c :: _ => if c.isDigit then some (digits 10 0 cs) else none
  | [] => none

def most : Nat := Int64.maxValue.toInt.toNat

def signed? (read : List Char → Option (Nat × List Char)) (cs : List Char) : Option (Int × List Char) :=
  match cs.dropWhile CharClass.isSpace with
  | '-' :: cs => (read cs).map fun (n, rest) => (-(n : Int), rest)
  | '+' :: cs => (read cs).map fun (n, rest) => ((n : Int), rest)
  | cs => (read cs).map fun (n, rest) => ((n : Int), rest)

def decimal? (cs : List Char) : Option (Nat × List Char) :=
  if cs.head?.any Char.isDigit then some (digits 10 0 cs) else none

def fits (n : Int) : Bool := -(most : Int) - 1 ≤ n && n ≤ most

def whole? (read : List Char → Option (Nat × List Char)) (s : String) : Option Int :=
  match signed? read s.toList with
  | some (n, rest) => if rest.all CharClass.isSpace && fits n then some n else none
  | none => none

def ofText? (s : String) : Option Int := whole? decimal? s

end SnippetLab.Shell.Numeral

/-! Integer expressions over 64 bits, which may assign to variables. -/
namespace SnippetLab.Shell.Arithmetic

open SnippetLab.Text

inductive Fault
  | divisionByZero
  | overflow
  | expecting (what : String)
  | notANumber (text : String)
  deriving DecidableEq, Repr

def Fault.message (expression : String) : Fault → String
  | divisionByZero => "arithmetic expression: division by zero: \"" ++ expression ++ "\""
  | overflow => "arithmetic expression: overflow"
  | expecting what => "arithmetic expression: expecting " ++ what ++ ": \"" ++ expression ++ "\""
  | notANumber text => "Illegal number: " ++ text

inductive Lexeme
  | number (n : Int)
  | name (s : String)
  | sign (s : String)
  | assign (operator : String)
  | bad
  deriving DecidableEq, Repr

def signs : List String :=
  ["<<=", ">>=", "||", "&&", "==", "!=", "<=", ">=", "<<", ">>", "|=", "^=", "&=", "+=", "-=", "*=", "/=", "%=",
   "=", "|", "^", "&", "<", ">", "+", "-", "*", "/", "%", "!", "~", "(", ")", "?", ":"]

def lexeme (s : String) : Lexeme :=
  if ["=", "<<=", ">>=", "|=", "^=", "&=", "+=", "-=", "*=", "/=", "%="].contains s then
    .assign (String.ofList s.toList.dropLast)
  else .sign s

def lex : Nat → List Char → List Lexeme
  | 0, _ | _, [] => []
  | fuel + 1, c :: cs =>
    if c = ' ' || c = '\t' || c = '\n' then lex fuel cs
    else if isNameStart c then
      let name := (c :: cs).takeWhile isNameChar
      .name (String.ofList name) :: lex fuel ((c :: cs).drop name.length)
    else match Numeral.read? (c :: cs) with
      | some (n, rest) => .number (Nat.min n Numeral.most : Nat) :: lex fuel rest
      | none =>
        match signs.find? fun s => s.toList.isPrefixOf (c :: cs) with
        | some s => lexeme s :: lex fuel ((c :: cs).drop s.length)
        | none => [.bad]

structure Progress where
  rest : List Lexeme
  assigned : List (String × Int) := []

abbrev Eval := StateT Progress (Except Fault)

def wrap (n : Int) : Int := n.bmod UInt64.size

def truth (b : Bool) : Int := if b then 1 else 0

def bitwise (f : Nat → Nat → Nat) (a b : Int) : Int :=
  let word (n : Int) : Nat := (n.emod UInt64.size).toNat
  wrap (f (word a) (word b))

def rank? (operator : String) : Option Nat :=
  [("*", 0), ("/", 0), ("%", 0), ("+", 1), ("-", 1), ("<<", 2), (">>", 2), ("<", 3), ("<=", 3), (">", 3), (">=", 3),
   ("==", 4), ("!=", 4), ("&", 5), ("^", 6), ("|", 7)].lookup operator

def loosest : Nat := 8

def apply (operator : String) (a b : Int) : Except Fault Int :=
  match operator with
  | "|" => .ok (bitwise (· ||| ·) a b)
  | "^" => .ok (bitwise (· ^^^ ·) a b)
  | "&" => .ok (bitwise (· &&& ·) a b)
  | "==" => .ok (truth (a = b))
  | "!=" => .ok (truth (a ≠ b))
  | "<=" => .ok (truth (a ≤ b))
  | ">=" => .ok (truth (a ≥ b))
  | "<" => .ok (truth (a < b))
  | ">" => .ok (truth (a > b))
  | "<<" => .ok (wrap (a * Nat.pow 2 (b.emod 64).toNat))
  | ">>" => .ok (a.fdiv (Nat.pow 2 (b.emod 64).toNat))
  | "+" => .ok (wrap (a + b))
  | "-" => .ok (wrap (a - b))
  | "*" => .ok (wrap (a * b))
  | _ =>
    if b = 0 then .error .divisionByZero
    else if b = -1 && a = -(Numeral.most : Int) - 1 then .error .overflow
    else .ok (if operator = "/" then a.tdiv b else a.tmod b)

def valueOf (text : String) : Except Fault Int :=
  if text.toList.all CharClass.isSpace then .ok 0
  else match Numeral.whole? Numeral.read? text with
    | some n => .ok n
    | none => .error (.notANumber text)

def accept (wanted : String) : Eval Bool := do
  let p ← get
  match p.rest with
  | .sign s :: rest =>
    if s = wanted then
      set { p with rest }
      return true
    return false
  | _ => return false

def read (value : String → Except Fault Int) (name : String) : Eval Int := do
  match (← get).assigned.lookup name with
  | some n => return n
  | none => value name

mutual

/-- An expression; one that is not live is read but has no effect. -/
def assignment (value : String → Except Fault Int) (live : Bool) : Nat → Eval Int
  | 0 => throw (.expecting "primary")
  | fuel + 1 => do
    let p ← get
    match p.rest with
    | .name name :: .assign operator :: rest =>
      set { p with rest }
      let b ← assignment value live fuel
      if !live then return b
      let n ← if operator = "" then pure b else do
        let a ← read value name
        apply operator a b
      modify fun p => { p with assigned := (name, n) :: p.assigned }
      return n
    | _ => conditional value live fuel

def conditional (value : String → Except Fault Int) (live : Bool) : Nat → Eval Int
  | 0 => throw (.expecting "primary")
  | fuel + 1 => do
    let a ← disjunction value live fuel
    if !(← accept "?") then return a
    let b ← assignment value (live && a ≠ 0) fuel
    if !(← accept ":") then throw (.expecting "':'")
    let c ← conditional value (live && a = 0) fuel
    return if a ≠ 0 then b else c

def disjunction (value : String → Except Fault Int) (live : Bool) : Nat → Eval Int
  | 0 => throw (.expecting "primary")
  | fuel + 1 => do
    let a ← conjunction value live fuel
    if !(← accept "||") then return a
    let b ← disjunction value (live && a = 0) fuel
    return truth (a ≠ 0 || b ≠ 0)

def conjunction (value : String → Except Fault Int) (live : Bool) : Nat → Eval Int
  | 0 => throw (.expecting "primary")
  | fuel + 1 => do
    let a ← operations value live fuel loosest (← primary value live fuel)
    if !(← accept "&&") then return a
    let b ← conjunction value (live && a ≠ 0) fuel
    return truth (a ≠ 0 && b ≠ 0)

/-- Operators that bind tighter than a bound, after a first operand. -/
def operations (value : String → Except Fault Int) (live : Bool) : Nat → Nat → Int → Eval Int
  | 0, _, _ => throw (.expecting "primary")
  | fuel + 1, bound, a => do
    let p ← get
    match p.rest with
    | .sign operator :: rest =>
      match rank? operator with
      | some rank =>
        if bound ≤ rank then return a
        set { p with rest }
        let b ← operations value live fuel rank (← primary value live fuel)
        let n ← if live then apply operator a b else pure b
        operations value live fuel bound n
      | none => return a
    | _ => return a

def primary (value : String → Except Fault Int) (live : Bool) : Nat → Eval Int
  | 0 => throw (.expecting "primary")
  | fuel + 1 => do
    let p ← get
    match p.rest with
    | .number n :: rest => do
      set { p with rest }
      return n
    | .name name :: rest => do
      set { p with rest }
      if live then read value name else return 0
    | .sign s :: rest => do
      set { p with rest }
      match s with
      | "+" => primary value live fuel
      | "-" => return wrap (-(← primary value live fuel))
      | "!" => return truth ((← primary value live fuel) = 0)
      | "~" => return -1 - (← primary value live fuel)
      | "(" =>
        let a ← assignment value live fuel
        if !(← accept ")") then throw (.expecting "')'")
        return a
      | _ => throw (.expecting "primary")
    | _ => throw (.expecting "primary")

end

def eval (value : String → Except Fault Int) (cs : List Char) : Except Fault (Int × List (String × Int)) := do
  let lexemes := lex (cs.length + 1) cs
  let (n, p) ← (assignment value true (20 * (lexemes.length + 2))).run { rest := lexemes }
  if p.rest.isEmpty then return (n, p.assigned)
  throw (.expecting "EOF")

end SnippetLab.Shell.Arithmetic
