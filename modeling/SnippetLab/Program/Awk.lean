import SnippetLab.Program.Console
import SnippetLab.Regex.Reader
import SnippetLab.Regex.Search

/-! Looking for patterns in lines and computing with their fields, in whole numbers. -/
namespace SnippetLab.Program.Awk

open SnippetLab.Machine SnippetLab.Text

inductive Token
  | number (n : Nat)
  | text (cs : List Char)
  | regex (cs : List Char)
  | name (s : String)
  | sign (s : String)
  deriving DecidableEq, Repr

def signs : List String :=
  ["==", "!=", "<=", ">=", "&&", "||", "+=", "-=", "++", "--", "\x7b", "\x7d", "(", ")", ";", "\n", ",", "+", "-", "*", "%", "!", "<",
    ">", "~", "$", "="]

def upTo? (mark : Char) (taken : List Char) : List Char → Option (List Char × List Char)
  | '\\' :: 'n' :: cs => upTo? mark ('\n' :: taken) cs
  | '\\' :: 't' :: cs => upTo? mark ('\t' :: taken) cs
  | '\\' :: c :: cs => upTo? mark (if c = mark || c = '\\' then c :: taken else c :: '\\' :: taken) cs
  | c :: cs => if c = mark then some (taken.reverse, cs) else upTo? mark (c :: taken) cs
  | [] => none

def readTokens : (fuel : Nat) → List Char → Except String (List Token)
  | 0, _ | _, [] => .ok []
  | fuel + 1, c :: cs => do
    let word (p : Char → Bool) : List Char × List Char := (c :: cs).span p
    if c = ' ' || c = '\t' then readTokens fuel cs
    else if c.isDigit then
      let (ds, rest) := word Char.isDigit
      return .number ((String.ofList ds).toNat?.getD 0) :: (← readTokens fuel rest)
    else if c.isAlpha || c = '_' then
      let (name, rest) := word fun d => d.isAlphanum || d = '_'
      return .name (String.ofList name) :: (← readTokens fuel rest)
    else if c = '"' || c = '/' then
      let some (taken, rest) := upTo? c [] cs | throw ("runaway constant " ++ String.ofList (c :: cs))
      return (if c = '"' then .text taken else .regex taken) :: (← readTokens fuel rest)
    else match signs.find? (·.toList.isPrefixOf (c :: cs)) with
      | some s => return .sign s :: (← readTokens fuel ((c :: cs).drop s.length))
      | none => throw ("unexpected character '" ++ String.singleton c ++ "'")

inductive Expression
  | number (n : Int)
  | text (cs : List Char)
  | regex (p : Regex.Pattern)
  | named (name : String)
  | field (e : Expression)
  | assign (name : String) (e : Expression)
  | not (e : Expression)
  | binary (op : String) (a b : Expression)

inductive Statement
  | value (e : Expression)
  | print (es : List Expression)

inductive Rule
  | start
  | finish
  | each
  | when (e : Expression)

abbrev Parse := StateT (List Token) (Except String)

def fail : Parse α := throw "syntax error"

def take (s : String) : Parse Bool := do
  if (← get).head? = some (.sign s) then
    modify (·.drop 1)
    return true
  else return false

/-- Operators by their strength, the weakest first; those of one level are read from the left. -/
def levels : List (List String) := [["||"], ["&&"], ["~"], ["<", "<=", "==", "!=", ">", ">="], [""], ["+", "-"], ["*", "%"]]

def beginsOperand : Token → Bool
  | .number _ | .text _ | .regex _ | .name _ => true
  | .sign s => ["$", "!", "("].contains s

mutual

def expression : (fuel : Nat) → Parse Expression
  | 0 => fail
  | fuel + 1 => do
    match ← get with
    | .name n :: .sign s :: rest =>
      let given (op : String) : Parse Expression := do
        set rest
        let e ← expression fuel
        return .assign n (if op.isEmpty then e else .binary op (.named n) e)
      match s with
      | "=" => given ""
      | "+=" => given "+"
      | "-=" => given "-"
      | "++" | "--" => do
        set rest
        return .assign n (.binary (if s = "++" then "+" else "-") (.named n) (.number 1))
      | _ => level fuel levels
    | _ => level fuel levels

def level : (fuel : Nat) → List (List String) → Parse Expression
  | 0, _ => fail
  | fuel + 1, [] => operand fuel
  | fuel + 1, ops :: weaker => do
    let a ← level fuel weaker
    levelFrom fuel ops weaker a

/-- Without an operator between them, operands are put one behind the other. -/
def levelFrom : (fuel : Nat) → List String → List (List String) → Expression → Parse Expression
  | 0, _, _, a => return a
  | fuel + 1, ops, weaker, a => do
    match (← get).head? with
    | some (.sign s) =>
      if ops.contains s then
        modify (·.drop 1)
        let b ← level fuel weaker
        levelFrom fuel ops weaker (.binary s a b)
      else if ops = [""] && beginsOperand (.sign s) then
        let b ← level fuel weaker
        levelFrom fuel ops weaker (.binary "" a b)
      else return a
    | some t =>
      if ops = [""] && beginsOperand t then
        let b ← level fuel weaker
        levelFrom fuel ops weaker (.binary "" a b)
      else return a
    | none => return a

def operand : (fuel : Nat) → Parse Expression
  | 0 => fail
  | fuel + 1 => do
    match ← get with
    | .number n :: rest => do
      set rest
      return .number n
    | .text cs :: rest => do
      set rest
      return .text cs
    | .regex cs :: rest =>
      match Regex.read { extended := true, escapes := true } cs with
      | .ok (regex, _) => do
        set rest
        return .regex { regex }
      | .error e => throw e.message
    | .name n :: rest => do
      set rest
      return .named n
    | .sign "$" :: rest => do
      set rest
      return .field (← operand fuel)
    | .sign "!" :: rest => do
      set rest
      return .not (← operand fuel)
    | .sign "-" :: rest => do
      set rest
      return .binary "-" (.number 0) (← operand fuel)
    | .sign "(" :: rest => do
      set rest
      let e ← expression fuel
      if ← take ")" then return e else fail
    | _ => fail

end

def endsStatement : Option Token → Bool
  | none => true
  | some t => [.sign ";", .sign "\n", .sign "\x7d"].contains t

def expressions : (fuel : Nat) → Parse (List Expression)
  | 0 => fail
  | fuel + 1 => do
    let e ← expression fuel
    if ← take "," then return e :: (← expressions fuel) else return [e]

def statements : (fuel : Nat) → Parse (List Statement)
  | 0 => fail
  | fuel + 1 => do
    if ← take "\x7d" then return []
    else if (← take ";") || (← take "\n") then statements fuel
    else
      let s ← match ← get with
        | .name "print" :: rest => do
          set rest
          if endsStatement rest.head? then pure (.print []) else pure (.print (← expressions fuel))
        | _ => do pure (.value (← expression fuel))
      if !endsStatement (← get).head? then fail
      return s :: (← statements fuel)

def rules : (fuel : Nat) → Parse (List (Rule × Option (List Statement)))
  | 0 => fail
  | fuel + 1 => do
    if (← get).isEmpty then return []
    else if (← take ";") || (← take "\n") then rules fuel
    else
      let rule ← match ← get with
        | .name "BEGIN" :: rest => do
          set rest
          pure Rule.start
        | .name "END" :: rest => do
          set rest
          pure Rule.finish
        | .sign "\x7b" :: _ => pure Rule.each
        | _ => do pure (.when (← expression fuel))
      let action ← if ← take "\x7b" then do pure (some (← statements fuel)) else pure none
      return (rule, action) :: (← rules fuel)

def read (cs : List Char) : Except String (List (Rule × Option (List Statement))) := do
  let tokens ← readTokens (cs.length + 1) cs
  -- each token takes one step through every level at most
  return (← (rules (16 * (tokens.length + 1))).run tokens).1

/-! Running -/

structure State where
  values : List (String × List Char) := []
  line : List Char := []
  number : Nat := 0
  out : List (List Char) := []

def wordsOf (separator : List Char) (cs : List Char) : List (List Char) :=
  match separator with
  | [c] => if c = ' ' then (cs.splitOnP fun d => d = ' ' || d = '\t').filter (!·.isEmpty) else cs.splitOn c
  | _ => [cs]

def State.variable (s : State) (name : String) : List Char := (s.values.lookup name).getD []

def State.fields (s : State) : List (List Char) := wordsOf (s.variable "FS") s.line

def numberOf (cs : List Char) : Int :=
  let cs := cs.dropWhile (· = ' ')
  let digits (cs : List Char) : Int := (String.ofList (cs.takeWhile Char.isDigit)).toNat?.getD 0
  match cs with
  | '-' :: ds => -digits ds
  | ds => digits ds

def isNumber (cs : List Char) : Bool := !cs.isEmpty && (String.ofList cs).toInt?.isSome

def compared (a b : List Char) : Ordering :=
  if isNumber a && isNumber b then compare (numberOf a) (numberOf b)
  else compare (String.ofList a) (String.ofList b)

def isTrue (cs : List Char) : Bool := if isNumber cs then numberOf cs ≠ 0 else !cs.isEmpty

def truth (b : Bool) : List Char := if b then ['1'] else ['0']

def computed (op : String) (a b : List Char) : List Char :=
  let o := compared a b
  match op with
  | "+" => (toString (numberOf a + numberOf b)).toList
  | "-" => (toString (numberOf a - numberOf b)).toList
  | "*" => (toString (numberOf a * numberOf b)).toList
  | "%" => (toString ((numberOf a).tmod (numberOf b))).toList
  | "<" => truth (o = .lt)
  | "<=" => truth (o ≠ .gt)
  | "==" => truth (o = .eq)
  | "!=" => truth (o ≠ .eq)
  | ">" => truth (o = .gt)
  | ">=" => truth (o ≠ .lt)
  | "&&" => truth (isTrue a && isTrue b)
  | "||" => truth (isTrue a || isTrue b)
  | _ => a ++ b

def evaluate (s : State) : Expression → List Char × State
  | .number n => ((toString n).toList, s)
  | .text cs => (cs, s)
  | .regex p => (truth (p.isFound s.line), s)
  | .named "NF" => ((toString s.fields.length).toList, s)
  | .named "NR" => ((toString s.number).toList, s)
  | .named n => (s.variable n, s)
  | .field e =>
    let (v, s) := evaluate s e
    (match (numberOf v).toNat with
      | 0 => s.line
      | n + 1 => (s.fields[n]?).getD [], s)
  | .assign n e =>
    let (v, s) := evaluate s e
    (v, { s with values := (n, v) :: s.values.filter (·.1 ≠ n) })
  | .not e =>
    let (v, s) := evaluate s e
    (truth (!isTrue v), s)
  | .binary "~" e (.regex p) =>
    let (v, s) := evaluate s e
    (truth (p.isFound v), s)
  | .binary op a b =>
    let (v, s) := evaluate s a
    let (w, s) := evaluate s b
    (computed op v w, s)

def act (s : State) : Statement → State
  | .value e => (evaluate s e).2
  | .print es =>
    let (vs, s) := es.foldl (fun (vs, s) e => let (v, s) := evaluate s e; (vs ++ [v], s)) (([] : List (List Char)), s)
    let text := if es.isEmpty then s.line else (s.variable "OFS").intercalate vs
    { s with out := (text ++ ['\n']) :: s.out }

def actAll (s : State) (isDue : State → Rule → Bool × State) (rules : List (Rule × Option (List Statement))) : State :=
  rules.foldl (fun s (rule, action) =>
    match isDue s rule with
    | (true, s) => (action.getD [.print []]).foldl act s
    | (false, s) => s) s

def onLine (rules : List (Rule × Option (List Statement))) (s : State) (line : List Char) : State :=
  actAll { s with line, number := s.number + 1 } (fun s rule => match rule with
    | .each => (true, s)
    | .when e => let (v, s) := evaluate s e; (isTrue v, s)
    | .start | .finish => (false, s)) rules

def isStart : Rule → Bool
  | .start => true
  | _ => false

def isFinish : Rule → Bool
  | .finish => true
  | _ => false

def readAll (i : Invocation) : List String → Routine (List (List Char))
  | [] => return []
  | p :: ps => do
    match ← content p with
    | .ok cs => return linesOf cs ++ (← readAll i ps)
    | .error e => die i ("cannot open \"" ++ p ++ "\" (" ++ e.text ++ ")") 2

def program : Program := fun i => do
  let c ← chosen i (Switch.letters "F:") 2 true
  match c.operands with
  | [] => die i "no program" 2
  | script :: files =>
    match read script.toList with
    | .error text => die i ("line 1: " ++ text) 2
    | .ok rules => do
      let separator := ((c.last? "F").map String.toList).getD [' ']
      let s := actAll { values := [("FS", separator), ("OFS", [' '])] } (fun s r => (isStart r, s)) rules
      let lines ← if rules.all (isStart ·.1) then pure [] else readAll i (inputs files)
      let s := actAll (lines.foldl (onLine rules) s) (fun s r => (isFinish r, s)) rules
      put i s.out.reverse.flatten 2
      return 0

end SnippetLab.Program.Awk
