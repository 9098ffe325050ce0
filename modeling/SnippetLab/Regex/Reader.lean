import SnippetLab.Regex.Basic

/-! Reading regular expressions in their basic and extended forms. -/
namespace SnippetLab.Regex

open SnippetLab.Text

structure Dialect where
  extended : Bool := false
  folds : Bool := false
  strict : Bool := false
  /-- A backslash inside brackets keeps its meaning, and there are no back references. -/
  escapes : Bool := false
  modern : Bool := false
  byLines : Bool := false
  deriving DecidableEq, Repr

structure Reading where
  rest : List Char
  groups : Nat := 0
  closed : List Nat := []
  strays : List String := []

abbrev Parse := StateT Reading (Except RegexError)

namespace Parse

def rest : Parse (List Char) := return (← get).rest

end Parse

/-! Brackets -/

inductive Element
  | char (c : Char)
  | alone (c : Char)
  | named (name : String)

def named? (mark : Char) (cs : List Char) : Option (List Char × List Char) := go [] cs
where
  go (name : List Char) : List Char → Option (List Char × List Char)
    | c :: ']' :: rest => if c = mark then some (name.reverse, rest) else go (c :: name) (']' :: rest)
    | c :: rest => go (c :: name) rest
    | [] => none

def bracketEscape (c : Char) : Char :=
  match c with
  | 'n' => '\n'
  | 't' => '\t'
  | 'r' => '\r'
  | 'f' => '\x0c'
  | 'v' => '\x0b'
  | 'a' => '\x07'
  | 'b' => '\x08'
  | c => c

def element (d : Dialect) (cs : List Char) : Except RegexError (Element × List Char) :=
  match cs with
  | '[' :: ':' :: rest =>
    match named? ':' rest with
    | none => .error .openBracket
    | some (name, rest) =>
      if isClassName (String.ofList name) then .ok (.named (String.ofList name), rest) else .error .badClass
  | '[' :: '.' :: rest =>
    match named? '.' rest with
    | none => .error .openBracket
    | some ([c], rest) => .ok (.char c, rest)
    | some _ => .error .badCollation
  | '[' :: '=' :: rest =>
    match named? '=' rest with
    | none => .error .openBracket
    | some ([c], rest) => .ok (.alone c, rest)
    | some _ => .error .badCollation
  | '\\' :: c :: rest => if d.escapes then .ok (.char (bracketEscape c), rest) else .ok (.char '\\', c :: rest)
  | c :: rest => .ok (.char c, rest)
  | [] => .error .openBracket

structure Members where
  ranges : List (Char × Char) := []
  classes : List String := []

namespace Members

def addRange (m : Members) (a b : Char) : Members := { m with ranges := m.ranges ++ [(a, b)] }

end Members

def item (d : Dialect) (m : Members) (cs : List Char) : Except RegexError (Members × List Char) := do
  match ← element d cs with
  | (.named name, rest) => return ({ m with classes := m.classes ++ [name] }, rest)
  | (.alone c, rest) => return (m.addRange c c, rest)
  | (.char a, rest) =>
    match rest with
    | '-' :: ']' :: _ => return (m.addRange a a, rest)
    | '-' :: more =>
      match ← element d more with
      | (.char b, rest) => if b < a then throw .badRange else return (m.addRange a b, rest)
      | _ => throw .badRange
    | rest => return (m.addRange a a, rest)

def elements (d : Dialect) : Nat → (isFirst : Bool) → Members → List Char → Except RegexError (Members × List Char)
  | 0, _, _, _ => .error .openBracket
  | fuel + 1, isFirst, m, cs => do
    if cs.head? = some ']' && !isFirst then return (m, cs.drop 1)
    let (m, rest) ← item d m cs
    elements d fuel false m rest

def bracket (d : Dialect) (cs : List Char) : Except RegexError (CharSet × List Char) := do
  let negated := cs.head? = some '^'
  let inner := if negated then cs.drop 1 else cs
  if inner.isEmpty then throw .badPattern
  let (m, rest) ← elements d (cs.length + 1) true {} inner
  let s := CharSet.among negated m.ranges m.classes
  return (if d.folds then s.folded else s, rest)

def isBareClass (cs : List Char) : Bool :=
  match cs with
  | ':' :: rest =>
    let inner := rest.takeWhile (· ≠ ']')
    1 < inner.length && inner.getLast? = some ':'
  | _ => false

/-! Operators -/

def maxRepetitions : Nat := 32767

inductive Interval
  | counts (least : Nat) (most : Option Nat) (rest : List Char)
  | unfinished
  | malformed
  | tooBig

def interval (extended : Bool) (cs : List Char) : Interval :=
  let low := cs.takeWhile Char.isDigit
  let rest := cs.drop low.length
  let (hasComma, rest) := match rest with
    | ',' :: rest => (true, rest)
    | rest => (false, rest)
  let high := if hasComma then rest.takeWhile Char.isDigit else []
  let rest := rest.drop high.length
  let after? : Option (List Char) := match extended, rest with
    | true, '\x7d' :: rest => some rest
    | false, '\\' :: '\x7d' :: rest => some rest
    | _, _ => none
  let value (ds : List Char) : Nat := (String.ofList ds).toNat?.getD 0
  let least := value low
  let most : Option Nat := if hasComma then (if high.isEmpty then none else some (value high)) else some least
  match after? with
  | none => if rest.isEmpty || (!extended && rest = ['\\']) then .unfinished else .malformed
  | some rest =>
    if low.isEmpty && !hasComma then .malformed
    else if maxRepetitions < max least (most.getD 0) then .tooBig
    else if most.any (· < least) then .malformed
    else .counts least most rest

inductive Repeat
  | counts (least : Nat) (most : Option Nat) (sign : String) (rest : List Char)
  | failed (e : RegexError)
  | none

def operator (d : Dialect) (cs : List Char) : Repeat :=
  let braces (rest : List Char) : Repeat :=
    match interval d.extended rest with
    | .counts least most rest => .counts least most "\x7b...\x7d" rest
    | .unfinished => if d.extended && !d.strict then .none else .failed .openInterval
    | .malformed =>
      if !d.extended then .failed .badInterval
      else
        let body := rest.takeWhile (· ≠ '\x7d')
        let ordered := body.all fun c => c.isDigit || c = ','
        if ordered && body.length < rest.length && !body.isEmpty then .failed .badInterval
        else if d.strict then .failed (if body.length < rest.length then .badInterval else .openInterval)
        else .none
    | .tooBig => .failed .tooBig
  match cs with
  | '*' :: rest => .counts 0 none "*" rest
  | '+' :: rest => if d.extended then .counts 1 none "+" rest else .none
  | '?' :: rest => if d.extended then .counts 0 (some 1) "?" rest else .none
  | '\x7b' :: rest => if d.extended then braces rest else .none
  | '\\' :: '+' :: rest => if d.extended then .none else .counts 1 none "\\+" rest
  | '\\' :: '?' :: rest => if d.extended then .none else .counts 0 (some 1) "\\?" rest
  | '\\' :: '\x7b' :: rest => if d.extended then .none else braces rest
  | _ => .none

def isBar (d : Dialect) (cs : List Char) : Option (List Char) :=
  match d.extended, cs with
  | true, '|' :: rest => some rest
  | false, '\\' :: '|' :: rest => some rest
  | _, _ => none

def isClose (d : Dialect) (cs : List Char) : Option (List Char) :=
  match d.extended, cs with
  | true, ')' :: rest => some rest
  | false, '\\' :: ')' :: rest => some rest
  | _, _ => none

def isOpen (d : Dialect) (cs : List Char) : Option (List Char) :=
  match d.extended, cs with
  | true, '(' :: '?' :: ':' :: rest => some (if d.modern then rest else '?' :: ':' :: rest)
  | true, '(' :: rest => some rest
  | false, '\\' :: '(' :: rest => some rest
  | _, _ => none

def escape? (d : Dialect) (c : Char) : Option Regex :=
  if d.escapes then
    if ['n', 't', 'r', 'f', 'v', 'a', 'b'].contains c then some (.one (.single (bracketEscape c))) else none
  else if d.modern && "tnrfae".toList.contains c then
    some (.one (.single (if c = 'e' then '\x1b' else bracketEscape c)))
  else if d.modern && c = 'd' then some (.one (.among false [('0', '9')] []))
  else if d.modern && c = 'D' then some (.one (.among true [('0', '9')] []))
  else match c with
    | 'w' => some (.one (.among false [('_', '_')] ["alnum"]))
    | 'W' => some (.one (.among true [('_', '_')] ["alnum"]))
    | 's' => some (.one (.among false [] ["space"]))
    | 'S' => some (.one (.among true [] ["space"]))
    | 'b' => some (.assertion .boundary)
    | 'B' => some (.assertion .noBoundary)
    | '<' => some (.assertion .wordStart)
    | '>' => some (.assertion .wordEnd)
    | '\x60' => some (.assertion .textStart)
    | '\x27' => some (.assertion .textEnd)
    | _ => none

def char (d : Dialect) (c : Char) : Regex :=
  let s := CharSet.single c
  .one (if d.folds then s.folded else s)

/-- A dollar sign is an end where nothing follows it in its branch. -/
def endsBranch (d : Dialect) (cs : List Char) : Bool :=
  cs.isEmpty || d.extended || (isBar d cs).isSome || (isClose d cs).isSome

def startOf (d : Dialect) : Assertion := if d.byLines then .lineStart else .textStart

def endOf (d : Dialect) : Assertion := if d.byLines then .lineEnd else .textEnd

def repeated (d : Dialect) : Nat → Regex → Parse Regex
  | 0, r => return r
  | fuel + 1, r => do
    match operator d (← Parse.rest) with
    | .counts least most _ rest => do
      modify fun s => { s with rest }
      repeated d fuel (.loop r least most)
    | .failed e => throw e
    | .none => return r

mutual

def alternatives (d : Dialect) : (fuel : Nat) → (depth : Nat) → Parse Regex
  | 0, _ => throw .badPattern
  | fuel + 1, depth => do
    let a ← branch d fuel depth .empty true
    match isBar d (← Parse.rest) with
    | none => return a
    | some rest => do
      modify fun s => { s with rest }
      return .alt a (← alternatives d fuel depth)

def branch (d : Dialect) : (fuel : Nat) → (depth : Nat) → Regex → (atStart : Bool) → Parse Regex
  | 0, _, _, _ => throw .badPattern
  | fuel + 1, depth, before, atStart => do
    let cs ← Parse.rest
    let join (r : Regex) : Regex := if before = .empty then r else .seq before r
    if cs.isEmpty || (isBar d cs).isSome then return before
    if (isClose d cs).isSome && (0 < depth || !d.extended || d.strict) then return before
    if atStart then
      match operator d cs with
      | .counts _ _ sign rest =>
        if d.extended then
          if d.strict then throw .badRepetition
          modify fun s => { s with rest, strays := s.strays ++ [sign] }
          return ← branch d fuel depth before true
        else if sign.startsWith "\\" then pure ()
        else if sign = "\x7b...\x7d" && d.strict then throw .badRepetition
        else if sign = "\x7b...\x7d" then
          modify fun s => { s with rest := s.rest.drop 1 }
      | .failed e => if d.extended then throw e else pure ()
      | .none => pure ()
    let (r, isAnchor) ← atom d fuel depth atStart
    if isAnchor && (!d.extended || d.strict || (operator d (← Parse.rest) matches .counts ..)) then
      branch d fuel depth (join r) true
    else do
      let r ← repeated d fuel r
      branch d fuel depth (join r) false

def atom (d : Dialect) : (fuel : Nat) → (depth : Nat) → (atStart : Bool) → Parse (Regex × Bool)
  | 0, _, _ => throw .badPattern
  | fuel + 1, depth, atStart => do
    let cs ← Parse.rest
    match isOpen d cs with
    | some rest => do
      let number := (← get).groups + 1
      modify fun s => { s with rest, groups := number }
      let r ← alternatives d fuel (depth + 1)
      match isClose d (← Parse.rest) with
      | none => throw .openGroup
      | some rest => do
        modify fun s => { s with rest, closed := number :: s.closed }
        return (.group number r, false)
    | none =>
      match cs with
      | '[' :: rest => do
        if isBareClass rest && !d.strict && !d.escapes then throw .bareClass
        let (s, rest) ← bracket d rest
        modify fun t => { t with rest }
        return (.one s, false)
      | '.' :: rest => do
        modify fun s => { s with rest }
        return (.one .any, false)
      | '^' :: rest => do
        modify fun s => { s with rest }
        if d.extended || atStart then return (.assertion (startOf d), true)
        return (char d '^', false)
      | '$' :: rest => do
        modify fun s => { s with rest }
        if endsBranch d rest then return (.assertion (endOf d), false)
        return (char d '$', false)
      | '\\' :: [] => throw .trailingBackslash
      | '\\' :: c :: rest => do
        modify fun s => { s with rest }
        if c.isDigit && c ≠ '0' && !d.escapes then
          let n := c.toNat - '0'.toNat
          if !(← get).closed.contains n then throw .badBackReference
          return (.back n, false)
        return ((escape? d c).getD (char d c), false)
      | c :: rest => do
        modify fun s => { s with rest }
        return (char d c, false)
      | [] => return (.empty, false)

end

/-- The expression of a text, and the operators in it that had nothing to repeat. -/
def read (d : Dialect) (cs : List Char) : Except RegexError (Regex × List String) := do
  let (r, s) ← (alternatives d (4 * cs.length + 8) 0).run { rest := cs }
  if s.rest.isEmpty then return (r, s.strays) else throw .closedGroup

end SnippetLab.Regex
