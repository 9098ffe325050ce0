import SnippetLab.Shell.Reading

/-!
Reading one word, or the lines of a document. Quotes, parameters in braces and expressions nest; each layer
knows how characters are taken in it.
-/
namespace SnippetLab.Shell.WordReader

inductive Quoting
  | plain
  | double
  | single
  | expression
  deriving DecidableEq, Repr

structure Layer where
  quoting : Quoting
  innerQuotes : Bool := false
  endsAtBrace : Bool := false
  isDouble : Bool := false
  braces : Nat := 0
  parentheses : Nat := 0
  doubleBraces : Nat := 0
  deriving DecidableEq, Repr

inductive Mark
  | piece (p : Piece)
  | openParameter (name : String) (change : Change) (emptyIsMissing : Bool)
  | openExpression
  | close

def nest : (levels : List (Mark × List Piece)) → (pieces : List Piece) → List Mark → List Piece
  | [], pieces, [] => pieces.reverse
  | (m, outer) :: levels, pieces, [] => nest levels (closed m outer pieces) []
  | levels, pieces, .piece p :: marks => nest levels (p :: pieces) marks
  | (m, outer) :: levels, pieces, .close :: marks => nest levels (closed m outer pieces) marks
  | [], pieces, .close :: marks => nest [] pieces marks
  | levels, pieces, m :: marks => nest ((m, pieces) :: levels) [] marks
termination_by levels _ marks => 2 * marks.length + levels.length
where
  closed (m : Mark) (outer pieces : List Piece) : List Piece :=
    match m with
    | .openParameter name change emptyIsMissing => .parameter name change emptyIsMissing pieces.reverse :: outer
    | _ => .arithmetic pieces.reverse :: outer

structure Progress where
  current : Layer
  outer : List Layer := []
  marks : List Mark := []
  isQuoted : Bool := false
  document : Option (List Char × Bool) := none
  isText : Bool := false

namespace Progress

def put (p : Progress) (m : Mark) : Progress := { p with marks := m :: p.marks }

def char (p : Progress) (c : Char) (quoted : Bool := false) : Progress := p.put (.piece (.char c quoted))

def setLayer (p : Progress) (f : Layer → Layer) : Progress := { p with current := f p.current }

def push (p : Progress) (l : Layer) : Progress := { p with current := l, outer := p.current :: p.outer }

def pop (p : Progress) : Progress :=
  match p.outer with
  | l :: outer => { p with current := l, outer }
  | [] => p

/-- Quotes have no meaning of their own outside braces. -/
def isDocument (p : Progress) : Bool := p.document.isSome || p.isText

def quotes (p : Progress) : Progress := if p.isDocument then p else p.put (.piece .quotes)

def toggleInner (p : Progress) : Progress :=
  (if 0 < p.current.braces then p.setLayer fun l => { l with innerQuotes := !l.innerQuotes } else p).quotes

def pieces (p : Progress) : List Piece := nest [] [] p.marks.reverse

end Progress

def isTelling (c : Char) : Bool := "!*?[=~:/-]".toList.contains c

def endsWord (c : Char) : Bool := "<>();&| \t".toList.contains c

def isSpecial (c : Char) : Bool := "#?$!-*@".toList.contains c || c.isDigit

structure Scripts where
  inParentheses : Parse (Option Node)
  whole : Parse (Option Node)

/-! Parameters -/

def run (p : Char → Bool) : Nat → List Char → Option Char → Parse (List Char × Option Char)
  | 0, done, c => return (done.reverse, c)
  | fuel + 1, done, some c => if p c then do run p fuel (c :: done) (← Parse.joined) else return (done.reverse, some c)
  | _, done, none => return (done.reverse, none)

def name (inBraces : Bool) (c : Char) : Parse (List Char × Option Char) := do
  if isNameStart c then run isNameChar Parse.fuel [c] (← Parse.joined)
  else if inBraces then run Char.isDigit Parse.fuel [c] (← Parse.joined)
  else return ([c], ← Parse.joined)

def named (inBraces : Bool) (c : Char) : Parse (Option (List Char) × Bool × Option Char) := do
  if isNameStart c || c.isDigit then
    let (cs, next) ← name inBraces c
    return (some cs, false, next)
  else if c = '\x7d' then return (none, false, some c)
  else
    let next ← Parse.joined
    if inBraces && c = '#' then
      match next with
      | some d =>
        if isNameChar d then
          let (cs, next) ← name true d
          return (some cs, true, next)
        else
          let after ← Parse.joined
          if d = '\x7d' || after ≠ some '\x7d' then
            Parse.unread after
            return (some ['#'], false, some d)
          else if isSpecial d then return (some [d], true, after)
          else return (none, false, after)
      | none =>
        return (some ['#'], false, none)
    else if isSpecial c then return (some [c], false, next)
    else return (none, false, next)

def changeOf (next : Option Char) : Parse (Change × Bool) := do
  let (emptyIsMissing, c) ← match next with
    | some ':' => pure (true, ← Parse.joined)
    | c => pure (false, c)
  match c with
  | some '\x7d' => return (.none, emptyIsMissing)
  | some '-' => return (.default, emptyIsMissing)
  | some '+' => return (.alternative, emptyIsMissing)
  | some '?' => return (.demand, emptyIsMissing)
  | some '=' => return (.assign, emptyIsMissing)
  | some c =>
    if !emptyIsMissing && (c = '%' || c = '#') then
      let next ← Parse.joined
      if next = some c then return (.trim (c = '%') true, false)
      Parse.unread next
      return (.trim (c = '%') false, false)
    else return (.bad, emptyIsMissing)
  | none => return (.bad, emptyIsMissing)

def isTrim : Change → Bool
  | .trim _ _ => true
  | _ => false

def parameter (c : Char) (p : Progress) : Parse Progress := do
  let inBraces := c = '\x7b'
  let first ← if inBraces then Parse.joined else pure (some c)
  match first with
  | none => return (p.put (.openParameter "" .bad false)).setLayer fun l => { l with braces := l.braces + 1 }
  | some first =>
    let (found, wantsLength, next) ← named inBraces first
    let (change, emptyIsMissing) ← match found with
      | none => do
        Parse.unread next
        pure (Change.bad, false)
      | some _ =>
        if !inBraces then do
          Parse.unread next
          pure (.none, false)
        else if wantsLength then do
          Parse.unread next
          pure (if next = some '\x7d' then .length else .bad, false)
        else changeOf next
    let name := String.ofList (found.getD [])
    if change = .none && !emptyIsMissing then
      return (p.put (.openParameter name .none false)).put .close
    let here := p.current.quoting
    let quoting := if isTrim change then .plain else if here = .expression then .double else here
    let p := p.put (.openParameter name change emptyIsMissing)
    let p := if quoting ≠ here || p.current.innerQuotes then
        p.push { quoting, endsAtBrace := true, isDouble := quoting ≠ .plain }
      else p
    return p.setLayer fun l => { l with
      braces := l.braces + 1
      doubleBraces := if l.isDouble then l.doubleBraces + 1 else l.doubleBraces }

/-! Commands -/

def backquoted (isDouble : Bool) : Nat → List Char → Parse (List Char)
  | 0, done => return done.reverse
  | fuel + 1, done => do
    match ← Parse.joined with
    | some '`' => return done.reverse
    | none => Parse.fault "EOF in backquote substitution"
    | some '\\' =>
      match ← Parse.next with
      | some c =>
        if c = '\\' || c = '`' || c = '$' || (isDouble && c = '"') then backquoted isDouble fuel (c :: done)
        else
          if c = '\n' then Parse.passLine
          backquoted isDouble fuel (c :: '\\' :: done)
      | none => Parse.fault "EOF in backquote substitution"
    | some '\n' => do
      Parse.passLine
      backquoted isDouble fuel ('\n' :: done)
    | some c => backquoted isDouble fuel (c :: done)

def within (text : List Char) (inner : Parse α) : Parse α := do
  let r ← get
  set { r with
    text, isWhole := true, pushed := [], line := 1, pending := [], isHeld := false
    busy := r.pushed.map Pushed.name ++ r.busy }
  let a ← inner
  modify fun s => { s with
    text := r.text, isWhole := r.isWhole, pushed := r.pushed, line := r.line, pending := r.pending, isHeld := false
    busy := r.busy }
  return a

def oldCommand (scripts : Scripts) (p : Progress) : Parse Progress := do
  let text ← backquoted p.current.isDouble Parse.fuel []
  return p.put (.piece (.command (← within text scripts.whole)))

def newCommand (scripts : Scripts) (p : Progress) : Parse Progress := do
  let pending := (← get).pending
  modify fun r => { r with pending := [] }
  let body ← scripts.inParentheses
  modify fun r => { r with pending }
  return p.put (.piece (.command body))

def dollar (scripts : Scripts) (p : Progress) : Parse Progress := do
  let c ← Parse.joined
  match c with
  | some '(' =>
    if (← get).checks.endMark then
      Parse.unread c
      return p.char '$'
    match ← Parse.joined with
    | some '(' => return (p.put .openExpression).push { quoting := .expression, isDouble := true }
    | d =>
      Parse.unread d
      newCommand scripts p
  | some c =>
    if !(← get).checks.endMark && (c = '\x7b' || isNameStart c || isSpecial c) then parameter c p
    else
      Parse.unread (some c)
      return p.char '$'
  | none => return p.char '$'

/-! Characters -/

/-- A backslash between double quotes stands for itself before most characters. -/
def isKept (p : Progress) (c : Char) : Bool :=
  p.current.isDouble && c ≠ '\\' && c ≠ '`' && c ≠ '$'
    && (c ≠ '"' || (p.isDocument && p.current.braces = 0))
    && (c ≠ '\x7d' || p.current.braces = 0)

def backslash (p : Progress) : Parse Progress := do
  match ← Parse.next with
  | none => return p.char '\\' true
  | some c =>
    let p := if isKept p c then p.char '\\' true else p
    return { p.char c true with isQuoted := true }

def endQuotes (c : Char) (p : Progress) : Progress :=
  if p.isDocument && p.current.braces = 0 then p.char c
  else
    let p := if p.current.doubleBraces = 0 then p.setLayer fun l => { l with quoting := .plain, isDouble := false } else p
    let p := { p with isQuoted := true }
    if c = '"' then p.toggleInner else p.quotes

def brace (p : Progress) : Progress :=
  let l := p.current
  if !l.innerQuotes && 0 < l.braces then
    let p := p.setLayer fun l => { l with braces := l.braces - 1 }
    (if l.braces = 1 && l.endsAtBrace then p.pop
      else p.setLayer fun l => { l with doubleBraces := l.doubleBraces - 1 }).put .close
  else p.char '\x7d'

def telling (c : Char) (p : Progress) : Progress := p.char c (!p.isDocument || p.current.isDouble)

def step (scripts : Scripts) (c : Char) (p : Progress) : Parse (Option Progress) := do
  match p.current.quoting, c with
  | .single, '\x27' => return some (endQuotes c p)
  | .single, _ => return some (if c = '\\' || isTelling c then telling c p else p.char c)
  | _, '\\' => return some (← backslash p)
  | _, '$' => return some (← dollar scripts p)
  | _, '`' =>
    if (← get).checks.endMark then return some (p.char c)
    return some (← oldCommand scripts p)
  | _, '\x7d' => return some (brace p)
  | .plain, '\x27' => return some (p.setLayer fun l => { l with quoting := .single }).quotes
  | .plain, '"' =>
    return some (p.setLayer fun l => { l with quoting := .double, isDouble := true }).toggleInner
  | .plain, _ => return if endsWord c && p.current.braces = 0 then none else some (p.char c)
  | .double, '"' => return some (endQuotes c p)
  | .double, _ => return some (if isTelling c then telling c p else p.char c)
  | .expression, '(' => return some ((p.setLayer fun l => { l with parentheses := l.parentheses + 1 }).char c)
  | .expression, ')' =>
    if 0 < p.current.parentheses then
      return some ((p.setLayer fun l => { l with parentheses := l.parentheses - 1 }).char c)
    match ← Parse.joined with
    | some ')' => return some (p.pop.put .close)
    | d =>
      Parse.unread d
      return some (p.char c)
  | .expression, _ => return some (p.char c)

/-- The characters of a mark that come next from a first one on, and the character after them. -/
def common : List Char → Option Char → List Char → Parse (List Char × List Char × Option Char)
  | m :: mark, some c, done => do
    if m = c then common mark (← Parse.next) (c :: done) else return (done.reverse, m :: mark, some c)
  | mark, c, done => return (done.reverse, mark, c)

def passTabs : Nat → Option Char → Parse (Option Char)
  | fuel + 1, some '\t' => do passTabs fuel (← Parse.next)
  | _, c => return c

/-- The first character of a line, unless the line ends the document. -/
def lineStart (p : Progress) (c : Option Char) : Parse (Option Char) :=
  match p.document with
  | none => return c
  | some (mark, stripsTabs) => do
    let c ← if stripsTabs then passTabs Parse.fuel c else pure c
    let (passed, missing, after) ← common mark c []
    if missing.isEmpty && (after = none || after = some '\n') then
      Parse.passLine
      return none
    match passed with
    | [] => return after
    | c :: rest =>
      Parse.unread after
      Parse.putBack rest
      return some c

def following (p : Progress) : Parse (Option Char) :=
  if p.current.quoting = .single then Parse.next else Parse.joined

def read (scripts : Scripts) : Nat → Progress → Option Char → Parse (Progress × Option Char)
  | 0, p, c => return (p, c)
  | _, p, none => return (p, none)
  | fuel + 1, p, some '\n' => do
    if p.current.quoting = .plain && p.current.braces = 0 then return (p, some '\n')
    Parse.passLine
    read scripts fuel (p.char '\n') (← lineStart p (← following p))
  | fuel + 1, p, some c => do
    match ← step scripts c p with
    | none => return (p, some c)
    | some p => read scripts fuel p (← following p)

def finish (p : Progress) : Parse Unit := do
  if p.current.quoting = .expression then Parse.fault "Missing '))'"
  if p.current.quoting ≠ .plain && !p.isDocument then Parse.fault "Unterminated quoted string"
  if p.current.braces ≠ 0 then Parse.fault "Missing '\x7d'"

def opening (descriptor : Option Nat) (c : Char) : Parse Opening := do
  let next ← Parse.joined
  if c = '>' then
    let fd := descriptor.getD 1
    match next with
    | some '>' => return .file fd .append
    | some '|' => return .file fd .force
    | some '&' => return .file fd (.copy false)
    | d =>
      Parse.unread d
      return .file fd .output
  else
    let fd := descriptor.getD 0
    match next with
    | some '<' =>
      match ← Parse.joined with
      | some '-' => return .document fd true
      | d =>
        Parse.unread d
        return .document fd false
    | some '&' => return .file fd (.copy true)
    | some '>' => return .file fd .both
    | d =>
      Parse.unread d
      return .file fd .input

def descriptor? (p : Progress) : Option (Option Nat) :=
  if p.isQuoted then none
  else match p.pieces with
    | [] => some none
    | [.char c false] => if c.isDigit then some (some (c.toNat - '0'.toNat)) else none
    | _ => none

def word (scripts : Scripts) (first : Option Char) : Parse Token := do
  let (p, after) ← read scripts Parse.fuel { current := { quoting := .plain } } first
  finish p
  match after, descriptor? p with
  | some '>', some fd | some '<', some fd =>
    let opening ← opening fd (after.getD '<')
    modify fun r => { r with opening }
    return .redirect
  | _, _ =>
    Parse.unread after
    modify fun r => { r with word := p.pieces, isQuoted := p.isQuoted }
    return .word

def document (scripts : Scripts) (d : Pending) : Parse Word := do
  let layer : Layer := if d.expands then { quoting := .double, isDouble := true } else { quoting := .single }
  let p : Progress := { current := layer, document := some (d.endMark, d.stripsTabs) }
  let first ← lineStart p (← if d.expands then Parse.joined else Parse.next)
  let (p, _) ← read scripts Parse.fuel p first
  finish p
  return p.pieces

def text (scripts : Scripts) : Parse Word := do
  let p : Progress := { current := { quoting := .double, isDouble := true }, isText := true }
  let (p, _) ← read scripts Parse.fuel p (← Parse.joined)
  finish p
  return p.pieces

end SnippetLab.Shell.WordReader
