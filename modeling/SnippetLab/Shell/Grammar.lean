import SnippetLab.Shell.WordReader

/-!
Reading commands. A script is read command line by command line, and each is run before the next one is read,
so that what stands before a fault still happens.
-/
namespace SnippetLab.Shell.Grammar

open Parse (hold unexpected setChecks last)
open WordReader (Scripts)

/-! Tokens -/

def passComment : Nat → Parse Unit
  | 0 => return
  | fuel + 1 => do
    match ← Parse.next with
    | some '\n' => Parse.unread (some '\n')
    | some _ => passComment fuel
    | none => return

def doubled (c : Char) (single double : Token) : Parse Token := do
  let d ← Parse.joined
  if d = some c then return double
  Parse.unread d
  return single

def scan (scripts : Scripts) : Nat → Parse Token
  | 0 => return .eof
  | fuel + 1 => do
    match ← Parse.joined with
    | none => return .eof
    | some ' ' | some '\t' => scan scripts fuel
    | some '#' => do
      passComment Parse.fuel
      scan scripts fuel
    | some '\n' => do
      Parse.passLine
      return .newline
    | some '&' => doubled '&' .ampersand .and
    | some '|' => doubled '|' .pipe .or
    | some ';' => doubled ';' .semicolon .break
    | some '(' => return .open
    | some ')' => return .close
    | some c => WordReader.word scripts (some c)

def raw (scripts : Scripts) : Parse Token := do
  if (← get).isHeld then
    modify fun r => { r with isHeld := false }
    last
  else
    let t ← scan scripts Parse.fuel
    modify fun r => { r with last := t }
    return t

/-- Reads the documents that the current line asks for. -/
def readDocuments (scripts : Scripts) : Parse Unit := do
  let pending := (← get).pending
  modify fun r => { r with pending := [] }
  pending.forM fun d => do
    let w ← WordReader.document scripts d
    modify fun r => { r with documents := (d.number, w) :: r.documents }

def passNewlines (scripts : Scripts) : Nat → Token → Parse Token
  | fuel + 1, .newline => do
    readDocuments scripts
    passNewlines scripts fuel (← raw scripts)
  | _, t => return t

/-- An alias by that name, unless its own value is being read. -/
def alias? (r : Reading) (name : String) : Option String :=
  if r.pushed.any (·.name = name) || r.busy.contains name then none else r.aliases.lookup name

def tokenFor (scripts : Scripts) : Nat → Checks → Parse Token
  | 0, _ => return .eof
  | fuel + 1, wanted => do
    let t ← raw scripts
    let t ← if wanted.newlines then passNewlines scripts Parse.fuel t else pure t
    let r ← get
    let wanted : Checks := { wanted with
      keywords := wanted.keywords || r.checks.keywords, aliases := wanted.aliases || r.checks.aliases }
    modify fun r => { r with checks := {} }
    if t ≠ .word || r.isQuoted then return t
    match r.word.plain? with
    | none => return t
    | some text =>
      match if wanted.keywords then Keyword.ofText? text else none with
      | some k =>
        modify fun r => { r with last := .keyword k }
        return .keyword k
      | none =>
        match if wanted.aliases then alias? r text else none with
        | some value =>
          if !value.isEmpty then
            let endsInBlank := value.toList.getLast?.any fun c => c = ' ' || c = '\t'
            modify fun r => { r with pushed := ⟨value.toList, text, endsInBlank⟩ :: r.pushed }
          tokenFor scripts fuel wanted
        | none => return t

def token (scripts : Scripts) : Parse Token := do tokenFor scripts Parse.fuel (← get).checks

def atCommand : Checks := { keywords := true, aliases := true }

def afterBreak : Checks := { keywords := true, aliases := true, newlines := true }

def expect (scripts : Scripts) (t : Token) : Parse Unit := do
  if (← token scripts) ≠ t then unexpected t

/-! Redirections -/

def redirect (scripts : Scripts) : Parse Redirect := do
  match (← get).opening with
  | .file fd kind =>
    if (← token scripts) ≠ .word then unexpected
    return .file fd kind (← get).word
  | .document fd stripsTabs =>
    setChecks { endMark := true }
    if (← token scripts) ≠ .word then unexpected
    let r ← get
    let d : Pending := ⟨r.nextDocument, r.word.text, stripsTabs, !r.isQuoted⟩
    set { r with nextDocument := r.nextDocument + 1, pending := r.pending ++ [d] }
    return .document fd d.number

def redirects (scripts : Scripts) : Nat → List Redirect → Parse (List Redirect)
  | 0, done => return done.reverse
  | fuel + 1, done => do
    if (← token scripts) = .redirect then redirects scripts fuel ((← redirect scripts) :: done)
    else
      hold
      return done.reverse

/-! Commands -/

inductive Extent
  | line
  | body
  | optional
  deriving DecidableEq, Repr

def specials : List String :=
  [".", ":", "break", "continue", "eval", "exec", "exit", "export", "local", "readonly", "return", "set", "shift", "times",
   "trap", "unset"]

def words (scripts : Scripts) : Nat → List Word → Parse (List Word)
  | 0, done => return done.reverse
  | fuel + 1, done => do
    if (← token scripts) = .word then words scripts fuel ((← get).word :: done) else return done.reverse

def patterns (scripts : Scripts) : Nat → List Word → Parse (List Word)
  | 0, done => return done.reverse
  | fuel + 1, done => do
    let done := (← get).word :: done
    if (← token scripts) = .pipe then
      let _ ← token scripts
      patterns scripts fuel done
    else return done.reverse

structure Simple where
  line : Nat
  assignments : List Word := []
  words : List Word := []
  redirects : List Redirect := []

mutual

def scripts : Nat → Scripts
  | 0 => ⟨return none, return none⟩
  | fuel + 1 =>
    { inParentheses := do
        let body ← list fuel .optional none false
        expect (scripts fuel) .close
        readDocuments (scripts fuel)
        return body
      whole := do
        let body ← list fuel .optional none false
        readDocuments (scripts fuel)
        return body }

def list : Nat → Extent → Option Node → Bool → Parse (Option Node)
  | 0, _, done, _ => return done
  | fuel + 1, extent, done, started => do
    setChecks { afterBreak with newlines := extent ≠ .line }
    let t ← token (scripts fuel)
    if t = .newline then
      readDocuments (scripts fuel)
      return done
    else if t = .eof then
      readDocuments (scripts fuel)
      hold
      modify fun r => { r with last := .eof }
      return done
    else
      hold
      if (if extent = .body then started else extent = .optional) && t.endsBody then return done
      let n ← andOr fuel (← pipeline fuel)
      let t ← token (scripts fuel)
      let n := if t = .ampersand then inBackground n else n
      let done := some (match done with
        | none => n
        | some first => .sequence first n)
      match t with
      | .eof =>
        readDocuments (scripts fuel)
        hold
        modify fun r => { r with last := .eof }
        return done
      | .newline =>
        hold
        list fuel extent done true
      | .ampersand | .semicolon => list fuel extent done true
      | _ =>
        if extent = .line then unexpected
        hold
        return done
where
  inBackground : Node → Node
    | .pipe commands _ => .pipe commands true
    | .redirected line body redirects => .background line body redirects
    | n => .background 0 n []

def andOr : Nat → Node → Parse Node
  | 0, n => return n
  | fuel + 1, n => do
    match ← token (scripts fuel) with
    | .and => do
      setChecks afterBreak
      andOr fuel (.both n (← pipeline fuel))
    | .or => do
      setChecks afterBreak
      andOr fuel (.either n (← pipeline fuel))
    | _ => do
      hold
      return n

def pipeline : Nat → Parse Node
  | 0 => unexpected
  | fuel + 1 => do
    let negated := (← token (scripts fuel)) = .keyword .not
    if negated then setChecks atCommand else hold
    let first ← command fuel
    let n ← pipes fuel [first]
    return if negated then .negated n else n

def pipes : Nat → List Node → Parse Node
  | 0, _ => unexpected
  | fuel + 1, done => do
    if (← token (scripts fuel)) = .pipe then
      setChecks afterBreak
      pipes fuel ((← command fuel) :: done)
    else
      hold
      match done with
      | [n] => return n
      | _ => return .pipe done.reverse false

def body : Nat → Parse Node
  | 0 => unexpected
  | fuel + 1 => do
    match ← list fuel .body none false with
    | some n => return n
    | none => unexpected

def command : Nat → Parse Node
  | 0 => unexpected
  | fuel + 1 => do
    let line := (← get).line
    let finish (t : Token) (n : Node) : Parse Node := do
      expect (scripts fuel) t
      redirected fuel line n
    match ← token (scripts fuel) with
    | .keyword .if => do finish (.keyword .fi) (← branch fuel)
    | .keyword .while => do
      let test ← body fuel
      expect (scripts fuel) (.keyword .do)
      finish (.keyword .done) (.loop false test (← body fuel))
    | .keyword .until => do
      let test ← body fuel
      expect (scripts fuel) (.keyword .do)
      finish (.keyword .done) (.loop true test (← body fuel))
    | .keyword .for => do
      let t ← token (scripts fuel)
      let r ← get
      let name := r.word.plain?.getD ""
      if t ≠ .word || r.isQuoted || !isName name then Parse.fault "Bad for loop variable"
      setChecks afterBreak
      let items ← if (← token (scripts fuel)) = .keyword .in then do
          let items ← words (scripts fuel) Parse.fuel []
          let t ← last
          if t ≠ .newline && t ≠ .semicolon then unexpected
          pure items
        else do
          if (← last) ≠ .semicolon then hold
          pure [[.quotes, .parameter "@" .none false [], .quotes]]
      setChecks afterBreak
      expect (scripts fuel) (.keyword .do)
      finish (.keyword .done) (.each line name items (← body fuel))
    | .keyword .case => do
      expect (scripts fuel) .word
      let subject := (← get).word
      setChecks afterBreak
      expect (scripts fuel) (.keyword .in)
      redirected fuel line (.choice line subject (← cases fuel []))
    | .open => do finish .close (.subshell line (← body fuel) [])
    | .keyword .begin => do finish (.keyword .end) (← body fuel)
    | .word | .redirect => do
      hold
      simple fuel { line := (← get).line } true
    | _ => unexpected

def branch : Nat → Parse Node
  | 0 => unexpected
  | fuel + 1 => do
    let test ← body fuel
    expect (scripts fuel) (.keyword .then)
    let yes ← body fuel
    match ← token (scripts fuel) with
    | .keyword .elif => return .branch test yes (some (← branch fuel))
    | .keyword .else => return .branch test yes (some (← body fuel))
    | _ => do
      hold
      return .branch test yes none

def cases : Nat → List (List Word × Option Node) → Parse (List (List Word × Option Node))
  | 0, done => return done.reverse
  | fuel + 1, done => do
    setChecks { keywords := true, newlines := true }
    let t ← token (scripts fuel)
    if t = .keyword .esac then return done.reverse
    if t = .open then
      let _ ← token (scripts fuel)
    let ps ← patterns (scripts fuel) Parse.fuel []
    if (← last) ≠ .close then unexpected (some .close)
    let done := (ps, ← list fuel .optional none false) :: done
    setChecks { keywords := true, newlines := true }
    let t ← token (scripts fuel)
    if t = .keyword .esac then return done.reverse
    if t ≠ .break then unexpected (some .break)
    cases fuel done

def redirected : Nat → Nat → Node → Parse Node
  | 0, _, n => return n
  | fuel + 1, line, n => do
    setChecks atCommand
    match ← redirects (scripts fuel) Parse.fuel [], n with
    | [], n => return n
    | rs, .subshell line body _ => return .subshell line body rs
    | rs, n => return .redirected line n rs

def simple : Nat → Simple → (mayAssign : Bool) → Parse Node
  | 0, _, _ => unexpected
  | fuel + 1, s, mayAssign => do
    setChecks { aliases := mayAssign }
    let t ← token (scripts fuel)
    match t with
    | .word =>
      let w := (← get).word
      if mayAssign && w.isAssignment then simple fuel { s with assignments := w :: s.assignments } true
      else simple fuel { s with words := w :: s.words } false
    | .redirect => do
      let r ← redirect (scripts fuel)
      simple fuel { s with redirects := r :: s.redirects } mayAssign
    | .open =>
      match s.words, s.assignments, s.redirects with
      | [w], [], [] =>
        expect (scripts fuel) .close
        let name := w.plain?.getD ""
        if !isName name || specials.contains name then Parse.fault "Bad function name"
        setChecks afterBreak
        let line := (← get).line
        return .define line name (← command fuel)
      | _, _, _ => finish s
    | _ => finish s
where
  finish (s : Simple) : Parse Node := do
    hold
    return .simple s.line s.assignments.reverse s.words.reverse s.redirects.reverse

end

inductive Line
  | ended
  | commands (node : Option Node) (isLast : Bool)

def line : Parse Line := do
  modify fun r => { r with isHeld := false, checks := {}, pending := [] }
  let node ← list Parse.fuel .line none false
  let r ← get
  let isLast := r.isHeld && r.last = .eof
  return match node with
    | none => if isLast then .ended else .commands none false
    | node => .commands node isLast

def quotedText : Parse Word := do
  modify fun r => { r with isHeld := false, checks := {}, pending := [] }
  WordReader.text (scripts Parse.fuel)

end SnippetLab.Shell.Grammar
