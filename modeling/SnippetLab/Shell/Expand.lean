import SnippetLab.Shell.Action
import SnippetLab.Shell.Arithmetic
import SnippetLab.Shell.Field

/-! What words stand for: parameters, the output of commands, expressions, home directories, and file names. -/
namespace SnippetLab.Shell.Expand

open SnippetLab.Machine SnippetLab.Text

structure Mode where
  isFull : Bool := false
  tilde : Bool := false
  assigns : Bool := false
  afterSign : Bool := false
  isWord : Bool := false
  isQuoted : Bool := false
  deriving DecidableEq, Repr

def report (name reason : String) : Action α := Action.fail (name ++ ": " ++ reason)

/-! Values of parameters -/

inductive Value
  | missing
  | text (s : String)
  | all (ss : List String) (separator : Option Char)
  | joined (ss : List String)

def optionText (s : State) : String :=
  String.ofList (("efIimnsxvVECabu".toList.reverse).filter s.hasOption)

def parameters (s : State) (m : Mode) (isList : Bool) : Value :=
  if m.isFull && !(m.isQuoted && !isList) then .all s.parameters none
  else match s.separators.toList with
    | c :: _ => .all s.parameters (some c)
    | [] => .joined s.parameters

def valueOf (s : State) (m : Mode) (name : String) : Value :=
  match name with
  | "$" => .text (toString s.rootPid)
  | "?" => .text (toString s.status)
  | "#" => .text (toString s.parameters.length)
  | "!" => s.lastBackground.elim .missing fun p => .text (toString p)
  | "-" => .text (optionText s)
  | "@" => parameters s m true
  | "*" => parameters s m false
  | _ =>
    match name.toNat? with
    | some n => (s.parameter? n).elim .missing .text
    | none => (s.value? name).elim .missing .text

namespace Value

def between (gap : List Glyph) : List (List Glyph) → List Glyph
  | [] => []
  | [g] => g
  | g :: gs => g ++ gap ++ between gap gs

def glyphs (quoted : Bool) (v : Value) : List Glyph :=
  let text (s : String) : List Glyph := (s.toList.filter (· ≠ '\x00')).map fun c => .char c quoted
  match v with
  | missing => []
  | .text s => text s
  | all ss none => between [.gap] (ss.map text)
  | all ss (some c) => between [.char c quoted] (ss.map text)
  | joined ss => (ss.map text).flatten

def isThere : Value → Bool
  | missing => false
  | _ => true

def isFilled : Value → Bool
  | missing => false
  | .text s => !s.isEmpty
  | all ss _ => 1 < ss.length || ss.any fun s => !s.isEmpty
  | joined ss => ss.any fun s => !s.isEmpty

end Value

/-! Patterns at the ends of values -/

def trimmed (atEnd long : Bool) (pattern : List Char) (value : List Glyph) : List Glyph :=
  let sizes := List.range (value.length + 1)
  let taken (n : Nat) : Bool :=
    let part := if atEnd then value.drop (value.length - n) else value.take n
    Pattern.accepts pattern (Glyph.text (Glyph.beforeGap part))
  match (if long then sizes.reverse else sizes).find? taken with
  | some n => if atEnd then value.take (value.length - n) else value.drop n
  | none => value

/-! Tildes -/

def isPlainTilde : List Piece → Bool
  | .char '~' false :: _ => true
  | _ => false

def tildeName (assigns : Bool) : List Piece → Option (List Char × List Piece)
  | .char '/' q :: ps => if q then none else some ([], .char '/' q :: ps)
  | .char ':' false :: ps =>
    if assigns then some ([], .char ':' false :: ps)
    else (tildeName assigns ps).map fun (cs, rest) => (':' :: cs, rest)
  | .char c false :: ps => (tildeName assigns ps).map fun (cs, rest) => (c :: cs, rest)
  | [] => some ([], [])
  | _ => none

def homes : List (String × String) :=
  [("root", "/root"), ("daemon", "/usr/sbin"), ("bin", "/bin"), ("sys", "/dev"), ("nobody", "/nonexistent")]

def home? (s : State) (assigns : Bool) (ps : List Piece) : Option (String × List Piece) :=
  match tildeName assigns (ps.drop 1) with
  | none => none
  | some (name, rest) =>
    let home := if name.isEmpty then s.value? "HOME" else homes.lookup (String.ofList name)
    match home with
    | some home => if home.isEmpty then none else some (home, rest)
    | none => none

/-! Commands -/

def capture (i : Interpreter) (startChild : Action Unit) (script : Option Node) : Action (List Char) := do
  match script with
  | none => return []
  | some node =>
    let (r, w) ← Action.routine (Routine.lift fun pid k => let (r, w, k) := k.makePipe pid; ((r, w), k))
    let _ ← Action.flush
    let child ← Action.fork (i.whole do
      startChild
      Routine.close r
      if w ≠ 1 then
        Action.routine (Routine.change fun pid k => (k.duplicate pid w 1).toOption.getD k)
        Routine.close w
      let _ ← i.run node { isLast := true })
    Routine.close w
    let text ← readToEnd r []
    Routine.close r
    let status ← Routine.waitFor child
    let code ← match status with
      | .code n => pure n
      | .signal n => do
        match Signal.notice? n with
        | some text => Action.routine (Routine.complain (text ++ "\n"))
        | none => pure ()
        pure (Signal.status n)
    modify fun s => { s with substitutionStatus := code }
    return (text.reverse.dropWhile (· = '\n')).reverse.filter (· ≠ '\x00')
where
  readToEnd (fd : Nat) (chunks : List (List Char)) : Action (List Char) := do
    let chunks : List (List Char) ← Action.iterate [] (fun (chunks : List (List Char)) => do
      match ← Routine.read fd Routine.chunkSize with
      | .ok [] => return .inr chunks
      | .ok cs => return .inl (cs :: chunks)
      | .error .interrupted => return .inl chunks
      | .error _ => return .inr chunks) Routine.rounds chunks
    return chunks.reverse.flatten

/-! Words -/

structure Inner where
  interpreter : Interpreter
  startChild : Action Unit
  pieces : Mode → List Piece → Expansion → Action Expansion

namespace Inner

def text (i : Inner) (m : Mode) (ps : List Piece) : Action (List Char) := do
  return Glyph.text (← i.pieces m ps {}).glyphs.reverse

def arithmetic (i : Inner) (m : Mode) (ps : List Piece) (e : Expansion) : Action Expansion := do
  let expression ← i.text {} ps
  let s ← get
  match Arithmetic.eval (fun name => Arithmetic.valueOf ((s.value? name).getD "")) expression with
  | .error .overflow => do
    Routine.change fun pid k => k.raise pid 8
    return e
  | .error f => Action.fail (f.message (String.ofList expression))
  | .ok (n, assigned) =>
    assigned.reverse.forM fun (name, n) => Action.setVariable name (toString n)
    let e' := e.putAll ((toString n).toList.map fun c => .char c false)
    return if m.isQuoted then e' else e'.record e.size false

def unset (name : String) (change : Change) (emptyIsMissing : Bool) (message : Option (List Char)) : Action α :=
  match message with
  | some cs => report name (String.ofList cs)
  | none => report name ("parameter not set" ++ if change = .demand && emptyIsMissing then " or null" else "")

def recorded (s : State) (m : Mode) (name : String) (start : Nat) (e : Expansion) : Expansion :=
  if m.isQuoted then
    if name = "@" && m.isFull && !s.parameters.isEmpty then e.record start true else e
  else e.record start false

def parameter (i : Inner) (m : Mode) (name : String) (change : Change) (emptyIsMissing : Bool) (word : List Piece)
    (e : Expansion) : Action Expansion := do
  let s ← get
  if change = .bad then Action.fail "Bad substitution"
  let value := valueOf s m name
  let isThere := if emptyIsMissing then value.isFilled else value.isThere
  let put (e : Expansion) : Expansion := recorded s m name e.size (e.putAll (value.glyphs m.isQuoted))
  let inWord : Mode := { m with tilde := true, isWord := true }
  let demanded : Action Unit := if !value.isThere && s.hasOption 'u' && name ≠ "@" && name ≠ "*" then
      unset name change emptyIsMissing none
    else pure ()
  match change with
  | .default => if isThere then return put e else i.pieces inWord word e
  | .alternative => if isThere then i.pieces inWord word e else return recorded s m name e.size e
  | .assign =>
    if isThere then return put e
    let text ← i.text { tilde := true, isQuoted := m.isQuoted } word
    if !isName name then Action.fail (name ++ ": bad variable name")
    Action.setVariable name (String.ofList text)
    let s ← get
    return recorded s m name e.size (e.putAll ((valueOf s m name).glyphs m.isQuoted))
  | .demand =>
    if isThere then return put e
    if word.isEmpty then unset name change emptyIsMissing none
    unset name change emptyIsMissing (some (← i.text { tilde := true, isQuoted := m.isQuoted } word))
  | .length =>
    demanded
    let size := (value.glyphs false).length
    return recorded s m name e.size (e.putAll ((toString size).toList.map fun c => .char c false))
  | .trim atEnd long =>
    demanded
    if !value.isThere then return e
    let pattern := Glyph.pattern (← i.pieces { tilde := true } word {}).glyphs.reverse
    return recorded s m name e.size (e.putAll (trimmed atEnd long pattern (value.glyphs m.isQuoted)))
  | _ =>
    demanded
    return put e

/-- One part of a word after another; the fuel bounds their number. Stretches of plain text in the word of a
parameter are split. -/
def go (i : Inner) : Nat → Mode → (inQuotes : Bool) → List Piece → Expansion → Action Expansion
  | 0, _, _, _, e | _, _, _, [], e => return e
  | fuel + 1, m, inQuotes, .char c quoted :: ps, e => do
    let e' := e.put (.char c (quoted || inQuotes || m.isQuoted))
    let splits := m.isWord && !m.isQuoted && !inQuotes && !quoted
    let e' := if splits then extended e e' else e'
    let isSign := !quoted && m.assigns && ((c = '=' && !m.afterSign) || c = ':')
    let m := if c = '=' && isSign then { m with afterSign := true } else m
    if isSign && isPlainTilde ps then
      match home? (← get) m.assigns ps with
      | some (home, rest) => go i fuel m inQuotes rest (e'.putAll (home.toList.map fun c => .char c true))
      | none => go i fuel m inQuotes ps e'
    else go i fuel m inQuotes ps e'
  | fuel + 1, m, false, .quotes :: .parameter "@" .none false [] :: .quotes :: ps, e => do
    let e ← i.parameter { m with isQuoted := true } "@" .none false [] e
    go i fuel m false ps e
  | fuel + 1, m, inQuotes, .quotes :: ps, e => go i fuel m (!inQuotes) ps (e.put .quotes)
  | fuel + 1, m, inQuotes, .parameter name change emptyIsMissing word :: ps, e => do
    let e ← i.parameter { m with isQuoted := m.isQuoted || inQuotes } name change emptyIsMissing word e
    go i fuel m inQuotes ps e
  | fuel + 1, m, inQuotes, .command script :: ps, e => do
    let text ← capture i.interpreter i.startChild script
    let isQuoted := m.isQuoted || inQuotes
    let e' := e.putAll (text.map fun c => .char c isQuoted)
    go i fuel m inQuotes ps (if isQuoted then e' else e'.record e.size false)
  | fuel + 1, m, inQuotes, .arithmetic expression :: ps, e => do
    let e ← i.arithmetic { m with isQuoted := m.isQuoted || inQuotes } expression e
    go i fuel m inQuotes ps e
where
  extended (before after : Expansion) : Expansion :=
    match before.regions with
    | ⟨start, stop, false⟩ :: regions =>
      if stop = before.size && start < stop then { after with regions := ⟨start, after.size, false⟩ :: regions }
      else after.record before.size false
    | _ => after.record before.size false

def start (i : Inner) (m : Mode) (ps : List Piece) (e : Expansion) : Action Expansion := do
  let size := ps.length + 1
  let rest : Mode := { m with tilde := false }
  if m.tilde && isPlainTilde ps then
    match home? (← get) m.assigns ps with
    | some (home, ps) => i.go size rest false ps (e.putAll (home.toList.map fun c => .char c true))
    | none => i.go size rest false ps e
  else i.go size rest false ps e

end Inner

/-- Expands parts of words that stand within at most so many others. -/
def inner (i : Interpreter) (startChild : Action Unit) : (depth : Nat) → Inner
  | 0 => ⟨i, startChild, fun _ _ e => return e⟩
  | depth + 1 => ⟨i, startChild, fun m ps e => (inner i startChild depth).start m ps e⟩

end SnippetLab.Shell.Expand
