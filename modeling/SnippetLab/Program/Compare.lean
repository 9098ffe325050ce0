import SnippetLab.Program.Amount
import SnippetLab.Program.Console

/-! Where two files differ. -/
namespace SnippetLab.Program.Cmp

open SnippetLab.Machine SnippetLab.Text

def usage (i : Invocation) (text : String) : Routine α := do
  complain i text
  complain i ("Try '" ++ i.name ++ " --help' for more information.")
  Routine.exitCode 2

def switches : List Switch :=
  Switch.letters "bi:ln:s" ++ Switch.words [("b", "print-bytes"), ("i", "ignore-initial="), ("l", "verbose"),
    ("n", "bytes="), ("s", "quiet"), ("s", "silent")]

structure Reached where
  octets : Nat := 0
  lines : Nat := 0
  atStart : Bool := true

structure Source where
  path : String
  descriptor : Nat
  ready : List Char := []

inductive Step
  | same (r : Reached) (as bs : List Char)
  | differ (r : Reached) (a b : Char) (as bs : List Char)

def step (r : Reached) : List Char → List Char → Step
  | a :: as, b :: bs =>
    if a = b then
      step { octets := r.octets + 1, lines := r.lines + if a = '\n' then 1 else 0, atStart := a = '\n' } as bs
    else .differ r a b as bs
  | as, bs => .same r as bs

def shown (c : Char) : String :=
  let (front, c) := if 128 ≤ c.toNat then ("M-", Char.ofNat (c.toNat - 128)) else ("", c)
  if c.toNat < 32 then front ++ "^" ++ String.singleton (Char.ofNat (c.toNat + 64))
  else if c.toNat = 127 then front ++ "^?"
  else front ++ String.singleton c

def octal (c : Char) : String := padStart 3 (String.ofList (Nat.toDigits 8 c.toNat))

structure Wish where
  silent : Bool
  all : Bool
  octets : Bool
  limit : Option Nat
  width : Nat := 1

def line (w : Wish) (s t : Source) (r : Reached) (a b : Char) : String :=
  if w.all then
    padStart w.width (toString (r.octets + 1)) ++ " " ++ octal a ++ " " ++
      (if w.octets then padEnd 4 (shown a) ++ " " else "")
      ++ octal b ++ (if w.octets then " " ++ shown b else "") ++ "\n"
  else
    s.path ++ " " ++ t.path ++ (if w.octets then " differ: byte " else " differ: char ") ++ toString (r.octets + 1) ++ ", line " ++ toString (r.lines + 1)
      ++ (if w.octets then " is " ++ octal a ++ " " ++ shown a ++ " " ++ octal b ++ " " ++ shown b else "") ++ "\n"

def shorter (i : Invocation) (w : Wish) (path : String) (r : Reached) : Routine Unit :=
  if r.octets = 0 then complain i ("EOF on " ++ path ++ " which is empty")
  else
    let place := if w.all then "" else if r.atStart then ", line " ++ toString r.lines else ", in line " ++ toString (r.lines + 1)
    complain i ("EOF on " ++ path ++ " after byte " ++ toString r.octets ++ place)

def fill (i : Invocation) (s : Source) : Routine Source := do
  if s.ready.isEmpty then
    match ← Routine.read s.descriptor Routine.chunkSize with
    | .ok cs => return { s with ready := cs }
    | .error e => die i (s.path ++ ": " ++ e.text) 2
  else return s

structure State where
  first : Source
  second : Source
  reached : Reached := {}
  differs : Bool := false

def round (i : Invocation) (w : Wish) (s : State) : Routine (State ⊕ Nat) := do
  let answer (differs : Bool) : Routine (State ⊕ Nat) := return .inr (if differs then 1 else 0)
  if w.limit.any (· ≤ s.reached.octets) then return ← answer s.differs
  let a ← fill i s.first
  let b ← fill i s.second
  if a.ready.isEmpty && b.ready.isEmpty then return ← answer s.differs
  if a.ready.isEmpty || b.ready.isEmpty then
    if !w.silent then shorter i w (if a.ready.isEmpty then a.path else b.path) s.reached
    return ← answer true
  let left := w.limit.elim a.ready.length (· - s.reached.octets)
  match step s.reached (a.ready.take left) (b.ready.take left) with
  | .same r _ _ =>
    let n := r.octets - s.reached.octets
    return .inl { s with
      first := { a with ready := a.ready.drop n }, second := { b with ready := b.ready.drop n }, reached := r }
  | .differ r x y _ _ =>
    if w.silent then return ← answer true
    put i (line w a b r x y).toList 2
    if !w.all then return ← answer true
    let n := r.octets - s.reached.octets + 1
    let r : Reached := { octets := r.octets + 1, lines := r.lines + if x = '\n' then 1 else 0, atStart := x = '\n' }
    return .inl {
      first := { a with ready := a.ready.drop n }, second := { b with ready := b.ready.drop n }, reached := r,
      differs := true }

def skip (i : Invocation) (count : Nat) (s : Source) : Routine Source :=
  Routine.iterate s (fun (s, left) => do
    if left = 0 then return .inr s
    let s ← fill i s
    if s.ready.isEmpty then return .inr s
    let n := min left s.ready.length
    return .inl ({ s with ready := s.ready.drop n }, left - n)) Routine.rounds (s, count)

def amount (i : Invocation) (option text : String) : Routine Nat := do
  match Amount.read "kKMGTPEZY" text with
  | .exact n => return n
  | _ => usage i ("invalid " ++ option ++ " value '" ++ text ++ "'")

def skips (i : Invocation) (c : Chosen) : Routine (Nat × Nat) := do
  let (a, b) ← match c.last? "i" with
    | none => pure (0, 0)
    | some v => do
      match v.splitOn ":" with
      | [a, b] => pure (← amount i "--ignore-initial" a, ← amount i "--ignore-initial" b)
      | _ => do
        let n ← amount i "--ignore-initial" v
        pure (n, n)
  match c.operands.drop 2 with
  | [] => return (a, b)
  | [x] => return (max a (← amount i "--ignore-initial" x), b)
  | x :: y :: _ => return (max a (← amount i "--ignore-initial" x), max b (← amount i "--ignore-initial" y))

def source (i : Invocation) (silent : Bool) (path : String) : Routine (Source × Option FileInfo) := do
  match ← openInput path with
  | .error e =>
    if silent then Routine.exitCode 2
    die i (path ++ ": " ++ e.text) 2
  | .ok fd =>
    let info ← Routine.query fun pid k => (k.openFile? pid fd).map fun f => k.infoOfStream f.stream
    return ({ path, descriptor := fd }, info)

def program : Program := fun i => do
  let c ← match Options.read switches i.arguments (Environment.get? i.environment "POSIXLY_CORRECT").isSome with
    | .ok c => pure c
    | .error e => usage i e
  let limit ← match c.last? "n" with
    | none => pure none
    | some v => do pure (some (← amount i "--bytes" v))
  if c.has "l" && c.has "s" then usage i "options -l and -s are incompatible"
  match c.operands with
  | [] => usage i ("missing operand after '" ++ i.name ++ "'")
  | _ => pure ()
  let (a, b) ← skips i c
  match c.operands.drop 4 with
  | x :: _ => usage i ("extra operand '" ++ x ++ "'")
  | [] => pure ()
  let silent := c.has "s"
  let (s, sInfo) ← source i silent (c.operands.headD "-")
  let (t, tInfo) ← source i silent ((c.operands.drop 1).headD "-")
  let known := [(sInfo, a), (tInfo, b)].filterMap fun (info, skipped) =>
    info.bind fun info => match info.node with
      | .file _ _ => some (info.size - skipped)
      | _ => none
  let same ← Routine.query fun _ k => match sInfo, tInfo with
    | some x, some y => x.place.isSome && k.isSame x y
    | _, _ => false
  if same && a = b then return 0
  if silent && limit.isNone && known.length = 2 && known.head? ≠ known.getLast? then return 1
  let width := ((known ++ limit.toList).min?.elim 19 fun n => (toString n).length)
  let s ← skip i a s
  let t ← skip i b t
  let w : Wish := { silent, all := c.has "l", octets := c.has "b", limit, width }
  Routine.iterate 2 (round i w) Routine.rounds { first := s, second := t }

end SnippetLab.Program.Cmp
