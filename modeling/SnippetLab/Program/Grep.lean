import SnippetLab.Program.Amount
import SnippetLab.Program.Console
import SnippetLab.Shell.Pattern
import SnippetLab.Regex.Reader
import SnippetLab.Regex.Search

/-! Searching the lines of files for patterns. -/
namespace SnippetLab.Program.Grep

open SnippetLab.Machine

structure Search where
  patterns : List Regex.Pattern
  byWords : Bool := false
  byLines : Bool := false
  inverted : Bool := false

namespace Search

def isWordFree (s : Regex.Subject) (i j : Nat) : Bool :=
  !(0 < i && s.isWordAt (i - 1)) && !s.isWordAt j

def stopAt? (q : Search) (s : Regex.Subject) (i : Nat) (p : Regex.Pattern) : Option Nat :=
  let fits (j : Nat) : Bool :=
    (!q.byLines || (i = 0 && j = s.size)) && (!q.byWords || q.byLines || isWordFree s i j)
  let stops : List Nat := if p.hasBack then (Regex.ways s true p.folds p.regex (i, [])).map (·.1)
    else
      let ends := (Regex.Plan.ofRegex s p.regex).advance s.size (Regex.Places.single i)
      (List.range (s.size + 1)).filter ends.testBit
  (stops.filter fits).max?

def first? (q : Search) (s : Regex.Subject) (start : Nat) : Option (Nat × Nat) :=
  if !q.byWords && !q.byLines then
    let found := q.patterns.filterMap fun p => (p.search s start).map fun c => (c.start, c.stop)
    found.foldl (fun best m => match best with
      | none => some m
      | some b => if m.1 < b.1 || (m.1 = b.1 && b.2 < m.2) then some m else some b) none
  else
    let candidates := q.patterns.filter fun p => (p.search s start).isSome
    if candidates.isEmpty then none
    else ((List.range (s.size + 1 - start)).map (· + start)).findSome? fun i =>
      ((candidates.filterMap (q.stopAt? s i)).max?).map (i, ·)

def isFound (q : Search) (line : List Char) : Bool :=
  let line := Text.Wide.ofOctets line
  if !q.byWords && !q.byLines then q.patterns.any (·.isFound line)
  else (q.first? { text := line.toArray } 0).isSome

def selects (q : Search) (line : List Char) : Bool := q.isFound line != q.inverted

def matchesFrom (q : Search) (s : Regex.Subject) : (fuel : Nat) → (start : Nat) → List (Nat × Nat)
  | 0, _ => []
  | fuel + 1, start =>
    match q.first? s start with
    | none => []
    | some (i, j) => if i = j then matchesFrom q s fuel (i + 1) else (i, j) :: matchesFrom q s fuel j

end Search

structure Style where
  search : Search
  counts : Bool := false
  names : Option Bool := none
  quiet : Bool := false
  silent : Bool := false
  numbers : Bool := false
  offsets : Bool := false
  parts : Bool := false
  named : Bool := false
  limit : Option Nat := none
  before : Nat := 0
  after : Nat := 0
  hasContext : Bool := false
  isText : Bool := false
  mark : Char := '\n'
  label : String := "(standard input)"

structure Progress where
  number : Nat := 0
  offset : Nat := 0
  selected : Nat := 0
  /-- Lines that may be shown before the next one that is selected, last first. -/
  earlier : List (Nat × Nat × List Char) := []
  left : Nat := 0
  shown : Option Nat := none
  out : List (List Char) := []
  isBinary : Bool := false

namespace Style

def label? (y : Style) (path : String) (sign : Char) : List Char :=
  if y.named then path.toList ++ [sign] else []

def heads (y : Style) (path : String) (sign : Char) (number offset : Nat) : List Char :=
  y.label? path sign ++ (if y.numbers then (toString number).toList ++ [sign] else [])
    ++ if y.offsets then (toString offset).toList ++ [sign] else []

def isBrief (y : Style) : Bool := y.counts || y.quiet || y.names.isSome

def line (y : Style) (path : String) (sign : Char) (number offset : Nat) (cs : List Char) : List Char :=
  y.heads path sign number offset ++ cs ++ [y.mark]

def partLines (y : Style) (path : String) (number offset : Nat) (cs : List Char) : List Char :=
  if y.search.inverted then []
  else
    let s : Regex.Subject := { text := (Text.Wide.ofOctets cs).toArray }
    (y.search.matchesFrom s (s.size + 2) 0).flatMap fun (i, j) =>
      let start := (Text.Wide.toOctets (s.slice 0 i)).length
      y.heads path ':' number (offset + start) ++ Text.Wide.toOctets (s.slice i j) ++ [y.mark]

def gap (y : Style) (p : Progress) (number : Nat) : List Char :=
  match p.shown with
  | some last => if y.hasContext && last + 1 < number then "--\n".toList else []
  | none => []

def step (y : Style) (path : String) (p : Progress) (cs : List Char) : Progress :=
  let number := p.number + 1
  let offset := p.offset
  let p := { p with number, offset := offset + cs.length + 1 }
  if y.limit.any (· ≤ p.selected) then
    if 0 < p.left && !y.isBrief then
      { p with
        left := p.left - 1, shown := some number
        out := (if y.parts then [] else y.line path '-' number offset cs) :: p.out }
    else p
  else if y.search.selects cs then
    let p := { p with selected := p.selected + 1 }
    if y.isBrief then p
    else
      let earlier := p.earlier.reverse
      let start := (earlier.head?.map (·.1)).getD number
      let context := earlier.flatMap fun (n, o, l) => y.line path '-' n o l
      let shown := if y.parts then y.partLines path number offset cs else y.line path ':' number offset cs
      { p with
        earlier := [], left := y.after, shown := some number
        out := (y.gap p start ++ (if y.parts then [] else context) ++ shown) :: p.out }
  else if 0 < p.left && !y.isBrief then
    { p with
      left := p.left - 1, shown := some number
      out := (if y.parts then [] else y.line path '-' number offset cs) :: p.out }
  else if 0 < y.before then { p with earlier := ((number, offset, cs) :: p.earlier).take y.before }
  else p

def isDone (y : Style) (p : Progress) : Bool :=
  ((y.quiet || y.names.isSome) && 0 < p.selected) || (y.limit.any (· ≤ p.selected) && p.left = 0)

def steps (y : Style) (path : String) (p : Progress) : List (List Char) → Progress
  | [] => p
  | l :: ls => if y.isDone p then p else steps y path (y.step path p l) ls

end Style

def binaryNotice (i : Invocation) (path : String) : Routine Unit :=
  Routine.complain (i.name ++ ": " ++ path ++ ": binary file matches\n")

def searchFile (i : Invocation) (y : Style) (path : String) (fd : Nat) : Routine (Except SystemError Nat) := do
  let flush (p : Progress) : Routine Progress := do
    if p.isBinary && !p.out.isEmpty then return { p with out := [p.out.getLast?.getD []] }
    put i p.out.reverse.flatten 2
    return { p with out := [] }
  let result : Option SystemError × Progress × List Char ← Routine.iterate (none, {}, [])
    (fun (s : Progress × List Char) => do
      let (p, rest) := s
      if y.isDone p then return .inr (none, p, [])
      match ← Routine.read fd Routine.chunkSize with
      | .error e => return .inr (some e, p, rest)
      | .ok [] => return .inr (none, p, rest)
      | .ok cs => do
        let strange := cs.contains '\x00' || (Text.Wide.ofOctets cs).any Text.Wide.isStray
        let p := { p with isBinary := p.isBinary || (!y.isText && y.mark = '\n' && strange) }
        let (lines, rest) := splitLines y.mark (rest ++ cs)
        let p ← flush (y.steps path p lines)
        return .inl (p, rest)) Routine.rounds (({} : Progress), ([] : List Char))
  match result with
  | (some e, _, _) => return .error e
  | (none, p, rest) => do
    let p ← flush (if rest.isEmpty then p else y.steps path p [rest])
    if p.isBinary && !p.out.isEmpty then binaryNotice i path
    if y.counts then put i (y.label? path ':' ++ (toString p.selected).toList ++ ['\n']) 2
    match y.names with
    | some wanted => if (0 < p.selected) = wanted then put i (path.toList ++ ['\n']) 2
    | none => pure ()
    return .ok p.selected

/-! Patterns -/

def basic : Regex.Dialect := { byLines := true }

def readPattern (i : Invocation) (kind : Char) (folds : Bool) (cs : List Char) : Routine Regex.Pattern := do
  let cs := Text.Wide.ofOctets cs
  if kind = 'F' then return { regex := Regex.literal folds cs, folds }
  match Regex.read { basic with extended := kind = 'E' || kind = 'P', folds, modern := kind = 'P' } cs with
  | .error e => die i e.message 2
  | .ok (regex, strays) => do
    Routine.forEach strays fun s => complain i ("warning: " ++ s ++ " at start of expression")
    return { regex, folds }

def readPatterns (i : Invocation) (kind : Char) (folds : Bool) : List (List Char) → Routine (List Regex.Pattern)
  | [] => return []
  | cs :: rest => do
    let p ← readPattern i kind folds cs
    return p :: (← readPatterns i kind folds rest)

def texts (i : Invocation) : List (String × String) → Routine (List (List Char))
  | [] => return []
  | (key, value) :: rest => do
    let here ← if key = "e" then pure (value.toList.splitOn '\n')
      else match ← content value with
        | .ok cs => pure (linesOf cs)
        | .error e => do
          complainOf i value e
          Routine.exitCode 2
    return here ++ (← texts i rest)

/-! Files -/

def filesUnder (k : Kernel) (wanted : String → Bool) (path : String) (p : Place) : Nat → List String
  | 0 => []
  | fuel + 1 =>
    let names := (k.tree.children p).mergeSort fun a b => decide (a ≤ b)
    names.flatMap fun name =>
      let sub := Path.join path name
      match k.tree.node? (p ++ [name]) with
      | some .directory => filesUnder k wanted sub (p ++ [name]) fuel
      | some (.file _ _) => if wanted name then [sub] else []
      | _ => []

def spread (wanted : String → Bool) (paths : List String) : Routine (List String) :=
  Routine.query fun pid k => paths.flatMap fun path =>
    match k.info pid true path with
    | .ok { place := some p, node := .directory, .. } => filesUnder k wanted path p 1000
    | _ => [path]

def usage (i : Invocation) : Routine α := do
  Routine.complain ("Usage: " ++ i.name ++ " [OPTION]... PATTERNS [FILE]...\nTry '" ++ i.name
    ++ " --help' for more information.\n")
  Routine.exitCode 2

def switches : List Switch :=
  Switch.letters "EFGPe:f:iyvwxcLlqsnbHhom:A:B:C:razUTZRId:D:" ++ Switch.words [("E", "extended-regexp"),
    ("F", "fixed-strings"), ("G", "basic-regexp"), ("P", "perl-regexp"), ("e", "regexp="), ("f", "file="),
    ("i", "ignore-case"), ("v", "invert-match"), ("w", "word-regexp"), ("x", "line-regexp"), ("c", "count"),
    ("L", "files-without-match"), ("l", "files-with-matches"), ("q", "quiet"), ("q", "silent"),
    ("s", "no-messages"), ("n", "line-number"), ("b", "byte-offset"), ("H", "with-filename"), ("h", "no-filename"),
    ("o", "only-matching"), ("m", "max-count="), ("A", "after-context="), ("B", "before-context="),
    ("C", "context="), ("r", "recursive"), ("R", "dereference-recursive"), ("a", "text"), ("z", "null-data"),
    ("color", "color?"), ("color", "colour?"), ("buffer", "line-buffered"), ("include", "include="),
    ("exclude", "exclude="), ("label", "label="), ("no-ignore", "no-ignore-case")]

def withContext (arguments : List String) : List String :=
  arguments.map fun a =>
    match a.toList with
    | '-' :: d :: ds => if d.isDigit && ds.all Char.isDigit then "--context=" ++ String.ofList (d :: ds) else a
    | _ => a

def contextLength (i : Invocation) (c : Chosen) (keys : List String) : Routine Nat := do
  match c.given.reverse.find? fun g => keys.contains g.1 with
  | none => return 0
  | some (_, text) =>
    match Amount.read "" text with
    | .exact n => return n
    | .tooLarge => return Amount.limit
    | .malformed => die i (text ++ ": invalid context length argument") 2

def style (i : Invocation) (c : Chosen) (kind : Char) (patterns : List (List Char)) : Routine Style := do
  let before ← contextLength i c ["B", "C"]
  let after ← contextLength i c ["A", "C"]
  let limit ← match c.last? "m" with
    | none => pure none
    | some text =>
      match Amount.read "" text with
      | .exact n => pure (some n)
      | .tooLarge => pure none
      | .malformed => if text.startsWith "-" then pure none else die i "invalid max count" 2
  let folds := c.has "i" || c.has "y"
  let patterns ← readPatterns i kind folds patterns
  return {
    search := { patterns, byWords := c.has "w", byLines := c.has "x", inverted := c.has "v" }
    counts := c.has "c" && !c.has "l" && !c.has "L"
    names := (c.lastOf? ["l", "L"]).map (· = "l"), quiet := c.has "q", silent := c.has "s", numbers := c.has "n"
    offsets := c.has "b", parts := c.has "o", limit, before, after
    hasContext := 0 < before + after, isText := c.has "a", mark := if c.has "z" then '\x00' else '\n'
    label := (c.last? "label").getD "(standard input)" }

def searchAll (i : Invocation) (y : Style) (recursive : Bool) (found failed : Bool) : List String → Routine (Bool × Bool)
  | [] => return (found, failed)
  | path :: rest => do
    if y.quiet && found then return (found, false)
    let refused (e : SystemError) : Routine Unit := if y.silent then pure () else
      complain i ((if path = "-" then y.label else path) ++ ": " ++ e.text)
    match ← openInput path with
    | .error e => do
      refused e
      searchAll i y recursive found true rest
    | .ok fd => do
      let same ← Routine.query fun pid k =>
        match (k.openFile? pid fd).map (·.stream), (k.openFile? pid 1).map (·.stream) with
        | some (.file m), some (.file n) => m = n && !y.isBrief && y.limit.all (1 < ·)
        | _, _ => false
      let result ← if same then pure (.error none)
        else do
          match ← searchFile i y (if path = "-" then y.label else path) fd with
          | .ok n => pure (Except.ok n)
          | .error e => pure (.error (some e))
      closeInput fd
      match result with
      | .ok n => searchAll i y recursive (found || (0 < n)) failed rest
      | .error e => do
        match e with
        | some e => refused e
        | none => complain i (path ++ ": input file is also the output")
        searchAll i y recursive found true rest

def run (kind : Option Char) : Program := fun i => do
  match Options.read switches (withContext i.arguments) with
  | .error e => do
    complain i e
    usage i
  | .ok c =>
    let kind := kind.getD (((c.lastOf? ["E", "F", "G", "P"]).getD "G").toList.headD 'G')
    let given := c.given.filter fun g => g.1 = "e" || g.1 = "f"
    if given.isEmpty && c.operands.isEmpty then usage i
    let (texts, operands) ← if given.isEmpty then
        pure ((c.operands.headD "").toList.splitOn '\n', c.operands.drop 1)
      else do pure (← texts i given, c.operands)
    let y ← style i c kind texts
    let recursive := c.has "r" || c.has "R"
    let wanted (name : String) : Bool :=
      (c.all "include").all (Wildcard.fits false · name) && !(c.all "exclude").any (Wildcard.fits false · name)
    let paths := if operands.isEmpty then [if recursive then "." else "-"] else operands
    let below (ps : List String) : List String :=
      if operands.isEmpty then ps.map fun p => if p.startsWith "./" then String.ofList (p.toList.drop 2) else p else ps
    let named := match c.lastOf? ["H", "h"] with
      | some key => key = "H"
      | none => recursive || 1 < paths.length
    let paths ← if recursive then do pure (below (← spread wanted paths)) else pure paths
    let (found, failed) ← searchAll i { y with named } recursive false false paths
    let good := match y.names with
      | some false => found
      | _ => found
    return if failed && !(y.quiet && found) then 2 else if good then 0 else 1

end SnippetLab.Program.Grep
