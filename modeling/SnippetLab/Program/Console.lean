import SnippetLab.Program.Options
import SnippetLab.Text.Ranges
import SnippetLab.Text.Escaped
import SnippetLab.Text.Wide

/-!
What programs have in common: how they complain, print and read their files. Names in complaints stand in quotes where
a reader could take them for something else.
-/
namespace SnippetLab.Program.Quote

open SnippetLab.Text

def octal (c : Char) : List Char :=
  let ds := Nat.toDigits 8 c.toNat
  List.replicate (3 - ds.length) '0' ++ ds

def isPlain (c : Char) : Bool :=
  if c.toNat < 128 then CharClass.isGraph c || c = ' ' else !Wide.isStray c && !isEscaped c

def letter? : Char → Option Char
  | '\x07' => some 'a'
  | '\x08' => some 'b'
  | '\x0c' => some 'f'
  | '\n' => some 'n'
  | '\r' => some 'r'
  | '\t' => some 't'
  | '\x0b' => some 'v'
  | _ => none

def escaped (c : Char) : List Char :=
  match letter? c with
  | some l => ['\\', l]
  | none => if isPlain c then [c] else (Wide.encoded c).flatMap fun o => '\\' :: octal o

def onWide (f : List Char → List Char) (s : String) : String :=
  String.ofList (Wide.toOctets (f (Wide.ofOctets s.toList)))

def literal (s : String) : String :=
  let one (c : Char) : List Char := if c = '\\' || c = '\u2019' then ['\\', c] else escaped c
  onWide (fun cs => '\u2018' :: cs.flatMap one ++ ['\u2019']) s

def startSpecial : List Char := ['#', '~']

def special : List Char := " !\"$&()*;<=>?[\\^\x60|'\t\n".toList

def allowsDouble (c : Char) : Bool := c.isAlphanum || " %+,-./:]_\x27#~".toList.contains c

def inside : (shows : Bool) → List Char → List Char
  | _, [] => []
  | shows, c :: cs =>
    if c = '\x27' then ['\x27', '\\', '\x27', '\x27'] ++ inside true cs
    else if isPlain c then (if shows then [] else ['\x27', '\x27']) ++ c :: inside true cs
    else (if shows then ['\x27', '$', '\x27'] else []) ++ escaped c ++ inside false cs

def always (s : String) : String :=
  onWide (fun cs =>
    if cs.contains '\x27' && cs.all allowsDouble then '"' :: cs ++ ['"'] else '\x27' :: inside true cs ++ ['\x27']) s

def isSpecial (cs : List Char) : Bool :=
  cs.isEmpty || cs = ['\x7b'] || cs = ['\x7d'] || cs.head?.any startSpecial.contains || cs.any special.contains
    || !cs.all isPlain

def ifNeeded (s : String) : String := if isSpecial (Wide.ofOctets s.toList) then always s else s

end SnippetLab.Program.Quote

namespace SnippetLab.Program

open SnippetLab.Machine

def complain (i : Invocation) (text : String) : Routine Unit := Routine.complain (i.name ++ ": " ++ text ++ "\n")

def complainOf (i : Invocation) (path : String) (e : SystemError) : Routine Unit :=
  complain i (Quote.ifNeeded path ++ ": " ++ e.text)

def die (i : Invocation) (text : String) (status : Nat := 1) : Routine α := do
  complain i text
  Routine.exitCode status

def hint (i : Invocation) : Routine Unit :=
  Routine.complain ("Try '" ++ i.name ++ " --help' for more information.\n")

def misuse (i : Invocation) (text : String) (status : Nat := 1) : Routine α := do
  complain i text
  hint i
  Routine.exitCode status

def chosen (i : Invocation) (switches : List Switch) (status : Nat := 1) (operandsLast : Bool := false) : Routine Chosen := do
  match Options.read switches i.arguments (operandsLast || (Environment.get? i.environment "POSIXLY_CORRECT").isSome) with
  | .ok c => return c
  | .error e => misuse i e status

def missingOperand (i : Invocation) (status : Nat := 1) : Routine α := misuse i "missing operand" status

def extraOperand (i : Invocation) (operand : String) (status : Nat := 1) : Routine α :=
  misuse i ("extra operand " ++ Quote.literal operand) status

def put (i : Invocation) (cs : List Char) (status : Nat := 1) : Routine Unit := do
  if cs.isEmpty then return
  match ← Routine.write 1 cs with
  | none => return
  | some e => die i ("write error: " ++ e.text) status

def putText (i : Invocation) (s : String) (status : Nat := 1) : Routine Unit := put i s.toList status

def putLine (i : Invocation) (cs : List Char) (status : Nat := 1) : Routine Unit := put i (cs ++ ['\n']) status

def openInput (path : String) : Routine (Except SystemError Nat) :=
  if path = "-" then return .ok 0 else Routine.openPath path .input

def closeInput (fd : Nat) : Routine Unit := if fd = 0 then pure () else Routine.close fd

def content (path : String) : Routine (Except SystemError (List Char)) := do
  match ← openInput path with
  | .error e => return .error e
  | .ok fd =>
    let cs ← Routine.readAll fd
    closeInput fd
    return cs

def inputs (operands : List String) : List String := if operands.isEmpty then ["-"] else operands

def eachChunk (fd : Nat) (s : σ) (step : σ → List Char → Routine σ) : Routine (Option SystemError × σ) :=
  Routine.iterate (none, s) (fun s => do
    match ← Routine.read fd Routine.chunkSize with
    | .error e => return .inr (some e, s)
    | .ok [] => return .inr (none, s)
    | .ok cs => return .inl (← step s cs)) Routine.rounds s

/-- Whole lines of a text, each without its end, and what is left behind the last one. -/
def splitLines (mark : Char) (cs : List Char) : List (List Char) × List Char :=
  let pieces := cs.splitOn mark
  (pieces.dropLast, pieces.getLast?.getD [])

def recordsOf (mark : Char) (cs : List Char) : List (List Char × Bool) :=
  let (lines, rest) := splitLines mark cs
  lines.map (·, true) ++ if rest.isEmpty then [] else [(rest, false)]

def linesOf (cs : List Char) (mark : Char := '\n') : List (List Char) := (recordsOf mark cs).map (·.1)

/-- Passes each file's chunks through a function that remembers something. -/
def filter (i : Invocation) (paths : List String) (s : σ) (step : σ → List Char → List Char × σ) : Routine (Nat × σ) :=
  go 0 s paths
where
  go (status : Nat) (s : σ) : List String → Routine (Nat × σ)
    | [] => return (status, s)
    | p :: ps => do
      match ← openInput p with
      | .error e => do
        complainOf i p e
        go 1 s ps
      | .ok fd => do
        let (problem, s) ← eachChunk fd s fun s cs => do
          let (out, s) := step s cs
          put i out
          return s
        closeInput fd
        match problem with
        | some e => do
          complainOf i p e
          go 1 s ps
        | none => go status s ps

def padStart (width : Nat) (s : String) : String :=
  String.ofList (List.replicate (width - s.length) ' ') ++ s

def padEnd (width : Nat) (s : String) : String := s ++ String.ofList (List.replicate (width - s.length) ' ')

def baseName (path : String) : String :=
  let cs := path.toList.reverse.dropWhile (· = '/')
  if cs.isEmpty then (if path.isEmpty then "" else "/")
  else String.ofList (cs.takeWhile (· ≠ '/')).reverse

def directoryName (path : String) : String :=
  let cs := path.toList.reverse.dropWhile (· = '/')
  let above := (cs.dropWhile (· ≠ '/')).dropWhile (· = '/')
  if !above.isEmpty then String.ofList above.reverse
  else if path.startsWith "/" then "/" else "."

end SnippetLab.Program
