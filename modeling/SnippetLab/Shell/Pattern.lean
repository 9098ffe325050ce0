import SnippetLab.Text.Ranges
import SnippetLab.Text.Wide

/-!
Patterns of scripts. A star stands for any text, a question mark for one octet, and brackets for one of a
set; a character after a backslash stands for itself.
-/
namespace SnippetLab.Shell.Pattern

open SnippetLab.Text

/-- Octets from 128 on come before all others. -/
def order (c : Char) : Int := if c.toNat < 128 then c.toNat else (c.toNat : Int) - 256

def class? (p : List Char) : Option ((Char → Bool) × List Char) :=
  CharClass.named.findSome? fun e =>
    let written := (":" ++ e.1 ++ ":]").toList
    if written.isPrefixOf p then some (e.2, p.drop written.length) else none

/-- Whether brackets accept a character, read from one character of theirs on, and what follows them. The
fuel bounds their length. -/
def items (c : Char) : Nat → (found : Bool) → List Char → Option (Bool × List Char)
  | 0, _, _ | _, _, [] => none
  | fuel + 1, found, '[' :: p =>
    match class? p with
    | some (accepts, rest) => after fuel (found || accepts c) rest
    | none => single fuel found '[' p
  | fuel + 1, found, '\\' :: p =>
    match p with
    | a :: p => single fuel found a p
    | [] => none
  | fuel + 1, found, a :: p => single fuel found a p
where
  after (fuel : Nat) (found : Bool) (p : List Char) : Option (Bool × List Char) :=
    match p with
    | ']' :: p => some (found, p)
    | p => items c fuel found p
  single (fuel : Nat) (found : Bool) (a : Char) (p : List Char) : Option (Bool × List Char) :=
    match p with
    | '-' :: ']' :: _ => after fuel (found || a = c) p
    | '-' :: '\\' :: b :: p | '-' :: b :: p => after fuel (found || (order a ≤ order c && order c ≤ order b)) p
    | _ => after fuel (found || a = c) p

def brackets (c : Char) (p : List Char) : Option (Bool × List Char) :=
  match p with
  | '!' :: p => (items c (p.length + 1) false p).map fun (found, rest) => (!found, rest)
  | p => items c (p.length + 1) false p

def matchesAll : Nat → List Char → List Char → Bool
  | 0, _, _ => false
  | _ + 1, [], cs => cs.isEmpty
  | fuel + 1, '*' :: p, cs =>
    matchesAll fuel p cs || match cs with
      | _ :: cs => matchesAll fuel ('*' :: p) cs
      | [] => false
  | fuel + 1, '?' :: p, cs =>
    match cs with
    | _ :: cs => matchesAll fuel p cs
    | [] => false
  | fuel + 1, '[' :: p, cs =>
    match cs with
    | [] => false
    | c :: rest =>
      match brackets c p with
      | some (found, p) => found && matchesAll fuel p rest
      | none => c = '[' && matchesAll fuel p rest
  | fuel + 1, '\\' :: a :: p, cs => literal fuel a p cs
  | fuel + 1, a :: p, cs => literal fuel a p cs
where
  literal (fuel : Nat) (a : Char) (p cs : List Char) : Bool :=
    match cs with
    | c :: cs => a = c && matchesAll fuel p cs
    | [] => false

def accepts (p cs : List Char) : Bool := matchesAll (p.length + cs.length + 1) p cs

def isProper (p : List Char) : Bool := go p
where
  go : List Char → Bool
    | '*' :: _ | '?' :: _ => true
    | '[' :: p => bracketEnds (match p with
        | '!' :: p => p
        | p => p) || go p
    | '\\' :: _ :: p => go p
    | _ :: p => go p
    | [] => false
  bracketEnds : List Char → Bool
    | '\\' :: '/' :: _ | '/' :: _ | [] | ['\\'] => false
    | '\\' :: _ :: p => endsNext p
    | _ :: p => endsNext p
  endsNext : List Char → Bool
    | ']' :: _ => true
    | p => bracketEnds p

def unquoted : List Char → List Char
  | '\\' :: c :: p => c :: unquoted p
  | c :: p => c :: unquoted p
  | [] => []

end SnippetLab.Shell.Pattern

/-! Patterns of a shell in the arguments of programs. -/
namespace SnippetLab.Program.Wildcard

open SnippetLab.Text

def lowerCase (s : List Char) : List Char := s.map lowered

/-- A pattern holds for all of a text, whose characters may take several octets. -/
def fits (folds : Bool) (pattern text : String) : Bool :=
  let p := Wide.ofOctets pattern.toList
  let cs := Wide.ofOctets text.toList
  if folds then Shell.Pattern.accepts (lowerCase p) (lowerCase cs) else Shell.Pattern.accepts p cs

end SnippetLab.Program.Wildcard
