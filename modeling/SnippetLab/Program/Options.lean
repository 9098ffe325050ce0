import SnippetLab.Machine.Program

/-! Options of a command line: letters after a dash and words after two, in any place among the operands. -/
namespace SnippetLab.Program

open SnippetLab.Machine

inductive Takes
  | nothing
  | value
  | optional
  deriving DecidableEq, Repr

structure Switch where
  key : String
  letter : Option Char := none
  word : String := ""
  takes : Takes := .nothing
  deriving DecidableEq, Repr

namespace Switch

def letters (spec : String) : List Switch := go spec.toList
where
  go : List Char → List Switch
    | c :: ':' :: cs => { key := String.singleton c, letter := some c, takes := .value } :: go cs
    | c :: cs => { key := String.singleton c, letter := some c } :: go cs
    | [] => []

def ofWord (key spec : String) : Switch :=
  let w := String.ofList spec.toList.dropLast
  if spec.endsWith "=" then { key, word := w, takes := .value }
  else if spec.endsWith "?" then { key, word := w, takes := .optional }
  else { key, word := spec }

def words (spec : List (String × String)) : List Switch := spec.map fun (key, w) => ofWord key w

end Switch

structure Chosen where
  given : List (String × String) := []
  operands : List String := []
  deriving DecidableEq, Repr

namespace Chosen

def has (c : Chosen) (key : String) : Bool := c.given.any (·.1 = key)

def last? (c : Chosen) (key : String) : Option String := (c.given.reverse.find? (·.1 = key)).map (·.2)

def all (c : Chosen) (key : String) : List String := (c.given.filter (·.1 = key)).map (·.2)

def lastOf? (c : Chosen) (keys : List String) : Option String :=
  (c.given.reverse.find? fun g => keys.contains g.1).map (·.1)

end Chosen

namespace Options

/-- An option by its word or by the front of one. -/
def byWord (switches : List Switch) (w whole : String) : Except String Switch :=
  match switches.find? fun s => !s.word.isEmpty && s.word = w with
  | some s => .ok s
  | none =>
    match switches.filter fun s => !s.word.isEmpty && w.toList.isPrefixOf s.word.toList with
    | [] => .error ("unrecognized option '--" ++ whole ++ "'")
    | s :: more =>
      if more.all (·.key = s.key) then .ok s
      else .error ("option '--" ++ whole ++ "' is ambiguous; possibilities:"
        ++ String.join ((s :: more).map fun s => " '--" ++ s.word ++ "'"))

def cluster (switches : List Switch) : List Char → (rest : List String) → Chosen →
    Except String (Chosen × List String)
  | [], rest, found => .ok (found, rest)
  | c :: cs, rest, found =>
    match switches.find? (·.letter = some c) with
    | none => .error ("invalid option -- '" ++ String.singleton c ++ "'")
    | some s =>
      let add (value : String) : Chosen := { found with given := found.given ++ [(s.key, value)] }
      match s.takes with
      | .nothing => cluster switches cs rest (add "")
      | .optional => .ok (add (String.ofList cs), rest)
      | .value =>
        if !cs.isEmpty then .ok (add (String.ofList cs), rest)
        else match rest with
          | [] => .error ("option requires an argument -- '" ++ String.singleton c ++ "'")
          | value :: rest => .ok (add value, rest)

def long (switches : List Switch) (cs : List Char) (rest : List String) (found : Chosen) :
    Except String (Chosen × List String) :=
  let w := String.ofList (cs.takeWhile (· ≠ '='))
  let value := if cs.contains '=' then some (String.ofList (cs.drop (w.length + 1))) else none
  match byWord switches w (String.ofList cs) with
  | .error e => .error e
  | .ok s =>
    let add (value : String) : Chosen := { found with given := found.given ++ [(s.key, value)] }
    match s.takes, value with
    | .nothing, some _ => .error ("option '--" ++ s.word ++ "' doesn't allow an argument")
    | .nothing, none | .optional, none => .ok (add "", rest)
    | .value, none =>
      match rest with
      | [] => .error ("option '--" ++ s.word ++ "' requires an argument")
      | value :: rest => .ok (add value, rest)
    | _, some value => .ok (add value, rest)

/-- Reads arguments; if the operands come last, the first one ends the options. -/
def readFrom (switches : List Switch) (operandsLast : Bool) : Nat → List String → Chosen → Except String Chosen
  | fuel + 1, a :: rest, found =>
    match a.toList with
    | ['-', '-'] => .ok { found with operands := found.operands ++ rest }
    | '-' :: '-' :: cs =>
      match long switches cs rest found with
      | .ok (found, rest) => readFrom switches operandsLast fuel rest found
      | .error e => .error e
    | '-' :: c :: cs =>
      match cluster switches (c :: cs) rest found with
      | .ok (found, rest) => readFrom switches operandsLast fuel rest found
      | .error e => .error e
    | _ =>
      if operandsLast then .ok { found with operands := found.operands ++ a :: rest }
      else readFrom switches operandsLast fuel rest { found with operands := found.operands ++ [a] }
  | _, _, found => .ok found

def read (switches : List Switch) (arguments : List String) (operandsLast : Bool := false) : Except String Chosen :=
  readFrom switches operandsLast (arguments.length + 1) arguments {}

end Options
end SnippetLab.Program
