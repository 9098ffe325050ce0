import SnippetLab.Shell.Action
import SnippetLab.Shell.Arithmetic

/-! What is common to built-in commands: their options and numbers, and texts that can be read again. -/
namespace SnippetLab.Shell

abbrev Builtin := (name : String) → (arguments : List String) → Action Nat

namespace Builtin

def letters (spec : List Char) : (found : List (Char × String)) → List Char → (rest : List String) →
    Action (List (Char × String) × List String)
  | found, [], rest => return (found, rest)
  | found, c :: cs, rest => do
    if c = ':' || !spec.contains c then Action.fail ("Illegal option -" ++ String.singleton c)
    if (spec.dropWhile (· ≠ c))[1]? = some ':' then
      match cs, rest with
      | [], value :: rest => return (found ++ [(c, value)], rest)
      | [], [] => Action.fail ("No arg for -" ++ String.singleton c ++ " option")
      | cs, rest => return (found ++ [(c, String.ofList cs)], rest)
    letters spec (found ++ [(c, "")]) cs rest

def optionsFrom (spec : List Char) : Nat → List (Char × String) → List String →
    Action (List (Char × String) × List String)
  | fuel + 1, found, a :: rest => do
    match a.toList with
    | ['-', '-'] => return (found, rest)
    | '-' :: c :: cs =>
      let (found, rest) ← letters spec found (c :: cs) rest
      optionsFrom spec fuel found rest
    | _ => return (found, a :: rest)
  | _, found, rest => return (found, rest)

def options (spec : String) (arguments : List String) : Action (List (Char × String) × List String) :=
  optionsFrom spec.toList (arguments.length + 1) [] arguments

def illegalNumber (text : String) : Action α := Action.fail ("Illegal number: " ++ text)

def most : Int := Int32.maxValue.toInt

def number (text : String) : Action Nat := do
  match Numeral.ofText? text with
  | some n => if 0 ≤ n && n ≤ most then return n.toNat else illegalNumber text
  | none => illegalNumber text

def quoted (s : String) : String := String.ofList (go (s.length + 1) s.toList)
where
  go : Nat → List Char → List Char
    | 0, _ => []
    | fuel + 1, cs =>
      let plain := cs.takeWhile (· ≠ '\x27')
      let rest := cs.drop plain.length
      let marks := rest.takeWhile (· = '\x27')
      let after := rest.drop marks.length
      '\x27' :: plain ++ ['\x27'] ++ (if marks.isEmpty then [] else '"' :: marks ++ ['"'])
        ++ if after.isEmpty then [] else go fuel after

def split? (s : String) : Option (String × String) :=
  let cs := s.toList
  let name := cs.takeWhile (· ≠ '=')
  if name.length < cs.length then some (String.ofList name, String.ofList (cs.drop (name.length + 1))) else none

def checkName (name : String) : Action Unit := do
  if !isName name then Action.fail (name ++ ": bad variable name")

end Builtin
end SnippetLab.Shell
