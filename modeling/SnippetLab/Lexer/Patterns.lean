import SnippetLab.Text.Pattern
import SnippetLab.Text.Ranges

/-! The shapes of tokens and declarations within a line. -/
namespace SnippetLab.Lexer

open SnippetLab.Text

def startsIdentifier (c : Char) : Bool :=
  ('а' ≤ c && c ≤ 'я') || c = 'ё' || ('А' ≤ c && c ≤ 'Я') || c = 'Ё'
    || ('a' ≤ c && c ≤ 'z') || ('A' ≤ c && c ≤ 'Z') || c = '_'

def continuesIdentifier (c : Char) : Bool :=
  startsIdentifier c || ('0' ≤ c && c ≤ '9') || c = '-'

def isOperator (c : Char) : Bool := "+-*/=<>!&|^%:;,.()[]\x7b\x7d".toList.contains c

def identifier? : List Char → Option (List Char × List Char)
  | [] => none
  | c :: cs =>
    if startsIdentifier c then
      some (c :: cs.takeWhile continuesIdentifier, cs.dropWhile continuesIdentifier)
    else none

def identifier : Pattern Unit := fun _ cs => (identifier? cs).map fun m => ((), m.2)

def operator : Pattern Unit
  | _, c :: cs => if isOperator c then some ((), cs) else none
  | _, [] => none

/-- What follows the quote that closes a string. A backslash hides the character after it. -/
def closingQuote? : List Char → Option (List Char)
  | [] => none
  | '"' :: cs => some cs
  | '\\' :: _ :: cs => closingQuote? cs
  | c :: cs => if c = '\\' then none else closingQuote? cs

def stringLiteral : Pattern Unit
  | _, '"' :: cs => (closingQuote? cs).map ((), ·)
  | _, _ => none

/-- No word goes on here. -/
def wordEnds : List Char → Bool
  | [] => true
  | c :: _ => !isWordChar c

def isDigit (c : Char) : Bool := '0' ≤ c && c ≤ '9'

def fraction? : List Char → Option (List Char)
  | '.' :: cs =>
    match some? isDigit cs with
    | some (_, rest) => if wordEnds rest then some rest else none
    | none => none
  | _ => none

/-- Digits that stand alone as a word, with a fraction if that stands alone too. -/
def number : Pattern Unit := fun before cs =>
  if before.any isWordChar then none
  else match some? isDigit cs with
    | none => none
    | some (_, rest) =>
      match fraction? rest with
      | some rest => some ((), rest)
      | none => if wordEnds rest then some ((), rest) else none

/-- A word, white space, a name, optional white space and a closing character; yields the name. -/
def declaration (word : String) (close : Char) : Pattern String := fun _ cs => do
  let cs ← after? word.toList cs
  let (_, cs) ← some? isBlank cs
  let (name, cs) ← identifier? cs
  match cs.dropWhile isBlank with
  | c :: rest => if c = close then some (String.ofList name, rest) else none
  | [] => none

def functionDeclaration : Pattern String := declaration "фн" '('

def variableDeclaration : Pattern String := declaration "пусть" '='

/-- A parenthesis up to the first closing one; yields what is between them, which is not empty. -/
def parameterGroup : Pattern (List Char)
  | _, '(' :: cs =>
    match some? (· ≠ ')') cs with
    | some (inside, _ :: rest) => some (inside, rest)
    | _ => none
  | _, _ => none

def parameterName : Pattern String := fun _ cs => do
  let (name, cs) ← identifier? cs
  match cs.dropWhile isBlank with
  | ':' :: rest => some (String.ofList name, rest)
  | _ => none

/-- A name, an equals sign and any character but a second equals sign, white space between them. With
nothing else there, the last white space counts as that character. -/
def assignment : Pattern String := fun _ cs => do
  let (name, cs) ← identifier? cs
  match cs.dropWhile isBlank with
  | '=' :: cs =>
    match cs.dropWhile isBlank with
    | c :: rest =>
      if c ≠ '=' then some (String.ofList name, rest)
      else if (cs.takeWhile isBlank).isEmpty then none else some (String.ofList name, c :: rest)
    | [] => if cs.isEmpty then none else some (String.ofList name, [])
  | _ => none

end SnippetLab.Lexer
