import SnippetLab.Json.Basic
import SnippetLab.Text.Shortest

/-! Writing JSON, on one line or indented by two spaces a level. -/
namespace SnippetLab.Json

def hexDigit (n : Nat) : Char := (Nat.toDigits 16 n).headD '0'

def escapeChar (c : Char) : List Char :=
  if c = '"' then ['\\', '"']
  else if c = '\\' then ['\\', '\\']
  else if c = '\x08' then ['\\', 'b']
  else if c = '\x0c' then ['\\', 'f']
  else if c = '\n' then ['\\', 'n']
  else if c = '\r' then ['\\', 'r']
  else if c = '\t' then ['\\', 't']
  else if c.toNat < 0x20 then
    ['\\', 'u', '0', '0', hexDigit (c.toNat / 16), hexDigit (c.toNat % 16)]
  else [c]

def writeLiteral (s : String) : List Char := '"' :: (s.toList.flatMap escapeChar ++ ['"'])

def writeNumeral : Numeral → List Char
  | .natural n => Nat.toDigits 10 n
  | .negative n => '-' :: Nat.toDigits 10 n
  | .floating x => (Text.shortestDecimal x).toList

mutual

def write : Json → List Char
  | .null => "null".toList
  | .bool b => (if b then "true" else "false").toList
  | .number n => writeNumeral n
  | .text s => writeLiteral s
  | .list items => '[' :: writeItems items ++ [']']
  | .record fields => '\x7b' :: writeFields fields ++ ['\x7d']

def writeItems : List Json → List Char
  | [] => []
  | [item] => write item
  | item :: items => write item ++ ',' :: writeItems items

def writeFields : List (String × Json) → List Char
  | [] => []
  | [(key, value)] => writeLiteral key ++ ':' :: write value
  | (key, value) :: fields => writeLiteral key ++ ':' :: write value ++ ',' :: writeFields fields

end

def compact (j : Json) : String := String.ofList (write j)

def indentation (depth : Nat) : List Char := '\n' :: List.replicate (2 * depth) ' '

mutual

def layout (depth : Nat) : Json → List Char
  | .list (item :: items) =>
    '[' :: layoutItems (depth + 1) (item :: items) ++ indentation depth ++ [']']
  | .record (field :: fields) =>
    '\x7b' :: layoutFields (depth + 1) (field :: fields) ++ indentation depth ++ ['\x7d']
  | j => write j

def layoutItems (depth : Nat) : List Json → List Char
  | [] => []
  | [item] => indentation depth ++ layout depth item
  | item :: items => indentation depth ++ layout depth item ++ ',' :: layoutItems depth items

def layoutFields (depth : Nat) : List (String × Json) → List Char
  | [] => []
  | [(key, value)] => indentation depth ++ writeLiteral key ++ ':' :: ' ' :: layout depth value
  | (key, value) :: fields =>
    indentation depth ++ writeLiteral key ++ ':' :: ' ' :: layout depth value
      ++ ',' :: layoutFields depth fields

end

def pretty (j : Json) : String := String.ofList (layout 0 j)

end SnippetLab.Json
