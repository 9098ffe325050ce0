import SnippetLab.Token.Basic
import SnippetLab.Json.Basic

/-!
Tokens as editors exchange them: JSON objects, with the semantic tag left out when absent. A list of
the values in field order is read like the object.
-/
namespace SnippetLab.Token

def fieldNames : List String :=
  ["startLine", "startColumn", "endLine", "endColumn", "kind", "text", "semanticTag"]

def toJson (t : Token) : Json :=
  .record <|
    [("startLine", .nat t.startLine), ("startColumn", .nat t.startColumn),
     ("endLine", .nat t.endLine), ("endColumn", .nat t.endColumn),
     ("kind", .text t.kind.wireName), ("text", .text t.text)]
    ++ (t.semanticTag.map fun tag => ("semanticTag", Json.text tag.wireName)).toList

/-- The name of a choice without data: a string, or an object that maps the name to null. -/
def choice? : Json → Option String
  | .text name => name
  | .record [(name, .null)] => name
  | _ => none

/-- A missing tag and a null tag are no tag; any other has to be a tag's name. -/
def readTag? : Option Json → Option (Option SymbolKind)
  | none | some .null => some none
  | some j => ((choice? j).bind SymbolKind.ofWireName?).map some

def ofFields? (field? : String → Option Json) : Option Token := do
  return {
    startLine := ← (field? "startLine").bind Json.nat?
    startColumn := ← (field? "startColumn").bind Json.nat?
    endLine := ← (field? "endLine").bind Json.nat?
    endColumn := ← (field? "endColumn").bind Json.nat?
    kind := ← (field? "kind").bind fun k => (choice? k).bind TokenKind.ofWireName?
    text := ← (field? "text").bind Json.text?
    semanticTag := ← readTag? (field? "semanticTag") }

/-- Fields that tokens do not have are ignored. -/
def ofJson? (j : Json) : Option Token :=
  match j with
  | .record _ => ofFields? j.field?
  | .list items =>
    if items.length ≤ fieldNames.length then
      ofFields? fun name => ((fieldNames.zip items).find? (·.1 == name)).map (·.2)
    else none
  | _ => none

def listToJson (tokens : List Token) : Json := .list (tokens.map toJson)

def listOfJson? (j : Json) : Option (List Token) := do (← j.items?).mapM ofJson?

end SnippetLab.Token
