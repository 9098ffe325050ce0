import SnippetLab.Symbol.Map
import SnippetLab.Text.Ranges
import SnippetLab.Text.Pattern
import SnippetLab.Text.Search
import SnippetLab.Vocabulary

/-!
The rules that read meanings of names off a compiler's dump. The dump is never parsed: each rule has a
pattern, and each match proposes at most one entry. A rule either overrides what earlier matches found
or only adds to it.
-/
namespace SnippetLab

open SnippetLab.Text

inductive RuleScope
  | userSection
  | fullDump
  deriving DecidableEq, Repr

def RuleScope.name : RuleScope → String
  | .userSection => "UserSection"
  | .fullDump => "FullDump"

structure Capture where
  name : String
  type : String := ""
  deriving DecidableEq, Repr

structure Finding where
  /-- The user's module, also when the rule looks through the whole dump. -/
  userSection : List Char
  before : List Char
  after : List Char
  capture : Capture

structure MiningRule where
  name : String
  scope : RuleScope
  pattern : Pattern Capture
  overrides : Bool
  propose : Finding → Option (String × SymbolInfo)

namespace MiningRule

/-- Text that is not empty, up to a quote, and what follows the quote. -/
def quotedName? (cs : List Char) : Option (String × List Char) := do
  let (name, rest) ← some? (· ≠ '"') cs
  return (String.ofList name, ← after? ['"'] rest)

/-- An opening text, a name in quotes whose first quote belongs to the opening, and a closing text. -/
def named (opening closing : String) : Pattern Capture := fun _ cs => do
  let cs ← after? opening.toList cs
  let (name, cs) ← quotedName? cs
  return ({ name }, ← after? closing.toList cs)

def functionPattern : Pattern Capture := named "(Function \"" " \"functype\""

def importPattern : Pattern Capture := named "(Import \"" ""

def variablePattern : Pattern Capture := fun before cs => do
  let (capture, cs) ← named "(VarDecl \"" " \"" before cs
  return ({ capture with type := String.ofList (cs.takeWhile (· ≠ '"')) },
    ← after? ['"'] (cs.dropWhile (· ≠ '"')))

def referencePattern : Pattern Capture := fun before cs => do
  let (_, cs) ← named "(IdentExpr \"" "" before cs
  named " \"" ")" before cs

def selectorPattern : Pattern Capture := named "(SelectorExpr \"functype\" \"" ")"

def callPattern : Pattern Capture :=
  named "(CallExpr \"нет результата\" (IdentExpr \"functype\" RO \"" ")"

def external : List Char := "External".toList

/-- A definition with the word `External` before the next parenthesis; the match reaches to the last
such word. -/
def externalPattern : Pattern Capture := fun before cs => do
  let (capture, cs) ← functionPattern before cs
  let run := cs.takeWhile (· ≠ '(')
  let reach ← findLast? external run
  return (capture, cs.drop (reach + external.length))

/-- Like a reference, with any white space between the parts and any type, even an empty one. -/
def usagePattern : Pattern Capture := fun before cs => do
  let cs ← after? "(IdentExpr".toList cs
  let (_, cs) ← some? isBlank cs
  let cs ← after? ['"'] cs
  let cs ← after? ['"'] (cs.dropWhile (· ≠ '"'))
  let (_, cs) ← some? isBlank cs
  named "\"" ")" before cs

def functionMarker (name : String) : List Char :=
  "(Function \"".toList ++ name.toList ++ "\" \"functype\"".toList

/-- Functions of the compiler's own making. -/
def isInternalFunction (name : String) : Bool :=
  startsWith name "tri_" || startsWith name "sysapi_"
    || ["строка", "кс", "цел64", "ф"].contains name || name.length ≤ 1

/-- The last part of a path, if the path has several. -/
def lastSegment? : List Char → Option (List Char)
  | [] => none
  | ':' :: ':' :: rest => some ((lastSegment? rest).getD rest)
  | _ :: rest => lastSegment? rest

def maxParameterLength : Nat := 10

def userFunction : MiningRule where
  name := "user_function"
  scope := .userSection
  pattern := functionPattern
  overrides := true
  propose f :=
    if occursIn external (firstLine f.after) || isInternalFunction f.capture.name then none
    else some (f.capture.name, { kind := .userFunction })

def importedPath : MiningRule where
  name := "import"
  scope := .userSection
  pattern := importPattern
  overrides := true
  propose f := (lastSegment? f.capture.name.toList).map fun last =>
    (String.ofList last, { kind := .importedClass, detail := some f.capture.name })

def typedVariable : MiningRule where
  name := "typed_variable"
  scope := .userSection
  pattern := variablePattern
  overrides := true
  propose f :=
    if Vocabulary.isKeyword f.capture.name || f.capture.name.length ≤ 1 then none
    else some (f.capture.name, { kind := .userVariable, detail := some f.capture.type })

/-- A short name that starts with a letter and is no function defined further up. -/
def parameterReference : MiningRule where
  name := "parameter_reference"
  scope := .userSection
  pattern := referencePattern
  overrides := false
  propose f :=
    let name := f.capture.name
    if Vocabulary.isKeyword name || Vocabulary.isBuiltInType name || name == "RO"
        || maxParameterLength < name.length || !(name.toList.head?.any isAlphabetic)
        || occursIn (functionMarker name) f.before then none
    else some (name, { kind := .functionParameter })

def selectorMethod : MiningRule where
  name := "selector_method"
  scope := .userSection
  pattern := selectorPattern
  overrides := false
  propose f :=
    if Vocabulary.isKeyword f.capture.name then none
    else some (f.capture.name, { kind := .importedFunction, detail := some "method" })

def localCall : MiningRule where
  name := "local_call"
  scope := .userSection
  pattern := callPattern
  overrides := false
  propose f :=
    let name := f.capture.name
    if startsWith name "std" || name.length ≤ 1 || Vocabulary.isKeyword name then none
    else if occursIn (functionMarker name) f.userSection then some (name, { kind := .userFunction })
    else none

def externalFunction : MiningRule where
  name := "external_function"
  scope := .fullDump
  pattern := externalPattern
  overrides := false
  propose f := some (f.capture.name, { kind := .importedFunction })

/-- A reference that does not close the node around it, to a name with a declaration or an equals sign
beside it somewhere in the user's module. -/
def variableUsage : MiningRule where
  name := "variable_usage"
  scope := .userSection
  pattern := usagePattern
  overrides := false
  propose f :=
    let name := f.capture.name
    let declared :=
      occursIn ("(VarDecl \"".toList ++ name.toList ++ ['"']) f.userSection
        || occursIn ("= ".toList ++ name.toList) f.userSection
        || occursIn (name.toList ++ " =".toList) f.userSection
    if (trimStart f.after).head? == some ')' then none
    else if Vocabulary.isKeyword name || Vocabulary.isBuiltInType name || name.length ≤ 1 then none
    else if declared then some (name, { kind := .userVariable })
    else none

/-- The rules in the order in which they run. -/
def table : List MiningRule :=
  [userFunction, importedPath, typedVariable, parameterReference, selectorMethod, localCall,
   externalFunction, variableUsage]

def ofName? (name : String) : Option MiningRule := table.find? (·.name == name)

def scanned (r : MiningRule) (userSection fullDump : List Char) : List Char :=
  match r.scope with
  | .userSection => userSection
  | .fullDump => fullDump

def proposals (r : MiningRule) (userSection fullDump : List Char) : List (String × SymbolInfo) :=
  let text := r.scanned userSection fullDump
  (r.pattern.findAll text).filterMap fun m =>
    r.propose { userSection, before := text.take m.start, after := text.drop m.stop, capture := m.value }

def enter (r : MiningRule) (symbols : SymbolMap) (entry : String × SymbolInfo) : SymbolMap :=
  if r.overrides then symbols.put entry.1 entry.2 else symbols.add entry.1 entry.2

def apply (r : MiningRule) (userSection fullDump : List Char) (symbols : SymbolMap) : SymbolMap :=
  (r.proposals userSection fullDump).foldl r.enter symbols

end MiningRule
end SnippetLab
