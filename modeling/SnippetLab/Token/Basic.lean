/-! What a token is, and what a name means. -/
namespace SnippetLab

/-- The class of a token. The last four arise only once the names of a program are known. -/
inductive TokenKind
  | keyword
  | identifier
  | builtInType
  | builtInFunction
  | stringLiteral
  | numberLiteral
  | comment
  | operator
  | userFunction
  | parameter
  | userVariable
  | importedClass
  | importedFunction
  | resolvedKeyword
  | resolvedBuiltInType
  deriving DecidableEq, Repr, Inhabited

namespace TokenKind

def all : List TokenKind :=
  [keyword, identifier, builtInType, builtInFunction, stringLiteral, numberLiteral, comment,
   operator, userFunction, parameter, userVariable, importedClass, importedFunction,
   resolvedKeyword, resolvedBuiltInType]

def wireName : TokenKind → String
  | keyword => "KEYWORD"
  | identifier => "IDENTIFIER"
  | builtInType => "BUILT_IN_TYPE"
  | builtInFunction => "BUILT_IN_FUNCTION"
  | stringLiteral => "STRING_LITERAL"
  | numberLiteral => "NUMBER_LITERAL"
  | comment => "COMMENT"
  | operator => "OPERATOR"
  | userFunction => "function.user"
  | parameter => "variable.parameter"
  | userVariable => "variable.user"
  | importedClass => "class.imported"
  | importedFunction => "function.imported"
  | resolvedKeyword => "keyword"
  | resolvedBuiltInType => "type.builtin"

def ofWireName? (name : String) : Option TokenKind := all.find? (·.wireName == name)

end TokenKind

/-- What the program says about a name. -/
inductive SymbolKind
  | userFunction
  | userVariable
  | functionParameter
  | importedClass
  | importedFunction
  deriving DecidableEq, Repr, Inhabited

namespace SymbolKind

def all : List SymbolKind :=
  [userFunction, userVariable, functionParameter, importedClass, importedFunction]

def wireName : SymbolKind → String
  | userFunction => "userFunction"
  | userVariable => "userVariable"
  | functionParameter => "functionParameter"
  | importedClass => "importedClass"
  | importedFunction => "importedFunction"

def ofWireName? (name : String) : Option SymbolKind := all.find? (·.wireName == name)

def tokenKind : SymbolKind → TokenKind
  | userFunction => .userFunction
  | userVariable => .userVariable
  | functionParameter => .parameter
  | importedClass => .importedClass
  | importedFunction => .importedFunction

end SymbolKind

/-! Positioned tokens and their order in the document. -/

/-- A stretch of text. Lines and columns count from zero, columns count characters, and the end is
exclusive. -/
structure Token where
  startLine : Nat
  startColumn : Nat
  endLine : Nat
  endColumn : Nat
  kind : TokenKind
  text : String
  semanticTag : Option SymbolKind := none
  deriving DecidableEq, Repr, Inhabited

namespace Token

def onLine (line start stop : Nat) (kind : TokenKind) (text : String) : Token :=
  { startLine := line, startColumn := start, endLine := line, endColumn := stop, kind, text }

def isWellFormed (t : Token) : Bool :=
  t.startLine < t.endLine || (t.startLine == t.endLine && t.startColumn < t.endColumn)

def position (t : Token) : List Nat := [t.startLine, t.startColumn, t.endLine, t.endColumn]

/-- The first difference decides between two positions. -/
def notAfter : List Nat → List Nat → Bool
  | [], _ => true
  | _ :: _, [] => false
  | x :: xs, y :: ys => x < y || (x == y && notAfter xs ys)

/-- Document order; tokens at one position keep the order they came in. -/
def sortByPosition (tokens : List Token) : List Token :=
  tokens.mergeSort fun a b => notAfter a.position b.position

end Token
end SnippetLab
