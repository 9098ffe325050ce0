import SnippetLab.Symbol.Map
import SnippetLab.Token.Basic
import SnippetLab.Vocabulary

/-! Static tokens enriched by what is known about their names. -/
namespace SnippetLab

def refinedTypeNames : List String := ["Цел64", "Строка", "Булев", "Плав64"]

def Token.refinedKind (t : Token) : TokenKind :=
  if Vocabulary.isKeyword t.text then .resolvedKeyword
  else if refinedTypeNames.contains t.text then .resolvedBuiltInType
  else t.kind

namespace SymbolMap

def mergeToken (symbols : SymbolMap) (t : Token) : Token :=
  match symbols.get? t.text with
  | some info => { t with kind := info.kind.tokenKind, semanticTag := some info.kind }
  | none => { t with kind := t.refinedKind }

/-- Every token whose text is a known name takes its kind; spans and order stay. -/
def merge (symbols : SymbolMap) (tokens : List Token) : List Token := tokens.map symbols.mergeToken

end SymbolMap
end SnippetLab
