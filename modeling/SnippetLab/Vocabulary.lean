import SnippetLab.Token.Basic

/-! The words that Trivil reserves. -/
namespace SnippetLab.Vocabulary

def keywords : List String :=
  ["модуль", "импорт", "вход", "пусть", "если", "иначе", "пока", "для", "фн", "функция", "класс",
   "тип", "константа", "переменная", "возврат", "вернуть", "прервать", "продолжить", "выбор",
   "случай", "умолчание", "и", "или", "не", "истина", "ложь"]

def builtInTypes : List String :=
  ["Цел64", "Слово64", "Вещ64", "Лог", "Строка", "Символ", "Байт", "Пусто"]

/-- No function is built in so far. -/
def builtInFunctions : List String := []

def isKeyword (word : String) : Bool := keywords.contains word

def isBuiltInType (word : String) : Bool := builtInTypes.contains word

def classify (word : String) : TokenKind :=
  if isKeyword word then .keyword
  else if isBuiltInType word then .builtInType
  else if builtInFunctions.contains word then .builtInFunction
  else .identifier

end SnippetLab.Vocabulary
