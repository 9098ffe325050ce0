/-!
Command scripts as trees. Words keep what is quoted apart from what is not, because only the latter is
split and matched against file names.
-/
namespace SnippetLab.Shell

inductive Change
  | none
  | default
  | alternative
  | assign
  | demand
  | length
  | trim (atEnd long : Bool)
  | bad
  deriving DecidableEq, Repr

inductive RedirectKind
  | input
  | output
  | force
  | append
  | both
  /-- The descriptor that a word names, to read from or to write to. -/
  | copy (input : Bool)
  deriving DecidableEq, Repr

mutual

inductive Piece
  | char (c : Char) (quoted : Bool)
  /-- Where quotes begin or end. They make a word even of nothing. -/
  | quotes
  | parameter (name : String) (change : Change) (emptyIsMissing : Bool) (word : List Piece)
  | command (script : Option Node)
  | arithmetic (expression : List Piece)

inductive Redirect
  | file (descriptor : Nat) (kind : RedirectKind) (target : List Piece)
  /-- Lines of the script itself, filed under a number. -/
  | document (descriptor number : Nat)

inductive Node
  | simple (line : Nat) (assignments words : List (List Piece)) (redirects : List Redirect)
  | pipe (commands : List Node) (background : Bool)
  | redirected (line : Nat) (body : Node) (redirects : List Redirect)
  | background (line : Nat) (body : Node) (redirects : List Redirect)
  | subshell (line : Nat) (body : Node) (redirects : List Redirect)
  | sequence (first second : Node)
  | both (first second : Node)
  | either (first second : Node)
  | negated (body : Node)
  | branch (test yes : Node) (no : Option Node)
  | loop (until_ : Bool) (test body : Node)
  | each (line : Nat) (name : String) (words : List (List Piece)) (body : Node)
  | choice (line : Nat) (subject : List Piece) (cases : List (List (List Piece) × Option Node))
  | define (line : Nat) (name : String) (body : Node)

end

abbrev Word := List Piece

instance : Inhabited Node := ⟨.simple 0 [] [] []⟩

instance : Inhabited Redirect := ⟨.document 0 0⟩

def isNameStart (c : Char) : Bool := c.isAlpha || c = '_'

def isNameChar (c : Char) : Bool := c.isAlphanum || c = '_'

def isName (s : String) : Bool := s.toList.head?.any isNameStart && s.toList.all isNameChar

namespace Piece

def text? : Piece → Option Char
  | char c false => some c
  | _ => Option.none

end Piece

namespace Word

def plain? (w : Word) : Option String := (w.mapM Piece.text?).map String.ofList

def text (w : Word) : List Char := w.filterMap fun
  | .char c _ => some c
  | _ => none

def isAssignment (w : Word) : Bool :=
  let cs := w.map fun p => p.text?.getD '\x00'
  let name := cs.takeWhile isNameChar
  name.head?.any isNameStart && (cs.drop name.length).head? = some '='

end Word

inductive Keyword
  | not | case | do | done | elif | else | esac | fi | for | if | in | then | until | while | begin | end
  deriving DecidableEq, Repr

namespace Keyword

def spellings : List (String × Keyword) :=
  [("!", .not), ("case", .case), ("do", .do), ("done", .done), ("elif", .elif), ("else", .else), ("esac", .esac),
   ("fi", .fi), ("for", .for), ("if", .if), ("in", .in), ("then", .then), ("until", .until), ("while", .while),
   ("\x7b", .begin), ("\x7d", .end)]

def ofText? (s : String) : Option Keyword := spellings.lookup s

def text (k : Keyword) : String := ((spellings.find? (·.2 = k)).map (·.1)).getD ""

def endsBody (k : Keyword) : Bool := [.done, .elif, .else, .esac, .fi, .then, .do, .end].contains k

end Keyword

inductive Token
  | eof
  | newline
  | semicolon
  | ampersand
  | and
  | or
  | pipe
  | open
  | close
  | break
  | redirect
  | word
  | keyword (k : Keyword)
  deriving DecidableEq, Repr

namespace Token

def name : Token → String
  | eof => "end of file"
  | newline => "newline"
  | semicolon => "\";\""
  | ampersand => "\"&\""
  | and => "\"&&\""
  | or => "\"||\""
  | pipe => "\"|\""
  | «open» => "\"(\""
  | close => "\")\""
  | «break» => "\";;\""
  | redirect => "redirection"
  | word => "word"
  | keyword k => "\"" ++ k.text ++ "\""

def endsBody : Token → Bool
  | eof | close | «break» => true
  | keyword k => k.endsBody
  | _ => false

end Token
end SnippetLab.Shell
