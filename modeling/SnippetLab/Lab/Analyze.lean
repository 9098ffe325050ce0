import SnippetLab.Lab.Compile
import SnippetLab.Lexer.Tokens
import SnippetLab.Symbol.Merge
import SnippetLab.Symbol.Mine

/-! Tokens of a snippet, enriched by a syntax dump of the compiler if there is one. -/
namespace SnippetLab.Lab

open SnippetLab.Text

def dumpSource : String := "main.tri"

def exitCodeText : ExitStatus → String
  | .code n => "Some(" ++ toString n ++ ")"
  | .signal _ => "None"

/-- A dump counts if the compiler exits with zero and its output is not blank. -/
def dumpOf : Except Failure RunResult → Except Failure String
  | .error e => .error e
  | .ok result =>
    if !result.succeeded then
      .error (.analysis ("AST dump exited with code " ++ exitCodeText result.status))
    else if allBlank result.output.toList then .error (.analysis "AST dump produced no output")
    else .ok result.output

/-- Runs the compiler over the wrapped snippet in a workspace of its own, which is gone afterwards. -/
def dumpAst (launch : Launcher) (s : Settings) (u : SourceUnit) (l : Lab) : Except Failure String × Lab :=
  match l.createWorkspace s Workspace.sessionPrefix with
  | (.error e, l) => (.error e, l)
  | (.ok w, l) =>
    match l.writeSource w dumpSource (u.wrapped (moduleName l.now)) with
    | (.error e, w, l) => (.error e, l.dispose w)
    | (.ok _, w, l) =>
      let command := (Toolchain.ofSettings s).dumpAst dumpSource w.directory
      let (result, l) := l.run launch (.ofSettings s) command s.compilationTimeoutMs
      (dumpOf result, l.dispose w)

def tryEnhance (launch : Launcher) (s : Settings) (u : SourceUnit) (tokens : List Token) (l : Lab) :
    Except Failure (List Token) × Lab :=
  let (dump, l) := l.dumpAst launch s u
  (dump.map fun dump => (SymbolMap.mine dump).merge tokens, l)

/-- The tokens as they were if there is no dump. -/
def enhance (launch : Launcher) (s : Settings) (u : SourceUnit) (tokens : List Token) (l : Lab) :
    List Token × Lab :=
  let (enhanced, l) := l.tryEnhance launch s u tokens
  (enhanced.toOption.getD tokens, l)

/-- Only the length of the raw text is refused; a blank text needs no compiler. -/
def analyze (launch : Launcher) (s : Settings) (source : String) (l : Lab) : AnalysisResponse × Lab :=
  if s.maxSourceLength < source.length then
    (.failed ("Syntax analysis failed: source code exceeds maximum length of "
      ++ toString s.maxSourceLength ++ " characters") 0, l)
  else
    let startedAt := l.now
    let u := SourceUnit.forAnalysis source
    let tokens := Lexer.tokenize u.text
    let (tokens, l) := if u.isBlank then (tokens, l) else l.enhance launch s u tokens
    (.ok tokens (l.now - startedAt), l)

end SnippetLab.Lab
