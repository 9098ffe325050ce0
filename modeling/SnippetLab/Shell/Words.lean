import SnippetLab.Shell.Expand
import SnippetLab.Shell.Job

/-! Whole words: as fields, as texts and as patterns. -/
namespace SnippetLab.Shell.Words

open SnippetLab.Machine

def depth : Nat := 100000

def expand (i : Interpreter) (m : Expand.Mode) (w : Word) : Action Expansion := do
  (Expand.inner i (Job.startChild .substitution) depth).pieces m w {}

def matched (field : List Glyph) : Action (List String) := do
  let own := String.ofList (Glyph.text field)
  let pattern := Glyph.pattern field
  if (← get).hasOption 'f' || !Pattern.isProper pattern then return [own]
  match ← Action.routine (Routine.query fun pid k => Glob.paths k.tree (k.cwd pid) pattern) with
  | [] => return [own]
  | paths => return paths

def fields (i : Interpreter) (w : Word) : Action (List String) := do
  match w.plain? with
  | some text =>
    if !text.isEmpty && text.toList.all (fun c => isNameChar c || c = '-' || c = '/' || c = '.') then return [text]
    full w
  | none => full w
where
  full (w : Word) : Action (List String) := do
    let e ← expand i { isFull := true, tilde := true } w
    let fields ← (Fields.split (← get).separators e).mapM matched
    return fields.flatten

def allFields (i : Interpreter) (ws : List Word) : Action (List String) := do
  return (← ws.mapM (fields i)).flatten

def text (i : Interpreter) (w : Word) : Action String := do
  return String.ofList (Glyph.text (← expand i { tilde := true } w).glyphs.reverse)

def assignment (i : Interpreter) (w : Word) : Action String := do
  return String.ofList (Glyph.text (← expand i { assigns := true } w).glyphs.reverse)

def pattern (i : Interpreter) (w : Word) : Action (List Char) := do
  return Glyph.pattern (← expand i { tilde := true } w).glyphs.reverse

def document (i : Interpreter) (w : Word) : Action (List Char) := do
  return Glyph.text (← expand i { isQuoted := true } w).glyphs.reverse

end SnippetLab.Shell.Words
