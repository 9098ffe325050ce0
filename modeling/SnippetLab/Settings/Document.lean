import SnippetLab.Json.Reader
import SnippetLab.Settings.Basic
import SnippetLab.Text.Escaped
import SnippetLab.Text.Shortest

/-!
Settings as a JSON document. Fields are read in the order of the document and the first problem wins;
fields that are missing are reported last, in the order of declaration. A list of values stands for the
fields in that order.
-/
namespace SnippetLab

namespace Field

/-- What a field holds. -/
abbrev Value : Field → Type
  | compilerPath | tempDirectory => String
  | compileFlags | astFlags => List String
  | _ => Nat

def expected : Field → String
  | compilerPath | tempDirectory => "path string"
  | compileFlags | astFlags => "a sequence"
  | maxSourceLength | maxOutputLength | maxCaptureBytes => "usize"
  | _ => "u64"

end Field

inductive DocumentProblem
  | malformed (flaw : Json.Flaw)
  | missingField (f : Field)
  | duplicateField (f : Field)
  | invalidType (found : Json.Shape) (expected : String)
  | negative (n : Nat) (expected : String)
  /-- A list that ends before the field with this index. -/
  | invalidLength (n : Nat)
  deriving Repr

namespace DocumentProblem

def expectedDocument : String := "struct CompilerSettings"

def describe : Json.Shape → String
  | .null => "null"
  | .bool b => "boolean `" ++ (if b then "true" else "false") ++ "`"
  | .number (.natural n) => "integer `" ++ toString n ++ "`"
  | .number (.negative n) => "integer `-" ++ toString n ++ "`"
  | .number (.floating x) => "floating point `" ++ Text.shortestDecimal x ++ "`"
  | .text s => "string " ++ Text.quoted s
  | .list => "sequence"
  | .record => "map"

def message : DocumentProblem → String
  | malformed flaw => flaw.message
  | missingField f => "missing field `" ++ f.name ++ "`"
  | duplicateField f => "duplicate field `" ++ f.name ++ "`"
  | invalidType found expected => "invalid type: " ++ describe found ++ ", expected " ++ expected
  | negative n expected => "invalid value: integer `-" ++ toString n ++ "`, expected " ++ expected
  | invalidLength n =>
    "invalid length " ++ toString n ++ ", expected " ++ expectedDocument ++ " with 14 elements"

end DocumentProblem

abbrev DocumentError := Located DocumentProblem

def DocumentError.message (e : DocumentError) : String := Located.message DocumentProblem.message e

instance : MonadLift Json.Scan (Except DocumentError) where
  monadLift r := r.mapError (·.map .malformed)

namespace Settings

open Json (Cursor)

abbrev Reading := Except DocumentError

/-- A value of another type than expected, located behind it if it is a scalar. -/
def mismatch {α : Type} (expected : String) (c : Cursor) : Reading (α × Cursor) := do
  let (found, c) ← Json.shape c
  .error ⟨.invalidType found expected, c.position⟩

def readText (expected : String) (c : Cursor) : Reading (String × Cursor) := do
  let c ← Json.front c
  if c.rest.head? = some '"' then Json.scanText (c.drop 1) else mismatch expected c

/-- A negative integer has the right type and a wrong value. -/
def readCount (expected : String) (c : Cursor) : Reading (Nat × Cursor) := do
  let (found, c) ← Json.shape (← Json.front c)
  match found with
  | .number (.natural n) => return (n, c)
  | .number (.negative n) => .error ⟨.negative n expected, c.position⟩
  | found => .error ⟨.invalidType found expected, c.position⟩

def readItems (fuel : Nat) (first : Bool) (c : Cursor) : Reading (List String × Cursor) :=
  match fuel with
  | 0 => .error ⟨.malformed .endInList, c.position⟩
  | fuel + 1 => do
    match ← Json.nextItem first c with
    | .closed c => return ([], c)
    | .part c =>
      let (item, c) ← readText "a string" c
      let (items, c) ← readItems fuel false c
      return (item :: items, c)

def readTexts (expected : String) (c : Cursor) : Reading (List String × Cursor) := do
  let c ← Json.front c
  if c.rest.head? = some '[' then readItems c.fuel true (c.drop 1) else mismatch expected c

def readField : (f : Field) → Cursor → Reading (f.Value × Cursor)
  | .compilerPath, c => readText Field.compilerPath.expected c
  | .tempDirectory, c => readText Field.tempDirectory.expected c
  | .compilationTimeoutMs, c => readCount Field.compilationTimeoutMs.expected c
  | .executionTimeoutMs, c => readCount Field.executionTimeoutMs.expected c
  | .maxSourceLength, c => readCount Field.maxSourceLength.expected c
  | .maxOutputLength, c => readCount Field.maxOutputLength.expected c
  | .compileFlags, c => readTexts Field.compileFlags.expected c
  | .astFlags, c => readTexts Field.astFlags.expected c
  | .sweepIntervalSecs, c => readCount Field.sweepIntervalSecs.expected c
  | .sweepMinAgeMs, c => readCount Field.sweepMinAgeMs.expected c
  | .killGraceMs, c => readCount Field.killGraceMs.expected c
  | .drainGraceMs, c => readCount Field.drainGraceMs.expected c
  | .maxCaptureBytes, c => readCount Field.maxCaptureBytes.expected c
  | .staleWorkspaceAgeSecs, c => readCount Field.staleWorkspaceAgeSecs.expected c

abbrev Given := (f : Field) → Option f.Value

namespace Given

def none : Given := fun _ => Option.none

def set (g : Given) (f : Field) (value : f.Value) : Given :=
  fun f' => if h : f = f' then some (h ▸ value) else g f'

def settings (g : Given) (missing : Field → DocumentError) : Reading Settings := do
  let need (f : Field) : Reading f.Value :=
    match g f with
    | some value => .ok value
    | Option.none => .error (missing f)
  let default : Settings := {}
  return {
    compilerPath := ← need .compilerPath
    tempDirectory := ← need .tempDirectory
    compilationTimeoutMs := ← need .compilationTimeoutMs
    executionTimeoutMs := ← need .executionTimeoutMs
    maxSourceLength := ← need .maxSourceLength
    maxOutputLength := ← need .maxOutputLength
    compileFlags := (g .compileFlags).getD default.compileFlags
    astFlags := (g .astFlags).getD default.astFlags
    sweepIntervalSecs := (g .sweepIntervalSecs).getD default.sweepIntervalSecs
    sweepMinAgeMs := (g .sweepMinAgeMs).getD default.sweepMinAgeMs
    killGraceMs := (g .killGraceMs).getD default.killGraceMs
    drainGraceMs := (g .drainGraceMs).getD default.drainGraceMs
    maxCaptureBytes := (g .maxCaptureBytes).getD default.maxCaptureBytes
    staleWorkspaceAgeSecs := (g .staleWorkspaceAgeSecs).getD default.staleWorkspaceAgeSecs }

end Given

/-- The position of a field that is there twice: after its key, or after the record if that ends here. -/
def repeated (c : Cursor) : Position :=
  let c := c.skipSpace
  if c.rest.head? = some '\x7d' then (c.drop 1).position else c.position

def readRecord (fuel : Nat) (first : Bool) (g : Given) (c : Cursor) : Reading (Settings × Cursor) :=
  match fuel with
  | 0 => .error ⟨.malformed .endInRecord, c.position⟩
  | fuel + 1 => do
    match ← Json.nextKey first c with
    | .closed c => return (← g.settings fun f => ⟨.missingField f, c.position⟩, c)
    | .part c =>
      let (name, c) ← Json.scanText c
      match Field.ofName? name with
      | some f =>
        if (g f).isSome then .error ⟨.duplicateField f, repeated c⟩
        else
          let (value, c) ← readField f (← Json.colon c)
          readRecord fuel false (g.set f value) c
      | none => readRecord fuel false g (← Json.pass (← Json.colon c))

/-- The fields of a list in the order of declaration; it may end early but not go on. -/
def readList (first : Bool) (g : Given) : List Field → Cursor → Reading (Settings × Cursor)
  | [], c => do
    let c ← Json.closeList c
    return (← g.settings fun f => ⟨.missingField f, c.position⟩, c)
  | f :: fields, c => do
    match ← Json.nextItem first c with
    | .closed c => return (← g.settings fun f => ⟨.invalidLength (Field.all.idxOf f), c.position⟩, c)
    | .part c =>
      let (value, c) ← readField f c
      readList false (g.set f value) fields c

def ofDocument (text : String) : Reading Settings := do
  let c ← Json.front (Cursor.ofString text)
  let (settings, c) ← match c.rest with
    | '[' :: _ => readList true Given.none Field.all (c.drop 1)
    | '\x7b' :: _ => readRecord c.fuel true Given.none (c.drop 1)
    | _ => mismatch DocumentProblem.expectedDocument c
  Json.finish c
  return settings

end Settings
end SnippetLab
