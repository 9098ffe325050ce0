import SnippetLab.Symbol.Rule

/-! Where a dump holds the user's own module, and what the rules find there. -/
namespace SnippetLab

open SnippetLab.Text

inductive LocateStrategy
  | beforeExecute
  | entryFunction
  | lastUserModule
  | tail
  deriving DecidableEq, Repr

def LocateStrategy.name : LocateStrategy → String
  | .beforeExecute => "BeforeExecute"
  | .entryFunction => "EntryFunction"
  | .lastUserModule => "LastUserModule"
  | .tail => "Tail"

structure UserSection where
  text : List Char
  strategy : LocateStrategy
  deriving DecidableEq, Repr

namespace UserSection

def executeMarker : List Char := "Execute:".toList

def entryMarker : List Char := "(EntryFn".toList

def moduleMarker : List Char := "(Module \"".toList

/-- Characters kept when no module is found. -/
def tailLength : Nat := 2000

def isSystemModule (name : String) : Bool :=
  startsWith name "стд::" || startsWith name "sys::" || startsWith name "runtime::"
    || ["builtin", "core", "system"].contains name

def untilExecute (cs : List Char) : List Char :=
  match find? executeMarker cs with
  | some stop => cs.take stop
  | none => cs

def beforeExecute? (dump : List Char) : Option UserSection := do
  let execute ← findLast? executeMarker dump
  if execute = 0 then none
  let start ← findLast? moduleMarker (dump.take execute)
  return ⟨trim ((dump.take execute).drop start), .beforeExecute⟩

def entryFunction? (dump : List Char) : Option UserSection := do
  let entry ← find? entryMarker dump
  let start ← findLast? moduleMarker (dump.take entry)
  return ⟨trim ((dump.take entry).drop start ++ untilExecute (dump.drop entry)), .entryFunction⟩

def lastUserModule? (dump : List Char) : Option UserSection := do
  let modules := (MiningRule.named "(Module \"" "").findAll dump
  let last ← (modules.filter fun m => !isSystemModule m.value.name).getLast?
  return ⟨trim (untilExecute (dump.drop last.start)), .lastUserModule⟩

def tail (dump : List Char) : UserSection := ⟨dump.drop (dump.length - tailLength), .tail⟩

def locate (dump : List Char) : UserSection :=
  ((beforeExecute? dump).or (entryFunction? dump) |>.or (lastUserModule? dump)).getD (tail dump)

end UserSection

/-! The symbol map of a dump. -/

namespace SymbolMap

def mineSection (userSection fullDump : List Char) : SymbolMap :=
  MiningRule.table.foldl (fun symbols r => r.apply userSection fullDump symbols) empty

/-- An empty section yields nothing, whatever the dump says. -/
def mine (dump : String) : SymbolMap :=
  let found := UserSection.locate dump.toList
  if found.text.isEmpty then empty else mineSection found.text dump.toList

end SymbolMap
end SnippetLab
