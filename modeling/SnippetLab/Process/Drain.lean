import SnippetLab.Process.Child

/-! Reading the output of a process to its end while keeping no more than a limit of it. -/
namespace SnippetLab

inductive PipeRead
  | octets (chunk : List UInt8)
  | interrupted
  | failed
  deriving DecidableEq, Repr

namespace Drain

/-- Octets that one read brings at most. -/
def readSize : Nat := 8192

/-- Keeps the front of each chunk that still fits. An empty chunk is the end of the stream; so is a
failed read, and an interrupted one is tried again. -/
def readAll (limit : Nat) (kept : List UInt8) : List PipeRead → List UInt8
  | [] | .octets [] :: _ | .failed :: _ => kept
  | .octets chunk :: reads => readAll limit (kept ++ chunk.take (limit - kept.length)) reads
  | .interrupted :: reads => readAll limit kept reads

/-- Full reads of octets, with a last one for what is left. The fuel bounds their number. -/
def inReads : Nat → List UInt8 → List PipeRead
  | 0, _ => []
  | fuel + 1, octets =>
    if octets.isEmpty then [] else .octets (octets.take readSize) :: inReads fuel (octets.drop readSize)

def capture (limit : Nat) (octets : List UInt8) : List UInt8 :=
  readAll limit [] (inReads octets.length octets)

end Drain

/-- A reader of the output of one process. Once cancelled it yields nothing. -/
structure Drain where
  limit : Nat
  cancelled : Bool := false
  deriving DecidableEq, Repr

namespace Drain

/-- Waits for the end of the output, but no longer than the grace; yields the octets if they came in
time, and the time then. -/
def collect (d : Drain) (child : Child) (now grace : Nat) : Option (List UInt8) × Nat :=
  if d.cancelled then (none, now)
  else match child.pipeCloses with
    | some closed =>
      if closed ≤ now + grace then (some (capture d.limit child.behaviour.written), max now closed)
      else (none, now + grace)
    | none => (none, now + grace)

end Drain
end SnippetLab
