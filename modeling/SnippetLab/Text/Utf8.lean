/-!
UTF-8 over lists of octets. Decoding never fails: each longest stretch of octets that begins a
character but does not complete it, and each octet that begins none, becomes one U+FFFD.
-/
namespace SnippetLab.Text.Utf8

def encode (cs : List Char) : List UInt8 := cs.flatMap String.utf8EncodeChar

/-- A character some of whose octets are read: its bits so far, how many octets it still needs and
the range of the next one. -/
structure Pending where
  bits : Nat
  needed : Nat
  low : Nat
  high : Nat
  deriving DecidableEq, Repr

/-- What an octet between characters begins. -/
inductive Lead
  | whole (c : Char)
  | begins (p : Pending)
  | none
  deriving DecidableEq, Repr

def lead (b : Nat) : Lead :=
  if b ≤ 0x7F then .whole (Char.ofNat b)
  else if 0xC2 ≤ b ∧ b ≤ 0xDF then .begins ⟨b - 0xC0, 1, 0x80, 0xBF⟩
  else if b = 0xE0 then .begins ⟨0, 2, 0xA0, 0xBF⟩
  else if b = 0xED then .begins ⟨0xD, 2, 0x80, 0x9F⟩
  else if 0xE1 ≤ b ∧ b ≤ 0xEF then .begins ⟨b - 0xE0, 2, 0x80, 0xBF⟩
  else if b = 0xF0 then .begins ⟨0, 3, 0x90, 0xBF⟩
  else if 0xF1 ≤ b ∧ b ≤ 0xF3 then .begins ⟨b - 0xF0, 3, 0x80, 0xBF⟩
  else if b = 0xF4 then .begins ⟨4, 3, 0x80, 0x8F⟩
  else .none

structure Decoder where
  read : List Char
  pending : Option Pending
  deriving DecidableEq, Repr

def Decoder.begin (read : List Char) (b : Nat) : Decoder :=
  match lead b with
  | .whole c => ⟨c :: read, none⟩
  | .begins p => ⟨read, some p⟩
  | .none => ⟨'\uFFFD' :: read, none⟩

def Decoder.step (d : Decoder) (octet : UInt8) : Decoder :=
  let b := octet.toNat
  match d.pending with
  | none => begin d.read b
  | some p =>
    if p.low ≤ b ∧ b ≤ p.high then
      let bits := p.bits * 64 + (b - 0x80)
      if p.needed = 1 then ⟨Char.ofNat bits :: d.read, none⟩
      else ⟨d.read, some ⟨bits, p.needed - 1, 0x80, 0xBF⟩⟩
    else begin ('\uFFFD' :: d.read) b

/-- A character cut off by the end counts as one stretch. -/
def Decoder.finish (d : Decoder) : List Char :=
  match d.pending with
  | none => d.read.reverse
  | some _ => ('\uFFFD' :: d.read).reverse

def decodeLossy (octets : List UInt8) : List Char :=
  (octets.foldl Decoder.step ⟨[], none⟩).finish

def decode? (octets : List UInt8) : Option (List Char) :=
  let cs := decodeLossy octets
  if encode cs = octets then some cs else none

end SnippetLab.Text.Utf8

/-!
Octets as characters. In the texts of scripts and programs each character is below 256 and stands for one
octet, so that texts which are no UTF-8 are texts too.
-/
namespace SnippetLab.Text.Octets

def ofOctet (b : UInt8) : Char := Char.ofNat b.toNat

def toOctet (c : Char) : UInt8 := UInt8.ofNat c.toNat

def ofList (octets : List UInt8) : List Char := octets.map ofOctet

def toList (cs : List Char) : List UInt8 := cs.map toOctet

def isAscii (s : String) : Bool := s.toList.all fun c => c.toNat < 128

def spread (s : String) : String :=
  if isAscii s then s else String.ofList (ofList (Utf8.encode s.toList))

def gather (s : String) : String :=
  if isAscii s then s else String.ofList (Utf8.decodeLossy (toList s.toList))

end SnippetLab.Text.Octets
