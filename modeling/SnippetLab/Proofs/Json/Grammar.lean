import SnippetLab.Json.Literal
import SnippetLab.Json.Number

/-!
What JSON looks like, apart from how it is read. The names of a document have to be Unicode texts; further inside it
escapes of surrogates need not pair up.
-/
namespace SnippetLab.Json

def IsBlank (cs : List Char) : Prop := ∀ c ∈ cs, isSpace c = true

/-! Literals -/

def IsPlain (c : Char) : Prop := c ≠ '"' ∧ c ≠ '\\' ∧ 0x20 ≤ c.toNat

/-- What may stand between the quotes of a literal. -/
inductive IsLiteral : List Char → Prop
  | nil : IsLiteral []
  | plain {c : Char} {cs : List Char} (hc : IsPlain c) (rest : IsLiteral cs) : IsLiteral (c :: cs)
  | escape {c e : Char} {cs : List Char} (he : unescape? c = some e) (rest : IsLiteral cs) : IsLiteral ('\\' :: c :: cs)
  | unit {a b c d : Char} {n : Nat} {cs : List Char} (hn : hex4? a b c d = some n) (rest : IsLiteral cs) :
      IsLiteral ('\\' :: 'u' :: a :: b :: c :: d :: cs)

/-- A unit that begins the escape of a character in two units, and one that ends it. -/
def IsLead (n : Nat) : Prop := 0xD800 ≤ n ∧ n ≤ 0xDBFF

def IsTrail (n : Nat) : Prop := 0xDC00 ≤ n ∧ n ≤ 0xDFFF

instance : DecidablePred IsLead := fun _ => inferInstanceAs (Decidable (_ ∧ _))

instance : DecidablePred IsTrail := fun _ => inferInstanceAs (Decidable (_ ∧ _))

/-- The character of two surrogates. -/
def ofPair (lead trail : Nat) : Char := Char.ofNat (0x10000 + (lead - 0xD800) * 0x400 + (trail - 0xDC00))

/-- What stands between the quotes, and the text that it means. -/
inductive Spells : List Char → List Char → Prop
  | nil : Spells [] []
  | plain {c : Char} {cs text : List Char} (hc : IsPlain c) (rest : Spells cs text) : Spells (c :: cs) (c :: text)
  | escape {c e : Char} {cs text : List Char} (he : unescape? c = some e) (rest : Spells cs text) :
      Spells ('\\' :: c :: cs) (e :: text)
  | unit {a b c d : Char} {n : Nat} {cs text : List Char} (hn : hex4? a b c d = some n) (hlead : ¬IsLead n)
      (htrail : ¬IsTrail n) (rest : Spells cs text) :
      Spells ('\\' :: 'u' :: a :: b :: c :: d :: cs) (Char.ofNat n :: text)
  | pair {a b c d a' b' c' d' : Char} {m n : Nat} {cs text : List Char} (hm : hex4? a b c d = some m) (hlead : IsLead m)
      (hn : hex4? a' b' c' d' = some n) (htrail : IsTrail n) (rest : Spells cs text) :
      Spells ('\\' :: 'u' :: a :: b :: c :: d :: '\\' :: 'u' :: a' :: b' :: c' :: d' :: cs) (ofPair m n :: text)

/-! Numbers -/

def AreDigits (ds : List Char) : Prop := ds ≠ [] ∧ ∀ d ∈ ds, d.isDigit = true

namespace Digits

/-- No zero before other digits. -/
def IsWhole (ds : List Char) : Prop := AreDigits ds ∧ ∀ rest, ds = '0' :: rest → rest = []

inductive IsFraction : List Char → List Char → Prop
  | none : IsFraction [] []
  | some {ds : List Char} (h : AreDigits ds) : IsFraction ds ('.' :: ds)

inductive IsSign : Bool → List Char → Prop
  | none : IsSign false []
  | plus : IsSign false ['+']
  | minus : IsSign true ['-']

inductive IsExponent : Option (Bool × List Char) → List Char → Prop
  | none : IsExponent none []
  | some {e : Char} {negative : Bool} {sign ds : List Char} (he : e = 'e' ∨ e = 'E') (hsign : IsSign negative sign)
      (h : AreDigits ds) : IsExponent (some (negative, ds)) (e :: (sign ++ ds))

/-- A number without its sign, and how it is written. -/
inductive IsWritten : Digits → List Char → Prop
  | mk {whole fraction fs es : List Char} {exponent : Option (Bool × List Char)} (hwhole : IsWhole whole)
      (hfraction : IsFraction fraction fs) (hexponent : IsExponent exponent es) :
      IsWritten ⟨whole, fraction, exponent⟩ (whole ++ (fs ++ es))

end Digits

/-! Values -/

/-- What stands before a part: blanks, with a comma among them unless the part is the first. -/
inductive Lead : Bool → List Char → Prop
  | first {blank : List Char} (h : IsBlank blank) : Lead true blank
  | comma {before after : List Char} (hbefore : IsBlank before) (hafter : IsBlank after) :
      Lead false (before ++ ',' :: after)

/-- The parts of a list or a record, from the first or from a later one on. -/
inductive Listed {α : Type} (Written : α → List Char → Prop) : Bool → List α → List Char → Prop
  | nil {first : Bool} {blank : List Char} (h : IsBlank blank) : Listed Written first [] blank
  | cons {first : Bool} {x : α} {xs : List α} {lead cs rest : List Char} (hlead : Lead first lead) (h : Written x cs)
      (more : Listed Written false xs rest) : Listed Written first (x :: xs) (lead ++ (cs ++ rest))

/-- A name as it stands between the quotes, and the text of a value. -/
inductive IsMember (name value : List Char) : List Char → Prop
  | mk {before after : List Char} (hbefore : IsBlank before) (hafter : IsBlank after) :
      IsMember name value ('"' :: (name ++ '"' :: (before ++ ':' :: (after ++ value))))

inductive IsValue : List Char → Prop
  | null : IsValue ['n', 'u', 'l', 'l']
  | isTrue : IsValue ['t', 'r', 'u', 'e']
  | isFalse : IsValue ['f', 'a', 'l', 's', 'e']
  | text {cs : List Char} (h : IsLiteral cs) : IsValue ('"' :: (cs ++ ['"']))
  | number {d : Digits} {cs : List Char} (h : d.IsWritten cs) : IsValue cs
  | negative {d : Digits} {cs : List Char} (h : d.IsWritten cs) : IsValue ('-' :: cs)
  | list {items : List (List Char)} {cs : List Char} (h : ∀ item ∈ items, IsValue item)
      (written : Listed Eq true items cs) : IsValue ('[' :: (cs ++ [']']))
  | record {members : List (List Char × List Char)} {cs : List Char} (names : ∀ m ∈ members, IsLiteral m.1)
      (values : ∀ m ∈ members, IsValue m.2) (written : Listed (fun m => IsMember m.1 m.2) true members cs) :
      IsValue ('\x7b' :: (cs ++ ['\x7d']))

/-! Documents -/

def IsNamed (m : String × List Char) (cs : List Char) : Prop := ∃ name, Spells name m.1.toList ∧ IsMember name m.2 cs

/-- A document that is a record, with the names of its members and the texts of their values. -/
inductive IsRecordText (members : List (String × List Char)) : List Char → Prop
  | mk {before cs after : List Char} (hbefore : IsBlank before) (values : ∀ m ∈ members, IsValue m.2)
      (written : Listed IsNamed true members cs) (hafter : IsBlank after) :
      IsRecordText members (before ++ '\x7b' :: (cs ++ '\x7d' :: after))

inductive IsListText (items : List (List Char)) : List Char → Prop
  | mk {before cs after : List Char} (hbefore : IsBlank before) (h : ∀ item ∈ items, IsValue item)
      (written : Listed Eq true items cs) (hafter : IsBlank after) :
      IsListText items (before ++ '[' :: (cs ++ ']' :: after))

end SnippetLab.Json
