import SnippetLab.Json.Reader
import SnippetLab.Proofs.Except
import SnippetLab.Proofs.Json.Grammar

/-!
Scans of what is JSON. Each goes past the part that it is about and leaves what follows, at a position that nothing
here depends on.
-/
namespace SnippetLab.Json

/-- The scan succeeds up to the rest. -/
def Leaves (r : Scan Cursor) (rest : List Char) : Prop := ∃ p, r = .ok ⟨rest, p⟩

variable {c : Char} {cs rest blank : List Char} {first : Bool}

/-! Blanks -/

theorem isBlank_nil : IsBlank [] := by simp [IsBlank]

theorem drop_one_cons (c : Char) (cs : List Char) (p : Position) :
    Cursor.drop 1 ⟨c :: cs, p⟩ = ⟨cs, p.past c⟩ := rfl

theorem skipSpace_append (h : IsBlank blank) (rest : List Char) (hrest : rest.takeWhile isSpace = []) (p : Position) :
    ∃ p', Cursor.skipSpace ⟨blank ++ rest, p⟩ = ⟨rest, p'⟩ := by
  have htake : (blank ++ rest).takeWhile isSpace = blank := by
    rw [List.takeWhile_append_of_pos h, hrest, List.append_nil]
  rw [Cursor.skipSpace, Cursor.drop, htake, List.drop_left]
  exact ⟨_, rfl⟩

theorem skipSpace_cons (h : IsBlank blank) (hc : isSpace c = false) (cs : List Char) (p : Position) :
    ∃ p', Cursor.skipSpace ⟨blank ++ c :: cs, p⟩ = ⟨c :: cs, p'⟩ :=
  skipSpace_append h (c :: cs) (by simp [hc]) p

theorem front_leaves (h : IsBlank blank) (hc : isSpace c = false) (cs : List Char) (p : Position) :
    Leaves (front ⟨blank ++ c :: cs, p⟩) (c :: cs) := by
  obtain ⟨p', hskip⟩ := skipSpace_cons h hc cs p
  refine ⟨p', ?_⟩
  rw [front, hskip]
  rfl

theorem colon_leaves (h : IsBlank blank) (rest : List Char) (p : Position) :
    Leaves (colon ⟨blank ++ ':' :: rest, p⟩) rest := by
  obtain ⟨p', hskip⟩ := skipSpace_cons (c := ':') h (by decide) rest p
  rw [colon, hskip]
  exact ⟨_, rfl⟩

theorem finish_eq_ok (h : IsBlank blank) (p : Position) : finish ⟨blank, p⟩ = .ok () := by
  obtain ⟨p', hskip⟩ := skipSpace_append h [] rfl p
  rw [List.append_nil] at hskip
  rw [finish, hskip]
  rfl

/-! The parts of lists and records -/

theorem Lead.skip {lead : List Char} (h : Lead first lead) (hc : isSpace c = false) (cs : List Char) (p : Position) :
    (first = true ∧ ∃ p', Cursor.skipSpace ⟨lead ++ c :: cs, p⟩ = ⟨c :: cs, p'⟩) ∨
      first = false ∧ ∃ p' p'' after, Cursor.skipSpace ⟨lead ++ c :: cs, p⟩ = ⟨',' :: after, p'⟩ ∧
        Cursor.skipSpace ⟨after, p'.past ','⟩ = ⟨c :: cs, p''⟩ := by
  cases h with
  | first h => exact .inl ⟨rfl, skipSpace_cons h hc cs p⟩
  | @comma before after hbefore hafter =>
    obtain ⟨p', hskip⟩ := skipSpace_cons (c := ',') hbefore (by decide) (after ++ c :: cs) p
    obtain ⟨p'', hskip'⟩ := skipSpace_cons hafter hc cs (p'.past ',')
    exact .inr ⟨rfl, p', p'', _, by rw [List.append_assoc]; exact hskip, hskip'⟩

theorem nextItem_closed (first : Bool) (h : IsBlank blank) (rest : List Char) (p : Position) :
    ∃ p', nextItem first ⟨blank ++ ']' :: rest, p⟩ = .ok (.closed ⟨rest, p'⟩) := by
  obtain ⟨p', hskip⟩ := skipSpace_cons (c := ']') h (by decide) rest p
  rw [nextItem, hskip]
  exact ⟨_, rfl⟩

theorem nextItem_part {lead : List Char} (h : Lead first lead) (hfront : isSpace c = false) (hc : c ≠ ']')
    (cs : List Char) (p : Position) :
    ∃ p', nextItem first ⟨lead ++ c :: cs, p⟩ = .ok (.part ⟨c :: cs, p'⟩) := by
  obtain ⟨rfl, p', hskip⟩ | ⟨rfl, p', p'', after, hskip, hskip'⟩ := h.skip hfront cs p
  · exact ⟨p', by simp [nextItem, hskip]⟩
  · exact ⟨p'', by simp [nextItem, hskip, drop_one_cons, hskip', hc]⟩

theorem closeList_leaves (h : IsBlank blank) (rest : List Char) (p : Position) :
    Leaves (closeList ⟨blank ++ ']' :: rest, p⟩) rest := by
  obtain ⟨p', hskip⟩ := skipSpace_cons (c := ']') h (by decide) rest p
  rw [closeList, hskip]
  exact ⟨_, rfl⟩

theorem nextKey_closed (first : Bool) (h : IsBlank blank) (rest : List Char) (p : Position) :
    ∃ p', nextKey first ⟨blank ++ '\x7d' :: rest, p⟩ = .ok (.closed ⟨rest, p'⟩) := by
  obtain ⟨p', hskip⟩ := skipSpace_cons (c := '\x7d') h (by decide) rest p
  rw [nextKey, hskip]
  exact ⟨_, rfl⟩

theorem nextKey_part {lead : List Char} (h : Lead first lead) (cs : List Char) (p : Position) :
    ∃ p', nextKey first ⟨lead ++ '"' :: cs, p⟩ = .ok (.part ⟨cs, p'⟩) := by
  obtain ⟨rfl, p', hskip⟩ | ⟨rfl, p', p'', after, hskip, hskip'⟩ := h.skip (c := '"') (by decide) cs p
  · exact ⟨_, by simp [nextKey, hskip, drop_one_cons]; rfl⟩
  · exact ⟨_, by simp [nextKey, hskip, drop_one_cons, hskip']; rfl⟩

/-! Literals -/

section Literals

variable {lit text : List Char} {l : Literal}

theorem ne_u_of_unescape? {e : Char} (h : unescape? c = some e) : c ≠ 'u' := by
  rintro rfl
  cases h

theorem passLiteral_leaves (h : IsLiteral lit) (rest : List Char) (p : Position) :
    Leaves (passLiteral p (lit ++ '"' :: rest)) rest := by
  induction h generalizing p with
  | nil =>
    rw [List.nil_append, passLiteral]
    exact ⟨_, rfl⟩
  | @plain c cs hc _ ih =>
    have hstep : passLiteral p (c :: (cs ++ '"' :: rest)) = passLiteral (p.past c) (cs ++ '"' :: rest) := by
      simp [passLiteral, hc.1, hc.2.1, Nat.not_lt.mpr hc.2.2]
    rw [List.cons_append, hstep]
    exact ih _
  | @escape c e cs he _ ih =>
    have hstep : passLiteral p ('\\' :: c :: (cs ++ '"' :: rest)) =
        passLiteral (p.advance 2 ('\\' :: c :: (cs ++ '"' :: rest))) (cs ++ '"' :: rest) := by
      simp [passLiteral, ne_u_of_unescape? he, he]
    rw [List.cons_append, List.cons_append, hstep]
    exact ih _
  | @unit a b c d n cs hn _ ih =>
    simp only [List.cons_append, passLiteral, hn]
    exact ih _

/-! A literal so far that waits for a partner of a surrogate takes nothing else. -/

theorem scanLiteral_of_waiting {lead : Nat} (hl : l.waiting = some lead) (hcs : ∀ rest, cs ≠ '\\' :: 'u' :: rest)
    (p : Position) (found : String × Cursor) : scanLiteral l p cs ≠ .ok found := by
  have hflaw : ∃ flaw, l.interrupted? ⟨cs, p⟩ = some flaw := by
    rw [Literal.interrupted?, hl]
    rw [if_neg (by simp)]
    split
    · next rest heq => exact absurd heq (hcs rest)
    all_goals exact ⟨_, rfl⟩
  obtain ⟨flaw, hflaw⟩ := hflaw
  rw [scanLiteral.eq_def, hflaw]
  simp

theorem not_interrupted (hl : l.waiting = none) (c : Cursor) : l.interrupted? c = none := by
  simp [Literal.interrupted?, hl]

theorem scanLiteral_quote (hl : l.waiting = none) (rest : List Char) (p : Position) :
    scanLiteral l p ('"' :: rest) = .ok (String.ofList l.read.reverse, ⟨rest, p.past '"'⟩) := by
  simp [scanLiteral, not_interrupted hl]

theorem scanLiteral_plain (hl : l.waiting = none) (hc : IsPlain c) (cs : List Char) (p : Position) :
    scanLiteral l p (c :: cs) = scanLiteral (l.push c) (p.past c) cs := by
  simp [scanLiteral, not_interrupted hl, hc.1, hc.2.1, Nat.not_lt.mpr hc.2.2]

theorem scanLiteral_escape {e : Char} (hl : l.waiting = none) (he : unescape? c = some e) (cs : List Char)
    (p : Position) : scanLiteral l p ('\\' :: c :: cs) = scanLiteral (l.push e) (p.advance 2 ('\\' :: c :: cs)) cs := by
  simp [scanLiteral, not_interrupted hl, ne_u_of_unescape? he, he]

theorem scanLiteral_unit {a b c d : Char} {n : Nat} (hn : hex4? a b c d = some n) (cs : List Char) (p : Position) :
    ∃ p', scanLiteral l p ('\\' :: 'u' :: a :: b :: c :: d :: cs) =
      match l.unit? n with
      | some l => scanLiteral l p' cs
      | none => flawAt .loneSurrogate p' := by
  have hgoes : l.interrupted? ⟨'\\' :: 'u' :: a :: b :: c :: d :: cs, p⟩ = none := by simp [Literal.interrupted?]
  refine ⟨p.advance 6 ('\\' :: 'u' :: a :: b :: c :: d :: cs), ?_⟩
  rw [scanLiteral.eq_def, hgoes]
  cases hunit : l.unit? n <;> simp [hn, hunit]

theorem unit?_of_none (hl : l.waiting = none) (n : Nat) :
    l.unit? n = if IsTrail n then none else if IsLead n then some { l with waiting := some n }
      else some (l.push (Char.ofNat n)) := by
  rw [Literal.unit?, hl]
  rfl

theorem unit?_of_waiting {lead : Nat} (hl : l.waiting = some lead) (n : Nat) :
    l.unit? n = if IsTrail n then some ⟨ofPair lead n :: l.read, none⟩ else none := by
  rw [Literal.unit?, hl]
  rfl

theorem IsLead.not_isTrail {n : Nat} (h : IsLead n) : ¬IsTrail n := by
  unfold IsLead IsTrail at *
  omega

theorem scanLiteral_of_spells (h : Spells lit text) (hl : l.waiting = none) (rest : List Char) (p : Position) :
    ∃ p', scanLiteral l p (lit ++ '"' :: rest) = .ok (String.ofList (l.read.reverse ++ text), ⟨rest, p'⟩) := by
  induction h generalizing l p with
  | nil =>
    rw [List.nil_append, List.append_nil, scanLiteral_quote hl]
    exact ⟨_, rfl⟩
  | @plain c cs text hc _ ih =>
    rw [List.cons_append, scanLiteral_plain hl hc]
    simpa [Literal.push] using ih (l := l.push c) hl _
  | @escape c e cs text he _ ih =>
    rw [List.cons_append, List.cons_append, scanLiteral_escape hl he]
    simpa [Literal.push] using ih (l := l.push e) hl _
  | @unit a b c d n cs text hn hlead htrail _ ih =>
    obtain ⟨p', hstep⟩ := scanLiteral_unit (l := l) hn (cs ++ '"' :: rest) p
    simp only [List.cons_append, hstep, unit?_of_none hl, if_neg htrail, if_neg hlead]
    simpa [Literal.push] using ih (l := l.push (Char.ofNat n)) hl p'
  | @pair a b c d a' b' c' d' m n cs text hm hlead hn htrail _ ih =>
    obtain ⟨p', hstep⟩ := scanLiteral_unit (l := l) hm ('\\' :: 'u' :: a' :: b' :: c' :: d' :: (cs ++ '"' :: rest)) p
    obtain ⟨p'', hstep'⟩ := scanLiteral_unit (l := { l with waiting := some m }) hn (cs ++ '"' :: rest) p'
    simp only [List.cons_append, hstep, unit?_of_none hl, if_neg hlead.not_isTrail, if_pos hlead, hstep',
      unit?_of_waiting (l := { l with waiting := some m }) rfl, if_pos htrail]
    simpa using ih (l := ⟨ofPair m n :: l.read, none⟩) rfl p''

theorem spells_of_scanLiteral {found : String × Cursor} (h : IsLiteral lit)
    (hscan : scanLiteral l p (lit ++ '"' :: rest) = .ok found) :
    (l.waiting = none → ∃ text, Spells lit text ∧ found.1 = String.ofList (l.read.reverse ++ text)) ∧
      ∀ lead, l.waiting = some lead → ∃ a b c d n cs text, lit = '\\' :: 'u' :: a :: b :: c :: d :: cs ∧
        hex4? a b c d = some n ∧ IsTrail n ∧ Spells cs text ∧
        found.1 = String.ofList (l.read.reverse ++ ofPair lead n :: text) := by
  induction h generalizing l p with
  | nil =>
    refine ⟨fun hl => ⟨[], .nil, ?_⟩, fun lead hl => ?_⟩
    · rw [List.nil_append, scanLiteral_quote hl] at hscan
      cases hscan
      rw [List.append_nil]
    · exact absurd hscan (scanLiteral_of_waiting hl (by simp) p found)
  | @plain c cs hc _ ih =>
    refine ⟨fun hl => ?_, fun lead hl => ?_⟩
    · rw [List.cons_append, scanLiteral_plain hl hc] at hscan
      obtain ⟨text, hspells, hfound⟩ := (ih hscan).1 hl
      exact ⟨c :: text, .plain hc hspells, by simpa [Literal.push] using hfound⟩
    · exact absurd hscan (scanLiteral_of_waiting hl (by simp [hc.2.1]) p found)
  | @escape c e cs he _ ih =>
    refine ⟨fun hl => ?_, fun lead hl => ?_⟩
    · rw [List.cons_append, List.cons_append, scanLiteral_escape hl he] at hscan
      obtain ⟨text, hspells, hfound⟩ := (ih hscan).1 hl
      exact ⟨e :: text, .escape he hspells, by simpa [Literal.push] using hfound⟩
    · exact absurd hscan (scanLiteral_of_waiting hl (by simp [ne_u_of_unescape? he]) p found)
  | @unit a b c d n cs hn _ ih =>
    obtain ⟨p', hstep⟩ := scanLiteral_unit (l := l) hn (cs ++ '"' :: rest) p
    simp only [List.cons_append, hstep] at hscan
    refine ⟨fun hl => ?_, fun lead hl => ?_⟩
    · rw [unit?_of_none hl] at hscan
      by_cases htrail : IsTrail n
      · simp [htrail, flawAt] at hscan
      · by_cases hlead : IsLead n
        · simp only [if_neg htrail, if_pos hlead] at hscan
          obtain ⟨a', b', c', d', n', cs', text, rfl, hn', htrail', hspells, hfound⟩ := (ih hscan).2 n rfl
          exact ⟨_, .pair hn hlead hn' htrail' hspells, hfound⟩
        · simp only [if_neg htrail, if_neg hlead] at hscan
          obtain ⟨text, hspells, hfound⟩ := (ih hscan).1 hl
          exact ⟨Char.ofNat n :: text, .unit hn hlead htrail hspells, by simpa [Literal.push] using hfound⟩
    · rw [unit?_of_waiting hl] at hscan
      by_cases htrail : IsTrail n
      · simp only [if_pos htrail] at hscan
        obtain ⟨text, hspells, hfound⟩ := (ih hscan).1 rfl
        exact ⟨a, b, c, d, n, cs, text, rfl, hn, htrail, hspells, by simpa using hfound⟩
      · simp [htrail, flawAt] at hscan

theorem Spells.isLiteral (h : Spells lit text) : IsLiteral lit := by
  induction h with
  | nil => exact .nil
  | plain hc _ ih => exact .plain hc ih
  | escape he _ ih => exact .escape he ih
  | unit hn _ _ _ ih => exact .unit hn ih
  | pair hm _ hn _ _ ih => exact .unit hm (.unit hn ih)

theorem scanText_of_spells {s : String} (h : Spells lit s.toList) (rest : List Char) (p : Position) :
    ∃ p', scanText ⟨lit ++ '"' :: rest, p⟩ = .ok (s, ⟨rest, p'⟩) := by
  have hscan := scanLiteral_of_spells h (l := {}) rfl rest p
  simpa [scanText] using hscan

theorem spells_of_scanText {found : String × Cursor} {p : Position} (h : IsLiteral lit)
    (hscan : scanText ⟨lit ++ '"' :: rest, p⟩ = .ok found) : Spells lit found.1.toList := by
  obtain ⟨text, hspells, hfound⟩ := (spells_of_scanLiteral h hscan).1 rfl
  rw [hfound]
  simpa using hspells

end Literals

/-! Numbers -/

def EndsDigits (cs : List Char) : Prop := ∀ c ∈ cs.head?, c.isDigit = false

def EndsNumber (cs : List Char) : Prop := ∀ c ∈ cs.head?, c.isDigit = false ∧ c ≠ '.' ∧ c ≠ 'e' ∧ c ≠ 'E'

theorem endsDigits_cons (h : c.isDigit = false) (cs : List Char) : EndsDigits (c :: cs) := by simp [EndsDigits, h]

theorem EndsNumber.endsDigits (h : EndsNumber cs) : EndsDigits cs := fun c hc => (h c hc).1

namespace Digits

variable {ds fs es : List Char} {exponent : Option (Bool × List Char)} {atEnd : Flaw} {d : Digits}

theorem someDigits_eq (h : AreDigits ds) (hrest : EndsDigits rest) (p : Position) :
    ∃ p', someDigits atEnd ⟨ds ++ rest, p⟩ = .ok (ds, ⟨rest, p'⟩) := by
  have hstop : rest.takeWhile Char.isDigit = [] := by
    cases rest with
    | nil => rfl
    | cons c rest => simp [hrest c rfl]
  have htake : (ds ++ rest).takeWhile Char.isDigit = ds := by
    rw [List.takeWhile_append_of_pos h.2, hstop, List.append_nil]
  obtain ⟨d, ds', rfl⟩ := List.exists_cons_of_ne_nil h.1
  rw [someDigits, Cursor.digits, htake, Cursor.drop, List.drop_left]
  exact ⟨_, rfl⟩

theorem scanWhole_eq (h : IsWhole ds) (hrest : EndsDigits rest) (p : Position) :
    ∃ p', scanWhole atEnd ⟨ds ++ rest, p⟩ = .ok (ds, ⟨rest, p'⟩) := by
  rw [scanWhole]
  split
  · next d after heq =>
    obtain ⟨x, ds', rfl⟩ := List.exists_cons_of_ne_nil h.1.1
    obtain ⟨rfl, htail⟩ := List.cons_eq_cons.mp heq
    obtain rfl := h.2 ds' rfl
    have hd : d.isDigit = false := hrest d (by rw [show rest = d :: after from htail]; rfl)
    rw [if_neg (by simp [hd])]
    exact ⟨_, rfl⟩
  · exact someDigits_eq h.1 hrest p

theorem scanFraction_eq (h : IsFraction ds fs) (hrest : EndsDigits rest) (hpoint : rest.head? ≠ some '.')
    (p : Position) : ∃ p', scanFraction atEnd ⟨fs ++ rest, p⟩ = .ok (ds, ⟨rest, p'⟩) := by
  cases h with
  | none =>
    rw [scanFraction, List.nil_append, if_neg hpoint]
    exact ⟨p, rfl⟩
  | some h => exact someDigits_eq h hrest _

theorem scanExponent_eq (h : IsExponent exponent es) (hrest : EndsNumber rest) (p : Position) :
    ∃ p', scanExponent atEnd ⟨es ++ rest, p⟩ = .ok (exponent, ⟨rest, p'⟩) := by
  cases h with
  | none =>
    refine ⟨p, ?_⟩
    rw [List.nil_append, scanExponent]
    cases rest with
    | nil => rfl
    | cons c rest => exact if_pos (hrest c rfl).2.2
  | @some e negative sign ds he hsign h =>
    have hletter : ¬(e ≠ 'e' ∧ e ≠ 'E') := fun hne => he.elim hne.1 hne.2
    have hdigits (p : Position) : ∃ p', someDigits atEnd ⟨ds ++ rest, p⟩ = .ok (ds, ⟨rest, p'⟩) :=
      someDigits_eq h hrest.endsDigits p
    obtain ⟨d, ds', rfl⟩ := List.exists_cons_of_ne_nil h.1
    have hd : d.isDigit = true := h.2 d (List.mem_cons_self ..)
    have hsigned : d ≠ '+' ∧ d ≠ '-' := by
      constructor <;>
      · rintro rfl
        cases hd
    simp only [List.cons_append, scanExponent, if_neg hletter]
    cases hsign with
    | none =>
      obtain ⟨p', hscan⟩ := hdigits (p.past e)
      rw [List.cons_append] at hscan
      exact ⟨p', by simp [hsigned, drop_one_cons, hscan, Except.map]⟩
    | plus =>
      obtain ⟨p', hscan⟩ := hdigits ((p.past e).past '+')
      exact ⟨p', congrArg (Except.map _) hscan⟩
    | minus =>
      obtain ⟨p', hscan⟩ := hdigits ((p.past e).past '-')
      exact ⟨p', congrArg (Except.map _) hscan⟩

theorem scanDigits_eq (h : d.IsWritten cs) (hrest : EndsNumber rest) (p : Position) :
    ∃ p', scanDigits atEnd ⟨cs ++ rest, p⟩ = .ok (d, ⟨rest, p'⟩) := by
  cases h with
  | @mk whole fraction fs es exponent hwhole hfraction hexponent =>
    -- neither digits nor a second point follow the parts
    have hes : EndsDigits (es ++ rest) ∧ (es ++ rest).head? ≠ some '.' := by
      cases hexponent with
      | none => exact ⟨hrest.endsDigits, fun hpoint => (hrest '.' hpoint).2.1 rfl⟩
      | some he => obtain rfl | rfl := he <;> exact ⟨endsDigits_cons (by decide) _, by simp⟩
    have hfs : EndsDigits (fs ++ (es ++ rest)) := by
      cases hfraction with
      | none => exact hes.1
      | some => exact endsDigits_cons (by decide) _
    have hscan : ∃ p', scanWhole atEnd ⟨whole ++ (fs ++ (es ++ rest)), p⟩ = _ := scanWhole_eq hwhole hfs p
    obtain ⟨p₁, hscan⟩ := hscan
    have hscan' : ∃ p', scanFraction atEnd ⟨fs ++ (es ++ rest), p₁⟩ = _ := scanFraction_eq hfraction hes.1 hes.2 p₁
    obtain ⟨p₂, hscan'⟩ := hscan'
    have hscan'' : ∃ p', scanExponent atEnd ⟨es ++ rest, p₂⟩ = _ := scanExponent_eq hexponent hrest p₂
    obtain ⟨p₃, hscan''⟩ := hscan''
    refine ⟨p₃, ?_⟩
    simp only [List.append_assoc, scanDigits, hscan, hscan', hscan'', Except.ok_bind]
    rfl

theorem IsWritten.front (h : d.IsWritten cs) : ∃ c cs', cs = c :: cs' ∧ c.isDigit = true := by
  cases h with
  | mk hwhole =>
    obtain ⟨c, cs', rfl⟩ := List.exists_cons_of_ne_nil hwhole.1.1
    exact ⟨c, _, rfl, hwhole.1.2 c (List.mem_cons_self ..)⟩

end Digits

/-! Values -/

theorem scanWord_leaves (word rest : List Char) (p : Position) : Leaves (scanWord word ⟨word ++ rest, p⟩) rest := by
  induction word generalizing p with
  | nil => exact ⟨p, rfl⟩
  | cons letter word ih =>
    have hstep : scanWord (letter :: word) ⟨letter :: word ++ rest, p⟩ = scanWord word ⟨word ++ rest, p.past letter⟩ :=
      if_pos rfl
    rw [hstep]
    exact ih _

theorem ne_of_isDigit {d : Char} (hd : d.isDigit = true) (hc : c.isDigit = false) : d ≠ c := by
  rintro rfl
  rw [hd] at hc
  cases hc

theorem isSpace_of_isDigit (h : c.isDigit = true) : isSpace c = false := by
  unfold isSpace
  simp only [Bool.or_eq_false_iff, decide_eq_false_iff_not]
  refine ⟨⟨⟨?_, ?_⟩, ?_⟩, ?_⟩ <;>
  · rintro rfl
    cases h

theorem IsValue.front (h : IsValue cs) : ∃ c cs', cs = c :: cs' ∧ isSpace c = false ∧ c ≠ ']' := by
  cases h with
  | null | isTrue | isFalse | text | negative | list | record => exact ⟨_, _, rfl, by decide, by decide⟩
  | number h =>
    obtain ⟨c, cs', rfl, hc⟩ := h.front
    refine ⟨c, cs', rfl, isSpace_of_isDigit hc, ?_⟩
    rintro rfl
    cases hc

theorem endsNumber_blank_cons (h : IsBlank blank) (hc : c = ',' ∨ c = ']' ∨ c = '\x7d') (rest : List Char) :
    EndsNumber (blank ++ c :: rest) := by
  intro x hx
  cases blank with
  | nil =>
    obtain rfl : c = x := Option.some.inj hx
    obtain rfl | rfl | rfl := hc <;> decide
  | cons b blank =>
    obtain rfl : b = x := Option.some.inj hx
    have hb : isSpace b = true := h b (List.mem_cons_self ..)
    simp only [isSpace, Bool.or_eq_true, decide_eq_true_eq] at hb
    obtain ((rfl | rfl) | rfl) | rfl := hb <;> decide

theorem Listed.endsNumber {α : Type} {Written : α → List Char → Prop} {xs : List α} {tail : List Char}
    (h : Listed Written false xs tail) (hc : c = ']' ∨ c = '\x7d') (rest : List Char) :
    EndsNumber (tail ++ c :: rest) := by
  cases h with
  | nil h => exact endsNumber_blank_cons h (.inr hc) rest
  | cons hlead =>
    cases hlead with
    | comma hbefore =>
      rw [List.append_assoc, List.append_assoc]
      exact endsNumber_blank_cons hbefore (.inl rfl) _

theorem Listed.skip {α : Type} {Written : α → List Char → Prop} {xs : List α} {tail : List Char}
    (h : Listed Written false xs tail) (hc : isSpace c = false) (rest : List Char) (p : Position) :
    (xs = [] ∧ ∃ p', Cursor.skipSpace ⟨tail ++ c :: rest, p⟩ = ⟨c :: rest, p'⟩) ∨
      ∃ x xs' after cs tail' p', xs = x :: xs' ∧ IsBlank after ∧ Written x cs ∧ Listed Written false xs' tail' ∧
        cs.length + tail'.length < tail.length ∧
        Cursor.skipSpace ⟨tail ++ c :: rest, p⟩ = ⟨',' :: (after ++ (cs ++ (tail' ++ c :: rest))), p'⟩ := by
  cases h with
  | nil h => exact .inl ⟨rfl, skipSpace_cons h hc rest p⟩
  | @cons _ x xs' lead cs tail' hlead h more =>
    cases hlead with
    | @comma before after hbefore hafter =>
      obtain ⟨p', hskip⟩ :=
        skipSpace_cons (c := ',') hbefore (by decide) (after ++ (cs ++ (tail' ++ c :: rest))) p
      refine .inr ⟨x, xs', after, cs, tail', p', rfl, hafter, h, more, ?_, ?_⟩
      · simp only [List.length_append, List.length_cons]
        omega
      · simpa using hskip

/-- There are no more parts than characters. -/
theorem Listed.length_le {α : Type} {Written : α → List Char → Prop} {xs : List α}
    (hsome : ∀ x cs, Written x cs → cs ≠ []) (h : Listed Written first xs cs) : xs.length ≤ cs.length := by
  induction h with
  | nil => exact Nat.zero_le _
  | @cons _ x xs lead cs rest hlead h _ ih =>
    have hpos := List.length_pos_iff.mpr (hsome x cs h)
    simp only [List.length_append, List.length_cons]
    omega

/-- Fuel for twice its length is enough to pass over it. -/
def IsPassed (cs : List Char) : Prop :=
  ∀ fuel blank rest p, IsBlank blank → EndsNumber rest → 2 * cs.length ≤ fuel →
    Leaves (passValue fuel ⟨blank ++ (cs ++ rest), p⟩) rest

theorem passItems_leaves {item tail : List Char} {items : List (List Char)} {fuel : Nat}
    (hitems : ∀ x ∈ item :: items, IsPassed x ∧ x ≠ []) (written : Listed Eq false items tail)
    (hblank : IsBlank blank) (hfuel : 2 * (item.length + tail.length) < fuel) (rest : List Char) (p : Position) :
    Leaves (passItems fuel ⟨blank ++ (item ++ (tail ++ ']' :: rest)), p⟩) rest := by
  induction fuel generalizing item items tail blank p with
  | zero => omega
  | succ fuel ih =>
    obtain ⟨hitem, hsome⟩ := hitems item (List.mem_cons_self ..)
    have hlength := List.length_pos_iff.mpr hsome
    obtain ⟨p', hpass⟩ :=
      hitem fuel blank (tail ++ ']' :: rest) p hblank (written.endsNumber (.inl rfl) rest) (by omega)
    rw [passItems, hpass, Except.ok_bind]
    obtain ⟨rfl, p'', hskip⟩ | ⟨next, items', after, cs, tail', p'', rfl, hafter, rfl, more, hless, hskip⟩ :=
      written.skip (c := ']') (by decide) rest p'
    · rw [hskip]
      exact ⟨_, rfl⟩
    · rw [hskip]
      exact ih (fun x hx => hitems x (List.mem_cons_of_mem _ hx)) more hafter (by omega) _

theorem passFields_leaves {member : List Char × List Char} {cs tail : List Char}
    {members : List (List Char × List Char)} {fuel : Nat}
    (hmembers : ∀ m ∈ member :: members, IsLiteral m.1 ∧ IsPassed m.2) (hmember : IsMember member.1 member.2 cs)
    (written : Listed (fun m => IsMember m.1 m.2) false members tail)
    (hblank : IsBlank blank) (hfuel : 2 * (cs.length + tail.length) < fuel) (rest : List Char) (p : Position) :
    Leaves (passFields fuel ⟨blank ++ (cs ++ (tail ++ '\x7d' :: rest)), p⟩) rest := by
  induction fuel generalizing member members cs tail blank p with
  | zero => omega
  | succ fuel ih =>
    obtain ⟨hname, hvalue⟩ := hmembers member (List.mem_cons_self ..)
    cases hmember with
    | @mk before after hbefore hafter =>
    simp only [List.length_append, List.length_cons] at hfuel
    obtain ⟨p₁, hskip⟩ := skipSpace_cons (c := '"') hblank (by decide)
      (member.1 ++ '"' :: (before ++ ':' :: (after ++ (member.2 ++ (tail ++ '\x7d' :: rest))))) p
    obtain ⟨p₂, hpass⟩ := passLiteral_leaves hname
      (before ++ ':' :: (after ++ (member.2 ++ (tail ++ '\x7d' :: rest)))) (p₁.past '"')
    obtain ⟨p₃, hcolon⟩ := colon_leaves hbefore (after ++ (member.2 ++ (tail ++ '\x7d' :: rest))) p₂
    obtain ⟨p₄, hvalue⟩ := hvalue fuel after (tail ++ '\x7d' :: rest) p₃ hafter
      (written.endsNumber (.inr rfl) rest) (by omega)
    rw [passFields]
    simp only [List.append_assoc, List.cons_append, hskip, List.head?_cons, ne_eq, not_true_eq_false, if_false,
      drop_one_cons, passText, hpass, Except.ok_bind, hcolon, hvalue]
    obtain ⟨rfl, p₅, hskip⟩ | ⟨next, members', blank', cs', tail', p₅, rfl, hblank', hnext, more, hless, hskip⟩ :=
      written.skip (c := '\x7d') (by decide) rest p₄
    · simp only [hskip]
      exact ⟨_, rfl⟩
    · simp only [hskip]
      exact ih (fun m hm => hmembers m (List.mem_cons_of_mem _ hm)) hnext more hblank' (by omega) _

theorem front_cons (hc : isSpace c = false) (cs : List Char) (p : Position) :
    front ⟨c :: cs, p⟩ = .ok ⟨c :: cs, p⟩ := by
  simp [front, Cursor.skipSpace, Cursor.drop, hc]

/-- Blanks before a value are passed over with it. -/
theorem isPassed_cons (hc : isSpace c = false)
    (h : ∀ fuel rest p, EndsNumber rest → 2 * cs.length ≤ fuel →
      Leaves (passValue (fuel + 1) ⟨c :: (cs ++ rest), p⟩) rest) : IsPassed (c :: cs) := by
  intro fuel blank rest p hblank hrest hfuel
  cases fuel with
  | zero => simp at hfuel
  | succ fuel =>
    obtain ⟨p', hfront⟩ := front_leaves hblank hc (cs ++ rest) p
    have hpass := h fuel rest p' hrest (by simp only [List.length_cons] at hfuel; omega)
    rw [passValue, front_cons hc] at hpass
    rw [List.cons_append, passValue, hfront]
    exact hpass

theorem passNumber_leaves {d : Digits} (h : d.IsWritten cs) (hrest : EndsNumber rest) (p : Position) :
    Leaves (passNumber ⟨cs ++ rest, p⟩) rest := by
  have hscan : ∃ p', scanDigits .invalidNumber ⟨cs ++ rest, p⟩ = _ := Digits.scanDigits_eq h hrest p
  obtain ⟨p', hscan⟩ := hscan
  rw [passNumber, hscan]
  exact ⟨p', rfl⟩

/-- The fuel of a list or a record is enough for each part, which is shorter. -/
theorem isPassed_list {items : List (List Char)} (h : ∀ item ∈ items, IsValue item)
    (hpassed : ∀ item ∈ items, IsPassed item) (written : Listed Eq true items cs) :
    IsPassed ('[' :: (cs ++ [']'])) := by
  refine isPassed_cons (by decide) fun fuel rest p hrest hfuel => ?_
  rw [passValue, front_cons (by decide), Except.ok_bind]
  cases written with
  | nil h =>
    obtain ⟨p', hskip⟩ := skipSpace_cons (c := ']') h (by decide) rest (p.past '[')
    simp only [drop_one_cons, List.append_assoc, List.cons_append, List.nil_append, hskip]
    exact ⟨_, rfl⟩
  | @cons _ x xs lead _ tail hlead hx more =>
    subst hx
    cases hlead with
    | first hblank =>
      have hitems : ∀ y ∈ x :: xs, IsPassed y ∧ y ≠ [] := fun y hy => by
        obtain ⟨c, cs, rfl, -⟩ := (h y hy).front
        exact ⟨hpassed _ hy, List.cons_ne_nil _ _⟩
      obtain ⟨c, cs, rfl, hc, hclose⟩ := (h x (List.mem_cons_self ..)).front
      obtain ⟨p', hskip⟩ := skipSpace_cons hblank hc (cs ++ (tail ++ ']' :: rest)) (p.past '[')
      simp only [List.length_append, List.length_cons] at hfuel
      have hless : 2 * ((c :: cs).length + tail.length) < fuel := by
        rw [List.length_cons]
        omega
      have hpass := passItems_leaves hitems more isBlank_nil hless rest p'
      simp only [drop_one_cons, List.append_assoc, List.cons_append, List.nil_append, hskip]
      simpa [hclose] using hpass

theorem isPassed_record {members : List (List Char × List Char)}
    (h : ∀ m ∈ members, IsLiteral m.1 ∧ IsPassed m.2)
    (written : Listed (fun m => IsMember m.1 m.2) true members cs) : IsPassed ('\x7b' :: (cs ++ ['\x7d'])) := by
  refine isPassed_cons (by decide) fun fuel rest p hrest hfuel => ?_
  rw [passValue, front_cons (by decide), Except.ok_bind]
  cases written with
  | nil h =>
    obtain ⟨p', hskip⟩ := skipSpace_cons (c := '\x7d') h (by decide) rest (p.past '\x7b')
    simp only [drop_one_cons, List.append_assoc, List.cons_append, List.nil_append, hskip]
    exact ⟨_, rfl⟩
  | @cons _ m ms lead member tail hlead hm more =>
    cases hlead with
    | first hblank =>
      have hfront : ∃ cs, member = '"' :: cs := by
        cases hm
        exact ⟨_, rfl⟩
      obtain ⟨cs, rfl⟩ := hfront
      obtain ⟨p', hskip⟩ := skipSpace_cons (c := '"') hblank (by decide) (cs ++ (tail ++ '\x7d' :: rest))
        (p.past '\x7b')
      simp only [List.length_append, List.length_cons] at hfuel
      have hless : 2 * (('"' :: cs).length + tail.length) < fuel := by
        rw [List.length_cons]
        omega
      have hpass := passFields_leaves h hm more isBlank_nil hless rest p'
      simp only [drop_one_cons, List.append_assoc, List.cons_append, List.nil_append, hskip]
      simpa using hpass

theorem IsValue.isPassed (h : IsValue cs) : IsPassed cs := by
  induction h with
  | null =>
    refine isPassed_cons (by decide) fun fuel rest p hrest hfuel => ?_
    rw [passValue, front_cons (by decide)]
    exact scanWord_leaves ['u', 'l', 'l'] rest _
  | isTrue =>
    refine isPassed_cons (by decide) fun fuel rest p hrest hfuel => ?_
    rw [passValue, front_cons (by decide)]
    exact scanWord_leaves ['r', 'u', 'e'] rest _
  | isFalse =>
    refine isPassed_cons (by decide) fun fuel rest p hrest hfuel => ?_
    rw [passValue, front_cons (by decide)]
    exact scanWord_leaves ['a', 'l', 's', 'e'] rest _
  | @text cs h =>
    refine isPassed_cons (by decide) fun fuel rest p hrest hfuel => ?_
    rw [passValue, front_cons (by decide), List.append_assoc]
    exact passLiteral_leaves h rest _
  | number h =>
    obtain ⟨d, ds, rfl, hd⟩ := h.front
    refine isPassed_cons (isSpace_of_isDigit hd) fun fuel rest p hrest hfuel => ?_
    have hpass := passNumber_leaves h hrest p
    rw [passValue, front_cons (isSpace_of_isDigit hd), Except.ok_bind]
    -- no other value begins with a digit
    have hother (c : Char) : c.isDigit = false → d ≠ c := ne_of_isDigit hd
    simpa [hother 'n', hother 't', hother 'f', hother '"', hother '-', hother '[', hother '\x7b', hd] using hpass
  | @negative d cs h =>
    refine isPassed_cons (by decide) fun fuel rest p hrest hfuel => ?_
    rw [passValue, front_cons (by decide)]
    exact passNumber_leaves h hrest _
  | list h written ih => exact isPassed_list h ih written
  | record names values written ih => exact isPassed_record (fun m hm => ⟨names m hm, ih m hm⟩) written

theorem pass_leaves (h : IsValue cs) (hblank : IsBlank blank) (hrest : EndsNumber rest) (p : Position) :
    Leaves (pass ⟨blank ++ (cs ++ rest), p⟩) rest := by
  refine h.isPassed _ blank rest p hblank hrest ?_
  simp only [Cursor.fuel, List.length_append]
  omega

end SnippetLab.Json
