import SnippetLab.Proofs.Json.Natural
import SnippetLab.Settings.Load

/-!
The values of fields in a document: which texts are values of the right type, and what is read of them.
-/
namespace SnippetLab

open Json

inductive IsText (s : String) : List Char → Prop
  | mk {lit : List Char} (h : Spells lit s.toList) : IsText s ('"' :: (lit ++ ['"']))

inductive IsTexts (texts : List String) : List Char → Prop
  | mk {cs : List Char} (written : Listed IsText true texts cs) : IsTexts texts ('[' :: (cs ++ [']']))

inductive IsCount (n : Nat) : List Char → Prop
  | mk (h : n < UInt64.size) : IsCount n (Nat.toDigits 10 n)

/-- The text is a value of the type of the field, and means this. -/
def Field.Means : (f : Field) → f.Value → List Char → Prop
  | .compilerPath | .tempDirectory => IsText
  | .compileFlags | .astFlags => IsTexts
  | .compilationTimeoutMs | .executionTimeoutMs | .maxSourceLength | .maxOutputLength | .sweepIntervalSecs
  | .sweepMinAgeMs | .killGraceMs | .drainGraceMs | .maxCaptureBytes | .staleWorkspaceAgeSecs => IsCount

namespace Settings

variable {cs rest blank : List Char} {expected : String} {p : Position} {c : Cursor}

def Reads {α : Type} (r : Reading (α × Cursor)) (x : α) (rest : List Char) : Prop := ∃ p, r = .ok (x, ⟨rest, p⟩)

theorem Reads.rest_eq {α : Type} {r : Reading (α × Cursor)} {x : α} {found : α × Cursor} (h : Reads r x rest)
    (hr : r = .ok found) : found.2.rest = rest := by
  obtain ⟨p, h⟩ := h
  cases h.symm.trans hr
  rfl

theorem liftM_ok {α : Type} (a : α) : (liftM (Except.ok a : Scan α) : Reading α) = .ok a := rfl

theorem liftM_eq_ok_iff {α : Type} {r : Scan α} {a : α} : (liftM r : Reading α) = .ok a ↔ r = .ok a :=
  Except.mapError_eq_ok_iff

theorem mismatch_ne_ok {α : Type} (expected : String) (c : Cursor) (found : α × Cursor) :
    mismatch expected c ≠ .ok found := by
  unfold mismatch
  rw [Ne, Except.bind_eq_ok_iff]
  rintro ⟨shape, -, h⟩
  cases h

/-! Strings -/

theorem readText_eq {first : Char} (hblank : IsBlank blank) (hfirst : isSpace first = false) (cs : List Char)
    (p : Position) : ∃ p', readText expected ⟨blank ++ first :: cs, p⟩ =
      if first = '"' then liftM (scanText ⟨cs, p'.past first⟩) else mismatch expected ⟨first :: cs, p'⟩ := by
  obtain ⟨p', hfront⟩ := front_leaves hblank hfirst cs p
  refine ⟨p', ?_⟩
  rw [readText, hfront, liftM_ok, Except.ok_bind]
  simp only [List.head?_cons, Option.some.injEq, drop_one_cons]

theorem readText_of_isText {s : String} (h : IsText s cs) (hblank : IsBlank blank) (rest : List Char) (p : Position) :
    Reads (readText expected ⟨blank ++ (cs ++ rest), p⟩) s rest := by
  cases h with
  | @mk lit h =>
    have hread : ∃ p', readText expected ⟨blank ++ '"' :: (lit ++ '"' :: rest), p⟩ = _ :=
      readText_eq hblank (by decide) _ p
    obtain ⟨p', hread⟩ := hread
    obtain ⟨p'', hscan⟩ := scanText_of_spells h rest (p'.past '"')
    rw [if_pos rfl, hscan, liftM_ok] at hread
    exact ⟨p'', by simpa using hread⟩

theorem isText_of_readText {found : String × Cursor} (h : IsValue cs) (hblank : IsBlank blank)
    (hread : readText expected ⟨blank ++ (cs ++ rest), p⟩ = .ok found) : IsText found.1 cs := by
  obtain ⟨first, cs, rfl, hfirst, -⟩ := h.front
  have heq : ∃ p', readText expected ⟨blank ++ first :: (cs ++ rest), p⟩ = _ := readText_eq hblank hfirst _ p
  obtain ⟨p', heq⟩ := heq
  rw [List.cons_append, heq] at hread
  by_cases hquote : first = '"'
  · subst hquote
    rw [if_pos rfl, liftM_eq_ok_iff] at hread
    cases h with
    | number h =>
      obtain ⟨d, ds, heq, hd⟩ := h.front
      cases heq
      cases hd
    | text h =>
      rw [List.append_assoc] at hread
      exact .mk (spells_of_scanText h hread)
  · rw [if_neg hquote] at hread
    exact absurd hread (mismatch_ne_ok expected _ found)

/-! Counts -/

theorem readCount_of_isCount {n : Nat} (h : IsCount n cs) (hblank : IsBlank blank) (hrest : EndsNumber rest)
    (p : Position) : Reads (readCount expected ⟨blank ++ (cs ++ rest), p⟩) n rest := by
  cases h with
  | mk h =>
    obtain ⟨d, ds, hds⟩ := List.exists_cons_of_ne_nil (areDigits_toDigits n).1
    have hd : d.isDigit = true := (areDigits_toDigits n).2 d (by simp [hds])
    obtain ⟨p', hfront⟩ := front_leaves hblank (isSpace_of_isDigit hd) (ds ++ rest) p
    obtain ⟨p'', hshape⟩ := shape_toDigits h hrest p'
    refine ⟨p'', ?_⟩
    rw [← List.cons_append, ← hds] at hfront
    rw [readCount, hfront, liftM_ok, Except.ok_bind, hshape]
    rfl

theorem isCount_of_readCount {found : Nat × Cursor} (h : IsValue cs) (hblank : IsBlank blank) (hrest : EndsNumber rest)
    (hread : readCount expected ⟨blank ++ (cs ++ rest), p⟩ = .ok found) : IsCount found.1 cs := by
  obtain ⟨first, cs', rfl, hfirst, -⟩ := h.front
  obtain ⟨p', hfront⟩ := front_leaves hblank hfirst (cs' ++ rest) p
  rw [List.cons_append, readCount, hfront, liftM_ok, Except.ok_bind, Except.bind_eq_ok_iff] at hread
  obtain ⟨⟨shape, c⟩, hshape, hfound⟩ := hread
  rw [liftM_eq_ok_iff] at hshape
  dsimp only at hfound
  split at hfound
  · cases hfound
    obtain ⟨hless, hcs⟩ := h.eq_toDigits hrest hshape
    rw [hcs]
    exact .mk hless
  all_goals cases hfound

/-! Lists of strings -/

theorem readItems_of_listed {texts : List String} {first : Bool} {fuel : Nat} (written : Listed IsText first texts cs)
    (hfuel : texts.length < fuel) (rest : List Char) (p : Position) :
    Reads (readItems fuel first ⟨cs ++ ']' :: rest, p⟩) texts rest := by
  induction texts generalizing cs first fuel p with
  | nil =>
    cases written with
    | nil hblank =>
      obtain ⟨fuel, rfl⟩ := Nat.exists_eq_succ_of_ne_zero (Nat.ne_of_gt hfuel)
      obtain ⟨p', hnext⟩ := nextItem_closed _ hblank rest p
      rw [readItems, hnext]
      exact ⟨p', rfl⟩
  | cons s texts ih =>
    cases written with
    | @cons _ _ _ lead item tail hlead hitem more =>
      obtain ⟨fuel, rfl⟩ := Nat.exists_eq_succ_of_ne_zero (Nat.ne_zero_of_lt hfuel)
      have hquote : ∃ cs, item = '"' :: cs := by
        cases hitem
        exact ⟨_, rfl⟩
      obtain ⟨cs, rfl⟩ := hquote
      obtain ⟨p₁, hnext⟩ := nextItem_part (c := '"') hlead (by decide) (by decide) (cs ++ (tail ++ ']' :: rest)) p
      have hread : Reads (readText "a string" _) s _ :=
        readText_of_isText hitem isBlank_nil (tail ++ ']' :: rest) p₁
      obtain ⟨p₂, hread⟩ := hread
      obtain ⟨p₃, hmore⟩ := ih more (Nat.lt_of_succ_lt_succ hfuel) p₂
      refine ⟨p₃, ?_⟩
      simp only [List.nil_append, List.cons_append, List.append_assoc] at hnext hread ⊢
      rw [readItems, hnext, liftM_ok, Except.ok_bind]
      simp only [hread, Except.ok_bind, hmore]
      rfl

theorem listed_of_readItems {items : List (List Char)} {first : Bool} {fuel : Nat} {found : List String × Cursor}
    (hitems : ∀ item ∈ items, IsValue item) (written : Listed Eq first items cs)
    (hread : readItems fuel first ⟨cs ++ ']' :: rest, p⟩ = .ok found) : Listed IsText first found.1 cs := by
  induction items generalizing cs first fuel p found with
  | nil =>
    cases written with
    | nil hblank =>
      cases fuel with
      | zero => cases hread
      | succ fuel =>
        obtain ⟨p', hnext⟩ := nextItem_closed first hblank rest p
        rw [readItems, hnext] at hread
        cases hread
        exact .nil hblank
  | cons item items ih =>
    cases written with
    | @cons _ _ _ lead _ tail hlead hitem more =>
      subst hitem
      cases fuel with
      | zero => cases hread
      | succ fuel =>
        have hvalue := hitems item (List.mem_cons_self ..)
        obtain ⟨c, cs, rfl, hfront, hc⟩ := hvalue.front
        obtain ⟨p₁, hnext⟩ := nextItem_part hlead hfront hc (cs ++ (tail ++ ']' :: rest)) p
        simp only [List.cons_append, List.append_assoc] at hread
        rw [readItems, hnext, liftM_ok, Except.ok_bind] at hread
        simp only [Except.bind_eq_ok_iff] at hread
        obtain ⟨⟨s, rest', p₂⟩, htext, hread⟩ := hread
        have hitem : IsText s (c :: cs) := isText_of_readText hvalue isBlank_nil htext
        obtain rfl := (readText_of_isText hitem isBlank_nil (tail ++ ']' :: rest) p₁).rest_eq htext
        obtain ⟨⟨texts, c''⟩, hmore, heq⟩ := hread
        cases heq
        exact .cons hlead hitem (ih (fun x hx => hitems x (List.mem_cons_of_mem _ hx)) more hmore)

theorem readTexts_eq {first : Char} (hblank : IsBlank blank) (hfirst : isSpace first = false) (cs : List Char)
    (p : Position) : ∃ p', readTexts expected ⟨blank ++ first :: cs, p⟩ =
      if first = '[' then readItems (Cursor.fuel ⟨first :: cs, p'⟩) true ⟨cs, p'.past first⟩
      else mismatch expected ⟨first :: cs, p'⟩ := by
  obtain ⟨p', hfront⟩ := front_leaves hblank hfirst cs p
  refine ⟨p', ?_⟩
  rw [readTexts, hfront, liftM_ok, Except.ok_bind]
  simp only [List.head?_cons, Option.some.injEq, drop_one_cons]

theorem readTexts_of_isTexts {texts : List String} (h : IsTexts texts cs) (hblank : IsBlank blank) (rest : List Char)
    (p : Position) : Reads (readTexts expected ⟨blank ++ (cs ++ rest), p⟩) texts rest := by
  cases h with
  | @mk cs written =>
    have hread : ∃ p', readTexts expected ⟨blank ++ '[' :: (cs ++ ']' :: rest), p⟩ = _ :=
      readTexts_eq hblank (by decide) _ p
    obtain ⟨p', hread⟩ := hread
    have hlength : texts.length ≤ cs.length := written.length_le fun s cs h => by
      cases h
      exact List.cons_ne_nil _ _
    have hfuel : texts.length < Cursor.fuel ⟨'[' :: (cs ++ ']' :: rest), p'⟩ := by
      simp only [Cursor.fuel, List.length_cons, List.length_append]
      omega
    obtain ⟨p'', hitems⟩ := readItems_of_listed written hfuel rest (p'.past '[')
    rw [if_pos rfl, hitems] at hread
    exact ⟨p'', by simpa using hread⟩

theorem isTexts_of_readTexts {found : List String × Cursor} (h : IsValue cs) (hblank : IsBlank blank)
    (hread : readTexts expected ⟨blank ++ (cs ++ rest), p⟩ = .ok found) : IsTexts found.1 cs := by
  obtain ⟨first, cs, rfl, hfirst, -⟩ := h.front
  have heq : ∃ p', readTexts expected ⟨blank ++ first :: (cs ++ rest), p⟩ = _ := readTexts_eq hblank hfirst _ p
  obtain ⟨p', heq⟩ := heq
  rw [List.cons_append, heq] at hread
  by_cases hopen : first = '['
  · subst hopen
    rw [if_pos rfl] at hread
    cases h with
    | number h =>
      obtain ⟨d, ds, heq, hd⟩ := h.front
      cases heq
      cases hd
    | list h written =>
      rw [List.append_assoc] at hread
      exact .mk (listed_of_readItems h written hread)
  · rw [if_neg hopen] at hread
    exact absurd hread (mismatch_ne_ok expected _ found)

/-! Fields -/

theorem readField_of_means {f : Field} {x : f.Value} (h : f.Means x cs) (hblank : IsBlank blank)
    (hrest : EndsNumber rest) (p : Position) : Reads (readField f ⟨blank ++ (cs ++ rest), p⟩) x rest := by
  cases f with
  | compilerPath | tempDirectory => exact readText_of_isText h hblank rest p
  | compileFlags | astFlags => exact readTexts_of_isTexts h hblank rest p
  | _ => exact readCount_of_isCount h hblank hrest p

theorem means_of_readField {f : Field} {found : f.Value × Cursor} (h : IsValue cs) (hblank : IsBlank blank)
    (hrest : EndsNumber rest) (hread : readField f ⟨blank ++ (cs ++ rest), p⟩ = .ok found) :
    f.Means found.1 cs ∧ found.2.rest = rest := by
  have hmeans : f.Means found.1 cs := by
    cases f with
    | compilerPath | tempDirectory => exact isText_of_readText h hblank hread
    | compileFlags | astFlags => exact isTexts_of_readTexts h hblank hread
    | _ => exact isCount_of_readCount h hblank hrest hread
  exact ⟨hmeans, (readField_of_means hmeans hblank hrest p).rest_eq hread⟩

end Settings

theorem Field.Means.unique {f : Field} {x y : f.Value} {cs : List Char} (hx : f.Means x cs) (hy : f.Means y cs) :
    x = y := by
  have hend : EndsNumber [] := by simp [EndsNumber]
  obtain ⟨p, hx⟩ := Settings.readField_of_means hx isBlank_nil hend {}
  obtain ⟨p', hy⟩ := Settings.readField_of_means hy isBlank_nil hend {}
  rw [hx] at hy
  cases hy
  rfl

end SnippetLab
