import SnippetLab.Json.Writer
import SnippetLab.Proofs.Json.Natural

/-! What is written is JSON, on one line and on many, and is read back. -/
namespace SnippetLab.Json

variable {c : Char} {cs text rest blank : List Char} {n : Nat}

/-! Literals -/

theorem hex4?_of_control : ∀ n < 0x20, hex4? '0' '0' (hexDigit (n / 16)) (hexDigit (n % 16)) = some n := by decide

theorem spells_escapeChar (c : Char) (h : Spells cs text) : Spells (escapeChar c ++ cs) (c :: text) := by
  unfold escapeChar
  iterate 7
    split
    · next hc => subst hc; exact .escape rfl h
  split
  · next hcontrol =>
    have hunit := hex4?_of_control c.toNat hcontrol
    have hspells := Spells.unit hunit (by unfold IsLead; omega) (by unfold IsTrail; omega) h
    rwa [Char.ofNat_toNat] at hspells
  · next hquote hbackslash _ _ _ _ _ hcontrol => exact .plain ⟨hquote, hbackslash, Nat.not_lt.mp hcontrol⟩ h

theorem spells_flatMap (cs : List Char) : Spells (cs.flatMap escapeChar) cs := by
  induction cs with
  | nil => exact .nil
  | cons c cs ih => exact spells_escapeChar c ih

theorem isNamed_writeLiteral (name : String) (value : List Char) {after : List Char} (hafter : IsBlank after) :
    IsNamed (name, value) (writeLiteral name ++ ':' :: (after ++ value)) := by
  refine ⟨_, spells_flatMap name.toList, ?_⟩
  have h : IsMember (name.toList.flatMap escapeChar) value _ := .mk isBlank_nil hafter
  simpa [writeLiteral] using h

/-! Lists and records -/

theorem isBlank_indentation (depth : Nat) : IsBlank (indentation depth) := by
  intro c hc
  obtain rfl | hc := List.mem_cons.mp hc
  · rfl
  · rw [List.eq_of_mem_replicate hc]
    rfl

section Joined

variable {α : Type} {Written : α → List Char → Prop} {first : Bool} {xs : List α}

theorem IsBlank.append {after : List Char} (h : IsBlank cs) (hafter : IsBlank after) : IsBlank (cs ++ after) := by
  intro c hc
  exact (List.mem_append.mp hc).elim (h c) (hafter c)

theorem Listed.append_blank {blank : List Char} (h : Listed Written first xs cs) (hblank : IsBlank blank) :
    Listed Written first xs (cs ++ blank) := by
  induction h with
  | nil h => exact .nil (h.append hblank)
  | cons hlead h _ ih =>
    rw [List.append_assoc, List.append_assoc]
    exact .cons hlead h ih

theorem Listed.after_comma {x : α} (h : Listed Written true (x :: xs) cs) :
    Listed Written false (x :: xs) (',' :: cs) := by
  cases h with
  | cons hlead h more =>
    cases hlead with
    | first hblank => exact .cons (.comma isBlank_nil hblank) h more

theorem Listed.map {β : Type} {f : β → α} {xs : List β} (h : Listed (fun x => Written (f x)) first xs cs) :
    Listed Written first (xs.map f) cs := by
  induction h with
  | nil h => exact .nil h
  | cons hlead h _ ih => exact .cons hlead h ih

theorem Listed.imp {Written' : α → List Char → Prop} (h : Listed Written first xs cs)
    (himp : ∀ x ∈ xs, ∀ cs, Written x cs → Written' x cs) : Listed Written' first xs cs := by
  induction h with
  | nil hblank => exact .nil hblank
  | @cons _ x _ _ cs _ hlead hx _ ih =>
    exact .cons hlead (himp x (List.mem_cons_self ..) cs hx) (ih fun y hy => himp y (List.mem_cons_of_mem _ hy))

theorem Listed.texts (h : Listed Written first xs cs) :
    ∃ items, Listed Eq first items cs ∧ ∀ item ∈ items, ∃ x ∈ xs, Written x item := by
  induction h with
  | nil h => exact ⟨[], .nil h, by simp⟩
  | @cons _ x xs lead cs rest hlead h _ ih =>
    obtain ⟨items, written, hitems⟩ := ih
    refine ⟨cs :: items, .cons hlead rfl written, fun item hitem => ?_⟩
    obtain rfl | hitem := List.mem_cons.mp hitem
    · exact ⟨x, List.mem_cons_self .., h⟩
    · obtain ⟨y, hy, hwritten⟩ := hitems item hitem
      exact ⟨y, List.mem_cons_of_mem _ hy, hwritten⟩

/-- Parts with commas between them, each with blanks before it. -/
theorem listed_of_joined (part : α → List Char) (join : List α → List Char) (hnil : join [] = [])
    (hone : ∀ x, join [x] = part x) (hmore : ∀ x y xs, join (x :: y :: xs) = part x ++ ',' :: join (y :: xs))
    (hpart : ∀ x ∈ xs, ∃ blank cs, IsBlank blank ∧ Written x cs ∧ part x = blank ++ cs) :
    Listed Written true xs (join xs) := by
  induction xs with
  | nil =>
    rw [hnil]
    exact .nil isBlank_nil
  | cons x xs ih =>
    obtain ⟨blank, cs, hblank, hx, hsplit⟩ := hpart x (List.mem_cons_self ..)
    cases xs with
    | nil =>
      have h : Listed Written true [x] (blank ++ (cs ++ [])) := .cons (.first hblank) hx (.nil isBlank_nil)
      rw [hone, hsplit]
      simpa using h
    | cons y xs =>
      rw [hmore, hsplit, List.append_assoc]
      exact .cons (.first hblank) hx (ih fun z hz => hpart z (List.mem_cons_of_mem _ hz)).after_comma

end Joined

theorem listed_writeItems (items : List Json) :
    Listed (fun item cs => cs = write item) true items (writeItems items) := by
  refine listed_of_joined write writeItems ?_ ?_ ?_ fun item _ => ⟨[], _, isBlank_nil, rfl, rfl⟩
  · rw [writeItems]
  · intro item
    rw [writeItems]
  · intro item item' items
    rw [writeItems]
    rintro ⟨⟩

theorem listed_layoutItems (depth : Nat) (items : List Json) :
    Listed (fun item cs => cs = layout depth item) true items (layoutItems depth items) := by
  refine listed_of_joined (fun item => indentation depth ++ layout depth item) (layoutItems depth) ?_ ?_ ?_
    fun item _ => ⟨_, _, isBlank_indentation depth, rfl, rfl⟩
  · rw [layoutItems]
  · intro item
    rw [layoutItems]
  · intro item item' items
    rw [layoutItems]
    rintro ⟨⟩

theorem listed_writeFields (fields : List (String × Json)) :
    Listed (fun m : String × Json => IsNamed (m.1, write m.2)) true fields (writeFields fields) := by
  refine listed_of_joined (fun m => writeLiteral m.1 ++ ':' :: write m.2) writeFields ?_ ?_ ?_ fun m _ => ?_
  · rw [writeFields]
  · intro m
    rw [writeFields]
  · intro m m' fields
    rw [writeFields, List.append_assoc]
    · rintro ⟨⟩
  · exact ⟨[], _, isBlank_nil, isNamed_writeLiteral m.1 (write m.2) isBlank_nil, rfl⟩

theorem listed_layoutFields (depth : Nat) (fields : List (String × Json)) :
    Listed (fun m : String × Json => IsNamed (m.1, layout depth m.2)) true fields (layoutFields depth fields) := by
  refine listed_of_joined (fun m => indentation depth ++ writeLiteral m.1 ++ ':' :: ' ' :: layout depth m.2)
    (layoutFields depth) ?_ ?_ ?_ fun m _ => ?_
  · rw [layoutFields]
  · intro m
    rw [layoutFields]
  · intro m m' fields
    rw [layoutFields]
    simp
  · have hspace : IsBlank [' '] := by simp [IsBlank, isSpace]
    have hnamed := isNamed_writeLiteral m.1 (layout depth m.2) hspace
    exact ⟨_, _, isBlank_indentation depth, hnamed, List.append_assoc ..⟩

/-! Documents -/

theorem isRecordText_compact {fields : List (String × Json)} (h : ∀ m ∈ fields, IsValue (write m.2)) :
    IsRecordText (fields.map fun m => (m.1, write m.2)) (compact (.record fields)).toList := by
  rw [compact, String.toList_ofList, write]
  refine IsRecordText.mk isBlank_nil (fun m hm => ?_) (listed_writeFields fields).map isBlank_nil
  obtain ⟨m', hm', rfl⟩ := List.mem_map.mp hm
  exact h m' hm'

theorem isRecordText_pretty {fields : List (String × Json)} (hne : fields ≠ [])
    (h : ∀ m ∈ fields, IsValue (layout 1 m.2)) :
    IsRecordText (fields.map fun m => (m.1, layout 1 m.2)) (pretty (.record fields)).toList := by
  obtain ⟨m, fields, rfl⟩ := List.exists_cons_of_ne_nil hne
  have written := (listed_layoutFields 1 (m :: fields)).map.append_blank (isBlank_indentation 0)
  rw [pretty, String.toList_ofList, layout]
  refine IsRecordText.mk isBlank_nil (fun m' hm => ?_) written isBlank_nil
  obtain ⟨m'', hm'', rfl⟩ := List.mem_map.mp hm
  exact h m'' hm''

/-! Reading back -/

/-- The text is read as the value, and what follows is left. Fuel for twice the length is enough. -/
structure IsRead (j : Json) (cs : List Char) : Prop where
  front : ∃ c cs', cs = c :: cs' ∧ isSpace c = false ∧ c ≠ ']'
  read : ∀ fuel blank rest p, IsBlank blank → EndsNumber rest → 2 * cs.length ≤ fuel →
    ∃ p', readValue fuel ⟨blank ++ (cs ++ rest), p⟩ = .ok (j, ⟨rest, p'⟩)

theorem isRead_cons {j : Json} (hc : isSpace c = false) (hclose : c ≠ ']')
    (h : ∀ fuel rest p, EndsNumber rest → 2 * cs.length ≤ fuel →
      ∃ p', readValue (fuel + 1) ⟨c :: (cs ++ rest), p⟩ = .ok (j, ⟨rest, p'⟩)) : IsRead j (c :: cs) := by
  refine ⟨⟨c, cs, rfl, hc, hclose⟩, fun fuel blank rest p hblank hrest hfuel => ?_⟩
  rw [List.length_cons] at hfuel
  obtain ⟨fuel, rfl⟩ := Nat.exists_eq_add_of_le' (by omega : 1 ≤ fuel)
  obtain ⟨p', hfront⟩ := front_leaves hblank hc (cs ++ rest) p
  have hread := h fuel rest p' hrest (by omega)
  rw [readValue, front_cons hc] at hread
  rwa [List.cons_append, readValue, hfront]

def Shape.scalar? : Shape → Option Json
  | .null => some .null
  | .bool b => some (.bool b)
  | .number n => some (.number n)
  | .text s => some (.text s)
  | .list | .record => none

theorem isRead_scalar {s : Shape} {j : Json} (hj : s.scalar? = some j) (hc : isSpace c = false) (hclose : c ≠ ']')
    (hshape : ∀ rest p, EndsNumber rest → ∃ p', shape ⟨c :: (cs ++ rest), p⟩ = .ok (s, ⟨rest, p'⟩)) :
    IsRead j (c :: cs) := by
  refine isRead_cons hc hclose fun fuel rest p hrest _ => ?_
  obtain ⟨p', hshape⟩ := hshape rest p hrest
  refine ⟨p', ?_⟩
  rw [readValue, front_cons hc, Except.ok_bind, hshape, Except.ok_bind]
  cases s <;> cases hj <;> rfl

theorem isRead_word {s : Shape} {j : Json} {word : List Char} (hj : s.scalar? = some j) (hc : isSpace c = false)
    (hclose : c ≠ ']') (hshape : ∀ cs p, shape ⟨c :: cs, p⟩ = (scanWord word ⟨cs, p.past c⟩).map (s, ·)) :
    IsRead j (c :: word) := by
  refine isRead_scalar hj hc hclose fun rest p _ => ?_
  obtain ⟨p', hword⟩ := scanWord_leaves word rest (p.past c)
  refine ⟨p', ?_⟩
  rw [hshape, hword]
  rfl

theorem isRead_null : IsRead .null (write .null) :=
  isRead_word (s := .null) rfl (by decide) (by decide) fun cs p => by
    simp only [shape]
    rfl

theorem isRead_bool (b : Bool) : IsRead (.bool b) (write (.bool b)) := by
  cases b
  · refine isRead_word (s := .bool false) rfl (by decide) (by decide) fun cs p => ?_
    simp only [shape]
    rfl
  · refine isRead_word (s := .bool true) rfl (by decide) (by decide) fun cs p => ?_
    simp only [shape]
    rfl

theorem isRead_text (s : String) : IsRead (.text s) (writeLiteral s) := by
  refine isRead_scalar (s := .text s) rfl (by decide) (by decide) fun rest p _ => ?_
  obtain ⟨p', hscan⟩ := scanText_of_spells (spells_flatMap s.toList) rest (p.past '"')
  refine ⟨p', ?_⟩
  simp only [shape, List.append_assoc, List.singleton_append]
  exact congrArg (Except.map fun x => (Shape.text x.1, x.2)) hscan

theorem isRead_nat (hn : n < UInt64.size) : IsRead (.nat n) (Nat.toDigits 10 n) := by
  obtain ⟨d, ds, hds, hd⟩ := (isWritten_toDigits n).front
  have hclose : d ≠ ']' := ne_of_isDigit hd (by decide)
  have hshape := fun rest p (hrest : EndsNumber rest) => shape_toDigits hn hrest p
  rw [hds] at hshape ⊢
  exact isRead_scalar (s := .number (.natural n)) rfl (isSpace_of_isDigit hd) hclose hshape

theorem readItems_eq {items : List Json} {first : Bool} (h : Listed IsRead first items cs) {fuel : Nat}
    (hfuel : 2 * cs.length < fuel) (rest : List Char) (p : Position) :
    ∃ p', readItems fuel first ⟨cs ++ ']' :: rest, p⟩ = .ok (items, ⟨rest, p'⟩) := by
  induction h generalizing fuel p with
  | @nil first blank hblank =>
    obtain ⟨fuel, rfl⟩ := Nat.exists_eq_add_of_le' (by omega : 1 ≤ fuel)
    obtain ⟨p', hnext⟩ := nextItem_closed first hblank rest p
    refine ⟨p', ?_⟩
    rw [readItems, hnext]
    rfl
  | @cons first x xs lead cs tail hlead hx htail ih =>
    simp only [List.length_append] at hfuel
    obtain ⟨fuel, rfl⟩ := Nat.exists_eq_add_of_le' (by omega : 1 ≤ fuel)
    obtain ⟨⟨c, cs', rfl, hc, hclose⟩, hread⟩ := hx
    have hpos : 1 ≤ (c :: cs').length := Nat.succ_pos _
    obtain ⟨p₁, hnext⟩ := nextItem_part hlead hc hclose (cs' ++ (tail ++ ']' :: rest)) p
    obtain ⟨p₂, hvalue⟩ := hread fuel [] (tail ++ ']' :: rest) p₁ isBlank_nil (htail.endsNumber (.inl rfl) rest) (by omega)
    have hless : 2 * tail.length < fuel := by omega
    obtain ⟨p₃, hmore⟩ := ih hless p₂
    refine ⟨p₃, ?_⟩
    rw [List.nil_append, List.cons_append] at hvalue
    rw [readItems, List.append_assoc, List.append_assoc, List.cons_append, hnext]
    simp only [Except.ok_bind, hvalue, hmore]
    rfl

def IsReadField (m : String × Json) (cs : List Char) : Prop := ∃ value, IsRead m.2 value ∧ IsNamed (m.1, value) cs

theorem readFields_eq {fields : List (String × Json)} {first : Bool} (h : Listed IsReadField first fields cs)
    {fuel : Nat} (hfuel : 2 * cs.length < fuel) (rest : List Char) (p : Position) :
    ∃ p', readFields fuel first ⟨cs ++ '\x7d' :: rest, p⟩ = .ok (fields, ⟨rest, p'⟩) := by
  induction h generalizing fuel p with
  | @nil first blank hblank =>
    obtain ⟨fuel, rfl⟩ := Nat.exists_eq_add_of_le' (by omega : 1 ≤ fuel)
    obtain ⟨p', hnext⟩ := nextKey_closed first hblank rest p
    refine ⟨p', ?_⟩
    rw [readFields, hnext]
    rfl
  | @cons first m ms lead cs tail hlead hm htail ih =>
    simp only [List.length_append] at hfuel
    obtain ⟨fuel, rfl⟩ := Nat.exists_eq_add_of_le' (by omega : 1 ≤ fuel)
    obtain ⟨value, hvalue, name, hspells, hmember⟩ := hm
    cases hmember with
    | @mk before after hbefore hafter =>
      simp only [List.length_append, List.length_cons] at hfuel
      obtain ⟨p₁, hnext⟩ := nextKey_part hlead
        (name ++ '"' :: (before ++ ':' :: (after ++ (value ++ (tail ++ '\x7d' :: rest))))) p
      obtain ⟨p₂, hkey⟩ := scanText_of_spells hspells
        (before ++ ':' :: (after ++ (value ++ (tail ++ '\x7d' :: rest)))) p₁
      obtain ⟨p₃, hcolon⟩ := colon_leaves hbefore (after ++ (value ++ (tail ++ '\x7d' :: rest))) p₂
      obtain ⟨p₄, hvalue⟩ := hvalue.read fuel after (tail ++ '\x7d' :: rest) p₃ hafter
        (htail.endsNumber (.inr rfl) rest) (by omega)
      have hless : 2 * tail.length < fuel := by omega
      obtain ⟨p₅, hmore⟩ := ih hless p₄
      refine ⟨p₅, ?_⟩
      rw [readFields]
      simp only [List.append_assoc, List.cons_append, hnext, Except.ok_bind, hkey, hcolon, hvalue, hmore]
      rfl

theorem isRead_list {items : List Json} (h : Listed IsRead true items cs) :
    IsRead (.list items) ('[' :: (cs ++ [']'])) := by
  refine isRead_cons (by decide) (by decide) fun fuel rest p _ hfuel => ?_
  rw [List.length_append, List.length_singleton] at hfuel
  have hless : 2 * cs.length < fuel := by omega
  obtain ⟨p', hitems⟩ := readItems_eq h hless rest (p.past '[')
  refine ⟨p', ?_⟩
  rw [readValue, front_cons (by decide), List.append_assoc, Except.ok_bind]
  simp only [shape, Except.ok_bind, drop_one_cons, List.singleton_append, hitems]
  rfl

theorem isRead_record {fields : List (String × Json)} (h : Listed IsReadField true fields cs) :
    IsRead (.record fields) ('\x7b' :: (cs ++ ['\x7d'])) := by
  refine isRead_cons (by decide) (by decide) fun fuel rest p _ hfuel => ?_
  rw [List.length_append, List.length_singleton] at hfuel
  have hless : 2 * cs.length < fuel := by omega
  obtain ⟨p', hfields⟩ := readFields_eq h hless rest (p.past '\x7b')
  refine ⟨p', ?_⟩
  rw [readValue, front_cons (by decide), List.append_assoc, Except.ok_bind]
  simp only [shape, Except.ok_bind, drop_one_cons, List.singleton_append, hfields]
  rfl

theorem parse_of_isRead {j : Json} (h : IsRead j cs) : parse (String.ofList cs) = .ok j := by
  have hempty : EndsNumber [] := fun c hc => nomatch hc
  obtain ⟨p, hread⟩ := h.read (2 * cs.length + 2) [] [] {} isBlank_nil hempty (Nat.le_add_right _ _)
  rw [List.nil_append, List.append_nil] at hread
  simp only [parse, Cursor.ofString, Cursor.fuel, String.toList_ofList, hread, Except.ok_bind,
    finish_eq_ok isBlank_nil p]
  rfl

/-- All its numbers are natural numbers of 64 bits. -/
inductive IsNatural : Json → Prop
  | null : IsNatural .null
  | bool (b : Bool) : IsNatural (.bool b)
  | number {n : Nat} (h : n < UInt64.size) : IsNatural (.nat n)
  | text (s : String) : IsNatural (.text s)
  | list {items : List Json} (h : ∀ item ∈ items, IsNatural item) : IsNatural (.list items)
  | record {fields : List (String × Json)} (h : ∀ m ∈ fields, IsNatural m.2) : IsNatural (.record fields)

theorem isRead_write {j : Json} (h : IsNatural j) : IsRead j (write j) := by
  induction h with
  | null => exact isRead_null
  | bool b => exact isRead_bool b
  | number h => exact isRead_nat h
  | text s => exact isRead_text s
  | @list items _ ih =>
    rw [write]
    exact isRead_list ((listed_writeItems items).imp fun item hitem cs hcs => hcs ▸ ih item hitem)
  | @record fields _ ih =>
    rw [write]
    exact isRead_record ((listed_writeFields fields).imp fun m hm cs hcs => ⟨_, ih m hm, hcs⟩)

theorem isRead_layout {j : Json} (h : IsNatural j) (depth : Nat) : IsRead j (layout depth j) := by
  induction h generalizing depth with
  | null => exact isRead_null
  | bool b => exact isRead_bool b
  | number h => exact isRead_nat h
  | text s => exact isRead_text s
  | @list items h ih =>
    cases items with
    | nil => exact isRead_write (.list h)
    | cons item items =>
      have hlisted := (listed_layoutItems (depth + 1) (item :: items)).append_blank (isBlank_indentation depth)
      rw [layout]
      exact isRead_list (hlisted.imp fun item hitem cs hcs => hcs ▸ ih item hitem (depth + 1))
  | @record fields h ih =>
    cases fields with
    | nil => exact isRead_write (.record h)
    | cons m fields =>
      have hlisted := (listed_layoutFields (depth + 1) (m :: fields)).append_blank (isBlank_indentation depth)
      rw [layout]
      exact isRead_record (hlisted.imp fun m hm cs hcs => ⟨_, ih m hm (depth + 1), hcs⟩)

/-- What is written is read back, on one line and on many. -/
theorem parse_compact {j : Json} (h : IsNatural j) : parse j.compact = .ok j := parse_of_isRead (isRead_write h)

theorem parse_pretty {j : Json} (h : IsNatural j) : parse j.pretty = .ok j := parse_of_isRead (isRead_layout h 0)

end SnippetLab.Json
