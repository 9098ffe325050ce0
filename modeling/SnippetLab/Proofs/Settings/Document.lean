import SnippetLab.Proofs.Settings.Fields

/-!
Settings from documents, whatever the order of the fields and whatever stands between them. A record and a list of the
same values for the first fields come to the same.
-/
namespace SnippetLab

open Json

namespace Field

def required : List Field := all.take 6

theorem ofName?_eq_some_iff {name : String} {f : Field} : ofName? name = some f ↔ name = f.name := by
  constructor
  · intro h
    have hfound := List.find?_some h
    exact (beq_iff_eq.mp hfound).symm
  · rintro rfl
    cases f <;> rfl

theorem name_ne_of_unknown {name : String} (h : ofName? name = none) (f : Field) : f.name ≠ name := by
  rintro rfl
  rw [ofName?_eq_some_iff.mpr rfl] at h
  cases h

theorem name_injective {f f' : Field} (h : f.name = f'.name) : f = f' :=
  Option.some.inj ((ofName?_eq_some_iff.mpr h).symm.trans (ofName?_eq_some_iff.mpr rfl)).symm

end Field

namespace Settings

def get (s : Settings) : (f : Field) → f.Value
  | .compilerPath => s.compilerPath
  | .tempDirectory => s.tempDirectory
  | .compilationTimeoutMs => s.compilationTimeoutMs
  | .executionTimeoutMs => s.executionTimeoutMs
  | .maxSourceLength => s.maxSourceLength
  | .maxOutputLength => s.maxOutputLength
  | .compileFlags => s.compileFlags
  | .astFlags => s.astFlags
  | .sweepIntervalSecs => s.sweepIntervalSecs
  | .sweepMinAgeMs => s.sweepMinAgeMs
  | .killGraceMs => s.killGraceMs
  | .drainGraceMs => s.drainGraceMs
  | .maxCaptureBytes => s.maxCaptureBytes
  | .staleWorkspaceAgeSecs => s.staleWorkspaceAgeSecs

def ofValues (value : (f : Field) → f.Value) : Settings where
  compilerPath := value .compilerPath
  tempDirectory := value .tempDirectory
  compilationTimeoutMs := value .compilationTimeoutMs
  executionTimeoutMs := value .executionTimeoutMs
  maxSourceLength := value .maxSourceLength
  maxOutputLength := value .maxOutputLength
  compileFlags := value .compileFlags
  astFlags := value .astFlags
  sweepIntervalSecs := value .sweepIntervalSecs
  sweepMinAgeMs := value .sweepMinAgeMs
  killGraceMs := value .killGraceMs
  drainGraceMs := value .drainGraceMs
  maxCaptureBytes := value .maxCaptureBytes
  staleWorkspaceAgeSecs := value .staleWorkspaceAgeSecs

theorem get_ofValues (value : (f : Field) → f.Value) (f : Field) : (ofValues value).get f = value f := by
  cases f <;> rfl

theorem eq_of_get {s s' : Settings} (h : ∀ f, s.get f = s'.get f) : s = s' := by
  have hvalues : ofValues s.get = ofValues s'.get := congrArg ofValues (funext h)
  exact hvalues

namespace Given

variable {g g' : Given} {s : Settings} {missing : Field → DocumentError}

/-- The required fields are given, and the settings have what is given, and the defaults for the rest. -/
def Settles (g : Given) (s : Settings) : Prop :=
  (∀ f ∈ Field.required, ∃ x, g f = some x) ∧ ∀ f, s.get f = (g f).getD (Settings.get {} f)

theorem settings_eq_ok_iff_settles : g.settings missing = .ok s ↔ g.Settles s := by
  unfold settings Settles
  extract_lets need default
  have hneed (f : Field) (x : f.Value) : need f = .ok x ↔ g f = some x := by
    unfold need
    cases g f <;> simp
  have hvalues : (∀ f, s.get f = (g f).getD (Settings.get {} f)) ↔
      ofValues (fun f => (g f).getD (Settings.get {} f)) = s :=
    ⟨fun h => eq_of_get fun f => (get_ofValues _ f).trans (h f).symm, fun h f => h ▸ get_ofValues _ f⟩
  simp only [Except.bind_eq_ok_iff, hneed, hvalues]
  constructor
  · rintro ⟨_, hcompiler, _, htemp, _, hcompilation, _, hexecution, _, hsource, _, houtput, heq⟩
    constructor
    · intro f hf
      simp only [Field.required, Field.all, List.take_succ_cons, List.take_zero, List.mem_cons, List.not_mem_nil,
        or_false] at hf
      obtain rfl | rfl | rfl | rfl | rfl | rfl := hf <;> exact ⟨_, by assumption⟩
    · rw [← Except.ok.inj heq]
      simp only [ofValues, hcompiler, htemp, hcompilation, hexecution, hsource, houtput, Option.getD_some]
      rfl
  · rintro ⟨hrequired, rfl⟩
    obtain ⟨_, hcompiler⟩ := hrequired .compilerPath (by decide)
    obtain ⟨_, htemp⟩ := hrequired .tempDirectory (by decide)
    obtain ⟨_, hcompilation⟩ := hrequired .compilationTimeoutMs (by decide)
    obtain ⟨_, hexecution⟩ := hrequired .executionTimeoutMs (by decide)
    obtain ⟨_, hsource⟩ := hrequired .maxSourceLength (by decide)
    obtain ⟨_, houtput⟩ := hrequired .maxOutputLength (by decide)
    refine ⟨_, hcompiler, _, htemp, _, hcompilation, _, hexecution, _, hsource, _, houtput, ?_⟩
    simp only [ofValues, hcompiler, htemp, hcompilation, hexecution, hsource, houtput, Option.getD_some]
    rfl

end Given

/-! Members -/

/-- What is given after some members, one by one; a known field is given once and by a value of its type. -/
inductive Gathers : Given → List (String × List Char) → Given → Prop
  | nil {g : Given} : Gathers g [] g
  | known {g g' : Given} {f : Field} {x : f.Value} {cs : List Char} {members : List (String × List Char)}
      (free : g f = none) (means : f.Means x cs) (rest : Gathers (g.set f x) members g') :
      Gathers g ((f.name, cs) :: members) g'
  | unknown {g g' : Given} {name : String} {cs : List Char} {members : List (String × List Char)}
      (unknown : Field.ofName? name = none) (rest : Gathers g members g') : Gathers g ((name, cs) :: members) g'

namespace Gathers

variable {g g' : Given} {members : List (String × List Char)} {f : Field}

theorem set_self (g : Given) (f : Field) (x : f.Value) : g.set f x f = some x := by simp [Given.set]

theorem set_of_ne {f' : Field} (h : f ≠ f') (g : Given) (x : f.Value) : g.set f x f' = g f' := by simp [Given.set, h]

theorem cons_iff {name : String} {cs : List Char} : Gathers g ((name, cs) :: members) g' ↔
    match Field.ofName? name with
    | some f => g f = none ∧ ∃ x, f.Means x cs ∧ Gathers (g.set f x) members g'
    | none => Gathers g members g' := by
  constructor
  · intro h
    cases h with
    | known free means rest =>
      rw [Field.ofName?_eq_some_iff.mpr rfl]
      exact ⟨free, _, means, rest⟩
    | unknown unknown rest => rwa [unknown]
  · cases hname : Field.ofName? name with
    | none => exact .unknown hname
    | some f =>
      obtain rfl := Field.ofName?_eq_some_iff.mp hname
      rintro ⟨free, x, means, rest⟩
      exact .known free means rest

theorem eq_some_iff {x : f.Value} (h : Gathers g members g') :
    g' f = some x ↔ g f = some x ∨ ∃ cs, (f.name, cs) ∈ members ∧ f.Means x cs := by
  induction h with
  | nil => simp
  | @known g g' f₀ x₀ cs members free means rest ih =>
    rw [ih]
    by_cases hf : f₀ = f
    · subst hf
      have hvalue : x₀ = x ↔ f₀.Means x cs := ⟨fun h => h ▸ means, means.unique⟩
      simp [set_self, free, hvalue, or_and_right, exists_or]
    · have hname : f.name ≠ f₀.name := fun h => hf (Field.name_injective h).symm
      simp [set_of_ne hf, hname]
  | unknown unknown rest ih => simp [ih, Field.name_ne_of_unknown unknown f]

end Gathers

def Given.room (g : Given) (f : Field) : Nat := if (g f).isSome then 0 else 1

theorem Given.room_set (g : Given) {f : Field} (free : g f = Option.none) (x : f.Value) (f' : Field) :
    g.room f' = (g.set f x).room f' + if f.name = f'.name then 1 else 0 := by
  by_cases hf : f = f'
  · subst hf
    simp [room, free, Gathers.set_self]
  · have hname : f.name ≠ f'.name := fun h => hf (Field.name_injective h)
    simp [room, Gathers.set_of_ne hf, hname]

theorem exists_gathers_iff {g : Given} {members : List (String × List Char)} : (∃ g', Gathers g members g') ↔
    (∀ f : Field, (members.map Prod.fst).count f.name ≤ g.room f) ∧
      ∀ (f : Field) cs, (f.name, cs) ∈ members → ∃ x, f.Means x cs := by
  induction members generalizing g with
  | nil => exact ⟨fun _ => by simp, fun _ => ⟨g, .nil⟩⟩
  | cons m members ih =>
    obtain ⟨name, cs⟩ := m
    simp only [Gathers.cons_iff]
    cases hname : Field.ofName? name with
    | none =>
      have hne (f : Field) : f.name ≠ name := Field.name_ne_of_unknown hname f
      simp [ih, hne, (hne _).symm]
    | some f₀ =>
      obtain rfl := Field.ofName?_eq_some_iff.mp hname
      constructor
      · rintro ⟨g', free, x, means, hrest⟩
        obtain ⟨hcount, htyped⟩ := ih.mp ⟨g', hrest⟩
        refine ⟨fun f => ?_, fun f cs' hmem => ?_⟩
        · rw [List.map_cons, List.count_cons, g.room_set free x f]
          simpa using hcount f
        · obtain heq | hmem := List.mem_cons.mp hmem
          · obtain ⟨hf, rfl⟩ := Prod.mk.inj heq
            obtain rfl := Field.name_injective hf
            exact ⟨x, means⟩
          · exact htyped f cs' hmem
      · rintro ⟨hcount, htyped⟩
        obtain ⟨x, means⟩ := htyped f₀ cs (List.mem_cons_self ..)
        have free : g f₀ = none := by
          cases hg : g f₀ with
          | none => rfl
          | some y =>
            have hroom := hcount f₀
            simp [Given.room, hg] at hroom
        have hrest : ∃ g', Gathers (g.set f₀ x) members g' := by
          refine ih.mpr ⟨fun f => ?_, fun f cs' hmem => htyped f cs' (List.mem_cons_of_mem _ hmem)⟩
          have hroom := hcount f
          rw [List.map_cons, List.count_cons, g.room_set free x f] at hroom
          simpa using hroom
        obtain ⟨g', hrest⟩ := hrest
        exact ⟨g', free, x, means, hrest⟩

/-- Members that make up a document for settings. -/
structure IsAccepted (members : List (String × List Char)) : Prop where
  required : ∀ f ∈ Field.required, f.name ∈ members.map Prod.fst
  once : ∀ f : Field, (members.map Prod.fst).count f.name ≤ 1
  typed : ∀ (f : Field) cs, (f.name, cs) ∈ members → ∃ x, f.Means x cs

structure IsRead (s : Settings) (members : List (String × List Char)) : Prop where
  given : ∀ (f : Field) cs, (f.name, cs) ∈ members → ∀ x, s.get f = x ↔ f.Means x cs
  default : ∀ f : Field, f.name ∉ members.map Prod.fst → s.get f = Settings.get {} f

theorem exists_settles_iff {members : List (String × List Char)} {s : Settings} :
    (∃ g, Gathers .none members g ∧ g.Settles s) ↔ IsAccepted members ∧ s.IsRead members := by
  have hgiven {g : Given} (h : Gathers .none members g) (f : Field) (x : f.Value) :
      g f = some x ↔ ∃ cs, (f.name, cs) ∈ members ∧ f.Means x cs := by
    rw [h.eq_some_iff]
    simp [Given.none]
  have hname {f : Field} : f.name ∈ members.map Prod.fst ↔ ∃ cs, (f.name, cs) ∈ members := by simp
  have hnone {g : Given} (h : Gathers .none members g) {f : Field} (hf : f.name ∉ members.map Prod.fst) :
      g f = none := by
    refine Option.eq_none_iff_forall_ne_some.mpr fun x hx => hf ?_
    obtain ⟨cs, hmem, -⟩ := (hgiven h f x).mp hx
    exact hname.mpr ⟨cs, hmem⟩
  constructor
  · rintro ⟨g, hg, hrequired, hget⟩
    obtain ⟨honce, htyped⟩ := exists_gathers_iff.mp ⟨g, hg⟩
    refine ⟨⟨fun f hf => ?_, honce, htyped⟩, ⟨fun f cs hmem x => ?_, fun f hf => ?_⟩⟩
    · obtain ⟨x, hx⟩ := hrequired f hf
      obtain ⟨cs, hmem, -⟩ := (hgiven hg f x).mp hx
      exact hname.mpr ⟨cs, hmem⟩
    · obtain ⟨y, hy⟩ := htyped f cs hmem
      rw [hget, (hgiven hg f y).mpr ⟨cs, hmem, hy⟩]
      exact ⟨fun h => h ▸ hy, hy.unique⟩
    · rw [hget, hnone hg hf]
      rfl
  · rintro ⟨haccepted, hread⟩
    have hgathers : ∃ g, Gathers .none members g := exists_gathers_iff.mpr ⟨haccepted.once, haccepted.typed⟩
    obtain ⟨g, hg⟩ := hgathers
    have hsome {f : Field} {cs : List Char} (hmem : (f.name, cs) ∈ members) : g f = some (s.get f) :=
      (hgiven hg f _).mpr ⟨cs, hmem, (hread.given f cs hmem _).mp rfl⟩
    refine ⟨g, hg, fun f hf => ?_, fun f => ?_⟩
    · obtain ⟨cs, hmem⟩ := hname.mp (haccepted.required f hf)
      exact ⟨_, hsome hmem⟩
    · by_cases hf : f.name ∈ members.map Prod.fst
      · obtain ⟨cs, hmem⟩ := hname.mp hf
        rw [hsome hmem]
        rfl
      · rw [hnone hg hf]
        exact hread.default f hf

/-! Records -/

section Records

variable {rest : List Char} {first : Bool} {g : Given}

theorem readRecord_cons {m : String × List Char} {lead cs : List Char} (g : Given) (fuel : Nat)
    (hlead : Lead first lead) (h : IsNamed m cs) (hvalue : IsValue m.2) (hrest : EndsNumber rest) (p : Position) :
    ∃ blank p' p'', IsBlank blank ∧ readRecord (fuel + 1) first g ⟨lead ++ (cs ++ rest), p⟩ =
      match Field.ofName? m.1 with
      | some f =>
        if (g f).isSome then .error ⟨.duplicateField f, p''⟩
        else readField f ⟨blank ++ (m.2 ++ rest), p'⟩ >>= fun (x, c) => readRecord fuel false (g.set f x) c
      | none => readRecord fuel false g ⟨rest, p'⟩ := by
  obtain ⟨name, hname, hmember⟩ := h
  cases hmember with
  | @mk before after hbefore hafter =>
    obtain ⟨p₁, hnext⟩ := nextKey_part hlead (name ++ '"' :: (before ++ ':' :: (after ++ (m.2 ++ rest)))) p
    obtain ⟨p₂, hscan⟩ := scanText_of_spells hname (before ++ ':' :: (after ++ (m.2 ++ rest))) p₁
    obtain ⟨p₃, hcolon⟩ := colon_leaves hbefore (after ++ (m.2 ++ rest)) p₂
    obtain ⟨p₄, hpass⟩ := pass_leaves hvalue hafter hrest p₃
    simp only [List.cons_append, List.append_assoc]
    rw [readRecord, hnext, liftM_ok, Except.ok_bind]
    simp only [hscan, liftM_ok, Except.ok_bind, hcolon, hpass]
    cases Field.ofName? m.1 with
    | none => exact ⟨[], p₄, p₄, isBlank_nil, rfl⟩
    | some f => exact ⟨after, p₃, _, hafter, rfl⟩

theorem readRecord_nil {blank : List Char} (first : Bool) (g : Given) (fuel : Nat) (hblank : IsBlank blank)
    (rest : List Char) (p : Position) :
    ∃ p', readRecord (fuel + 1) first g ⟨blank ++ '\x7d' :: rest, p⟩ =
      (g.settings fun f => ⟨.missingField f, p'⟩).map (·, ⟨rest, p'⟩) := by
  obtain ⟨p', hnext⟩ := nextKey_closed first hblank rest p
  refine ⟨p', ?_⟩
  rw [readRecord, hnext]
  rfl

theorem readRecord_of_gathers {members : List (String × List Char)} {cs : List Char} {fuel : Nat} {g' : Given}
    {s : Settings} (h : Gathers g members g') (hs : g'.Settles s) (hvalues : ∀ m ∈ members, IsValue m.2)
    (written : Listed IsNamed first members cs) (hfuel : members.length < fuel) (rest : List Char) (p : Position) :
    Reads (readRecord fuel first g ⟨cs ++ '\x7d' :: rest, p⟩) s rest := by
  induction members generalizing cs first fuel g p with
  | nil =>
    obtain ⟨fuel, rfl⟩ := Nat.exists_eq_succ_of_ne_zero (Nat.ne_of_gt hfuel)
    cases h
    cases written with
    | nil hblank =>
      obtain ⟨p', hread⟩ := readRecord_nil first _ fuel hblank rest p
      rw [hread, Given.settings_eq_ok_iff_settles.mpr hs]
      exact ⟨p', rfl⟩
  | cons m members ih =>
    obtain ⟨fuel, rfl⟩ := Nat.exists_eq_succ_of_ne_zero (Nat.ne_zero_of_lt hfuel)
    have hmore {cs : List Char} {g : Given} {p : Position} (h : Gathers g members g')
        (written : Listed IsNamed false members cs) :
        Reads (readRecord fuel false g ⟨cs ++ '\x7d' :: rest, p⟩) s rest :=
      ih h (fun n hn => hvalues n (List.mem_cons_of_mem _ hn)) written (Nat.lt_of_succ_lt_succ hfuel) p
    have hvalue := hvalues m (List.mem_cons_self ..)
    cases written with
    | @cons _ _ _ lead member tail hlead hmember more =>
      have hend := more.endsNumber (.inr rfl) rest
      obtain ⟨blank, p', p'', hblank, hread⟩ := readRecord_cons g fuel hlead hmember hvalue hend p
      simp only [List.append_assoc]
      rw [hread]
      have hcons := Gathers.cons_iff.mp h
      cases hname : Field.ofName? m.1 with
      | none =>
        rw [hname] at hcons
        exact hmore hcons more
      | some f =>
        rw [hname] at hcons
        obtain ⟨free, x, means, hrest⟩ := hcons
        obtain ⟨p₃, hfield⟩ := readField_of_means means hblank hend p'
        simp only [free, hfield, Except.ok_bind]
        exact hmore hrest more

theorem gathers_of_readRecord {members : List (String × List Char)} {cs : List Char} {fuel : Nat}
    {found : Settings × Cursor} {p : Position} (hvalues : ∀ m ∈ members, IsValue m.2)
    (written : Listed IsNamed first members cs)
    (hread : readRecord fuel first g ⟨cs ++ '\x7d' :: rest, p⟩ = .ok found) :
    ∃ g', Gathers g members g' ∧ g'.Settles found.1 := by
  induction members generalizing cs first fuel g p with
  | nil =>
    cases written with
    | nil hblank =>
      cases fuel with
      | zero => cases hread
      | succ fuel =>
        obtain ⟨p', heq⟩ := readRecord_nil first _ fuel hblank rest p
        rw [heq, Except.map_eq_ok_iff] at hread
        obtain ⟨s, hsettings, rfl⟩ := hread
        exact ⟨g, .nil, Given.settings_eq_ok_iff_settles.mp hsettings⟩
  | cons m members ih =>
    cases fuel with
    | zero => cases hread
    | succ fuel =>
      have hvalues' : ∀ n ∈ members, IsValue n.2 := fun n hn => hvalues n (List.mem_cons_of_mem _ hn)
      have hvalue := hvalues m (List.mem_cons_self ..)
      cases written with
      | @cons _ _ _ lead member tail hlead hmember more =>
        have hend := more.endsNumber (.inr rfl) rest
        obtain ⟨blank, p', p'', hblank, heq⟩ := readRecord_cons g fuel hlead hmember hvalue hend p
        simp only [List.append_assoc] at hread
        rw [heq] at hread
        cases hname : Field.ofName? m.1 with
        | none =>
          rw [hname] at hread
          obtain ⟨g', hrest, hs⟩ := ih hvalues' more hread
          exact ⟨g', Gathers.cons_iff.mpr (by rwa [hname]), hs⟩
        | some f =>
          rw [hname] at hread
          cases hg : g f with
          | some x => simp [hg] at hread
          | none =>
            simp only [hg, Option.isSome_none, Bool.false_eq_true, if_false, Except.bind_eq_ok_iff] at hread
            obtain ⟨⟨x, rest', p₃⟩, hfield, hread⟩ := hread
            obtain ⟨means, hleft⟩ := means_of_readField hvalue hblank hend hfield
            subst hleft
            obtain ⟨g', hrest, hs⟩ := ih hvalues' more hread
            refine ⟨g', Gathers.cons_iff.mpr ?_, hs⟩
            rw [hname]
            exact ⟨hg, x, means, hrest⟩

end Records

/-! Lists -/

section Lists

variable {rest : List Char} {first : Bool} {g : Given}

theorem readList_nil {blank : List Char} (first : Bool) (g : Given) (fields : List Field) (hblank : IsBlank blank)
    (rest : List Char) (p : Position) :
    ∃ missing p', readList first g fields ⟨blank ++ ']' :: rest, p⟩ = (g.settings missing).map (·, ⟨rest, p'⟩) := by
  cases fields with
  | nil =>
    obtain ⟨p', hclose⟩ := closeList_leaves hblank rest p
    refine ⟨fun f => ⟨.missingField f, p'⟩, p', ?_⟩
    rw [readList, hclose]
    rfl
  | cons f fields =>
    obtain ⟨p', hnext⟩ := nextItem_closed first hblank rest p
    refine ⟨fun f => ⟨.invalidLength (Field.all.idxOf f), p'⟩, p', ?_⟩
    rw [readList, hnext]
    rfl

theorem readList_cons {item lead : List Char} (g : Given) (f : Field) (fields : List Field) (hlead : Lead first lead)
    (hvalue : IsValue item) (rest : List Char) (p : Position) :
    ∃ p', readList first g (f :: fields) ⟨lead ++ (item ++ rest), p⟩ =
      readField f ⟨item ++ rest, p'⟩ >>= fun (x, c) => readList false (g.set f x) fields c := by
  obtain ⟨c, cs, rfl, hfront, hc⟩ := hvalue.front
  obtain ⟨p', hnext⟩ := nextItem_part hlead hfront hc (cs ++ rest) p
  refine ⟨p', ?_⟩
  rw [List.cons_append, readList, hnext]
  rfl

def asMembers (fields : List Field) (items : List (List Char)) : List (String × List Char) :=
  (fields.map Field.name).zip items

theorem readList_of_gathers {fields : List Field} {items : List (List Char)} {cs : List Char} {g' : Given}
    {s : Settings} (h : Gathers g (asMembers fields items) g') (hs : g'.Settles s)
    (hvalues : ∀ item ∈ items, IsValue item) (written : Listed Eq first items cs)
    (hlength : items.length ≤ fields.length) (rest : List Char) (p : Position) :
    Reads (readList first g fields ⟨cs ++ ']' :: rest, p⟩) s rest := by
  induction items generalizing cs first fields g p with
  | nil =>
    have hsame : g = g' := by
      rw [asMembers, List.zip_nil_right] at h
      cases h
      rfl
    subst hsame
    cases written with
    | nil hblank =>
      obtain ⟨missing, p', hread⟩ := readList_nil first g fields hblank rest p
      rw [hread, Given.settings_eq_ok_iff_settles.mpr hs]
      exact ⟨p', rfl⟩
  | cons item items ih =>
    cases fields with
    | nil => simp at hlength
    | cons f fields =>
      have hvalue := hvalues item (List.mem_cons_self ..)
      cases written with
      | @cons _ _ _ lead _ tail hlead hitem more =>
        subst hitem
        have hend := more.endsNumber (.inl rfl) rest
        obtain ⟨p', hread⟩ := readList_cons g f fields hlead hvalue (tail ++ ']' :: rest) p
        have hcons := Gathers.cons_iff.mp h
        rw [Field.ofName?_eq_some_iff.mpr rfl] at hcons
        obtain ⟨free, x, means, hrest⟩ := hcons
        obtain ⟨p₃, hfield⟩ := readField_of_means means isBlank_nil hend p'
        simp only [List.append_assoc]
        rw [hread]
        rw [List.nil_append] at hfield
        rw [hfield]
        exact ih hrest (fun x hx => hvalues x (List.mem_cons_of_mem _ hx)) more (Nat.le_of_succ_le_succ hlength) p₃

theorem gathers_of_readList {fields : List Field} {items : List (List Char)} {cs : List Char}
    {found : Settings × Cursor} {p : Position} (hfree : ∀ f ∈ fields, g f = none) (hdistinct : fields.Nodup)
    (hvalues : ∀ item ∈ items, IsValue item) (written : Listed Eq first items cs)
    (hlength : items.length ≤ fields.length)
    (hread : readList first g fields ⟨cs ++ ']' :: rest, p⟩ = .ok found) :
    ∃ g', Gathers g (asMembers fields items) g' ∧ g'.Settles found.1 := by
  induction items generalizing cs first fields g p with
  | nil =>
    cases written with
    | nil hblank =>
      obtain ⟨missing, p', heq⟩ := readList_nil first g fields hblank rest p
      rw [heq, Except.map_eq_ok_iff] at hread
      obtain ⟨s, hsettings, rfl⟩ := hread
      exact ⟨g, by simpa [asMembers] using Gathers.nil, Given.settings_eq_ok_iff_settles.mp hsettings⟩
  | cons item items ih =>
    cases fields with
    | nil => simp at hlength
    | cons f fields =>
      have hvalue := hvalues item (List.mem_cons_self ..)
      obtain ⟨hf, hdistinct⟩ := List.nodup_cons.mp hdistinct
      cases written with
      | @cons _ _ _ lead _ tail hlead hitem more =>
        subst hitem
        have hend := more.endsNumber (.inl rfl) rest
        obtain ⟨p', heq⟩ := readList_cons g f fields hlead hvalue (tail ++ ']' :: rest) p
        simp only [List.append_assoc] at hread
        rw [heq, Except.bind_eq_ok_iff] at hread
        obtain ⟨⟨x, rest', p₃⟩, hfield, hread⟩ := hread
        obtain ⟨means, hleft⟩ := means_of_readField hvalue isBlank_nil hend hfield
        subst hleft
        have hfree' : ∀ f' ∈ fields, g.set f x f' = none := fun f' hf' => by
          have hne : f ≠ f' := fun h => hf (h ▸ hf')
          rw [Gathers.set_of_ne hne]
          exact hfree f' (List.mem_cons_of_mem _ hf')
        obtain ⟨g', hrest, hs⟩ := ih hfree' hdistinct (fun x hx => hvalues x (List.mem_cons_of_mem _ hx)) more
          (Nat.le_of_succ_le_succ hlength) hread
        exact ⟨g', .known (hfree f (List.mem_cons_self ..)) means hrest, hs⟩

end Lists
/-! Documents -/

theorem finished_eq_ok_iff {r : Reading (Settings × Cursor)} {members : List (String × List Char)} {after : List Char}
    {s : Settings} (hafter : IsBlank after)
    (hgathers : ∀ found, r = .ok found → ∃ g, Gathers .none members g ∧ g.Settles found.1)
    (hreads : ∀ g s, Gathers .none members g → g.Settles s → Reads r s after) :
    (do
      let (s, c) ← r
      finish c
      return s) = .ok s ↔ IsAccepted members ∧ s.IsRead members := by
  rw [← exists_settles_iff, Except.bind_eq_ok_iff]
  constructor
  · rintro ⟨⟨s', rest, p⟩, hread, hfinish⟩
    obtain ⟨g, hg, hs⟩ := hgathers _ hread
    obtain rfl : rest = after := (hreads g s' hg hs).rest_eq hread
    simp only [finish_eq_ok hafter, liftM_ok, Except.ok_bind] at hfinish
    cases hfinish
    exact ⟨g, hg, hs⟩
  · rintro ⟨g, hg, hs⟩
    obtain ⟨p, hread⟩ := hreads g s hg hs
    refine ⟨_, hread, ?_⟩
    simp only [finish_eq_ok hafter, liftM_ok, Except.ok_bind]
    rfl

theorem ofDocument_record {members : List (String × List Char)} {text : String} (h : IsRecordText members text.toList)
    (s : Settings) : ofDocument text = .ok s ↔ IsAccepted members ∧ s.IsRead members := by
  generalize htext : text.toList = cs at h
  cases h with
  | @mk before cs after hbefore values written hafter =>
    obtain ⟨p, hfront⟩ := front_leaves (c := '\x7b') hbefore (by decide) (cs ++ '\x7d' :: after) {}
    have hlength : members.length ≤ cs.length := written.length_le fun m cs h => by
      obtain ⟨_, _, hmember⟩ := h
      cases hmember
      exact List.cons_ne_nil _ _
    have hfuel : members.length < Cursor.fuel ⟨'\x7b' :: (cs ++ '\x7d' :: after), p⟩ := by
      simp only [Cursor.fuel, List.length_cons, List.length_append]
      omega
    rw [ofDocument, Cursor.ofString, htext, hfront, liftM_ok, Except.ok_bind]
    refine finished_eq_ok_iff hafter (fun found hread => ?_) fun g s hg hs => ?_
    · exact gathers_of_readRecord values written hread
    · exact readRecord_of_gathers hg hs values written hfuel after _

theorem ofDocument_list {items : List (List Char)} {text : String} (h : IsListText items text.toList)
    (hlength : items.length ≤ Field.all.length) (s : Settings) : ofDocument text = .ok s ↔
      IsAccepted (asMembers Field.all items) ∧ s.IsRead (asMembers Field.all items) := by
  generalize htext : text.toList = cs at h
  cases h with
  | @mk before cs after hbefore values written hafter =>
    obtain ⟨p, hfront⟩ := front_leaves (c := '[') hbefore (by decide) (cs ++ ']' :: after) {}
    rw [ofDocument, Cursor.ofString, htext, hfront, liftM_ok, Except.ok_bind]
    refine finished_eq_ok_iff hafter (fun found hread => ?_) fun g s hg hs => ?_
    · exact gathers_of_readList (fun _ _ => rfl) (by decide) values written hlength hread
    · exact readList_of_gathers hg hs values written hlength after _

example : (ofDocument "[\"/c\", \"/t\", 1, 2, 3, 4]").toOption =
    some ⟨"/c", "/t", 1, 2, 3, 4, [], ["-ast", "2"], 120, 0, 2000, 5000, 8388608, 3600⟩ := by decide +kernel

end Settings
end SnippetLab
