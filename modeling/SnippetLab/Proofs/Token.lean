import SnippetLab.Token.Wire
import SnippetLab.Proofs.Json.Write
import Mathlib.Data.List.Nodup

/-!
Tokens on the wire. What is written of a token is read back, and an object is read as a token by its fields alone,
whatever else it holds and in whatever order.
-/
namespace SnippetLab

/-! ### Parts of a document -/

namespace Json

variable {n : Nat} {name : String} {j : Json}

theorem nat?_eq_some_iff : j.nat? = some n ↔ j = .nat n := by
  unfold nat? nat
  split <;> simp_all

theorem text?_eq_some_iff {s : String} : j.text? = some s ↔ j = .text s := by
  unfold text?
  split <;> simp_all

theorem eq_of_mem {fields : List (String × Json)} {j' : Json} (h : (fields.map Prod.fst).Nodup)
    (hj : (name, j) ∈ fields) (hj' : (name, j') ∈ fields) : j = j' :=
  congrArg Prod.snd (List.inj_on_of_nodup_map h hj hj' rfl)

theorem field?_eq_some_iff {fields : List (String × Json)} (h : (fields.map Prod.fst).Nodup) :
    (Json.record fields).field? name = some j ↔ (name, j) ∈ fields := by
  rw [field?, Option.map_eq_some_iff]
  constructor
  · rintro ⟨⟨name', j⟩, hfind, rfl⟩
    obtain rfl : name' = name := by simpa using List.find?_some hfind
    exact List.mem_of_find?_eq_some hfind
  · intro hmem
    cases hfind : fields.find? (·.1 == name) with
    | none => simpa using List.find?_eq_none.mp hfind _ hmem
    | some m =>
      obtain rfl : m.1 = name := by simpa using List.find?_some hfind
      exact ⟨m, rfl, eq_of_mem h (List.mem_of_find?_eq_some hfind) hmem⟩

end Json

/-! ### Wire names -/

theorem find?_eq_some_iff_of_names {α : Type} {all : List α} {nameOf : α → String}
    (hall : ∀ a, all.find? (nameOf · == nameOf a) = some a) {name : String} {a : α} :
    all.find? (nameOf · == name) = some a ↔ name = nameOf a := by
  constructor
  · intro h
    have hfound := List.find?_some h
    exact (beq_iff_eq.mp hfound).symm
  · rintro rfl
    exact hall a

theorem TokenKind.ofWireName?_eq_some_iff {name : String} {k : TokenKind} :
    ofWireName? name = some k ↔ name = k.wireName :=
  find?_eq_some_iff_of_names fun k => by cases k <;> decide

theorem SymbolKind.ofWireName?_eq_some_iff {name : String} {k : SymbolKind} :
    ofWireName? name = some k ↔ name = k.wireName :=
  find?_eq_some_iff_of_names fun k => by cases k <;> decide

theorem SymbolKind.wireName_inj {k k' : SymbolKind} : k.wireName = k'.wireName ↔ k = k' := by
  refine ⟨fun h => ?_, congrArg _⟩
  have hk := ofWireName?_eq_some_iff.mpr h
  rw [ofWireName?_eq_some_iff.mpr rfl] at hk
  exact Option.some.inj hk

namespace Token

variable {field? : String → Option Json} {fields : List (String × Json)} {t : Token}

structure IsHeld (field? : String → Option Json) (t : Token) : Prop where
  startLine : field? "startLine" = some (.nat t.startLine)
  startColumn : field? "startColumn" = some (.nat t.startColumn)
  endLine : field? "endLine" = some (.nat t.endLine)
  endColumn : field? "endColumn" = some (.nat t.endColumn)
  kind : ∃ j, field? "kind" = some j ∧ choice? j = some t.kind.wireName
  text : field? "text" = some (.text t.text)
  tag : readTag? (field? "semanticTag") = some t.semanticTag

theorem ofFields?_eq_some_iff : ofFields? field? = some t ↔ IsHeld field? t := by
  unfold ofFields?
  simp only [Option.bind_eq_bind, Option.pure_def, Option.bind_eq_some_iff, Json.nat?_eq_some_iff,
    Json.text?_eq_some_iff, TokenKind.ofWireName?_eq_some_iff]
  constructor
  · rintro ⟨_, ⟨_, h₁, rfl⟩, _, ⟨_, h₂, rfl⟩, _, ⟨_, h₃, rfl⟩, _, ⟨_, h₄, rfl⟩, _, ⟨j, h₅, name, hname, rfl⟩,
      _, ⟨_, h₆, rfl⟩, _, h₇, h⟩
    cases h
    exact ⟨h₁, h₂, h₃, h₄, ⟨j, h₅, hname⟩, h₆, h₇⟩
  · rintro ⟨h₁, h₂, h₃, h₄, ⟨j, h₅, hname⟩, h₆, h₇⟩
    exact ⟨_, ⟨_, h₁, rfl⟩, _, ⟨_, h₂, rfl⟩, _, ⟨_, h₃, rfl⟩, _, ⟨_, h₄, rfl⟩, _, ⟨j, h₅, _, hname, rfl⟩,
      _, ⟨_, h₆, rfl⟩, _, h₇, rfl⟩

/-! ### Objects -/

/-- An object without repeated names. Where it has a kind or a tag, that is a text or null. -/
structure IsObject (fields : List (String × Json)) : Prop where
  nodup : (fields.map Prod.fst).Nodup
  kind : ∀ j, ("kind", j) ∈ fields → j = .null ∨ ∃ s, j = .text s
  tag : ∀ j, ("semanticTag", j) ∈ fields → j = .null ∨ ∃ s, j = .text s

/-- The object has the parts of the token, and its tag unless that is missing or null. -/
structure Carries (fields : List (String × Json)) (t : Token) : Prop where
  startLine : ("startLine", .nat t.startLine) ∈ fields
  startColumn : ("startColumn", .nat t.startColumn) ∈ fields
  endLine : ("endLine", .nat t.endLine) ∈ fields
  endColumn : ("endColumn", .nat t.endColumn) ∈ fields
  kind : ("kind", .text t.kind.wireName) ∈ fields
  text : ("text", .text t.text) ∈ fields
  tag : ∀ k, t.semanticTag = some k ↔ ("semanticTag", .text k.wireName) ∈ fields
  known : ∀ j, ("semanticTag", j) ∈ fields → j = .null ∨ ∃ k : SymbolKind, j = .text k.wireName

theorem choice?_eq_some_iff {j : Json} {name : String} (h : j = .null ∨ ∃ s, j = .text s) :
    choice? j = some name ↔ j = .text name := by
  obtain rfl | ⟨s, rfl⟩ := h <;> simp [choice?]

theorem readTag?_eq_some_iff {j? : Option Json}
    (h : ∀ j, j? = some j → j = .null ∨ ∃ s, j = .text s) (tag : Option SymbolKind) :
    readTag? j? = some tag ↔ (∀ k, tag = some k ↔ j? = some (.text k.wireName)) ∧
      ∀ j, j? = some j → j = .null ∨ ∃ k : SymbolKind, j = .text k.wireName := by
  cases j? with
  | none => cases tag <;> simp [readTag?]
  | some j =>
    obtain rfl | ⟨s, rfl⟩ := h j rfl
    · cases tag <;> simp [readTag?]
    · have hread : readTag? (some (.text s)) = (SymbolKind.ofWireName? s).map some := rfl
      rw [hread, Option.map_eq_some_iff]
      constructor
      · rintro ⟨k, hk, rfl⟩
        obtain rfl := SymbolKind.ofWireName?_eq_some_iff.mp hk
        exact ⟨fun k' => by simp [SymbolKind.wireName_inj], fun j hj => .inr ⟨k, (Option.some.inj hj).symm⟩⟩
      · rintro ⟨htag, hknown⟩
        obtain hnull | ⟨k, hk⟩ := hknown _ rfl
        · cases hnull
        · obtain rfl := Json.text.inj hk
          exact ⟨k, SymbolKind.ofWireName?_eq_some_iff.mpr rfl, ((htag k).mpr rfl).symm⟩

theorem ofJson?_record (h : IsObject fields) : ofJson? (.record fields) = some t ↔ Carries fields t := by
  have hfield {name : String} {j : Json} : (Json.record fields).field? name = some j ↔ (name, j) ∈ fields :=
    Json.field?_eq_some_iff h.nodup
  have htag := readTag?_eq_some_iff (fun j hj => h.tag j (hfield.mp hj)) t.semanticTag
  refine ofFields?_eq_some_iff.trans ⟨fun held => ?_, fun carried => ?_⟩
  · obtain ⟨j, hj, hkind⟩ := held.kind
    obtain rfl := (choice?_eq_some_iff (h.kind j (hfield.mp hj))).mp hkind
    obtain ⟨htag, hknown⟩ := htag.mp held.tag
    exact {
      startLine := hfield.mp held.startLine
      startColumn := hfield.mp held.startColumn
      endLine := hfield.mp held.endLine
      endColumn := hfield.mp held.endColumn
      kind := hfield.mp hj
      text := hfield.mp held.text
      tag := fun k => (htag k).trans hfield
      known := fun j hj => hknown j (hfield.mpr hj) }
  · exact {
      startLine := hfield.mpr carried.startLine
      startColumn := hfield.mpr carried.startColumn
      endLine := hfield.mpr carried.endLine
      endColumn := hfield.mpr carried.endColumn
      kind := ⟨_, hfield.mpr carried.kind, rfl⟩
      text := hfield.mpr carried.text
      tag := htag.mpr ⟨fun k => (carried.tag k).trans hfield.symm, fun j hj => carried.known j (hfield.mp hj)⟩ }

def positionNames : List String := ["startLine", "startColumn", "endLine", "endColumn"]

structure IsComplete (fields : List (String × Json)) : Prop where
  positions : ∀ name ∈ positionNames, ∃ n < UInt64.size, (name, Json.nat n) ∈ fields
  kind : ∃ k : TokenKind, ("kind", .text k.wireName) ∈ fields
  text : ∃ s, ("text", .text s) ∈ fields
  tag : ∀ j, ("semanticTag", j) ∈ fields → j = .null ∨ ∃ k : SymbolKind, j = .text k.wireName

theorem exists_carries_iff (hnodup : (fields.map Prod.fst).Nodup)
    (hless : ∀ name n, (name, Json.nat n) ∈ fields → n < UInt64.size) : (∃ t, Carries fields t) ↔ IsComplete fields := by
  constructor
  · rintro ⟨t, carried⟩
    refine ⟨?_, ⟨_, carried.kind⟩, ⟨_, carried.text⟩, carried.known⟩
    simp only [positionNames, List.forall_mem_cons]
    exact ⟨⟨_, hless _ _ carried.startLine, carried.startLine⟩,
      ⟨_, hless _ _ carried.startColumn, carried.startColumn⟩,
      ⟨_, hless _ _ carried.endLine, carried.endLine⟩,
      ⟨_, hless _ _ carried.endColumn, carried.endColumn⟩, by simp⟩
  · rintro ⟨positions, ⟨kind, hkind⟩, ⟨text, htext⟩, hknown⟩
    simp only [positionNames, List.forall_mem_cons] at positions
    obtain ⟨⟨startLine, -, h₁⟩, ⟨startColumn, -, h₂⟩, ⟨endLine, -, h₃⟩, ⟨endColumn, -, h₄⟩, -⟩ := positions
    have htag : ∃ tag : Option SymbolKind, ∀ k, tag = some k ↔ ("semanticTag", Json.text k.wireName) ∈ fields := by
      by_cases hk : ∃ k : SymbolKind, ("semanticTag", Json.text k.wireName) ∈ fields
      · obtain ⟨k, hk⟩ := hk
        refine ⟨some k, fun k' => ⟨?_, fun hk' => ?_⟩⟩
        · rintro ⟨⟩
          exact hk
        · have heq := Json.eq_of_mem hnodup hk hk'
          rw [SymbolKind.wireName_inj.mp (Json.text.inj heq)]
      · refine ⟨none, fun k => ⟨fun hnone => (by cases hnone), fun hmem => absurd ⟨k, hmem⟩ hk⟩⟩
    obtain ⟨semanticTag, htag⟩ := htag
    exact ⟨{ startLine, startColumn, endLine, endColumn, kind, text, semanticTag },
      h₁, h₂, h₃, h₄, hkind, htext, htag, hknown⟩

/-- Order and other fields do not matter. -/
theorem Carries.of_agree {other : List (String × Json)} (h : ∀ m, m.1 ∈ fieldNames → (m ∈ fields ↔ m ∈ other))
    (carried : Carries fields t) : Carries other t := by
  have hmem {name : String} {j : Json} (hname : name ∈ fieldNames) : (name, j) ∈ fields ↔ (name, j) ∈ other := h _ hname
  exact {
    startLine := (hmem (by decide)).mp carried.startLine
    startColumn := (hmem (by decide)).mp carried.startColumn
    endLine := (hmem (by decide)).mp carried.endLine
    endColumn := (hmem (by decide)).mp carried.endColumn
    kind := (hmem (by decide)).mp carried.kind
    text := (hmem (by decide)).mp carried.text
    tag := fun k => (carried.tag k).trans (hmem (by decide))
    known := fun j hj => carried.known j ((hmem (by decide)).mpr hj) }

theorem Carries.mem_of_mem {other : List (String × Json)} (carried : Carries fields t) (hother : Carries other t)
    (hnodup : (other.map Prod.fst).Nodup) {m : String × Json} (hname : m.1 ∈ fieldNames)
    (hnull : m ≠ ("semanticTag", .null)) (hm : m ∈ other) : m ∈ fields := by
  obtain ⟨name, j⟩ := m
  have heq {j' : Json} (hj' : (name, j') ∈ other) : j = j' := Json.eq_of_mem hnodup hm hj'
  simp only [fieldNames, List.mem_cons, List.not_mem_nil, or_false] at hname
  obtain rfl | rfl | rfl | rfl | rfl | rfl | rfl := hname
  · exact heq hother.startLine ▸ carried.startLine
  · exact heq hother.startColumn ▸ carried.startColumn
  · exact heq hother.endLine ▸ carried.endLine
  · exact heq hother.endColumn ▸ carried.endColumn
  · exact heq hother.kind ▸ carried.kind
  · exact heq hother.text ▸ carried.text
  · obtain rfl | ⟨k, rfl⟩ := hother.known j hm
    · exact absurd rfl hnull
    · exact (carried.tag k).mp ((hother.tag k).mpr hm)

/-! ### What is written -/

theorem carries_toJson (t : Token) : ∃ written, t.toJson = .record written ∧ IsObject written ∧ Carries written t ∧
    ∀ m ∈ written, m.1 ∈ fieldNames ∧ m.2 ≠ .null := by
  refine ⟨_, rfl, ⟨?_, ?_, ?_⟩, ⟨?_, ?_, ?_, ?_, ?_, ?_, ?_, ?_⟩, ?_⟩
  all_goals cases t.semanticTag <;> simp [fieldNames, SymbolKind.wireName_inj, Json.nat, eq_comm]

theorem ofJson?_toJson (t : Token) : ofJson? t.toJson = some t := by
  obtain ⟨written, heq, hobject, hcarries, -⟩ := t.carries_toJson
  rw [heq]
  exact (ofJson?_record hobject).mpr hcarries

theorem listOfJson?_listToJson (tokens : List Token) : listOfJson? (listToJson tokens) = some tokens := by
  rw [listToJson, listOfJson?, Json.items?, Option.bind_eq_bind, Option.bind_some]
  induction tokens with
  | nil => rfl
  | cons t tokens ih =>
    rw [List.map_cons, List.mapM_cons, ofJson?_toJson, ih]
    rfl

def Fits (t : Token) : Prop := ∀ n ∈ t.position, n < UInt64.size

theorem isNatural_toJson (h : t.Fits) : t.toJson.IsNatural := by
  simp only [Fits, position, List.forall_mem_cons] at h
  obtain ⟨h₁, h₂, h₃, h₄, -⟩ := h
  refine .record fun m hm => ?_
  simp only [List.cons_append, List.nil_append, List.mem_cons, Option.mem_toList,
    Option.map_eq_some_iff] at hm
  obtain rfl | rfl | rfl | rfl | rfl | rfl | ⟨k, -, rfl⟩ := hm
  · exact .number h₁
  · exact .number h₂
  · exact .number h₃
  · exact .number h₄
  · exact .text _
  · exact .text _
  · exact .text _

theorem isNatural_listToJson {tokens : List Token} (h : ∀ t ∈ tokens, t.Fits) : (listToJson tokens).IsNatural := by
  refine .list fun j hj => ?_
  obtain ⟨t, ht, rfl⟩ := List.mem_map.mp hj
  exact isNatural_toJson (h t ht)

/-- A list of tokens is read back from its text. An object is read as a token exactly if it has the four positions, a
kind and a text, and no tag that is unknown, whatever else it holds and in whatever order. What is written of the token
is the object again, without other fields and without a null tag. -/
theorem wire_exact :
    (∀ tokens : List Token, (∀ t ∈ tokens, t.Fits) →
      Json.parse (listToJson tokens).compact = .ok (listToJson tokens) ∧
      Json.parse (listToJson tokens).pretty = .ok (listToJson tokens) ∧
      listOfJson? (listToJson tokens) = some tokens) ∧
    (∀ text fields, Json.parse text = .ok (.record fields) → IsObject fields →
      ((ofJson? (.record fields)).isSome = true ↔ IsComplete fields)) ∧
    ∀ fields, IsObject fields →
      (∀ t, ofJson? (.record fields) = some t ↔ Carries fields t) ∧
      (∀ other, IsObject other → (∀ m, m.1 ∈ fieldNames → (m ∈ fields ↔ m ∈ other)) →
        ofJson? (.record other) = ofJson? (.record fields)) ∧
      ∀ t, ofJson? (.record fields) = some t → ∃ written, t.toJson = .record written ∧
        (written.map Prod.fst).Nodup ∧
        ∀ m, m ∈ written ↔ m ∈ fields ∧ m.1 ∈ fieldNames ∧ m ≠ ("semanticTag", .null) := by
  refine ⟨fun tokens hfits => ?_, fun text fields hparse h => ?_, fun fields h => ⟨fun t => ofJson?_record h, ?_, ?_⟩⟩
  · have hnatural := isNatural_listToJson hfits
    exact ⟨Json.parse_compact hnatural, Json.parse_pretty hnatural, listOfJson?_listToJson tokens⟩
  · rw [← exists_carries_iff h.nodup fun name n => Json.lt_of_parse hparse, Option.isSome_iff_exists]
    exact exists_congr fun t => ofJson?_record h
  · intro other hother hagree
    ext t
    rw [ofJson?_record h, ofJson?_record hother]
    exact ⟨.of_agree fun m hm => (hagree m hm).symm, .of_agree hagree⟩
  · intro t ht
    have hcarries := (ofJson?_record h).mp ht
    obtain ⟨written, heq, hobject, hwritten, hnames⟩ := t.carries_toJson
    refine ⟨written, heq, hobject.nodup, fun m => ⟨fun hm => ?_, fun ⟨hm, hname, hnull⟩ => ?_⟩⟩
    · obtain ⟨hname, hvalue⟩ := hnames m hm
      have hnull : m ≠ ("semanticTag", .null) := fun hm => hvalue (congrArg Prod.snd hm)
      exact ⟨hcarries.mem_of_mem hwritten hobject.nodup hname hnull hm, hname, hnull⟩
    · exact hwritten.mem_of_mem hcarries h.nodup hname hnull hm

/-- The fields of a token in another order, with a null tag and a field that tokens do not have. -/
theorem wire_exact_shuffled :
    let t := onLine 1 0 2 .importedClass "вывод"
    let fields : List (String × Json) := [("text", .text "вывод"), ("semanticTag", .null), ("note", .bool true),
      ("kind", .text "class.imported"), ("endColumn", .nat 2), ("endLine", .nat 1), ("startColumn", .nat 0),
      ("startLine", .nat 1)]
    Json.parse (listToJson [t]).compact = .ok (listToJson [t]) ∧
    Json.parse (Json.record fields).compact = .ok (.record fields) ∧ IsComplete fields ∧ IsObject fields ∧
    ofJson? (.record fields) = some t ∧ ofJson? (.record fields.reverse) = ofJson? (.record fields) := by
  intro t fields
  have hfits : ∀ t' ∈ [t], t'.Fits := by
    simp only [List.forall_mem_singleton]
    show ∀ n ∈ [1, 0, 1, 2], n < UInt64.size
    decide
  have hread : Json.parse (Json.record fields).compact = .ok (.record fields) := by
    refine Json.parse_compact (.record ?_)
    simp only [fields, List.forall_mem_cons]
    exact ⟨.text _, .null, .bool _, .text _, .number (by decide), .number (by decide), .number (by decide),
      .number (by decide), by simp⟩
  have hobject : IsObject fields := ⟨by decide, by simp [fields], by simp [fields]⟩
  have hreverse : IsObject fields.reverse := ⟨by decide, by simp [fields], by simp [fields]⟩
  have hcarries : Carries fields t := by
    refine ⟨?_, ?_, ?_, ?_, ?_, ?_, ?_, ?_⟩
    all_goals simp [fields, t, onLine, Json.nat, TokenKind.wireName]
  obtain ⟨hroundTrip, hcomplete, hobjects⟩ := wire_exact
  obtain ⟨hdecode, horder, -⟩ := hobjects fields hobject
  have hsome := (hdecode t).mpr hcarries
  exact ⟨(hroundTrip [t] hfits).1, hread, (hcomplete _ fields hread hobject).mp (by rw [hsome]; rfl), hobject, hsome,
    horder _ hreverse fun m _ => List.mem_reverse.symm⟩

end Token
end SnippetLab
