import SnippetLab.Proofs.Json.Write
import SnippetLab.Proofs.Settings.Document
import SnippetLab.Proofs.Text.Utf8
import Mathlib.Data.List.Nodup

/-!
Settings that are written as a document and loaded again, and what loading makes of any document.
-/
namespace SnippetLab

open Json

namespace Field

def toJson : (f : Field) → f.Value → Json
  | .compilerPath, s | .tempDirectory, s => .text s
  | .compileFlags, texts | .astFlags, texts => .list (texts.map .text)
  | .compilationTimeoutMs, n | .executionTimeoutMs, n | .maxSourceLength, n | .maxOutputLength, n
  | .sweepIntervalSecs, n | .sweepMinAgeMs, n | .killGraceMs, n | .drainGraceMs, n | .maxCaptureBytes, n
  | .staleWorkspaceAgeSecs, n => .nat n

theorem mem_all (f : Field) : f ∈ all := by cases f <;> decide

def Fits : (f : Field) → f.Value → Prop
  | .compilerPath, _ | .tempDirectory, _ | .compileFlags, _ | .astFlags, _ => True
  | .compilationTimeoutMs, n | .executionTimeoutMs, n | .maxSourceLength, n | .maxOutputLength, n
  | .sweepIntervalSecs, n | .sweepMinAgeMs, n | .killGraceMs, n | .drainGraceMs, n | .maxCaptureBytes, n
  | .staleWorkspaceAgeSecs, n => n < UInt64.size

instance : (f : Field) → (x : f.Value) → Decidable (f.Fits x)
  | .compilerPath, _ | .tempDirectory, _ | .compileFlags, _ | .astFlags, _ => inferInstanceAs (Decidable True)
  | .compilationTimeoutMs, _ | .executionTimeoutMs, _ | .maxSourceLength, _ | .maxOutputLength, _
  | .sweepIntervalSecs, _ | .sweepMinAgeMs, _ | .killGraceMs, _ | .drainGraceMs, _ | .maxCaptureBytes, _
  | .staleWorkspaceAgeSecs, _ => inferInstanceAs (Decidable (_ < _))

end Field

theorem isText_writeLiteral (s : String) : IsText s (writeLiteral s) := .mk (spells_flatMap s.toList)

theorem isTexts_write (texts : List String) : IsTexts texts (write (.list (texts.map .text))) := by
  have written : Listed IsText true texts (writeItems (texts.map .text)) := by
    refine listed_of_joined writeLiteral (fun xs => writeItems (xs.map .text)) rfl (fun _ => rfl) (fun _ _ _ => rfl)
      fun s _ => ⟨[], _, isBlank_nil, isText_writeLiteral s, rfl⟩
  exact .mk written

theorem isTexts_layout (texts : List String) (depth : Nat) :
    IsTexts texts (layout depth (.list (texts.map .text))) := by
  cases texts with
  | nil => exact isTexts_write []
  | cons s texts =>
    have written : Listed IsText true (s :: texts) (layoutItems (depth + 1) ((s :: texts).map .text)) := by
      refine listed_of_joined (fun s => indentation (depth + 1) ++ writeLiteral s)
        (fun xs => layoutItems (depth + 1) (xs.map .text)) rfl (fun _ => rfl) (fun _ _ _ => rfl)
        fun s _ => ⟨_, _, isBlank_indentation _, isText_writeLiteral s, rfl⟩
    exact .mk (written.append_blank (isBlank_indentation depth))

namespace Field

variable {f : Field} {x : f.Value}

theorem means_write (h : f.Fits x) : f.Means x (write (f.toJson x)) := by
  cases f with
  | compilerPath | tempDirectory => exact isText_writeLiteral x
  | compileFlags | astFlags => exact isTexts_write x
  | _ => exact .mk h

theorem means_layout (h : f.Fits x) (depth : Nat) : f.Means x (layout depth (f.toJson x)) := by
  cases f with
  | compilerPath | tempDirectory => exact isText_writeLiteral x
  | compileFlags | astFlags => exact isTexts_layout x depth
  | _ => exact .mk h

end Field

theorem IsText.isValue {s : String} {cs : List Char} (h : IsText s cs) : IsValue cs := by
  cases h with
  | mk h => exact .text h.isLiteral

theorem IsTexts.isValue {texts : List String} {cs : List Char} (h : IsTexts texts cs) : IsValue cs := by
  cases h with
  | mk written =>
    obtain ⟨items, written, hitems⟩ := written.texts
    refine .list (fun item hitem => ?_) written
    obtain ⟨s, -, h⟩ := hitems item hitem
    exact h.isValue

theorem IsCount.isValue {n : Nat} {cs : List Char} (h : IsCount n cs) : IsValue cs := by
  cases h with
  | mk => exact .number (isWritten_toDigits n)

theorem Field.Means.isValue {f : Field} {x : f.Value} {cs : List Char} (h : f.Means x cs) : IsValue cs := by
  cases f with
  | compilerPath | tempDirectory => exact IsText.isValue h
  | compileFlags | astFlags => exact IsTexts.isValue h
  | _ => exact IsCount.isValue h

namespace Settings

variable {s : Settings}

def members (text : Field → List Char) (fs : List Field) : List (String × List Char) := fs.map fun f => (f.name, text f)

theorem mem_members {text : Field → List Char} {fs : List Field} {f : Field} {cs : List Char}
    (h : (f.name, cs) ∈ members text fs) : cs = text f := by
  obtain ⟨f', -, heq⟩ := List.mem_map.mp h
  obtain ⟨hname, rfl⟩ := Prod.mk.inj heq
  rw [Field.name_injective hname]

theorem names_members (text : Field → List Char) (fs : List Field) :
    (members text fs).map Prod.fst = fs.map Field.name := by
  rw [members, List.map_map]
  rfl

theorem name_mem_members {text : Field → List Char} {fs : List Field} {f : Field} :
    f.name ∈ (members text fs).map Prod.fst ↔ f ∈ fs := by
  rw [names_members, List.mem_map_of_injective fun _ _ => Field.name_injective]

/-- Fields that stand once each are read for their values, if those left out have none or their default. -/
theorem isRead_members {text : Field → List Char} {fs : List Field} (hrequired : ∀ f ∈ Field.required, f ∈ fs)
    (hdistinct : fs.Nodup) (hmeans : ∀ f ∈ fs, f.Means (s.get f) (text f))
    (hdefault : ∀ f, f ∉ fs → s.get f = Settings.get {} f) :
    IsAccepted (members text fs) ∧ s.IsRead (members text fs) := by
  have hvalue {f : Field} {cs : List Char} (hmem : (f.name, cs) ∈ members text fs) : f.Means (s.get f) cs := by
    rw [mem_members hmem]
    exact hmeans f (name_mem_members.mp (List.mem_map_of_mem hmem))
  constructor
  · refine ⟨fun f hf => name_mem_members.mpr (hrequired f hf), fun f => ?_, fun f cs hmem => ⟨_, hvalue hmem⟩⟩
    rw [names_members]
    exact List.nodup_iff_count_le_one.mp (hdistinct.map fun _ _ => Field.name_injective) _
  · refine ⟨fun f cs hmem x => ⟨fun h => h ▸ hvalue hmem, (hvalue hmem).unique⟩, fun f hf => hdefault f fun h => hf ?_⟩
    exact name_mem_members.mpr h

theorem IsAccepted.exists_isRead {members : List (String × List Char)} (h : IsAccepted members) :
    ∃ s : Settings, s.IsRead members := by
  have hgathers : ∃ g, Gathers .none members g := exists_gathers_iff.mpr ⟨h.once, h.typed⟩
  obtain ⟨g, hg⟩ := hgathers
  have hsettles : g.Settles (ofValues fun f => (g f).getD (Settings.get {} f)) := by
    refine ⟨fun f hf => ?_, get_ofValues _⟩
    obtain ⟨⟨_, cs⟩, hmem, rfl⟩ := List.mem_map.mp (h.required f hf)
    obtain ⟨x, hx⟩ := h.typed f cs hmem
    exact ⟨x, hg.eq_some_iff.mpr (.inr ⟨cs, hmem, hx⟩)⟩
  exact ⟨_, (exists_settles_iff.mp ⟨g, hg, hsettles⟩).2⟩

/-! Fields that settings do not have -/

section Unknown

variable {members : List (String × List Char)} {name : String}

theorem known_of_mem_cons (h : Field.ofName? name = none) {f : Field} {cs value : List Char}
    (hmem : (f.name, cs) ∈ (name, value) :: members) : (f.name, cs) ∈ members := by
  obtain heq | hmem := List.mem_cons.mp hmem
  · exact absurd (Prod.mk.inj heq).1 (Field.name_ne_of_unknown h f)
  · exact hmem

theorem IsAccepted.cons_unknown (haccepted : IsAccepted members) (h : Field.ofName? name = none) (value : List Char) :
    IsAccepted ((name, value) :: members) := by
  refine ⟨fun f hf => List.mem_cons_of_mem _ (haccepted.required f hf), fun f => ?_, fun f cs hmem => ?_⟩
  · rw [List.map_cons, List.count_cons_of_ne (Field.name_ne_of_unknown h f).symm]
    exact haccepted.once f
  · exact haccepted.typed f cs (known_of_mem_cons h hmem)

theorem IsRead.cons_unknown (hread : s.IsRead members) (h : Field.ofName? name = none) (value : List Char) :
    s.IsRead ((name, value) :: members) :=
  ⟨fun f cs hmem => hread.given f cs (known_of_mem_cons h hmem), fun f hf =>
    hread.default f fun hmem => hf (List.mem_cons_of_mem _ hmem)⟩

theorem IsRead.unique {s' : Settings} (h : s.IsRead members) (h' : s'.IsRead members) : s = s' := by
  refine eq_of_get fun f => ?_
  by_cases hf : f.name ∈ members.map Prod.fst
  · obtain ⟨⟨_, cs⟩, hmem, rfl⟩ := List.mem_map.mp hf
    exact (h.given f cs hmem _).mpr ((h'.given f cs hmem _).mp rfl)
  · rw [h.default f hf, h'.default f hf]

end Unknown

def Fits (s : Settings) : Prop := ∀ f : Field, f.Fits (s.get f)

instance (s : Settings) : Decidable s.Fits :=
  decidable_of_iff (∀ f ∈ Field.all, f.Fits (s.get f)) ⟨fun h f => h f f.mem_all, fun h f _ => h f⟩

def fields (s : Settings) (fs : List Field) : List (String × Json) := fs.map fun f => (f.name, f.toJson (s.get f))

theorem toJson_eq (s : Settings) : s.toJson = .record (s.fields Field.all) := rfl

theorem map_fields (s : Settings) (written : Json → List Char) (fs : List Field) :
    (s.fields fs).map (fun m => (m.1, written m.2)) = members (fun f => written (f.toJson (s.get f))) fs := by
  rw [fields, members, List.map_map]
  rfl

theorem isValue_fields {written : Json → List Char} {fs : List Field}
    (h : ∀ f : Field, f.Means (s.get f) (written (f.toJson (s.get f)))) : ∀ m ∈ s.fields fs, IsValue (written m.2) := by
  intro m hm
  obtain ⟨f, -, rfl⟩ := List.mem_map.mp hm
  exact (h f).isValue

theorem ofDocument_written {text : String} {written : Json → List Char}
    (h : ∀ f : Field, f.Means (s.get f) (written (f.toJson (s.get f))))
    (hrecord : IsRecordText ((s.fields Field.all).map fun m => (m.1, written m.2)) text.toList) :
    ofDocument text = .ok s := by
  rw [map_fields] at hrecord
  rw [ofDocument_record hrecord]
  have hdefault (f : Field) (hf : f ∉ Field.all) : s.get f = Settings.get {} f := absurd f.mem_all hf
  exact isRead_members (fun f _ => f.mem_all) (by decide) (fun f _ => h f) hdefault

theorem ofDocument_compact (hfits : s.Fits) : ofDocument s.toJson.compact = .ok s := by
  have hmeans (f : Field) : f.Means (s.get f) (write (f.toJson (s.get f))) := f.means_write (hfits f)
  rw [toJson_eq]
  exact ofDocument_written hmeans (isRecordText_compact (isValue_fields hmeans))

theorem ofDocument_pretty (hfits : s.Fits) : ofDocument s.toJson.pretty = .ok s := by
  have hmeans (f : Field) : f.Means (s.get f) (layout 1 (f.toJson (s.get f))) := f.means_layout (hfits f) 1
  rw [toJson_eq]
  exact ofDocument_written hmeans (isRecordText_pretty (by simp [fields, Field.all]) (isValue_fields hmeans))

theorem readText_of_find {t : FileTree} {cwd place : Place} {path text : String} {mode : Nat}
    (h : t.find cwd true path = .ok (place, .file (Text.Utf8.encode text.toList) mode)) :
    t.readText cwd path = .ok text := by
  rw [FileTree.readText, FileTree.readFile, h, Except.ok_bind, Text.Utf8.decode?_encode]
  simp

theorem loadFrom_eq_ok_iff {t : FileTree} {cwd : Place} {path text : String} (h : t.readText cwd path = .ok text) :
    loadFrom t cwd path = .ok s ↔ ofDocument text = .ok s := by
  rw [loadFrom, h]
  exact Except.mapError_eq_ok_iff

/-- Every record is loaded just if its members are accepted, and then for what they give; a list is loaded like the
record that gives its items to the first fields; and settings that are written are loaded as they were. -/
theorem loadFrom_faithful (t : FileTree) (cwd : Place) (path text : String) (h : t.readText cwd path = .ok text) :
    (∀ members, IsRecordText members text.toList →
      ((∃ s, loadFrom t cwd path = .ok s) ↔ IsAccepted members) ∧
        ∀ s, loadFrom t cwd path = .ok s → s.IsRead members) ∧
    (∀ items, IsListText items text.toList → items.length ≤ Field.all.length →
      ∀ (t' : FileTree) (cwd' : Place) (path' text' : String), t'.readText cwd' path' = .ok text' →
        IsRecordText (asMembers Field.all items) text'.toList →
          ∀ s, loadFrom t cwd path = .ok s ↔ loadFrom t' cwd' path' = .ok s) ∧
    ∀ s : Settings, s.Fits → text = s.toJson.compact ∨ text = s.toJson.pretty → loadFrom t cwd path = .ok s := by
  refine ⟨fun members hrecord => ⟨⟨?_, fun haccepted => ?_⟩, fun s hs => ?_⟩, ?_, ?_⟩
  · rintro ⟨s, hs⟩
    rw [loadFrom_eq_ok_iff h, ofDocument_record hrecord] at hs
    exact hs.1
  · obtain ⟨s, hread⟩ := haccepted.exists_isRead
    exact ⟨s, by rw [loadFrom_eq_ok_iff h, ofDocument_record hrecord]; exact ⟨haccepted, hread⟩⟩
  · rw [loadFrom_eq_ok_iff h, ofDocument_record hrecord] at hs
    exact hs.2
  · intro items hlist hlength t' cwd' path' text' h' hrecord s
    rw [loadFrom_eq_ok_iff h, loadFrom_eq_ok_iff h', ofDocument_list hlist hlength, ofDocument_record hrecord]
  · rintro s hfits hwritten
    rw [loadFrom_eq_ok_iff h]
    obtain rfl | rfl := hwritten
    · exact ofDocument_compact hfits
    · exact ofDocument_pretty hfits

/-- The fields without a default alone, last first, behind a field that settings do not have. -/
def sparse : String := compact (.record (("note", .list [.null]) :: fields {} Field.required.reverse))

def sparseTree : FileTree := ⟨[(["tribox.json"], .file (Text.Utf8.encode sparse.toList) 0o644, 0)]⟩

theorem loadFrom_faithful_sparse :
    sparseTree.readText [] defaultFile = .ok sparse ∧ loadFrom sparseTree [] defaultFile = .ok {} := by
  have htext : sparseTree.readText [] defaultFile = .ok sparse := readText_of_find rfl
  have hfits : Fits {} := by decide
  have hmeans (f : Field) : f.Means (Settings.get {} f) (write (f.toJson (Settings.get {} f))) :=
    f.means_write (hfits f)
  have hnote : IsValue (write (.list [.null])) := by
    have written : Listed Eq true [['n', 'u', 'l', 'l']] ['n', 'u', 'l', 'l'] :=
      .cons (.first isBlank_nil) rfl (.nil isBlank_nil)
    exact .list (List.forall_mem_singleton.mpr .null) written
  have hvalues : ∀ m ∈ ("note", .list [.null]) :: fields {} Field.required.reverse, IsValue (write m.2) :=
    List.forall_mem_cons.mpr ⟨hnote, isValue_fields hmeans⟩
  have hrecord := isRecordText_compact hvalues
  rw [List.map_cons, map_fields] at hrecord
  obtain ⟨hloads, -, -⟩ := loadFrom_faithful sparseTree [] defaultFile sparse htext
  obtain ⟨hiff, hread⟩ := hloads _ hrecord
  have hdefaults : IsAccepted (members _ Field.required.reverse) ∧ IsRead {} (members _ Field.required.reverse) :=
    isRead_members (fun f hf => List.mem_reverse.mpr hf) (by decide) (fun f _ => hmeans f) fun _ _ => rfl
  have hnone : Field.ofName? "note" = none := by decide
  obtain ⟨s, hs⟩ := hiff.mpr (hdefaults.1.cons_unknown hnone _)
  obtain rfl := (hread s hs).unique (hdefaults.2.cons_unknown hnone _)
  exact ⟨htext, hs⟩

end Settings
end SnippetLab
