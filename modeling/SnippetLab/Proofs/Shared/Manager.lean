import SnippetLab.Proofs.Shared.Ground
import SnippetLab.Proofs.Workspace.Reclaim

/-!
The workspaces of one manager: what their owners ask for, in any order, and how it may be with one of them.
-/
namespace SnippetLab

open FileTree

structure Manager where
  base : String
  home : Place

namespace Manager

/-! ### What owners ask for -/

inductive Order
  | create (first id : String)
  | write (i : Nat) (name content : String) (limit : WriteLimit)
  | dispose (i : Nat)
  | drop (i : Nat)
  | reclaim (maxAge : Nat)

structure Entry where
  workspace : Workspace
  dropped : Bool := false
  deriving DecidableEq

structure State where
  tree : FileTree
  entries : List Entry := []

/-- What an owner does with a workspace. Nobody has one that was dropped. -/
def State.act (s : State) (i : Nat) (f : Entry → Entry × FileTree) : State :=
  match s.entries[i]? with
  | some e => if e.dropped then s else ⟨(f e).2, s.entries.set i (f e).1⟩
  | none => s

def step (m : Manager) (now : Int) (s : State) : Order → State
  | .create first id =>
    match Workspace.create s.tree now m.home m.base first id with
    | (.ok w, t) => ⟨t, s.entries ++ [{ workspace := w }]⟩
    | (.error _, t) => ⟨t, s.entries⟩
  | .write i name content limit => s.act i fun e =>
    let written := e.workspace.writeWithin limit s.tree now m.home name content
    ({ e with workspace := written.2.1 }, written.2.2)
  | .dispose i => s.act i fun e =>
    let disposed := e.workspace.dispose s.tree now m.home
    ({ e with workspace := disposed.1 }, disposed.2)
  | .drop i => s.act i fun e =>
    let disposed := e.workspace.dispose s.tree now m.home
    (⟨disposed.1, true⟩, disposed.2)
  | .reclaim maxAge => ⟨(Workspace.reclaim s.tree now m.home m.base maxAge).2, s.entries⟩

/-- The text of a uuid, as far as it matters. -/
structure IsUuid (id : String) : Prop where
  length : id.length = 36
  noSlash : '/' ∉ id.toList

/-- What is asked for with care. A new id is one that nobody has met, a file is written into the workspace itself, and
the base is not among what is reclaimed. -/
def Allowed (m : Manager) (now : Int) (s : State) : Order → Prop
  | .create first id => '/' ∉ first.toList ∧ IsUuid id ∧ (∀ e ∈ s.entries, e.workspace.id ≠ id) ∧
      s.tree.Unused (first ++ id) ∧ first ++ id ∉ Path.names m.base
  | .write _ name _ _ => Path.Plain name
  | .dispose _ | .drop _ => True
  | .reclaim maxAge => ∀ d, s.tree.find m.home true m.base = .ok (d, .directory) →
      (Workspace.reclaim s.tree now m.home m.base maxAge).2.find m.home true m.base = .ok (d, .directory)

abbrev Record := List (State × Int × Order)

inductive Run (m : Manager) (start : State) : Record → State → Prop
  | start : Run m start [] start
  | snoc {es : Record} {s : State} (before : Run m start es s) {now : Int} {o : Order} (allowed : m.Allowed now s o) :
      Run m start (es ++ [(s, now, o)]) (m.step now s o)

/-- At some time the directory was found old and reclaimed. -/
def Reclaimed (m : Manager) (es : Record) (directory : String) : Prop :=
  ∃ s now maxAge d name, (s, now, Order.reclaim maxAge) ∈ es ∧
    s.tree.find m.home true directory = .ok (d ++ [name], .directory) ∧
    Workspace.Abandoned s.tree now maxAge d name

theorem Reclaimed.mono {m : Manager} {es es' : Record} {directory : String} (hsub : es ⊆ es')
    (h : Reclaimed m es directory) : Reclaimed m es' directory := by
  obtain ⟨s, now, maxAge, d, name, hmem, h⟩ := h
  exact ⟨s, now, maxAge, d, name, hsub hmem, h⟩

variable {m : Manager} {es es' : Record} {s s' : State} {g t u : FileTree} {d place : Place} {n file : String}
  {w : Workspace} {e e' : Entry} {i j : Nat} {now : Int} {o : Order} {first id : String} {limit : WriteLimit}

/-! ### Entries stay -/

structure Follows (e e' : Entry) : Prop where
  directory : e'.workspace.directory = e.workspace.directory
  disposed : e.workspace.disposed = true → e'.workspace.disposed = true

theorem Follows.refl (e : Entry) : Follows e e := ⟨rfl, fun h => h⟩

theorem Follows.trans {e'' : Entry} (h : Follows e e') (h' : Follows e' e'') : Follows e e'' :=
  ⟨h'.directory.trans h.directory, fun hdisposed => h'.disposed (h.disposed hdisposed)⟩

theorem follows_write (limit : WriteLimit) (e : Entry) (t : FileTree) (now : Int) (home : Place)
    (name content : String) :
    Follows e { e with workspace := (e.workspace.writeWithin limit t now home name content).2.1 } := by
  unfold Workspace.writeWithin
  dsimp only
  split
  · exact ⟨rfl, fun h => h⟩
  · exact .refl e

theorem disposed_dispose (w : Workspace) (t : FileTree) (now : Int) (home : Place) :
    (w.dispose t now home).1 = { w with disposed := true } := by
  unfold Workspace.dispose
  split
  · next hdisposed =>
    rw [← hdisposed]
  · rfl

theorem follows_dispose (e : Entry) (t : FileTree) (now : Int) (home : Place) (dropped : Bool) :
    Follows e ⟨(e.workspace.dispose t now home).1, dropped⟩ := by
  rw [disposed_dispose]
  exact ⟨rfl, fun _ => rfl⟩

theorem act_of_held (hi : s.entries[i]? = some e) (hheld : e.dropped = false) (f : Entry → Entry × FileTree) :
    s.act i f = ⟨(f e).2, s.entries.set i (f e).1⟩ := by
  rw [State.act, hi]
  exact if_neg (by simp [hheld])

theorem act_of_dropped (hi : s.entries[i]? = some e) (hdropped : e.dropped = true) (f : Entry → Entry × FileTree) :
    s.act i f = s := by
  rw [State.act, hi]
  exact if_pos hdropped

theorem act_cases (s : State) (i : Nat) (f : Entry → Entry × FileTree) :
    s.act i f = s ∨ ∃ e, s.entries[i]? = some e ∧ s.act i f = ⟨(f e).2, s.entries.set i (f e).1⟩ := by
  cases hi : s.entries[i]? with
  | none => exact .inl (by rw [State.act, hi])
  | some e =>
    by_cases hdropped : e.dropped = true
    · exact .inl (act_of_dropped hi hdropped f)
    · exact .inr ⟨e, rfl, act_of_held hi (Bool.eq_false_iff.mpr hdropped) f⟩

theorem set_of_getElem? {α : Type} {l : List α} {a : α} (h : l[i]? = some a) : l.set i a = l := by
  obtain ⟨hlength, rfl⟩ := List.getElem?_eq_some_iff.mp h
  exact List.set_getElem_self hlength

theorem act_eq_self {f : Entry → Entry × FileTree} (hi : s.entries[i]? = some e) (hf : f e = (e, s.tree)) :
    s.act i f = s := by
  obtain hsame | ⟨e', hi', hact⟩ := act_cases s i f
  · exact hsame
  · obtain rfl := Option.some.inj (hi.symm.trans hi')
    rw [hact, hf, set_of_getElem? hi]

theorem act_entry {f : Entry → Entry × FileTree} (hf : ∀ e, Follows e (f e).1) (hi : s.entries[i]? = some e) (j : Nat) :
    ∃ e', (s.act j f).entries[i]? = some e' ∧ Follows e e' := by
  obtain hsame | ⟨e', hj, hact⟩ := act_cases s j f
  · rw [hsame]
    exact ⟨e, hi, .refl e⟩
  rw [hact]
  dsimp only
  by_cases hij : j = i
  · subst hij
    obtain rfl := Option.some.inj (hi.symm.trans hj)
    exact ⟨_, List.getElem?_set_self (List.getElem?_eq_some_iff.mp hi).1, hf e⟩
  · rw [List.getElem?_set_ne hij]
    exact ⟨e, hi, .refl e⟩

theorem step_entry (hi : s.entries[i]? = some e) (now : Int) (o : Order) :
    ∃ e', (m.step now s o).entries[i]? = some e' ∧ Follows e e' := by
  cases o with
  | create first id =>
    obtain ⟨hlength, -⟩ := List.getElem?_eq_some_iff.mp hi
    have hmore (w : Workspace) : (s.entries ++ [({ workspace := w } : Entry)])[i]? = some e :=
      (List.getElem?_append_left hlength).trans hi
    unfold step
    dsimp only
    generalize Workspace.create s.tree now m.home m.base first id = made
    obtain ⟨_ | w, t⟩ := made
    · exact ⟨e, hi, .refl e⟩
    · exact ⟨e, hmore w, .refl e⟩
  | write j name content limit =>
    exact act_entry (fun e => follows_write limit e s.tree now m.home name content) hi j
  | dispose j => exact act_entry (fun e => follows_dispose e s.tree now m.home e.dropped) hi j
  | drop j => exact act_entry (fun e => follows_dispose e s.tree now m.home true) hi j
  | reclaim maxAge => exact ⟨e, hi, .refl e⟩

theorem disposed_step (hdropped : e.dropped = true → e.workspace.disposed = true) (hi : s.entries[i]? = some e)
    (ho : o = .dispose i ∨ o = .drop i) (now : Int) :
    ∃ e', (m.step now s o).entries[i]? = some e' ∧ Follows e e' ∧ e'.workspace.disposed = true := by
  by_cases hheld : e.dropped = true
  · have hsame : m.step now s o = s := by
      obtain rfl | rfl := ho
      · exact act_of_dropped hi hheld _
      · exact act_of_dropped hi hheld _
    rw [hsame]
    exact ⟨e, hi, .refl e, hdropped hheld⟩
  · have hafter (f : Entry → Entry × FileTree) : (s.act i f).entries[i]? = some (f e).1 := by
      rw [act_of_held hi (Bool.eq_false_iff.mpr hheld)]
      exact List.getElem?_set_self (List.getElem?_eq_some_iff.mp hi).1
    have hdisposed := congrArg Workspace.disposed (disposed_dispose e.workspace s.tree now m.home)
    obtain rfl | rfl := ho
    · exact ⟨_, hafter _, follows_dispose e s.tree now m.home e.dropped, hdisposed⟩
    · exact ⟨_, hafter _, follows_dispose e s.tree now m.home true, hdisposed⟩

theorem step_dispose_again (hi : s.entries[i]? = some e) (hdisposed : e.workspace.disposed = true) (now : Int) :
    m.step now s (.dispose i) = s := by
  refine act_eq_self hi ?_
  rw [Workspace.dispose, if_pos hdisposed]

theorem step_drop_again (hi : s.entries[i]? = some e) (hdisposed : e.workspace.disposed = true) (now : Int) :
    m.step now s (.drop i) = { s with entries := s.entries.set i { e with dropped := true } } := by
  by_cases hdropped : e.dropped = true
  · have hsame : { e with dropped := true } = e := by rw [← hdropped]
    rw [hsame, set_of_getElem? hi]
    exact act_of_dropped hi hdropped _
  · refine (act_of_held hi (Bool.eq_false_iff.mpr hdropped) _).trans ?_
    rw [Workspace.dispose, if_pos hdisposed]

/-! ### Where a workspace lies, and how it is with it -/

/-- The ground `g` leads to the base, but not into the workspace. -/
structure Lies (m : Manager) (g : FileTree) (d : Place) (w : Workspace) (n : String) : Prop where
  directory : w.directory = Path.join m.base n
  uuid : IsUuid w.id
  named : ∃ first, n = first ++ w.id
  leads : g.LeadsTo m.home m.base n d
  off : ∀ p, within (d ++ [n]) p = true → ¬g.OnWay p

def Bare (t : FileTree) (place : Place) : Prop := ∀ p, within place p = true → t.node? p = none

/-- A directory with nothing but files in it. -/
structure Folder (t : FileTree) (place : Place) : Prop where
  directory : t.node? place = some .directory
  files : ∀ p, within place p = true → p ≠ place → t.node? p = none ∨ (t.node? p).any Node.isFile = true

/-- A workspace is there, or it was reclaimed, or disposed of. -/
inductive Condition (m : Manager) (es : Record) (t : FileTree) (place : Place) (e : Entry) : Prop
  | live (kept : e.workspace.disposed = false) (held : e.dropped = false) (folder : Folder t place)
  | reclaimed (kept : e.workspace.disposed = false) (held : e.dropped = false)
      (record : Reclaimed m es e.workspace.directory) (bare : Bare t place)
  | disposed (disposed : e.workspace.disposed = true) (bare : Bare t place)

theorem Bare.congr (h : Bare t place) (hnode : ∀ p, within place p = true → u.node? p = t.node? p) : Bare u place :=
  fun p hp => (hnode p hp).trans (h p hp)

theorem Folder.congr (h : Folder t place) (hnode : ∀ p, within place p = true → u.node? p = t.node? p) :
    Folder u place where
  directory := (hnode _ (within_self _)).trans h.directory
  files p hp hne := by
    rw [hnode p hp]
    exact h.files p hp hne

theorem Folder.leaf_ne (h : Folder t place) (file : String) : t.node? (place ++ [file]) ≠ some .directory := by
  intro hdirectory
  have hleaf := h.files (place ++ [file]) (within_append _ _) (by simp)
  simp [hdirectory, Node.isFile] at hleaf

theorem Folder.put (h : Folder t place) (now : Int) (file : String) (content : List UInt8) (mode : Nat) :
    Folder (t.put now (place ++ [file]) (.file content mode)) place := by
  have hnode := node?_put_child h.directory now file (.file content mode)
  refine ⟨((hnode place).trans (if_neg (by simp))).trans h.directory, fun p hp hne => ?_⟩
  rw [hnode]
  split
  · exact .inr rfl
  · exact h.files p hp hne

theorem Folder.of_made (hd : t.node? d = some .directory)
    (hnone : ∀ p, within (d ++ [n]) p = true → t.node? p = none) (now : Int) :
    Folder (t.put now (d ++ [n]) .directory) (d ++ [n]) := by
  have hnode := node?_put_child hd now n .directory
  exact ⟨(hnode _).trans (if_pos rfl), fun p hp hne => .inl (((hnode p).trans (if_neg hne)).trans (hnone p hp))⟩

theorem Condition.congr (h : Condition m es t place e) (hsub : es ⊆ es')
    (hnode : ∀ p, within place p = true → u.node? p = t.node? p) : Condition m es' u place e := by
  cases h with
  | live kept held folder => exact .live kept held (folder.congr hnode)
  | reclaimed kept held record bare => exact .reclaimed kept held (record.mono hsub) (bare.congr hnode)
  | disposed disposed bare => exact .disposed disposed (bare.congr hnode)

theorem Condition.cases_folder (h : Condition m es t place e) :
    e.workspace.disposed = false ∧ e.dropped = false ∧ Folder t place ∨ Bare t place := by
  cases h with
  | live kept held folder => exact .inl ⟨kept, held, folder⟩
  | reclaimed _ _ _ bare => exact .inr bare
  | disposed _ bare => exact .inr bare

/-! ### What the operations come to -/

theorem writable_cases {base : String} (h : t.Reaches m.home base place) (hfile : Path.Plain file)
    (hleaf : t.node? (place ++ [file]) = none ∨ (t.node? (place ++ [file])).any Node.isFile = true) :
    (∃ mode, t.writable m.home (Path.join base file) = .ok (some (place ++ [file], mode))) ∨
      ∃ e, t.writable m.home (Path.join base file) = .error e := by
  rw [Workspace.writable_of_endsInSlash (Path.endsInSlash_join hfile base)]
  obtain hleads | ⟨e, -, herror⟩ := h.leadsTo_or hfile
  · obtain hnone | hfile := hleaf
    · rw [hleads.resolve_of_none true hnone]
      exact .inl ⟨_, rfl⟩
    · obtain ⟨old, mode, hnode⟩ := Cleanup.any_isFile_iff.mp hfile
      rw [find_eq_ok_iff.mp (hleads.find_of_file true hnode)]
      exact .inl ⟨mode, rfl⟩
  · rw [herror]
    exact .inr ⟨e, rfl⟩

theorem writable_of_missing (h : t.LeadsTo m.home m.base n d) (hnone : t.node? (d ++ [n]) = none)
    (hfile : Path.Plain file) : ∃ e, t.writable m.home (Path.join (Path.join m.base n) file) = .error e := by
  rw [Workspace.writable_of_endsInSlash (Path.endsInSlash_join hfile _)]
  cases hresolve : t.resolve m.home true (Path.join (Path.join m.base n) file) with
  | error e => exact ⟨e, rfl⟩
  | ok target =>
    obtain ⟨-, -, hwalk⟩ := resolve_eq_ok_iff.mp hresolve
    rw [Path.names_join hfile] at hwalk
    obtain ⟨place, hplace⟩ := exists_directory_of_walk_append (by simp) hwalk
    obtain ⟨left, hleft⟩ := walk_append h.walk
    rw [origin_join hfile, origin_join h.plain, Path.segments_join h.plain, hleft _ _ (by simp),
      walk_of_none h.lookedUp _ _ hnone] at hplace
    cases hplace

/-- A write that fails has changed nothing, or the file was opened and then the room for it ran out. -/
theorem writeWithin_cases {target : Option (Place × Nat)}
    (hwritable : t.writable m.home (Path.join w.directory file) = .ok target) (limit : WriteLimit) (now : Int)
    (content : String) :
    (∃ path, w.writeWithin limit t now m.home file content =
        (.ok path, { w with source := some path }, t.fill now (Text.Utf8.encode content.toList) target)) ∨
      (∃ failure, w.writeWithin limit t now m.home file content = (.error failure, w, t)) ∨
      ∃ room e failure, limit = .room room e ∧ room < (Text.Utf8.encode content.toList).length ∧
        w.writeWithin limit t now m.home file content =
          (.error failure, w, t.fill now ((Text.Utf8.encode content.toList).take room) target) := by
  unfold Workspace.writeWithin writeFileWithin
  dsimp only
  rw [hwritable]
  cases limit with
  | unlimited => exact .inl ⟨_, rfl⟩
  | closed e => exact .inr (.inl ⟨_, rfl⟩)
  | room room e =>
    dsimp only [WriteLimit.shortage?, WriteLimit.taken]
    by_cases hroom : room < (Text.Utf8.encode content.toList).length
    · rw [if_pos hroom]
      exact .inr (.inr ⟨room, e, _, rfl, hroom, rfl⟩)
    · rw [if_neg hroom, List.take_of_length_le (Nat.not_lt.mp hroom)]
      exact .inl ⟨_, rfl⟩

theorem writeWithin_of_error {error : SystemError}
    (hwritable : t.writable m.home (Path.join w.directory file) = .error error) (limit : WriteLimit) (now : Int)
    (content : String) : ∃ failure, w.writeWithin limit t now m.home file content = (.error failure, w, t) := by
  unfold Workspace.writeWithin writeFileWithin
  dsimp only
  rw [hwritable]
  exact ⟨_, rfl⟩

end Manager
end SnippetLab
