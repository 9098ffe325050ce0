import SnippetLab.Proofs.Shared.Manager

/-!
The workspaces of a manager at any time. Their owners make them, write to them, dispose of them and drop them, and old
ones are reclaimed, in any order. As long as the base is not among what is reclaimed, each of them has a directory of
its own until it is disposed of or reclaimed, and never again after that.
-/
namespace SnippetLab.Manager

open FileTree

variable {m : Manager} {es es' : Record} {s s' : State} {g t u : FileTree} {d place : Place} {n file : String}
  {w : Workspace} {e e' : Entry} {i j : Nat} {now : Int} {o : Order} {first id : String} {limit : WriteLimit}

/-! ### How it is with all of them -/

/-- The ground leads to the base; each workspace lies there under a name of its own. -/
structure Standing (m : Manager) (es : Record) (g : FileTree) (d : Place) (s : State) : Prop where
  rooted : s.tree.Rooted
  named : s.tree.PlainlyNamed
  reaches : g.Reaches m.home m.base d
  ways : KeepsWays g s.tree
  lies : ∀ e ∈ s.entries, ∃ n, Lies m g d e.workspace n ∧ Condition m es s.tree (d ++ [n]) e
  distinct : (s.entries.map (·.workspace.id)).Nodup

/-- What one deed makes of a workspace, and of the tree. -/
structure Turn (m : Manager) (es : Record) (place : Place) (e e' : Entry) (t u : FileTree) : Prop where
  id : e'.workspace.id = e.workspace.id
  directory : e'.workspace.directory = e.workspace.directory
  around : Shared.Local place t u
  named : u.PlainlyNamed
  condition : Condition m es u place e'

theorem IsUuid.plain {first id : String} (h : IsUuid id) (hfirst : '/' ∉ first.toList) : Path.Plain (first ++ id) := by
  have hlength : 36 ≤ (first ++ id).length := by
    rw [String.length_append, h.length]
    exact Nat.le_add_left 36 _
  have hne {short : String} (hshort : short.length < 36) : first ++ id ≠ short := by
    rintro rfl
    omega
  exact ⟨by simp [hfirst, h.noSlash], hne (by decide), hne (by decide), hne (by decide)⟩

theorem Lies.congr {w' : Workspace} (h : Lies m g d w n) (hid : w'.id = w.id) (hdirectory : w'.directory = w.directory) :
    Lies m g d w' n :=
  ⟨hdirectory.trans h.directory, hid ▸ h.uuid, hid ▸ h.named, h.leads, h.off⟩

/-- Names with different ids are different, whatever comes before the ids. -/
theorem Lies.name_ne {w' : Workspace} {n' : String} (h : Lies m g d w n) (h' : Lies m g d w' n') (hid : w.id ≠ w'.id) :
    n ≠ n' := by
  obtain ⟨first, rfl⟩ := h.named
  obtain ⟨first', rfl⟩ := h'.named
  intro hname
  have hlength : w.id.toList.length = w'.id.toList.length := by
    rw [String.length_toList, String.length_toList, h.uuid.length, h'.uuid.length]
  have hlists : first.toList ++ w.id.toList = first'.toList ++ w'.id.toList := by
    simpa using congrArg String.toList hname
  exact hid (String.toList_inj.mp (List.append_inj_right' hlists hlength))

def Order.target? : Order → Option Nat
  | .write i _ _ _ | .dispose i | .drop i => some i
  | .create _ _ | .reclaim _ => none

/-- What an order may do: nothing, or something in one workspace, or old workspaces go. -/
inductive Outcome (m : Manager) (es : Record) (g : FileTree) (d : Place) (s : State) (now : Int) (o : Order) :
    State → Prop
  | same (standing : Standing m es g d s) : Outcome m es g d s now o s
  | inside {w : Workspace} {n : String} {s' : State} (lies : Lies m g d w n)
      (around : Shared.Local (d ++ [n]) s.tree s'.tree)
      (others : ∀ j e, s.entries[j]? = some e → o.target? ≠ some j →
        s'.entries[j]? = some e ∧ e.workspace.id ≠ w.id)
      (standing : Standing m es g d s') : Outcome m es g d s now o s'
  | reclaimed {maxAge : Nat} {names : List String} {u : FileTree} (order : o = .reclaim maxAge)
      (mem : ∀ name, name ∈ names ↔ Workspace.Abandoned s.tree now maxAge d name ∧ s.tree.LeadsTo m.home m.base name d)
      (without : Workspace.Without d names s.tree u) (reaches : u.Reaches m.home m.base d) :
      Outcome m es g d s now o ⟨u, s.entries⟩

namespace Standing

section
variable (h : Standing m es g d s)
include h

theorem directory : s.tree.node? d = some .directory := (h.reaches.keeps h.ways).directory h.rooted

theorem id_ne (hi : s.entries[i]? = some e) (hj : s.entries[j]? = some e') (hne : i ≠ j) :
    e.workspace.id ≠ e'.workspace.id := by
  intro hid
  obtain ⟨hlength, -⟩ := List.getElem?_eq_some_iff.mp hi
  refine hne ((List.getElem?_inj (by simpa using hlength) h.distinct).mp ?_)
  rw [List.getElem?_map, List.getElem?_map, hi, hj, Option.map_some, Option.map_some, hid]

theorem mono (hsub : es ⊆ es') : Standing m es' g d s where
  __ := h
  lies e he := by
    obtain ⟨n, hlies, hcondition⟩ := h.lies e he
    exact ⟨n, hlies, hcondition.congr hsub fun _ _ => rfl⟩

theorem node?_of_local (hlocal : Shared.Local (d ++ [n]) s.tree t) {p : Place} (hp : within (d ++ [n]) p = false) :
    t.node? p = s.tree.node? p :=
  node?_congr (hlocal.view (eq_directory_of_parent h.directory) hp)

theorem ways_of_local (hlies : Lies m g d w n) (hlocal : Shared.Local (d ++ [n]) s.tree t) : KeepsWays g t :=
  h.ways.of_outside hlies.off fun _ hp => h.node?_of_local hlocal hp

theorem condition_of_local (hlies : Lies m g d w n) (hlocal : Shared.Local (d ++ [n]) s.tree t) (he : e ∈ s.entries)
    (hid : e.workspace.id ≠ w.id) : ∃ n, Lies m g d e.workspace n ∧ Condition m es t (d ++ [n]) e := by
  obtain ⟨n', hlies', hcondition⟩ := h.lies e he
  refine ⟨n', hlies', hcondition.congr (List.Subset.refl es) fun p hp => h.node?_of_local hlocal ?_⟩
  exact not_within_of_within (hlies.name_ne hlies' hid.symm) hp

theorem turn (hi : s.entries[i]? = some e) (hlies : Lies m g d e.workspace n)
    (hturn : Turn m es (d ++ [n]) e e' s.tree t) : Standing m es g d ⟨t, s.entries.set i e'⟩ where
  rooted := hturn.around.rooted
  named := hturn.named
  reaches := h.reaches
  ways := h.ways_of_local hlies hturn.around
  lies other hother := by
    obtain ⟨j, hj⟩ := List.mem_iff_getElem?.mp hother
    by_cases hij : i = j
    · rw [← hij, List.getElem?_set_self (List.getElem?_eq_some_iff.mp hi).1] at hj
      obtain rfl := Option.some.inj hj
      exact ⟨n, hlies.congr hturn.id hturn.directory, hturn.condition⟩
    · rw [List.getElem?_set_ne hij] at hj
      exact h.condition_of_local hlies hturn.around (List.mem_of_getElem? hj) (h.id_ne hj hi (Ne.symm hij))
  distinct := by
    have hids : (s.entries.set i e').map (·.workspace.id) = s.entries.map (·.workspace.id) := by
      rw [List.map_set, hturn.id]
      exact set_of_getElem? (by rw [List.getElem?_map, hi]; rfl)
    rw [hids]
    exact h.distinct

theorem turn_refl (hcondition : Condition m es s.tree place e) : Turn m es place e e s.tree s.tree :=
  ⟨rfl, rfl, .refl h.rooted, h.named, hcondition⟩

theorem leads (hlies : Lies m g d w n) : s.tree.LeadsTo m.home m.base n d := hlies.leads.keeps h.ways

theorem find_cases (hlies : Lies m g d e.workspace n) (hcondition : Condition m es s.tree (d ++ [n]) e) :
    Folder s.tree (d ++ [n]) ∧ e.workspace.disposed = false ∧
        s.tree.find m.home true e.workspace.directory = .ok (d ++ [n], .directory) ∨
      Bare s.tree (d ++ [n]) ∧ s.tree.find m.home true e.workspace.directory = .error .noEntry := by
  have hleads := h.leads hlies
  rw [hlies.directory]
  obtain ⟨kept, -, hfolder⟩ | hbare := hcondition.cases_folder
  · exact .inl ⟨hfolder, kept, hleads.find_of_directory true hfolder.directory⟩
  · refine .inr ⟨hbare, ?_⟩
    rw [find, hleads.resolve_of_none true (hbare _ (within_self _))]

theorem write_cases (hlies : Lies m g d e.workspace n) (hcondition : Condition m es s.tree (d ++ [n]) e)
    (hfile : Path.Plain file) (limit : WriteLimit) (now : Int) (content : String) :
    (∃ failure, e.workspace.writeWithin limit s.tree now m.home file content =
        (.error failure, e.workspace, s.tree)) ∨
      e.workspace.disposed = false ∧ e.dropped = false ∧ Folder s.tree (d ++ [n]) ∧ ∃ mode,
        (∃ path, e.workspace.writeWithin limit s.tree now m.home file content =
          (.ok path, { e.workspace with source := some path }, s.tree.put now (d ++ [n] ++ [file])
            (.file (Text.Utf8.encode content.toList) mode))) ∨
        ∃ room error failure, limit = .room room error ∧ room < (Text.Utf8.encode content.toList).length ∧
          e.workspace.writeWithin limit s.tree now m.home file content =
            (.error failure, e.workspace, s.tree.put now (d ++ [n] ++ [file])
              (.file ((Text.Utf8.encode content.toList).take room) mode)) := by
  have hleads := h.leads hlies
  obtain ⟨kept, held, hfolder⟩ | hbare := hcondition.cases_folder
  · have hleaf := hfolder.files (d ++ [n] ++ [file]) (within_append _ _) (by simp)
    have hwritable := writable_cases (m := m) (hleads.inside hfolder.directory) hfile hleaf
    rw [← hlies.directory] at hwritable
    obtain ⟨mode, hwritable⟩ | ⟨error, hwritable⟩ := hwritable
    · obtain hput | hfailed | hcut := writeWithin_cases hwritable limit now content
      · exact .inr ⟨kept, held, hfolder, mode, .inl hput⟩
      · exact .inl hfailed
      · exact .inr ⟨kept, held, hfolder, mode, .inr hcut⟩
    · exact .inl (writeWithin_of_error hwritable limit now content)
  · obtain ⟨error, hwritable⟩ := writable_of_missing hleads (hbare _ (within_self _)) hfile
    rw [← hlies.directory] at hwritable
    exact .inl (writeWithin_of_error hwritable limit now content)

theorem turn_write (hlies : Lies m g d e.workspace n) (hcondition : Condition m es s.tree (d ++ [n]) e)
    (hfile : Path.Plain file) (limit : WriteLimit) (now : Int) (content : String) :
    Turn m es (d ++ [n]) e
      { e with workspace := (e.workspace.writeWithin limit s.tree now m.home file content).2.1 } s.tree
      (e.workspace.writeWithin limit s.tree now m.home file content).2.2 := by
  obtain ⟨failure, hfailed⟩ | ⟨kept, held, hfolder, mode, hwritten⟩ := h.write_cases hlies hcondition hfile limit now content
  · rw [hfailed]
    exact h.turn_refl hcondition
  have hlocal (content : List UInt8) := Shared.local_put h.rooted now hfolder.directory (hfolder.leaf_ne file)
    (.file content mode)
  obtain ⟨path, hput⟩ | ⟨room, error, failure, -, -, hcut⟩ := hwritten
  · rw [hput]
    exact ⟨rfl, rfl, hlocal _, h.named.put hfile now _, .live kept held (hfolder.put now file _ _)⟩
  · rw [hcut]
    exact ⟨rfl, rfl, hlocal _, h.named.put hfile now _, .live kept held (hfolder.put now file _ _)⟩

theorem dispose_cases (hlies : Lies m g d e.workspace n) (hcondition : Condition m es s.tree (d ++ [n]) e)
    (now : Int) :
    (e.workspace.dispose s.tree now m.home).2 = s.tree ∧ Bare s.tree (d ++ [n]) ∨
      (e.workspace.dispose s.tree now m.home).2 = s.tree.erase now (d ++ [n]) := by
  have hleads := h.leads hlies
  unfold Workspace.dispose
  obtain ⟨kept, -, hfolder⟩ | hbare := hcondition.cases_folder
  · have hways : KeepsWays g (s.tree.clear now (d ++ [n])) := by
      refine h.ways.of_outside hlies.off fun p hp => node?_congr ?_
      rw [view_clear hfolder.directory, if_neg (by simp [hp])]
    have hremoved := Workspace.removeTree_of_leadsTo hleads (hlies.leads.keeps hways) hfolder.directory
    rw [kept, if_neg Bool.false_ne_true, hlies.directory, Cleanup.removeTree, hremoved]
    exact .inr rfl
  · refine .inl ⟨?_, hbare⟩
    split
    · rfl
    · rw [hlies.directory, Cleanup.removeTree, removeTree, find,
        hleads.resolve_of_none false (hbare _ (within_self _))]

theorem turn_dispose (hlies : Lies m g d e.workspace n) (hcondition : Condition m es s.tree (d ++ [n]) e) (now : Int)
    (dropped : Bool) :
    Turn m es (d ++ [n]) e ⟨(e.workspace.dispose s.tree now m.home).1, dropped⟩ s.tree
      (e.workspace.dispose s.tree now m.home).2 := by
  rw [disposed_dispose]
  obtain ⟨hsame, hbare⟩ | hremoved := h.dispose_cases hlies hcondition now
  · rw [hsame]
    exact ⟨rfl, rfl, .refl h.rooted, h.named, .disposed rfl hbare⟩
  · rw [hremoved]
    refine ⟨rfl, rfl, Shared.local_erase h.rooted now h.directory, h.named.partOf (.erase s.tree now _),
      .disposed rfl fun p hp => ?_⟩
    rw [node?_erase_child h.directory, if_pos hp]

theorem made {first id : String} (hallowed : m.Allowed now s (.create first id))
    (hleads : s.tree.LeadsTo m.home m.base (first ++ id) d) :
    Outcome m es g d s now (.create first id) ⟨s.tree.put now (d ++ [first ++ id]) .directory,
      s.entries ++ [{ workspace := { id, directory := Path.join m.base (first ++ id) } }]⟩ := by
  obtain ⟨-, huuid, hfresh, hunused, -⟩ := hallowed
  have hnone {p : Place} (hp : within (d ++ [first ++ id]) p = true) : s.tree.node? p = none :=
    hunused p ((List.isPrefixOf_iff_prefix.mp hp).subset (by simp))
  have hlocal := Shared.local_make h.rooted now h.directory (hnone (within_self _)) .directory
  have hoff (p : Place) (hp : within (d ++ [first ++ id]) p = true) : ¬g.OnWay p := fun hway =>
    hway.node?_ne_none ((h.ways.node?_eq hway).symm.trans (hnone hp))
  have hlies : Lies m g d { id, directory := Path.join m.base (first ++ id) } (first ++ id) :=
    ⟨rfl, huuid, ⟨first, rfl⟩, hleads.of_reaches h.reaches, hoff⟩
  refine .inside hlies hlocal (fun j e hj _ => ?_) ⟨hlocal.rooted, h.named.put hleads.plain now _, h.reaches,
    h.ways_of_local hlies hlocal, fun e he => ?_, ?_⟩
  · have hlength := (List.getElem?_eq_some_iff.mp hj).1
    exact ⟨(List.getElem?_append_left hlength).trans hj, hfresh e (List.mem_of_getElem? hj)⟩
  · obtain hold | hnew := List.mem_append.mp he
    · exact h.condition_of_local hlies hlocal hold (hfresh e hold)
    · rw [List.mem_singleton.mp hnew]
      exact ⟨_, hlies, .live rfl rfl (.of_made h.directory (fun p hp => hnone hp) now)⟩
  · rw [List.map_append, List.nodup_append]
    refine ⟨h.distinct, List.nodup_singleton _, ?_⟩
    simpa using hfresh

theorem create (hallowed : m.Allowed now s (.create first id)) :
    Outcome m es g d s now (.create first id) (m.step now s (.create first id)) := by
  have hplain := hallowed.2.1.plain hallowed.1
  have hnone : s.tree.node? (d ++ [first ++ id]) = none := hallowed.2.2.2.1 _ (by simp)
  have hcases := createDirectories_of_reaches hplain (h.reaches.keeps h.ways) hnone now
  unfold step Workspace.create
  dsimp only
  obtain ⟨hleads, hput⟩ | ⟨failure, hfailed⟩ := hcases
  · rw [hput]
    exact h.made hallowed hleads
  · rw [hfailed]
    exact .same h

theorem act {f : Entry → Entry × FileTree} (htarget : o.target? = some i)
    (hf : ∀ e n, Lies m g d e.workspace n → Condition m es s.tree (d ++ [n]) e →
      Turn m es (d ++ [n]) e (f e).1 s.tree (f e).2) : Outcome m es g d s now o (s.act i f) := by
  obtain hsame | ⟨e, hi, hact⟩ := act_cases s i f
  · rw [hsame]
    exact .same h
  · obtain ⟨n, hlies, hcondition⟩ := h.lies e (List.mem_of_getElem? hi)
    have hturn := hf e n hlies hcondition
    rw [hact]
    refine .inside hlies hturn.around (fun j e' hj hne => ?_) (h.turn hi hlies hturn)
    have hij : i ≠ j := fun hij => hne (htarget.trans (congrArg some hij))
    exact ⟨(List.getElem?_set_ne hij).trans hj, h.id_ne hj hi hij.symm⟩

theorem reclaim {maxAge : Nat} (hallowed : m.Allowed now s (.reclaim maxAge)) :
    Outcome m es g d s now (.reclaim maxAge) (m.step now s (.reclaim maxAge)) := by
  unfold step
  dsimp only
  by_cases hbase : ∃ place, s.tree.find m.home true m.base = .ok (place, .directory)
  · obtain ⟨place, hbase⟩ := hbase
    obtain rfl := (h.reaches.keeps h.ways).eq_of_find hbase
    have hkept := reaches_of_find (hallowed _ hbase)
    obtain ⟨names, -, hmem, heq⟩ := Workspace.reclaim_cases h.rooted h.named hbase hkept
    rw [heq] at hkept ⊢
    exact .reclaimed rfl hmem (Workspace.without_eraseAll h.directory now names) hkept
  · rw [Workspace.reclaim_of_unreadable fun place hplace => hbase ⟨place, hplace⟩]
    exact .same h

theorem step_cases (hallowed : m.Allowed now s o) : Outcome m es g d s now o (m.step now s o) := by
  cases o with
  | create first id => exact h.create hallowed
  | write i name content limit =>
    exact h.act rfl fun e n hlies hcondition => h.turn_write hlies hcondition hallowed limit now content
  | dispose i => exact h.act rfl fun e n hlies hcondition => h.turn_dispose hlies hcondition now e.dropped
  | drop i => exact h.act rfl fun e n hlies hcondition => h.turn_dispose hlies hcondition now true
  | reclaim maxAge => exact h.reclaim hallowed

end

end Standing

namespace Outcome

theorem standing_of_ne (h : Outcome m es g d s now o s') (hne : ∀ maxAge, o ≠ .reclaim maxAge) :
    Standing m es g d s' := by
  cases h with
  | same standing => exact standing
  | inside _ _ _ standing => exact standing
  | reclaimed order => exact absurd order (hne _)

theorem not_within_removed {names : List String} (hn : n ∉ names) {p : Place} (hp : within (d ++ [n]) p = true) :
    ¬∃ name ∈ names, within (d ++ [name]) p = true := by
  rintro ⟨name, hname, hp'⟩
  have hne : name ≠ n := fun heq => hn (heq ▸ hname)
  rw [not_within_of_within hne hp] at hp'
  cases hp'

/-- After a step the workspaces stand as before, and when old ones were reclaimed, on what is left of the ground. -/
theorem standing (h : Standing m es g d s) (hout : Outcome m es g d s now o s') :
    ∃ g', Standing m (es ++ [(s, now, o)]) g' d s' := by
  have hsub : es ⊆ es ++ [(s, now, o)] := List.subset_append_left _ _
  cases hout with
  | same standing => exact ⟨g, standing.mono hsub⟩
  | inside _ _ _ standing => exact ⟨g, standing.mono hsub⟩
  | @reclaimed maxAge names u order mem without reaches =>
    -- the base was found before and after, so what both have in common leads to it, and to no removed workspace
    have hreaches := h.reaches.meet h.ways without.partOf.keepsWays reaches
    refine ⟨g.meet u, without.rooted h.rooted, h.named.partOf without.partOf, hreaches, meet_keepsWays g u,
      fun e he => ?_, h.distinct⟩
    obtain ⟨n, hlies, hcondition⟩ := h.lies e he
    have hlies' : Lies m (g.meet u) d e.workspace n := by
      refine ⟨hlies.directory, hlies.uuid, hlies.named, hlies.leads.of_reaches hreaches, fun p hp hway => ?_⟩
      exact hlies.off p hp ((meet_partOf g u).onWay hway)
    refine ⟨n, hlies', ?_⟩
    by_cases hn : n ∈ names
    · have hbare : Bare u (d ++ [n]) := fun p hp => (without.node p).trans (if_pos ⟨n, hn, hp⟩)
      have hold := ((mem n).mp hn).1
      cases hcondition with
      | live kept held folder =>
        refine .reclaimed kept held ⟨s, now, maxAge, d, n, ?_, ?_, hold⟩ hbare
        · simp [order]
        · rw [hlies.directory]
          exact (h.leads hlies).find_of_directory true hold.directory
      | reclaimed kept held record _ => exact .reclaimed kept held (record.mono hsub) hbare
      | disposed disposed _ => exact .disposed disposed hbare
    · exact hcondition.congr hsub fun p hp => (without.node p).trans (if_neg (not_within_removed hn hp))

/-- Whom the order is not about keeps all that is in his workspace, unless it was old and is reclaimed. -/
theorem spares (h : Standing m es g d s) (hout : Outcome m es g d s now o s') (hj : s.entries[j]? = some e)
    (hne : o.target? ≠ some j) (hlies : Lies m g d e.workspace n) :
    s'.entries[j]? = some e ∧
      ((∀ p, within (d ++ [n]) p = true → s'.tree.entry? p = s.tree.entry? p) ∨
        ∃ maxAge, o = .reclaim maxAge ∧ Workspace.Abandoned s.tree now maxAge d n) := by
  have hbelow {p : Place} (hp : within (d ++ [n]) p = true) : p ≠ d := by
    rintro rfl
    rw [not_within_above] at hp
    cases hp
  cases hout with
  | same standing => exact ⟨hj, .inl fun _ _ => rfl⟩
  | @inside w n' _ lies around others standing =>
    obtain ⟨hkept, hid⟩ := others j e hj hne
    refine ⟨hkept, .inl fun p hp => around.outside p ?_ (by rw [List.dropLast_concat]; exact hbelow hp)⟩
    exact not_within_of_within (lies.name_ne hlies hid.symm) hp
  | @reclaimed maxAge names u order mem without reaches =>
    refine ⟨hj, ?_⟩
    by_cases hn : n ∈ names
    · exact .inr ⟨maxAge, order, ((mem n).mp hn).1⟩
    · exact .inl fun p hp => (without.entry p (hbelow hp)).trans (if_neg (not_within_removed hn hp))

end Outcome

/-! ### From the start -/

/-- There is no workspace yet, and maybe no base, or the workspaces stand. -/
inductive Orderly (m : Manager) (es : Record) (s : State) : Prop
  | empty (none : s.entries = []) (rooted : s.tree.Rooted) (named : s.tree.PlainlyNamed)
  | standing {g : FileTree} {d : Place} (standing : Standing m es g d s)

namespace Orderly

theorem step_of_empty (hnone : s.entries = []) (htarget : o.target? = some i) : m.step now s o = s := by
  cases o with
  | create | reclaim => cases htarget
  | write j | dispose j | drop j =>
    obtain hsame | ⟨e, hj, -⟩ := act_cases s j _
    · exact hsame
    · rw [hnone] at hj
      cases hj

section
variable (hnone : s.entries = []) (hroot : s.tree.Rooted) (hnamed : s.tree.PlainlyNamed)
include hnone hroot hnamed

theorem create_of_empty (hallowed : m.Allowed now s (.create first id)) :
    Orderly m es (m.step now s (.create first id)) := by
  obtain ⟨hfirst, huuid, -, hunused, hbase⟩ := hallowed
  have hplain := huuid.plain hfirst
  have hsegments : first ++ id ∉ Path.segments m.base.toList := fun hmem =>
    hbase (by rw [Path.names_eq]; exact List.mem_append_left _ hmem)
  have hnamed' := hnamed.createDirectories now m.home (Path.join m.base (first ++ id))
  obtain ⟨u, hmade, hunused', hcases⟩ := createDirectories_cases hplain hroot hunused hsegments now m.home
  unfold step Workspace.create
  dsimp only
  obtain ⟨failure, hfailed⟩ | ⟨d, hleads, hput⟩ := hcases
  · rw [hfailed] at hnamed' ⊢
    exact .empty hnone hmade.rooted hnamed'
  · rw [hput] at hnamed' ⊢
    -- nothing in `u` can have another name than after the making
    have hdirectory : u.node? d = some .directory := hleads.reaches.directory hmade.rooted
    have hstanding : Standing m es u d ⟨u, s.entries⟩ :=
      ⟨hmade.rooted, hnamed'.of_put hdirectory, hleads.reaches, .refl u, by simp [hnone], by simp [hnone]⟩
    refine .standing ((hstanding.made ⟨hfirst, huuid, by simp [hnone], hunused', hbase⟩ hleads).standing_of_ne ?_)
    rintro maxAge ⟨⟩

theorem reclaim_of_empty {maxAge : Nat} (hallowed : m.Allowed now s (.reclaim maxAge)) :
    Orderly m es (m.step now s (.reclaim maxAge)) := by
  unfold step
  dsimp only
  by_cases hbase : ∃ place, s.tree.find m.home true m.base = .ok (place, .directory)
  · obtain ⟨place, hbase⟩ := hbase
    obtain ⟨names, -, -, heq⟩ :=
      Workspace.reclaim_cases hroot hnamed hbase (reaches_of_find (hallowed place hbase))
    have hwithout := Workspace.without_eraseAll (hroot.find hbase) now names
    rw [heq]
    exact .empty hnone (hwithout.rooted hroot) (hnamed.partOf hwithout.partOf)
  · rw [Workspace.reclaim_of_unreadable fun place hplace => hbase ⟨place, hplace⟩]
    exact .empty hnone hroot hnamed

end

theorem step (h : Orderly m es s) (hallowed : m.Allowed now s o) :
    Orderly m (es ++ [(s, now, o)]) (m.step now s o) := by
  cases h with
  | empty hnone hroot hnamed =>
    have hsame : Orderly m (es ++ [(s, now, o)]) s := .empty hnone hroot hnamed
    cases o with
    | create first id => exact create_of_empty hnone hroot hnamed hallowed
    | reclaim maxAge => exact reclaim_of_empty hnone hroot hnamed hallowed
    | write i | dispose i | drop i =>
      rw [step_of_empty hnone rfl]
      exact hsame
  | standing hstanding =>
    obtain ⟨g', hafter⟩ := (hstanding.step_cases hallowed).standing hstanding
    exact .standing hafter

theorem run (hroot : t.Rooted) (hnamed : t.PlainlyNamed) (h : Run m ⟨t, []⟩ es s) : Orderly m es s := by
  induction h with
  | start => exact .empty rfl hroot hnamed
  | snoc _ allowed ih => exact ih.step allowed

theorem standing_of_mem (h : Orderly m es s) (he : e ∈ s.entries) : ∃ g d, Standing m es g d s := by
  cases h with
  | empty hnone =>
    rw [hnone] at he
    cases he
  | standing hstanding => exact ⟨_, _, hstanding⟩

end Orderly

/-! ### At any time -/

namespace Standing

variable (h : Standing m es g d s)
include h

theorem apart (hi : s.entries[i]? = some e) (hj : s.entries[j]? = some e') (hne : i ≠ j) :
    e.workspace.directory ≠ e'.workspace.directory ∧
      ∀ p q node node', s.tree.find m.home true e.workspace.directory = .ok (p, node) →
        s.tree.find m.home true e'.workspace.directory = .ok (q, node') → within p q = false := by
  obtain ⟨n, hlies, hcondition⟩ := h.lies e (List.mem_of_getElem? hi)
  obtain ⟨n', hlies', hcondition'⟩ := h.lies e' (List.mem_of_getElem? hj)
  have hname := hlies.name_ne hlies' (h.id_ne hi hj hne)
  refine ⟨fun heq => ?_, fun p q node node' hp hq => ?_⟩
  · rw [hlies.directory, hlies'.directory] at heq
    exact hname (Path.eq_of_join_eq hlies.leads.plain hlies'.leads.plain heq)
  · have hplace {e : Entry} {n : String} {p : Place} {node : Node} (hlies : Lies m g d e.workspace n)
        (hcondition : Condition m es s.tree (d ++ [n]) e)
        (hfind : s.tree.find m.home true e.workspace.directory = .ok (p, node)) : p = d ++ [n] := by
      obtain ⟨-, -, hthere⟩ | ⟨-, hmissing⟩ := h.find_cases hlies hcondition
      · exact congrArg Prod.fst (Except.ok.inj (hfind.symm.trans hthere))
      · cases hfind.symm.trans hmissing
    rw [hplace hlies hcondition hp, hplace hlies' hcondition' hq]
    exact not_within_of_within hname (within_self _)

theorem isPresent_of_disposed (he : e ∈ s.entries) (hdisposed : e.workspace.disposed = true) :
    s.tree.isPresent m.home e.workspace.directory = false := by
  obtain ⟨n, hlies, hcondition⟩ := h.lies e he
  obtain ⟨-, hkept, -⟩ | ⟨-, hmissing⟩ := h.find_cases hlies hcondition
  · cases hkept.symm.trans hdisposed
  · rw [isPresent, hmissing]
    rfl

theorem refuses (he : e ∈ s.entries) (hdisposed : e.workspace.disposed = true) (hfile : Path.Plain file)
    (limit : WriteLimit) (now : Int) (content : String) :
    ∃ failure, (e.workspace.writeWithin limit s.tree now m.home file content).1 = .error failure := by
  obtain ⟨n, hlies, hcondition⟩ := h.lies e he
  obtain ⟨failure, hfailed⟩ | ⟨hkept, -⟩ := h.write_cases hlies hcondition hfile limit now content
  · rw [hfailed]
    exact ⟨failure, rfl⟩
  · cases hkept.symm.trans hdisposed

/-- Who is told that the file was not written has the workspace as before. Unless the file was opened, the tree is as
before, too. -/
theorem failed (hi : s.entries[i]? = some e) (hfile : Path.Plain file) {content : String} {failure : Failure}
    (hfailed : (e.workspace.writeWithin limit s.tree now m.home file content).1 = .error failure) :
    m.step now s (.write i file content limit) = s ∨
      ∃ room error place mode, limit = .room room error ∧ room < (Text.Utf8.encode content.toList).length ∧
        s.tree.find m.home true e.workspace.directory = .ok (place, .directory) ∧
        m.step now s (.write i file content limit) = ⟨s.tree.put now (place ++ [file])
          (.file ((Text.Utf8.encode content.toList).take room) mode), s.entries⟩ := by
  obtain ⟨n, hlies, hcondition⟩ := h.lies e (List.mem_of_getElem? hi)
  obtain ⟨failure', hnothing⟩ | ⟨-, held, hfolder, mode, ⟨path, hput⟩ | ⟨room, error, failure', hroom, hcut, hpart⟩⟩ :=
    h.write_cases hlies hcondition hfile limit now content
  · refine .inl (act_eq_self hi ?_)
    dsimp only
    rw [hnothing]
  · rw [hput] at hfailed
    cases hfailed
  · refine .inr ⟨room, error, d ++ [n], mode, hroom, hcut, ?_, ?_⟩
    · rw [hlies.directory]
      exact (h.leads hlies).find_of_directory true hfolder.directory
    · refine (act_of_held hi held _).trans ?_
      dsimp only
      rw [hpart, set_of_getElem? hi]

theorem disposed_of_dropped (he : e ∈ s.entries) (hdropped : e.dropped = true) : e.workspace.disposed = true := by
  obtain ⟨n, -, hcondition⟩ := h.lies e he
  cases hcondition with
  | live _ held | reclaimed _ held => cases held.symm.trans hdropped
  | disposed disposed => exact disposed

theorem isDirectory_or (he : e ∈ s.entries) (hkept : e.workspace.disposed = false) :
    s.tree.isDirectory m.home e.workspace.directory = true ∨ Reclaimed m es e.workspace.directory := by
  obtain ⟨n, hlies, hcondition⟩ := h.lies e he
  cases hcondition with
  | live _ _ folder =>
    rw [isDirectory, check, hlies.directory, (h.leads hlies).find_of_directory true folder.directory]
    exact .inl rfl
  | reclaimed _ _ record => exact .inr record
  | disposed disposed => cases disposed.symm.trans hkept

theorem spares (hout : Outcome m es g d s now o s') (hj : s.entries[j]? = some e) (hne : o.target? ≠ some j) :
    s'.entries[j]? = some e ∧
      (s.tree.isPresent m.home e.workspace.directory = false → s'.tree.isPresent m.home e.workspace.directory = false) ∧
      ∀ place, s.tree.find m.home true e.workspace.directory = .ok (place, .directory) →
        s'.tree.find m.home true e.workspace.directory = .ok (place, .directory) ∧
            (∀ p, within place p = true → s'.tree.entry? p = s.tree.entry? p) ∨
          Reclaimed m [(s, now, o)] e.workspace.directory := by
  obtain ⟨n, hlies, hcondition⟩ := h.lies e (List.mem_of_getElem? hj)
  obtain ⟨hkept, hspared⟩ := hout.spares h hj hne hlies
  obtain ⟨g', hafter⟩ := hout.standing h
  have hleads : s'.tree.LeadsTo m.home m.base n d := hlies.leads.of_reaches (hafter.reaches.keeps hafter.ways)
  have hnode (heq : ∀ p, within (d ++ [n]) p = true → s'.tree.entry? p = s.tree.entry? p) :
      s'.tree.node? (d ++ [n]) = s.tree.node? (d ++ [n]) := by
    have hview := view_of_entry? (heq _ (within_self _))
    exact node?_congr hview
  obtain ⟨hfolder, -, hthere⟩ | ⟨hbare, hmissing⟩ := h.find_cases hlies hcondition
  · refine ⟨hkept, fun habsent => ?_, fun place hplace => ?_⟩
    · rw [isPresent, hthere] at habsent
      cases habsent
    · obtain rfl : d ++ [n] = place := congrArg Prod.fst (Except.ok.inj (hthere.symm.trans hplace))
      obtain heq | ⟨maxAge, horder, hold⟩ := hspared
      · refine .inl ⟨?_, heq⟩
        rw [hlies.directory]
        exact hleads.find_of_directory true ((hnode heq).trans hfolder.directory)
      · exact .inr ⟨s, now, maxAge, d, n, by simp [horder], hthere, hold⟩
  · refine ⟨hkept, fun _ => ?_, fun place hplace => by cases hmissing.symm.trans hplace⟩
    obtain heq | ⟨maxAge, -, hold⟩ := hspared
    · rw [isPresent, hlies.directory, find,
        hleads.resolve_of_none true ((hnode heq).trans (hbare _ (within_self _)))]
      rfl
    · cases hold.directory.symm.trans (hbare _ (within_self _))

end Standing

theorem disposed_of_mem (hroot : t.Rooted) (hnamed : t.PlainlyNamed) (h : Run m ⟨t, []⟩ es s) {s₀ : State}
    (hmem : (s₀, now, o) ∈ es) (ho : o = .dispose i ∨ o = .drop i) (hi : s₀.entries[i]? = some e) :
    ∃ e', s.entries[i]? = some e' ∧ Follows e e' ∧ e'.workspace.disposed = true := by
  induction h with
  | start => cases hmem
  | @snoc es s before now' o' allowed ih =>
    obtain hold | hnew := List.mem_append.mp hmem
    · obtain ⟨e', hi', hfollows, hdisposed⟩ := ih hold
      obtain ⟨e'', hi'', hfollows'⟩ := step_entry (m := m) hi' now' o'
      exact ⟨e'', hi'', hfollows.trans hfollows', hfollows'.disposed hdisposed⟩
    · obtain ⟨rfl, hrest⟩ := Prod.mk.inj (List.mem_singleton.mp hnew)
      obtain ⟨rfl, rfl⟩ := Prod.mk.inj hrest
      refine disposed_step (fun hdropped => ?_) hi ho now
      have he := List.mem_of_getElem? hi
      obtain ⟨g, d, hstanding⟩ := (Orderly.run hroot hnamed before).standing_of_mem he
      exact hstanding.disposed_of_dropped he hdropped

structure Sound (m : Manager) (es : Record) (s : State) : Prop where
  /-- No two have the same directory, and none lies in that of another. -/
  distinct : ∀ (i j : Nat) (e e' : Entry), i ≠ j → s.entries[i]? = some e → s.entries[j]? = some e' →
    e.workspace.directory ≠ e'.workspace.directory ∧
      ∀ p q node node', s.tree.find m.home true e.workspace.directory = .ok (p, node) →
        s.tree.find m.home true e'.workspace.directory = .ok (q, node') → within p q = false
  /-- What was ever disposed of or dropped has no directory, nor has what counts as that. -/
  gone : ∀ s₀ now o (i : Nat) e, (s₀, now, o) ∈ es → o = .dispose i ∨ o = .drop i → s₀.entries[i]? = some e →
    s.tree.isPresent m.home e.workspace.directory = false
  flagged : ∀ e ∈ s.entries, e.workspace.disposed = true ∨ e.dropped = true →
    s.tree.isPresent m.home e.workspace.directory = false
  /-- All others have theirs until they are reclaimed. -/
  there : ∀ e ∈ s.entries, e.workspace.disposed = false →
    s.tree.isDirectory m.home e.workspace.directory = true ∨ Reclaimed m es e.workspace.directory
  /-- To dispose of a workspace once more changes nothing, and to drop it only lets go of it. -/
  again : ∀ now (i : Nat) (e : Entry), s.entries[i]? = some e → e.workspace.disposed = true →
    m.step now s (.dispose i) = s ∧
      m.step now s (.drop i) = { s with entries := s.entries.set i { e with dropped := true } }
  refused : ∀ now, ∀ e ∈ s.entries, ∀ name content limit, e.workspace.disposed = true → Path.Plain name →
    ∃ failure, (e.workspace.writeWithin limit s.tree now m.home name content).1 = .error failure
  /-- A write that fails leaves all as it was, or the room for it ran out: then the file holds what went in. -/
  failed : ∀ now (i : Nat) (e : Entry) name content limit failure, s.entries[i]? = some e → Path.Plain name →
    (e.workspace.writeWithin limit s.tree now m.home name content).1 = .error failure →
    m.step now s (.write i name content limit) = s ∨
      ∃ room error place mode, limit = .room room error ∧ room < (Text.Utf8.encode content.toList).length ∧
        s.tree.find m.home true e.workspace.directory = .ok (place, .directory) ∧
        m.step now s (.write i name content limit) = ⟨s.tree.put now (place ++ [name])
          (.file ((Text.Utf8.encode content.toList).take room) mode), s.entries⟩
  /-- No order changes anything in the directories of the workspaces that it is not about, those aside that are old
  when old ones are reclaimed, and none that is not there comes back. -/
  others : ∀ now o, m.Allowed now s o → ∀ (j : Nat) (e : Entry), s.entries[j]? = some e → o.target? ≠ some j →
    (m.step now s o).entries[j]? = some e ∧
      (s.tree.isPresent m.home e.workspace.directory = false →
        (m.step now s o).tree.isPresent m.home e.workspace.directory = false) ∧
      ∀ place, s.tree.find m.home true e.workspace.directory = .ok (place, .directory) →
        (m.step now s o).tree.find m.home true e.workspace.directory = .ok (place, .directory) ∧
            (∀ p, within place p = true → (m.step now s o).tree.entry? p = s.tree.entry? p) ∨
          Reclaimed m [(s, now, o)] e.workspace.directory

/-- **The workspaces of a manager.** Whatever is asked for in whatever order, at any time each workspace has a directory
of its own until it is disposed of, dropped or reclaimed, what is gone stays gone, and no step reaches into the directory
of another workspace. -/
theorem run_sound (hroot : t.Rooted) (hnamed : t.PlainlyNamed) (h : Run m ⟨t, []⟩ es s) : Sound m es s := by
  have horderly := Orderly.run hroot hnamed h
  have hflagged (e : Entry) (he : e ∈ s.entries) (hdisposed : e.workspace.disposed = true) :
      s.tree.isPresent m.home e.workspace.directory = false := by
    obtain ⟨g, d, hstanding⟩ := horderly.standing_of_mem he
    exact hstanding.isPresent_of_disposed he hdisposed
  constructor
  case distinct =>
    intro i j e e' hne hi hj
    obtain ⟨g, d, hstanding⟩ := horderly.standing_of_mem (List.mem_of_getElem? hi)
    exact hstanding.apart hi hj hne
  case gone =>
    intro s₀ now o i e hmem ho hi
    obtain ⟨e', hi', hfollows, hdisposed⟩ := disposed_of_mem hroot hnamed h hmem ho hi
    rw [← hfollows.directory]
    exact hflagged e' (List.mem_of_getElem? hi') hdisposed
  case flagged =>
    intro e he hgone
    obtain ⟨g, d, hstanding⟩ := horderly.standing_of_mem he
    exact hflagged e he (hgone.elim (fun h => h) (hstanding.disposed_of_dropped he))
  case there =>
    intro e he hkept
    obtain ⟨g, d, hstanding⟩ := horderly.standing_of_mem he
    exact hstanding.isDirectory_or he hkept
  case again => exact fun now i e hi hdisposed => ⟨step_dispose_again hi hdisposed now, step_drop_again hi hdisposed now⟩
  case refused =>
    intro now e he name content limit hdisposed hname
    obtain ⟨g, d, hstanding⟩ := horderly.standing_of_mem he
    exact hstanding.refuses he hdisposed hname limit now content
  case failed =>
    intro now i e name content limit failure hi hname hfailed
    obtain ⟨g, d, hstanding⟩ := horderly.standing_of_mem (List.mem_of_getElem? hi)
    exact hstanding.failed hi hname hfailed
  case others =>
    intro now o hallowed j e hj hne
    obtain ⟨g, d, hstanding⟩ := horderly.standing_of_mem (List.mem_of_getElem? hj)
    exact hstanding.spares (hstanding.step_cases hallowed) hj hne

/-- The first of two workspaces is disposed of, and what is old is reclaimed. -/
theorem run_sound_two :
    let m : Manager := ⟨"/w", []⟩
    let s₀ : State := ⟨⟨[]⟩, []⟩
    let s₁ := m.step 10 s₀ (.create "run_" "6f9619ff-8b86-4d01-b42d-00cf4fc964ff")
    let s₂ := m.step 20 s₁ (.create "session_" "0b9f3d1e-52c7-4e0a-9d4e-7a1f2c3b4d5e")
    let s₃ := m.step 30 s₂ (.dispose 0)
    let s := m.step 60 s₃ (.reclaim 50)
    s.tree.isPresent [] "/w/run_6f9619ff-8b86-4d01-b42d-00cf4fc964ff" = false ∧ m.step 70 s (.dispose 0) = s := by
  intro m s₀ s₁ s₂ s₃ s
  have hroot : s₀.tree.Rooted := rooted_of_entries (by decide)
  have hnamed : s₀.tree.PlainlyNamed := plainlyNamed_of_entries fun e he => nomatch he
  have hnames : "run_" ++ "6f9619ff-8b86-4d01-b42d-00cf4fc964ff" ∉ Path.names m.base ∧
      "session_" ++ "0b9f3d1e-52c7-4e0a-9d4e-7a1f2c3b4d5e" ∉ Path.names m.base := by decide +kernel
  obtain ⟨hids, hunused, hfind, hfind', hdirectory, hdisposed⟩ :
      (∀ e ∈ s₁.entries, e.workspace.id ≠ "0b9f3d1e-52c7-4e0a-9d4e-7a1f2c3b4d5e") ∧
      (∀ e ∈ s₁.tree.entries, "session_" ++ "0b9f3d1e-52c7-4e0a-9d4e-7a1f2c3b4d5e" ∉ e.1) ∧
      s₃.tree.find [] true "/w" = .ok (["w"], .directory) ∧ s.tree.find [] true "/w" = .ok (["w"], .directory) ∧
      (s₂.entries[0]?).map (·.workspace.directory) = some "/w/run_6f9619ff-8b86-4d01-b42d-00cf4fc964ff" ∧
      (s.entries[0]?).map (·.workspace.disposed) = some true := by decide +kernel
  have h₁ : m.Allowed 10 s₀ (.create "run_" "6f9619ff-8b86-4d01-b42d-00cf4fc964ff") :=
    ⟨by decide, ⟨by decide, by decide⟩, by decide, unused_of_entries (by decide), hnames.1⟩
  have h₂ : m.Allowed 20 s₁ (.create "session_" "0b9f3d1e-52c7-4e0a-9d4e-7a1f2c3b4d5e") :=
    ⟨by decide, ⟨by decide, by decide⟩, hids, unused_of_entries hunused, hnames.2⟩
  have h₄ : m.Allowed 60 s₃ (.reclaim 50) := fun d hd => by
    cases hfind.symm.trans hd
    exact hfind'
  have hrun := ((((Run.start (m := m)).snoc h₁).snoc h₂).snoc (o := .dispose 0) trivial).snoc h₄
  have hsound := run_sound hroot hnamed hrun
  obtain ⟨e, he, hdirectory⟩ := Option.map_eq_some_iff.mp hdirectory
  obtain ⟨e', he', hdisposed⟩ := Option.map_eq_some_iff.mp hdisposed
  rw [← hdirectory]
  exact ⟨hsound.gone s₂ 30 (.dispose 0) 0 e (.tail _ (.tail _ (.head _))) (.inl rfl) he,
    (hsound.again 70 0 e' he' hdisposed).1⟩

/-- The base is found through an old workspace. With that one goes the way to the new one, which stays where it is. And
when only one octet of a source goes in, the new one has a file that nobody knows of. -/
theorem hidden_and_half_written :
    let m : Manager := ⟨"/run_old/..", []⟩
    let id := "6f9619ff-8b86-4d01-b42d-00cf4fc964ff"
    let w : Workspace := { id, directory := Path.join m.base ("run_" ++ id) }
    let t : FileTree := ⟨[(["run_old"], .directory, 0)]⟩
    let s := m.step 100 ⟨t, []⟩ (.create "run_" id)
    let s' := m.step 100 s (.reclaim 50)
    let s'' := m.step 100 s (.write 0 "a.tri" "ab" (.room 1 .noSpace))
    t.Rooted ∧ t.PlainlyNamed ∧ m.Allowed 100 ⟨t, []⟩ (.create "run_" id) ∧
      (Workspace.reclaim s.tree 100 m.home m.base 50).1 = .ok 1 ∧
      ¬Workspace.Abandoned s.tree 100 50 [] ("run_" ++ id) ∧ s'.entries = [{ workspace := w }] ∧
      s.tree.isDirectory m.home w.directory = true ∧ s'.tree.isDirectory m.home w.directory = false ∧
      (w.writeWithin (.room 1 .noSpace) s.tree 100 m.home "a.tri" "ab").1.isOk = false ∧
      s''.entries = [{ workspace := w }] ∧ s.tree.node? ["run_" ++ id, "a.tri"] = none ∧
      s''.tree.node? ["run_" ++ id, "a.tri"] = some (.file [97] defaultMode) := by
  intro m id w t s s' s''
  have hnamed : t.PlainlyNamed := plainlyNamed_of_entries fun e he name hname => by
    rw [List.mem_singleton.mp he] at hname
    cases hname
    exact ⟨by decide, by decide, by decide, by decide⟩
  rw [← Workspace.isAbandoned_iff]
  refine ⟨rooted_of_entries (by decide), hnamed, ?_, by decide +kernel⟩
  exact ⟨by decide, ⟨by decide, by decide⟩, by decide, unused_of_entries (by decide), by decide +kernel⟩

end SnippetLab.Manager
