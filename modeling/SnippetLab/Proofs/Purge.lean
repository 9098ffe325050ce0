import SnippetLab.Artifact
import SnippetLab.Lab.Basic
import SnippetLab.Proofs.Cleanup
import SnippetLab.Proofs.Except
import SnippetLab.Proofs.Text.Search

/-!
What a purge of the shared directory removes. Of the files that lie directly in it those with stale names go, if the
system takes their paths; whatever a compiler calls its programs is such a name.
-/
namespace SnippetLab

namespace FileTree

structure ProperName (name : String) : Prop extends Path.Plain name where
  short : name.utf8ByteSize ≤ maxNameSize
  noNul : '\x00' ∉ name.toList

instance (name : String) : Decidable (ProperName name) :=
  decidable_of_iff ((('/' ∉ name.toList ∧ name ≠ "") ∧ name ≠ "." ∧ name ≠ "..") ∧
      name.utf8ByteSize ≤ maxNameSize ∧ '\x00' ∉ name.toList)
    ⟨fun h => ⟨⟨h.1.1.1, h.1.1.2, h.1.2.1, h.1.2.2⟩, h.2.1, h.2.2⟩,
      fun h => ⟨⟨⟨h.noSlash, h.nonempty⟩, h.notSelf, h.notUp⟩, h.short, h.noNul⟩⟩

/-- A tree as a file system has it. Each place is listed once. -/
structure WellFormed (t : FileTree) : Prop where
  rooted : t.Rooted
  distinct : (t.entries.map (·.1)).Nodup
  named : ∀ p name, t.node? (p ++ [name]) ≠ none → ProperName name

theorem wellFormed_of_entries {t : FileTree} (hdistinct : (t.entries.map (·.1)).Nodup)
    (h : ∀ e ∈ t.entries, t.node? e.1.dropLast = some .directory ∧ ∀ name ∈ e.1.getLast?, ProperName name) :
    t.WellFormed :=
  ⟨rooted_of_entries fun e he => (h e he).1, hdistinct, forall_named_of_entries fun e he => (h e he).2⟩

variable {t : FileTree} {cwd d : Place} {base name : String}

theorem nameable_join_iff (hbase : Nameable base) (hname : ProperName name) :
    Nameable (Path.join base name) ↔ (Path.join base name).utf8ByteSize ≤ maxPathSize := by
  refine ⟨fun h => h.short, fun hshort => ⟨Path.join_ne_empty hname.toPlain base, ?_, hshort⟩⟩
  obtain ⟨hempty, -⟩ | ⟨front, hjoin, -, hfront⟩ := Path.join_cases hname.toPlain base
  · exact absurd hempty hbase.nonempty
  · have hbefore : '\x00' ∉ front := fun hmem => hbase.noNul (by obtain h | h := hfront <;> simp [h, hmem])
    rw [hjoin, List.mem_append, List.mem_cons]
    rintro (hmem | hmem | hmem)
    · exact hbefore hmem
    · exact absurd hmem (by decide)
    · exact hname.noNul hmem

theorem find_join_isOk_iff (hname : ProperName name) (hbase : t.find cwd true base = .ok (d, .directory))
    (hfile : (t.node? (d ++ [name])).any Node.isFile = true) :
    (t.find cwd false (Path.join base name)).isOk = true ↔ (Path.join base name).utf8ByteSize ≤ maxPathSize := by
  obtain ⟨content, mode, hnode⟩ := Cleanup.any_isFile_iff.mp hfile
  have hnameable := (resolve_eq_ok_iff.mp (find_eq_ok_iff.mp hbase)).1
  have hlength := nameable_join_iff hnameable hname
  constructor
  · intro hfound
    obtain ⟨found, hfound⟩ := Except.isOk_iff.mp hfound
    exact hlength.mp (resolve_eq_ok_iff.mp (find_eq_ok_iff.mp hfound)).1
  · intro hshort
    have hreaches := reaches_of_find hbase
    have hleads : t.LeadsTo cwd base name d :=
      ⟨hname.toPlain, hlength.mpr hshort, ⟨hname.notSelf, hname.notUp, Nat.not_lt.mpr hname.short⟩,
        hreaches.origin, hreaches.walk⟩
    rw [hleads.find_of_file false hnode]
    rfl

end FileTree

namespace Cleanup

open FileTree Text

variable {t : FileTree} {cwd place : Place} {root name : String} {refusals : Refusals}

/-- A leftover that the system lets go. -/
structure Removable (refusals : Refusals) (t : FileTree) (root : String) (place : Place) (name : String) : Prop where
  leftover : Leftover t place (place ++ [name])
  short : (Path.join root name).utf8ByteSize ≤ maxPathSize
  allowed : refusals.removal name = none

theorem Leftover.properName (h : t.WellFormed) (hleftover : Leftover t place (place ++ [name])) : ProperName name :=
  h.named place name hleftover.node?_ne.1

section
variable (h : t.WellFormed) (hplace : Readable refusals t cwd root place)
include h hplace

theorem keepsWays_removed {removed : List String} (hremoved : ∀ name ∈ removed, Leftover t place (place ++ [name]))
    (now : Int) : KeepsWays t (removed.foldl (fun t name => t.erase now (place ++ [name])) t) := by
  refine keepsWays_of_onWay fun p hway => node?_congr ?_
  rw [view_removed h.rooted (hplace.directory h.rooted) hremoved, if_neg]
  rintro ⟨name, hname, rfl⟩
  have hnode := (hremoved name hname).node?_ne
  obtain hway | ⟨target, hway⟩ := hway
  · exact hnode.2.1 hway
  · exact hnode.2.2 target hway

/-- A removal does not depend on those before it. -/
theorem removeStale_removed {removed : List String} (hremoved : ∀ name ∈ removed, Leftover t place (place ++ [name]))
    (hleftover : Leftover t place (place ++ [name])) (hnew : name ∉ removed) (now : Int) :
    let u := removed.foldl (fun t name => t.erase now (place ++ [name])) t
    Removable refusals t root place name ∧
        removeStale refusals u now cwd root place name = .ok (u.erase now (place ++ [name])) ∨
      ¬Removable refusals t root place name ∧ ∃ e, removeStale refusals u now cwd root place name = .error e := by
  intro u
  have hnode : u.node? (place ++ [name]) = t.node? (place ++ [name]) := by
    refine node?_congr ?_
    rw [view_removed h.rooted (hplace.directory h.rooted) hremoved, if_neg]
    rintro ⟨other, hother, heq⟩
    obtain rfl : name = other := by simpa using heq
    exact hnew hother
  obtain ⟨-, -, -, hfile⟩ := hleftover.congr hnode
  have hfound := find_join_isOk_iff (hleftover.properName h) ((keepsWays_removed h hplace hremoved now).find hplace.found) hfile
  cases hresult : removeStale refusals u now cwd root place name with
  | ok v =>
    obtain ⟨hfind, hallowed, rfl⟩ := removeStale_eq_ok_iff.mp hresult
    exact .inl ⟨⟨hleftover, hfound.mp hfind, hallowed⟩, rfl⟩
  | error e =>
    refine .inr ⟨fun hremovable => ?_, e, rfl⟩
    have hok : removeStale refusals u now cwd root place name = .ok (u.erase now (place ++ [name])) :=
      removeStale_eq_ok_iff.mpr ⟨hfound.mpr hremovable.short, hremovable.allowed, rfl⟩
    cases hresult.symm.trans hok

/-- The names still to come are gone through with those in `removed` removed already. -/
theorem foldl_purgeOne_eq (now : Int) (names removed : List String) (hnodup : (removed ++ names).Nodup)
    (hleftover : ∀ name ∈ removed ++ names, Leftover t place (place ++ [name])) :
    ∃ gone : List String, gone.Nodup ∧
      (∀ name, name ∈ gone ↔ name ∈ removed ∨ name ∈ names ∧ Removable refusals t root place name) ∧
      names.foldl (purgeOne refusals now cwd root place)
          (removed.length, removed.foldl (fun t name => t.erase now (place ++ [name])) t) =
        (gone.length, gone.foldl (fun t name => t.erase now (place ++ [name])) t) := by
  induction names generalizing removed with
  | nil => exact ⟨removed, by simpa using hnodup, by simp, rfl⟩
  | cons name names ih =>
    have hsplit : removed ++ name :: names = (removed ++ [name]) ++ names := by simp
    have hnew : name ∉ removed := fun hmem =>
      (List.nodup_append.mp hnodup).2.2 name hmem name List.mem_cons_self rfl
    rw [List.foldl_cons]
    unfold purgeOne
    obtain ⟨hremovable, hok⟩ | ⟨hkept, e, herror⟩ := removeStale_removed h hplace
      (fun n hn => hleftover n (List.mem_append_left _ hn)) (hleftover name (by simp)) hnew now
    · obtain ⟨gone, hgone, hmem, hfold⟩ := ih (removed ++ [name]) (hsplit ▸ hnodup) (hsplit ▸ hleftover)
      rw [List.length_append, List.foldl_append] at hfold
      dsimp only
      rw [hok]
      refine ⟨gone, hgone, fun n => (hmem n).trans ?_, hfold⟩
      simp only [List.mem_append, List.mem_cons, List.not_mem_nil, or_false]
      constructor
      · rintro ((hn | rfl) | ⟨hn, hr⟩)
        · exact .inl hn
        · exact .inr ⟨.inl rfl, hremovable⟩
        · exact .inr ⟨.inr hn, hr⟩
      · rintro (hn | ⟨rfl | hn, hr⟩)
        · exact .inl (.inl hn)
        · exact .inl (.inr rfl)
        · exact .inr ⟨hn, hr⟩
    · have hrest : (removed ++ names).Sublist (removed ++ name :: names) :=
        (List.Sublist.refl removed).append (List.sublist_cons_self name names)
      obtain ⟨gone, hgone, hmem, hfold⟩ :=
        ih removed (hrest.nodup hnodup) fun n hn => hleftover n (hrest.subset hn)
      dsimp only
      rw [herror]
      refine ⟨gone, hgone, fun n => (hmem n).trans (or_congr_right ⟨fun hn => ⟨.tail _ hn.1, hn.2⟩, ?_⟩), hfold⟩
      rintro ⟨hn, hr⟩
      obtain rfl | hn := List.mem_cons.mp hn
      · exact absurd hr hkept
      · exact ⟨hn, hr⟩

theorem purgeUnless_eq (now : Int) : ∃ gone : List String, gone.Nodup ∧
    (∀ name, name ∈ gone ↔ Removable refusals t root place name) ∧
    purgeUnless refusals t now cwd root =
      (gone.length, gone.foldl (fun t name => t.erase now (place ++ [name])) t) := by
  obtain ⟨gone, hgone, hmem, hfold⟩ := foldl_purgeOne_eq h hplace now
    (staleNames t place (t.children place)) [] ((nodup_children h.distinct place).filter _)
    fun name hname => mem_staleNames.mp (by simpa using hname)
  refine ⟨gone, hgone, fun name => (hmem name).trans ?_, (purgeUnless_of_readable hplace now).trans hfold⟩
  simp only [List.not_mem_nil, false_or, mem_staleNames]
  exact and_iff_right_of_imp Removable.leftover

end

theorem foldl_purgeOne_of_error {now : Int} {names : List String}
    (h : ∀ name ∈ names, ∀ u, removeStale refusals t now cwd root place name ≠ .ok u) (count : Nat) :
    names.foldl (purgeOne refusals now cwd root place) (count, t) = (count, t) := by
  induction names with
  | nil => rfl
  | cons name names ih =>
    rw [List.foldl_cons]
    unfold purgeOne
    split
    · next u hok => exact absurd hok (h name List.mem_cons_self u)
    · exact ih fun n hn => h n (List.mem_cons_of_mem name hn)

/-- All that is refused is refused again. -/
structure Refusals.Persists (refusals refusals' : Refusals) : Prop where
  listing : refusals.listing ≠ none → refusals'.listing ≠ none
  removal : ∀ name, refusals.removal name ≠ none → refusals'.removal name ≠ none

theorem purge_purge (h : t.WellFormed) {refusals' : Refusals} (hpersists : refusals.Persists refusals')
    (now later : Int) :
    purgeUnless refusals' (purgeUnless refusals t now cwd root).2 later cwd root =
      (0, (purgeUnless refusals t now cwd root).2) := by
  by_cases hread : ∃ place, Readable refusals t cwd root place
  · obtain ⟨place, hplace⟩ := hread
    obtain ⟨gone, -, hmem, heq⟩ := purgeUnless_eq h hplace now
    have hleftover (name : String) (hname : name ∈ gone) := ((hmem name).mp hname).leftover
    have hview := view_removed h.rooted (hplace.directory h.rooted) hleftover now
    have hfind := (keepsWays_removed h hplace hleftover now).find hplace.found
    rw [heq]
    by_cases hlist : refusals'.listing = none
    · rw [purgeUnless_of_readable ⟨hlist, hfind⟩]
      refine foldl_purgeOne_of_error (fun name hname u hok => ?_) 0
      have hstale := mem_staleNames.mp hname
      obtain ⟨hfound, hallowed, -⟩ := removeStale_eq_ok_iff.mp hok
      have hkept : name ∉ gone := fun hgone =>
        hstale.node?_ne.1 (view_eq_none_iff.mp ((hview _).trans (if_pos ⟨name, hgone, rfl⟩)))
      have hsame := (hview (place ++ [name])).trans (if_neg fun ⟨other, hother, heq⟩ => by
        obtain rfl : name = other := by simpa using heq
        exact hkept hother)
      have hbefore := hstale.congr (node?_congr hsame).symm
      obtain ⟨-, -, -, hfile⟩ := hstale
      have hshort := (find_join_isOk_iff (hbefore.properName h) hfind hfile).mp hfound
      exact hkept ((hmem name).mpr ⟨hbefore, hshort, not_not.mp fun hno => hpersists.removal name hno hallowed⟩)
    · exact purgeUnless_of_unreadable (fun _ hreadable => hlist hreadable.allowed) later
  · rw [purgeUnless_of_unreadable (not_exists.mp hread)]
    refine purgeUnless_of_unreadable (fun place hplace => hread ⟨place, ?_, hplace.found⟩) later
    exact not_not.mp fun hno => hpersists.listing hno hplace.allowed

/-- Whatever a compiler may call the program of a session, and the source, is stale once the session is over. -/
theorem isStale_of_session (session : String) {name : String}
    (h : name ∈ ("temp_" ++ session ++ Artifact.sourceExtension) :: Artifact.candidateNames ("temp_" ++ session)) :
    isStale name = true := by
  have htemp (rest : String) : isStale ("temp_" ++ rest) = true := by
    have hstart : startsWith ("temp_" ++ rest) "temp_" = true := by
      rw [startsWith, String.toList_append, List.isPrefixOf_iff_prefix]
      exact List.prefix_append _ _
    simp [isStale, hstart]
  simp only [Artifact.candidateNames, List.mem_cons, List.not_mem_nil, or_false] at h
  obtain rfl | rfl | rfl | rfl | rfl | rfl := h
  · rw [String.append_assoc]
    exact htemp _
  · exact htemp session
  · rw [String.append_assoc]
    exact htemp _
  all_goals decide

/-- **Purging.** If the root can be read, the leftovers in it go, those aside whose paths are too long for the system
or whose removal it refuses, and they are counted; all other entries stay as they are, the root with the time of its last
change. Else nothing happens. A second purge that is refused whatever the first one was finds nothing more to remove. The
program and the source of a session are such leftovers. -/
theorem purge_exact (h : t.WellFormed) (refusals : Refusals) (now : Int) (cwd : Place) (root : String) :
    (∀ place, Readable refusals t cwd root place →
      ∃ names : List String, names.Nodup ∧
        (∀ name, name ∈ names ↔ Leftover t place (place ++ [name]) ∧
          (Path.join root name).utf8ByteSize ≤ maxPathSize ∧ refusals.removal name = none) ∧
        (purgeUnless refusals t now cwd root).1 = names.length ∧
        (∀ p, p ≠ place → entry? (purgeUnless refusals t now cwd root).2 p =
          if ∃ name ∈ names, p = place ++ [name] then none else t.entry? p) ∧
        (purgeUnless refusals t now cwd root).2.node? place = some .directory) ∧
    ((∀ place, ¬Readable refusals t cwd root place) → purgeUnless refusals t now cwd root = (0, t)) ∧
    (∀ later refusals', refusals.Persists refusals' →
      purgeUnless refusals' (purgeUnless refusals t now cwd root).2 later cwd root =
        (0, (purgeUnless refusals t now cwd root).2)) ∧
    ∀ place session, Readable refusals t cwd root place →
      ∀ name ∈ ("temp_" ++ session ++ Artifact.sourceExtension) :: Artifact.candidateNames ("temp_" ++ session),
        (Path.join root name).utf8ByteSize ≤ maxPathSize → refusals.removal name = none →
          (t.node? (place ++ [name])).any Node.isFile = true →
            (purgeUnless refusals t now cwd root).2.node? (place ++ [name]) = none := by
  refine ⟨fun place hplace => ?_, fun hunread => purgeUnless_of_unreadable hunread now,
    fun later _ hpersists => purge_purge h hpersists now later, ?_⟩
  · obtain ⟨gone, hgone, hmem, heq⟩ := purgeUnless_eq h hplace now
    have hleftover (name : String) (hname : name ∈ gone) := ((hmem name).mp hname).leftover
    rw [heq]
    refine ⟨gone, hgone, fun name => (hmem name).trans ⟨fun hr => ⟨hr.leftover, hr.short, hr.allowed⟩,
      fun ⟨hl, hs, ha⟩ => ⟨hl, hs, ha⟩⟩, rfl, fun p hp => entry?_removed h.rooted hleftover now hp, ?_⟩
    have hview := view_removed h.rooted (hplace.directory h.rooted) hleftover now place
    rw [node?_congr (hview.trans (if_neg (by simp))), hplace.directory h.rooted]
  · intro place session hplace name hname hshort hallowed hfile
    obtain ⟨gone, -, hmem, heq⟩ := purgeUnless_eq h hplace now
    have hleftover (name : String) (hname : name ∈ gone) := ((hmem name).mp hname).leftover
    have hgone := (hmem name).mpr ⟨⟨name, rfl, isStale_of_session session hname, hfile⟩, hshort, hallowed⟩
    rw [heq]
    refine view_eq_none_iff.mp ?_
    rw [view_removed h.rooted (hplace.directory h.rooted) hleftover, if_pos ⟨name, hgone, rfl⟩]

/-- A directory with a stale name, a file in it, a link to that file, and what two sessions left behind. -/
def cluttered : FileTree :=
  ⟨[(["t"], .directory, 0), (["t", "temp_1"], .directory, 0), (["t", "temp_1", "a.out"], .file [] 0o644, 0),
    (["t", "main"], .link "temp_1/a.out", 0), (["t", "temp_0badcafe.exe"], .file [] 0o755, 0),
    (["t", "temp_0badcafe.tri"], .file [] 0o644, 0)]⟩

/-- The source of the session belongs to another user. -/
def sourceRefused : Refusals := ⟨none, fun name => if name = "temp_0badcafe.tri" then some .notPermitted else none⟩

theorem purge_exact_cluttered :
    cluttered.WellFormed ∧ sourceRefused.Persists sourceRefused ∧
      (purgeUnless sourceRefused cluttered 7 [] "/t").2.node? ["t", "temp_0badcafe.exe"] = none ∧
      entry? (purgeUnless sourceRefused cluttered 7 [] "/t").2 ["t", "temp_1", "a.out"] = some (.file [] 0o644, 0) ∧
      entry? (purgeUnless sourceRefused cluttered 7 [] "/t").2 ["t", "temp_0badcafe.tri"] =
        some (.file [] 0o644, 0) ∧
      purgeUnless sourceRefused (purgeUnless sourceRefused cluttered 7 [] "/t").2 9 [] "/t" =
        (0, (purgeUnless sourceRefused cluttered 7 [] "/t").2) := by
  have hformed : cluttered.WellFormed := wellFormed_of_entries (by decide) (by decide)
  have hpersists : sourceRefused.Persists sourceRefused := ⟨id, fun _ => id⟩
  have hroot : Readable sourceRefused cluttered [] "/t" ["t"] := ⟨rfl, by decide +kernel⟩
  obtain ⟨hread, -, hagain, hsession⟩ := purge_exact hformed sourceRefused 7 [] "/t"
  obtain ⟨names, -, hmem, -, hother, -⟩ := hread ["t"] hroot
  refine ⟨hformed, hpersists, ?_, ?_, ?_, hagain 9 sourceRefused hpersists⟩
  · exact hsession ["t"] "0badcafe" hroot "temp_0badcafe.exe" (by decide) (by decide) (by decide) (by decide)
  · rw [hother _ (by decide), if_neg]
    · decide
    · rintro ⟨name, -, hname⟩
      cases hname
  · rw [hother _ (by decide), if_neg]
    · decide
    · rintro ⟨name, hname, heq⟩
      obtain rfl : "temp_0badcafe.tri" = name := by simpa using heq
      exact absurd ((hmem _).mp hname).2.2 (by decide)

/-! Paths of slashes lead to the root of the tree. -/

def slashes (n : Nat) : String := String.ofList (List.replicate n '/')

theorem size_slashes (n : Nat) : (slashes n).utf8ByteSize = n := by
  induction n with
  | zero => rfl
  | succ n ih =>
    have hslash : slashes (n + 1) = String.singleton '/' ++ slashes n := by
      rw [slashes, List.replicate_succ, String.ofList_cons, slashes]
    rw [hslash, String.utf8ByteSize_append, ih, String.utf8ByteSize_singleton]
    exact Nat.add_comm 1 n

section
variable {n : Nat} (hn : n ≠ 0)
include hn

theorem slashes_ne_empty : slashes n ≠ "" := by
  intro hempty
  have hsize := size_slashes n
  rw [hempty] at hsize
  exact hn hsize.symm

theorem endsInSlash_slashes : Path.endsInSlash (slashes n) = true := by
  simp [Path.endsInSlash, slashes, List.getLast?_replicate, hn]

theorem find_slashes (t : FileTree) (cwd : Place) (hshort : n ≤ maxPathSize) :
    t.find cwd true (slashes n) = .ok ([], .directory) := by
  have hnames : Path.names (slashes n) = ["."] := by
    have hnil : (slashes n).toList.rdropWhile (· = '/') = [] := by
      rw [List.rdropWhile_eq_nil_iff]
      simp [slashes]
    rw [Path.names_eq, endsInSlash_slashes hn, ← Path.segments_rdropWhile, hnil]
    rfl
  have horigin : origin cwd (slashes n) = [] :=
    if_pos (by simp [Path.isAbsolute, slashes, List.head?_replicate, hn])
  have hnameable : Nameable (slashes n) :=
    ⟨slashes_ne_empty hn, by simp [slashes], (size_slashes n).trans_le hshort⟩
  rw [find_eq_ok_iff, resolve_eq_ok_iff, hnames, horigin]
  exact ⟨hnameable, rfl, rfl⟩

end

/-- The path of the file would be longer than the system takes, or the system does not let the file go. -/
theorem leftover_of_long_root :
    let t : FileTree := ⟨[(["a.out"], .file [] 0o644, 0)]⟩
    let root := slashes maxPathSize
    t.WellFormed ∧ Leftover t [] ["a.out"] ∧
      Readable .nothing t [] root [] ∧ purge t 0 [] root = (0, t) ∧
      Readable ⟨none, fun _ => some .notPermitted⟩ t [] "/" [] ∧
        purgeUnless ⟨none, fun _ => some .notPermitted⟩ t 0 [] "/" = (0, t) := by
  intro t root
  have hformed : t.WellFormed := wellFormed_of_entries (by decide) (by decide)
  have hroot : Readable .nothing t [] root [] := ⟨rfl, find_slashes (by decide) t [] (Nat.le_refl _)⟩
  refine ⟨hformed, ⟨"a.out", rfl, by decide, by decide⟩, hroot, ?_, ⟨rfl, by decide +kernel⟩, by decide +kernel⟩
  obtain ⟨gone, -, hmem, heq⟩ := purgeUnless_eq hformed hroot 0
  have hnone : gone = [] := by
    refine List.eq_nil_iff_forall_not_mem.mpr fun name hname => ?_
    obtain ⟨hleftover, hshort, -⟩ := (hmem name).mp hname
    have honly : staleNames t [] (t.children []) = ["a.out"] := by decide
    obtain rfl : name = "a.out" := by simpa [honly] using mem_staleNames.mpr hleftover
    have hempty : root.isEmpty = false := by
      simpa using slashes_ne_empty (n := maxPathSize) (by decide)
    have hjoin : Path.join root "a.out" = root ++ "a.out" := by
      rw [Path.join, hempty, endsInSlash_slashes (by decide)]
      rfl
    rw [hjoin, String.utf8ByteSize_append, size_slashes] at hshort
    exact absurd hshort (by decide)
  rw [purge, heq, hnone]
  rfl

end Cleanup
end SnippetLab
