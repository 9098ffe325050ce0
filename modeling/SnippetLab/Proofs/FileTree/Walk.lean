import SnippetLab.FileTree.Resolve
import SnippetLab.Proofs.FileTree.View
import SnippetLab.Proofs.Path

/-!
How a path leads through a tree: its names before the last have to lead to a directory, where the last one
is looked up. Only directories and links decide where that is.
-/
namespace SnippetLab.FileTree

/-- What becomes of a stretch with more names after it. -/
def Stretch.andThen (t : FileTree) (follow : Bool) (rest : List String) : Stretch → Stretch
  | reached (.ok (.entry place .directory)) => t.stretch follow place rest
  | reached (.ok (.entry _ _)) => reached (.error .notDirectory)
  | reached (.ok (.free _)) => reached (.error .noEntry)
  | reached (.error e) => reached (.error e)
  | link directory target left => link directory target (left ++ rest)

variable {t u : FileTree} {follow : Bool} {links : Nat} {here d : Place} {front rest : List String}

theorem stretch_append (t : FileTree) (hrest : rest ≠ []) (follow : Bool) (here : Place) (front : List String) :
    t.stretch follow here (front ++ rest) = (t.stretch true here front).andThen t follow rest := by
  have hmore (names : List String) : (names ++ rest).isEmpty = false := by simp [hrest]
  induction here, front using stretch.induct t true with
  | case1 here => rfl
  | case2 here names ih => simpa [stretch] using ih
  | case3 here names _ ih => simpa [stretch] using ih
  | case4 here name names hself hup hlong => simp [stretch, hself, hup, hlong, Stretch.andThen]
  | case5 here name names hself hup hlong hnode =>
    cases hnames : names.isEmpty <;> simp [stretch, hself, hup, hlong, hnode, hnames, hmore, Stretch.andThen]
  | case6 here name names hself hup hlong hnode ih => simpa [stretch, hself, hup, hlong, hnode] using ih
  | case7 here name names hself hup hlong target hnode hlast => simp at hlast
  | case8 here name names hself hup hlong target hnode hlast =>
    simp [stretch, hself, hup, hlong, hnode, hmore, Stretch.andThen]
  | case9 here name names hself hup hlong node hdirectory hlink hnode =>
    cases node with
    | directory => exact (hdirectory rfl).elim
    | link target => exact (hlink target rfl).elim
    | _ =>
      cases hnames : names.isEmpty <;> simp [stretch, hself, hup, hlong, hnode, hnames, hmore, Stretch.andThen]

theorem walk_of_reached {names : List String} {result : Except SystemError Target}
    (h : t.stretch follow here names = .reached result) : t.walk follow links here names = result := by
  unfold walk
  rw [h]

theorem walk_zero_of_link {names left : List String} {place : Place} {target : String}
    (h : t.stretch follow here names = .link place target left) :
    t.walk follow 0 here names = .error .tooManyLinks := by
  unfold walk
  rw [h]

theorem walk_succ_of_link {names left : List String} {place : Place} {target : String}
    (h : t.stretch follow here names = .link place target left) :
    t.walk follow (links + 1) here names =
      t.walk follow links (if Path.isAbsolute target then [] else place) (Path.names target ++ left) := by
  conv_lhs => unfold walk
  rw [h]

theorem walk_append (h : t.walk true links here front = .ok (.entry d .directory)) :
    ∃ left, ∀ follow rest, rest ≠ [] →
      t.walk follow links here (front ++ rest) = t.walk follow left d rest := by
  induction links, here, front using walk.induct t true with
  | case1 links here front result hs =>
    rw [walk_of_reached hs] at h
    refine ⟨links, fun follow rest hrest => ?_⟩
    have hmore := stretch_append t hrest follow here front
    rw [hs, h] at hmore
    unfold walk
    rw [hmore, Stretch.andThen]
  | case2 here front place target left hs =>
    rw [walk_zero_of_link hs] at h
    cases h
  | case3 here front place target left hs links ih =>
    rw [walk_succ_of_link hs] at h
    obtain ⟨budget, hwalk⟩ := ih h
    refine ⟨budget, fun follow rest hrest => ?_⟩
    have hmore := stretch_append t hrest follow here front
    rw [hs] at hmore
    rw [walk_succ_of_link hmore, ← hwalk follow rest hrest, List.append_assoc]

theorem exists_directory_of_walk_append {target : Target} (hrest : rest ≠ [])
    (h : t.walk follow links here (front ++ rest) = .ok target) :
    ∃ d, t.walk true links here front = .ok (.entry d .directory) := by
  induction links, here, front using walk.induct t true with
  | case1 links here front result hs =>
    have hmore := stretch_append t hrest follow here front
    rw [hs] at hmore
    rw [walk_of_reached hs]
    match result with
    | .ok (.entry d .directory) => exact ⟨d, rfl⟩
    | .ok (.free _) | .error _ =>
      rw [walk_of_reached hmore] at h
      cases h
    | .ok (.entry _ (.file _ _)) | .ok (.entry _ (.link _)) | .ok (.entry _ (.device _)) | .ok (.entry _ (.fifo _)) =>
      rw [walk_of_reached hmore] at h
      cases h
  | case2 here front place target left hs =>
    have hmore := stretch_append t hrest follow here front
    rw [hs] at hmore
    rw [walk_zero_of_link hmore] at h
    cases h
  | case3 here front place target left hs links ih =>
    have hmore := stretch_append t hrest follow here front
    rw [hs] at hmore
    rw [walk_succ_of_link hs]
    rw [walk_succ_of_link hmore, ← List.append_assoc] at h
    exact ih h

/-- A name that is looked up in a directory. -/
structure LookedUp (name : String) : Prop where
  notSelf : name ≠ "."
  notUp : name ≠ ".."
  short : ¬maxNameSize < name.utf8ByteSize

theorem walk_eq_free {names : List String} {place : Place}
    (h : t.walk false links here names = .ok (.free place)) :
    ∃ front name d, names = front ++ [name] ∧ place = d ++ [name] ∧ t.node? place = none ∧
      t.walk true links here front = .ok (.entry d .directory) ∧ LookedUp name := by
  obtain rfl | ⟨front, name, rfl⟩ := List.eq_nil_or_concat' names
  · simp [walk, stretch] at h
  · obtain ⟨d, hd⟩ := exists_directory_of_walk_append (by simp) h
    obtain ⟨left, hleft⟩ := walk_append hd
    rw [hleft _ _ (by simp)] at h
    refine ⟨front, name, d, rfl, ?_⟩
    by_cases hself : name = "."
    · simp [walk, stretch, hself] at h
    by_cases hup : name = ".."
    · simp [walk, stretch, hup] at h
    by_cases hlong : maxNameSize < name.utf8ByteSize
    · simp [walk, stretch, hself, hup, hlong] at h
    cases hnode : t.node? (d ++ [name]) with
    | none =>
      simp only [walk, stretch, hself, hup, hlong, hnode, if_false, List.isEmpty_nil, if_true, Except.ok.injEq,
        Target.free.injEq] at h
      exact ⟨h.symm, h ▸ hnode, hd, hself, hup, hlong⟩
    | some node => cases node <;> simp [walk, stretch, hself, hup, hlong, hnode] at h

/-! What the walk needs of the tree -/

/-- All directories and links of the one tree are in the other. -/
structure KeepsWays (t u : FileTree) : Prop where
  directory : ∀ p, t.node? p = some .directory → u.node? p = some .directory
  link : ∀ p target, t.node? p = some (.link target) → u.node? p = some (.link target)

theorem KeepsWays.refl (t : FileTree) : KeepsWays t t := ⟨fun _ h => h, fun _ _ h => h⟩

/-- A place that holds a directory or a link may be on the way to others. -/
def OnWay (t : FileTree) (p : Place) : Prop :=
  t.node? p = some .directory ∨ ∃ target, t.node? p = some (.link target)

theorem OnWay.node?_ne_none {p : Place} (h : t.OnWay p) : t.node? p ≠ none := by
  obtain h | ⟨target, h⟩ := h <;> simp [h]

theorem keepsWays_of_onWay (h : ∀ p, t.OnWay p → u.node? p = t.node? p) : KeepsWays t u :=
  ⟨fun p hp => (h p (.inl hp)).trans hp, fun p target hp => (h p (.inr ⟨target, hp⟩)).trans hp⟩

theorem KeepsWays.node?_eq (h : KeepsWays t u) {p : Place} (hp : t.OnWay p) : u.node? p = t.node? p := by
  obtain hp | ⟨target, hp⟩ := hp
  · rw [h.directory p hp, hp]
  · rw [h.link p target hp, hp]

/-- What is done where no way leads keeps all ways. -/
theorem KeepsWays.of_outside {v : FileTree} (h : KeepsWays t u) {top : Place}
    (hoff : ∀ p, within top p = true → ¬t.OnWay p) (houtside : ∀ p, within top p = false → v.node? p = u.node? p) :
    KeepsWays t v := by
  refine keepsWays_of_onWay fun p hp => ?_
  have hout : within top p = false := Bool.eq_false_iff.mpr fun hwithin => hoff p hwithin hp
  rw [houtside p hout, h.node?_eq hp]

def Stretch.leadsOn : Stretch → Bool
  | reached (.ok (.entry _ .directory)) | link _ _ _ => true
  | reached _ => false

theorem KeepsWays.stretch (h : KeepsWays t u) (here : Place) (names : List String)
    (hway : (t.stretch true here names).leadsOn = true) :
    u.stretch true here names = t.stretch true here names := by
  induction here, names using stretch.induct t true with
  | case1 here => rfl
  | case2 here names ih => 
    simp only [FileTree.stretch] at hway ⊢
    exact ih hway
  | case3 here names _ ih => 
    simp [FileTree.stretch] at hway ⊢
    exact ih hway
  | case4 here name names hself hup hlong => simp [FileTree.stretch, hself, hup, hlong]
  | case5 here name names hself hup hlong hnode =>
    cases hnames : names.isEmpty <;> simp [FileTree.stretch, hself, hup, hlong, hnode, hnames, Stretch.leadsOn] at hway
  | case6 here name names hself hup hlong hnode ih =>
    have hkept := h.directory _ hnode
    simp [FileTree.stretch, hself, hup, hlong, hnode, hkept] at hway ⊢
    exact ih hway
  | case7 here name names hself hup hlong target hnode hlast => simp at hlast
  | case8 here name names hself hup hlong target hnode hlast =>
    have hkept := h.link _ _ hnode
    simp [FileTree.stretch, hself, hup, hlong, hnode, hkept]
  | case9 here name names hself hup hlong node hdirectory hlink hnode =>
    cases node with
    | directory => exact (hdirectory rfl).elim
    | link target => exact (hlink target rfl).elim
    | _ =>
      cases hnames : names.isEmpty <;> simp [FileTree.stretch, hself, hup, hlong, hnode, hnames, Stretch.leadsOn] at hway

theorem KeepsWays.walk (h : KeepsWays t u) {names : List String}
    (hwalk : t.walk true links here names = .ok (.entry d .directory)) :
    u.walk true links here names = .ok (.entry d .directory) := by
  induction links, here, names using walk.induct t true with
  | case1 links here names result hs =>
    rw [walk_of_reached hs] at hwalk
    subst hwalk
    exact walk_of_reached ((h.stretch here names (by rw [hs]; rfl)).trans hs)
  | case2 here names place target left hs =>
    rw [walk_zero_of_link hs] at hwalk
    cases hwalk
  | case3 here names place target left hs links ih =>
    rw [walk_succ_of_link hs] at hwalk
    rw [walk_succ_of_link ((h.stretch here names (by rw [hs]; rfl)).trans hs)]
    exact ih hwalk

theorem Rooted.stretch (h : t.Rooted) (hhere : t.node? here = some .directory) (follow : Bool)
    (names : List String) :
    match t.stretch follow here names with
    | .reached (.ok (.entry place node)) => t.node? place = some node
    | .reached _ => True
    | .link place _ _ => t.node? place = some .directory := by
  have hup (here : Place) (hhere : t.node? here = some .directory) : t.node? here.dropLast = some .directory := by
    obtain rfl | ⟨front, name, rfl⟩ := List.eq_nil_or_concat' here
    · rfl
    · rw [List.dropLast_concat]
      exact h front name (by rw [hhere]; simp)
  fun_induction FileTree.stretch t follow here names with
  | case1 here => exact hhere
  | case2 here names ih => exact ih hhere
  | case3 here names _ ih => exact ih (hup here hhere)
  | case4 => trivial
  | case5 here name names => cases names.isEmpty <;> trivial
  | case6 here name names hself hup hlong hnode ih => exact ih hnode
  | case7 here name names hself hup hlong target hnode hlast => exact hnode
  | case8 => exact hhere
  | case9 here name names hself hup hlong node hdirectory hlink hnode => 
    cases names.isEmpty
    · trivial
    · exact hnode

theorem Rooted.walk (h : t.Rooted) (hhere : t.node? here = some .directory) {names : List String} {place : Place}
    {node : Node} (hwalk : t.walk follow links here names = .ok (.entry place node)) :
    t.node? place = some node := by
  induction links, here, names using walk.induct t follow with
  | case1 links here names result hs =>
    have hstretch := h.stretch hhere follow names
    rw [walk_of_reached hs] at hwalk
    rwa [hs, hwalk] at hstretch
  | case2 here names place target left hs =>
    rw [walk_zero_of_link hs] at hwalk
    cases hwalk
  | case3 here names place target left hs links ih =>
    have hstretch := h.stretch hhere follow names
    rw [hs] at hstretch
    rw [walk_succ_of_link hs] at hwalk
    refine ih ?_ hwalk
    split
    · rfl
    · exact hstretch

/-! From the text of a path -/

/-- Where the names of a path are looked up. -/
def origin (cwd : Place) (path : String) : Place := if Path.isAbsolute path then [] else cwd

structure Nameable (path : String) : Prop where
  nonempty : path ≠ ""
  noNul : '\x00' ∉ path.toList
  short : path.utf8ByteSize ≤ maxPathSize

theorem isDirectoryAt_iff (t : FileTree) (p : Place) : t.isDirectoryAt p = true ↔ t.node? p = some .directory := by
  rw [isDirectoryAt]
  cases t.node? p with
  | none => simp
  | some n => cases n <;> simp [Node.isDirectory]

theorem resolve_eq_ok_iff {cwd : Place} {path : String} {target : Target} :
    t.resolve cwd follow path = .ok target ↔
      Nameable path ∧ t.node? (origin cwd path) = some .directory ∧
        t.walk follow maxLinks (origin cwd path) (Path.names path) = .ok target := by
  have hnameable : Nameable path ↔
      ¬path.isEmpty = true ∧ ¬path.toList.contains '\x00' = true ∧ ¬maxPathSize < path.utf8ByteSize := by
    simp only [String.isEmpty_iff, List.contains_iff_mem, Nat.not_lt]
    exact ⟨fun h => ⟨h.1, h.2, h.3⟩, fun h => ⟨h.1, h.2.1, h.2.2⟩⟩
  rw [hnameable, ← isDirectoryAt_iff, resolve, origin]
  by_cases hempty : path.isEmpty = true
  · rw [if_pos hempty]
    exact ⟨fun h => (nomatch h), fun h => absurd hempty h.1.1⟩
  by_cases hnul : path.toList.contains '\x00' = true
  · rw [if_neg hempty, if_pos hnul]
    exact ⟨fun h => (nomatch h), fun h => absurd hnul h.1.2.1⟩
  by_cases hlong : maxPathSize < path.utf8ByteSize
  · rw [if_neg hempty, if_neg hnul, if_pos hlong]
    exact ⟨fun h => (nomatch h), fun h => absurd hlong h.1.2.2⟩
  rw [if_neg hempty, if_neg hnul, if_neg hlong]
  by_cases habsolute : Path.isAbsolute path = true
  · rw [if_pos habsolute, if_pos habsolute]
    exact ⟨fun h => ⟨⟨hempty, hnul, hlong⟩, rfl, h⟩, fun h => h.2.2⟩
  rw [if_neg habsolute, if_neg habsolute]
  by_cases hcwd : t.isDirectoryAt cwd = true
  · rw [if_pos hcwd]
    exact ⟨fun h => ⟨⟨hempty, hnul, hlong⟩, hcwd, h⟩, fun h => h.2.2⟩
  · rw [if_neg hcwd]
    exact ⟨fun h => (nomatch h), fun h => absurd h.2.1 hcwd⟩

theorem find_eq_ok_iff {cwd : Place} {path : String} {place : Place} {node : Node} :
    t.find cwd follow path = .ok (place, node) ↔ t.resolve cwd follow path = .ok (.entry place node) := by
  rw [find]
  split <;> simp [*]

theorem Rooted.find (h : t.Rooted) {cwd place : Place} {path : String} {node : Node}
    (hfind : t.find cwd follow path = .ok (place, node)) : t.node? place = some node := by
  rw [find_eq_ok_iff, resolve_eq_ok_iff] at hfind
  exact h.walk hfind.2.1 hfind.2.2

theorem KeepsWays.find (h : KeepsWays t u) {cwd place : Place} {path : String}
    (hfind : t.find cwd true path = .ok (place, .directory)) : u.find cwd true path = .ok (place, .directory) := by
  rw [find_eq_ok_iff, resolve_eq_ok_iff] at hfind ⊢
  exact ⟨hfind.1, h.directory _ hfind.2.1, h.walk hfind.2.2⟩

/-! Trees that show the same everywhere -/

section
variable (h : ∀ p, u.node? p = t.node? p)
include h

theorem stretch_congr (follow : Bool) (here : Place) (names : List String) :
    u.stretch follow here names = t.stretch follow here names := by
  induction here, names using stretch.induct t follow with
  | case1 here => rfl
  | case2 here names ih => simpa [stretch] using ih
  | case3 here names _ ih => simpa [stretch] using ih
  | case4 here name names hself hup hlong => simp [stretch, hself, hup, hlong]
  | case5 here name names hself hup hlong hnode => simp [stretch, hself, hup, hlong, h, hnode]
  | case6 here name names hself hup hlong hnode ih => simpa [stretch, hself, hup, hlong, h, hnode] using ih
  | case7 here name names hself hup hlong target hnode hlast => simp [stretch, hself, hup, hlong, h, hnode]
  | case8 here name names hself hup hlong target hnode hlast => simp [stretch, hself, hup, hlong, h, hnode]
  | case9 here name names hself hup hlong node hdirectory hlink hnode =>
    cases node with
    | directory => exact (hdirectory rfl).elim
    | link target => exact (hlink target rfl).elim
    | _ => simp [stretch, hself, hup, hlong, h, hnode]

theorem walk_congr (follow : Bool) (links : Nat) (here : Place) (names : List String) :
    u.walk follow links here names = t.walk follow links here names := by
  induction links generalizing here names with
  | zero => rw [walk, walk, stretch_congr h]
  | succ links ih =>
    rw [walk, walk, stretch_congr h]
    simp only [ih]

theorem find_congr (cwd : Place) (follow : Bool) (path : String) :
    u.find cwd follow path = t.find cwd follow path := by
  have hresolve : u.resolve cwd follow path = t.resolve cwd follow path := by
    rw [resolve, resolve, isDirectoryAt, isDirectoryAt, walk_congr h, walk_congr h, h]
  rw [find, find, hresolve]

end

/-! A name in a directory -/

section
variable {name : String} (hname : LookedUp name)
include hname

theorem walk_of_none (follow : Bool) (links : Nat) (hnode : t.node? (d ++ [name]) = none) :
    t.walk follow links d [name] = .ok (.free (d ++ [name])) :=
  walk_of_reached (by simp [stretch, hname.notSelf, hname.notUp, hname.short, hnode])

theorem walk_cons_of_directory (follow : Bool) (links : Nat) (hnode : t.node? (d ++ [name]) = some .directory) :
    t.walk follow links d (name :: rest) = t.walk follow links (d ++ [name]) rest := by
  have hstretch : t.stretch follow d (name :: rest) = t.stretch follow (d ++ [name]) rest := by
    simp [stretch, hname.notSelf, hname.notUp, hname.short, hnode]
  unfold walk
  rw [hstretch]

end

/-- The names of a base lead to that directory. -/
structure Reaches (t : FileTree) (cwd : Place) (base : String) (d : Place) : Prop where
  origin : t.node? (origin cwd base) = some .directory
  walk : t.walk true maxLinks (FileTree.origin cwd base) (Path.segments base.toList) = .ok (.entry d .directory)

/-- A name joined to a base is looked up in that directory. -/
structure LeadsTo (t : FileTree) (cwd : Place) (base name : String) (d : Place) : Prop where
  plain : Path.Plain name
  nameable : Nameable (Path.join base name)
  lookedUp : LookedUp name
  origin : t.node? (origin cwd base) = some .directory
  walk : t.walk true maxLinks (FileTree.origin cwd base) (Path.segments base.toList) = .ok (.entry d .directory)

section
variable {cwd : Place} {base name : String}

theorem origin_join (hname : Path.Plain name) : origin cwd (Path.join base name) = origin cwd base := by
  rw [origin, Path.isAbsolute_join hname, origin]

theorem leadsTo_of_free (hname : Path.Plain name) {place : Place}
    (h : t.resolve cwd false (Path.join base name) = .ok (.free place)) :
    ∃ d, t.LeadsTo cwd base name d ∧ place = d ++ [name] ∧ t.node? place = none := by
  obtain ⟨hnameable, horigin, hwalk⟩ := resolve_eq_ok_iff.mp h
  rw [origin_join hname] at horigin hwalk
  obtain ⟨front, last, d, hnames, hplace, hnone, hd, hlast⟩ := walk_eq_free hwalk
  rw [Path.names_join hname] at hnames
  obtain ⟨rfl, rfl⟩ := List.append_singleton_inj.mp hnames.symm
  exact ⟨d, ⟨hname, hnameable, hlast, horigin, hd⟩, hplace, hnone⟩

theorem exists_of_isDirectory (hname : Path.Plain name)
    (h : t.isDirectory cwd (Path.join base name) = true) : ∃ d, t.node? (d ++ [name]) ≠ none := by
  rw [isDirectory, check] at h
  split at h
  · next place node hfind =>
    obtain ⟨-, -, hwalk⟩ := resolve_eq_ok_iff.mp (find_eq_ok_iff.mp hfind)
    rw [Path.names_join hname] at hwalk
    obtain ⟨d, hd⟩ := exists_directory_of_walk_append (by simp) hwalk
    obtain ⟨left, hleft⟩ := walk_append hd
    rw [hleft _ _ (by simp)] at hwalk
    refine ⟨d, fun hnode => ?_⟩
    by_cases hshort : maxNameSize < name.utf8ByteSize
    · simp [FileTree.walk, stretch, hname.notSelf, hname.notUp, hshort] at hwalk
    · rw [walk_of_none ⟨hname.notSelf, hname.notUp, hshort⟩ _ _ hnode] at hwalk
      cases hwalk
  · cases h

theorem resolve_of_nameable {path : String} (h : Nameable path)
    (horigin : t.node? (FileTree.origin cwd path) = some .directory) (follow : Bool) :
    t.resolve cwd follow path = t.walk follow maxLinks (FileTree.origin cwd path) (Path.names path) := by
  have hempty : ¬path.isEmpty = true := by simpa using h.nonempty
  have hnul : ¬path.toList.contains '\x00' = true := by simpa using h.noNul
  rw [resolve, if_neg hempty, if_neg hnul, if_neg (Nat.not_lt.mpr h.short)]
  rw [FileTree.origin] at horigin ⊢
  split
  · rfl
  · next habsolute =>
    rw [if_neg habsolute] at horigin
    exact if_pos ((isDirectoryAt_iff t cwd).mpr horigin)

theorem resolve_of_not_nameable {path : String} (hempty : path ≠ "") (h : ¬Nameable path) :
    ∃ e, e ≠ .noEntry ∧ ∀ follow, t.resolve cwd follow path = .error e := by
  have hempty' : ¬path.isEmpty = true := by simpa using hempty
  by_cases hnul : path.toList.contains '\x00' = true
  · exact ⟨.nulInPath, by decide, fun _ => by rw [resolve, if_neg hempty', if_pos hnul]⟩
  by_cases hlong : maxPathSize < path.utf8ByteSize
  · exact ⟨.nameTooLong, by decide, fun _ => by rw [resolve, if_neg hempty', if_neg hnul, if_pos hlong]⟩
  · exact absurd ⟨hempty, by simpa using hnul, Nat.not_lt.mp hlong⟩ h

namespace Reaches

variable (h : t.Reaches cwd base d)
include h

theorem keeps (hways : KeepsWays t u) : u.Reaches cwd base d :=
  ⟨hways.directory _ h.origin, hways.walk h.walk⟩

theorem directory (hroot : t.Rooted) : t.node? d = some .directory := hroot.walk h.origin h.walk

theorem find_base (hbase : Nameable base) : t.find cwd true base = .ok (d, .directory) := by
  rw [find_eq_ok_iff, resolve_eq_ok_iff, Path.names_eq]
  refine ⟨hbase, h.origin, ?_⟩
  split
  · obtain ⟨left, hleft⟩ := walk_append h.walk
    rw [hleft _ _ (by simp)]
    exact walk_of_reached rfl
  · rw [List.append_nil]
    exact h.walk

theorem eq_of_find {place : Place} (hfind : t.find cwd true base = .ok (place, .directory)) : place = d := by
  have hd := h.find_base (resolve_eq_ok_iff.mp (find_eq_ok_iff.mp hfind)).1
  rw [hfind] at hd
  exact congrArg Prod.fst (Except.ok.inj hd)

/-- A plain name is looked up in the directory, or its path cannot be looked up anywhere. -/
theorem leadsTo_or (hname : Path.Plain name) :
    t.LeadsTo cwd base name d ∨
      ∃ e, e ≠ .noEntry ∧ ∀ follow, t.resolve cwd follow (Path.join base name) = .error e := by
  by_cases hnameable : Nameable (Path.join base name)
  · obtain ⟨left, hleft⟩ := walk_append h.walk
    by_cases hshort : maxNameSize < name.utf8ByteSize
    · refine .inr ⟨.nameTooLong, by decide, fun follow => ?_⟩
      rw [resolve_of_nameable hnameable (by rw [origin_join hname]; exact h.origin), origin_join hname,
        Path.names_join hname, hleft _ _ (by simp)]
      exact walk_of_reached (by simp [stretch, hname.notSelf, hname.notUp, hshort])
    · exact .inl ⟨hname, hnameable, ⟨hname.notSelf, hname.notUp, hshort⟩, h.origin, h.walk⟩
  · exact .inr (resolve_of_not_nameable (Path.join_ne_empty hname base) hnameable)

end Reaches

theorem Reaches.leadsTo_of_find (h : t.Reaches cwd base d) (hname : Path.Plain name) {found : Place × Node}
    (hfind : t.find cwd follow (Path.join base name) = .ok found) : t.LeadsTo cwd base name d := by
  obtain hleads | ⟨e, -, herror⟩ := h.leadsTo_or hname
  · exact hleads
  · rw [find, herror] at hfind
    cases hfind

theorem reaches_of_find (hfind : t.find cwd true base = .ok (d, .directory)) : t.Reaches cwd base d := by
  obtain ⟨-, horigin, hwalk⟩ := resolve_eq_ok_iff.mp (find_eq_ok_iff.mp hfind)
  rw [Path.names_eq] at hwalk
  split at hwalk
  · obtain ⟨d', hd'⟩ := exists_directory_of_walk_append (by simp) hwalk
    have hreaches : t.Reaches cwd base d' := ⟨horigin, hd'⟩
    rwa [hreaches.eq_of_find hfind]
  · rw [List.append_nil] at hwalk
    exact ⟨horigin, hwalk⟩

namespace LeadsTo

variable (h : t.LeadsTo cwd base name d)
include h

theorem reaches : t.Reaches cwd base d := ⟨h.origin, h.walk⟩

theorem keeps (hways : KeepsWays t u) : u.LeadsTo cwd base name d :=
  ⟨h.plain, h.nameable, h.lookedUp, hways.directory _ h.origin, hways.walk h.walk⟩

theorem resolve_of_none (follow : Bool) (hnode : t.node? (d ++ [name]) = none) :
    t.resolve cwd follow (Path.join base name) = .ok (.free (d ++ [name])) := by
  obtain ⟨left, hleft⟩ := walk_append h.walk
  rw [resolve_eq_ok_iff, origin_join h.plain, Path.names_join h.plain, hleft _ _ (by simp)]
  exact ⟨h.nameable, h.origin, walk_of_none h.lookedUp _ _ hnode⟩

theorem find_of_directory (follow : Bool) (hnode : t.node? (d ++ [name]) = some .directory) :
    t.find cwd follow (Path.join base name) = .ok (d ++ [name], .directory) := by
  obtain ⟨left, hleft⟩ := walk_append h.walk
  rw [find_eq_ok_iff, resolve_eq_ok_iff, origin_join h.plain, Path.names_join h.plain, hleft _ _ (by simp),
    walk_cons_of_directory h.lookedUp _ _ hnode]
  exact ⟨h.nameable, h.origin, walk_of_reached rfl⟩

theorem find_of_file (follow : Bool) {content : List UInt8} {mode : Nat}
    (hnode : t.node? (d ++ [name]) = some (.file content mode)) :
    t.find cwd follow (Path.join base name) = .ok (d ++ [name], .file content mode) := by
  obtain ⟨left, hleft⟩ := walk_append h.walk
  rw [find_eq_ok_iff, resolve_eq_ok_iff, origin_join h.plain, Path.names_join h.plain, hleft _ _ (by simp)]
  refine ⟨h.nameable, h.origin, walk_of_reached ?_⟩
  simp [stretch, h.lookedUp.notSelf, h.lookedUp.notUp, h.lookedUp.short, hnode]

theorem find_base (hbase : Nameable base) : t.find cwd true base = .ok (d, .directory) :=
  h.reaches.find_base hbase

theorem inside (hnode : t.node? (d ++ [name]) = some .directory) :
    t.Reaches cwd (Path.join base name) (d ++ [name]) := by
  obtain ⟨left, hleft⟩ := walk_append h.walk
  refine ⟨by rw [origin_join h.plain]; exact h.origin, ?_⟩
  rw [origin_join h.plain, Path.segments_join h.plain, hleft _ _ (by simp), walk_cons_of_directory h.lookedUp _ _ hnode]
  exact walk_of_reached rfl

theorem eq_free_of_resolve {file : String} (hfile : Path.Plain file)
    (hnode : t.node? (d ++ [name]) = some .directory) (hfree : t.node? (d ++ [name] ++ [file]) = none)
    {target : Target} (hresolve : t.resolve cwd true (Path.join (Path.join base name) file) = .ok target) :
    target = .free (d ++ [name] ++ [file]) := by
  obtain hleads | ⟨e, -, herror⟩ := (h.inside hnode).leadsTo_or hfile
  · rw [hleads.resolve_of_none true hfree] at hresolve
    exact (Except.ok.inj hresolve).symm
  · rw [herror] at hresolve
    cases hresolve

theorem of_reaches (hreaches : u.Reaches cwd base d) : u.LeadsTo cwd base name d :=
  ⟨h.plain, h.nameable, h.lookedUp, hreaches.origin, hreaches.walk⟩

end LeadsTo
end

/-! Trees from which something is taken away -/

/-- Nothing is there that is not there in the other tree. -/
def PartOf (u t : FileTree) : Prop := ∀ p, u.node? p = t.node? p ∨ u.node? p = none

namespace PartOf

theorem refl (t : FileTree) : PartOf t t := fun _ => .inl rfl

theorem trans {v : FileTree} (h : PartOf v u) (h' : PartOf u t) : PartOf v t := fun p => by
  obtain hp | hp := h p
  · obtain hp' | hp' := h' p
    · exact .inl (hp.trans hp')
    · exact .inr (hp.trans hp')
  · exact .inr hp

theorem node?_eq (h : PartOf u t) {p : Place} (hp : u.node? p ≠ none) : t.node? p = u.node? p :=
  ((h p).resolve_right hp).symm

theorem keepsWays (h : PartOf u t) : KeepsWays u t := keepsWays_of_onWay fun _ hp => h.node?_eq hp.node?_ne_none

theorem onWay (h : PartOf u t) {p : Place} (hp : u.OnWay p) : t.OnWay p := by
  rwa [OnWay, h.node?_eq hp.node?_ne_none]

theorem of_filter (t : FileTree) (keep : Place → Bool) (p : Place) (now : Int) :
    PartOf ((⟨t.entries.filter fun e => keep e.1⟩ : FileTree).stamp p now) t := by
  intro q
  by_cases hq : q = []
  · rw [hq]
    exact .inl rfl
  · have hentry := entry?_filter t keep q
    rw [node?_stamp, node?_of_ne_nil _ hq, node?_of_ne_nil _ hq, hentry]
    cases keep q
    · exact .inr rfl
    · exact .inl rfl

theorem erase (t : FileTree) (now : Int) (p : Place) : PartOf (t.erase now p) t :=
  .of_filter t (fun q => !within p q) _ now

theorem clear (t : FileTree) (now : Int) (p : Place) : PartOf (t.clear now p) t :=
  .of_filter t (fun q => !within p q || decide (q = p)) _ now

end PartOf

/-! What two trees have in common -/

def meet (t u : FileTree) : FileTree := ⟨t.entries.filter fun e => decide (u.node? e.1 = t.node? e.1)⟩

theorem node?_meet (t u : FileTree) (p : Place) :
    (t.meet u).node? p = if u.node? p = t.node? p then t.node? p else none := by
  by_cases hp : p = []
  · rw [hp]
    rfl
  · have hentry := entry?_filter t (fun p => decide (u.node? p = t.node? p)) p
    rw [node?_of_ne_nil _ hp, meet, hentry]
    by_cases hnode : u.node? p = t.node? p
    · simp [hnode, node?_of_ne_nil t hp]
    · simp [hnode]

theorem meet_partOf (t u : FileTree) : PartOf (t.meet u) t := fun p => by
  rw [node?_meet]
  split
  · exact .inl rfl
  · exact .inr rfl

theorem meet_keepsWays (t u : FileTree) : KeepsWays (t.meet u) u := keepsWays_of_onWay fun p hp => by
  have hthere := hp.node?_ne_none
  rw [node?_meet] at hthere ⊢
  split at hthere
  · next heq => rw [if_pos heq, heq]
  · exact absurd rfl hthere

theorem onWay_of_leadsOn {t : FileTree} {name : String} {names : List String} (hself : name ≠ ".") (hup : name ≠ "..")
    (h : (t.stretch true here (name :: names)).leadsOn = true) : t.OnWay (here ++ [name]) := by
  by_cases hlong : maxNameSize < name.utf8ByteSize
  · simp [stretch, hself, hup, hlong, Stretch.leadsOn] at h
  cases hnode : t.node? (here ++ [name]) with
  | none => cases hnames : names.isEmpty <;> simp [stretch, hself, hup, hlong, hnode, hnames, Stretch.leadsOn] at h
  | some node =>
    cases node with
    | directory => exact .inl hnode
    | link target => exact .inr ⟨target, hnode⟩
    | _ => cases hnames : names.isEmpty <;> simp [stretch, hself, hup, hlong, hnode, hnames, Stretch.leadsOn] at h

section
variable {v : FileTree} (ht : KeepsWays t v) (hu : KeepsWays u v)
include ht hu

theorem node?_meet_of_onWay {p : Place} (hp : t.OnWay p) (hp' : u.OnWay p) : (t.meet u).node? p = t.node? p := by
  rw [node?_meet, if_pos ((hu.node?_eq hp').symm.trans (ht.node?_eq hp))]

/-- A way that leads on in two parts of a tree is the same in both, and in what they have in common. -/
theorem stretch_meet (here : Place) (names : List String) (hway : (t.stretch true here names).leadsOn = true)
    (hway' : (u.stretch true here names).leadsOn = true) :
    u.stretch true here names = t.stretch true here names ∧
      (t.meet u).stretch true here names = t.stretch true here names := by
  have hboth {p : Place} (hp : t.OnWay p) (hp' : u.OnWay p) :
      u.node? p = t.node? p ∧ (t.meet u).node? p = t.node? p :=
    ⟨(hu.node?_eq hp').symm.trans (ht.node?_eq hp), node?_meet_of_onWay ht hu hp hp'⟩
  induction here, names using stretch.induct t true with
  | case1 here => exact ⟨rfl, rfl⟩
  | case2 here names ih =>
    simp only [stretch] at hway hway' ⊢
    exact ih hway hway'
  | case3 here names _ ih =>
    simp [stretch] at hway hway' ⊢
    exact ih hway hway'
  | case4 here name names hself hup hlong => simp [stretch, hself, hup, hlong]
  | case5 here name names hself hup hlong hnode =>
    cases hnames : names.isEmpty <;> simp [stretch, hself, hup, hlong, hnode, hnames, Stretch.leadsOn] at hway
  | case6 here name names hself hup hlong hnode ih =>
    obtain ⟨hother, hmeet⟩ := hboth (.inl hnode) (onWay_of_leadsOn hself hup hway')
    rw [hnode] at hother hmeet
    simp [stretch, hself, hup, hlong, hnode, hother, hmeet] at hway hway' ⊢
    exact ih hway hway'
  | case7 here name names hself hup hlong target hnode hlast => simp at hlast
  | case8 here name names hself hup hlong target hnode hlast =>
    obtain ⟨hother, hmeet⟩ := hboth (.inr ⟨target, hnode⟩) (onWay_of_leadsOn hself hup hway')
    rw [hnode] at hother hmeet
    simp [stretch, hself, hup, hlong, hnode, hother, hmeet]
  | case9 here name names hself hup hlong node hdirectory hlink hnode =>
    cases node with
    | directory => exact (hdirectory rfl).elim
    | link target => exact (hlink target rfl).elim
    | _ =>
      cases hnames : names.isEmpty <;> simp [stretch, hself, hup, hlong, hnode, hnames, Stretch.leadsOn] at hway

theorem walk_meet {e : Place} {names : List String} (hwalk : t.walk true links here names = .ok (.entry d .directory))
    (hwalk' : u.walk true links here names = .ok (.entry e .directory)) :
    (t.meet u).walk true links here names = .ok (.entry d .directory) := by
  have hleads {w : FileTree} {links : Nat} {here c : Place} {names : List String}
      (h : w.walk true links here names = .ok (.entry c .directory)) : (w.stretch true here names).leadsOn = true := by
    unfold walk at h
    split at h
    · next hs => rw [hs, h]; rfl
    · next hs => rw [hs]; rfl
  induction links, here, names using walk.induct t true with
  | case1 links here names result hs =>
    obtain ⟨-, hmeet⟩ := stretch_meet ht hu here names (hleads hwalk) (hleads hwalk')
    rw [walk_of_reached hs] at hwalk
    subst hwalk
    exact walk_of_reached (hmeet.trans hs)
  | case2 here names place target left hs =>
    rw [walk_zero_of_link hs] at hwalk
    cases hwalk
  | case3 here names place target left hs links ih =>
    obtain ⟨hother, hmeet⟩ := stretch_meet ht hu here names (hleads hwalk) (hleads hwalk')
    rw [walk_succ_of_link hs] at hwalk
    rw [walk_succ_of_link (hother.trans hs)] at hwalk'
    rw [walk_succ_of_link (hmeet.trans hs)]
    exact ih hwalk hwalk'

theorem Reaches.meet {cwd e : Place} {base : String} (h : t.Reaches cwd base d) (h' : u.Reaches cwd base e) :
    (t.meet u).Reaches cwd base d where
  origin := (node?_meet_of_onWay ht hu (.inl h.origin) (.inl h'.origin)).trans h.origin
  walk := walk_meet ht hu h.walk h'.walk

end

/-! Trees whose names are those of a path -/

/-- Every entry bears a name that a directory can hold. -/
def PlainlyNamed (t : FileTree) : Prop := ∀ p name, t.node? (p ++ [name]) ≠ none → Path.Plain name

theorem forall_named_of_entries {t : FileTree} {P : String → Prop}
    (h : ∀ e ∈ t.entries, ∀ name, e.1.getLast? = some name → P name) (p : Place) (name : String)
    (hn : t.node? (p ++ [name]) ≠ none) : P name := by
  rw [Ne, node?_eq_none_iff t (by simp)] at hn
  push Not at hn
  obtain ⟨e, he, hplace⟩ := hn
  exact h e he name (by rw [hplace, List.getLast?_concat])

theorem plainlyNamed_of_entries {t : FileTree}
    (h : ∀ e ∈ t.entries, ∀ name, e.1.getLast? = some name → Path.Plain name) : t.PlainlyNamed :=
  forall_named_of_entries h

theorem PlainlyNamed.partOf (h : t.PlainlyNamed) (hpart : PartOf u t) : u.PlainlyNamed :=
  fun p name hn => h p name (by rwa [hpart.node?_eq hn])

end SnippetLab.FileTree
