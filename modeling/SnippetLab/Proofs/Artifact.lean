import SnippetLab.Artifact
import SnippetLab.Process.Child
import SnippetLab.Proofs.Cleanup
import SnippetLab.Proofs.Text.Search

/-!
When a compilation counts, and which file is the program. One of the conventional names is taken before any other, and
there links are followed; among the other names only those of files themselves count, and the least of them is taken.
-/
namespace SnippetLab

open SnippetLab.Text

namespace Artifact

variable {t u : FileTree} {cwd : Place} {directory base source : String}

/-! ### When a compilation counts -/

def Produced (t : FileTree) (cwd : Place) (directory base : String) : Prop :=
  ∃ name ∈ candidateNames base, t.isFile cwd (Path.join directory name) = true

theorem isSome_probe_iff : (probe t cwd directory base).isSome = true ↔ Produced t cwd directory base := by
  simp [probe, Produced, List.find?_isSome]

theorem probe_eq_none_iff : probe t cwd directory base = none ↔ ¬Produced t cwd directory base := by
  rw [← isSome_probe_iff, Bool.not_eq_true, Option.isSome_eq_false_iff, Option.isNone_iff_eq_none]

theorem not_produced_of_locate_eq_none (h : locate t cwd directory base source = none) :
    ¬Produced t cwd directory base :=
  probe_eq_none_iff.mp (Option.or_eq_none_iff.mp h).1

theorem contains_trimmed_successMarker (output : String) :
    contains (trimmed output) successMarker = contains output successMarker := by
  rw [contains, trimmed, String.toList_ofList]
  exact occursIn_trim ⟨'Б', by decide, by decide⟩ ⟨'к', by decide, by decide⟩ output.toList

theorem compilationSucceeded_iff {status : ExitStatus} {output : String} {present : Bool} :
    compilationSucceeded (status.code?.map (↑·)) (trimmed output) present = true ↔
      status = .code 0 ∧ (contains output successMarker = true ∨ present = true) := by
  rw [compilationSucceeded, contains_trimmed_successMarker]
  cases status with
  | code n => simp [ExitStatus.code?]
  | signal n => simp [ExitStatus.code?]

/-! ### The least name -/

theorem pairwise_mergeSort_le (names : List String) :
    (names.mergeSort fun a b => decide (a ≤ b)).Pairwise (· ≤ ·) := by
  have hsorted : (names.mergeSort fun a b => decide (a ≤ b)).Pairwise fun a b => decide (a ≤ b) = true := by
    refine List.pairwise_mergeSort (fun a b c hab hbc => ?_) (fun a b => ?_) names
    · exact decide_eq_true (String.le_trans (of_decide_eq_true hab) (of_decide_eq_true hbc))
    · simpa using String.le_total a b
  simpa using hsorted

theorem least_of_find?_mergeSort {p : String → Bool} {names : List String} {name : String}
    (h : (names.mergeSort fun a b => decide (a ≤ b)).find? p = some name) :
    name ∈ names ∧ p name = true ∧ ∀ other ∈ names, p other = true → name ≤ other := by
  refine ⟨List.mem_mergeSort.mp (List.mem_of_find?_eq_some h), List.find?_some h, fun other hother hp => ?_⟩
  obtain ⟨-, before, after, hsplit, hbefore⟩ := List.find?_eq_some_iff_append.mp h
  have hmem : other ∈ before ++ name :: after := hsplit ▸ List.mem_mergeSort.mpr hother
  rw [List.mem_append, List.mem_cons] at hmem
  obtain hmem | rfl | hmem := hmem
  · have hnot := hbefore other hmem
    rw [hp] at hnot
    cases hnot
  · exact String.le_refl _
  · have hsorted := pairwise_mergeSort_le names
    rw [hsplit, List.pairwise_append, List.pairwise_cons] at hsorted
    exact hsorted.2.1.1 other hmem

theorem find?_mergeSort_eq_some_iff {p : String → Bool} {names : List String} {name : String} :
    (names.mergeSort fun a b => decide (a ≤ b)).find? p = some name ↔
      name ∈ names ∧ p name = true ∧ ∀ other ∈ names, p other = true → name ≤ other := by
  refine ⟨least_of_find?_mergeSort, fun ⟨hmem, hp, hbelow⟩ => ?_⟩
  cases hfound : (names.mergeSort fun a b => decide (a ≤ b)).find? p with
  | none => exact absurd hp (List.find?_eq_none.mp hfound name (List.mem_mergeSort.mpr hmem))
  | some first =>
    obtain ⟨hfirst, hpfirst, hbelowFirst⟩ := least_of_find?_mergeSort hfound
    rw [String.le_antisymm (hbelowFirst name hmem hp) (hbelow first hfirst hpfirst)]

/-- A name of the directory that could be the program: it stands for a file itself, which someone may run. -/
def Eligible (t : FileTree) (cwd : Place) (directory source name : String) : Prop :=
  isPlausible source name = true ∧ ∃ d, t.find cwd true directory = .ok (d, .directory) ∧
    ∃ content mode, t.node? (d ++ [name]) = some (.file content mode) ∧ mode &&& 0o111 ≠ 0

theorem scan_of_find {d : Place} (h : t.find cwd true directory = .ok (d, .directory)) :
    scan t cwd directory source =
      (((t.children d).mergeSort fun a b => decide (a ≤ b)).find? fun name =>
        isPlausible source name && (t.node? (d ++ [name])).any Node.isRunnable).map (Path.join directory) := by
  simp only [scan, names, FileTree.listDirectory, h]

theorem scan_of_not_find (h : ∀ d, t.find cwd true directory ≠ .ok (d, .directory)) :
    scan t cwd directory source = none := by
  unfold scan
  split
  · rfl
  · next place listed hlisted => exact absurd (FileTree.listDirectory_eq_ok_iff.mp hlisted).1 (h place)

theorem any_isRunnable_iff {node : Option Node} :
    node.any Node.isRunnable = true ↔ ∃ content mode, node = some (.file content mode) ∧ mode &&& 0o111 ≠ 0 := by
  rcases node with _ | (_ | _ | _ | _ | _) <;> simp [Node.isRunnable]

theorem eligible_iff {d : Place} (h : t.find cwd true directory = .ok (d, .directory)) {name : String} :
    Eligible t cwd directory source name ↔
      name ∈ t.children d ∧ (isPlausible source name && (t.node? (d ++ [name])).any Node.isRunnable) = true := by
  rw [Bool.and_eq_true, any_isRunnable_iff, FileTree.mem_children]
  constructor
  · rintro ⟨hfits, d', hfind, content, mode, hnode, hmode⟩
    rw [h] at hfind
    cases hfind
    exact ⟨by simp [hnode], hfits, content, mode, hnode, hmode⟩
  · rintro ⟨-, hfits, hrunnable⟩
    exact ⟨hfits, d, h, hrunnable⟩

theorem scan_eq_some_iff {path : String} :
    scan t cwd directory source = some path ↔
      ∃ name, Eligible t cwd directory source name ∧
        (∀ other, Eligible t cwd directory source other → name ≤ other) ∧ path = Path.join directory name := by
  by_cases h : ∃ d, t.find cwd true directory = .ok (d, .directory)
  · obtain ⟨d, hd⟩ := h
    rw [scan_of_find hd, Option.map_eq_some_iff]
    simp only [find?_mergeSort_eq_some_iff, eligible_iff hd, and_imp, and_assoc, @eq_comm _ path]
  · refine iff_of_false ?_ ?_
    · rw [scan_of_not_find fun d hd => h ⟨d, hd⟩]
      exact fun hnone => nomatch hnone
    · rintro ⟨name, ⟨-, d, hd, -⟩, -⟩
      exact h ⟨d, hd⟩

theorem scan_eq_none_iff : scan t cwd directory source = none ↔ ∀ name, ¬Eligible t cwd directory source name := by
  by_cases h : ∃ d, t.find cwd true directory = .ok (d, .directory)
  · obtain ⟨d, hd⟩ := h
    simp only [scan_of_find hd, Option.map_eq_none_iff, List.find?_eq_none, List.mem_mergeSort, eligible_iff hd,
      not_and]
  · refine iff_of_true (scan_of_not_find fun d hd => h ⟨d, hd⟩) ?_
    rintro name ⟨-, d, hd, -⟩
    exact h ⟨d, hd⟩

/-! ### Which file is the program -/

inductive Chosen (t : FileTree) (cwd : Place) (directory base source : String) : Option String → Prop
  | conventional {front back : List String} {name : String} (names : candidateNames base = front ++ name :: back)
      (file : t.isFile cwd (Path.join directory name) = true)
      (first : ∀ other ∈ front, t.isFile cwd (Path.join directory other) = false) :
      Chosen t cwd directory base source (some (Path.join directory name))
  | scanned {name : String} (none : ¬Produced t cwd directory base) (eligible : Eligible t cwd directory source name)
      (least : ∀ other, Eligible t cwd directory source other → name ≤ other) :
      Chosen t cwd directory base source (some (Path.join directory name))
  | nothing (none : ¬Produced t cwd directory base) (ineligible : ∀ name, ¬Eligible t cwd directory source name) :
      Chosen t cwd directory base source Option.none

theorem probe_eq_some_iff {path : String} :
    probe t cwd directory base = some path ↔
      ∃ front name back, candidateNames base = front ++ name :: back ∧
        t.isFile cwd (Path.join directory name) = true ∧
        (∀ other ∈ front, t.isFile cwd (Path.join directory other) = false) ∧ path = Path.join directory name := by
  rw [probe, List.find?_map, Option.map_eq_some_iff]
  simp only [List.find?_eq_some_iff_append, Function.comp_apply, Bool.not_eq_true']
  constructor
  · rintro ⟨name, ⟨hfile, front, back, hnames, hfirst⟩, rfl⟩
    exact ⟨front, name, back, hnames, hfile, hfirst, rfl⟩
  · rintro ⟨front, name, back, hnames, hfile, hfirst, rfl⟩
    exact ⟨name, ⟨hfile, front, back, hnames, hfirst⟩, rfl⟩

theorem chosen_locate (t : FileTree) (cwd : Place) (directory base source : String) :
    Chosen t cwd directory base source (locate t cwd directory base source) := by
  cases hprobe : probe t cwd directory base with
  | some path =>
    obtain ⟨front, name, back, hnames, hfile, hfirst, rfl⟩ := probe_eq_some_iff.mp hprobe
    rw [locate, hprobe, Option.some_or]
    exact .conventional hnames hfile hfirst
  | none =>
    have hnone := probe_eq_none_iff.mp hprobe
    rw [locate, hprobe, Option.none_or]
    cases hscan : scan t cwd directory source with
    | some path =>
      obtain ⟨name, heligible, hleast, rfl⟩ := scan_eq_some_iff.mp hscan
      exact .scanned hnone heligible hleast
    | none => exact .nothing hnone (scan_eq_none_iff.mp hscan)

theorem locate_eq_some_or_none_iff {o : Option String} :
    locate t cwd directory base source = o ↔ Chosen t cwd directory base source o := by
  refine ⟨fun h => h ▸ chosen_locate .., fun h => ?_⟩
  unfold locate
  cases h with
  | conventional hnames hfile hfirst =>
    rw [probe_eq_some_iff.mpr ⟨_, _, _, hnames, hfile, hfirst, rfl⟩, Option.some_or]
  | scanned hnone heligible hleast =>
    rw [probe_eq_none_iff.mpr hnone, scan_eq_some_iff.mpr ⟨_, heligible, hleast, rfl⟩, Option.none_or]
  | nothing hnone hineligible =>
    rw [probe_eq_none_iff.mpr hnone, scan_eq_none_iff.mpr hineligible, Option.none_or]

/-! ### What is never chosen -/

theorem not_exe_of_source {name : List Char} (h : sourceExtension.toList <:+ name) : ¬".exe".toList <:+ name := by
  intro hexe
  have heq := (List.suffix_of_suffix_length_le hexe h (by decide)).eq_of_length (by decide)
  exact absurd heq (by decide)

theorem isPlausible_of_source {name : String} (h : sourceExtension.toList <:+ name.toList) :
    isPlausible source name = false := by
  have hdot : contains name "." = true := by
    rw [contains, occursIn_iff]
    exact (show ".".toList <:+: sourceExtension.toList by decide).trans h.isInfix
  have hend : endsWith name ".exe" = false := by
    rw [endsWith, Bool.eq_false_iff, Ne, List.isSuffixOf_iff_suffix]
    exact not_exe_of_source h
  simp [isPlausible, hdot, hend]

theorem source_of_join_eq {name : String}
    (h : Path.join directory name = Path.join directory (base ++ sourceExtension)) :
    sourceExtension.toList <:+ name.toList := by
  have hjoin : sourceExtension.toList <:+ (Path.join directory name).toList := by
    rw [h]
    refine List.IsSuffix.trans ?_ (Path.suffix_join directory (base ++ sourceExtension))
    rw [String.toList_append]
    exact List.suffix_append _ _
  exact Path.suffix_of_suffix_join (by decide) hjoin

theorem join_ne_of_candidate {name : String} (h : name ∈ candidateNames base) (directory : String) :
    Path.join directory name ≠ Path.join directory (base ++ sourceExtension) := by
  intro heq
  have hsource := source_of_join_eq heq
  simp only [candidateNames, List.mem_cons, List.not_mem_nil, or_false] at h
  obtain rfl | rfl | rfl | rfl | rfl := h
  · -- the base itself may bear the extension, but not once more
    rw [Path.join_append directory name (by decide)] at heq
    have hlength := congrArg String.length heq
    rw [String.length_append] at hlength
    have hsome : 0 < sourceExtension.length := by decide
    omega
  · refine not_exe_of_source hsource ?_
    rw [String.toList_append]
    exact List.suffix_append _ _
  · exact absurd hsource (by decide)
  · exact absurd hsource (by decide)
  · exact absurd hsource (by decide)

theorem join_ne_of_isPlausible {name : String} (h : isPlausible source name = true) (directory base : String) :
    Path.join directory name ≠ Path.join directory (base ++ sourceExtension) := by
  intro heq
  rw [isPlausible_of_source (source_of_join_eq heq)] at h
  cases h

theorem Chosen.ne_source {path : String} (h : Chosen t cwd directory base source (some path)) :
    path ≠ Path.join directory (base ++ sourceExtension) := by
  cases h with
  | conventional hnames => exact join_ne_of_candidate (by simp [hnames]) directory
  | scanned _ heligible => exact join_ne_of_isPlausible heligible.1 directory base

theorem isDirectory_of_isFile {path : String} (h : t.isFile cwd path = true) : t.isDirectory cwd path = false := by
  unfold FileTree.isFile FileTree.check at h
  unfold FileTree.isDirectory FileTree.check
  split
  · next node hfind =>
    rw [hfind] at h
    cases node <;> first | rfl | cases h
  · rfl

/-- Its path leads to the file or, when it is too long, nowhere. -/
theorem Eligible.isDirectory (hplain : t.PlainlyNamed) {name : String}
    (h : Eligible t cwd directory source name) : t.isDirectory cwd (Path.join directory name) = false := by
  obtain ⟨-, d, hfind, content, mode, hnode, -⟩ := h
  obtain hleads | ⟨e, -, herror⟩ := (FileTree.reaches_of_find hfind).leadsTo_or (hplain d name (by simp [hnode]))
  · rw [FileTree.isDirectory, FileTree.check, hleads.find_of_file true hnode]
    rfl
  · rw [FileTree.isDirectory, FileTree.check, FileTree.find, herror]

theorem Chosen.isDirectory (hplain : t.PlainlyNamed) {path : String}
    (h : Chosen t cwd directory base source (some path)) : t.isDirectory cwd path = false := by
  cases h with
  | conventional _ hfile => exact isDirectory_of_isFile hfile
  | scanned _ heligible => exact heligible.isDirectory hplain

/-! ### What the choice depends on -/

section
variable (h : ∀ p, u.node? p = t.node? p)
include h

theorem produced_congr : Produced u cwd directory base ↔ Produced t cwd directory base := by
  simp only [Produced, FileTree.isFile, FileTree.check, FileTree.find_congr h]

theorem eligible_congr (name : String) :
    Eligible u cwd directory source name ↔ Eligible t cwd directory source name := by
  simp only [Eligible, FileTree.find_congr h, h]

theorem Chosen.congr {o : Option String} (hchosen : Chosen t cwd directory base source o) :
    Chosen u cwd directory base source o := by
  have hfile (path : String) : u.isFile cwd path = t.isFile cwd path := by
    simp only [FileTree.isFile, FileTree.check, FileTree.find_congr h]
  cases hchosen with
  | conventional hnames hfound hfirst =>
    exact .conventional hnames ((hfile _).trans hfound) fun other hother => (hfile _).trans (hfirst other hother)
  | scanned hnone heligible hleast =>
    refine .scanned (mt (produced_congr h).mp hnone) ((eligible_congr h _).mpr heligible) fun other hother => ?_
    exact hleast other ((eligible_congr h other).mp hother)
  | nothing hnone hineligible =>
    exact .nothing (mt (produced_congr h).mp hnone) fun name => mt (eligible_congr h name).mp (hineligible name)

/-- Two trees that show the same may list it in different orders. -/
theorem locate_congr : locate u cwd directory base source = locate t cwd directory base source :=
  locate_eq_some_or_none_iff.mpr ((chosen_locate t cwd directory base source).congr h)

end

/-- **Finding the program.** Of the conventional names the first that stands for a file is taken, else the least of
the plausible names that files bear which someone may run, else nothing. Neither the source nor a directory is taken,
and the order in which the names of the directory are listed does not matter. -/
theorem located_in_order (t : FileTree) (cwd : Place) (directory base : String) :
    let source := base ++ sourceExtension
    (∀ o, locate t cwd directory base source = o ↔ Chosen t cwd directory base source o) ∧
    (∀ path, locate t cwd directory base source = some path →
      path ≠ Path.join directory source ∧ (t.PlainlyNamed → t.isDirectory cwd path = false)) ∧
    ∀ u : FileTree, (∀ p, u.node? p = t.node? p) →
      locate u cwd directory base source = locate t cwd directory base source := by
  intro source
  refine ⟨fun o => locate_eq_some_or_none_iff, fun path hpath => ?_, fun u h => locate_congr h⟩
  have hchosen := locate_eq_some_or_none_iff.mp hpath
  exact ⟨hchosen.ne_source, fun hplain => hchosen.isDirectory hplain⟩

/-- A directory with a source, two programs, a file that nobody may run and a link to a program. -/
def crowded : FileTree :=
  ⟨[(["w"], .directory, 0), (["w", "p.tri"], .file [] 0o755, 0), (["w", "zeta"], .file [] 0o755, 0),
    (["w", "beta"], .file [] 0o711, 0), (["w", "alpha"], .file [] 0o644, 0), (["w", "aim"], .link "zeta", 0)]⟩

theorem located_in_order_crowded :
    locate crowded [] "/w" "p" ("p" ++ sourceExtension) = some "/w/beta" ∧
      "/w/beta" ≠ Path.join "/w" ("p" ++ sourceExtension) ∧ crowded.isDirectory [] "/w/beta" = false ∧
      locate ⟨crowded.entries.reverse⟩ [] "/w" "p" ("p" ++ sourceExtension) = some "/w/beta" := by
  obtain ⟨hchosen, hnever, hsame⟩ := located_in_order crowded [] "/w" "p"
  have hfind : crowded.find [] true "/w" = .ok (["w"], .directory) := by decide +kernel
  have hnone : ¬Produced crowded [] "/w" "p" := by
    rw [← probe_eq_none_iff]
    decide +kernel
  have hbeta : Eligible crowded [] "/w" "p.tri" "beta" := (eligible_iff hfind).mpr (by decide +kernel)
  have hleast : ∀ other, Eligible crowded [] "/w" "p.tri" other → "beta" ≤ other := by
    have hlisted : ∀ other ∈ crowded.children ["w"],
        (isPlausible "p.tri" other && (crowded.node? (["w"] ++ [other])).any Node.isRunnable) = true →
          "beta" ≤ other := by decide +kernel
    intro other hother
    obtain ⟨hmem, hfits⟩ := (eligible_iff hfind).mp hother
    exact hlisted other hmem hfits
  have hlocate : locate crowded [] "/w" "p" ("p" ++ sourceExtension) = some "/w/beta" :=
    (hchosen _).mpr (.scanned hnone hbeta hleast)
  have hplain : crowded.PlainlyNamed := FileTree.plainlyNamed_of_entries fun e he name hname => by
    simp only [crowded, List.mem_cons, List.not_mem_nil, or_false] at he
    obtain rfl | rfl | rfl | rfl | rfl | rfl := he <;>
      (cases hname; exact ⟨by decide, by decide, by decide, by decide⟩)
  have hreversed := hsame ⟨crowded.entries.reverse⟩ (FileTree.node?_of_perm (List.reverse_perm _) (by decide))
  exact ⟨hlocate, (hnever _ hlocate).1, (hnever _ hlocate).2 hplain, hreversed.trans hlocate⟩

end Artifact
end SnippetLab
