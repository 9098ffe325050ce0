import SnippetLab.Path
import SnippetLab.Proofs.Text.Search
import Mathlib.Data.List.DropRight

/-! What becomes of the names in a path when a name is joined to it or its last one is taken away. -/
namespace SnippetLab.Path

/-- The names between slashes, without the dot that stands for a slash at the end. -/
def segments (cs : List Char) : List String := (cs.splitOn '/').map String.ofList |>.filter (· ≠ "")

theorem names_eq (path : String) :
    names path = segments path.toList ++ if endsInSlash path then ["."] else [] := rfl

@[simp] theorem segments_nil : segments [] = [] := rfl

theorem segments_append_slash (cs ds : List Char) : segments (cs ++ '/' :: ds) = segments cs ++ segments ds := by
  rw [segments, List.splitOn_append_cons_self, List.map_append, List.filter_append]
  rfl

theorem segments_of_not_mem {name : String} (hslash : '/' ∉ name.toList) (hname : name ≠ "") :
    segments name.toList = [name] := by
  rw [segments, List.splitOn_eq_singleton hslash, List.map_singleton, String.ofList_toList,
    List.filter_singleton]
  simp [hname]

theorem of_mem_segments {name : String} {cs : List Char} (h : name ∈ segments cs) :
    '/' ∉ name.toList ∧ name ≠ "" := by
  obtain ⟨hmem, hne⟩ := List.mem_filter.mp h
  obtain ⟨piece, hpiece, rfl⟩ := List.mem_map.mp hmem
  rw [String.toList_ofList]
  exact ⟨Text.not_mem_of_mem_splitOn hpiece, by simpa using hne⟩

theorem segments_rdropWhile (cs : List Char) : segments (cs.rdropWhile (· = '/')) = segments cs := by
  induction cs using List.reverseRecOn with
  | nil => rfl
  | append_singleton cs c ih =>
    by_cases hc : c = '/'
    · rw [List.rdropWhile_concat_pos _ _ _ (by simpa using hc), ih, hc, segments_append_slash, segments_nil,
        List.append_nil]
    · rw [List.rdropWhile_concat_neg _ _ _ (by simpa using hc)]

theorem withoutSlash_eq (path : String) :
    withoutSlash path =
      if (path.toList.rdropWhile (· = '/')).isEmpty && isAbsolute path then "/"
      else String.ofList (path.toList.rdropWhile (· = '/')) := rfl

theorem segments_withoutSlash (path : String) :
    segments (withoutSlash path).toList = segments path.toList := by
  rw [← segments_rdropWhile path.toList, withoutSlash_eq]
  split
  · next h =>
    rw [Bool.and_eq_true, List.isEmpty_iff] at h
    rw [h.1]
    rfl
  · rw [String.toList_ofList]

theorem mem_names {name path : String} (h : name ∈ names path) : name ∈ segments path.toList ∨ name = "." := by
  rw [names_eq, List.mem_append] at h
  refine h.imp_right fun h => ?_
  split at h <;> simp_all

theorem infix_of_fileName? {path name : String} (h : fileName? path = some name) :
    name.toList <:+: path.toList := by
  have hlast : ((names path).filter (· ≠ ".")).getLast? = some name := by
    unfold fileName? at h
    split at h
    · cases h
    · cases h
    · next hlast => rwa [← h]
  obtain ⟨hmem, hdot⟩ := List.mem_filter.mp (List.mem_of_getLast? hlast)
  obtain hmem | rfl := mem_names hmem
  · obtain ⟨piece, hpiece, rfl⟩ := List.mem_map.mp (List.mem_filter.mp hmem).1
    rw [String.toList_ofList]
    exact Text.infix_of_mem_splitOn hpiece
  · cases (decide_eq_true_iff.mp hdot) rfl

/-- It names an entry of a directory. -/
structure Plain (name : String) : Prop where
  noSlash : '/' ∉ name.toList
  nonempty : name ≠ ""
  notSelf : name ≠ "."
  notUp : name ≠ ".."

section
variable {base name : String}

theorem join_cases (h : Plain name) (base : String) :
    base = "" ∧ join base name = name ∨
    ∃ front, (join base name).toList = front ++ '/' :: name.toList ∧ base ≠ "" ∧
      (base.toList = front ++ ['/'] ∨ base.toList = front) := by
  have habsolute : isAbsolute name = false := by
    rw [isAbsolute, Bool.eq_false_iff]
    intro hhead
    rw [beq_iff_eq] at hhead
    exact h.noSlash (List.mem_of_head? hhead)
  unfold join
  by_cases hbase : base = ""
  · exact .inl ⟨hbase, by simp [hbase]⟩
  · rw [habsolute, if_neg (by simpa using hbase)]
    refine .inr ?_
    split
    · next hslash =>
      obtain ⟨front, hfront⟩ := List.getLast?_eq_some_iff.mp (beq_iff_eq.mp hslash)
      exact ⟨front, by simp [hfront], hbase, .inl hfront⟩
    · exact ⟨base.toList, by simp, hbase, .inr rfl⟩

theorem segments_join (h : Plain name) (base : String) :
    segments (join base name).toList = segments base.toList ++ [name] := by
  have hname := segments_of_not_mem h.noSlash h.nonempty
  obtain ⟨hbase, hjoin⟩ | ⟨front, hjoin, -, hbase | hbase⟩ := join_cases h base
  · rw [hjoin, hbase, hname]
    rfl
  · rw [hjoin, hbase, segments_append_slash, segments_append_slash, hname, segments_nil, List.append_nil]
  · rw [hjoin, hbase, segments_append_slash, hname]

theorem getLast?_join (h : Plain name) (base : String) :
    (join base name).toList.getLast? = name.toList.getLast? := by
  have hne : name.toList ≠ [] := by simpa using h.nonempty
  obtain ⟨-, hjoin⟩ | ⟨front, hjoin, -⟩ := join_cases h base
  · rw [hjoin]
  · rw [hjoin, List.getLast?_append_of_ne_nil _ (by simp), List.getLast?_cons_of_ne_nil hne]

theorem endsInSlash_join (h : Plain name) (base : String) : endsInSlash (join base name) = false := by
  rw [endsInSlash, getLast?_join h, Bool.eq_false_iff]
  intro hlast
  exact h.noSlash (List.mem_of_getLast? (beq_iff_eq.mp hlast))

theorem names_join (h : Plain name) (base : String) :
    names (join base name) = segments base.toList ++ [name] := by
  rw [names_eq, segments_join h, endsInSlash_join h]
  exact List.append_nil _

theorem eq_of_join_eq {name' : String} (h : Plain name) (h' : Plain name') (heq : join base name = join base name') :
    name = name' := by
  have hnames := congrArg names heq
  rw [names_join h, names_join h'] at hnames
  exact (List.append_singleton_inj.mp hnames).2

theorem isAbsolute_join (h : Plain name) (base : String) : isAbsolute (join base name) = isAbsolute base := by
  unfold isAbsolute
  obtain ⟨hbase, hjoin⟩ | ⟨front, hjoin, hne, hbase | hbase⟩ := join_cases h base
  · rw [hjoin, hbase, Bool.eq_iff_iff, beq_iff_eq]
    exact ⟨fun hhead => absurd (List.mem_of_head? hhead) h.noSlash, fun hhead => nomatch hhead⟩
  · rw [hjoin, hbase]
    cases front <;> rfl
  · rw [hjoin, hbase]
    cases front with
    | nil => exact absurd (by simpa using hbase) hne
    | cons c front => rfl

theorem withoutSlash_of_endsInSlash_eq_false {path : String} (h : endsInSlash path = false) :
    withoutSlash path = path := by
  have hkept : path.toList.rdropWhile (· = '/') = path.toList := by
    rw [List.rdropWhile_eq_self_iff]
    intro hne hlast
    rw [endsInSlash, List.getLast?_eq_some_getLast hne, Bool.eq_false_iff] at h
    exact h (by simpa using hlast)
  rw [withoutSlash_eq, hkept, String.ofList_toList]
  refine if_neg fun hroot => ?_
  rw [Bool.and_eq_true, List.isEmpty_iff] at hroot
  rw [isAbsolute, hroot.1] at hroot
  exact nomatch hroot.2

theorem withoutSlash_withoutSlash (path : String) : withoutSlash (withoutSlash path) = withoutSlash path := by
  rw [withoutSlash_eq path]
  split
  · decide
  · refine withoutSlash_of_endsInSlash_eq_false ?_
    rw [endsInSlash, String.toList_ofList, Bool.eq_false_iff]
    intro hlast
    have hne : path.toList.rdropWhile (· = '/') ≠ [] := fun hnil => by simp [hnil] at hlast
    rw [List.getLast?_eq_some_getLast hne] at hlast
    exact List.rdropWhile_last_not _ _ hne (by simpa using hlast)

theorem join_ne_empty (h : Plain name) (base : String) : join base name ≠ "" := by
  intro hnil
  have hlast := getLast?_join h base
  rw [hnil] at hlast
  exact h.nonempty (String.toList_eq_nil_iff.mp (List.getLast?_eq_none_iff.mp hlast.symm))

theorem withoutSlash_join (h : Plain name) (base : String) : withoutSlash (join base name) = join base name :=
  withoutSlash_of_endsInSlash_eq_false (endsInSlash_join h base)

end

/-! What a joined path ends in, whatever the name -/

theorem join_ending (base name : String) :
    join base name = name ∨ '/' :: name.toList <:+ (join base name).toList := by
  unfold join
  split
  · exact .inl rfl
  · right
    split
    · next hslash =>
      obtain ⟨front, hfront⟩ := List.getLast?_eq_some_iff.mp (beq_iff_eq.mp hslash)
      exact ⟨front, by simp [hfront]⟩
    · exact ⟨base.toList, by simp⟩

theorem suffix_join (base name : String) : name.toList <:+ (join base name).toList := by
  obtain h | h := join_ending base name
  · simp [h]
  · exact (List.suffix_cons '/' name.toList).trans h

theorem suffix_of_suffix_join {base name : String} {tail : List Char} (hslash : '/' ∉ tail)
    (h : tail <:+ (join base name).toList) : tail <:+ name.toList := by
  obtain hjoin | hjoin := join_ending base name
  · rwa [hjoin] at h
  · obtain hshort | hlong := List.suffix_or_suffix_of_suffix h hjoin
    · obtain rfl | hshort := List.suffix_cons_iff.mp hshort
      · exact absurd List.mem_cons_self hslash
      · exact hshort
    · exact absurd (hlong.subset List.mem_cons_self) hslash

/-- A tail that is no absolute path only gets behind the joined path. -/
theorem join_append (base name : String) {tail : String} (h : isAbsolute tail = false) :
    join base (name ++ tail) = join base name ++ tail := by
  have habsolute : isAbsolute (name ++ tail) = isAbsolute name := by
    unfold isAbsolute at h ⊢
    rw [String.toList_append]
    cases hname : name.toList with
    | nil => exact h
    | cons c cs => rfl
  simp only [join, habsolute]
  split
  · rfl
  · split <;> simp only [String.append_assoc]

/-! Parents -/

theorem withoutSlash_slash {path : String} (h : path ≠ "") :
    withoutSlash (String.ofList (path.toList ++ ['/'])) = withoutSlash path := by
  have habsolute : isAbsolute (String.ofList (path.toList ++ ['/'])) = isAbsolute path := by
    rw [isAbsolute, isAbsolute, String.toList_ofList, List.head?_append_of_ne_nil _ (by simpa using h)]
  rw [withoutSlash_eq, withoutSlash_eq path, habsolute, String.toList_ofList,
    List.rdropWhile_concat_pos _ _ _ (by simp)]

theorem withoutSlash_empty : withoutSlash "" = "" := by decide

theorem parent?_eq (path : String) :
    parent? path =
      if (withoutSlash path).toList = [] ∨ (withoutSlash path).toList = ['/'] then none
      else some (withoutSlash (String.ofList ((withoutSlash path).toList.rdropWhile (· ≠ '/')))) := by
  unfold parent? List.rdropWhile
  dsimp only
  by_cases hroot : (withoutSlash path).toList = [] ∨ (withoutSlash path).toList = ['/']
  · rw [if_pos (by simpa using hroot), if_pos hroot]
  · rw [if_neg (by simpa using hroot), if_neg hroot]
    split
    · next hnil => rw [String.isEmpty_iff.mp hnil, withoutSlash_empty]
    · rfl

theorem eq_of_parent? {path above : String} (h : parent? path = some above) :
    above = withoutSlash (String.ofList ((withoutSlash path).toList.rdropWhile (· ≠ '/'))) := by
  rw [parent?_eq] at h
  split at h
  · cases h
  · exact (Option.some.inj h).symm

theorem withoutSlash_of_parent? {path above : String} (h : parent? path = some above) :
    withoutSlash above = above := by
  rw [eq_of_parent? h, withoutSlash_withoutSlash]

theorem segments_rdropWhile_subset (cs : List Char) : segments (cs.rdropWhile (· ≠ '/')) ⊆ segments cs := by
  obtain ⟨rest, hrest⟩ := List.rdropWhile_prefix (· ≠ '/') cs
  by_cases hnil : cs.rdropWhile (· ≠ '/') = []
  · rw [hnil]
    exact List.nil_subset _
  · have hlast := List.rdropWhile_last_not _ _ hnil
    have hfront := List.dropLast_append_getLast hnil
    rw [show (cs.rdropWhile (· ≠ '/')).getLast hnil = '/' by simpa using hlast] at hfront
    rw [← hfront, segments_append_slash, segments_nil, List.append_nil]
    conv_rhs => rw [← hrest, ← hfront, List.append_assoc]
    rw [List.singleton_append, segments_append_slash]
    exact List.subset_append_left _ _

theorem segments_parent?_subset {path above : String} (h : parent? path = some above) :
    segments above.toList ⊆ segments path.toList := by
  rw [eq_of_parent? h, segments_withoutSlash, String.toList_ofList, ← segments_withoutSlash path]
  exact segments_rdropWhile_subset _

theorem parent?_join {name : String} (h : Plain name) (base : String) :
    parent? (join base name) = some (withoutSlash base) := by
  have hnil : (join base name).toList ≠ [] := mt String.toList_eq_nil_iff.mp (join_ne_empty h base)
  have hroot : (join base name).toList ≠ ['/'] := fun hroot => by
    have hlast := getLast?_join h base
    rw [hroot] at hlast
    exact h.noSlash (List.mem_of_getLast? hlast.symm)
  have hall : ∀ c ∈ name.toList, decide (c ≠ '/') = true := fun c hc =>
    decide_eq_true fun hslash => h.noSlash (hslash ▸ hc)
  rw [parent?_eq, withoutSlash_join h, if_neg (not_or_intro hnil hroot)]
  refine congrArg some ?_
  obtain ⟨hbase, hjoin⟩ | ⟨front, hjoin, hbase, hfront⟩ := join_cases h base
  · rw [hjoin, hbase, List.rdropWhile_eq_nil_iff.mpr hall]
  · have hdrop : (front ++ '/' :: name.toList).rdropWhile (· ≠ '/') = front ++ ['/'] := by
      rw [List.rdropWhile, List.reverse_append, List.reverse_cons, List.append_assoc,
        List.dropWhile_append_of_pos (by simpa using hall)]
      simp
    rw [hjoin, hdrop]
    obtain hfront | hfront := hfront
    · rw [← hfront, String.ofList_toList]
    · rw [← hfront, withoutSlash_slash hbase]

/-- A path that is left when names are taken away from the end. -/
inductive Above : String → String → Prop
  | parent {above path : String} (h : parent? path = some above) : Above above path
  | higher {above parent path : String} (h : parent? path = some parent) (habove : Above above parent) :
      Above above path

theorem Above.trans_parent {above path parent : String} (h : Above above path)
    (hparent : parent? above = some parent) : Above parent path := by
  induction h with
  | parent h => exact .higher h (.parent hparent)
  | higher h _ ih => exact .higher h ih

theorem Above.segments_subset {above path : String} (h : Above above path) :
    segments above.toList ⊆ segments path.toList := by
  induction h with
  | parent h => exact segments_parent?_subset h
  | higher h habove ih => exact List.Subset.trans ih (segments_parent?_subset h)

theorem Above.segments_subset_of_join {above base name : String} (hname : Plain name)
    (h : Above above (join base name)) : segments above.toList ⊆ segments base.toList := by
  have hparent := parent?_join hname base
  rw [← segments_withoutSlash base]
  cases h with
  | parent h =>
    cases h.symm.trans hparent
    exact List.Subset.refl _
  | higher h habove =>
    cases h.symm.trans hparent
    exact habove.segments_subset

end SnippetLab.Path
