import SnippetLab.Proofs.Text.Search
import SnippetLab.Source
import SnippetLab.Text.Utf8
import Mathlib.Data.List.Flatten

/-!
What is left of a text. NULs go, and every line end becomes a line feed, as if the text was read once from front to
back. Both ways of reading a source, for the compiler and for the analysis, leave a blank text of the same sources:
those that hold white space and NULs only.
-/
namespace SnippetLab

open SnippetLab.Text

/-! ### Line ends -/

namespace SourceUnit

inductive Piece
  | crLf
  | cr
  | lf
  | char (c : Char)
  deriving DecidableEq, Repr

namespace Piece

def spelled : Piece → List Char
  | crLf => ['\r', '\n']
  | cr => ['\r']
  | lf => ['\n']
  | char c => [c]

def isLineEnd : Piece → Bool
  | crLf | cr | lf => true
  | char _ => false

def normal : Piece → Char
  | crLf | cr | lf => '\n'
  | char c => c

end Piece

def pieces : List Char → List Piece
  | '\r' :: '\n' :: cs => .crLf :: pieces cs
  | '\r' :: cs => .cr :: pieces cs
  | '\n' :: cs => .lf :: pieces cs
  | c :: cs => .char c :: pieces cs
  | [] => []

/-- The pieces spell the text, and no line end is taken apart or taken for a character. -/
structure IsReading (cs : List Char) (ps : List Piece) : Prop where
  spelled : ps.flatMap Piece.spelled = cs
  whole : ¬[.cr, .lf] <:+: ps
  plain : ∀ c, .char c ∈ ps → c ≠ '\r' ∧ c ≠ '\n'

variable {cs : List Char} {ps : List Piece}

theorem spelled_pieces (cs : List Char) : (pieces cs).flatMap Piece.spelled = cs := by
  fun_induction pieces cs <;> simp [Piece.spelled, *]

theorem plain_of_mem_pieces {c : Char} (h : .char c ∈ pieces cs) : c ≠ '\r' ∧ c ≠ '\n' := by
  fun_induction pieces cs with
  | case1 cs ih | case2 cs _ ih | case3 cs ih => exact ih (by simpa using h)
  | case4 d cs _ hr hn ih =>
    rcases List.mem_cons.mp h with heq | h
    · cases heq
      exact ⟨hr, hn⟩
    · exact ih h
  | case5 => cases h

theorem cr_lf_infix_cons_iff {p : Piece} :
    [.cr, .lf] <:+: p :: ps ↔ (p = .cr ∧ ps.head? = some .lf) ∨ [.cr, .lf] <:+: ps := by
  rw [List.infix_cons_iff, List.cons_prefix_cons, eq_comm]
  cases ps with
  | nil => simp
  | cons q ps => simp [List.cons_prefix_cons, @eq_comm _ Piece.lf]

theorem not_cr_lf_infix (cs : List Char) : ¬[.cr, .lf] <:+: pieces cs := by
  fun_induction pieces cs with
  | case2 cs hlone ih =>
    rw [cr_lf_infix_cons_iff]
    rintro (⟨-, hhead⟩ | h)
    · -- a line feed that is read next is the next character
      have hspelled := spelled_pieces cs
      obtain ⟨rest, hrest⟩ := List.head?_eq_some_iff.mp hhead
      rw [hrest] at hspelled
      exact hlone _ hspelled.symm
    · exact ih h
  | case1 cs ih | case3 cs ih | case4 d cs _ hr hn ih =>
    rw [cr_lf_infix_cons_iff]
    rintro (⟨heq, -⟩ | h)
    · cases heq
    · exact ih h
  | case5 => simp

theorem isReading_pieces (cs : List Char) : IsReading cs (pieces cs) where
  spelled := spelled_pieces cs
  whole := not_cr_lf_infix cs
  plain _ := plain_of_mem_pieces

/-- There is one way to read a text. -/
theorem IsReading.eq_pieces (h : IsReading cs ps) : ps = pieces cs := by
  obtain ⟨rfl, hwhole, hplain⟩ := h
  induction ps with
  | nil => rfl
  | cons p ps ih =>
    rw [cr_lf_infix_cons_iff, not_or, not_and] at hwhole
    have hps : ps = pieces (ps.flatMap Piece.spelled) := ih hwhole.2 fun c hc => hplain c (List.mem_cons_of_mem _ hc)
    rw [List.flatMap_cons]
    cases p with
    | crLf | lf => exact congrArg (_ :: ·) hps
    | cr =>
      have hlone : ∀ rest, ps.flatMap Piece.spelled = '\n' :: rest → False := by
        intro rest hrest
        rw [hps, hrest, pieces] at hwhole
        exact hwhole.1 rfl rfl
      rw [Piece.spelled, List.singleton_append, pieces.eq_2 _ hlone, ← hps]
    | char c =>
      obtain ⟨hr, hn⟩ := hplain c List.mem_cons_self
      rw [Piece.spelled, List.singleton_append, pieces.eq_4 _ _ (fun _ h _ => hr h) hr hn, ← hps]

theorem isReading_iff : IsReading cs ps ↔ ps = pieces cs :=
  ⟨IsReading.eq_pieces, fun h => h ▸ isReading_pieces cs⟩

/-- Two passes, one for each kind of carriage returns, come to the same as one. -/
theorem crToLf_joinCrLf (cs : List Char) : crToLf (joinCrLf cs) = (pieces cs).map Piece.normal := by
  fun_induction pieces cs with
  | case1 cs ih => simpa [joinCrLf, crToLf, Piece.normal] using ih
  | case2 cs hlone ih =>
    rw [joinCrLf.eq_2 _ _ fun rest _ hrest => hlone rest hrest]
    simpa [crToLf, Piece.normal] using ih
  | case3 cs ih =>
    rw [joinCrLf.eq_2 _ _ (by simp)]
    simpa [crToLf, Piece.normal] using ih
  | case4 d cs _ hr hn ih =>
    rw [joinCrLf.eq_2 _ _ fun _ h _ => hr h, crToLf, List.map_cons, if_neg hr]
    exact congrArg (d :: ·) ih
  | case5 => rfl

theorem toList_sanitize (raw : String) : (sanitize raw).toList = (pieces (dropNul raw.toList)).map Piece.normal := by
  rw [sanitize, String.toList_ofList, crToLf_joinCrLf]

theorem normal_cases {p : Piece} (h : p ∈ pieces cs) : p.normal = '\n' ∨ p.normal ∈ cs ∧ p.normal ≠ '\r' := by
  cases p with
  | crLf | cr | lf => exact .inl rfl
  | char c =>
    refine .inr ⟨?_, (plain_of_mem_pieces h).1⟩
    rw [← spelled_pieces cs]
    exact List.mem_flatMap.mpr ⟨_, h, List.mem_singleton_self c⟩

theorem nul_not_mem_sanitize (raw : String) : '\x00' ∉ (sanitize raw).toList := by
  rw [toList_sanitize]
  intro h
  obtain ⟨p, hp, hnul⟩ := List.mem_map.mp h
  rcases normal_cases hp with hn | ⟨hmem, -⟩
  · rw [hn] at hnul
    exact absurd hnul (by decide)
  · rw [hnul] at hmem
    simpa using (List.mem_filter.mp hmem).2

theorem cr_not_mem_sanitize (raw : String) : '\r' ∉ (sanitize raw).toList := by
  rw [toList_sanitize]
  intro h
  obtain ⟨p, hp, hr⟩ := List.mem_map.mp h
  rcases normal_cases hp with hn | ⟨-, hne⟩
  · rw [hn] at hr
    exact absurd hr (by decide)
  · exact hne hr

/-! ### Lines -/

theorem length_lines_sanitize (raw : String) :
    (lines (sanitize raw).toList).length = (pieces (dropNul raw.toList)).countP Piece.isLineEnd + 1 := by
  rw [length_lines, toList_sanitize, List.count_eq_countP, List.countP_map]
  congr 1
  refine List.countP_congr fun p hp => ?_
  cases p with
  | crLf | cr | lf => rfl
  | char c => simp [Piece.normal, Piece.isLineEnd, (plain_of_mem_pieces hp).2]

/-! ### Length -/

theorem joinCrLf_sublist (cs : List Char) : (joinCrLf cs).Sublist cs := by
  fun_induction joinCrLf cs with
  | case1 cs ih => exact (ih.cons_cons '\n').cons '\r'
  | case2 c cs _ ih => exact ih.cons_cons c
  | case3 => exact List.Sublist.refl []

theorem joined_sublist (raw : String) : (joinCrLf (dropNul raw.toList)).Sublist raw.toList :=
  (joinCrLf_sublist _).trans List.filter_sublist

theorem length_sanitize_le (raw : String) : (sanitize raw).length ≤ raw.length := by
  rw [sanitize, String.length_ofList, crToLf, List.length_map, ← String.length_toList]
  exact (joined_sublist raw).length_le

/-- The octets are no more either, since both carriage return and line feed are one octet. -/
theorem length_encode_sanitize_le (raw : String) :
    (Utf8.encode (sanitize raw).toList).length ≤ (Utf8.encode raw.toList).length := by
  have hsame (cs : List Char) : (Utf8.encode (crToLf cs)).length = (Utf8.encode cs).length := by
    rw [Utf8.encode, Utf8.encode, crToLf, List.flatMap_map, List.length_flatMap, List.length_flatMap]
    refine congrArg List.sum (List.map_congr_left fun c _ => ?_)
    by_cases hc : c = '\r'
    · subst hc
      decide
    · rw [if_neg hc]
  rw [sanitize, String.toList_ofList, hsame]
  exact ((joined_sublist raw).flatMap _).length_le

theorem length_trimmed_le (s : String) : (trimmed s).length ≤ s.length := by
  have hstart (cs : List Char) : (trimStart cs).length ≤ cs.length := (List.dropWhile_suffix _).length_le
  rw [trimmed, String.length_ofList, trim, trimEnd, List.length_reverse, ← String.length_toList]
  refine Nat.le_trans (hstart _) ?_
  rw [List.length_reverse]
  exact hstart _

/-! ### Once is enough -/

theorem joinCrLf_of_not_mem (h : '\r' ∉ cs) : joinCrLf cs = cs := by
  fun_induction joinCrLf cs with
  | case1 cs ih => simp at h
  | case2 c cs _ ih => rw [ih fun hmem => h (List.mem_cons_of_mem _ hmem)]
  | case3 => rfl

theorem crToLf_of_not_mem (h : '\r' ∉ cs) : crToLf cs = cs := by
  refine (List.map_congr_left fun c hc => if_neg ?_).trans (List.map_id cs)
  rintro rfl
  exact h hc

theorem dropNul_of_not_mem (h : '\x00' ∉ cs) : dropNul cs = cs := by
  refine List.filter_eq_self.mpr fun c hc => ?_
  have hne : c ≠ '\x00' := fun heq => h (heq ▸ hc)
  simpa using hne

theorem sanitize_sanitize (raw : String) : sanitize (sanitize raw) = sanitize raw := by
  have hcr := cr_not_mem_sanitize raw
  conv => lhs; rw [sanitize, dropNul_of_not_mem (nul_not_mem_sanitize raw), joinCrLf_of_not_mem hcr,
    crToLf_of_not_mem hcr, String.ofList_toList]

end SourceUnit

/-! ### Blank texts -/

def isVoid (c : Char) : Bool := isBlank c || c == '\x00'

theorem all_dropNul (p : Char → Bool) (cs : List Char) :
    (dropNul cs).all p = cs.all fun c => c == '\x00' || p c := by
  rw [dropNul, List.all_filter]
  congr 1
  funext c
  by_cases h : c = '\x00' <;> simp [h]

theorem all_joinCrLf {p : Char → Bool} (h : p '\r' = true) (cs : List Char) :
    (joinCrLf cs).all p = cs.all p := by
  fun_induction joinCrLf cs with
  | case1 cs ih => simp [ih, h]
  | case2 c cs _ ih => simp [ih]
  | case3 => rfl

theorem all_crToLf {p : Char → Bool} (h : p '\r' = p '\n') (cs : List Char) :
    (crToLf cs).all p = cs.all p := by
  rw [crToLf, List.all_map]
  congr 1
  funext c
  by_cases hc : c = '\r' <;> simp [hc, h]

theorem allBlank_sanitize (raw : String) : allBlank (sanitize raw).toList = raw.toList.all isVoid := by
  rw [sanitize, String.toList_ofList, allBlank, all_crToLf (by decide), all_joinCrLf (by decide), all_dropNul]
  congr 1
  funext c
  exact Bool.or_comm ..

theorem all_trim {p : Char → Bool} (h : ∀ c, isBlank c = true → p c = true) (cs : List Char) :
    (trim cs).all p = cs.all p := by
  have hdrop : ∀ cs : List Char, (cs.dropWhile isBlank).all p = cs.all p := by
    intro cs
    have hfront : (cs.takeWhile isBlank).all p = true :=
      List.all_eq_true.mpr fun c hc => h c (List.all_eq_true.mp List.all_takeWhile c hc)
    conv => rhs; rw [← List.takeWhile_append_dropWhile (p := isBlank) (l := cs), List.all_append, hfront]
    rfl
  rw [trim, trimEnd, List.all_reverse, trimStart, hdrop, List.all_reverse, trimStart, hdrop]

namespace SourceUnit

theorem isBlank_forAnalysis (raw : String) : (forAnalysis raw).isBlank = raw.toList.all isVoid :=
  allBlank_sanitize raw

theorem isBlank_forCompile (raw : String) : (forCompile raw).isBlank = raw.toList.all isVoid := by
  have h := allBlank_sanitize (trimmed raw)
  rw [trimmed, String.toList_ofList, all_trim fun c hc => by simp [isVoid, hc]] at h
  exact h

/-- Without a NUL, what is blank at the end was blank from the start. -/
theorem isBlank_forCompile_of_no_nul {raw : String} (h : '\x00' ∉ raw.toList) :
    (forCompile raw).isBlank = allBlank raw.toList := by
  rw [isBlank_forCompile, allBlank, Bool.eq_iff_iff, List.all_eq_true, List.all_eq_true]
  refine forall₂_congr fun c hc => ?_
  have hne : c ≠ '\x00' := fun heq => h (heq ▸ hc)
  simp [isVoid, hne]

theorem not_allBlank_of_nul {raw : String} (h : '\x00' ∈ raw.toList) : allBlank raw.toList = false :=
  List.all_eq_false.mpr ⟨_, h, by decide⟩

theorem charLength_forCompile_le (raw : String) : (forCompile raw).charLength ≤ raw.length :=
  Nat.le_trans (length_sanitize_le _) (length_trimmed_le raw)

end SourceUnit
end SnippetLab
