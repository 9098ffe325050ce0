import SnippetLab.Lab.Analyze
import SnippetLab.Lab.Service
import SnippetLab.Proofs.Path
import SnippetLab.Proofs.Regex
import SnippetLab.Proofs.Text.Decimal

/-!
The search for compilers that an earlier service left behind: what its pattern finds, and which processes of an answer
are killed.
-/
namespace SnippetLab.Orphans

open Regex

/-! ### Escaped texts -/

inductive Piece
  | ordinary (c : Char) (h : c ∉ metacharacters)
  | escaped (c : Char) (h : c ∈ metacharacters)

namespace Piece

def spelling : Piece → List Char
  | ordinary c _ => [c]
  | escaped c _ => ['\\', c]

def char : Piece → Char
  | ordinary c _ | escaped c _ => c

def ofChar (c : Char) : Piece := if h : c ∈ metacharacters then escaped c h else ordinary c h

@[simp] theorem char_ofChar (c : Char) : (ofChar c).char = c := by
  unfold ofChar
  split <;> rfl

@[simp] theorem ofChar_char (p : Piece) : ofChar p.char = p := by
  cases p with
  | ordinary c h => exact dif_neg h
  | escaped c h => exact dif_pos h

end Piece

theorem escapeChar_of_mem {c : Char} (h : c ∈ metacharacters) : escapeChar c = ['\\', c] := by simp [escapeChar, h]

theorem escapeChar_of_not_mem {c : Char} (h : c ∉ metacharacters) : escapeChar c = [c] := by simp [escapeChar, h]

theorem Piece.spelling_eq (p : Piece) : p.spelling = escapeChar p.char := by
  cases p with
  | ordinary c h => exact (escapeChar_of_not_mem h).symm
  | escaped c h => exact (escapeChar_of_mem h).symm

/-- A backslash is a metacharacter itself, so that it always begins a pair. -/
theorem escapeChar_append_inj {c d : Char} {cs ds : List Char} (h : escapeChar c ++ cs = escapeChar d ++ ds) :
    c = d ∧ cs = ds := by
  have hbackslash : '\\' ∈ metacharacters := by decide
  by_cases hc : c ∈ metacharacters <;> by_cases hd : d ∈ metacharacters
  · simpa [escapeChar_of_mem hc, escapeChar_of_mem hd] using h
  · rw [escapeChar_of_mem hc, escapeChar_of_not_mem hd] at h
    exact absurd ((List.cons.inj h).1 ▸ hbackslash) hd
  · rw [escapeChar_of_not_mem hc, escapeChar_of_mem hd] at h
    exact absurd ((List.cons.inj h).1.symm ▸ hbackslash) hc
  · simpa [escapeChar_of_not_mem hc, escapeChar_of_not_mem hd] using h

theorem escapeChar_ne_nil (c : Char) : escapeChar c ≠ [] := by
  unfold escapeChar
  split <;> simp

theorem flatMap_escapeChar_inj {cs ds : List Char} : cs.flatMap escapeChar = ds.flatMap escapeChar ↔ cs = ds := by
  refine ⟨fun h => ?_, congrArg _⟩
  induction cs generalizing ds with
  | nil =>
    cases ds with
    | nil => rfl
    | cons d ds => simp [escapeChar_ne_nil] at h
  | cons c cs ih =>
    cases ds with
    | nil => simp [escapeChar_ne_nil] at h
    | cons d ds =>
      obtain ⟨rfl, hrest⟩ := escapeChar_append_inj h
      rw [ih hrest]

@[simp] theorem toList_escape (text : String) : (escape text).toList = text.toList.flatMap escapeChar :=
  String.toList_ofList

theorem flatMap_spelling (pieces : List Piece) :
    pieces.flatMap Piece.spelling = (pieces.map Piece.char).flatMap escapeChar := by
  rw [List.flatMap_map]
  exact congrArg (pieces.flatMap ·) (funext Piece.spelling_eq)

/-! ### Escaped texts read as expressions -/

section Reading

variable {d : Dialect} {fuel depth : Nat} {before : Regex} {atStart : Bool} {s : Reading} {c : Char}
  {cs more : List Char}

theorem escape?_of_mem (h : c ∈ metacharacters) : escape? d c = none := by
  have hmodern : "tnrfae".toList = ['t', 'n', 'r', 'f', 'a', 'e'] := rfl
  let special : List Char :=
    ['n', 't', 'r', 'f', 'v', 'a', 'b', 'e', 'd', 'D', 'w', 'W', 's', 'S', 'B', '<', '>', '\x60', '\x27']
  have hall : metacharacters.all (fun c => !special.contains c) = true := by decide
  have hnone := List.all_eq_true.mp hall c h
  simp only [special, Bool.not_eq_true', List.contains_eq_mem, decide_eq_false_iff_not, List.mem_cons, List.not_mem_nil,
    or_false, not_or] at hnone
  unfold escape?
  simp [hmodern, hnone]

theorem isDigit_of_mem : ∀ c ∈ metacharacters, c.isDigit = false := by
  simp [metacharacters]

theorem char_of_not_folds (hfolds : d.folds = false) (c : Char) : Regex.char d c = .one (.single c) := by
  simp [Regex.char, hfolds]

theorem atom_escapeChar (hextended : d.extended = true) (hfolds : d.folds = false) (hs : s.rest = escapeChar c ++ more) :
    (atom d (fuel + 1) depth atStart).run s = .ok ((.one (.single c), false), { s with rest := more }) := by
  rw [atom]
  by_cases h : c ∈ metacharacters
  · rw [escapeChar_of_mem h] at hs
    simp [Except.ok_bind, hs, isOpen, hextended, isDigit_of_mem c h, escape?_of_mem h, char_of_not_folds hfolds]
    rfl
  · rw [escapeChar_of_not_mem h] at hs
    simp only [metacharacters, List.mem_cons, not_or] at h
    simp [Except.ok_bind, hs, isOpen, hextended, h, char_of_not_folds hfolds]
    rfl

/-- No operator, bar or bracket begins with an escaped character. -/
theorem begins_escapeChar (hextended : d.extended = true) (c : Char) (more : List Char) :
    operator d (escapeChar c ++ more) = .none ∧ isBar d (escapeChar c ++ more) = none ∧
      isClose d (escapeChar c ++ more) = none := by
  by_cases h : c ∈ metacharacters
  · rw [escapeChar_of_mem h]
    refine ⟨?_, ?_, ?_⟩
    · unfold operator
      simp only [hextended, List.cons_append, List.nil_append]
      split <;> simp_all
    · simp [isBar, hextended]
    · simp [isClose, hextended]
  · rw [escapeChar_of_not_mem h]
    simp only [metacharacters, List.mem_cons, not_or] at h
    refine ⟨?_, ?_, ?_⟩
    · unfold operator
      simp [h]
    · simp [isBar, hextended, h]
    · simp [isClose, hextended, h]

theorem operator_nil (d : Dialect) : operator d [] = .none := rfl

theorem operator_escape (hextended : d.extended = true) (hop : operator d more = .none) (cs : List Char) :
    operator d (cs.flatMap escapeChar ++ more) = .none := by
  cases cs with
  | nil => exact hop
  | cons c cs =>
    rw [List.flatMap_cons, List.append_assoc]
    exact (begins_escapeChar hextended c _).1

/-- The characters one after another, behind an expression. -/
def chain (before : Regex) (cs : List Char) : Regex := cs.foldl (fun r c => followed r (.one (.single c))) before

theorem branch_escape (hextended : d.extended = true) (hfolds : d.folds = false)
    (hs : s.rest = cs.flatMap escapeChar ++ more) (hop : operator d more = .none) :
    (branch d (fuel + cs.length + 1) depth before atStart).run s =
      (branch d (fuel + 1) depth (chain before cs) (atStart && cs.isEmpty)).run { s with rest := more } := by
  induction cs generalizing before atStart s with
  | nil =>
    obtain rfl : s.rest = more := hs
    simp [chain]
  | cons c cs ih =>
    rw [List.flatMap_cons, List.append_assoc] at hs
    obtain ⟨hoperator, hbar, hclose⟩ := begins_escapeChar hextended c (cs.flatMap escapeChar ++ more)
    have hne : escapeChar c ++ (cs.flatMap escapeChar ++ more) ≠ [] := by simp [escapeChar_ne_nil]
    rw [← hs] at hoperator hbar hclose hne
    rw [List.length_cons, ← Nat.add_assoc, branch_piece hne hbar hclose hoperator (atom_escapeChar hextended hfolds hs)
      (repeated_of_none (operator_escape hextended hop cs) _ _), ih rfl]
    simp [chain]

/-- Any characters, as many as there may be. -/
def gap : Regex := .loop (.one .any) 0 none

theorem branch_gap (hextended : d.extended = true) (hs : s.rest = '.' :: '*' :: more) (hop : operator d more = .none) :
    (branch d (fuel + 2) depth before atStart).run s =
      (branch d (fuel + 1) depth (followed before gap) false).run { s with rest := more } := by
  have hatom : (atom d (fuel + 1) depth atStart).run s = .ok ((.one .any, false), { s with rest := '*' :: more }) := by
    rw [atom]
    simp [Except.ok_bind, hs, isOpen, hextended]
    rfl
  refine branch_piece ?_ ?_ ?_ ?_ hatom ?_
  · simp [hs]
  · simp [hs, isBar, hextended]
  · simp [hs, isClose, hextended]
  · simp [hs, operator]
  · rw [repeated]
    simp [Except.ok_bind, operator]
    exact repeated_of_none hop _ _

end Reading

section Spans

variable {before : Regex} {text cs : List Char} {i j k n : Nat}

theorem spans_single {c : Char} : (Regex.one (.single c)).Spans { text := text.toArray } i j ↔
    text[i]? = some c ∧ j = i + 1 := by
  simp [Spans, CharSet.admits_single, and_comm]

theorem cons_prefix_drop_iff {c : Char} : c :: cs <+: text.drop i ↔ text[i]? = some c ∧ cs <+: text.drop (i + 1) := by
  rw [← List.tail_drop, ← List.head?_drop]
  cases text.drop i with
  | nil => simp
  | cons d ds => simp [List.cons_prefix_cons, eq_comm]

theorem spans_chain : (chain before cs).Spans { text := text.toArray } i k ↔
    ∃ j, before.Spans { text := text.toArray } i j ∧ cs <+: text.drop j ∧ k = j + cs.length := by
  induction cs generalizing before with
  | nil => simp [chain]
  | cons c cs ih =>
    refine ih.trans ?_
    simp only [spans_followed, spans_single, cons_prefix_drop_iff]
    constructor
    · rintro ⟨_, ⟨j, hbefore, hc, rfl⟩, hcs, rfl⟩
      exact ⟨j, hbefore, ⟨hc, hcs⟩, by rw [List.length_cons]; omega⟩
    · rintro ⟨j, hbefore, ⟨hc, hcs⟩, rfl⟩
      exact ⟨j + 1, ⟨j, hbefore, hc, rfl⟩, hcs, by rw [List.length_cons]; omega⟩

theorem iterated_any : Iterated ((Regex.one .any).Spans { text := text.toArray }) n i j ↔
    j = i + n ∧ (n = 0 ∨ j ≤ text.length) := by
  induction n generalizing i with
  | zero => simp [Iterated, eq_comm]
  | succ n ih =>
    have hany : ∀ i' , (Regex.one .any).Spans { text := text.toArray } i i' ↔ i' = i + 1 ∧ i < text.length := by
      intro i'
      simp only [Spans, CharSet.Admits, true_or, and_true, List.getElem?_toArray]
      refine and_congr_right fun _ => ⟨?_, fun h => ⟨_, List.getElem?_eq_getElem h⟩⟩
      rintro ⟨c, hc⟩
      exact (List.getElem?_eq_some_iff.mp hc).1
    simp only [Iterated, hany, ih]
    constructor
    · rintro ⟨_, ⟨rfl, hlt⟩, rfl, hle⟩
      omega
    · rintro ⟨rfl, hle⟩
      exact ⟨i + 1, ⟨rfl, by omega⟩, by omega, by omega⟩

theorem spans_gap : gap.Spans { text := text.toArray } i j ↔ i ≤ j ∧ (i = j ∨ j ≤ text.length) := by
  rw [gap, Spans]
  simp only [iterated_any]
  constructor
  · rintro ⟨n, -, -, rfl, h⟩
    omega
  · rintro ⟨hle, h⟩
    exact ⟨j - i, Nat.zero_le _, by simp, by omega, by omega⟩

/-- The expression of a pattern: the characters of a name, a gap and the characters of a flag. -/
def expression (name flag : List Char) : Regex := chain (followed (chain .empty name) gap) flag

theorem denotes_chain : (chain .empty cs).Denotes text ↔ text = cs := by
  rw [Denotes, spans_chain]
  constructor
  · rintro ⟨_, rfl, hcs, hlength⟩
    exact (hcs.eq_of_length (by simpa using hlength.symm)).symm
  · rintro rfl
    exact ⟨0, rfl, List.prefix_refl _, by simp⟩

theorem finds_expression {name flag : List Char} : (expression name flag).Finds text ↔
    ∃ front between after, text = front ++ name ++ between ++ flag ++ after := by
  simp only [Finds, expression, spans_chain, spans_followed, spans_gap]
  constructor
  · rintro ⟨i, hi, _, k, ⟨_, ⟨_, rfl, ⟨rest, hname⟩, rfl⟩, hle, -⟩, ⟨after, hflag⟩, rfl⟩
    refine ⟨text.take i, rest.take (k - (i + name.length)), after, ?_⟩
    have hrest : rest = text.drop (i + name.length) := by
      rw [← List.drop_drop, ← hname, List.drop_left]
    have hafter : flag ++ after = rest.drop (k - (i + name.length)) := by
      rw [hflag, hrest, List.drop_drop, Nat.add_sub_cancel' hle]
    rw [List.append_assoc _ flag, hafter, List.append_assoc, List.take_append_drop, List.append_assoc, hname,
      List.take_append_drop]
  · rintro ⟨front, between, after, rfl⟩
    refine ⟨front.length, by simp, _, front.length + name.length + between.length,
      ⟨front.length + name.length, ⟨front.length, rfl, ?_, rfl⟩, Nat.le_add_right _ _, .inr ?_⟩, ?_, rfl⟩
    · simp [List.append_assoc]
    · simp
      omega
    · rw [← List.length_append, ← List.length_append, List.append_assoc _ flag, List.drop_left]
      exact List.prefix_append _ _

end Spans

/-! ### The pattern and the command lines of dumps -/

def commandLine (c : Command) : String := " ".intercalate (c.program :: c.arguments)

def programName (compiler : String) : String := (Path.fileName? compiler).getD compiler

/-- The name stands in the line and the flag behind it. -/
def Bears (line name flag : String) : Prop :=
  ∃ front between after, line = front ++ name ++ between ++ flag ++ after

theorem infix_programName (compiler : String) : (programName compiler).toList <:+: compiler.toList := by
  unfold programName
  cases h : Path.fileName? compiler with
  | none => exact List.infix_rfl
  | some name => exact Path.infix_of_fileName? h

theorem bears_iff {line name flag : String} : Bears line name flag ↔
    ∃ front between after, line.toList = front ++ name.toList ++ between ++ flag.toList ++ after := by
  constructor
  · rintro ⟨front, between, after, rfl⟩
    exact ⟨front.toList, between.toList, after.toList, by simp⟩
  · rintro ⟨front, between, after, h⟩
    refine ⟨.ofList front, .ofList between, .ofList after, String.toList_inj.mp ?_⟩
    simpa using h

section Settings

variable {d : Dialect}

theorem length_le_flatMap (cs : List Char) : cs.length ≤ (cs.flatMap escapeChar).length := by
  induction cs with
  | nil => exact Nat.le_refl 0
  | cons c cs ih =>
    have hpos := List.length_pos_iff.mpr (escapeChar_ne_nil c)
    rw [List.flatMap_cons, List.length_append, List.length_cons]
    omega

theorem read_escape (hextended : d.extended = true) (hfolds : d.folds = false) (text : String) :
    read d (escape text).toList = .ok (chain .empty text.toList, []) := by
  rw [toList_escape]
  refine read_of_branch (s := { rest := [] }) rfl ?_
  have hlength := length_le_flatMap text.toList
  obtain ⟨fuel, hfuel⟩ : ∃ fuel, 4 * (text.toList.flatMap escapeChar).length + 7 = fuel + text.toList.length + 1 :=
    Nat.exists_eq_add_of_le' (by omega : text.toList.length + 1 ≤ _)
  rw [hfuel, branch_escape hextended hfolds (List.append_nil _).symm (operator_nil d)]
  exact branch_nil rfl

theorem pattern_eq (compiler : String) (astFlags : List String) :
    (pattern compiler astFlags).toList = (programName compiler).toList.flatMap escapeChar ++
      '.' :: '*' :: ((astFlags.headD defaultFlag).toList.flatMap escapeChar ++ []) := by
  simp [pattern, programName]

theorem read_pattern (hextended : d.extended = true) (hfolds : d.folds = false) (compiler : String)
    (astFlags : List String) : read d (pattern compiler astFlags).toList =
      .ok (expression (programName compiler).toList (astFlags.headD defaultFlag).toList, []) := by
  rw [pattern_eq]
  generalize (programName compiler).toList = name
  generalize (astFlags.headD defaultFlag).toList = flag
  have hname := length_le_flatMap name
  have hflag := length_le_flatMap flag
  refine read_of_branch (s := { rest := [] }) rfl ?_
  obtain ⟨fuel, hfuel⟩ : ∃ fuel,
      4 * (name.flatMap escapeChar ++ '.' :: '*' :: (flag.flatMap escapeChar ++ [])).length + 7 =
        fuel + (flag.length + 1 + name.length + 1) := by
    refine Nat.exists_eq_add_of_le' ?_
    simp only [List.length_append, List.length_cons]
    omega
  rw [hfuel, ← Nat.add_assoc, ← Nat.add_assoc, branch_escape hextended hfolds rfl rfl, ← Nat.add_assoc,
    branch_gap hextended rfl (operator_escape hextended (operator_nil d) flag),
    branch_escape hextended hfolds rfl (operator_nil d)]
  exact branch_nil rfl

theorem toList_commandLine (t : Toolchain) (source directory : String) :
    (commandLine (t.dumpAst source directory)).toList =
      t.compiler.toList ++ ' ' :: [' '].intercalate ((t.astFlags ++ [source]).map String.toList) := by
  have hargs : (t.astFlags ++ [source]).map String.toList ≠ [] := by simp
  rw [commandLine, String.toList_intercalate, List.map_cons]
  obtain ⟨arg, args, hcons⟩ := List.exists_cons_of_ne_nil hargs
  rw [show (t.dumpAst source directory).arguments = t.astFlags ++ [source] from rfl, hcons, List.intercalate_cons_cons]
  simp [Toolchain.dumpAst]

/-- The name is a part of the compiler's path, and each flag is a part of the arguments behind it. -/
theorem bears_dump {s : Settings} (h : s.astFlags ≠ []) (source directory : String) :
    Bears (commandLine ((Toolchain.ofSettings s).dumpAst source directory)) (programName s.compilerPath)
      (s.astFlags.headD defaultFlag) := by
  obtain ⟨flag, flags, hflags⟩ := List.exists_cons_of_ne_nil h
  obtain ⟨front, rest, hname⟩ := infix_programName s.compilerPath
  have hflag : flag.toList <:+: [' '].intercalate ((s.astFlags ++ [source]).map String.toList) :=
    Text.infix_intercalate (by simp [hflags])
  obtain ⟨before, after, hflag⟩ := hflag
  refine bears_iff.mpr ⟨front, rest ++ ' ' :: before, after, ?_⟩
  rw [toList_commandLine, show (Toolchain.ofSettings s).astFlags = s.astFlags from rfl, ← hflag]
  simp [Toolchain.ofSettings, ← hname, hflags]

theorem commandLine_of_no_flags {s : Settings} (h : s.astFlags = []) (source directory : String) :
    commandLine ((Toolchain.ofSettings s).dumpAst source directory) = s.compilerPath ++ " " ++ source := by
  refine String.toList_inj.mp ?_
  rw [toList_commandLine]
  simp [Toolchain.ofSettings, h]

end Settings

theorem finds_expression_iff {line name flag : String} :
    (expression name.toList flag.toList).Finds line.toList ↔ Bears line name flag := by
  rw [finds_expression, bears_iff]

theorem hasBack_chain {before : Regex} (h : before.hasBack = false) (cs : List Char) :
    (chain before cs).hasBack = false := by
  induction cs generalizing before with
  | nil => exact h
  | cons c cs ih => exact ih (hasBack_followed h rfl)

theorem hasBack_expression (name flag : List Char) : (expression name flag).hasBack = false :=
  hasBack_chain (hasBack_followed (hasBack_chain rfl name) rfl) flag

/-- An escaped text is an expression for this text alone, in every extended dialect. It is made in one way only of
characters that stand for themselves and of escaped ones, which are those of the text. -/
theorem escape_exact :
    (∀ (d : Dialect) (text : String), ∃ r,
      read { d with extended := true, folds := false } (escape text).toList = .ok (r, []) ∧
        ∀ cs, r.Denotes cs ↔ cs = text.toList) ∧
    (∀ text, ∃ pieces : List Piece, pieces.map Piece.char = text.toList ∧
      ∀ other : List Piece, other.flatMap Piece.spelling = (escape text).toList ↔ other = pieces) ∧
    (∀ a b, escape a = escape b ↔ a = b) ∧ ∀ a b, escape (a ++ b) = escape a ++ escape b := by
  refine ⟨fun d text => ⟨_, read_escape rfl rfl text, fun cs => denotes_chain⟩, fun text => ?_, fun a b => ?_,
    fun a b => ?_⟩
  · refine ⟨text.toList.map Piece.ofChar, by simp [Function.comp_def], fun other => ?_⟩
    rw [toList_escape, flatMap_spelling, flatMap_escapeChar_inj]
    constructor
    · intro h
      simp [← h, Function.comp_def]
    · rintro rfl
      simp [Function.comp_def]
  · rw [← String.toList_inj, toList_escape, toList_escape, flatMap_escapeChar_inj, String.toList_inj]
  · simp [← String.toList_inj]

/-- A service searches with the pattern of its settings. It finds every command line that has the first flag behind the
name of the compiler, and the search as it runs finds the same. With flags all dumps of the settings are among them;
without any, only those with the default flag in the path behind the name or in the name of the source. -/
theorem pattern_finds_dumps (d : Dialect) (s : Settings) :
    Lab.orphanSearch s = ["-f", pattern s.compilerPath s.astFlags] ∧
    ∃ r, read { d with extended := true, folds := false } (pattern s.compilerPath s.astFlags).toList = .ok (r, []) ∧
      (∀ line : String, r.Finds line.toList ↔
        Bears line (programName s.compilerPath) (s.astFlags.headD defaultFlag)) ∧
      (∀ line : String, (∀ c ∈ line.toList, Text.Wide.isStray c = false) →
        (({ regex := r } : Pattern).isFound line.toList = true ↔ r.Finds line.toList)) ∧
      ∀ source directory,
        r.Finds (commandLine ((Toolchain.ofSettings s).dumpAst source directory)).toList ↔
          s.astFlags ≠ [] ∨ Bears (s.compilerPath ++ " " ++ source) (programName s.compilerPath) defaultFlag := by
  refine ⟨rfl, _, read_pattern rfl rfl s.compilerPath s.astFlags, fun line => finds_expression_iff,
    fun line => isFound_iff (hasBack_expression _ _), fun source directory => ?_⟩
  rw [finds_expression_iff]
  by_cases h : s.astFlags = []
  · rw [commandLine_of_no_flags h]
    simp [h]
  · exact iff_of_true (bears_dump h source directory) (.inl h)

/-- The dump of the default settings, with the search as it runs. -/
theorem pattern_finds_dumps_default :
    ∃ r, read { extended := true } (pattern "/app/compiler/v0.79/trivil" ["-ast", "2"]).toList = .ok (r, []) ∧
      ({ regex := r } : Pattern).isFound
        (commandLine ((Toolchain.ofSettings {}).dumpAst Lab.dumpSource "/app/temp/run_1")).toList = true := by
  obtain ⟨-, r, hread, -, hfound, hdump⟩ := pattern_finds_dumps {} {}
  have hplain : (commandLine ((Toolchain.ofSettings {}).dumpAst Lab.dumpSource "/app/temp/run_1")).toList.all
      (fun c => !Text.Wide.isStray c) = true := by decide
  refine ⟨r, hread, (hfound _ fun c hc => ?_).mpr ((hdump _ _).mpr (.inl (by decide)))⟩
  exact (Bool.not_eq_true' _).mp (List.all_eq_true.mp hplain c hc)

/-- Without flags a dump is called like a compilation, but the pattern still asks for a flag. -/
theorem pattern_misses_dump :
    ∃ r, read { extended := true } (pattern "/opt/trivil" []).toList = .ok (r, []) ∧
      ¬r.Finds (commandLine ((Toolchain.ofSettings { compilerPath := "/opt/trivil", astFlags := [] }).dumpAst
        Lab.dumpSource "/tmp/work")).toList := by
  refine ⟨_, read_pattern rfl rfl "/opt/trivil" [], ?_⟩
  rw [finds_expression_iff, commandLine_of_no_flags rfl]
  rintro ⟨front, between, after, h⟩
  have hflag : '-' ∈ defaultFlag.toList := by decide
  have hline : '-' ∉ ("/opt/trivil" ++ " " ++ Lab.dumpSource).toList := by decide
  refine hline ?_
  rw [h, String.toList_append, String.toList_append]
  exact List.mem_append_left _ (List.mem_append_right _ hflag)

/-! ### The processes of an answer -/

theorem pid?_eq_some_iff {line : List Char} {v : Int} :
    pid? line = some v ↔ Text.IsInteger (Text.trim line) v ∧ -2147483648 ≤ v ∧ v < 2147483648 := by
  have hread : Text.readInteger 2147483648 (Text.trim line) = .ok v ↔
      Text.IsInteger (Text.trim line) v ∧ -2147483648 ≤ v ∧ v < 2147483648 := Text.readInteger_eq_ok_iff (by decide)
  rw [← hread, pid?]
  cases Text.readInteger 2147483648 (Text.trim line) <;> simp [Except.toOption]

theorem mem_pids_iff {own pid : Int} {answer : String} :
    pid ∈ pids own answer ↔ (1 ≤ pid ∧ pid ≤ 2147483647 ∧ pid ≠ own) ∧
      ∃ line ∈ Text.lines answer.toList, Text.IsInteger (Text.trim line) pid := by
  simp only [pids, List.mem_filter, List.mem_filterMap, pid?_eq_some_iff, decide_eq_true_eq]
  constructor
  · rintro ⟨⟨line, hline, hspelled, -, hhigh⟩, hpos, hown⟩
    exact ⟨⟨hpos, by omega, hown⟩, line, hline, hspelled⟩
  · rintro ⟨⟨hpos, hhigh, hown⟩, line, hline, hspelled⟩
    exact ⟨⟨line, hline, hspelled, by omega, by omega⟩, hpos, hown⟩

/-- White space beside a number, within the line. -/
structure Margin where
  chars : List Char
  blank : ∀ c ∈ chars, Text.isBlank c = true
  within : '\n' ∉ chars

inductive Entry
  | number (v : Int) (before after : Margin)
  | other (line : List Char) (within : '\n' ∉ line) (noNumber : ∀ v, ¬Text.IsInteger (Text.trim line) v)

namespace Entry

def line : Entry → List Char
  | number v before after => before.chars ++ (toString v).toList ++ after.chars
  | other line _ _ => line

def number? : Entry → Option Int
  | number v _ _ => some v
  | other .. => none

theorem trim_line (v : Int) (before after : Margin) :
    Text.trim (number v before after).line = (toString v).toList :=
  Text.trim_of_margins before.blank (Text.isInteger_toString v).visible (Text.isInteger_toString v).ne_nil after.blank

theorem line_within (e : Entry) : '\n' ∉ e.line := by
  cases e with
  | number v before after =>
    have hnumber : '\n' ∉ (toString v).toList := fun h => by
      have hblank := (Text.isInteger_toString v).visible _ h
      revert hblank
      decide
    simp only [line, List.mem_append, not_or]
    exact ⟨⟨before.within, hnumber⟩, after.within⟩
  | other line within => exact within

/-- A number that does not fit is passed over like what is none. -/
theorem pid?_line (e : Entry) : pid? e.line = e.number?.filter fun v => -2147483648 ≤ v ∧ v < 2147483648 := by
  ext w
  rw [pid?_eq_some_iff]
  cases e with
  | number v before after =>
    rw [trim_line, Text.isInteger_toString_iff, number?, Option.filter_eq_some_iff, Option.some_inj, decide_eq_true_iff]
  | other line within noNumber => exact iff_of_false (fun h => noNumber w h.1) (by simp [number?])

end Entry

def answer (entries : List Entry) : String := .ofList (['\n'].intercalate (entries.map Entry.line))

theorem lines_answer {entries : List Entry} (h : entries ≠ []) :
    Text.lines (answer entries).toList = entries.map Entry.line := by
  rw [Text.lines_eq_splitOn, answer, String.toList_ofList]
  refine List.splitOn_intercalate _ ?_ (by simpa using h)
  simpa using fun e _ => e.line_within

theorem pids_answer (own : Int) (entries : List Entry) : pids own (answer entries) =
    (entries.filterMap Entry.number?).filter fun v => 1 ≤ v ∧ v ≤ 2147483647 ∧ v ≠ own := by
  by_cases h : entries = []
  · subst h
    rfl
  · rw [pids, lines_answer h, List.filterMap_map]
    rw [show pid? ∘ Entry.line = _ from funext Entry.pid?_line, ← List.filter_filterMap, List.filter_filter]
    refine List.filter_congr fun v _ => ?_
    rw [← Bool.decide_and]
    refine decide_eq_decide.mpr ?_
    omega

/-- What gets a signal is a process other than our own: neither a group of processes nor all of them. Of an answer,
the numbers with a line each are taken that are process ids, in their order and as often as they stand there. -/
theorem pids_exact (own : Int) :
    (∀ search, ∀ pid ∈ targets own search, 1 ≤ pid ∧ pid ≤ 2147483647 ∧ pid ≠ own) ∧
    (∀ answer pid, pid ∈ pids own answer ↔ (1 ≤ pid ∧ pid ≤ 2147483647 ∧ pid ≠ own) ∧
      ∃ line ∈ Text.lines answer.toList, Text.IsInteger (Text.trim line) pid) ∧
    ∀ entries, pids own (answer entries) =
      (entries.filterMap Entry.number?).filter fun v => 1 ≤ v ∧ v ≤ 2147483647 ∧ v ≠ own := by
  refine ⟨fun search pid hpid => ?_, fun answer pid => mem_pids_iff, pids_answer own⟩
  unfold targets at hpid
  split at hpid
  · exact (mem_pids_iff.mp hpid).1
  · cases hpid

/-- The answer 12 and 7 to the process 7. -/
theorem pids_exact_two : (12 : Int) ∈ targets 7 (some ⟨true, [49, 50, 10, 55, 10]⟩) ∧
    (1 : Int) ≤ 12 ∧ (12 : Int) ≤ 2147483647 ∧ (12 : Int) ≠ 7 :=
  ⟨by decide, (pids_exact 7).1 (some ⟨true, [49, 50, 10, 55, 10]⟩) 12 (by decide)⟩

end SnippetLab.Orphans
