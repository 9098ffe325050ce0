import Mathlib.Logic.ExistsUnique
import SnippetLab.Proofs.Symbol.Rule
import SnippetLab.Proofs.Text.Search
import SnippetLab.Symbol.Mine

/-! Where the user's module is found in a dump. The markers are told apart by their characters, so two of them never
overlap; this is why nothing is left for the execute marker to cut off once the first strategy has failed. The section
begins at a module, but only the first strategy ends it in front of the next one. -/
namespace SnippetLab.UserSection

open SnippetLab.Text

/-! ### What the strategies look for -/

structure Executes (dump : List Char) (start execute : Nat) : Prop where
  isLast_execute : IsLastAt executeMarker dump execute
  pos : 0 < execute
  isLast_module : IsLastAt moduleMarker (dump.take execute) start

def Enters (dump : List Char) (start : Nat) : Prop :=
  ∃ entry, IsFirstAt entryMarker dump entry ∧ IsLastAt moduleMarker (dump.take entry) start

def namedModules (dump : List Char) : List (Match Capture) := (MiningRule.named "(Module \"" "").findAll dump

/-- The last named module that is no system module. -/
structure IsLastUserModule (dump : List Char) (start : Nat) : Prop where
  exists_user : ∃ m ∈ namedModules dump, isSystemModule m.value.name = false ∧ m.start = start
  last : ∀ m ∈ namedModules dump, isSystemModule m.value.name = false → m.start ≤ start

/-- The strategy that finds the user's module, and the stretch of the dump that it takes. A strategy comes into
play where the ones before it find nothing. -/
inductive Located (dump : List Char) : LocateStrategy → (start stop : Nat) → Prop
  | beforeExecute {start execute : Nat} (h : Executes dump start execute) : Located dump .beforeExecute start execute
  | entryFunction {start : Nat} (hexecute : ∀ start execute, ¬Executes dump start execute) (h : Enters dump start) :
      Located dump .entryFunction start dump.length
  | lastUserModule {start : Nat} (hexecute : ∀ start execute, ¬Executes dump start execute)
      (hentry : ∀ start, ¬Enters dump start) (h : IsLastUserModule dump start) :
      Located dump .lastUserModule start dump.length
  | tail (hexecute : ∀ start execute, ¬Executes dump start execute) (hentry : ∀ start, ¬Enters dump start)
      (huser : ∀ m ∈ namedModules dump, isSystemModule m.value.name = true) :
      Located dump .tail (dump.length - min tailLength dump.length) dump.length

/-- What is cut off a stretch around the module. -/
def cut : LocateStrategy → List Char → List Char
  | .beforeExecute => trim
  | .entryFunction | .lastUserModule => trimEnd
  | .tail => id

variable {dump : List Char} {strategy : LocateStrategy} {start stop execute : Nat} {found : UserSection}

theorem executeMarker_ne_nil : executeMarker ≠ [] := by decide

theorem moduleMarker_ne_nil : moduleMarker ≠ [] := by decide

theorem IsLastUserModule.unique {start' : Nat} (h : IsLastUserModule dump start)
    (h' : IsLastUserModule dump start') : start = start' := by
  obtain ⟨m, hm, huser, rfl⟩ := h.exists_user
  obtain ⟨m', hm', huser', rfl⟩ := h'.exists_user
  exact Nat.le_antisymm (h'.last m hm huser) (h.last m' hm' huser')

theorem beforeExecute?_eq_some_iff : beforeExecute? dump = some found ↔
    ∃ start execute, Executes dump start execute ∧
      found = ⟨trim ((dump.take execute).drop start), .beforeExecute⟩ := by
  unfold beforeExecute?
  simp only [Option.bind_eq_bind, Option.bind_eq_some_iff, Option.pure_def,
    findLast?_eq_some_iff executeMarker_ne_nil]
  constructor
  · rintro ⟨execute, hexecute, h⟩
    split at h
    · cases h
    · next hpos =>
      obtain ⟨start, hstart, hfound⟩ := Option.bind_eq_some_iff.mp h
      have hmodule := (findLast?_eq_some_iff moduleMarker_ne_nil).mp hstart
      exact ⟨start, execute, ⟨hexecute, Nat.pos_of_ne_zero hpos, hmodule⟩, (Option.some.inj hfound).symm⟩
  · rintro ⟨start, execute, h, rfl⟩
    refine ⟨execute, h.isLast_execute, ?_⟩
    rw [if_neg (Nat.ne_of_gt h.pos)]
    exact Option.bind_eq_some_iff.mpr ⟨start, (findLast?_eq_some_iff moduleMarker_ne_nil).mpr h.isLast_module, rfl⟩

theorem beforeExecute?_eq_none_iff :
    beforeExecute? dump = none ↔ ∀ start execute, ¬Executes dump start execute := by
  rw [Option.eq_none_iff_forall_ne_some]
  constructor
  · intro h start execute hexecute
    exact h _ (beforeExecute?_eq_some_iff.mpr ⟨start, execute, hexecute, rfl⟩)
  · intro h found hfound
    obtain ⟨start, execute, hexecute, -⟩ := beforeExecute?_eq_some_iff.mp hfound
    exact h start execute hexecute

theorem entryFunction?_eq_some_iff : entryFunction? dump = some found ↔
    ∃ start entry, IsFirstAt entryMarker dump entry ∧ IsLastAt moduleMarker (dump.take entry) start ∧
      found = ⟨trim ((dump.take entry).drop start ++ untilExecute (dump.drop entry)), .entryFunction⟩ := by
  unfold entryFunction?
  simp only [Option.bind_eq_bind, Option.bind_eq_some_iff, Option.pure_def, Option.some.injEq,
    find?_eq_some_iff, findLast?_eq_some_iff moduleMarker_ne_nil]
  constructor
  · rintro ⟨entry, hentry, start, hstart, rfl⟩
    exact ⟨start, entry, hentry, hstart, rfl⟩
  · rintro ⟨start, entry, hentry, hstart, rfl⟩
    exact ⟨entry, hentry, start, hstart, rfl⟩

theorem entryFunction?_eq_none_iff : entryFunction? dump = none ↔ ∀ start, ¬Enters dump start := by
  rw [Option.eq_none_iff_forall_ne_some]
  constructor
  · rintro h start ⟨entry, hentry, hstart⟩
    exact h _ (entryFunction?_eq_some_iff.mpr ⟨start, entry, hentry, hstart, rfl⟩)
  · intro h found hfound
    obtain ⟨start, entry, hentry, hstart, -⟩ := entryFunction?_eq_some_iff.mp hfound
    exact h start ⟨entry, hentry, hstart⟩

theorem start_le_of_mem_namedModules {m n : Match Capture} {users : List (Match Capture)}
    (hsub : users.Sublist (namedModules dump)) (hlast : users.getLast? = some n) (hm : m ∈ users) :
    m.start ≤ n.start := by
  obtain ⟨front, rfl⟩ := List.getLast?_eq_some_iff.mp hlast
  rcases List.mem_append.mp hm with hfront | hend
  · have hapart := List.pairwise_append.mp ((Pattern.pairwise_findAll _ dump).sublist hsub)
    have hle := hapart.2.2 m hfront n List.mem_cons_self
    have hlt := (Pattern.isOf_of_mem_findAll (MiningRule.named_advances _ _) (hsub.mem hm)).start_lt_stop
    omega
  · cases List.mem_singleton.mp hend
    exact Nat.le_refl _

theorem lastUserModule?_eq_some_iff : lastUserModule? dump = some found ↔
    ∃ start, IsLastUserModule dump start ∧
      found = ⟨trim (untilExecute (dump.drop start)), .lastUserModule⟩ := by
  unfold lastUserModule?
  simp only [Option.bind_eq_bind, Option.bind_eq_some_iff, Option.pure_def, Option.some.injEq]
  have hlast {m : Match Capture}
      (h : ((namedModules dump).filter fun m => !isSystemModule m.value.name).getLast? = some m) :
      IsLastUserModule dump m.start := by
    have hmem := List.mem_of_getLast? h
    rw [List.mem_filter, Bool.not_eq_true'] at hmem
    refine ⟨⟨m, hmem.1, hmem.2, rfl⟩, fun n hn huser => ?_⟩
    exact start_le_of_mem_namedModules List.filter_sublist h (List.mem_filter.mpr ⟨hn, by rw [huser]; rfl⟩)
  constructor
  · rintro ⟨m, hm, rfl⟩
    exact ⟨m.start, hlast hm, rfl⟩
  · rintro ⟨start, h, rfl⟩
    obtain ⟨m, hm, huser, -⟩ := h.exists_user
    have hmem : m ∈ (namedModules dump).filter fun m => !isSystemModule m.value.name :=
      List.mem_filter.mpr ⟨hm, by rw [huser]; rfl⟩
    have hn := List.getLast?_eq_some_getLast (List.ne_nil_of_mem hmem)
    exact ⟨_, hn, by rw [h.unique (hlast hn)]⟩

theorem lastUserModule?_eq_none_iff :
    lastUserModule? dump = none ↔ ∀ m ∈ namedModules dump, isSystemModule m.value.name = true := by
  unfold lastUserModule?
  simp only [Option.bind_eq_bind, Option.bind_eq_none_iff, Option.pure_def, reduceCtorEq, imp_false,
    ← Option.eq_none_iff_forall_ne_some, List.getLast?_eq_none_iff, List.filter_eq_nil_iff, Bool.not_eq_true,
    Bool.not_eq_false', namedModules]

/-! ### No execute marker follows -/

theorem moduleMarker_of_mem_namedModules {m : Match Capture} (hm : m ∈ namedModules dump) :
    moduleMarker <+: dump.drop m.start := by
  have hholds := (Pattern.isOf_of_mem_findAll (MiningRule.named_advances _ _) hm).holds
  rw [(MiningRule.named_eq_some_iff.mp hholds).2.2]
  exact List.prefix_append _ _

/-- An execute marker behind a module would be one that the first strategy takes. -/
theorem not_executed (hnone : ∀ start execute, ¬Executes dump start execute)
    (hmodule : moduleMarker <+: dump.drop start) : ¬executeMarker <:+: dump.drop start := by
  intro hinside
  obtain ⟨k, hk⟩ := infix_iff_exists_stands.mp hinside
  rw [List.drop_drop] at hk
  obtain ⟨execute, hexecute⟩ := exists_isLastAt executeMarker_ne_nil hk
  have hle : start ≤ execute := Nat.le_trans (Nat.le_add_right start k) (hexecute.last _ hk)
  have hbehind := add_length_le_of_not_mem hmodule hexecute.stands hle rfl (by decide)
  have hpos : 0 < execute := Nat.lt_of_lt_of_le (by decide) (Nat.le_trans (Nat.le_add_left _ start) hbehind)
  obtain ⟨last, hlast⟩ := exists_isLastAt moduleMarker_ne_nil
    ((stands_take_iff moduleMarker_ne_nil).mpr ⟨hmodule, hbehind⟩)
  exact hnone last execute ⟨hexecute, hpos, hlast⟩

theorem untilExecute_eq_self {cs : List Char} (h : ¬executeMarker <:+: cs) : untilExecute cs = cs := by
  have hfind : find? executeMarker cs = none :=
    find?_eq_none_iff.mpr fun i hi => h (infix_iff_exists_stands.mpr ⟨i, hi⟩)
  rw [untilExecute, hfind]

/-! ### Where the section lies -/

theorem Enters.stands (h : Enters dump start) : moduleMarker <+: dump.drop start := by
  obtain ⟨entry, -, hstart⟩ := h
  exact ((stands_take_iff moduleMarker_ne_nil).mp hstart.stands).1

theorem IsLastUserModule.stands (h : IsLastUserModule dump start) : moduleMarker <+: dump.drop start := by
  obtain ⟨m, hm, -, rfl⟩ := h.exists_user
  exact moduleMarker_of_mem_namedModules hm

theorem trim_eq_trimEnd_of_module {cs : List Char} (h : moduleMarker <+: cs) : trim cs = trimEnd cs := by
  obtain ⟨rest, rfl⟩ := h
  exact trim_eq_trimEnd (c := '(') rfl (by decide)

theorem Located.locate_eq (h : Located dump strategy start stop) :
    locate dump = ⟨cut strategy ((dump.take stop).drop start), strategy⟩ := by
  cases h with
  | beforeExecute h =>
    rw [locate, beforeExecute?_eq_some_iff.mpr ⟨_, _, h, rfl⟩]
    rfl
  | entryFunction hexecute h =>
    have hmodule := h.stands
    have hinside := not_executed hexecute hmodule
    obtain ⟨entry, hfirst, hstart⟩ := h
    have hle := ((stands_take_iff moduleMarker_ne_nil).mp hstart.stands).2
    have hlength := add_length_le_of_stands (by decide) hfirst.stands
    have hrest : ¬executeMarker <:+: dump.drop entry :=
      fun h => hinside (h.trans (List.drop_suffix_drop_left _ (by omega)).isInfix)
    have htext : trim ((dump.take entry).drop start ++ untilExecute (dump.drop entry)) =
        trimEnd (dump.drop start) := by
      rw [untilExecute_eq_self hrest, ← List.drop_append_of_le_length (by rw [List.length_take]; omega),
        List.take_append_drop, trim_eq_trimEnd_of_module hmodule]
    rw [locate, beforeExecute?_eq_none_iff.mpr hexecute, entryFunction?_eq_some_iff.mpr ⟨_, _, hfirst, hstart, rfl⟩,
      htext, List.take_length]
    rfl
  | lastUserModule hexecute hentry h =>
    rw [locate, beforeExecute?_eq_none_iff.mpr hexecute, entryFunction?_eq_none_iff.mpr hentry,
      lastUserModule?_eq_some_iff.mpr ⟨_, h, rfl⟩, untilExecute_eq_self (not_executed hexecute h.stands),
      trim_eq_trimEnd_of_module h.stands, List.take_length]
    rfl
  | tail hexecute hentry huser =>
    have hcount : dump.length - min tailLength dump.length = dump.length - tailLength := by omega
    rw [locate, beforeExecute?_eq_none_iff.mpr hexecute, entryFunction?_eq_none_iff.mpr hentry,
      lastUserModule?_eq_none_iff.mpr huser, List.take_length, hcount]
    simp only [Option.or_none, Option.getD_none, UserSection.tail, cut, id_eq]

theorem exists_located (dump : List Char) : ∃ strategy start stop, Located dump strategy start stop := by
  cases hbefore : beforeExecute? dump with
  | some found =>
    obtain ⟨start, execute, h, -⟩ := beforeExecute?_eq_some_iff.mp hbefore
    exact ⟨_, _, _, .beforeExecute h⟩
  | none =>
    have hexecute := beforeExecute?_eq_none_iff.mp hbefore
    cases hentry : entryFunction? dump with
    | some found =>
      obtain ⟨start, entry, hfirst, hstart, -⟩ := entryFunction?_eq_some_iff.mp hentry
      exact ⟨_, _, _, .entryFunction hexecute ⟨entry, hfirst, hstart⟩⟩
    | none =>
      have hnoEntry := entryFunction?_eq_none_iff.mp hentry
      cases hlast : lastUserModule? dump with
      | some found =>
        obtain ⟨start, h, -⟩ := lastUserModule?_eq_some_iff.mp hlast
        exact ⟨_, _, _, .lastUserModule hexecute hnoEntry h⟩
      | none => exact ⟨_, _, _, .tail hexecute hnoEntry (lastUserModule?_eq_none_iff.mp hlast)⟩

theorem locate_eq_iff : locate dump = found ↔
    ∃ start stop, Located dump found.strategy start stop ∧
      found.text = cut found.strategy ((dump.take stop).drop start) := by
  constructor
  · rintro rfl
    obtain ⟨strategy, start, stop, h⟩ := exists_located dump
    rw [h.locate_eq]
    exact ⟨start, stop, h, rfl⟩
  · rintro ⟨start, stop, h, htext⟩
    rw [h.locate_eq, ← htext]

theorem infix_cut (strategy : LocateStrategy) (cs : List Char) : cut strategy cs <:+: cs := by
  cases strategy with
  | beforeExecute => exact infix_trim cs
  | entryFunction | lastUserModule => exact (prefix_trimEnd cs).isInfix
  | tail => exact List.infix_rfl

/-- The strategies one after another. What is coded as an end of the section in the second and in the third one
never ends it, since a dump with an execute marker behind a module is left to the first one. -/
theorem locate_spec (dump : List Char) :
    (∀ found, locate dump = found ↔ ∃ start stop, Located dump found.strategy start stop ∧
      found.text = cut found.strategy ((dump.take stop).drop start)) ∧
    (∀ start stop, Located dump .entryFunction start stop ∨ Located dump .lastUserModule start stop →
      ¬executeMarker <:+: dump.drop start ∧ ∀ i, start ≤ i → untilExecute (dump.drop i) = dump.drop i) ∧
    (locate dump).text <:+: dump := by
  refine ⟨fun found => locate_eq_iff, ?_, ?_⟩
  · intro start stop h
    have hinside : ¬executeMarker <:+: dump.drop start := by
      rcases h with hentry | hlast
      · cases hentry with
        | entryFunction hexecute h => exact not_executed hexecute h.stands
      · cases hlast with
        | lastUserModule hexecute _ h => exact not_executed hexecute h.stands
    refine ⟨hinside, fun i hi => untilExecute_eq_self fun hrest => hinside ?_⟩
    exact hrest.trans (List.drop_suffix_drop_left _ hi).isInfix
  · obtain ⟨strategy, start, stop, h⟩ := exists_located dump
    rw [h.locate_eq]
    exact (infix_cut _ _).trans ((List.drop_suffix _ _).isInfix.trans (List.take_prefix _ _).isInfix)

/-- An entry function, and a system module behind it. -/
def entryBeforeLibrary : List Char :=
  "(Module \"м\" (EntryFn))\n".toList ++ "(Module \"стд::вывод\" (Function \"цел\" \"functype\"))".toList

theorem located_entryBeforeLibrary :
    Located entryBeforeLibrary .entryFunction 0 entryBeforeLibrary.length := by
  refine .entryFunction (beforeExecute?_eq_none_iff.mp (by decide +kernel)) ⟨12, ?_, ?_⟩
  · exact find?_eq_some_iff.mp (by decide +kernel)
  · exact (findLast?_eq_some_iff moduleMarker_ne_nil).mp (by decide +kernel)

theorem cut_entryBeforeLibrary :
    cut .entryFunction ((entryBeforeLibrary.take entryBeforeLibrary.length).drop 0) = entryBeforeLibrary := by
  decide +kernel

theorem locate_spec_entryBeforeLibrary :
    locate entryBeforeLibrary = ⟨entryBeforeLibrary, .entryFunction⟩ ∧
      ¬executeMarker <:+: entryBeforeLibrary := by
  have hspec := locate_spec entryBeforeLibrary
  exact ⟨(hspec.1 _).mpr ⟨0, _, located_entryBeforeLibrary, cut_entryBeforeLibrary.symm⟩,
    (hspec.2.1 _ _ (.inl located_entryBeforeLibrary)).1⟩

/-! ### Blocks of a single module -/

/-- A text that begins with a module and holds neither another module nor an execute marker. -/
structure IsBlock (text : List Char) : Prop where
  module : moduleMarker <+: text
  alone : ∃! i, moduleMarker <+: text.drop i
  ended : ¬executeMarker <:+: text

theorem Located.stands (h : Located dump strategy start stop) (hs : strategy ≠ .tail) :
    moduleMarker <+: (dump.take stop).drop start := by
  cases h with
  | beforeExecute h => exact h.isLast_module.stands
  | entryFunction _ h =>
    rw [List.take_length]
    exact h.stands
  | lastUserModule _ _ h =>
    rw [List.take_length]
    exact h.stands
  | tail => exact absurd rfl hs

theorem Located.text_eq (h : Located dump strategy start stop) (hs : strategy ≠ .tail) :
    (locate dump).text = trimEnd ((dump.take stop).drop start) := by
  have hmodule := h.stands hs
  rw [h.locate_eq]
  cases strategy with
  | beforeExecute => exact trim_eq_trimEnd_of_module hmodule
  | entryFunction | lastUserModule => rfl
  | tail => exact absurd rfl hs

theorem Located.module_text (h : Located dump strategy start stop) (hs : strategy ≠ .tail) :
    moduleMarker <+: (locate dump).text := by
  rw [h.text_eq hs]
  exact (stands_trimEnd_iff ⟨'"', rfl, by decide⟩ _ 0).mpr (h.stands hs)

/-- The end of the stretch cuts no marker in two. -/
theorem Located.add_length_le (h : Located dump strategy start stop) {p : List Char}
    (hp : p = moduleMarker ∨ p = executeMarker) {i : Nat} (hstands : p <+: dump.drop i) (hi : i < stop) :
    i + p.length ≤ stop := by
  have hne : p ≠ [] := by rcases hp with rfl | rfl <;> decide
  cases h with
  | entryFunction | lastUserModule | tail => exact add_length_le_of_stands hne hstands
  | beforeExecute h =>
    refine add_length_le_of_getElem?_ne hstands h.isLast_execute.stands (Nat.le_of_lt hi) rfl ?_
    obtain ⟨k, hk⟩ := Nat.exists_eq_add_of_lt hi
    rw [hk, show i + k + 1 - i = k + 1 by omega, ← List.getElem?_tail]
    rcases hp with rfl | rfl <;> exact fun h => absurd (List.mem_of_getElem? h) (by decide)

theorem Located.stands_text_iff (h : Located dump strategy start stop) (hs : strategy ≠ .tail) {p : List Char}
    (hp : p = moduleMarker ∨ p = executeMarker) (i : Nat) :
    p <+: (locate dump).text.drop i ↔ p <+: dump.drop (start + i) ∧ start + i < stop := by
  have hne : p ≠ [] := by rcases hp with rfl | rfl <;> decide
  have hpos := List.length_pos_iff.mpr hne
  have hlast : ∃ c ∈ p.getLast?, isBlank c = false := by
    rcases hp with rfl | rfl
    · exact ⟨'"', rfl, by decide⟩
    · exact ⟨':', rfl, by decide⟩
  rw [h.text_eq hs, stands_trimEnd_iff hlast, List.drop_drop, stands_take_iff hne]
  refine and_congr_right fun hstands => ⟨fun hle => by omega, fun hlt => ?_⟩
  exact h.add_length_le hp hstands hlt

theorem Located.unique_of_beforeExecute (h : Located dump .beforeExecute start stop) :
    ∃! i, moduleMarker <+: (locate dump).text.drop i := by
  refine ⟨0, h.module_text nofun, fun i hi => ?_⟩
  obtain ⟨hdump, hlt⟩ := (h.stands_text_iff nofun (.inl rfl) i).mp hi
  have hfits := h.add_length_le (.inl rfl) hdump hlt
  cases h with
  | beforeExecute h =>
    have hlast := h.isLast_module.last _ ((stands_take_iff moduleMarker_ne_nil).mpr ⟨hdump, hfits⟩)
    omega

theorem Located.text_not_executed (h : Located dump strategy start stop) (hs : strategy ≠ .tail)
    (hb : strategy ≠ .beforeExecute) : ¬executeMarker <:+: (locate dump).text := by
  have hmodule := ((stands_take_iff moduleMarker_ne_nil).mp (h.stands hs)).1
  have hnone : ¬executeMarker <:+: dump.drop start := by
    cases h with
    | beforeExecute => exact absurd rfl hb
    | entryFunction hexecute => exact not_executed hexecute hmodule
    | lastUserModule hexecute => exact not_executed hexecute hmodule
    | tail => exact absurd rfl hs
  rw [h.text_eq hs]
  refine fun hinside => hnone (hinside.trans ((prefix_trimEnd _).isInfix.trans ?_))
  rw [List.drop_take]
  exact (List.take_prefix _ _).isInfix

/-- Where no marker begins behind the start of the stretch, none begins behind the start of the section. -/
theorem Located.eq_zero_of_stands (h : Located dump strategy start stop) (hs : strategy ≠ .tail)
    (hnone : ∀ i, start < i → i < stop → ¬moduleMarker <+: dump.drop i ∧ ¬executeMarker <+: dump.drop i)
    {p : List Char} (hp : p = moduleMarker ∨ p = executeMarker) {i : Nat} (hi : p <+: (locate dump).text.drop i) :
    i = 0 := by
  obtain ⟨hdump, hlt⟩ := (h.stands_text_iff hs hp i).mp hi
  refine Nat.eq_zero_of_not_pos fun hpos => ?_
  have hfree := hnone (start + i) (by omega) hlt
  rcases hp with rfl | rfl
  · exact hfree.1 hdump
  · exact hfree.2 hdump

/-- Where a module is found, the section begins with it, and it is the block of this module if neither another
module nor an execute marker begins in the stretch behind it. The first strategy leaves out the other modules and
the two others leave out the execute markers, but none of them looks for the end of the block. -/
theorem isBlock_locate_iff (h : Located dump strategy start stop) (hs : strategy ≠ .tail) :
    moduleMarker <+: (locate dump).text ∧
    (strategy = .beforeExecute → ∃! i, moduleMarker <+: (locate dump).text.drop i) ∧
    (strategy ≠ .beforeExecute → ¬executeMarker <:+: (locate dump).text) ∧
    (IsBlock (locate dump).text ↔
      ∀ i, start < i → i < stop → ¬moduleMarker <+: dump.drop i ∧ ¬executeMarker <+: dump.drop i) := by
  have hbegin := h.module_text hs
  have hmodule (i : Nat) := h.stands_text_iff hs (.inl rfl) i
  have hexecute (i : Nat) := h.stands_text_iff hs (.inr rfl) i
  refine ⟨hbegin, ?_, h.text_not_executed hs, ?_, ?_⟩
  · rintro rfl
    exact h.unique_of_beforeExecute
  · intro hblock i hstart hstop
    obtain ⟨k, rfl⟩ := Nat.exists_eq_add_of_lt hstart
    refine ⟨fun hi => ?_, fun hi => ?_⟩
    · have hagain : k + 1 = 0 := hblock.alone.unique ((hmodule (k + 1)).mpr ⟨hi, hstop⟩) hbegin
      omega
    · exact hblock.ended (infix_iff_exists_stands.mpr ⟨k + 1, (hexecute (k + 1)).mpr ⟨hi, hstop⟩⟩)
  · intro hnone
    refine ⟨hbegin, ⟨0, hbegin, fun i hi => h.eq_zero_of_stands hs hnone (.inl rfl) hi⟩, fun hinside => ?_⟩
    obtain ⟨i, hi⟩ := infix_iff_exists_stands.mp hinside
    obtain rfl := h.eq_zero_of_stands hs hnone (.inr rfl) hi
    -- Both markers would begin the section, with different characters.
    have hover : 0 + moduleMarker.length ≤ 0 := add_length_le_of_not_mem hbegin hi (Nat.le_refl 0) rfl (by decide)
    exact absurd hover (by decide)

/-- The section that the entry function leads to goes on into the system module. -/
theorem isBlock_locate_entryBeforeLibrary :
    moduleMarker <+: (locate entryBeforeLibrary).text ∧ ¬executeMarker <:+: (locate entryBeforeLibrary).text :=
  have hblock := isBlock_locate_iff located_entryBeforeLibrary nofun
  ⟨hblock.1, hblock.2.2.1 nofun⟩

/-- What the system module defines counts as the user's. -/
theorem not_isBlock_locate :
    (locate entryBeforeLibrary).strategy = .entryFunction ∧ ¬IsBlock (locate entryBeforeLibrary).text ∧
      (SymbolMap.mine (String.ofList entryBeforeLibrary)).get? "цел" = some ⟨.userFunction, none⟩ := by
  have hlocate := located_entryBeforeLibrary.locate_eq
  rw [cut_entryBeforeLibrary] at hlocate
  rw [SymbolMap.mine, String.toList_ofList, hlocate]
  refine ⟨rfl, fun hblock => ?_, by decide +kernel⟩
  have hagain : 0 = 23 := hblock.alone.unique (by decide +kernel) (by decide +kernel)
  cases hagain

end SnippetLab.UserSection
