import SnippetLab.Proofs.Lab.Refusal
import SnippetLab.Proofs.Text.Offset
import SnippetLab.Proofs.Text.Search

/-!
What an outcome says. All that the service itself has to say is text, and so is what a compiler printed. Only the
output of a program is passed on as it is, blank or not, up to the limit on its length.
-/
namespace SnippetLab

open SnippetLab.Text

/-! ### Blank texts -/

namespace Text

theorem allBlank_trimmed (s : String) : allBlank (trimmed s).toList = allBlank s.toList := by
  rw [trimmed, String.toList_ofList]
  exact all_trim (fun _ h => h) s.toList

theorem isBlank_of_head?_trim {cs : List Char} {c : Char} (h : (trim cs).head? = some c) : isBlank c = false := by
  have hfront : trim cs <+: trimStart cs := by
    rw [trim, trimEnd, ← List.reverse_suffix, List.reverse_reverse]
    exact List.dropWhile_suffix isBlank
  obtain ⟨rest, hrest⟩ := hfront
  have hhead : (cs.dropWhile isBlank).head? = some c := by
    rw [← trimStart, ← hrest, List.head?_append, h, Option.some_or]
  have hvisible := List.head?_dropWhile_not isBlank cs
  rw [hhead] at hvisible
  exact hvisible

theorem allBlank_trimmed_eq_false {s : String} (h : (trimmed s).isEmpty = false) :
    allBlank (trimmed s).toList = false := by
  rw [trimmed, String.toList_ofList]
  cases hcs : trim s.toList with
  | nil =>
    rw [trimmed, hcs] at h
    cases h
  | cons c cs =>
    have hc : isBlank c = false := isBlank_of_head?_trim (by rw [hcs]; rfl)
    rw [allBlank, List.all_cons, hc, Bool.false_and]

theorem allBlank_append_eq_false {front back : String} (h : allBlank front.toList = false) :
    allBlank (front ++ back).toList = false := by
  rw [String.toList_append, allBlank, List.all_append, ← allBlank, h, Bool.false_and]

/-- Cutting hides that there was something, but says so. -/
theorem allBlank_truncate_trimmed (max : Nat) (s : String) :
    allBlank (truncate max (trimmed s)).toList = allBlank s.toList := by
  unfold truncate
  split
  · exact allBlank_trimmed s
  · next hlong =>
    have hmarker : allBlank truncationMarker.toList = false := by decide
    have hsome : (trimmed s).isEmpty = false := by
      rw [Bool.eq_false_iff]
      intro hempty
      rw [String.isEmpty_iff] at hempty
      exact hlong (by rw [hempty]; exact Nat.zero_le _)
    rw [String.toList_append, allBlank, List.all_append, ← allBlank, ← allBlank, hmarker, Bool.and_false,
      ← allBlank_trimmed s, allBlank_trimmed_eq_false hsome]

/-! ### Cut texts -/

theorem truncate_of_length_le {max : Nat} {s : String} (h : s.length ≤ max) : truncate max s = s :=
  if_pos h

theorem truncate_of_lt_length {max : Nat} {s : String} (h : max < s.length) :
    truncate max s = String.ofList (s.toList.take max) ++ truncationMarker :=
  if_neg (Nat.not_le.mpr h)

theorem length_truncate_le (max : Nat) (s : String) :
    (truncate max s).length ≤ max + truncationMarker.length := by
  unfold truncate
  split
  · omega
  · rw [String.length_append, String.length_ofList]
    have hfront := List.length_take_le max s.toList
    omega

/-- What a first cut puts behind the text is behind a second one that is no later. -/
theorem truncate_truncate {n m : Nat} (h : n ≤ m) (s : String) :
    truncate n (truncate m s) = truncate n s := by
  by_cases hshort : s.length ≤ m
  · rw [truncate_of_length_le hshort]
  · have hlong : m < s.length := Nat.not_le.mp hshort
    have hfront : (s.toList.take m).length = m := List.length_take_of_le (Nat.le_of_lt hlong)
    have hmarker : 0 < truncationMarker.length := by decide
    have hcut : n < (String.ofList (s.toList.take m) ++ truncationMarker).length := by
      rw [String.length_append, String.length_ofList]
      omega
    have hkeeps : n ≤ (s.toList.take m).length := by omega
    rw [truncate_of_lt_length hlong, truncate_of_lt_length hcut, truncate_of_lt_length (Nat.lt_of_le_of_lt h hlong),
      String.toList_append, String.toList_ofList, List.take_append_of_le_length hkeeps, List.take_take,
      Nat.min_eq_left h]

/-- The octets of a text up to where its character number `max` begins, and the marker; all of them if it has no
such character. -/
def cutOctets (max : Nat) (cs : List Char) : List UInt8 :=
  match (starts 0 cs)[max]? with
  | some cut => (Utf8.encode cs).take cut ++ Utf8.encode truncationMarker.toList
  | none => Utf8.encode cs

/-- To cut where a character begins is to cut between characters. -/
theorem encode_truncate (max : Nat) (s : String) : Utf8.encode (truncate max s).toList = cutOctets max s.toList := by
  unfold cutOctets
  rw [getElem?_starts, String.length_toList]
  by_cases hlong : max < s.length
  · have hsplit : Utf8.encode s.toList = Utf8.encode (s.toList.take max) ++ Utf8.encode (s.toList.drop max) := by
      rw [← Utf8.encode_append, List.take_append_drop]
    rw [if_pos hlong, truncate_of_lt_length hlong, String.toList_append, String.toList_ofList, Utf8.encode_append,
      hsplit, Nat.zero_add, octetAt, ← Utf8.length_encode]
    simp
  · rw [if_neg hlong, truncate_of_length_le (Nat.not_lt.mp hlong)]

end Text

/-! ### What is answered -/

def Trial.Ran (t : Trial) (r : RunResult) : Prop :=
  t.Compiled ∧ ∃ program, t.located = some program ∧ (t.execution program).1 = .ok r

/-- The program was run, did not end with zero and printed nothing that can be seen. -/
def Trial.FailsSilently (t : Trial) : Prop :=
  t.Compiled ∧ ∃ program, t.located = some program ∧
    ∃ r, (t.execution program).1 = .ok r ∧ r.status ≠ .code 0 ∧ allBlank r.output.toList = true

namespace CompileOutcome

/-- Something went wrong, and nobody can read what. -/
def IsMute (o : CompileOutcome) : Prop := o.isSuccess = false ∧ allBlank o.text.toList = true

theorem not_isMute {o : CompileOutcome} (h : allBlank o.text.toList = false) : ¬o.IsMute := by
  rintro ⟨-, hblank⟩
  rw [h] at hblank
  cases hblank

end CompileOutcome

namespace Lab

theorem allBlank_refusal {s : Settings} {source text : String} (h : accept s source = .error text) :
    allBlank text.toList = false := by
  unfold accept at h
  split at h
  · cases h
    decide
  · split at h
    · cases h
      exact allBlank_append_eq_false (allBlank_append_eq_false (by decide))
    · cases h

theorem allBlank_compilerFailure (e : Failure) : allBlank (compilerFailure e).toList = false := by
  cases e with
  | timedOut ms => exact allBlank_append_eq_false (allBlank_append_eq_false (by decide))
  | io _ | config _ | inputRejected _ | spawnFailed _ _ | process _ | analysis _ =>
    exact allBlank_append_eq_false (by decide)

/-- A compiler that printed nothing visible is spoken for. -/
theorem allBlank_compilerComplaint (status : ExitStatus) (output : String) :
    allBlank (compilerComplaint status (trimmed output)).toList = false := by
  unfold compilerComplaint
  split
  · next hsome => exact allBlank_trimmed_eq_false (by simpa using hsome)
  · cases status with
    | code n => exact allBlank_append_eq_false (by decide)
    | signal n =>
      dsimp only
      decide

theorem allBlank_of_compileSource {launch : Launcher} {s : Settings} {directory base text : String} {l : Lab}
    (h : (l.compileSource launch s directory base).1 = .error text) : allBlank text.toList = false := by
  unfold compileSource at h
  dsimp only at h
  split at h
  · cases h
    exact allBlank_compilerFailure _
  · split at h
    · cases h
    · have htext := Except.error.inj h
      rw [← htext]
      exact allBlank_compilerComplaint _ _

theorem programOutcome_isMute_iff {maxOutput elapsed : Nat} {result : Except Failure RunResult} :
    (programOutcome maxOutput elapsed result).IsMute ↔
      ∃ r, result = .ok r ∧ r.status ≠ .code 0 ∧ allBlank r.output.toList = true := by
  cases result with
  | error e =>
    refine iff_of_false (CompileOutcome.not_isMute ?_) (fun ⟨_, h, _⟩ => nomatch h)
    cases e with
    | timedOut ms => exact allBlank_append_eq_false (allBlank_append_eq_false (by decide))
    | io _ | config _ | inputRejected _ | spawnFailed _ _ | process _ | analysis _ =>
      exact allBlank_append_eq_false (by decide)
  | ok r =>
    by_cases hstatus : r.status = .code 0
    · simp [programOutcome, RunResult.succeeded, hstatus, CompileOutcome.IsMute, CompileOutcome.isSuccess]
    · simp [programOutcome, RunResult.succeeded, hstatus, CompileOutcome.IsMute, CompileOutcome.isSuccess,
        CompileOutcome.text, allBlank_truncate_trimmed]

theorem judge_isMute_iff (t : Trial) : t.judge.1.IsMute ↔ t.FailsSilently := by
  by_cases hc : t.Compiled
  · cases hlocated : t.located with
    | none =>
      rw [judge_of_compiled hc, hlocated]
      have hmissing : allBlank programMissing.toList = false := by decide
      refine iff_of_false (CompileOutcome.not_isMute hmissing) ?_
      rintro ⟨-, program, hprogram, -⟩
      rw [hlocated] at hprogram
      cases hprogram
    | some program =>
      rw [judge_of_located hc hlocated, programOutcome_isMute_iff]
      simp [Trial.FailsSilently, hc, hlocated]
  · refine iff_of_false ?_ fun h => hc h.1
    obtain ⟨h, -⟩ | ⟨-, text, hsource⟩ := compileSource_cases t
    · exact absurd h hc
    · have hvisible : allBlank text.toList = false := allBlank_of_compileSource (by rw [hsource])
      rw [Trial.judge, judge, hsource]
      exact CompileOutcome.not_isMute hvisible

/-- **The one outcome that says nothing.** Whatever compiler and program do, an outcome other than success
has text that can be read, except that of a program that fails without having printed any. -/
theorem compileAndRun_isMute_iff (launch : Launcher) (s : Settings) (source : String) (l : Lab) :
    (l.compileAndRun launch s source).1.IsMute ↔
      ∃ w t, Trial.Prepared launch s source l w t ∧ t.FailsSilently := by
  constructor
  · intro hmute
    cases haccept : accept s source with
    | error text =>
      rw [compileAndRun_of_refused haccept] at hmute
      exact absurd hmute (CompileOutcome.not_isMute (allBlank_refusal haccept))
    | ok u =>
      by_cases hready : ∃ w t, Trial.Prepared launch s source l w t
      · obtain ⟨w, t, h⟩ := hready
        rw [compileAndRun_of_prepared h] at hmute
        exact ⟨w, t, h, (judge_isMute_iff t).mp hmute⟩
      · refine absurd hmute (CompileOutcome.not_isMute ?_)
        rw [exists_prepared_iff haccept] at hready
        rw [compileAndRun, haccept]
        dsimp only
        split
        · exact allBlank_append_eq_false (by decide)
        · next outcome after hjudged =>
          rw [hjudged] at hready
          exact absurd rfl hready
  · rintro ⟨w, t, h, hsilent⟩
    rw [compileAndRun_of_prepared h]
    exact (judge_isMute_iff t).mpr hsilent

/-- The compiler builds `a.out`, which exits with three and prints nothing. -/
def silentFailure (s : Settings) : Launcher := fun situation =>
  if situation.command.program = s.compilerPath then
    let built := situation.tree.writeFile situation.now situation.home
      (Path.join situation.command.directory "a.out") []
    .started { ending := some (0, .code 0) } (built.toOption.getD situation.tree)
  else .started { ending := some (0, .code 3) } situation.tree

theorem compileAndRun_silentFailure :
    let s : Settings := { tempDirectory := "/t" }
    ((ofSettings s {} [] 0).compileAndRun (silentFailure s) s "x").1 = .runtimeError "" 0 ∧
      (CompileOutcome.runtimeError "" 0).IsMute := by
  refine ⟨?_, rfl, rfl⟩
  decide +kernel

/-! ### The output of a program -/

theorem text_programOutcome_ok (maxOutput elapsed : Nat) (r : RunResult) :
    (programOutcome maxOutput elapsed (.ok r)).text = truncate maxOutput (trimmed r.output) := by
  by_cases hstatus : r.status = .code 0
  · simp [programOutcome, RunResult.succeeded, hstatus, CompileOutcome.text]
  · simp [programOutcome, RunResult.succeeded, hstatus, CompileOutcome.text]

theorem exists_ran_of_success {t : Trial} {text : String} {ms : Nat} (h : t.judge.1 = .success text ms) :
    ∃ r, t.Ran r := by
  obtain ⟨started, -, htold⟩ := judge_told t
  have hsuccess := htold.success.mp (by rw [h]; rfl)
  obtain ⟨hcompiled, program, hlocated, r, hr, -⟩ := hsuccess
  exact ⟨r, hcompiled, program, hlocated, hr⟩

section
variable {launch : Launcher} {s : Settings} {source : String} {l : Lab} {w : Workspace} {t : Trial}

theorem text_compileAndRun (h : Trial.Prepared launch s source l w t) {r : RunResult} (hran : t.Ran r) :
    (l.compileAndRun launch s source).1.text = truncate s.maxOutputLength (trimmed r.output) := by
  obtain ⟨hcompiled, program, hlocated, hr⟩ := hran
  have hsettings : t.settings = s := by
    cases h
    rfl
  rw [compileAndRun_of_prepared h, judge_of_located hcompiled hlocated, hr, text_programOutcome_ok, hsettings]

theorem exists_prepared_of_success {text : String} {ms : Nat}
    (h : (l.compileAndRun launch s source).1 = .success text ms) : ∃ w t, Trial.Prepared launch s source l w t := by
  cases haccept : accept s source with
  | error text =>
    rw [compileAndRun_of_refused haccept] at h
    cases h
  | ok u =>
    rw [exists_prepared_iff haccept]
    rw [compileAndRun, haccept] at h
    dsimp only at h
    split at h
    · cases h
    · next outcome after hjudged =>
      rw [hjudged]
      rfl

end

/-- **Cut output.** A text within the limit is kept, a longer one is cut at the character behind it and marked; cutting
again to no more is the same as cutting once. What is answered from the output of a program is that output cut so,
and no success has any other text. -/
theorem answers_are_cut {n m : Nat} (h : n ≤ m) (text : String) :
    (text.length ≤ m → truncate m text = text) ∧
    (m < text.length → truncate m text = String.ofList (text.toList.take m) ++ truncationMarker) ∧
    Utf8.encode (truncate m text).toList = cutOctets m text.toList ∧
    truncate n (truncate m text) = truncate n text ∧
    ∀ (launch : Launcher) (s : Settings) (source : String) (l : Lab),
      let answer := (l.compileAndRun launch s source).1
      (∀ w t r, Trial.Prepared launch s source l w t → t.Ran r →
        answer.text = truncate s.maxOutputLength (trimmed r.output) ∧
          answer.text.length ≤ s.maxOutputLength + truncationMarker.length) ∧
      (answer.isSuccess = true → answer.text.length ≤ s.maxOutputLength + truncationMarker.length) := by
  refine ⟨truncate_of_length_le, truncate_of_lt_length, encode_truncate m text, truncate_truncate h text, ?_⟩
  intro launch s source l answer
  have hbound {w : Workspace} {t : Trial} {r : RunResult} (hprepared : Trial.Prepared launch s source l w t)
      (hran : t.Ran r) : answer.text.length ≤ s.maxOutputLength + truncationMarker.length := by
    rw [text_compileAndRun hprepared hran]
    exact length_truncate_le _ _
  refine ⟨fun w t r hprepared hran => ⟨text_compileAndRun hprepared hran, hbound hprepared hran⟩, ?_⟩
  intro hsuccess
  cases hanswer : answer with
  | success output ms =>
    obtain ⟨w, t, hprepared⟩ := exists_prepared_of_success hanswer
    have hjudge : t.judge.1 = .success output ms := by
      rw [← hanswer]
      exact (congrArg Prod.fst (compileAndRun_of_prepared hprepared)).symm
    obtain ⟨r, hran⟩ := exists_ran_of_success hjudge
    rw [← hanswer]
    exact hbound hprepared hran
  | compilationError _ | runtimeError _ _ | timeout _ =>
    rw [hanswer] at hsuccess
    cases hsuccess

/-- The compiler builds `a.out`, which prints the octets and exits with zero. -/
def talkative (s : Settings) (octets : List UInt8) : Launcher := fun situation =>
  if situation.command.program = s.compilerPath then silentFailure s situation
  else .started { ending := some (0, .code 0), written := octets } situation.tree

theorem answers_are_cut_talkative :
    let s : Settings := { tempDirectory := "/t", maxOutputLength := 2 }
    let answer := ((ofSettings s {} [] 0).compileAndRun (talkative s (Utf8.encode "давай".toList)) s "x").1
    answer = .success ("да" ++ truncationMarker) 0 ∧ truncate 1 answer.text = truncate 1 "давай" ∧
      answer.text.length ≤ 2 + truncationMarker.length := by
  intro s answer
  have hanswer : answer = .success ("да" ++ truncationMarker) 0 := by decide +kernel
  obtain ⟨-, hcut, -, htwice, hbound⟩ := answers_are_cut (show 1 ≤ 2 by decide) "давай"
  refine ⟨hanswer, ?_, (hbound (talkative s (Utf8.encode "давай".toList)) s "x" (ofSettings s {} [] 0)).2 ?_⟩
  · rw [hanswer, ← htwice, hcut (by decide)]
    rfl
  · show answer.isSuccess = true
    rw [hanswer]
    rfl

end Lab
end SnippetLab
