import SnippetLab.Proofs.Process.Course
import SnippetLab.Proofs.Process.Reader

/-!
The output of a run among sweeps and kills. The run gets it unless a kill took the reader before, and a sweep
does that only to a process that it did not see to have ended.
-/
namespace SnippetLab.Concurrent

def Task.targets : Task → List ProcessId
  | killing id _ _ _ => [id]
  | clearing kills => kills.map Prod.fst
  | _ => []

variable {job : Job} {a : Actor} {start s s' : State} {es : List Event} {stage : Stage} {e : Event} {id : ProcessId}

/-! Reasons for a kill -/

def Event.look? (b : Actor) (id : ProcessId) : Event → Option Poll
  | looked c i p => if c = b ∧ i = id then some p else none
  | _ => none

/-- What the sweeps of an actor last saw of a process. -/
def latestLook (b : Actor) (id : ProcessId) (es : List Event) : Option Poll :=
  (es.filterMap (Event.look? b id)).getLast?

theorem latestLook_append_of_none {b : Actor} (he : e.look? b id = none) :
    latestLook b id (es ++ [e]) = latestLook b id es := by simp [latestLook, he]

theorem latestLook_append_looked (b : Actor) (id : ProcessId) (p : Poll) (es : List Event) :
    latestLook b id (es ++ [.looked b id p]) = some p := by simp [latestLook, Event.look?]

/-- When the sweep of the actor last looked, the process was not seen to have ended; or the actor took its entry out
with all. -/
def Condemned (b : Actor) (id : ProcessId) (es : List Event) : Prop :=
  (∃ p, latestLook b id es = some p ∧ ∀ status, p ≠ .exited status) ∨ ∃ ids, id ∈ ids ∧ .cleared b ids ∈ es

theorem Condemned.append {b : Actor} (h : Condemned b id es) (he : e.look? b id = none) :
    Condemned b id (es ++ [e]) := by
  obtain ⟨p, hlook, hp⟩ | ⟨ids, hid, hcleared⟩ := h
  · exact .inl ⟨p, (latestLook_append_of_none he).trans hlook, hp⟩
  · exact .inr ⟨ids, hid, List.mem_append_left _ hcleared⟩

structure Warranted (b : Actor) (task : Task) (es : List Event) : Prop where
  keeping : task.isHousekeeping = true
  condemned : ∀ id ∈ task.targets, Condemned b id es

theorem Warranted.append {b : Actor} {task : Task} (h : Warranted b task es) (he : ∀ id, e.look? b id = none) :
    Warranted b task (es ++ [e]) :=
  ⟨h.keeping, fun id hid => (h.condemned id hid).append (he id)⟩

theorem Kill.look?_event (kill : Kill) (a b : Actor) (target id : ProcessId) :
    (kill.event a target).look? b id = none := by
  cases kill <;> rfl

theorem Step.look?_of_ne {b c : Actor} {now : Nat} (h : Step b now s e s') (hc : c ≠ b) (id : ProcessId) :
    e.look? c id = none := by
  cases h with
  | kill | clearOne => exact Kill.look?_event ..
  | look => exact if_neg fun hsame => hc hsame.1.symm
  | _ => rfl

theorem Task.targets_afterKill {grace : Nat} {duty : Duty} (next : Option Kill) :
    (Task.afterKill id grace duty next).targets ⊆ [id] := by
  cases next with
  | none => exact List.nil_subset _
  | some kill => exact List.Subset.refl _

theorem Task.targets_clearing_subset {before after : List (ProcessId × Kill)} {kill : Kill} (next : Option Kill) :
    (Task.clearing (before ++ (next.map fun k => (id, k)).toList ++ after)).targets ⊆
      (Task.clearing (before ++ (id, kill) :: after)).targets := by
  cases next with
  | none => simp [targets]
  | some k => simp [targets]

/-- A sweep kills only what its poll did not see to have ended. -/
theorem Task.mem_targets_afterLook {minAge grace : Nat} {target : ProcessId} {young : Bool}
    {todo finished : List ProcessId} {p : Poll}
    (h : id ∈ (Task.afterLook minAge target grace young todo finished p).targets) :
    id = target ∧ ∀ status, p ≠ .exited status := by
  cases p with
  | exited status => cases h
  | running =>
    cases young with
    | true => cases h
    | false => exact ⟨List.mem_singleton.mp h, by simp⟩
  | failed reason => exact ⟨List.mem_singleton.mp h, by simp⟩

theorem Step.warranted {b : Actor} {now : Nat} (h : Step b now s e s') (hb : Warranted b (s.tasks b) es)
    (keeping : (s'.tasks b).isHousekeeping = true) : Warranted b (s'.tasks b) (es ++ [e]) := by
  refine ⟨keeping, fun id hid => ?_⟩
  have hold := hb.condemned id
  have hbusy := hb.keeping
  cases h with
  | start | draw | enter | drop | beginSweep | endSweep | endClear =>
    rw [s.put_tasks_self] at hid
    cases hid
  | attachDrain _ _ task | takeDrain _ task | poll _ task | deregister _ task =>
    rw [s.put_tasks_self] at hid
    cases hid
  | @forceKill duty target grace task rest =>
    rw [s.put_tasks_self] at keeping
    cases duty with
    | none | guard => cases keeping
    | sweep => cases rest
  | kill task free =>
    rw [s.put_tasks_self] at hid
    rw [task] at hold
    exact (hold (Task.targets_afterKill _ hid)).append (Kill.look?_event ..)
  | release task free =>
    rw [task] at hbusy
    cases hbusy
  | look task free =>
    rw [s.put_tasks_self] at hid
    obtain ⟨rfl, hseen⟩ := Task.mem_targets_afterLook hid
    exact .inl ⟨_, latestLook_append_looked .., hseen⟩
  | clear task =>
    rw [s.put_tasks_self] at hid
    exact .inr ⟨_, by simpa [Task.targets] using hid, List.mem_append_right _ (List.mem_singleton_self _)⟩
  | clearOne task free =>
    rw [s.put_tasks_self] at hid
    rw [task] at hold
    exact (hold (Task.targets_clearing_subset _ hid)).append (Kill.look?_event ..)

/-! Where the reader is -/

/-- A kill took the reader when it was there, and for a reason. -/
def Robbed (id : ProcessId) (es : List Event) : Prop :=
  fate id es = .lost ∧ ∃ before b after,
    es = before ++ .silenced b id :: after ∧ fate id before = .attached ∧ Condemned b id before

namespace Job

def IsKnown (job : Job) (id : ProcessId) (r : Registry) : Prop :=
  ∃ h, r.handle? id = some h ∧ h.child.behaviour = job.child.behaviour

/-- The reader is there as the record says, or it was lost. -/
def IsRead (job : Job) (id : ProcessId) (es : List Event) (r : Registry) : Prop :=
  ∃ h, r.handle? id = some h ∧ h.child.behaviour = job.child.behaviour ∧
    ((fate id es = .attached ∧ h.drain = some job.drain) ∨ (Robbed id es ∧ h.drain = none))

end Job

/-- What a run yields as output: the front of it, or nothing if a kill took the reader or the rest was late. -/
structure Delivered (job : Job) (id : ProcessId) (es : List Event) (late : Bool) (output : String) : Prop where
  settled : fate id es = .taken ∨ Robbed id es
  output : output = if fate id es = .taken ∧ late = false then job.front else ""

theorem Fate.after_of_not_isByHand {f : Fate} (hf : f ≠ .attached) (he : e.isByHand = false) : f.after id e = f := by
  cases e <;> simp_all [Event.isByHand, Fate.after]

theorem Robbed.append (h : Robbed id es) (he : e ≠ .attached id) : Robbed id (es ++ [e]) := by
  obtain ⟨hlost, before, b, after, hes, hcondemned⟩ := h
  refine ⟨?_, before, b, after ++ [e], by simp [hes], hcondemned⟩
  rw [fate_append, hlost]
  cases e <;> simp_all [Fate.after]

theorem ne_attached (he : e.isByHand = false) : e ≠ .attached id := by
  rintro rfl
  cases he

theorem Delivered.append {late : Bool} {output : String} (h : Delivered job id es late output)
    (he : e.isByHand = false) : Delivered job id (es ++ [e]) late output := by
  have hfate : fate id (es ++ [e]) = fate id es := by
    rw [fate_append]
    refine Fate.after_of_not_isByHand ?_ he
    rcases h.settled with htaken | hrobbed
    · simp [htaken]
    · simp [hrobbed.1]
  exact ⟨h.settled.imp (hfate ▸ ·) (·.append (ne_attached he)), hfate ▸ h.output⟩

/-! The steps of others -/

theorem Event.eq_silenced (he : e.isByHand = false) (hc : e.concernsReader id = true) : ∃ b, e = .silenced b id := by
  cases e <;> simp_all [isByHand, concernsReader]

namespace Job

variable {b : Actor} {now : Nat}

theorem IsKnown.keep {r r' : Registry} (h : job.IsKnown id r) (hkeeps : r.KeepsReader id r') : job.IsKnown id r' := by
  obtain ⟨x, hx, hbehaviour⟩ := h
  obtain ⟨x', hx', hsame, -⟩ := hkeeps x hx
  exact ⟨x', hx', hsame.trans hbehaviour⟩

theorem IsRead.keep {r r' : Registry} (h : job.IsRead id es r) (hkeeps : r.KeepsReader id r')
    (hc : e.concernsReader id = false) : job.IsRead id (es ++ [e]) r' := by
  obtain ⟨x, hx, hbehaviour, hreader⟩ := h
  obtain ⟨x', hx', hsame, hdrain⟩ := hkeeps x hx
  have hne : e ≠ .attached id := by
    rintro rfl
    simp [Event.concernsReader] at hc
  refine ⟨x', hx', hsame.trans hbehaviour, ?_⟩
  rw [hdrain, fate_append, Fate.after_of_not_concerns _ hc]
  exact hreader.imp_right fun hrobbed => ⟨hrobbed.1.append hne, hrobbed.2⟩

theorem isKnown_takeDrain {r : Registry} {x : Handle} (hx : r.handle? id = some x)
    (hbehaviour : x.child.behaviour = job.child.behaviour) : job.IsKnown id (r.takeDrain id).2 := by
  refine ⟨{ x with drain := none }, ?_, hbehaviour⟩
  rw [Registry.takeDrain_of_handle? hx]
  exact Registry.handle?_setHandle hx _

theorem IsKnown.step (h : job.IsKnown id s.registry) (hstep : Step b now s e s') (he : e.isByHand = false) :
    job.IsKnown id s'.registry := by
  cases hc : e.concernsReader id with
  | false => exact h.keep (hstep.keepsReader hc)
  | true =>
    obtain ⟨c, rfl⟩ := Event.eq_silenced he hc
    obtain ⟨-, hregistry, -⟩ := hstep.of_silenced
    obtain ⟨x, hx, hbehaviour⟩ := h
    rw [hregistry]
    exact isKnown_takeDrain hx hbehaviour

theorem IsRead.step (h : job.IsRead id es s.registry) (hstep : Step b now s e s') (he : e.isByHand = false)
    (hb : Warranted b (s.tasks b) es) : job.IsRead id (es ++ [e]) s'.registry := by
  cases hc : e.concernsReader id with
  | false => exact h.keep (hstep.keepsReader hc) hc
  | true =>
    obtain ⟨c, rfl⟩ := Event.eq_silenced he hc
    obtain ⟨rfl, hregistry, hkill⟩ := hstep.of_silenced
    obtain ⟨x, hx, hbehaviour, hreader⟩ := h
    -- the task of the one who kills tells the reason, also if the reader was gone already
    have hcondemned : Condemned c id es := hb.condemned id <| by
      obtain ⟨grace, duty, htask⟩ | ⟨kills, htask, hmem⟩ := hkill
      · rw [htask]
        exact List.mem_singleton_self _
      · rw [htask]
        exact List.mem_map_of_mem (f := Prod.fst) hmem
    refine ⟨{ x with drain := none }, ?_, hbehaviour, .inr ⟨?_, rfl⟩⟩
    · rw [hregistry, Registry.takeDrain_of_handle? hx]
      exact Registry.handle?_setHandle hx _
    · obtain ⟨hattached, -⟩ | ⟨hrobbed, -⟩ := hreader
      · exact ⟨by simp [fate_append, hattached, Fate.after], es, c, [], rfl, hattached, hcondemned⟩
      · exact hrobbed.append (ne_attached he)

end Job

/-! The run -/

def Stage.Holds (job : Job) (a : Actor) (es : List Event) (s : State) : Stage → Prop
  | registering => ∀ id, s.tasks a = .drawn id → job.IsKnown id s.registry
  | attaching id => job.IsKnown id s.registry
  | waiting id _ | ended id _ => job.IsRead id es s.registry
  | taken id _ drain => job.IsKnown id s.registry ∧
      ((fate id es = .taken ∧ drain = some job.drain) ∨ (Robbed id es ∧ drain = none))
  | leaving id late result | returned id late result =>
    ∀ r, result = .ok r → Delivered job id es late r.output

theorem Stage.Holds.step {b : Actor} {now : Nat} (h : stage.Holds job a es s) (hb : b ≠ a)
    (hstep : Step b now s e s') (he : e.isByHand = false) (hwarranted : Warranted b (s.tasks b) es) :
    stage.Holds job a (es ++ [e]) s' := by
  cases stage with
  | registering => exact fun id hid => (h id (hstep.tasks_of_ne hb.symm ▸ hid)).step hstep he
  | attaching id => exact Job.IsKnown.step h hstep he
  | waiting id seen | ended id status => exact Job.IsRead.step h hstep he hwarranted
  | taken id status drain =>
    refine ⟨h.1.step hstep he, h.2.imp (fun htaken => ⟨?_, htaken.2⟩) fun hrobbed =>
      ⟨hrobbed.1.append (ne_attached he), hrobbed.2⟩⟩
    rw [fate_append, htaken.1]
    exact Fate.after_of_not_isByHand (by decide) he
  | leaving id late result | returned id late result => exact fun r hr => (h r hr).append he

structure Tracked (job : Job) (a : Actor) (es : List Event) (stage : Stage) (s : State) : Prop where
  others : ∀ b, b ≠ a → Warranted b (s.tasks b) es
  holds : stage.Holds job a es s

namespace Tracked

theorem own {task : Task} {registry : Registry} {stage' : Stage} (h : Tracked job a es stage s) (e : Event)
    (he : ∀ b id, e.look? b id = none)
    (hholds : stage'.Holds job a (es ++ [e]) (s.put a task registry)) :
    Tracked job a (es ++ [e]) stage' (s.put a task registry) where
  others b hb := by
    rw [s.put_tasks_of_ne hb]
    exact (h.others b hb).append (he b)
  holds := hholds

end Tracked

theorem Step.isByHand_of_isBusy {now : Nat} (h : Step a now s e s') (hbusy : (s.tasks a).isBusy = true) :
    e.isByHand = false := by
  cases h with
  | attachDrain id d task | takeDrain id task =>
    rw [task] at hbusy
    cases hbusy
  | @kill id grace kill => cases kill <;> rfl
  | @clearOne before after id kill => cases kill <;> rfl
  | _ => rfl

theorem Job.IsRead.take {status : ExitStatus} {task : Task} (h : job.IsRead id es s.registry) :
    (Stage.taken id status (s.registry.takeDrain id).1).Holds job a (es ++ [.took id])
      (s.put a task (s.registry.takeDrain id).2) := by
  obtain ⟨x, hx, hbehaviour, hreader⟩ := h
  refine ⟨isKnown_takeDrain hx hbehaviour, ?_⟩
  rw [Registry.takeDrain_of_handle? hx]
  obtain ⟨hattached, hdrain⟩ | ⟨hrobbed, hdrain⟩ := hreader
  · exact .inl ⟨by simp [fate_append, hattached, Fate.after], hdrain⟩
  · exact .inr ⟨hrobbed.append (by simp), hdrain⟩

theorem delivered_collect {drain : Option Drain} {x : Handle} (hknown : job.IsKnown id s.registry)
    (hx : s.registry.handle? id = some x)
    (hreader : (fate id es = .taken ∧ drain = some job.drain) ∨ (Robbed id es ∧ drain = none)) (now : Nat) :
    Delivered job id es (!x.child.closesBy (now + job.limits.drainGrace))
      (String.ofList (Text.Utf8.decodeLossy
        ((drain.bind fun d => (d.collect x.child now job.limits.drainGrace).1).getD []))) := by
  obtain ⟨x', hx', hbehaviour⟩ := hknown
  obtain rfl : x = x' := Option.some.inj (hx.symm.trans hx')
  obtain ⟨htaken, rfl⟩ | ⟨hrobbed, rfl⟩ := hreader
  · refine ⟨.inl htaken, ?_⟩
    have hcollect := Drain.collect_of_not_cancelled (d := job.drain) rfl x.child now job.limits.drainGrace
    rw [Option.bind_some, hcollect, hbehaviour]
    cases x.child.closesBy (now + job.limits.drainGrace) with
    | true => simp [htaken, Job.front, Job.drain]
    | false =>
      rw [if_neg (by simp), if_neg (by simp)]
      rfl
  · refine ⟨.inr hrobbed, ?_⟩
    rw [if_neg (by simp [hrobbed.1])]
    rfl

theorem Course.tracked (hrest : ∀ b, start.tasks b = .on .none) (h : Course job a start es stage s) :
    Tracked job a es stage s := by
  -- over the steps of all; only the run attaches or takes a reader by hand, so that its own steps say what they do
  induction h with
  | begin task =>
    refine ⟨fun b _ => ?_, fun id hid => ?_⟩
    · rw [hrest b]
      exact ⟨rfl, by simp [Task.targets]⟩
    · rw [task] at hid
      cases hid
  | @other es stage s s' b now e course hb step hands keeping ih =>
    refine ⟨fun c hc => ?_, ih.holds.step hb step hands (ih.others b hb)⟩
    by_cases hcb : c = b
    · rw [hcb]
      exact step.warranted (ih.others b hb) keeping
    · rw [step.tasks_of_ne hcb]
      exact (ih.others c hc).append (step.look?_of_ne hcb)
  | spawn course task ih =>
    refine ih.own _ (fun _ _ => rfl) fun id hid => ?_
    rw [State.put_tasks_self] at hid
    cases hid
  | draw course task ih =>
    refine ih.own _ (fun _ _ => rfl) fun id hid => ?_
    rw [State.put_tasks_self] at hid
    cases hid
    exact ⟨job.handle, Registry.handle?_draw_self _ _, rfl⟩
  | enter course task ih => exact ih.own _ (fun _ _ => rfl) (ih.holds _ task)
  | attach course task ih =>
    obtain ⟨h, hknown, hbehaviour⟩ := ih.holds
    refine ih.own _ (fun _ _ => rfl) ⟨{ h with drain := some job.drain }, ?_, hbehaviour, .inl ⟨?_, rfl⟩⟩
    · rw [State.put_registry, Registry.attachDrain_of_handle? hknown]
      exact Registry.handle?_setHandle hknown _
    · simp [fate_append, Fate.after]
  | unread reason course ih => exact ⟨ih.others, fun r hr => by cases hr⟩
  | @poll es s id seen now course task free ih =>
    have hread : job.IsRead id (es ++ [.other]) (s.registry.poll id now).2 := ih.holds.keep (.poll id now) rfl
    refine ih.own _ (fun _ _ => rfl) ?_
    cases (s.registry.poll id now).1 with
    | exited status | running => exact hread
    | failed reason => exact fun r hr => by cases hr
  | expire course task ih => exact ih.own _ (fun _ _ => rfl) fun r hr => by cases hr
  | take course task ih => exact ih.own _ (fun _ _ => rfl) ih.holds.take
  | collect now course known ih =>
    refine ⟨ih.others, fun r hr => ?_⟩
    cases hr
    exact delivered_collect ih.holds.1 known ih.holds.2 now
  | drop course task ih => exact ih.own _ (fun _ _ => rfl) fun r hr => (ih.holds r hr).append rfl
  | @finish es s s' id late result now e course busy step ih =>
    refine ⟨fun b hb => ?_, fun r hr => (ih.holds r hr).append (step.isByHand_of_isBusy busy)⟩
    rw [step.tasks_of_ne hb]
    exact (ih.others b hb).append (step.look?_of_ne hb)
  | close course task ih => exact ⟨ih.others, ih.holds⟩

/-- However others sweep and kill meanwhile, a run yields the front of what is written into the pipe, unless a kill
took the reader first or the writers were not done in time. -/
theorem course_delivers {late : Bool} {r : RunResult} (hrest : ∀ b, start.tasks b = .on .none)
    (h : Course job a start es (.returned id late (.ok r)) s) : Delivered job id es late r.output :=
  (h.tracked hrest).holds r rfl

def greeting : Job where
  label := "sh"
  child := { pid := 7, behaviour := { ending := some (5, .code 3), written := [104, 105] }, startedAt := 0 }
  limits := {}
  timeout := 10000

/-- A sweep that comes when the program has ended leaves the output to the run. -/
theorem course_delivers_greeting :
    ∃ es s, Course greeting 0 idle es (.returned 1 false (.ok ⟨.code 3, greeting.front⟩)) s ∧
      Delivered greeting 1 es false greeting.front := by
  have hbegin : Course greeting 0 idle [] .registering _ := .begin rfl
  have hattached := (((hbegin.spawn rfl).draw rfl).enter rfl).attach rfl
  have hsweep := hattached.other (by decide) (.beginSweep 0 [1] rfl (.refl _) : Step 1 6 _ _ _) rfl rfl
  have hlook := hsweep.other (by decide) (.look (show _ = Task.on (.sweep 0 [1] []) from rfl)
    (State.isFree_of_rest (b := 0) (fun c h1 h0 => by simp [State.put, idle, h0, h1]) rfl) : Step 1 7 _ _ _) rfl rfl
  have hended : Course greeting 0 idle _ (.ended 1 (.code 3)) _ := hlook.poll 8 rfl
    (State.isFree_of_rest (b := 1) (fun c h0 h1 => by simp [State.put, idle, h0, h1]) rfl)
  have hcollected := (hended.take rfl).collect 8 rfl
  have hfinished := (hcollected.drop rfl).finish rfl (.release rfl
    (State.isFree_of_rest (b := 1) (fun c h0 h1 => by simp [State.put, idle, h0, h1]) rfl) : Step 0 9 _ _ _)
  have hreturned : Course greeting 0 idle _ (.returned 1 false (.ok ⟨.code 3, greeting.front⟩)) _ := hfinished.close rfl
  exact ⟨_, _, hreturned, course_delivers (fun _ => rfl) hreturned⟩

/-- A program that ends by itself may lose its output all the same: a sweep sees it run and takes the reader, and
it ends before the sweep polls it again to kill it. -/
theorem exists_lost_output :
    ¬∀ (job : Job) (a : Actor) (start s : State) (es : List Event) (id : ProcessId) (c : Nat) (output : String),
      (∀ b, start.tasks b = .on .none) → Course job a start es (.returned id false (.ok ⟨.code c, output⟩)) s →
        output = job.front := by
  intro h
  have hbegin : Course greeting 0 idle [] .registering _ := .begin rfl
  have hattached := (((hbegin.spawn rfl).draw rfl).enter rfl).attach rfl
  have hpolled := hattached.poll 1 rfl
    (State.isFree_of_rest (b := 1) (fun c h0 h1 => by simp [State.put, idle, h0]) rfl)
  have hsweep := hpolled.other (by decide) (.beginSweep 0 [1] rfl (.refl _) : Step 1 2 _ _ _) rfl rfl
  have hlook := hsweep.other (by decide) (.look (show _ = Task.on (.sweep 0 [1] []) from rfl)
    (State.isFree_of_rest (b := 0) (fun c h1 h0 => by simp [State.put, idle, h0, h1]) rfl) : Step 1 3 _ _ _) rfl rfl
  have hsilent := hlook.other (by decide) (.kill (show _ = Task.killing 1 2000 .drain (.sweep 0 [] [1]) from rfl)
    (fun hpoll => by cases hpoll) : Step 1 4 _ _ _) rfl rfl
  have hspared := hsilent.other (by decide) (.kill (show _ = Task.killing 1 2000 .poll (.sweep 0 [] [1]) from rfl)
    (fun _ => State.isFree_of_rest (b := 0) (fun c h1 h0 => by simp [State.put, idle, h0, h1]) rfl) :
      Step 1 6 _ _ _) rfl rfl
  have hended : Course greeting 0 idle _ (.ended 1 (.code 3)) _ := hspared.poll 7 rfl
    (State.isFree_of_rest (b := 1) (fun c h0 h1 => by simp [State.put, idle, h0, h1]) rfl)
  have hcollected := (hended.take rfl).collect 7 rfl
  have hfinished := (hcollected.drop rfl).finish rfl (.release rfl
    (State.isFree_of_rest (b := 1) (fun c h0 h1 => by simp [State.put, idle, h0, h1]) rfl) : Step 0 8 _ _ _)
  have hreturned : Course greeting 0 idle _ (.returned 1 false (.ok ⟨.code 3, ""⟩)) _ := hfinished.close rfl
  have hfront : greeting.front ≠ "" := by decide
  exact hfront (h _ _ _ _ _ _ _ _ (fun _ => rfl) hreturned).symm

end SnippetLab.Concurrent
