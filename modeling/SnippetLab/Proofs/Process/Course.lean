import SnippetLab.Lab.Run
import SnippetLab.Proofs.Process.Steps

/-!
The course of one run of a program while others sweep the registry and kill all that is in it: the process is
registered and given a reader, polled until it has ended or its time is up, and released at the end.
-/
namespace SnippetLab.Concurrent

structure Job where
  label : String
  child : Child
  limits : RunLimits
  timeout : Nat

namespace Job

def handle (job : Job) : Handle where
  label := job.label
  child := job.child

def drain (job : Job) : Drain where
  limit := job.limits.captureLimit

/-- The front of what is written into the pipe, as text. -/
def front (job : Job) : String :=
  String.ofList (Text.Utf8.decodeLossy (job.child.behaviour.written.take job.limits.captureLimit))

end Job

inductive Stage
  | registering
  | attaching (id : ProcessId)
  | waiting (id : ProcessId) (seen : Bool)
  | ended (id : ProcessId) (status : ExitStatus)
  | taken (id : ProcessId) (status : ExitStatus) (drain : Option Drain)
  /-- The result is settled, and the guard is to be dropped. It is also kept whether the output took longer than
  the run waits for it. -/
  | leaving (id : ProcessId) (late : Bool) (result : Except Failure RunResult)
  | returned (id : ProcessId) (late : Bool) (result : Except Failure RunResult)

def Stage.afterPoll (job : Job) (id : ProcessId) : Poll → Stage
  | .exited status => .ended id status
  | .running => .waiting id true
  | .failed reason => .leaving id false (.error (.process ("wait(" ++ job.label ++ ") failed: " ++ reason)))

namespace Task

/-- A sweep, or a kill of all entries at once. -/
def isHousekeeping : Task → Bool
  | on .none | on (.sweep _ _ _) | killing _ _ _ (.sweep _ _ _) | clearing _ => true
  | _ => false

def isBusy : Task → Bool
  | killing _ _ _ _ | releasing _ => true
  | _ => false

end Task

def Event.isByHand : Event → Bool
  | attached _ | took _ => true
  | _ => false

/-- The run of a job by one actor, and between its steps those of others who sweep and kill. -/
inductive Course (job : Job) (a : Actor) (start : State) : List Event → Stage → State → Prop
  | begin (task : start.tasks a = .on .none) : Course job a start [] .registering start
  | other {es : List Event} {stage : Stage} {s s' : State} {b : Actor} {now : Nat} {e : Event}
      (course : Course job a start es stage s) (hb : b ≠ a) (step : Step b now s e s')
      (hands : e.isByHand = false) (keeping : (s'.tasks b).isHousekeeping = true) :
      Course job a start (es ++ [e]) stage s'
  | spawn {es : List Event} {s : State} (course : Course job a start es .registering s)
      (task : s.tasks a = .on .none) :
      Course job a start (es ++ [.other]) .registering (s.put a (.started job.handle) s.registry)
  | draw {es : List Event} {s : State} (course : Course job a start es .registering s)
      (task : s.tasks a = .started job.handle) :
      Course job a start (es ++ [.drew (s.registry.draw job.handle).1]) .registering
        (s.put a (.drawn (s.registry.draw job.handle).1) (s.registry.draw job.handle).2)
  | enter {es : List Event} {s : State} {id : ProcessId} (course : Course job a start es .registering s)
      (task : s.tasks a = .drawn id) :
      Course job a start (es ++ [.entered id]) (.attaching id) (s.put a (.on (.guard id)) (s.registry.enter id))
  | attach {es : List Event} {s : State} {id : ProcessId} (course : Course job a start es (.attaching id) s)
      (task : s.tasks a = .on (.guard id)) :
      Course job a start (es ++ [.attached id]) (.waiting id false)
        (s.put a (.on (.guard id)) (s.registry.attachDrain id job.drain))
  | unread {es : List Event} {s : State} {id : ProcessId} (reason : String)
      (course : Course job a start es (.attaching id) s) :
      Course job a start es (.leaving id false (.error (.process ("failed to start output drain: " ++ reason)))) s
  | poll {es : List Event} {s : State} {id : ProcessId} {seen : Bool} (now : Nat)
      (course : Course job a start es (.waiting id seen) s) (task : s.tasks a = .on (.guard id))
      (free : s.IsFree a id) :
      Course job a start (es ++ [.other]) (.afterPoll job id (s.registry.poll id now).1)
        (s.put a (.on (.guard id)) (s.registry.poll id now).2)
  -- the deadline is looked at only after a poll that saw the process run
  | expire {es : List Event} {s : State} {id : ProcessId} (course : Course job a start es (.waiting id true) s)
      (task : s.tasks a = .on (.guard id)) :
      Course job a start (es ++ [.other]) (.leaving id false (.error (.timedOut job.timeout)))
        (s.put a (.killing id job.limits.killGrace .drain (.guard id)) s.registry)
  | take {es : List Event} {s : State} {id : ProcessId} {status : ExitStatus}
      (course : Course job a start es (.ended id status) s) (task : s.tasks a = .on (.guard id)) :
      Course job a start (es ++ [.took id]) (.taken id status (s.registry.takeDrain id).1)
        (s.put a (.on (.guard id)) (s.registry.takeDrain id).2)
  | collect {es : List Event} {s : State} {id : ProcessId} {status : ExitStatus} {drain : Option Drain} {h : Handle}
      (now : Nat) (course : Course job a start es (.taken id status drain) s) (known : s.registry.handle? id = some h) :
      Course job a start es
        (.leaving id (!h.child.closesBy (now + job.limits.drainGrace))
          (.ok ⟨status, String.ofList (Text.Utf8.decodeLossy
            ((drain.bind fun d => (d.collect h.child now job.limits.drainGrace).1).getD []))⟩)) s
  | drop {es : List Event} {s : State} {id : ProcessId} {late : Bool} {result : Except Failure RunResult}
      (course : Course job a start es (.leaving id late result) s) (task : s.tasks a = .on (.guard id)) :
      Course job a start (es ++ [.dropped id]) (.leaving id late result)
        (s.put a (.releasing id) (s.registry.remove [id]))
  | finish {es : List Event} {s s' : State} {id : ProcessId} {late : Bool} {result : Except Failure RunResult}
      {now : Nat} {e : Event} (course : Course job a start es (.leaving id late result) s)
      (busy : (s.tasks a).isBusy = true) (step : Step a now s e s') :
      Course job a start (es ++ [e]) (.leaving id late result) s'
  | close {es : List Event} {s : State} {id : ProcessId} {late : Bool} {result : Except Failure RunResult}
      (course : Course job a start es (.leaving id late result) s) (task : s.tasks a = .on .none) :
      Course job a start es (.returned id late result) s

end SnippetLab.Concurrent
