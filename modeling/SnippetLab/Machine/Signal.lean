/-! Signals by name and number, and what they do to a process that does not handle them. -/
namespace SnippetLab.Machine.Signal

def standard : List (String × Option String) :=
  [("HUP", some "Hangup"), ("INT", none), ("QUIT", some "Quit"), ("ILL", some "Illegal instruction"),
   ("TRAP", some "Trace/breakpoint trap"), ("ABRT", some "Aborted"), ("BUS", some "Bus error"),
   ("FPE", some "Floating point exception"), ("KILL", some "Killed"), ("USR1", some "User defined signal 1"),
   ("SEGV", some "Segmentation fault"), ("USR2", some "User defined signal 2"), ("PIPE", none),
   ("ALRM", some "Alarm clock"), ("TERM", some "Terminated"), ("16", some "Stack fault"), ("CHLD", none),
   ("CONT", none), ("STOP", none), ("TSTP", none), ("TTIN", none), ("TTOU", none), ("URG", none),
   ("XCPU", some "CPU time limit exceeded"), ("XFSZ", some "File size limit exceeded"),
   ("VTALRM", some "Virtual timer expired"), ("PROF", some "Profiling timer expired"), ("WINCH", none),
   ("IO", some "I/O possible"), ("PWR", some "Power failure"), ("SYS", some "Bad system call"),
   ("32", none), ("33", none)]

def firstReal : Nat := 34

def lastReal : Nat := 64

def realName (n : Nat) : String :=
  if n = firstReal then "RTMIN"
  else if n = lastReal then "RTMAX"
  else if n < firstReal + 16 then "RTMIN+" ++ toString (n - firstReal)
  else "RTMAX-" ++ toString (lastReal - n)

def name? (n : Nat) : Option String :=
  if n = 0 then none
  else match standard[n - 1]? with
    | some found => some found.1
    | none => if n ≤ lastReal then some (realName n) else none

def number? (text : String) : Option Nat :=
  match text.toNat? with
  | some n => if n ≤ lastReal then some n else none
  | none =>
    let name := text.toUpper
    if name == "EXIT" then some 0
    else (List.range lastReal).findSome? fun n => if name? (n + 1) = some name then some (n + 1) else none

def notice? (n : Nat) : Option String :=
  match standard[n - 1]? with
  | some found => found.2
  | none => some ("Real-time signal " ++ toString (n - firstReal))

def description (n : Nat) : String :=
  match n with
  | 2 => "Interrupt"
  | 13 => "Broken pipe"
  | _ => (notice? n).getD ("Signal " ++ toString n)

def kill : Nat := 9

def interrupt : Nat := 2

def quit : Nat := 3

def brokenPipe : Nat := 13

def terminate : Nat := 15

def child : Nat := 17

def resume : Nat := 18

def stop : Nat := 19

def status (n : Nat) : Nat := 128 + n

inductive Effect
  | nothing
  | stops
  | ends
  deriving DecidableEq, Repr

def effect (n : Nat) : Effect :=
  if [0, 17, 18, 23, 28].contains n then .nothing
  else if 19 ≤ n && n ≤ 22 then .stops
  else .ends

end SnippetLab.Machine.Signal
