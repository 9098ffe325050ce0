import SnippetLab.Proofs.Lab.Frame

/-!
Requests that keep their workspaces in one directory. Each takes its steps on the files when it likes, between
those of all others, and there may be any number of them. Whoever purges the directory or reclaims old workspaces
looks at one name after the other, and time passes before it removes what it has seen.
-/
namespace SnippetLab.Shared

open FileTree

abbrev Actor := Nat

abbrev Content := Place → Option (Node × Option Int)

namespace Content

def nothing : Content := fun _ => none

def emptyDirectory : Content := fun p => if p = [] then some (.directory, none) else none

def withFile (c : Content) (name : String) (octets : List UInt8) (now : Int) : Content :=
  fun p => if p = [name] then some (.file octets defaultMode, some now) else c p

def IsProper (c : Content) : Prop := c = nothing ∨ c [] = some (.directory, none)

end Content

/-! ### What is done -/

inductive Deed
  | created (place : Place)
  | wrote (name : String) (octets : List UInt8) (now : Int)
  /-- A program of the request ran. This is what its workspace holds then, and when the directory itself changed. -/
  | ran (after : Content) (changed : Option Int)
  | located (program : Option String)
  | disposed
  | prepared
  | spotted (name : String)
  | reclaimed (name : String)
  | other

namespace Deed

def apply (c : Content) : Deed → Content
  | created _ => .emptyDirectory
  | wrote name octets now => c.withFile name octets now
  | ran after _ => after
  | disposed => .nothing
  | located _ | prepared | spotted _ | reclaimed _ | other => c

def isReclaiming : Deed → Bool
  | prepared | spotted _ | reclaimed _ => true
  | _ => false

end Deed

abbrev Record := List (Actor × Deed)

/-- What an actor did itself. -/
def own (a : Actor) (es : Record) : List Deed := (es.filter (·.1 = a)).map (·.2)

/-- What the steps of an actor made of its workspace, whatever others did. -/
def contentOf (a : Actor) (es : Record) : Content := (own a es).foldl Deed.apply .nothing

section
variable (a : Actor) (es : Record)

theorem contentOf_append_self (x : Deed) : contentOf a (es ++ [(a, x)]) = x.apply (contentOf a es) := by
  rw [contentOf, own, List.filter_append, List.map_append, List.foldl_append]
  simp [contentOf, own]

theorem contentOf_append_of_ne {b : Actor} (h : b ≠ a) (x : Deed) : contentOf a (es ++ [(b, x)]) = contentOf a es := by
  rw [contentOf, own, List.filter_append, List.map_append, List.foldl_append]
  simp [contentOf, own, h]

end

/-! ### What is shared, and what each is at -/

/-- The settings of all, and what each of them brings along. -/
structure Service where
  settings : Settings
  home : Place
  kind : Actor → Request
  id : Actor → String
  number : Actor → Nat
  text : Actor → String

/-- What a request does with its workspace. Before it writes, one that compiles purges the shared directory; it has
seen the pending names there. -/
inductive Phase
  | purging (pending : List String)
  | writing
  | running
  | leaving

inductive Stage
  | idle
  | reclaiming (since : Int) (pending : List String)
  | serving (since : Int) (w : Workspace) (phase : Phase)
  | done

structure State where
  tree : FileTree
  stage : Actor → Stage
  clock : Int

namespace State

def ready (tree : FileTree) (clock : Int) : State := ⟨tree, fun _ => .idle, clock⟩

def next (s : State) (a : Actor) (stage : Stage) (tree : FileTree) (now : Int) : State :=
  ⟨tree, fun b => if b = a then stage else s.stage b, now⟩

end State

namespace Service

variable (v : Service)

def base : String := v.settings.tempDirectory

def maxAge : Nat := v.settings.staleWorkspaceAgeSecs * 1000

def name (a : Actor) : String := (v.kind a).first ++ v.id a

def path (a : Actor) : String := Path.join v.base (v.name a)

def sourceName (a : Actor) : String :=
  match v.kind a with
  | .compile => Lab.baseName (v.number a) ++ Artifact.sourceExtension
  | .analyze => Lab.dumpSource

def firstPhase (a : Actor) : Phase :=
  match v.kind a with
  | .compile => .purging []
  | .analyze => .writing

def placeOf (t : FileTree) (a : Actor) : Place :=
  match t.find v.home true (v.path a) with
  | .ok (place, _) => place
  | .error _ => []

def inBase (t : FileTree) (change : Place → FileTree) : FileTree :=
  match t.find v.home true v.base with
  | .ok (root, .directory) => change root
  | _ => t

/-- The ids differ and have no slash, and nobody uses the names of the workspaces yet. -/
structure Fresh (tree : FileTree) : Prop where
  rooted : tree.Rooted
  plain : ∀ a, '/' ∉ (v.id a).toList
  distinct : ∀ a b, v.id a = v.id b → a = b
  unused : ∀ a, tree.Unused (v.name a)
  base : ∀ a, v.name a ∉ Path.names v.base

end Service

def unlink (t : FileTree) (now : Int) (p : Place) : FileTree :=
  match t.node? p with
  | some n => if n.isDirectory then t else t.erase now p
  | none => t

def removeDirectory (t : FileTree) (now : Int) (p : Place) : FileTree :=
  if t.isDirectoryAt p then t.erase now p else t

/-- The trees differ at the place and under it only, and in when the directory above last changed. -/
structure Local (place : Place) (t u : FileTree) : Prop where
  rooted : u.Rooted
  outside : ∀ p, within place p = false → p ≠ place.dropLast → u.entry? p = t.entry? p
  above : u.node? place.dropLast = t.node? place.dropLast

/-- What programs may do in a directory: all that stays in it, and they may remove it. -/
structure Inside (place : Place) (t u : FileTree) : Prop extends Local place t u where
  inside : u.node? place = t.node? place ∨ ∀ p, within place p = true → u.node? p = none

/-! ### Steps -/

/-- A step of one actor at a time, and what comes of it. -/
inductive Step (v : Service) (a : Actor) (now : Int) (s : State) : Deed → State → Prop
  | prepare (stage : s.stage a = .idle) :
      Step v a now s .prepared (s.next a (.reclaiming now []) s.tree now)
  | spot {since : Int} {pending names : List String} {root : Place} {name : String}
      (stage : s.stage a = .reclaiming since pending)
      (listed : s.tree.listDirectory v.home v.base = .ok (root, names)) (mem : name ∈ names)
      (abandoned : Workspace.isAbandoned s.tree since v.maxAge root name = true) :
      Step v a now s (.spotted name) (s.next a (.reclaiming since (name :: pending)) s.tree now)
  | reclaim {since : Int} {pending : List String} {name : String}
      (stage : s.stage a = .reclaiming since pending) (mem : name ∈ pending) :
      Step v a now s (.reclaimed name) (s.next a (.reclaiming since (pending.erase name))
        (v.inBase s.tree fun root => removeDirectory s.tree now (root ++ [name])) now)
  | conclude {since : Int} (stage : s.stage a = .reclaiming since []) :
      Step v a now s .other (s.next a .idle s.tree now)
  | create {w : Workspace} {tree : FileTree} (stage : s.stage a = .idle)
      (made : Workspace.create s.tree now v.home v.base (v.kind a).first (v.id a) = (.ok w, tree)) :
      Step v a now s (.created (v.placeOf tree a)) (s.next a (.serving now w (v.firstPhase a)) tree now)
  | giveUp {e : Failure} {tree : FileTree} (stage : s.stage a = .idle)
      (refused : Workspace.create s.tree now v.home v.base (v.kind a).first (v.id a) = (.error e, tree)) :
      Step v a now s .other (s.next a .done tree now)
  | see {since : Int} {w : Workspace} {pending names : List String} {root : Place} {name : String}
      (stage : s.stage a = .serving since w (.purging pending))
      (listed : s.tree.listDirectory v.home v.base = .ok (root, names))
      (stale : name ∈ Cleanup.staleNames s.tree root names) :
      Step v a now s .other (s.next a (.serving since w (.purging (name :: pending))) s.tree now)
  | purge {since : Int} {w : Workspace} {pending : List String} {name : String}
      (stage : s.stage a = .serving since w (.purging pending)) (mem : name ∈ pending) :
      Step v a now s .other (s.next a (.serving since w (.purging (pending.erase name)))
        (v.inBase s.tree fun root => unlink s.tree now (root ++ [name])) now)
  | purged {since : Int} {w : Workspace} (stage : s.stage a = .serving since w (.purging [])) :
      Step v a now s .other (s.next a (.serving since w .writing) s.tree now)
  | write {since : Int} {w w' : Workspace} {path : String} {tree : FileTree}
      (stage : s.stage a = .serving since w .writing)
      (written : w.write s.tree now v.home (v.sourceName a) (v.text a) = (.ok path, w', tree)) :
      Step v a now s (.wrote (v.sourceName a) (Text.Utf8.encode (v.text a).toList) now)
        (s.next a (.serving since w' .running) tree now)
  | miss {since : Int} {w w' : Workspace} {e : Failure} {tree : FileTree}
      (stage : s.stage a = .serving since w .writing)
      (failed : w.write s.tree now v.home (v.sourceName a) (v.text a) = (.error e, w', tree)) :
      Step v a now s .other (s.next a (.serving since w' .leaving) tree now)
  -- what was started may still be at work while its workspace is left and removed piece by piece
  | run {since : Int} {w : Workspace} {phase : Phase} {place : Place} {tree : FileTree}
      (stage : s.stage a = .serving since w phase) (free : phase = .running ∨ phase = .leaving)
      (lies : s.tree.find v.home true w.directory = .ok (place, .directory)) (inside : Inside place s.tree tree) :
      Step v a now s (.ran (fun p => tree.view (place ++ p)) (tree.changed? place))
        (s.next a (.serving since w phase) tree now)
  | locate {since : Int} {w : Workspace} (stage : s.stage a = .serving since w .running) (kind : v.kind a = .compile) :
      Step v a now s
        (.located (Artifact.locate s.tree v.home w.directory (Lab.baseName (v.number a)) (v.sourceName a)))
        (s.next a (.serving since w .running) s.tree now)
  | leave {since : Int} {w : Workspace} (stage : s.stage a = .serving since w .running) :
      Step v a now s .other (s.next a (.serving since w .leaving) s.tree now)
  | dispose {since : Int} {w w' : Workspace} {tree : FileTree} (stage : s.stage a = .serving since w .leaving)
      (removed : w.dispose s.tree now v.home = (w', tree)) :
      Step v a now s .disposed (s.next a .done tree now)

abbrev Law := State → Int → Actor → Deed → Prop

inductive Run (v : Service) (law : Law) (start : State) : Record → State → Prop
  | refl : Run v law start [] start
  | snoc {es : Record} {s s' : State} {a : Actor} {now : Int} {x : Deed} (run : Run v law start es s)
      (lawful : law s now a x) (step : Step v a now s x s') : Run v law start (es ++ [(a, x)]) s'

def quiet : Law := fun _ _ _ x => x.isReclaiming = false

end SnippetLab.Shared
