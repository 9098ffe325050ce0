import SnippetLab.Lab.Run

/-!
What one run leaves alone. Waiting, killing and reading are a matter of the clock, the registry and the
sweeper; only the program itself changes the files.
-/
namespace SnippetLab

theorem waitUntil_keeps {σ : Type} {P : σ → Prop} (clock : Clock) {poll : Nat → σ → Poll × σ}
    (hpoll : ∀ time state, P state → P (poll time state).2) (deadline turn time : Nat)
    (interval : PollInterval) (state : σ) (h : P state) :
    P (waitUntil clock poll deadline turn time interval state).2.2 := by
  fun_induction waitUntil clock poll deadline turn time interval state with
  | case1 turn time interval state status next hp =>
    have hnext := hpoll time state h
    rwa [hp] at hnext
  | case2 turn time interval state reason next hp =>
    have hnext := hpoll time state h
    rwa [hp] at hnext
  | case3 turn time interval state next hp now hlate =>
    have hnext := hpoll time state h
    rwa [hp] at hnext
  | case4 turn time interval state next hp now hearly ih =>
    have hnext := hpoll time state h
    rw [hp] at hnext
    exact ih hnext

namespace Lab

/-- Only the clock, the registry and the sweeper differ. -/
structure SameSurroundings (before after : Lab) : Prop where
  tree : after.tree = before.tree
  home : after.home = before.home
  drawn : after.drawn = before.drawn
  launches : after.launches = before.launches

namespace SameSurroundings

theorem refl (l : Lab) : SameSurroundings l l := ⟨rfl, rfl, rfl, rfl⟩

theorem trans {a b c : Lab} (h : SameSurroundings a b) (h' : SameSurroundings b c) : SameSurroundings a c :=
  ⟨h'.tree.trans h.tree, h'.home.trans h.home, h'.drawn.trans h.drawn, h'.launches.trans h.launches⟩

end SameSurroundings

theorem poll_same (id : ProcessId) (time : Nat) (l : Lab) : SameSurroundings l (l.poll id time).2 :=
  ⟨rfl, rfl, rfl, rfl⟩

theorem release_same (id : ProcessId) (l : Lab) : SameSurroundings l (l.release id) := ⟨rfl, rfl, rfl, rfl⟩

theorem collect_same (grace : Nat) (id : ProcessId) (l : Lab) : SameSurroundings l (l.collect grace id).2 := by
  unfold collect
  split <;> exact ⟨rfl, rfl, rfl, rfl⟩

theorem await_same (limits : RunLimits) (label : String) (timeout : Nat) (id : ProcessId) (l : Lab) :
    SameSurroundings l (l.await limits label timeout id).2 := by
  have hwait := waitUntil_keeps (P := SameSurroundings l) .exact
    (fun time state h => h.trans (poll_same id time state)) (l.now + timeout) 0 l.now .first l (.refl l)
  unfold await
  split
  · next hw =>
    rw [hw] at hwait
    exact (hwait.trans (collect_same limits.drainGrace id _)).trans (release_same id _)
  · next hw =>
    rw [hw] at hwait
    exact ⟨hwait.tree, hwait.home, hwait.drawn, hwait.launches⟩
  · next hw =>
    rw [hw] at hwait
    exact hwait.trans (release_same id _)

end Lab

def Launch.treeOr (before : FileTree) : Launch → FileTree
  | .refused _ => before
  | .unread _ tree _ | .started _ tree => tree

namespace Lab

/-- What a program finds that the lab starts now. -/
def situation (limits : RunLimits) (command : Command) (timeout : Nat) (l : Lab) : Situation :=
  ⟨command, l.tree, l.home, l.now, timeout, limits.drainGrace⟩

theorem run_same (launch : Launcher) (limits : RunLimits) (command : Command) (timeout : Nat) (l : Lab) :
    SameSurroundings
      { l with
        tree := (launch (l.situation limits command timeout)).treeOr l.tree
        launches := l.launches ++ [command] }
      (l.run launch limits command timeout).2 := by
  unfold run situation
  dsimp only
  split
  · next hl => rw [hl]; exact ⟨rfl, rfl, rfl, rfl⟩
  · next hl => rw [hl]; exact ⟨rfl, rfl, rfl, rfl⟩
  · next behaviour tree hl =>
    rw [hl]
    have h := await_same limits command.program timeout
    exact ⟨(h _ _).tree, (h _ _).home, (h _ _).drawn, (h _ _).launches⟩

theorem run_launches (launch : Launcher) (limits : RunLimits) (command : Command) (timeout : Nat) (l : Lab) :
    (l.run launch limits command timeout).2.launches = l.launches ++ [command] :=
  (run_same launch limits command timeout l).launches

end Lab
end SnippetLab
