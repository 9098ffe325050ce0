import SnippetLab.Json.Basic
import SnippetLab.Lab.Basic
import SnippetLab.Orphans
import SnippetLab.Workspace

/-! The service around the requests: what happens when it starts and stops, and the state of its compiler. -/
namespace SnippetLab

structure CompilerStatus where
  compilerPath : String
  isPresent : Bool
  isRunnable : Bool
  tempDirectory : String
  deriving DecidableEq, Repr

namespace CompilerStatus

def isReady (c : CompilerStatus) : Bool := c.isPresent && c.isRunnable

def toJson (c : CompilerStatus) : Json :=
  .record [("compilerPath", .text c.compilerPath), ("exists", .bool c.isPresent),
    ("executable", .bool c.isRunnable), ("tempDirectory", .text c.tempDirectory)]

end CompilerStatus

namespace Lab

/-- Removes the workspaces that nobody has changed for long; a base that cannot be read is left alone. -/
def prepare (s : Settings) (l : Lab) : Lab :=
  { l with tree := (Workspace.reclaim l.tree l.now l.home s.tempDirectory (s.staleWorkspaceAgeSecs * 1000)).2 }

def orphanSearch (s : Settings) : List String :=
  Orphans.searchArguments (Orphans.pattern s.compilerPath s.astFlags)

def startService (s : Settings) (l : Lab) : Lab :=
  let l := l.prepare s
  { l with sweeper := l.sweeper.start l.now }

def stop (l : Lab) : Lab :=
  let (_, now, registry) := l.registry.killAll l.now
  { l with now, registry, sweeper := l.sweeper.stop }

def checkCompiler (s : Settings) (l : Lab) : CompilerStatus where
  compilerPath := s.compilerPath
  isPresent := l.tree.isPresent l.home s.compilerPath
  isRunnable := l.tree.check l.home s.compilerPath Node.isRunnable
  tempDirectory := s.tempDirectory

end Lab
end SnippetLab
