import Workflow.Action.FileRead
import Workflow.Action.Http
import Workflow.Action.Plugin
import Workflow.Action.Shell
import Workflow.Shelf

/-!
# The surroundings of actions

What the built-in executors work with: a host for commands, a transport for requests, files, and a
manager of plugins; and what they have done with it.
-/
namespace Workflow

structure Surroundings where
  files : FileTree
  host : Shell.Host
  transport : Http.Transport
  manager : Option Plugin.Manager := none
  requests : List Http.Request := []
  calls : List Plugin.Call := []
  /-- How often each rehearsed executor was called. -/
  counters : Shelf Nat := []

namespace Surroundings

def shellExecutor (usual : Int) : Executor Surroundings where
  type := "shell.exec"
  perform params s :=
    let (r, files) := Shell.perform s.host usual Shell.outputLimit params s.files
    (.ofOutcome r, { s with files })

def httpExecutor (usual : Int) : Executor Surroundings where
  type := "http.request"
  perform params s :=
    let (r, request) := Http.perform s.transport usual params
    (.ofOutcome r, { s with requests := s.requests ++ request.toList })

def fileExecutor (allowed : List FilePath) : Executor Surroundings where
  type := "file.read"
  perform params s := (.ofOutcome (FileRead.perform s.files allowed params), s)

def pluginExecutor : Executor Surroundings where
  type := "plugin.action"
  perform params s :=
    let (r, call) := Plugin.perform s.manager params
    (.ofOutcome r, { s with calls := s.calls ++ call.toList })

/-- The directory for files that are soon given up. -/
def temporaryDirectory : FilePath := .ofText "/tmp"

/-- The executors for the built-in types of actions. -/
def builtin (shellTimeLimit httpTimeLimit : Int) (userDataDirectory : FilePath) :
    Registry Surroundings :=
  ⟨[shellExecutor shellTimeLimit, httpExecutor httpTimeLimit,
    fileExecutor [userDataDirectory, temporaryDirectory], pluginExecutor].map fun e => (e.type, e)⟩

end Surroundings

end Workflow
