import Workflow.Execution
import Workflow.Flow.Record

/-!
# Views

Flows and executions as the service shows them. Times are in the zone `Z`. In the place of a number that
is not finite stands nothing.
-/
namespace Workflow.Service

/-- A time with the letter for its zone. -/
def timeText (t : Instant) : Value :=
  let s := t.text
  .text (if s.endsWith "+00:00" then (s.dropEnd 6).toString ++ "Z" else s)

namespace View

def flowFields (f : Flow) : List (String × Value) :=
  [("id", .text f.id), ("workspaceId", .text f.workspace), ("name", f.name),
    ("description", f.description), ("status", .text f.status),
    ("triggerConfig", .ofOption .text f.triggerConfig), ("createdAt", timeText f.created),
    ("updatedAt", timeText f.updated)]

def flow (f : Flow) : Value := .record (flowFields f)

/-- A number that is not finite is not shown. -/
def coordinate (v : Value) : Value :=
  match v with
  | .float d => if d.isFinite then v else .null
  | v => v

def node (n : Node) : Value :=
  .record [("id", .text n.id), ("type", .text n.type), ("label", n.label), ("x", coordinate n.x),
    ("y", coordinate n.y), ("config", n.config)]

def edge (e : Edge) : Value :=
  .record [("id", .text e.id), ("source", .text e.source), ("target", .text e.target),
    ("sourceHandle", e.sourceHandle), ("targetHandle", e.targetHandle), ("label", e.label)]

def graph (g : FlowGraph) : Value :=
  .record (flowFields g.flow ++
    [("nodes", .list (g.nodes.map node)), ("edges", .list (g.edges.map edge))])

/-- The findings of a validation; one that is about no node says so. -/
def validation (reports : List Report) : Value :=
  .record [("valid", .bool reports.isEmpty),
    ("errors", .list (reports.map fun r =>
      .record [("message", .text r.message), ("nodeId", .ofOption .text r.node)]))]

def executionFields (e : Execution) : List (String × Value) :=
  [("id", .text e.id), ("flowId", .text e.flow), ("status", .text e.status.name),
    ("triggerType", .text e.startMode), ("startedAt", .ofOption timeText e.started),
    ("completedAt", .ofOption timeText e.completed), ("error", .ofOption .text e.error),
    ("createdAt", timeText e.created)]

def execution (e : Execution) : Value := .record (executionFields e)

def step (s : Step) : Value :=
  .record [("id", .text s.id), ("executionId", .text s.execution), ("nodeId", .text s.node),
    ("status", .text s.status.name), ("input", .ofOption .text s.input),
    ("output", .ofOption .text s.output), ("error", .ofOption .text s.error),
    ("startedAt", .ofOption timeText s.started), ("completedAt", .ofOption timeText s.completed),
    ("durationMs", .ofOption .int s.duration)]

def executionWithSteps (e : Execution) (steps : List Step) : Value :=
  .record (executionFields e ++ [("steps", .list (steps.map step))])

end View

end Workflow.Service
