import Workflow.Flow.Validation

/-!
# Flows as values

The parts of a flow, together with what follows from them, as values: times as texts, the branch of
an edge, the name under which a node is shown. What is wrong with a flow is written in the same way.
-/
namespace Workflow

def Flow.toValue (f : Flow) : Value :=
  .record [("id", .text f.id), ("workspaceId", .text f.workspace), ("name", f.name),
    ("description", f.description), ("status", .text f.status),
    ("triggerConfig", .ofOption .text f.triggerConfig), ("createdAt", .text f.created.text),
    ("updatedAt", .text f.updated.text)]

def Node.toValue (n : Node) : Value :=
  .record [("id", .text n.id), ("flowId", .text n.flow), ("type", .text n.type), ("label", n.label),
    ("x", n.x), ("y", n.y), ("config", n.config), ("displayName", n.displayName)]

def Edge.toValue (e : Edge) : Value :=
  .record [("id", .text e.id), ("flowId", .text e.flow), ("source", .text e.source),
    ("target", .text e.target), ("sourceHandle", e.sourceHandle), ("targetHandle", e.targetHandle),
    ("label", e.label), ("branch", e.branch)]

def FlowGraph.toValue (g : FlowGraph) : Value :=
  .record [("flow", g.flow.toValue), ("nodes", .list (g.nodes.map Node.toValue)),
    ("edges", .list (g.edges.map Edge.toValue))]

/-- A configuration under the name of its kind. -/
def NodeConfig.toValue : NodeConfig → Value
  | trigger mode schedule => .record [("kind", .text "TriggerConfig"), ("trigger_type", mode),
      ("schedule", .ofOption .object schedule)]
  | action type params => .record [("kind", .text "ActionConfig"),
      ("action_type", .ofOption .text type), ("params", .ofOption .object params)]
  | condition raw => .record [("kind", .text "ConditionConfig"), ("condition", raw)]
  | other raw => .record [("kind", .text "UnknownNodeConfig"), ("raw", .object raw)]

def Report.toValue (r : Report) : Value :=
  .record (("message", .text r.message) :: (r.node.map fun id => ("nodeId", Value.text id)).toList)

/-- The result of a validation. -/
def Report.summary (reports : List Report) : Value :=
  .record [("valid", .bool reports.isEmpty), ("errors", .list (reports.map Report.toValue))]

end Workflow
