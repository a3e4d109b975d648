import Workflow.Failure
import Workflow.Flow

/-!
# Exporting flows

A flow is exported as a document of version 1: without ids, its edges naming nodes by position.
-/
namespace Workflow

namespace FlowGraph

/-- The position that stands for an id: that of the last node with it, or else the first of all. -/
def position (g : FlowGraph) (id : String) : Nat :=
  match g.nodes.reverse.findIdx? (·.id == id) with
  | some k => g.nodes.length - 1 - k
  | none => 0

def exportNode (n : Node) : Value :=
  .record [("type", .text n.type), ("label", n.label), ("x", n.x), ("y", n.y),
    ("config", n.config)]

def exportEdge (g : FlowGraph) (e : Edge) : Value :=
  .record [("sourceIndex", .int (g.position e.source)), ("targetIndex", .int (g.position e.target)),
    ("sourceHandle", e.sourceHandle), ("targetHandle", e.targetHandle), ("label", e.label)]

/-- The document of a flow. -/
def toDocument (g : FlowGraph) : Value :=
  .record [("version", .int 1),
    ("flow", .record [("name", g.flow.name), ("description", g.flow.description),
      ("status", .text g.flow.status), ("triggerConfig", .ofOption .text g.flow.triggerConfig)]),
    ("nodes", .list (g.nodes.map exportNode)),
    ("edges", .list (g.edges.map g.exportEdge))]

/-- The text of the document of a flow. -/
def exportText (g : FlowGraph) : Outcome String := g.toDocument.json .indented

end FlowGraph

end Workflow
