import Workflow.Digraph
import Workflow.Failure
import Workflow.Flow

/-!
# The order of a run

The nodes of a flow run one after the other, each after the nodes its edges come from. Edges with an
unknown end play no part. A flow in which not every node has a place has no order.
-/
namespace Workflow

namespace FlowGraph

/-- The ids of the nodes, each once. -/
def ids (g : FlowGraph) : List String := Digraph.firstPlaces (g.nodes.map Node.id)

/-- The edges between nodes of the flow. -/
def links (g : FlowGraph) : List (String × String) :=
  (g.edges.map Edge.ends).filter fun (a, b) => g.ids.contains a && g.ids.contains b

/-- The nodes that have a place in the order. -/
def arranged (g : FlowGraph) : List Node :=
  (Digraph.arrange g.ids g.links).filterMap g.node?

end FlowGraph

/-- A flow whose nodes have no order cannot be run. -/
def Failure.cyclicFlow : Failure := ⟨.execution, "Flow contains a cycle and cannot be executed"⟩

/-- The nodes of a flow in the order in which they run. -/
def FlowGraph.order (g : FlowGraph) : Outcome (List Node) :=
  if g.arranged.length == g.nodes.length then .ok g.arranged else .error .cyclicFlow

end Workflow
