import Workflow.Value

/-!
# Flows

A flow is a graph of nodes: triggers that start it, actions, conditions and nodes of other types.
Documents leave the type of names, labels and handles open, so these are values.
-/
namespace Workflow

/-- What is kept of a flow beside its nodes and edges. -/
structure Flow where
  id : String
  workspace : String := ""
  name : Value := .text ""
  description : Value := .text ""
  status : String := "draft"
  /-- The configuration of its triggers, as JSON text. -/
  triggerConfig : Option String := some "\x7b\x7d"
  created : Instant
  updated : Instant

structure Node where
  id : String
  flow : String := ""
  type : String := "action"
  label : Value := .text ""
  /-- The place in the plane of the editor. -/
  x : Value := .float .zero
  y : Value := .float .zero
  /-- The configuration: JSON text, or an object that is ready for use. -/
  config : Value := .text "\x7b\x7d"

namespace Node

def isTrigger (n : Node) : Bool := n.type == "trigger"

def isCondition (n : Node) : Bool := n.type == "condition"

/-- The label, or without one the type. -/
def displayName (n : Node) : Value := n.label.orElse (.text n.type)

end Node

structure Edge where
  id : String
  flow : String := ""
  source : String
  target : String
  sourceHandle : Value := .null
  targetHandle : Value := .null
  label : Value := .text ""

/-- The branch of a condition that an edge belongs to: its label, or without one its source
handle. -/
def Edge.branch (e : Edge) : Value := (e.label.orElse e.sourceHandle).orElse .null

def Edge.ends (e : Edge) : String × String := (e.source, e.target)

/-- A flow as it is run: with its nodes and edges. -/
structure FlowGraph where
  flow : Flow
  nodes : List Node
  edges : List Edge

namespace FlowGraph

/-- The first node with an id. -/
def node? (g : FlowGraph) (id : String) : Option Node := g.nodes.find? (·.id == id)

def triggers (g : FlowGraph) : List Node := g.nodes.filter (·.isTrigger)

/-- The edges that begin in a node, in order. -/
def outgoing (g : FlowGraph) (id : String) : List Edge := g.edges.filter (·.source == id)

/-- The edges that end in a node, in order. -/
def incoming (g : FlowGraph) (id : String) : List Edge := g.edges.filter (·.target == id)

end FlowGraph

/-- The ways to start a flow. -/
inductive StartMode where
  | manual
  | schedule
deriving DecidableEq

def StartMode.name : StartMode → String
  | manual => "manual"
  | schedule => "schedule"

end Workflow
