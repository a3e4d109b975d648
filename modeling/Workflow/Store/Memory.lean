import Workflow.Execution
import Workflow.Shelf

/-!
# Records in memory

Flows, executions and steps by their ids. What is put here is what comes out again, and nothing is
refused.
-/
namespace Workflow

/-- Which flows a reader asks for; an empty text asks for all. -/
structure FlowFilter where
  workspace : String := ""
  status : String := ""

def FlowFilter.admits (f : FlowFilter) (flow : Flow) : Bool :=
  (f.workspace == "" || flow.workspace == f.workspace) && (f.status == "" || flow.status == f.status)

/-- Whether an execution belongs to a flow and has the status asked for, if one is. -/
def Execution.isOf (e : Execution) (flow : String) (status : Option ExecutionStatus) : Bool :=
  e.flow == flow && status.all (e.status == ·)

/-- The latest first; what was created at the same time keeps its order. -/
def newestFirst {α : Type} (created : α → Instant) (items : List α) : List α :=
  items.mergeSort fun a b => (created b).microseconds ≤ (created a).microseconds

structure Memory where
  graphs : Shelf FlowGraph := []
  executions : Shelf Execution := []
  steps : Shelf Step := []

namespace Memory

/-- Puts a flow in the place of the one with its id, if there is one. -/
def saveGraph (m : Memory) (g : FlowGraph) (now : Instant) : Memory :=
  { m with graphs := m.graphs.put g.flow.id { g with flow := { g.flow with updated := now } } }

def graph? (m : Memory) (flow : String) : Option FlowGraph := m.graphs.get? flow

def flows (m : Memory) (page : Page) (filter : FlowFilter) : List Flow :=
  page.slice ((m.graphs.values.map FlowGraph.flow).filter filter.admits)

/-- Removes a flow; its executions stay. -/
def deleteFlow (m : Memory) (flow : String) : Memory × Bool :=
  ({ m with graphs := m.graphs.remove flow }, m.graphs.has flow)

def create (m : Memory) (e : Execution) : Memory := { m with executions := m.executions.put e.id e }

def execution? (m : Memory) (id : String) : Option Execution := m.executions.get? id

/-- Replaces an execution that is there. -/
def update (m : Memory) (e : Execution) : Memory × Bool :=
  if m.executions.has e.id then (m.create e, true) else (m, false)

def executionsOf (m : Memory) (flow : String) (status : Option ExecutionStatus) (page : Page) :
    List Execution :=
  page.slice (newestFirst Execution.created (m.executions.values.filter (·.isOf flow status)))

def createStep (m : Memory) (s : Step) : Memory := { m with steps := m.steps.put s.id s }

/-- Replaces a step that is there. -/
def updateStep (m : Memory) (s : Step) : Memory × Bool :=
  if m.steps.has s.id then (m.createStep s, true) else (m, false)

def stepsOf (m : Memory) (execution : String) : List Step :=
  m.steps.values.filter (·.execution == execution)

end Memory

end Workflow
