import Workflow.Store.Column
import Workflow.Store.Memory

/-!
# Records in tables

Flows, nodes, edges, executions and steps as rows of tables. A table has a key that no two rows
share, columns that must be filled, and columns whose texts are limited to a few; a row that breaks
one of these rules is refused, and then nothing has changed.
-/
namespace Workflow

/-- A row that breaks a rule of its table. -/
def Failure.brokenRule : Failure := ⟨.integrity, ""⟩

structure FlowRow where
  id : String
  workspace : String
  name : String
  description : Option String
  status : String
  triggerConfig : Option String
  created : Instant
  updated : Instant

structure NodeRow where
  flow : String
  id : String
  position : Nat
  type : String
  label : String
  x : Double
  y : Double
  config : Option String

structure EdgeRow where
  flow : String
  id : String
  position : Nat
  source : String
  target : String
  sourceHandle : Option String
  targetHandle : Option String
  label : Option String

structure StepRow where
  /-- The steps of its execution that were there before it. -/
  sequence : Nat
  step : Step

structure Tables where
  flows : List FlowRow := []
  nodes : List NodeRow := []
  edges : List EdgeRow := []
  executions : List Execution := []
  steps : List StepRow := []

/-- Adds a row at the end of a table in which no row has its key. -/
def insertRow {α κ : Type} [BEq κ] (key : α → κ) (row : α) (rows : List α) : Outcome (List α) :=
  if rows.any (key · == key row) then .error .brokenRule else .ok (rows ++ [row])

/-- Replaces the rows with the key of a row. -/
def replaceRow {α κ : Type} [BEq κ] (key : α → κ) (row : α) (rows : List α) : List α :=
  rows.map fun r => if key r == key row then row else r

namespace FlowRow

/-- The statuses that a flow can have. -/
def statuses : List String := ["draft", "active", "disabled"]

/-- The row of a flow: it has a name and one of the statuses. -/
def ofFlow (f : Flow) (created now : Instant) : Outcome FlowRow := do
  fitColumns [f.id, f.workspace]
  let name ← f.name.toTextColumn
  let description ← f.description.toTextColumn
  fitColumns (f.status :: f.triggerConfig.toList)
  match name with
  | none => throw .brokenRule
  | some name =>
    if statuses.contains f.status then
      return ⟨f.id, f.workspace, name, description, f.status, f.triggerConfig, created, now⟩
    else throw .brokenRule

def toFlow (r : FlowRow) : Flow :=
  { id := r.id, workspace := r.workspace, name := .text r.name,
    description := .ofOption .text r.description, status := r.status,
    triggerConfig := r.triggerConfig, created := r.created, updated := r.updated }

end FlowRow

namespace NodeRow

def key (r : NodeRow) : String × String := (r.flow, r.id)

def ofNode (flow : String) (position : Nat) (n : Node) : Outcome NodeRow := do
  fitColumns [n.id, n.type]
  let label ← n.label.toTextColumn
  let x ← n.x.toRealColumn
  let y ← n.y.toRealColumn
  let config ← n.config.toTextColumn
  return ⟨flow, n.id, position, n.type, label.getD "", x, y, config⟩

def toNode (r : NodeRow) : Node :=
  { id := r.id, flow := r.flow, type := r.type, label := .text r.label, x := .float r.x,
    y := .float r.y, config := .ofOption .text r.config }

end NodeRow

namespace EdgeRow

def key (r : EdgeRow) : String × String := (r.flow, r.id)

def ofEdge (flow : String) (position : Nat) (e : Edge) : Outcome EdgeRow := do
  fitColumns [e.id, e.source, e.target]
  let sourceHandle ← e.sourceHandle.toTextColumn
  let targetHandle ← e.targetHandle.toTextColumn
  let label ← if e.label.isNull then .ok (some "") else e.label.toTextColumn
  return ⟨flow, e.id, position, e.source, e.target, sourceHandle, targetHandle, label⟩

def toEdge (r : EdgeRow) : Edge :=
  { id := r.id, flow := r.flow, source := r.source, target := r.target,
    sourceHandle := .ofOption .text r.sourceHandle, targetHandle := .ofOption .text r.targetHandle,
    label := .ofOption .text r.label }

end EdgeRow

/-- The texts of an execution. -/
def Execution.texts (e : Execution) : List String := [e.id, e.flow, e.startMode] ++ e.error.toList

/-- The texts of a step that may change. -/
def Step.changingTexts (s : Step) : List String :=
  s.node :: s.input.toList ++ s.output.toList ++ s.error.toList

/-- The texts of a step. -/
def Step.texts (s : Step) : List String := s.execution :: s.id :: s.changingTexts

namespace Tables

/-- Adds the rows of a list one after the other, each with its position. -/
def insertFrom {α β κ : Type} [BEq κ] (key : β → κ) (row : Nat → α → Outcome β) :
    Nat → List α → List β → Outcome (List β)
  | _, [], rows => .ok rows
  | position, a :: rest, rows => do
    insertFrom key row (position + 1) rest (← insertRow key (← row position a) rows)

/-- Puts a flow in the place of the one with its id, if there is one; that keeps the time of its
creation. -/
def saveGraph (t : Tables) (g : FlowGraph) (now : Instant) : Outcome Tables := do
  let id := g.flow.id
  let old := t.flows.find? (·.id == id)
  let row ← FlowRow.ofFlow g.flow ((old.map FlowRow.created).getD g.flow.created) now
  let nodes ← insertFrom NodeRow.key (NodeRow.ofNode id) 0 g.nodes (t.nodes.filter (·.flow != id))
  let edges ← insertFrom EdgeRow.key (EdgeRow.ofEdge id) 0 g.edges (t.edges.filter (·.flow != id))
  let flows := if old.isSome then replaceRow FlowRow.id row t.flows else t.flows ++ [row]
  return { t with flows, nodes, edges }

def flow? (t : Tables) (flow : String) : Option Flow :=
  (t.flows.find? (·.id == flow)).map FlowRow.toFlow

def nodesOf (t : Tables) (flow : String) : List Node :=
  ((t.nodes.filter (·.flow == flow)).mergeSort fun a b => a.position ≤ b.position).map
    NodeRow.toNode

def edgesOf (t : Tables) (flow : String) : List Edge :=
  ((t.edges.filter (·.flow == flow)).mergeSort fun a b => a.position ≤ b.position).map
    EdgeRow.toEdge

def graph? (t : Tables) (flow : String) : Option FlowGraph :=
  (t.flow? flow).map fun f => ⟨f, t.nodesOf flow, t.edgesOf flow⟩

def listFlows (t : Tables) (page : Page) (filter : FlowFilter) : List Flow :=
  page.window (newestFirst Flow.created ((t.flows.map FlowRow.toFlow).filter filter.admits))

/-- Removes a flow and its executions with their steps. -/
def deleteFlow (t : Tables) (flow : String) : Tables × Bool :=
  let executions := (t.executions.filter (·.flow == flow)).map Execution.id
  ({ flows := t.flows.filter (·.id != flow)
     nodes := t.nodes.filter (·.flow != flow)
     edges := t.edges.filter (·.flow != flow)
     executions := t.executions.filter (·.flow != flow)
     steps := t.steps.filter fun r => !executions.contains r.step.execution },
   t.flows.any (·.id == flow))

def create (t : Tables) (e : Execution) : Outcome Tables := do
  fitColumns e.texts
  return { t with executions := ← insertRow Execution.id e t.executions }

def execution? (t : Tables) (id : String) : Option Execution := t.executions.find? (·.id == id)

/-- Replaces an execution that is there. -/
def update (t : Tables) (e : Execution) : Outcome (Tables × Bool) := do
  fitColumns [e.id]
  if t.executions.any (·.id == e.id) then
    fitColumns e.texts
    return ({ t with executions := replaceRow Execution.id e t.executions }, true)
  else return (t, false)

def executionsOf (t : Tables) (flow : String) (status : Option ExecutionStatus) (page : Page) :
    List Execution :=
  page.window (newestFirst Execution.created (t.executions.filter (·.isOf flow status)))

def createStep (t : Tables) (s : Step) : Outcome Tables := do
  fitColumns s.texts
  let sequence := (t.steps.filter (·.step.execution == s.execution)).length
  return { t with steps := ← insertRow (·.step.id) ⟨sequence, s⟩ t.steps }

/-- Replaces a step that is there; it stays with its execution. -/
def updateStep (t : Tables) (s : Step) : Outcome (Tables × Bool) := do
  fitColumns [s.id]
  if t.steps.any (·.step.id == s.id) then
    fitColumns s.changingTexts
    return ({ t with steps := t.steps.map fun r =>
                if r.step.id == s.id then { r with step := { s with execution := r.step.execution } }
                else r }, true)
  else return (t, false)

def stepsOf (t : Tables) (execution : String) : List Step :=
  ((t.steps.filter (·.step.execution == execution)).mergeSort fun a b =>
    a.sequence ≤ b.sequence).map StepRow.step

end Tables

end Workflow
