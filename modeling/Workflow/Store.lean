import Workflow.Store.Tables

/-!
# Stores

A `Store` keeps the records of flows, executions and steps, in memory or in tables. Its writes may
fail: an `Outage` is a write that will.
-/
namespace Workflow

inductive Records where
  | memory (m : Memory)
  | tables (t : Tables)

/-- The writes of executions and steps. -/
inductive Write where
  | create
  | update
  | createStep
  | updateStep
deriving DecidableEq

def Write.ofName? (name : String) : Option Write :=
  match name with
  | "create" => some .create
  | "update" => some .update
  | "create_step" => some .createStep
  | "update_step" => some .updateStep
  | _ => none

/-- A write that fails, after some that do not. -/
structure Outage where
  write : Write
  after : Nat
  failure : Failure

namespace Outage

/-- Whether a write is the one that fails. -/
def isDue (write : Write) (o : Outage) : Bool := o.write == write && o.after == 0

/-- An outage of one write of a kind, counted from one. -/
def nth (name : String) (count : Int) (failure : Failure) : List Outage :=
  match Write.ofName? name, count.toNat with
  | some write, after + 1 => [⟨write, after, failure⟩]
  | _, _ => []

/-- What is left of an outage after a write. -/
def passed (write : Write) (o : Outage) : Option Outage :=
  if o.write != write then some o
  else match o.after with
    | 0 => none
    | after + 1 => some { o with after }

end Outage

structure Store where
  records : Records := .memory {}
  outages : List Outage := []
  /-- Why flows cannot be listed now, if they cannot. -/
  listing : Option Failure := none

namespace Store

/-- What a store does: a result, with what it keeps afterwards. -/
abbrev Access (α : Type) := ExceptT Failure (StateM Store) α

/-- A write takes place unless it is the one that fails. -/
def attempt (write : Write) : Access Unit := do
  let s ← get
  set { s with outages := s.outages.filterMap (Outage.passed write) }
  match s.outages.find? (Outage.isDue write) with
  | some o => throw o.failure
  | none => return

def saveGraph (g : FlowGraph) (now : Instant) : Access String := do
  let s ← get
  match s.records with
  | .memory m => set { s with records := .memory (m.saveGraph g now) }
  | .tables t => set { s with records := .tables (← MonadExcept.ofExcept (t.saveGraph g now)) }
  return g.flow.id

def graph? (s : Store) (flow : String) : Option FlowGraph :=
  match s.records with
  | .memory m => m.graph? flow
  | .tables t => t.graph? flow

def flow? (s : Store) (flow : String) : Option Flow :=
  match s.records with
  | .memory m => (m.graph? flow).map FlowGraph.flow
  | .tables t => t.flow? flow

def flows (s : Store) (page : Page) (filter : FlowFilter) : Outcome (List Flow) :=
  match s.listing, s.records with
  | some f, _ => .error f
  | none, .memory m => .ok (m.flows page filter)
  | none, .tables t => page.forTables.map fun page => t.listFlows page filter

/-- How many flows there are. -/
def flowCount (s : Store) : Nat :=
  match s.records with
  | .memory m => m.graphs.length
  | .tables t => t.flows.length

/-- Removes a flow; whether it was there. -/
def deleteFlow (flow : String) : Access Bool := do
  let s ← get
  match s.records with
  | .memory m =>
    let (m, found) := m.deleteFlow flow
    set { s with records := .memory m }
    return found
  | .tables t =>
    let (t, found) := t.deleteFlow flow
    set { s with records := .tables t }
    return found

/-- A write to the records: in memory, or in tables, which may refuse it. -/
def write {α : Type} (w : Write) (inMemory : Memory → Memory × α)
    (inTables : Tables → Outcome (Tables × α)) : Access α := do
  attempt w
  let s ← get
  match s.records with
  | .memory m =>
    let (m, a) := inMemory m
    set { s with records := .memory m }
    return a
  | .tables t =>
    let (t, a) ← MonadExcept.ofExcept (inTables t)
    set { s with records := .tables t }
    return a

def create (e : Execution) : Access String :=
  write .create (fun m => (m.create e, e.id)) fun t => (t.create e).map (·, e.id)

def execution? (s : Store) (id : String) : Option Execution :=
  match s.records with
  | .memory m => m.execution? id
  | .tables t => t.execution? id

/-- Replaces an execution; whether it was there. -/
def update (e : Execution) : Access Bool := write .update (·.update e) (·.update e)

def executionsOf (s : Store) (flow : String) (status : Option ExecutionStatus) (page : Page) :
    Outcome (List Execution) :=
  match s.records with
  | .memory m => .ok (m.executionsOf flow status page)
  | .tables t => page.forTables.map fun page => t.executionsOf flow status page

def createStep (step : Step) : Access String :=
  write .createStep (fun m => (m.createStep step, step.id)) fun t =>
    (t.createStep step).map (·, step.id)

/-- Replaces a step; whether it was there. -/
def updateStep (step : Step) : Access Bool :=
  write .updateStep (·.updateStep step) (·.updateStep step)

def stepsOf (s : Store) (execution : String) : List Step :=
  match s.records with
  | .memory m => m.stepsOf execution
  | .tables t => t.stepsOf execution

end Store

end Workflow
