import Workflow.Flow.Validation
import Workflow.Run

/-!
# The engine

The engine starts executions of flows, lets their runs go on one job after the other, and tells
subscribers what happens. A job is the next step of a run, the delivery of a message, or that an
execution which has ended is no longer in progress. A run that waits gets its next job when its gate
opens.

`Engine.step` does the first of the jobs that are ready, so that a run goes on without interruption
until it waits or is over. `Engine.stepAt` does any of them.
-/
namespace Workflow

inductive Job where
  /-- Takes the next step of a run. -/
  | proceed (r : Run)
  /-- Delivers the oldest message. -/
  | deliver
  /-- The execution is no longer in progress. -/
  | forget (id : String)

namespace Job

def isDeliver : Job → Bool
  | deliver => true
  | _ => false

def run? : Job → Option Run
  | proceed r => some r
  | _ => none

/-- The jobs that can come of a job, and the messages that are sent in them. -/
def weight : Job → Nat
  | proceed r => r.weight
  | deliver => 1
  | forget _ => 1

def totalWeight : List Job → Nat
  | [] => 0
  | j :: jobs => j.weight + totalWeight jobs

end Job

/-- Why an execution is not started. -/
inductive Refusal where
  | invalid (reports : List Report)
  | failure (f : Failure)

def Refusal.toFailure : Refusal → Failure
  | invalid reports => .invalidFlow (reports.map Report.message)
  | failure f => f

structure Engine (σ : Type) where
  actions : Registry σ
  world : World σ
  ready : List Job := []
  /-- The runs that wait, in the order in which they came to their gates. -/
  waiting : List Run := []
  /-- What subscribers have received, the oldest first. -/
  delivered : List Message := []
  /-- The runs that were broken off, with the reason. -/
  broken : List (String × Failure) := []

namespace Engine

variable {σ : Type}

def isRunning (e : Engine σ) (id : String) : Bool := e.world.running.contains id

/-- Asks an execution in progress to stop; whether there is one. -/
def cancel (e : Engine σ) (id : String) : Engine σ × Bool :=
  if e.isRunning id then
    ({ e with world := { e.world with stopping := e.world.stopping ++ [id] } }, true)
  else (e, false)

/-- An operation in the world of an engine. -/
def inWorld {α : Type} (e : Engine σ) (operation : Working σ α) : Outcome α × Engine σ :=
  let (r, world) := operation e.world
  (r, { e with world })

/-- A new execution of a flow, which is started and stored. -/
def newExecution (g : FlowGraph) (startMode : String) : Working σ Execution := do
  let id ← World.draw
  let now ← World.clock
  let execution := ({ id, flow := g.flow.id, startMode, created := now } : Execution).start now
  discard (World.onStore (Store.create execution))
  return execution

/-- Starts the execution of a flow if it is valid: its run goes on later. -/
def runGraph (g : FlowGraph) (startMode : String) (payload : Value) (e : Engine σ) :
    Except Refusal String × Engine σ :=
  match g.reports with
  | .error f => (.error (.failure f), e)
  | .ok (report :: reports) => (.error (.invalid (report :: reports)), e)
  | .ok [] =>
    match e.inWorld (newExecution g startMode) with
    | (.error f, e) => (.error (.failure f), e)
    | (.ok execution, e) =>
      (.ok execution.id,
        { e with
          world := { e.world with running := e.world.running ++ [execution.id] }
          ready := e.ready ++ [.proceed (.ofExecution g execution payload)] })

/-- Starts the execution of a flow in the store. -/
def run (flow : String) (startMode : String) (payload : Value) (e : Engine σ) :
    Except Refusal String × Engine σ :=
  match e.world.store.graph? flow with
  | none => (.error (.failure (.noFlow flow)), e)
  | some g => runGraph g startMode payload e

/-- What is wrong with a flow in the store. -/
def validate (e : Engine σ) (flow : String) : Outcome (List Report) :=
  match e.world.store.graph? flow with
  | none => .error (.noFlow flow)
  | some g => g.reports

/-- The runs that are not over. -/
def runs (e : Engine σ) : List Run := e.ready.filterMap Job.run? ++ e.waiting

/-- Sees to it that messages on their way are delivered. -/
def wake (e : Engine σ) : Engine σ :=
  if e.world.sent.isEmpty || e.ready.any Job.isDeliver then e
  else { e with ready := e.ready ++ [.deliver] }

/-- Gives a run that has taken a step its place: it goes on first, or waits for its gate, or its
execution is soon no longer in progress. -/
def place (e : Engine σ) (r : Run) : Engine σ :=
  match r.stage with
  | .atEnd (.ok _) => { e with ready := e.ready ++ [.forget r.execution.id] }
  | .atEnd (.error f) =>
    { e with
      ready := e.ready ++ [.forget r.execution.id]
      broken := e.broken ++ [(r.execution.id, f)] }
  | _ =>
    if r.isBlocked e.world then { e with waiting := e.waiting ++ [r] }
    else { e with ready := .proceed r :: e.ready }

/-- Delivers the oldest message; the next one follows at once. -/
def deliver (e : Engine σ) : Engine σ :=
  match e.world.sent with
  | [] => e
  | m :: sent =>
    { e with
      world := { e.world with sent }
      delivered := e.delivered ++ [m]
      ready := if sent.isEmpty then e.ready else .deliver :: e.ready }

/-- Does a job that was taken from those that are ready. -/
def perform (e : Engine σ) : Job → Engine σ
  | .proceed r =>
    let (r, world) := r.advance e.actions e.world
    { e with world }.wake.place r
  | .deliver => e.deliver
  | .forget id => { e with world := { e.world with running := e.world.running.erase id } }

/-- Does the job at a place among those that are ready. -/
def stepAt (e : Engine σ) (i : Nat) : Engine σ :=
  match e.ready[i]? with
  | none => e
  | some j => { e with ready := e.ready.eraseIdx i }.perform j

/-- Does the first job that is ready. -/
def step (e : Engine σ) : Engine σ := e.stepAt 0

/-- Does a number of jobs. -/
def steps : Nat → Engine σ → Engine σ
  | 0, e => e
  | n + 1, e => if e.ready.isEmpty then e else steps n e.step

/-- More jobs than can come of those that are ready. -/
def fuel (e : Engine σ) : Nat :=
  e.world.sent.length + Job.totalWeight e.ready + 1

/-- Does all jobs, and those that come of them. -/
def settle (e : Engine σ) : Engine σ := e.steps e.fuel

/-- Opens a gate: the runs that wait for it are ready in the order in which they came. -/
def release (e : Engine σ) (gate : String) : Engine σ :=
  { e with
    world := { e.world with opened := e.world.opened ++ [gate] }
    waiting := e.waiting.filter (·.gate? != some gate)
    ready := e.ready ++ (e.waiting.filter (·.gate? == some gate)).map .proceed }

/-- The reason for which the run of an execution was broken off, if it was. -/
def breakOf (e : Engine σ) (id : String) : Option Failure := e.broken.lookup id

/-- Waits for an execution to end, and gives it as it is stored. One that waits for a gate is not
waited for. -/
def waitFor (id : String) (e : Engine σ) : Outcome Execution × Engine σ :=
  let awaited := e.isRunning id
  let e := if awaited then e.settle else e
  if awaited && e.isRunning id then (.error ⟨.timeout, ""⟩, e)
  else
    match (if awaited then e.breakOf id else none) with
    | some f => (.error f, e)
    | none =>
      match e.world.store.execution? id with
      | none => (.error (.noExecution id), e)
      | some execution => (.ok execution, e)

/-- Starts an execution and waits for its run to end. -/
def finishRun (started : Except Refusal String × Engine σ) : Except Refusal String × Engine σ :=
  match started with
  | (.error r, e) => (.error r, e)
  | (.ok id, e) =>
    let e := e.settle
    match e.breakOf id with
    | some f => (.error (.failure f), e)
    | none => (.ok id, e)

/-- Delivers all messages. -/
def deliverAll (e : Engine σ) : Engine σ :=
  { e with
    world := { e.world with sent := [] }
    delivered := e.delivered ++ e.world.sent
    ready := e.ready.filter fun j => !j.isDeliver }

/-- Asks all executions in progress to stop, and lets them end. -/
def shutdown (e : Engine σ) : Engine σ :=
  let e := { e with world := e.world.stopAll }
  if e.world.running.isEmpty then e.deliverAll else e.settle.deliverAll

end Engine

end Workflow
