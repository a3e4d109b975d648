import Workflow.Engine

/-!
# Interleavings

What can happen to an engine: a job that is ready is done, whichever it is, a run is cancelled from
without while a node is in progress, or something is asked of the engine. `Interleaved e₀ log e` tells
that an engine comes from `e₀` to `e` in this way, in any order and any number of steps; the log tells
of each execution what was written to the store for it and how its nodes and its walk ended.
-/
namespace Workflow

/-- What the log tells of an execution. -/
inductive Event where
  /-- Its run is ready to go on over a flow. -/
  | started (g : FlowGraph)
  /-- A version of a step was written to the store. -/
  | wrote (step : Step)
  /-- The store refused a write. -/
  | refused
  /-- The execution of a node came to an end, with what an attempt led to. -/
  | executed (node : Node) (outcome : Outcome NodeOutcome)
  /-- The run was cancelled from without while a node was in progress. -/
  | interrupted
  /-- The walk over the nodes came to an end. -/
  | ended (r : Outcome Run.Progress)

/-- The events of executions, by their ids, the oldest first. -/
abbrev Log := List (String × Event)

namespace Log

/-- The events of an execution. -/
def of (x : String) (log : Log) : List Event := (log.filter (·.1 == x)).map (·.2)

/-- The versions of the steps of an execution that were written to the store. -/
def written (x : String) (log : Log) : List Step :=
  (log.of x).filterMap fun
    | .wrote step => some step
    | _ => none

end Log

/-- The execution that subscribers are told of. -/
def Message.execution? (m : Message) : Option String :=
  if m.topic == Run.topicOfSteps then (m.payload.field "executionId").text?
  else if m.topic == Run.topicOfEnds then (m.payload.field "id").text?
  else none

/-- The messages of an execution. -/
def messagesOf (x : String) (ms : List Message) : List Message :=
  ms.filter fun m => m.execution? == some x

namespace Run

variable {σ : Type}

/-- What the log tells of the next step of a run. -/
def events (r : Run) (w : World σ) : List Event :=
  match r.stage with
  | .recording v sequel =>
    match (sequel.record v.step w.store).1 with
    | .ok _ => [.wrote v.step]
    | .error _ => [.refused]
  | .performed v a => (a.outcome? w).toList.map (.executed v.node)
  | .ending r => [.ended r]
  | .storing e _ =>
    match (Store.update e w.store).1 with
    | .ok _ => []
    | .error _ => [.refused]
  | _ => []

/-- A run that is cancelled from without while a node is in progress. -/
def interrupt (message : String) (r : Run) : Option Run :=
  match r.stage with
  | .executing _ => some (r.moveTo (.ending (.error ⟨.cancelled, message⟩)))
  | .performed _ _ => some (r.moveTo (.ending (.error ⟨.cancelled, message⟩)))
  | _ => none

end Run

namespace Engine

/-- What is asked of an engine from without. -/
inductive Call (σ : Type) where
  /-- To start an execution of a flow. -/
  | start (g : FlowGraph) (startMode : String) (payload : Value)
  | cancel (id : String)
  | stopAll
  /-- A gate is opened. -/
  | release (gate : String)
  | save (g : FlowGraph)
  /-- Time passes, the surroundings change, and others draw ids. -/
  | elsewhere (now : Instant) (surroundings : σ) (ids : Nat)

variable {σ : Type}

/-- What the log tells of a job that is done. -/
def events (e : Engine σ) : Job → Log
  | .proceed r => (r.events e.world).map (r.execution.id, ·)
  | _ => []

/-- What the log tells of `Engine.steps`. -/
def stepsLog : Nat → Engine σ → Log
  | 0, _ => []
  | n + 1, e =>
    match e.ready with
    | [] => []
    | j :: _ => e.events j ++ stepsLog n e.step

/-- What the log tells of a call, and the engine after it. -/
def call (e : Engine σ) : Call σ → Log × Engine σ
  | .start g startMode payload =>
    match e.runGraph g startMode payload with
    | (.ok id, e) => ([(id, .started g)], e)
    | (.error _, e) => ([], e)
  | .cancel id => ([], (e.cancel id).1)
  | .stopAll => ([], { e with world := e.world.stopAll })
  | .release gate => ([], e.release gate)
  | .save g => ([], (e.inWorld (World.onStore (Store.saveGraph g e.world.now))).2)
  | .elsewhere now surroundings ids =>
    ([], { e with world := { e.world with now, surroundings, drawn := e.world.drawn + ids } })

/-- One thing that can happen. -/
inductive Happens (e : Engine σ) : Log → Engine σ → Prop where
  | job (i : Nat) (j : Job) (hj : e.ready[i]? = some j) : Happens e (e.events j) (e.stepAt i)
  | interrupt (i : Nat) (message : String) (r r' : Run) (hr : e.ready[i]? = some (.proceed r))
      (hr' : r.interrupt message = some r') :
      Happens e [(r.execution.id, .interrupted)] { e with ready := e.ready.set i (.proceed r') }
  | interruptWaiting (i : Nat) (message : String) (r r' : Run) (hr : e.waiting[i]? = some r)
      (hr' : r.interrupt message = some r') :
      Happens e [(r.execution.id, .interrupted)]
        { e with waiting := e.waiting.eraseIdx i, ready := e.ready ++ [.proceed r'] }
  | call (c : Call σ) : Happens e (e.call c).1 (e.call c).2

/-- All that can happen, one thing after the other. -/
inductive Interleaved (e₀ : Engine σ) : Log → Engine σ → Prop where
  | start : Interleaved e₀ [] e₀
  | step {log more : Log} {e e' : Engine σ} (h : Interleaved e₀ log e) (hs : e.Happens more e') :
      Interleaved e₀ (log ++ more) e'

end Engine

end Workflow
