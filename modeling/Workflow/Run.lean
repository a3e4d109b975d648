import Workflow.Action
import Workflow.Condition
import Workflow.Context
import Workflow.Execution
import Workflow.Flow.Config
import Workflow.Flow.Order
import Workflow.Template
import Workflow.World

/-!
# Runs

A run visits the nodes of a flow in their order. The first trigger and every node to which a followed
edge leads are executed, the others are skipped. An edge is followed if its source was executed,
unless the source is a condition with the result that is opposite to the branch of the edge. The run
ends with the first node that fails, and before a node if it is asked to stop. An action may make it
wait.

A run goes on in small steps, and its `Stage` says where it stands: `Run.advance` takes one step in a
world, and between two steps of a run all other runs, and the delivery of messages, may go on.
-/
namespace Workflow

/-- What came of the execution of a node. -/
structure NodeOutcome where
  output : Value := .null
  input : Value := .null
  error : Option String := none
  /-- The result of a condition. -/
  branch : Option Bool := none

/-- Whether an edge is followed from a node with a result. -/
def Edge.isFollowed (branch : Option Bool) (e : Edge) : Bool :=
  match branch with
  | none => true
  | some b =>
    match e.branch with
    | .text "true" => b
    | .text "false" => !b
    | _ => true

/-- An edge is told from others by its texts; a container among them is a failure. -/
def Edge.check (e : Edge) : Outcome Unit := do
  for v in [e.sourceHandle, e.targetHandle, e.label] do
    if !v.isScalar then throw (.unhashable v)

namespace Run

/-- What the execution of a node leads to. -/
inductive Attempt where
  | done (outcome : Outcome NodeOutcome)
  /-- A result that comes once a gate is open. -/
  | held (gate : Value) (params : Fields) (result : ActionResult)

/-- A node at which a run is, with its step as the run has it in hand, and the nodes after it. -/
structure Visit where
  node : Node
  step : Step
  rest : List Node

/-- What comes after a step is recorded and announced. -/
inductive Sequel where
  | execute
  /-- The node was skipped. -/
  | pass
  /-- The node was executed. -/
  | follow (outcome : NodeOutcome)
  /-- The node failed. -/
  | stop (f : Failure)

/-- How the walk over the nodes ended. -/
inductive Progress where
  | completed
  /-- It was asked to stop. -/
  | stopped

/-- Where a run stands. -/
inductive Stage where
  | fresh
  /-- Before a node, or behind the last one. -/
  | before (rest : List Node)
  /-- A step is about to be written to the store. -/
  | recording (v : Visit) (sequel : Sequel)
  /-- A step is about to be made known. -/
  | announcing (v : Visit) (sequel : Sequel)
  | executing (v : Visit)
  | performed (v : Visit) (a : Attempt)
  | ending (r : Outcome Progress)
  /-- The end of the execution is about to be written to the store. -/
  | storing (e : Execution) (result : Outcome Execution)
  /-- The end of the execution is about to be made known. -/
  | telling (e : Execution) (result : Outcome Execution)
  /-- A run that was cancelled from without, or could not be ended, has a failure as its result. -/
  | atEnd (result : Outcome Execution)

end Run

structure Run where
  graph : FlowGraph
  execution : Execution
  context : RunContext
  /-- The places of the edges that are followed. -/
  followed : List Nat := []
  stage : Run.Stage := .fresh

namespace Run

variable {σ : Type}

def topicOfSteps : String := "execution.step_update"

def topicOfEnds : String := "execution.complete"

/-- A run at its beginning. -/
def ofExecution (graph : FlowGraph) (execution : Execution) (payload : Value) : Run :=
  let trigger := .record [("type", .text execution.startMode), ("payload", payload)]
  { graph, execution, context := .start trigger }

def moveTo (r : Run) (stage : Stage) : Run := { r with stage }

/-! ## Executing a node -/

/-- The result of an action as the outcome of its node. -/
def outcomeOf (params : Fields) (r : ActionResult) : Outcome NodeOutcome := do
  if r.success then return { output := r.output, input := .object params }
  else
    return { output := r.output, input := .object params
             error := some (← ActionResult.failureText r.output) }

/-- A failure within the execution of a node is the node's error, unless the run was cancelled. -/
def settle (r : Outcome NodeOutcome) : Outcome NodeOutcome :=
  match r with
  | .ok outcome => .ok outcome
  | .error f =>
    if f.kind = .cancelled then .error f else .ok { error := some (f.describe "") }

/-- What an attempt has led to, unless it waits for a gate. -/
def Attempt.outcome? (w : World σ) : Attempt → Option (Outcome NodeOutcome)
  | done outcome => some outcome
  | held gate params result => if w.isOpen gate then some (settle (outcomeOf params result)) else none

/-- What the reply to an action leads to. -/
def Attempt.ofReply (params : Fields) : Reply → Attempt
  | .result r => done (settle (outcomeOf params r))
  | .failure f => done (settle (.error f))
  | .waiting gate r => held gate params r

/-- Carries out an action. -/
def perform (actions : Registry σ) (type : Option String) (params : Fields) : Working σ Reply :=
  fun w =>
    let (p, surroundings) := actions.perform type params w.surroundings
    let w := { w with surroundings, now := w.now.later p.elapsed }
    (.ok p.reply, if p.cancels then w.stopAll else w)

/-- The outcome of a trigger. -/
def triggered (c : RunContext) : NodeOutcome :=
  let payload := c.trigger.field "payload"
  { output := .record [("triggered", .bool true), ("type", c.trigger.field "type"),
      ("payload", payload)]
    input := payload.orElse .null }

/-- The outcome of a condition. -/
def decided (raw : Value) (c : RunContext) : NodeOutcome :=
  match Condition.evaluate raw c.root with
  | .ok result =>
    { output := .record [("result", .bool result)], input := raw, branch := some result }
  | .error f => { error := some (f.describe "") }

/-- Executes a node by its type. -/
def attempt (actions : Registry σ) (r : Run) (node : Node) : Working σ Attempt :=
  match node.parsedConfig with
  | .trigger _ _ => return .done (.ok (triggered r.context))
  | .action type params =>
    match Template.renderFields r.context.root (params.getD []) with
    | .ok params => return .ofReply params (← perform actions type params)
    | .error f => return .done (.ok { error := some (f.describe "") })
  | .condition raw => return .done (.ok (decided raw r.context))
  | .other _ => return .done (.ok {})

/-- Whether a run waits for a gate. -/
def isBlocked (r : Run) (w : World σ) : Bool :=
  match r.stage with
  | .performed _ a => (a.outcome? w).isNone
  | _ => false

/-- The gate that a run has come to. -/
def gate? (r : Run) : Option String :=
  match r.stage with
  | .performed _ (.held gate _ _) => gate.text?
  | _ => none

/-! ## Steps in the store and in messages -/

/-- Writes a step to the store: a new one, or in place of its earlier version. -/
def Sequel.record (step : Step) : Sequel → Store.Access Unit
  | execute => discard (Store.createStep step)
  | pass => discard (Store.createStep step)
  | follow _ => discard (Store.updateStep step)
  | stop _ => discard (Store.updateStep step)

/-- What subscribers are told of a step. -/
def stepMessage (s : Step) : Message := ⟨topicOfSteps, s.toValue, []⟩

/-- What subscribers are told of an execution that has ended. -/
def endMessage (e : Execution) : Message :=
  ⟨topicOfEnds, .record ([("id", .text e.id), ("status", .text e.status.name)] ++
    match e.error with
    | none => []
    | some "" => []
    | some message => [("error", .text message)]), []⟩

/-- A new step of a node. -/
def newStep (r : Run) (node : Node) : Working σ Step :=
  return { id := ← World.draw, execution := r.execution.id, node := node.id }

/-- The step after a change that has not failed. -/
def changed (c : Step.Change) : Outcome Step :=
  match c with
  | (step, none) => .ok step
  | (_, some f) => .error f

/-- The failure of a run at a node with an error. -/
def nodeFailure (node : Node) (message : String) : Failure :=
  match (node.label.orElse (.text node.id)).plain with
  | .ok name => .ofNode name message
  | .error f => f

/-- The step of a node that was executed, with what went in and came out. -/
def closed (step : Step) (o : NodeOutcome) (now : Instant) : Outcome Step := do
  let input ← Step.dataText o.input
  let step := { step with input := input.or step.input }
  changed <|
    match o.error with
    | some message => step.fail (some message) o.output now
    | none => step.succeed o.output now

/-- What comes after a node that was executed. -/
def sequelOf (node : Node) (o : NodeOutcome) : Sequel :=
  match o.error with
  | some message => .stop (nodeFailure node message)
  | none => .follow o

/-- Ends the step of a node that was executed. -/
def conclude (r : Run) (v : Visit) (now : Instant) (outcome : Outcome NodeOutcome) :
    Outcome Run := do
  let o ← outcome
  let step ← closed v.step o now
  return r.moveTo (.recording { v with step } (sequelOf v.node o))

/-! ## Followed edges -/

/-- The edges of a flow that begin in a node, with their places. -/
def outgoingPlaces (g : FlowGraph) (id : String) : List (Edge × Nat) :=
  g.edges.zipIdx.filter (·.1.source == id)

def incomingPlaces (g : FlowGraph) (id : String) : List (Edge × Nat) :=
  g.edges.zipIdx.filter (·.1.target == id)

/-- The places of the edges that are followed from a node. -/
def followedFrom (g : FlowGraph) (id : String) (branch : Option Bool) : Outcome (List Nat) := do
  let followed := (outgoingPlaces g id).filter (·.1.isFollowed branch)
  followed.mapM fun (e, place) => do
    e.check
    return place

/-- Whether one of the edges is followed. -/
def anyFollowed (followed : List Nat) : List (Edge × Nat) → Outcome Bool
  | [] => .ok false
  | (e, place) :: rest => do
    e.check
    if followed.contains place then return true else anyFollowed followed rest

/-- Whether a node is executed. -/
def isReached (r : Run) (node : Node) : Outcome Bool :=
  if (r.graph.triggers.take 1).any (·.id == node.id) then .ok true
  else anyFollowed r.followed (incomingPlaces r.graph node.id)

/-- Goes on after the step of a node is made known. -/
def proceed (r : Run) (v : Visit) : Sequel → Outcome Run
  | .execute => .ok (r.moveTo (.executing v))
  | .pass => .ok (r.moveTo (.before v.rest))
  | .follow o => do
    let more ← followedFrom r.graph v.node.id o.branch
    return { r with context := r.context.record v.node.id o.output
                    followed := r.followed ++ more, stage := .before v.rest }
  | .stop f => .error f

/-- Comes to a node: begins or skips its step, unless the run is asked to stop. -/
def visit (r : Run) (node : Node) (rest : List Node) : Working σ Run := do
  if (← get).stopping.contains r.execution.id then return r.moveTo (.ending (.ok .stopped))
  if ← MonadExcept.ofExcept (r.isReached node) then
    let step := ((← newStep r node).start .null (← World.clock)).1
    return r.moveTo (.recording ⟨node, step, rest⟩ .execute)
  else
    let step := ((← newStep r node).skip (← World.clock)).1
    return r.moveTo (.recording ⟨node, step, rest⟩ .pass)

/-! ## The end -/

/-- The execution of a run whose walk has ended with a result. -/
def endingOf (e : Execution) (now : Instant) (r : Outcome Progress) : Outcome Execution :=
  match r with
  | .ok progress =>
    let ended :=
      match progress with
      | .completed => e.complete now
      | .stopped => e.cancel (some Execution.cancelledText) now
    match ended with
    | .ok ended => .ok ended
    | .error f => e.fail (some (f.describe "")) now
  | .error f =>
    if f.kind = .cancelled then e.cancel (some Execution.cancelledText) now
    else e.fail (some (f.describe "")) now

/-- The stage after the walk has ended: a run that was cancelled from without stays broken off. -/
def afterWalk (e : Execution) (now : Instant) (r : Outcome Progress) : Stage :=
  match endingOf e now r, r with
  | .error f, _ => .atEnd (.error f)
  | .ok ended, .error f => .storing ended (if f.kind = .cancelled then .error f else .ok ended)
  | .ok ended, .ok _ => .storing ended (.ok ended)

/-! ## Steps of a run -/

/-- The next step of a run; a failure in it ends the walk. -/
def next (actions : Registry σ) (r : Run) : Working σ Run :=
  match r.stage with
  | .fresh => return r.moveTo (.before (← MonadExcept.ofExcept r.graph.order))
  | .before [] => return r.moveTo (.ending (.ok .completed))
  | .before (node :: rest) => r.visit node rest
  | .recording v sequel => do
    World.onStore (sequel.record v.step)
    return r.moveTo (.announcing v sequel)
  | .announcing v sequel => do
    World.send (stepMessage v.step)
    MonadExcept.ofExcept (r.proceed v sequel)
  | .executing v => return r.moveTo (.performed v (← r.attempt actions v.node))
  | .performed v a => do
    match a.outcome? (← get) with
    | none => return r
    | some outcome => MonadExcept.ofExcept (r.conclude v (← World.clock) outcome)
  | .ending result => return r.moveTo (afterWalk r.execution (← World.clock) result)
  | .storing e result => do
    -- that the store fails here is passed over
    try discard (World.onStore (Store.update e)) catch _ => pure ()
    return r.moveTo (.telling e result)
  | .telling e result => do
    World.send (endMessage e)
    return r.moveTo (.atEnd result)
  | .atEnd _ => return r

/-- Takes the next step of a run. -/
def advance (actions : Registry σ) (r : Run) : StateM (World σ) Run := fun w =>
  match r.next actions w with
  | (.ok r, w) => (r, w)
  | (.error f, w) => (r.moveTo (.ending (.error f)), w)

/-! ## Runs by themselves -/

/-- More than the steps to go from a node on, each message counted with its delivery. -/
def Stage.weight (g : FlowGraph) : Stage → Nat
  | fresh => 11 * g.nodes.length + 9
  | before rest => 11 * rest.length + 8
  | recording v .execute => 11 * v.rest.length + 18
  | recording v _ => 11 * v.rest.length + 12
  | announcing v .execute => 11 * v.rest.length + 17
  | announcing v _ => 11 * v.rest.length + 11
  | executing v => 11 * v.rest.length + 14
  | performed v _ => 11 * v.rest.length + 13
  | ending _ => 7
  | storing _ _ => 6
  | telling _ _ => 5
  | atEnd _ => 2

def weight (r : Run) : Nat := r.stage.weight r.graph

def isOver (r : Run) : Bool :=
  match r.stage with
  | .atEnd _ => true
  | _ => false

/-- Takes steps of a run until it waits or is over, at most `fuel` of them. -/
def advanceAll (actions : Registry σ) : Nat → Run → StateM (World σ) Run
  | 0, r => return r
  | fuel + 1, r => do
    if r.isOver || r.isBlocked (← get) then return r else advanceAll actions fuel (← r.advance actions)

/-- How a run stands when it does not go on by itself. -/
inductive Turn where
  | waiting (r : Run)
  | ended (e : Execution)
  /-- The run ended because it was cancelled from without, or could not be ended. -/
  | broken (f : Failure)

def turn (r : Run) : Turn :=
  match r.stage with
  | .atEnd (.ok e) => .ended e
  | .atEnd (.error f) => .broken f
  | _ => .waiting r

/-- Lets a run go on by itself until it waits or is over. -/
def begin (actions : Registry σ) (r : Run) : StateM (World σ) Turn :=
  return (← r.advanceAll actions r.weight).turn

end Run

end Workflow
