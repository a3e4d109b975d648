import Workflow.Failure
import Workflow.Flow
import Workflow.Json.Reader

/-!
# Executions

An execution is one run of a flow, and a step is what one node did in it. Both move through a few
states; an execution that has ended refuses to end again, and a step that has ended refuses
everything.
-/
namespace Workflow

inductive ExecutionStatus where
  | pending
  | running
  | success
  | failed
  | cancelled
deriving DecidableEq, Repr

namespace ExecutionStatus

def name : ExecutionStatus → String
  | pending => "pending"
  | running => "running"
  | success => "success"
  | failed => "failed"
  | cancelled => "cancelled"

def all : List ExecutionStatus := [pending, running, success, failed, cancelled]

def ofName? (s : String) : Option ExecutionStatus := all.find? (·.name == s)

/-- The status that a value names. -/
def ofValue (v : Value) : Outcome ExecutionStatus :=
  match v.text?.bind ofName? with
  | some status => .ok status
  | none => do throw ⟨.invalidValue, (← v.quoted) ++ " is not a valid ExecutionStatus"⟩

/-- Whether an execution in this state has ended. -/
def isTerminal : ExecutionStatus → Bool
  | success => true
  | failed => true
  | cancelled => true
  | _ => false

end ExecutionStatus

inductive StepStatus where
  | pending
  | running
  | success
  | error
  | skipped
deriving DecidableEq, Repr

namespace StepStatus

def name : StepStatus → String
  | pending => "pending"
  | running => "running"
  | success => "success"
  | error => "error"
  | skipped => "skipped"

/-- Whether a step in this state has ended. -/
def isTerminal : StepStatus → Bool
  | success => true
  | error => true
  | skipped => true
  | _ => false

end StepStatus

structure Execution where
  id : String
  flow : String := ""
  status : ExecutionStatus := .pending
  startMode : String := "manual"
  started : Option Instant := none
  completed : Option Instant := none
  error : Option String := none
  created : Instant
deriving DecidableEq

namespace Execution

/-- The error of an execution that was cancelled. -/
def cancelledText : String := "Execution cancelled by user"

def start (e : Execution) (now : Instant) : Execution :=
  { e with status := .running, started := some now }

def alreadyEnded (e : Execution) (status : ExecutionStatus) : Failure :=
  ⟨.invalidValue, "Execution " ++ e.id ++ " is already " ++ e.status.name ++ ", cannot move to " ++
    status.name⟩

/-- Ends an execution that has not ended. -/
def finish (e : Execution) (status : ExecutionStatus) (error : Option String) (now : Instant) :
    Outcome Execution :=
  if e.status.isTerminal then .error (e.alreadyEnded status)
  else .ok { e with status, error, completed := some now }

def complete (e : Execution) (now : Instant) : Outcome Execution := e.finish .success none now

def fail (e : Execution) (error : Option String) (now : Instant) : Outcome Execution :=
  e.finish .failed error now

def cancel (e : Execution) (reason : Option String) (now : Instant) : Outcome Execution :=
  e.finish .cancelled reason now

end Execution

/-- The milliseconds between two instants: the seconds as a double, times a thousand, without the
fraction. -/
def millisecondsBetween (start stop : Instant) : Int :=
  let elapsed := stop.microseconds - start.microseconds
  ((Double.ofRatio (elapsed < 0) elapsed.natAbs 1000000).mul (.roundInt 1000)).truncate

structure Step where
  id : String
  execution : String := ""
  node : String := ""
  status : StepStatus := .pending
  /-- The data that went in and came out, as JSON text. -/
  input : Option String := none
  output : Option String := none
  error : Option String := none
  started : Option Instant := none
  completed : Option Instant := none
  duration : Option Int := none
deriving DecidableEq

namespace Step

/-- The JSON text of data, if there is any. -/
def dataText (v : Value) : Outcome (Option String) :=
  match v with
  | .null => .ok none
  | v => (v.json .record).map some

def alreadyEnded (s : Step) : Failure :=
  ⟨.invalidValue, "Step " ++ s.id ++ " is already " ++ s.status.name⟩

/-- What an operation on a step gives: the step as it is then, and whether the operation failed. -/
abbrev Change := Step × Option Failure

/-- Starts a step that has not ended; data that cannot be written is a failure of a started step. -/
def start (s : Step) (input : Value) (now : Instant) : Change :=
  if s.status.isTerminal then (s, some s.alreadyEnded)
  else
    let s := { s with status := .running, started := some now }
    match input, dataText input with
    | .null, _ => (s, none)
    | _, .ok text => ({ s with input := text }, none)
    | _, .error f => (s, some f)

/-- Ends a step that has not ended. -/
def finish (s : Step) (status : StepStatus) (now : Instant) : Outcome Step :=
  if s.status.isTerminal then .error s.alreadyEnded
  else .ok { s with
    status, completed := some now
    duration := s.started.map fun started => millisecondsBetween started now }

/-- Sets the data that came out; data that cannot be written is a failure. -/
def withOutput (s : Step) (output : Value) : Change :=
  match dataText output with
  | .ok text => ({ s with output := text }, none)
  | .error f => (s, some f)

def succeed (s : Step) (output : Value) (now : Instant) : Change :=
  match s.finish .success now with
  | .ok ended => ended.withOutput output
  | .error f => (s, some f)

def fail (s : Step) (error : Option String) (output : Value) (now : Instant) : Change :=
  match s.finish .error now with
  | .ok ended => { ended with error }.withOutput output
  | .error f => (s, some f)

def skip (s : Step) (now : Instant) : Change :=
  match s.finish .skipped now with
  | .ok ended => (ended, none)
  | .error f => (s, some f)

/-- The data that came out. -/
def outputData (s : Step) : Value :=
  match s.output with
  | none => .null
  | some "" => .null
  | some text => (Json.readWith .none text).toOption.getD .null

def instantValue (t : Option Instant) : Value := .ofOption (fun t => .text t.text) t

/-- A step as it is shown to subscribers. -/
def toValue (s : Step) : Value :=
  .record [("id", .text s.id), ("executionId", .text s.execution), ("nodeId", .text s.node),
    ("status", .text s.status.name), ("input", .ofOption .text s.input),
    ("output", .ofOption .text s.output), ("error", .ofOption .text s.error),
    ("startedAt", instantValue s.started), ("completedAt", instantValue s.completed),
    ("durationMs", .ofOption .int s.duration)]

end Step

/-- An execution as it is shown. -/
def Execution.toValue (e : Execution) : Value :=
  .record [("id", .text e.id), ("flowId", .text e.flow), ("status", .text e.status.name),
    ("triggerType", .text e.startMode), ("startedAt", Step.instantValue e.started),
    ("completedAt", Step.instantValue e.completed), ("error", .ofOption .text e.error),
    ("createdAt", Step.instantValue (some e.created))]

end Workflow
