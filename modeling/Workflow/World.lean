import Workflow.Drawing
import Workflow.Store

/-!
# The world of runs

What runs share: the clock, the ids drawn so far, the store, the messages on their way to
subscribers, which executions are in progress and which of them are asked to stop, the gates that
are open, and the surroundings in which actions take place.
-/
namespace Workflow

/-- What is sent to the subscribers of a topic. -/
structure Message where
  topic : String
  payload : Value
  headers : List (String × Value) := []

structure World (σ : Type) where
  now : Instant
  drawn : Nat := 0
  store : Store := {}
  /-- The messages that are not yet delivered, the oldest first. -/
  sent : List Message := []
  /-- The executions in progress, the oldest first. -/
  running : List String := []
  /-- The executions that are asked to stop. -/
  stopping : List String := []
  opened : List String := []
  surroundings : σ

/-- Operations in a world: what they have changed stays when they fail. -/
abbrev Working (σ α : Type) := ExceptT Failure (StateM (World σ)) α

namespace World

variable {σ α : Type}

/-- A new id. -/
def draw : Working σ String := do
  modify fun w => { w with drawn := w.drawn + 1 }
  return idOf (← get).drawn

def clock : Working σ Instant := return (← get).now

/-- An access to the store. -/
def onStore (access : Store.Access α) : Working σ α := fun w =>
  let (result, store) := access w.store
  (result, { w with store })

def send (m : Message) : Working σ Unit := modify fun w => { w with sent := w.sent ++ [m] }

/-- Asks all executions in progress to stop. -/
def stopAll (w : World σ) : World σ := { w with stopping := w.stopping ++ w.running }

/-- Whether a gate is open; only texts name gates that can be opened. -/
def isOpen (w : World σ) (gate : Value) : Bool := gate.text?.any w.opened.contains

end World

end Workflow
