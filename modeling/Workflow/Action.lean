import Workflow.Failure

/-!
# Actions

An action turns parameters into a result: an output, and whether it succeeded. An `Executor` carries
out the actions of one type, with whatever it needs of its surroundings.
-/
namespace Workflow

structure ActionResult where
  success : Bool
  output : Value := .null

namespace ActionResult

/-- The failure of an action that has nothing but a message to show. -/
def refused (message : String) : ActionResult := ⟨false, .record [("error", .text message)]⟩

/-- What a failed action says: its `error` if that is a text, its output if that is one, else the
JSON text of the output. -/
def failureText (output : Value) : Outcome String :=
  match output.field "error", output with
  | .text message, _ => .ok message
  | _, .text message => .ok message
  | _, output => output.json .compact

def toValue (r : ActionResult) : Value := .record [("success", .bool r.success), ("output", r.output)]

end ActionResult

/-- What an executor answers. -/
inductive Reply where
  | result (r : ActionResult)
  | failure (f : Failure)
  /-- A result that comes once a gate is open. -/
  | waiting (gate : Value) (r : ActionResult)

/-- An answer, the time in microseconds that went by, and whether the runs in progress are to be
cancelled. -/
structure Performance where
  reply : Reply
  elapsed : Int := 0
  cancels : Bool := false

namespace Performance

def ofOutcome (r : Outcome ActionResult) : Performance :=
  match r with
  | .ok result => { reply := .result result }
  | .error f => { reply := .failure f }

end Performance

structure Executor (σ : Type) where
  type : String
  perform : Fields → σ → Performance × σ

/-- The executors by the types of actions they are registered for. -/
structure Registry (σ : Type) where
  executors : List (String × Executor σ) := []

namespace Registry

variable {σ : Type}

def get? (r : Registry σ) (type : String) : Option (Executor σ) := r.executors.lookup type

/-- Registers an executor for a type of action, or without one for its own; a later executor takes
the place of an earlier one. The failure is that there is no type; it names the executor's kind. -/
def register (r : Registry σ) (kind : String) (e : Executor σ) (type : String) :
    Outcome (Registry σ) :=
  let key := if type != "" then type else e.type
  if key == "" then .error ⟨.invalidValue, "Executor " ++ kind ++ " has no action type"⟩
  else if r.executors.any (·.1 == key) then
    .ok ⟨r.executors.map fun entry => if entry.1 == key then (key, e) else entry⟩
  else .ok ⟨r.executors ++ [(key, e)]⟩

def unregister (r : Registry σ) (type : String) : Registry σ :=
  ⟨r.executors.filter (·.1 != type)⟩

def types (r : Registry σ) : List String := r.executors.map (·.1)

/-- The reply to an action: an unknown type and a failure of the executor become results, only that
the run was cancelled stays a failure. -/
def perform (r : Registry σ) (type : Option String) (params : Fields) (s : σ) : Performance × σ :=
  match type.bind r.get? with
  | none =>
    ({ reply := .result (.refused ("Unknown action type: " ++ type.getD "None")) }, s)
  | some e =>
    let (p, s) := e.perform params s
    match p.reply with
    | .failure f =>
      if f.kind = .cancelled then (p, s)
      else ({ p with reply := .result (.refused (f.describe "")) }, s)
    | _ => (p, s)

end Registry

end Workflow
