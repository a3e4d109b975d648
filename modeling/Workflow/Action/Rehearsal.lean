import Workflow.Action.Surroundings

/-!
# Rehearsed actions

Executors whose replies are laid down beforehand, to try out flows without their effects. A script,
which is a value, describes a rehearsal by its kind.
-/
namespace Workflow

/-- The replies of a rehearsed executor. -/
inductive Rehearsal where
  /-- Gives the parameters back. -/
  | echo
  | fixed (r : ActionResult)
  /-- Gives one output after the other, and then the first again. -/
  | sequence (outputs : List Value)
  /-- Gives the number of the call. -/
  | count
  | failing (f : Failure)
  /-- Lets some microseconds go by. -/
  | advance (elapsed : Int)
  /-- Asks the runs in progress to stop. -/
  | cancel (success : Bool)
  /-- Waits for the gate that the parameters name. -/
  | gate

namespace Rehearsal

/-- The reply to the call with a number. -/
def reply (r : Rehearsal) (params : Fields) (call : Nat) : Performance :=
  match r with
  | echo => { reply := .result ⟨true, .record [("params", .object params)]⟩ }
  | fixed result => { reply := .result result }
  | sequence outputs =>
    { reply := .result ⟨true, (outputs[(call - 1) % outputs.length]?).getD .null⟩ }
  | count => { reply := .result ⟨true, .record [("n", .int call)]⟩ }
  | failing f => { reply := .failure f }
  | advance elapsed =>
    { reply := .result ⟨true, .record [("advanced", .int elapsed)]⟩, elapsed }
  | cancel success =>
    { reply := .result ⟨success, .record [("cancelling", .bool true)]⟩, cancels := true }
  | gate =>
    match (Value.object params).field? "gate" with
    | none => { reply := .failure ⟨.missingKey, "'gate'"⟩ }
    | some name =>
      if name.isScalar then
        { reply := .waiting name ⟨true, .record [("released", name)]⟩ }
      else { reply := .failure (.unhashable name) }

/-- A rehearsed executor; its calls are counted under a name. -/
def executor (name type : String) (r : Rehearsal) : Executor Surroundings where
  type
  perform params s :=
    let call := (s.counters.get? name).getD 0 + 1
    (r.reply params call, { s with counters := s.counters.put name call })

/-- The kinds of failures that a script can name. -/
def failureKind : String → FailureKind
  | "ValueError" => .invalidValue
  | "TypeError" => .wrongType
  | "OSError" => .os
  | "KeyError" => .missingKey
  | "ClientError" => .client
  | "Timeout" => .timeout
  | _ => .runtime

/-- The failure that a script describes. -/
def failureOf (script : Value) : Failure :=
  let kind := failureKind ((script.field "raise").text?.getD "")
  match script.field "message" with
  | .text m => ⟨kind, if kind == .missingKey then Text.quoted m else m⟩
  | _ => ⟨kind, ""⟩

/-- The rehearsal that a script describes. -/
def ofScript (script : Value) : Rehearsal :=
  let success := (script.field? "success").all Value.isGiven
  match script.field "kind" with
  | .text "return" => fixed ⟨success, script.field "output"⟩
  | .text "sequence" =>
    match script.field "outputs" with
    | .list outputs => sequence outputs
    | _ => sequence []
  | .text "count" => count
  | .text "raise" => failing (failureOf script)
  | .text "cancelled" => failing ⟨.cancelled, ""⟩
  | .text "advance" =>
    match script.field "us" with
    | .int elapsed => advance elapsed
    | _ => advance 0
  | .text "cancel" => cancel success
  | .text "gate" => gate
  | _ => echo

/-- A manager of plugins whose answers a script describes. -/
def manager? (script : Value) : Option Plugin.Manager :=
  match script with
  | .object _ =>
    some fun call =>
      if (script.field? "raise").isSome then .error (failureOf script)
      else if (script.field "echo").isGiven then .ok (.record [("echo", call.params)])
      else .ok (script.field "result")
  | _ => none

/-- A header that a script describes by its name and its text. -/
def header? : Value → Option (String × String)
  | .list [.text name, .text text] => some (name, text)
  | _ => none

/-- A transport that gives every request the response that a script describes. -/
def transport (script : Value) : Http.Transport := fun _ =>
  match script.field? "raise", script.field "headers", script.field "status" with
  | some _, _, _ => .error (failureOf script)
  | none, .list headers, .int status =>
    .ok ⟨status, headers.filterMap header?, (script.field "body").text?.getD ""⟩
  | none, _, .int status => .ok ⟨status, [], (script.field "body").text?.getD ""⟩
  | none, _, _ => .ok ⟨0, [], (script.field "body").text?.getD ""⟩

end Rehearsal

end Workflow
