import Workflow.Flow
import Workflow.Json.Reader

/-!
# Node configurations

The configuration of a node is kept as JSON text; what it means depends on the type of the node.
A text that is no JSON object counts as an empty one.
-/
namespace Workflow

/-- The fields of a configuration. -/
def configFields (config : Value) : Fields :=
  match config with
  | .object fields => fields
  | .text s =>
    match Json.read s with
    | .ok (.object fields) => fields
    | _ => []
  | _ => []

/-- A configuration by the type of its node. -/
inductive NodeConfig where
  | trigger (startMode : Value) (schedule : Option Fields)
  | action (type : Option String) (params : Option Fields)
  | condition (raw : Value)
  | other (raw : Fields)

namespace NodeConfig

/-- A text that is not empty. -/
def named? : Value → Option String
  | .text s => if s == "" then none else some s
  | _ => none

/-- What the fields of a configuration mean for a type of node. -/
def ofFields (type : String) (fields : Fields) : NodeConfig :=
  let raw := Value.object fields
  if type == "trigger" then
    trigger ((raw.field "triggerType").orElse (.text StartMode.manual.name))
      (raw.field "schedule").fields?
  else if type == "action" then
    action (named? (raw.field "actionType")) (raw.field "config").fields?
  else if type == "condition" then condition (raw.field "condition")
  else other fields

end NodeConfig

def Node.parsedConfig (n : Node) : NodeConfig := NodeConfig.ofFields n.type (configFields n.config)

end Workflow
