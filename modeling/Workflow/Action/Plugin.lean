import Workflow.Action

/-!
# Plugin actions

A plugin action is handed on to the manager of plugins, if there is one.
-/
namespace Workflow.Plugin

/-- A call of a plugin's action. -/
structure Call where
  plugin : Value
  action : Value
  params : Value

def Call.toValue (c : Call) : Value := .list [c.plugin, c.action, c.params]

/-- What a manager does with a call. -/
abbrev Manager := Call → Outcome Value

/-- The call that parameters describe: a plugin and an action must be given. -/
def call? (params : Fields) : Option Call :=
  let v := Value.object params
  if (v.field "pluginId").isGiven && (v.field "actionId").isGiven then
    some ⟨v.field "pluginId", v.field "actionId", v.field "params"⟩
  else none

/-- The result of a call: a failure becomes one, only that the run was cancelled stays a failure. -/
def answer (manager : Manager) (c : Call) : Outcome ActionResult :=
  match manager c with
  | .ok v => .ok ⟨true, v⟩
  | .error f => if f.kind = .cancelled then .error f else .ok (.refused (f.describe ""))

/-- The result of a plugin action, with the call that was made. -/
def perform (manager : Option Manager) (params : Fields) : Outcome ActionResult × Option Call :=
  match manager with
  | none => (.ok (.refused "Plugin manager not initialized"), none)
  | some manager =>
    match call? params with
    | none => (.ok (.refused "Missing pluginId or actionId"), none)
    | some c => (answer manager c, some c)

end Workflow.Plugin
