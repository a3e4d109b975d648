import Workflow.Value

/-!
# The context of a run

What conditions and templates of a run can refer to: the trigger's data, the outputs of the nodes
that have run, and variables.
-/
namespace Workflow

structure RunContext where
  trigger : Value
  nodes : Fields
  assigned : Fields

namespace RunContext

/-- The context at the beginning of a run. -/
def start (trigger : Value) : RunContext := ⟨trigger, [], []⟩

/-- Records the output of a node. -/
def record (c : RunContext) (node : String) (output : Value) : RunContext :=
  { c with nodes := Fields.set (.text node) (.record [("output", output)]) c.nodes }

/-- The recorded output of a node. -/
def output (c : RunContext) (node : String) : Value :=
  ((Fields.get? node c.nodes).getD .null).field "output"

/-- The object in which paths start: the variables, the trigger and the nodes. -/
def root (c : RunContext) : Value :=
  .object (Fields.set (.text "nodes") (.object c.nodes)
    (Fields.set (.text "trigger") c.trigger c.assigned))

end RunContext

end Workflow
