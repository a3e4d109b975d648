import Workflow.Value.Number

/-!
# Time limits

A time limit is given in milliseconds; what gives no positive number means the usual limit.
-/
namespace Workflow.TimeLimit

/-- The seconds of a number of milliseconds. -/
def ofMilliseconds (n : Int) : Double := Double.ofRatio (n < 0) n.natAbs 1000

/-- The time limit in seconds that a value gives. -/
def seconds (v : Value) (usual : Int) : Outcome Double := do
  match ← v.asDouble? with
  | none => return ofMilliseconds usual
  | some limit =>
    if limit.le .zero then return ofMilliseconds usual
    else return limit.divNat 1000

end Workflow.TimeLimit
