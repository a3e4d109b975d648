import Workflow.Value.Number

/-!
# Schedules

A schedule is a number of units of time between two runs. A unit that is not known counts nothing,
and a schedule that gives no positive time means that the flow is not run by the clock.
-/
namespace Workflow.Schedule

/-- The seconds in each unit. -/
def units : Fields :=
  [(.text "minutes", .float (.roundInt 60)), (.text "hours", .float (.roundInt 3600)),
    (.text "days", .float (.roundInt 86400))]

/-- The length of the unit that a value names, in seconds. -/
def unitLength (units : Fields) (unit : Value) : Outcome Double := do
  if !unit.isScalar then .error (.unhashable unit)
  else
    let length := match unit with
      | .text name => (Fields.get? name units).getD (.float .zero)
      | _ => .float .zero
    return (← length.asDouble?).getD .zero

/-- The seconds between two runs; zero if the schedule gives no positive time. -/
def interval (units : Fields) (schedule : Option Fields) : Outcome Double := do
  match schedule with
  | none => return .zero
  | some [] => return .zero
  | some fields =>
    let schedule := Value.object fields
    let length ← unitLength units (schedule.field "intervalUnit")
    match ← ((schedule.field "intervalValue").orElse (.int 0)).asDouble? with
    | none => return .zero
    | some count =>
      let seconds := count.mul length
      return if Double.zero.lt seconds then seconds else .zero

end Workflow.Schedule
