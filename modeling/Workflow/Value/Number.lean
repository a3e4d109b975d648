import Workflow.Failure

/-!
# Values where a number is wanted

Coordinates, intervals and time limits are numbers, truth values, or texts that read as numbers;
bytes are read as the ASCII characters they stand for.
-/
namespace Workflow.Value

/-- The number a value gives, if it gives one. An integer that is too large is a failure. -/
def asDouble? : Value → Outcome (Option Double)
  | int i =>
    match Double.ofInt? i with
    | some d => .ok (some d)
    | none => .error .integerOverflow
  | bool b => .ok (some (.roundInt (if b then 1 else 0)))
  | float d => .ok (some d)
  | text s => .ok (Numeral.double? s)
  | foreign (.bytes b) =>
    .ok (if b.all (· < 0x80) then
      Numeral.double? (String.ofList (b.map fun x => Char.ofNat x.toNat)) else none)
  | _ => .ok none

end Workflow.Value
