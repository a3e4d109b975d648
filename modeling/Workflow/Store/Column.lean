import Workflow.Failure
import Workflow.Flow
import Workflow.Shelf
import Workflow.Value.Number
import Workflow.Value.Text

/-!
# Columns

A column of a table holds texts or real numbers, or nothing. Other scalars are turned into what the
column holds; containers are refused.
-/
namespace Workflow

/-- The integers a table can hold. -/
def columnInteger? (i : Int) : Option Int :=
  if -(twoTo 63 : Int) ≤ i && i < (twoTo 63 : Int) then some i else none

/-- An integer that no column can hold. -/
def Failure.wideInteger : Failure := ⟨.overflow, "Python int too large to convert to SQLite INTEGER"⟩

/-- A page as tables can be asked for it. -/
def Page.forTables (p : Page) : Outcome Page :=
  match columnInteger? p.offset, columnInteger? p.limit with
  | some offset, some limit => .ok ⟨offset, limit⟩
  | _, _ => .error .wideInteger

/-- A value that no column can hold. -/
def Failure.unfitValue : Failure := ⟨.unfit, ""⟩

/-- The text of a real number in a text column, in which zero has no sign and a half is rounded up; a
number that is none leaves the column empty. -/
def realText : Double → Option String
  | .nan => none
  | .number negative rank h =>
    if rank == infinityRank then some (if negative then "-Inf" else "Inf")
    else some ((Double.number (negative && rank != 0) rank h).textWith .column
      (Decimal.roundedBy Decimal.halfUp 15))

/-- What a text column holds of a text: only what can be written as bytes. -/
def textColumn (s : String) : Outcome String :=
  match Failure.ofHalves? s with
  | some f => .error f
  | none => .ok s

/-- Tells whether all of some texts fit their columns. -/
def fitColumns (texts : List String) : Outcome Unit :=
  match texts.findSome? Failure.ofHalves? with
  | some f => .error f
  | none => .ok ()

/-- What a text column holds of a value. -/
def Value.toTextColumn : Value → Outcome (Option String)
  | .null => .ok none
  | .bool b => .ok (some (if b then "1" else "0"))
  | .int i =>
    match columnInteger? i with
    | some i => .ok (some (toString i))
    | none => .error .wideInteger
  | .float d => .ok (realText d)
  | .text s => (textColumn s).map some
  | .foreign (.date d) => .ok (some d.text)
  | .foreign (.timestamp t) => .ok (some (t.textWith " "))
  | _ => .error .unfitValue

/-- A value that no real column can hold. -/
def Failure.wideNumber : Failure := ⟨.unconverted, ""⟩

/-- What a real column holds of a value: zero has no sign there, and stands for no number. -/
def Value.toRealColumn (v : Value) : Outcome Double :=
  match v, v.asDouble? with
  | .null, _ => .ok .zero
  | _, .ok (some d) => .ok (if d.isNaN || d.isZero then .zero else d)
  | _, _ => .error .wideNumber

end Workflow
