import Workflow.Failure
import Workflow.Text.Blank

/-!
# Comparing values

Two values that both have a finite numeric reading are compared by it, any other two by their
texts. Reading a value as a number or as a text fails on integers that are too large.
-/
namespace Workflow

/-- The six ways to compare. -/
inductive Relation where
  | eq | neq | gt | gte | lt | lte
deriving DecidableEq, Repr

namespace Relation

def all : List Relation := [eq, neq, gt, gte, lt, lte]

def name : Relation → String
  | eq => "eq"
  | neq => "neq"
  | gt => "gt"
  | gte => "gte"
  | lt => "lt"
  | lte => "lte"

def ofName? (s : String) : Option Relation := all.find? (·.name == s)

/-- Whether the relation holds between two numbers. -/
def holdsOfNumbers (r : Relation) (x y : Double) : Bool :=
  match r with
  | eq => x.beq y
  | neq => !x.beq y
  | gt => y.lt x
  | gte => y.le x
  | lt => x.lt y
  | lte => x.le y

/-- Whether the relation holds between two texts, compared by their code points. -/
def holdsOfTexts (r : Relation) (x y : String) : Bool :=
  match r with
  | eq => Text.codes x.toList == Text.codes y.toList
  | neq => Text.codes x.toList != Text.codes y.toList
  | gt => Text.precedes y.toList x.toList
  | gte => !Text.precedes x.toList y.toList
  | lt => Text.precedes x.toList y.toList
  | lte => !Text.precedes y.toList x.toList

end Relation

namespace Value

/-- The number in a text: a decimal without underscores. -/
def numberOfText? (s : String) : Option Double :=
  let body := Text.trim s.toList
  if body.isEmpty || body.contains '_' then none else Numeral.double? (String.ofList body)

/-- The numeric reading of a value, if it has a finite one. -/
def toNumber : Value → Outcome (Option Double)
  | bool b => .ok (some (.roundInt (if b then 1 else 0)))
  | int i =>
    match Double.ofInt? i with
    | some d => .ok (some d)
    | none => .error .integerOverflow
  | float d => .ok (if d.isFinite then some d else none)
  | text s => .ok ((numberOfText? s).filter Double.isFinite)
  | _ => .ok none

/-- The text of a value in comparisons and templates. -/
def toText : Value → Outcome String
  | null => .ok ""
  | bool b => .ok (if b then "true" else "false")
  | float d => if d.isInteger then .ok (toString d.truncate) else .ok d.text
  | list items => json .compact (list items)
  | object fields => json .compact (object fields)
  | v => v.plain

/-- Whether a relation holds between two values. -/
def compare (r : Relation) (left right : Value) : Outcome Bool := do
  match ← left.toNumber, ← right.toNumber with
  | some x, some y => return r.holdsOfNumbers x y
  | _, _ => return r.holdsOfTexts (← left.toText) (← right.toText)

end Value

end Workflow
