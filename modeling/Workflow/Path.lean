import Workflow.Number.Numeral
import Workflow.Value

/-!
# Dotted paths

A path names a place inside a value: its segments, separated by dots, are followed one after the
other, field by field and item by item. What is missing is `null`, and nothing is below `null`.
-/
namespace Workflow

namespace Path

/-- The segments between the dots; there is always at least one. -/
def split : List Char → List (List Char)
  | [] => [[]]
  | '.' :: rest => [] :: split rest
  | c :: rest =>
    match split rest with
    | [] => [[c]]
    | segment :: segments => (c :: segment) :: segments

def segments (path : String) : List String := (split path.toList).map String.ofList

/-- The item with an index; a negative one counts from the end. -/
def item? (items : List Value) (index : Int) : Option Value :=
  if 0 ≤ index then items[index.toNat]?
  else if 0 ≤ index + items.length then items[(index + items.length).toNat]?
  else none

/-- What one segment leads to. -/
def step (v : Value) (segment : String) : Value :=
  match v with
  | .object fields => (Fields.get? segment fields).getD .null
  | .list items =>
    match Numeral.int? segment with
    | some index => (item? items index).getD .null
    | none => .null
  | _ => .null

end Path

/-- The value at a path. -/
def Value.at (v : Value) (path : String) : Value := (Path.segments path).foldl Path.step v

end Workflow
