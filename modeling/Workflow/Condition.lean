import Workflow.Comparison
import Workflow.Context
import Workflow.Path

/-!
# Conditions

A condition compares two references, or joins conditions by `and` or `or`. In configurations it
stands as an object with a `type`; `Condition.parse?` reads that form and `Condition.toValue` writes
it. Reading refuses a condition with more than `Condition.depthLimit` levels of `and` and `or`.
-/
namespace Workflow

/-- A scalar in a condition. -/
inductive Literal where
  | bool (b : Bool)
  | int (i : Int)
  | float (d : Double)
  | text (s : String)
deriving DecidableEq

/-- What a condition compares: a literal, a place in the context, or a place in the output of a
node. -/
inductive Reference where
  | literal (value : Literal)
  | context (path : String)
  | node (id : String) (path : String)
deriving DecidableEq

inductive Condition where
  | compare (left : Reference) (relation : Relation) (right : Reference)
  | all (conditions : List Condition)
  | any (conditions : List Condition)

namespace Literal

def toValue : Literal → Value
  | bool b => .bool b
  | int i => .int i
  | float d => .float d
  | text s => .text s

def parse? : Value → Option Literal
  | .bool b => some (bool b)
  | .int i => some (int i)
  | .float d => some (float d)
  | .text s => some (text s)
  | _ => none

end Literal

namespace Reference

/-- The written form of a reference. -/
def toValue : Reference → Value
  | literal value => .record [("type", .text "literal"), ("value", value.toValue)]
  | context path => .record [("type", .text "context"), ("path", .text path)]
  | node id path =>
    .record [("type", .text "node"), ("nodeId", .text id), ("path", .text path)]

/-- The id of the node in a reference: under `nodeId`, or if that is absent under `node_id`. -/
def nodeId? (fields : Fields) : Option String :=
  match Fields.get? "nodeId" fields with
  | some v => v.text?
  | none => (Fields.get? "node_id" fields).bind Value.text?

/-- Reads a reference from the fields of its written form. -/
def parseFields? (fields : Fields) : Option Reference :=
  match Fields.get? "type" fields with
  | some (.text "literal") => (Fields.get? "value" fields).bind Literal.parse? |>.map literal
  | some (.text "context") => (Fields.get? "path" fields).bind Value.text? |>.map context
  | some (.text "node") => do
    let id ← nodeId? fields
    let path ← (Fields.get? "path" fields).bind Value.text?
    return node id path
  | _ => none

def parse? (v : Value) : Option Reference := v.fields?.bind parseFields?

/-- The value a reference stands for. -/
def resolve (root : Value) : Reference → Value
  | literal value => value.toValue
  | context path => root.at path
  | node id path => (((root.at "nodes").field id).field "output").at path

end Reference

namespace Condition

/-- The most levels of `and` and `or` above a comparison. -/
def depthLimit : Nat := 252

mutual

/-- The written form of a condition. -/
def toValue : Condition → Value
  | compare left relation right => .record [("type", .text "compare"), ("left", left.toValue),
      ("operator", .text relation.name), ("right", right.toValue)]
  | all conditions =>
    .record [("type", .text "and"), ("conditions", .list (toValues conditions))]
  | any conditions =>
    .record [("type", .text "or"), ("conditions", .list (toValues conditions))]

def toValues : List Condition → List Value
  | [] => []
  | c :: rest => toValue c :: toValues rest

end

/-- The operator of a written comparison. -/
def relation? (fields : Fields) : Option Relation :=
  ((Fields.get? "operator" fields).bind Value.text?).bind Relation.ofName?

def parseCompare? (fields : Fields) : Option Condition := do
  let left ← (Fields.get? "left" fields).bind Reference.parse?
  let relation ← relation? fields
  let right ← (Fields.get? "right" fields).bind Reference.parse?
  return compare left relation right

/-- Reads the conditions that an `and` or `or` joins: at least one. -/
def parseJoined? (read : Value → Option Condition) (fields : Fields) : Option (List Condition) :=
  match Fields.get? "conditions" fields with
  | some (.list (v :: rest)) => (v :: rest).mapM read
  | _ => none

/-- Reads a condition, with a reader of the conditions that it joins. -/
def parseLevel? (read : Value → Option Condition) : Value → Option Condition
  | .object fields =>
    match Fields.get? "type" fields with
    | some (.text "compare") => parseCompare? fields
    | some (.text "and") => (parseJoined? read fields).map all
    | some (.text "or") => (parseJoined? read fields).map any
    | _ => none
  | _ => none

/-- Reads a condition with at most `levels` levels of `and` and `or`. -/
def parseWithin? : Nat → Value → Option Condition
  | 0 => parseLevel? fun _ => none
  | levels + 1 => parseLevel? (parseWithin? levels)

/-- Reads a condition from its written form. -/
def parse? (v : Value) : Option Condition := parseWithin? depthLimit v

mutual

/-- Whether a condition holds in a context. The parts of `and` and `or` are looked at in order, and
no further than needed. -/
def holds (root : Value) : Condition → Outcome Bool
  | compare left relation right =>
    Value.compare relation (left.resolve root) (right.resolve root)
  | all conditions => allHold root conditions
  | any conditions => anyHolds root conditions

def allHold (root : Value) : List Condition → Outcome Bool
  | [] => .ok true
  | c :: rest => do if ← holds root c then allHold root rest else return false

def anyHolds (root : Value) : List Condition → Outcome Bool
  | [] => .ok false
  | c :: rest => do if ← holds root c then return true else anyHolds root rest

end

/-- Whether a written condition holds; one that cannot be read does not. -/
def evaluate (raw root : Value) : Outcome Bool :=
  match parse? raw with
  | none => .ok false
  | some c => c.holds (root.orElse (.object []))

end Condition

end Workflow
