import Workflow.Calendar
import Workflow.Number.Decimal

/-!
# Values

A `Value` is what documents, node configurations, trigger payloads and action outputs are made of:
the values of JSON text and, in documents, the further scalars that only YAML text can write. An
object is an ordered list of fields with pairwise different keys; `Fields.set` keeps the place of a
key that is already there.
-/
namespace Workflow

/-- A scalar that JSON text cannot write. -/
inductive Foreign where
  | date (date : Date)
  | timestamp (timestamp : Timestamp)
  | bytes (bytes : List UInt8)
  /-- A set, by the quoted texts of its members. -/
  | members (texts : List String)
  /-- A container that holds itself, met again inside itself. -/
  | loop (isObject : Bool)
deriving DecidableEq

/-- The key of a field of an object. -/
inductive Key where
  | text (s : String)
  | null
  | bool (b : Bool)
  | int (i : Int)
  | float (d : Double)
  | foreign (f : Foreign)
deriving DecidableEq

inductive Value where
  | null
  | bool (b : Bool)
  | int (i : Int)
  | float (d : Double)
  | text (s : String)
  | list (items : List Value)
  /-- An entry of an ordered mapping; JSON text writes it as a list. -/
  | pair (first second : Value)
  | object (fields : List (Key × Value))
  | foreign (f : Foreign)

instance : Inhabited Value := ⟨.null⟩

instance : Inhabited Key := ⟨.null⟩

abbrev Fields := List (Key × Value)

namespace Key

/-- The integer a key stands for: the truth values are 1 and 0, a whole float is its value. -/
def whole? : Key → Option Int
  | bool b => some (if b then 1 else 0)
  | int i => some i
  | float d => if d.isInteger then some d.truncate else none
  | _ => none

/-- Whether two keys name the same field: numbers and points in time do by value. -/
def same (a b : Key) : Bool :=
  match a.whole?, b.whole? with
  | some i, some j => i == j
  | none, none =>
    match a, b with
    | float x, float y => x.beq y
    | foreign (.timestamp x), foreign (.timestamp y) => x.same y
    | _, _ => a == b
  | _, _ => false

end Key

namespace Fields

/-- The value of the field with a text key. -/
def get? (name : String) : Fields → Option Value
  | [] => none
  | (key, value) :: rest => if key = .text name then some value else get? name rest

/-- Sets a field: in its old place if the key is there, else at the end. -/
def set (key : Key) (value : Value) : Fields → Fields
  | [] => [(key, value)]
  | (k, v) :: rest => if k.same key then (k, value) :: rest else (k, v) :: set key value rest

/-- Sets the fields of a list one after the other. -/
def ofList (entries : List (Key × Value)) : Fields :=
  entries.foldl (fun fields (key, value) => set key value fields) []

end Fields

/-- A key as a value. -/
def Key.toValue : Key → Value
  | text s => .text s
  | null => .null
  | bool b => .bool b
  | int i => .int i
  | float d => .float d
  | foreign f => .foreign f

namespace Value

/-- The value of a named field; `null` if there is none or the value is no object. -/
def field (name : String) : Value → Value
  | object fields => (Fields.get? name fields).getD null
  | _ => null

def field? (name : String) : Value → Option Value
  | object fields => Fields.get? name fields
  | _ => none

/-- An object with text keys. -/
def record (entries : List (String × Value)) : Value :=
  object (entries.map fun (name, value) => (.text name, value))

def ofOption {α : Type} (f : α → Value) : Option α → Value
  | none => null
  | some a => f a

def isNull : Value → Bool
  | null => true
  | _ => false

def text? : Value → Option String
  | text s => some s
  | _ => none

def fields? : Value → Option Fields
  | object fields => some fields
  | _ => none

/-- Whether a value counts as given: not null, false, zero or empty. -/
def isGiven : Value → Bool
  | null => false
  | bool b => b
  | int i => i != 0
  | float d => !d.isZero
  | text s => s != ""
  | list items => !items.isEmpty
  | pair _ _ => true
  | object fields => !fields.isEmpty
  | foreign (.bytes b) => !b.isEmpty
  | foreign (.members texts) => !texts.isEmpty
  | foreign _ => true

/-- The value if it counts as given, else another. -/
def orElse (v other : Value) : Value := if v.isGiven then v else other

end Value

end Workflow
