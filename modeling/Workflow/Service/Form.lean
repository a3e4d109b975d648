import Workflow.Number.Numeral
import Workflow.Execution
import Workflow.Text.Blank

/-!
# Forms

What the body and the query of a request may hold. A form gives nothing if a field that it needs is
missing or a field holds something else than it may. Numbers and truth values may be written as texts;
a text may not be written as a number.
-/
namespace Workflow.Service

/-- The field of the first of some names that is there. -/
def anyField? (names : List String) (v : Value) : Option Value := names.findSome? v.field?

def required {α : Type} (names : List String) (read : Value → Option α) (v : Value) : Option α :=
  (anyField? names v).bind read

/-- A field that may be missing. -/
def optional {α : Type} (names : List String) (usual : α) (read : Value → Option α) (v : Value) :
    Option α :=
  match anyField? names v with
  | none => some usual
  | some field => read field

namespace Form

def text : Value → Option Value
  | .text s => some (.text s)
  | _ => none

/-- A text or nothing. -/
def textOrNull : Value → Option Value
  | .null => some .null
  | v => text v

/-- An object, a text or nothing. -/
def config : Value → Option Value
  | .object fields => some (.object fields)
  | v => textOrNull v

/-- A text in ASCII. -/
def isAscii (cs : List Char) : Bool := cs.all (·.toNat < 0x80)

/-- A text without the single low lines inside it, if there are any. -/
def withoutLowLines? (cs : List Char) : Option (List Char) :=
  if !cs.contains '_' || cs.head? == some '_' || cs.getLast? == some '_' || hasPair cs then none
  else some (cs.filter (· != '_'))
where
  hasPair : List Char → Bool
    | '_' :: '_' :: _ => true
    | _ :: rest => hasPair rest
    | [] => false

/-- The number that a text stands for: in ASCII, with blanks around it; single low lines anywhere inside
the text do not matter. -/
def number? (s : String) : Option Double :=
  let read (cs : List Char) : Option Double :=
    let cs := Text.trimBy Text.isNumeralBlank cs
    if isAscii cs && !cs.contains '_' then Numeral.double? (String.ofList cs) else none
  (read s.toList).orElse fun _ => (withoutLowLines? s.toList).bind read

def real : Value → Option Value
  | .bool b => some (.float (.roundInt (if b then 1 else 0)))
  | .int i => (Double.ofInt? i).map .float
  | .float d => some (.float d)
  | .text s => (number? s).map .float
  | _ => none

/-- The words for true and false. -/
def trueWords : List String := ["1", "on", "t", "true", "y", "yes"]

def falseWords : List String := ["0", "off", "f", "false", "n", "no"]

def ofWhole (d : Double) : Option Bool :=
  if d.beq .zero then some false else if d.beq (.roundInt 1) then some true else none

def flag : Value → Option Bool
  | .bool b => some b
  | .int i => if i == 0 then some false else if i == 1 then some true else none
  | .float d => ofWhole d
  | .text s =>
    let word := String.ofList (s.toList.map Char.toLower)
    if trueWords.contains word then some true
    else if falseWords.contains word then some false
    else none
  | _ => none

/-- One of some words. -/
def word (words : List String) : Value → Option String
  | .text s => if words.contains s then some s else none
  | _ => none

def list (read : Value → Option Value) : Value → Option Value
  | .list items => (items.mapM read).map .list
  | _ => none

/-- An integer in a query: blanks around it, a sign, single low lines between digits and zeros behind a
point do not matter. -/
def integer? (s : String) : Option Int :=
  let cs := Text.trimBy Text.isNumeralBlank s.toList
  let whole := cs.takeWhile (· != '.')
  let zeros := (cs.dropWhile (· != '.')).drop 1
  if isAscii whole && zeros.all (· == '0') then Numeral.int? (String.ofList whole) else none

def isObject (v : Value) : Bool := v.fields?.isSome

/-- A node of a new flow. -/
def node (v : Value) : Option Value :=
  if !isObject v then none
  else do
    return .record [("id", ← required ["id"] text v), ("type", ← required ["type"] text v),
      ("label", ← optional ["label"] (.text "") text v),
      ("x", ← optional ["x"] (.float .zero) real v), ("y", ← optional ["y"] (.float .zero) real v),
      ("config", ← optional ["config"] .null config v)]

def edge (v : Value) : Option Value :=
  if !isObject v then none
  else do
    return .record [("id", ← optional ["id"] .null textOrNull v),
      ("source", ← required ["source"] text v), ("target", ← required ["target"] text v),
      ("sourceHandle", ← optional ["sourceHandle", "source_handle"] .null textOrNull v),
      ("targetHandle", ← optional ["targetHandle", "target_handle"] .null textOrNull v),
      ("label", ← optional ["label"] .null textOrNull v)]

def flowStatuses : List String := ["draft", "active", "disabled"]

/-- The document of a new flow. -/
def document (v : Value) : Option Value :=
  if !isObject v then none
  else do
    let flow := Value.record [("name", ← required ["name"] text v),
      ("description", ← optional ["description"] .null textOrNull v),
      ("workspaceId", ← optional ["workspaceId", "workspace_id"] (.text "") text v),
      ("status", .text (← optional ["status"] "draft" (word flowStatuses) v)),
      ("triggerConfig", ← optional ["triggerConfig", "trigger_config"] .null config v)]
    return .record [("flow", flow), ("nodes", ← optional ["nodes"] (.list []) (list node) v),
      ("edges", ← optional ["edges"] (.list []) (list edge) v)]

end Form

/-- How a flow is to be started. -/
structure RunForm where
  startMode : String := StartMode.manual.name
  payload : Value := .null
  waits : Bool := false

def RunForm.read (v : Value) : Option RunForm :=
  if !Form.isObject v then none
  else do
    return {
      startMode := ← optional ["triggerType", "trigger_type"] StartMode.manual.name
        (Form.word [StartMode.manual.name, StartMode.schedule.name]) v
      payload := (v.field? "payload").getD .null
      waits := ← optional ["wait"] false Form.flag v }

end Workflow.Service
