import Workflow.Value.Text

/-!
# Writing JSON text

A `JsonStyle` fixes the separators, the indentation and what becomes of scalars that JSON cannot
write. Characters beyond ASCII stand as they are. Not every value can be written: `JsonFault` says
what is in the way.
-/
namespace Workflow

/-- What cannot be written as JSON. -/
inductive JsonFault where
  | foreignValue (typeName : String)
  | foreignKey (typeName : String)
  | loop
  | longInteger
deriving DecidableEq

/-- The layout of JSON text. -/
structure JsonStyle where
  /-- What stands between two items on one line. -/
  comma : String
  /-- What stands between a key and its value. -/
  colon : String
  /-- The width of one level of indentation; without it all stands on one line. -/
  indent : Option Nat
  /-- Whether scalars that JSON lacks are written as texts. -/
  foreignAsText : Bool

namespace JsonStyle

/-- The form in which node configurations are kept. -/
def spaced : JsonStyle := ⟨", ", ": ", none, false⟩

/-- The form in which inputs and outputs of steps are kept. -/
def record : JsonStyle := ⟨", ", ": ", none, true⟩

/-- The form of a list or an object inside a text. -/
def compact : JsonStyle := ⟨",", ":", none, true⟩

/-- The form of exported documents. -/
def indented : JsonStyle := ⟨",", ": ", some 2, false⟩

end JsonStyle

namespace Json

/-- One character inside a JSON string. -/
def escapeChar (c : Char) : List Char :=
  if c == '"' then ['\\', '"']
  else if c == '\\' then ['\\', '\\']
  else if c == '\n' then ['\\', 'n']
  else if c == '\r' then ['\\', 'r']
  else if c == '\t' then ['\\', 't']
  else if c.toNat == 8 then ['\\', 'b']
  else if c.toNat == 12 then ['\\', 'f']
  else if c.toNat < 0x20 then ['\\', 'u'] ++ (Text.hex 4 c.toNat).toList
  else [c]

def string (s : String) : String :=
  String.ofList ('"' :: s.toList.flatMap escapeChar ++ ['"'])

/-- The text of a float: the three that are not finite have names. -/
def floatText (d : Double) : String :=
  if d.isNaN then "NaN"
  else if d.isFinite then d.text
  else if d.isNegative then "-Infinity" else "Infinity"

def intText (i : Int) : Except JsonFault String :=
  match intText? i with
  | some s => .ok s
  | none => .error .longInteger

/-- The text of a key: scalars other than texts are named by their JSON text. -/
def keyText (style : JsonStyle) : Key → Except JsonFault String
  | .text s => .ok s
  | .null => .ok "null"
  | .bool b => .ok (if b then "true" else "false")
  | .int i => intText i
  | .float d => .ok (floatText d)
  | .foreign f =>
    .error (.foreignKey (if style.indent.isSome then f.typeName else f.fullTypeName))

def foreignText (style : JsonStyle) (f : Foreign) : Except JsonFault String :=
  match f with
  | .loop _ => .error .loop
  | f => if style.foreignAsText then .ok (string f.plain) else .error (.foreignValue f.typeName)

/-- A line break and the indentation of a level, if the style has one. -/
def lineBreak (style : JsonStyle) (level : Nat) : String :=
  match style.indent with
  | none => ""
  | some width => "\n" ++ String.ofList (List.replicate (width * level) ' ')

/-- The parts of a container between its brackets. -/
def bracket (style : JsonStyle) (level : Nat) (opening closing : String) (parts : List String) :
    String :=
  if parts.isEmpty then opening ++ closing
  else
    opening ++ lineBreak style (level + 1) ++
      (style.comma ++ lineBreak style (level + 1)).intercalate parts ++
      lineBreak style level ++ closing

mutual

/-- The text of a value at a level of nesting. -/
def writeAt (style : JsonStyle) (level : Nat) : Value → Except JsonFault String
  | .null => .ok "null"
  | .bool b => .ok (if b then "true" else "false")
  | .int i => intText i
  | .float d => .ok (floatText d)
  | .text s => .ok (string s)
  | .list items => do
    let parts ← writeItems style (level + 1) items
    return bracket style level "[" "]" parts
  | .pair first second => do
    let first ← writeAt style (level + 1) first
    let second ← writeAt style (level + 1) second
    return bracket style level "[" "]" [first, second]
  | .object fields => do
    let parts ← writeFields style (level + 1) fields
    return bracket style level "\x7b" "\x7d" parts
  | .foreign f => foreignText style f

def writeItems (style : JsonStyle) (level : Nat) : List Value → Except JsonFault (List String)
  | [] => .ok []
  | v :: rest => do
    let first ← writeAt style level v
    let others ← writeItems style level rest
    return first :: others

def writeFields (style : JsonStyle) (level : Nat) :
    List (Key × Value) → Except JsonFault (List String)
  | [] => .ok []
  | (key, v) :: rest => do
    let name ← keyText style key
    let first ← writeAt style level v
    let others ← writeFields style level rest
    return (string name ++ style.colon ++ first) :: others

end

/-- The JSON text of a value. -/
def write (style : JsonStyle) (v : Value) : Except JsonFault String := writeAt style 0 v

end Json

end Workflow
