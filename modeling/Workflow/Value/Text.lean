import Workflow.Number.Numeral
import Workflow.Text.Printable
import Workflow.Text.Surrogate
import Workflow.Value

/-!
# The text of values in messages

`Value.plain?` writes a value for people: a text as it is, anything else as `Value.quoted?` does, in
which texts stand in quotes with unprintable characters escaped. Both fail on an integer with more
digits than `Numeral.digitLimit`.
-/
namespace Workflow

/-- The digits of an integer, if it has no more than `Numeral.digitLimit`. -/
def intText? (i : Int) : Option String :=
  if i.natAbs < tenTo Numeral.digitLimit then some (toString i) else none

namespace Text

/-- Lower-case hexadecimal digits, at least `width`. -/
def hex (width n : Nat) : String :=
  let digits := Nat.toDigits 16 n
  String.ofList (List.replicate (width - digits.length) '0' ++ digits)

/-- One code point between quotes. -/
def escaped (quote : Char) (code : Nat) : String :=
  let c := Char.ofNat code
  if isHalf code then "\\u" ++ hex 4 code
  else if c == quote || c == '\\' then String.ofList ['\\', c]
  else if c == '\n' then "\\n"
  else if c == '\r' then "\\r"
  else if c == '\t' then "\\t"
  else if isPrintable c then String.ofList [c]
  else if code < 0x100 then "\\x" ++ hex 2 code
  else if code < 0x10000 then "\\u" ++ hex 4 code
  else "\\U" ++ hex 8 code

/-- A text in which halves of surrogate pairs are written as escapes. -/
def withHalves (s : String) : String :=
  let cs := codes s.toList
  if cs.any isHalf then
    String.ofList (cs.flatMap fun code =>
      if isHalf code then ("\\u" ++ hex 4 code).toList else ofCode code)
  else s

/-- A text for the outside, where every character is meant as itself. -/
def outward (s : String) : String := String.ofList (withoutMarks (withHalves s).toList)

/-- A text from the outside. -/
def inward (s : String) : String := String.ofList (withMarks s.toList)

/-- The quote for a text: single, unless it holds single quotes and no double ones. -/
def quoteFor (cs : List Char) : Char :=
  if cs.contains '\'' && !cs.contains '"' then '"' else '\''

/-- A text in quotes. -/
def quoted (s : String) : String :=
  let cs := s.toList
  let q := quoteFor cs
  String.ofList [q] ++ String.join ((codes cs).map (escaped q)) ++ String.ofList [q]

/-- Bytes in quotes, those beyond ASCII escaped. -/
def quotedBytes (bytes : List UInt8) : String :=
  let cs := bytes.map fun b => Char.ofNat b.toNat
  let q := quoteFor cs
  let one (c : Char) : String := if c.toNat < 0x80 then escaped q c.toNat else "\\x" ++ hex 2 c.toNat
  "b" ++ String.ofList [q] ++ String.join (cs.map one) ++ String.ofList [q]

end Text

namespace Foreign

/-- The name of the type in messages. -/
def typeName : Foreign → String
  | date _ => "date"
  | timestamp _ => "datetime"
  | bytes _ => "bytes"
  | members _ => "set"
  | loop isObject => if isObject then "dict" else "list"

/-- The name of the type with its module. -/
def fullTypeName : Foreign → String
  | date _ => "datetime.date"
  | timestamp _ => "datetime.datetime"
  | f => f.typeName

/-- The arguments that build the offset of a timestamp. -/
def offsetQuoted (seconds : Int) : String :=
  if seconds == 0 then "datetime.timezone.utc"
  else
    let days := seconds.fdiv 86400
    let rest := seconds - days * 86400
    let parts := (if days == 0 then [] else ["days=" ++ toString days]) ++
      (if rest == 0 then [] else ["seconds=" ++ toString rest])
    "datetime.timezone(datetime.timedelta(" ++ ", ".intercalate parts ++ "))"

def timeArguments (t : TimeOfDay) : List Nat :=
  if t.microsecond != 0 then [t.hour, t.minute, t.second, t.microsecond]
  else if t.second != 0 then [t.hour, t.minute, t.second]
  else [t.hour, t.minute]

def quoted : Foreign → String
  | date d => "datetime.date(" ++ ", ".intercalate ([d.year, d.month, d.day].map toString) ++ ")"
  | timestamp t =>
    let numbers := [t.date.year, t.date.month, t.date.day] ++ timeArguments t.time
    let zone := (t.offset.map fun o => ["tzinfo=" ++ offsetQuoted o]).getD []
    "datetime.datetime(" ++ ", ".intercalate (numbers.map toString ++ zone) ++ ")"
  | bytes b => Text.quotedBytes b
  | members [] => "set()"
  | members texts => "\x7b" ++ ", ".intercalate texts ++ "\x7d"
  | loop isObject => if isObject then "\x7b...\x7d" else "[...]"

def plain : Foreign → String
  | date d => d.text
  | timestamp t => t.textWith " "
  | f => f.quoted

end Foreign

/-- The spelling of a truth value in messages. -/
def truthText (b : Bool) : String := if b then "True" else "False"

namespace Key

def quoted? : Key → Option String
  | text s => some (Text.quoted s)
  | null => some "None"
  | bool b => some (truthText b)
  | int i => intText? i
  | float d => some d.text
  | foreign f => some f.quoted

/-- A key as the name of a field of an answer. -/
def plain : Key → String
  | text s => s
  | null => "None"
  | bool b => truthText b
  | int i => toString i
  | float d => d.text
  | foreign f => f.plain

end Key

namespace Value

def typeName : Value → String
  | null => "NoneType"
  | bool _ => "bool"
  | int _ => "int"
  | float _ => "float"
  | text _ => "str"
  | list _ => "list"
  | pair _ _ => "tuple"
  | object _ => "dict"
  | foreign f => f.typeName

def fullTypeName : Value → String
  | foreign f => f.fullTypeName
  | v => v.typeName

/-- Whether a value can be looked up among scalars: containers cannot. -/
def isScalar : Value → Bool
  | list _ => false
  | pair first second => first.isScalar && second.isScalar
  | object _ => false
  | foreign (.members _) => false
  | foreign (.loop _) => false
  | _ => true

mutual

/-- A value with its texts in quotes. -/
def quoted? : Value → Option String
  | null => some "None"
  | bool b => some (truthText b)
  | int i => intText? i
  | float d => some d.text
  | text s => some (Text.quoted s)
  | list items => (itemsQuoted? items).map fun parts => "[" ++ ", ".intercalate parts ++ "]"
  | pair first second => do return "(" ++ (← quoted? first) ++ ", " ++ (← quoted? second) ++ ")"
  | object fields =>
    (fieldsQuoted? fields).map fun parts => "\x7b" ++ ", ".intercalate parts ++ "\x7d"
  | foreign f => some f.quoted

def itemsQuoted? : List Value → Option (List String)
  | [] => some []
  | v :: rest => do
    let first ← quoted? v
    let others ← itemsQuoted? rest
    return first :: others

def fieldsQuoted? : List (Key × Value) → Option (List String)
  | [] => some []
  | (key, v) :: rest => do
    let name ← key.quoted?
    let first ← quoted? v
    let others ← fieldsQuoted? rest
    return (name ++ ": " ++ first) :: others

end

/-- A value as it reads in a sentence. -/
def plain? : Value → Option String
  | text s => some s
  | foreign f => some f.plain
  | v => v.quoted?

end Value

end Workflow
