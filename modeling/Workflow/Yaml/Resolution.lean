import Workflow.Failure

/-!
# The types of plain scalars

The type of a plain scalar follows from its text: truth values, numbers in several bases, dates and
times and null have texts of their own, and any other text is a text. Here are the texts of each
type; a class of texts is a function on characters.
-/
namespace Workflow.Yaml

/-- The tag of a type, with the tags that are not known as they are. -/
inductive Tag where
  | null
  | bool
  | int
  | float
  | timestamp
  | text
  | binary
  | merge
  | value
  | list
  | object
  | set
  | orderedPairs
  | pairs
  | other (name : String)
deriving DecidableEq

namespace Tag

/-- What the short handle `!!` stands for. -/
def standard : String := "tag:yaml.org,2002:"

def known : List (String × Tag) :=
  [("null", null), ("bool", bool), ("int", int), ("float", float), ("timestamp", timestamp),
    ("str", text), ("binary", binary), ("merge", merge), ("value", value), ("seq", list),
    ("map", object), ("set", set), ("omap", orderedPairs), ("pairs", pairs)]

/-- Whether the tag is one of collections. -/
def isCollection : Tag → Bool
  | list => true
  | object => true
  | set => true
  | orderedPairs => true
  | pairs => true
  | _ => false

def ofName (name : String) : Tag :=
  match known.find? fun (short, _) => standard ++ short == name with
  | some (_, t) => t
  | none => other name

end Tag

namespace Resolution

def isOneOf (words : List String) (cs : List Char) : Bool := words.any (·.toList == cs)

def isDigitOrBar (c : Char) : Bool := c.isDigit || c == '_'

/-- Drops a sign. -/
def unsigned : List Char → List Char
  | '-' :: rest => rest
  | '+' :: rest => rest
  | cs => cs

def isBool (cs : List Char) : Bool :=
  isOneOf ["yes", "Yes", "YES", "no", "No", "NO", "true", "True", "TRUE", "false", "False",
    "FALSE", "on", "On", "ON", "off", "Off", "OFF"] cs

def isNull (cs : List Char) : Bool := isOneOf ["~", "null", "Null", "NULL", ""] cs

/-- The parts of base sixty behind the first: a colon, and one or two digits below sixty each. -/
def isSixties : List Char → Bool
  | [] => true
  | [':', b] => b.isDigit
  | ':' :: a :: ':' :: rest => a.isDigit && isSixties (':' :: rest)
  | ':' :: a :: b :: rest => '0' ≤ a && a ≤ '5' && b.isDigit && isSixties rest
  | _ => false

def isInt (cs : List Char) : Bool :=
  let body := unsigned cs
  match body with
  | '0' :: 'b' :: ds => !ds.isEmpty && ds.all fun c => c == '0' || c == '1' || c == '_'
  | '0' :: 'x' :: ds => !ds.isEmpty && ds.all fun c => isDigitOrBar c || c.toLower.isAlpha && c.toLower ≤ 'f'
  | '0' :: ds => ds.all fun c => ('0' ≤ c && c ≤ '7') || c == '_'
  | c :: rest =>
    c.isDigit &&
      let tail := rest.dropWhile isDigitOrBar
      isSixties tail
  | [] => false

/-- An exponent with a sign, or nothing. -/
def isExponent : List Char → Bool
  | [] => true
  | e :: s :: d :: rest =>
    (e == 'e' || e == 'E') && (s == '+' || s == '-') && d.isDigit && rest.all Char.isDigit
  | _ => false

/-- A number with a point behind its digits, if need be in base sixty. -/
def isPointed (cs : List Char) : Bool :=
  match cs with
  | [] => false
  | c :: _ =>
    c.isDigit &&
      match cs.dropWhile isDigitOrBar with
      | '.' :: rest => isExponent (rest.dropWhile isDigitOrBar)
      | ':' :: rest =>
        let sixties := (':' :: rest).takeWhile (· != '.')
        let tail := (':' :: rest).dropWhile (· != '.')
        isSixties sixties && !tail.isEmpty && (tail.drop 1).all isDigitOrBar
      | _ => false

def isFloat (cs : List Char) : Bool :=
  isPointed (unsigned cs) ||
    isOneOf [".inf", ".Inf", ".INF"] (unsigned cs) || isOneOf [".nan", ".NaN", ".NAN"] cs ||
    match cs with
    | '.' :: d :: rest => d.isDigit && isExponent (rest.dropWhile isDigitOrBar)
    | _ => false

/-! ## Dates and times -/

/-- Takes one or two digits. -/
def twoDigits? : List Char → Option (Nat × List Char)
  | a :: b :: rest =>
    if a.isDigit && b.isDigit then
      some ((a.toNat - 0x30) * 10 + (b.toNat - 0x30), rest)
    else if a.isDigit then some (a.toNat - 0x30, b :: rest)
    else none
  | [a] => if a.isDigit then some (a.toNat - 0x30, []) else none
  | [] => none

/-- Takes exactly two digits. -/
def pairDigits? : List Char → Option (Nat × List Char)
  | a :: b :: rest =>
    if a.isDigit && b.isDigit then
      some ((a.toNat - 0x30) * 10 + (b.toNat - 0x30), rest)
    else none
  | _ => none

def expect? (c : Char) : List Char → Option (List Char)
  | d :: rest => if c == d then some rest else none
  | [] => none

/-- The parts of a written date and time. -/
structure Written where
  date : Date
  time : Option TimeOfDay
  /-- The sign, hours and minutes of an offset. -/
  offset : Option (Bool × Nat × Nat)

/-- The first six digits of a fraction as microseconds. -/
def microseconds (ds : List Char) : Nat :=
  let six := ds.take 6 ++ List.replicate (6 - ds.length) '0'
  six.foldl (fun n c => n * 10 + (c.toNat - 0x30)) 0

/-- The offset at the end of a time. -/
def offset? (cs : List Char) : Option (Option (Bool × Nat × Nat)) :=
  if cs.isEmpty then some none
  else
    match cs.dropWhile fun c => c == ' ' || c == '\t' with
    | ['Z'] => some (some (false, 0, 0))
    | s :: rest =>
      if s == '+' || s == '-' then do
        let (hours, rest) ← twoDigits? rest
        match rest with
        | [] => some (some (s == '-', hours, 0))
        | ':' :: rest =>
          let (minutes, rest) ← pairDigits? rest
          if rest.isEmpty then some (some (s == '-', hours, minutes)) else none
        | _ => none
      else none
    | [] => none

/-- The time behind a date. -/
def time? (cs : List Char) : Option (TimeOfDay × Option (Bool × Nat × Nat)) := do
  let rest ← match cs with
    | 'T' :: rest => some rest
    | 't' :: rest => some rest
    | c :: _ =>
      if c == ' ' || c == '\t' then some (cs.dropWhile fun c => c == ' ' || c == '\t') else none
    | [] => none
  let (hour, rest) ← twoDigits? rest
  let rest ← expect? ':' rest
  let (minute, rest) ← pairDigits? rest
  let rest ← expect? ':' rest
  let (second, rest) ← pairDigits? rest
  let (fraction, rest) := match rest with
    | '.' :: rest => (rest.takeWhile Char.isDigit, rest.dropWhile Char.isDigit)
    | _ => ([], rest)
  let offset ← offset? rest
  return (⟨hour, minute, second, microseconds fraction⟩, offset)

/-- Reads a written date, with a time or without. -/
def written? (cs : List Char) : Option Written := do
  let (century, rest) ← pairDigits? cs
  let (years, rest) ← pairDigits? rest
  let rest ← expect? '-' rest
  let (month, rest) ← twoDigits? rest
  let rest ← expect? '-' rest
  let (day, rest) ← twoDigits? rest
  let date : Date := ⟨century * 100 + years, month, day⟩
  if rest.isEmpty then return ⟨date, none, none⟩
  else
    let (time, offset) ← time? rest
    return ⟨date, some time, offset⟩

/-- A date and time, or a date with two digits each for month and day. -/
def isTimestamp (cs : List Char) : Bool :=
  match written? cs with
  | some w => w.time.isSome || cs.length == 10
  | none => false

/-- A text without a line break at its end. -/
def withoutFinalBreak : List Char → List Char
  | [] => []
  | ['\n'] => []
  | c :: rest => c :: withoutFinalBreak rest

/-- The type of a plain scalar with this text; a line break at its end does not count, unless there is
nothing else. -/
def plainTag (s : String) : Tag :=
  let cs := if s == "\n" then ['\n'] else withoutFinalBreak s.toList
  let s := String.ofList cs
  if isBool cs then .bool
  else if isFloat cs then .float
  else if isInt cs then .int
  else if s == "<<" then .merge
  else if isNull cs then .null
  else if isTimestamp cs then .timestamp
  else if s == "=" then .value
  else .text

end Resolution

end Workflow.Yaml
