import Workflow.Value.Text

/-!
# Reading JSON text

Strict JSON with the three names `NaN`, `Infinity` and `-Infinity`. A number without a fraction and
an exponent is an integer of any size, any other the nearest double. Of two fields with one key the
later gives the value and the earlier the place. `JsonLimits` bounds the digits of an integer and
the depth of nesting.
-/
namespace Workflow

/-- What a reader of JSON text refuses although it is well formed. -/
structure JsonLimits where
  /-- The most digits of an integer. -/
  digits : Option Nat
  /-- The most containers around a value. -/
  depth : Option Nat

namespace JsonLimits

/-- The limits for texts in documents and stored configurations. -/
def document : JsonLimits := ⟨some Numeral.digitLimit, some 985⟩

def none : JsonLimits := ⟨.none, .none⟩

end JsonLimits

/-- Why a text is not read as JSON. -/
inductive JsonReadFault where
  | malformed
  | longInteger (digits : Nat)
  | tooDeep
deriving DecidableEq

namespace Json

/-- Skips blanks between tokens. -/
def skip (cs : List Char) : List Char :=
  cs.dropWhile fun c => c == ' ' || c == '\t' || c == '\n' || c == '\r'

def hexDigit? (c : Char) : Option Nat :=
  if c.isDigit then some (c.toNat - 0x30)
  else if 'a' ≤ c && c ≤ 'f' then some (c.toNat - 0x57)
  else if 'A' ≤ c && c ≤ 'F' then some (c.toNat - 0x37)
  else none

/-- The number written by four hexadecimal digits. -/
def hex4? (a b c d : Char) : Option Nat := do
  let a ← hexDigit? a
  let b ← hexDigit? b
  let c ← hexDigit? c
  let d ← hexDigit? d
  return ((a * 16 + b) * 16 + c) * 16 + d

/-- The character that a letter stands for after a backslash. -/
def simpleEscape? (c : Char) : Option Char :=
  if c == '"' || c == '\\' || c == '/' then some c
  else if c == 'b' then some '\x08'
  else if c == 'f' then some '\x0c'
  else if c == 'n' then some '\n'
  else if c == 'r' then some '\r'
  else if c == 't' then some '\t'
  else none

def isHighSurrogate (n : Nat) : Bool := 0xd800 ≤ n && n < 0xdc00

def isLowSurrogate (n : Nat) : Bool := 0xdc00 ≤ n && n < 0xe000

/-- The code point of a surrogate pair. -/
def pairCode (high low : Nat) : Nat := 0x10000 + (high - 0xd800) * 0x400 + (low - 0xdc00)

/-- Puts the characters of a code point before those that have been read, the last one first. -/
def seeCode (code : Nat) (seen : List Char) : List Char := (Text.ofCode code).reverse ++ seen

/-- Reads a string up to its closing quote. The characters read so far are in `seen`, the last one
first. -/
def stringBody? (seen : List Char) : List Char → Option (String × List Char)
  | [] => none
  | '"' :: rest => some (String.ofList seen.reverse, rest)
  | '\\' :: 'u' :: a :: b :: c :: d :: '\\' :: 'u' :: e :: f :: g :: h :: rest =>
    match hex4? a b c d with
    | none => none
    | some high =>
      match hex4? e f g h with
      | none =>
        stringBody? (seeCode high seen) ('\\' :: 'u' :: e :: f :: g :: h :: rest)
      | some low =>
        if isHighSurrogate high && isLowSurrogate low then
          stringBody? (seeCode (pairCode high low) seen) rest
        else stringBody? (seeCode high seen) ('\\' :: 'u' :: e :: f :: g :: h :: rest)
  | '\\' :: 'u' :: a :: b :: c :: d :: rest =>
    match hex4? a b c d with
    | none => none
    | some n => stringBody? (seeCode n seen) rest
  | '\\' :: c :: rest =>
    match simpleEscape? c with
    | none => none
    | some e => stringBody? (e :: seen) rest
  | c :: rest => if c.toNat < 0x20 then none else stringBody? (c :: seen) rest

/-- The ASCII digits at the front and the rest. -/
def digits (cs : List Char) : List Nat × List Char :=
  ((cs.takeWhile Char.isDigit).map fun c => c.toNat - 0x30, cs.dropWhile Char.isDigit)

/-- The digits of a fraction, if a point and a digit come first. -/
def fraction? : List Char → Option (List Nat × List Char)
  | '.' :: c :: rest => if c.isDigit then some (digits (c :: rest)) else none
  | _ => none

/-- An exponent, if a mark and a digit come first. -/
def exponent? : List Char → Option (Int × List Char)
  | m :: rest =>
    if m == 'e' || m == 'E' then
      let (negative, body) := Numeral.sign rest
      match digits body with
      | ([], _) => none
      | (ds, rest') =>
        let n : Int := Numeral.ofDigits ds
        some (if negative then -n else n, rest')
    else none
  | [] => none

/-- Reads a number after its sign. -/
def number (limits : JsonLimits) (negative : Bool) (cs : List Char) :
    Except JsonReadFault (Value × List Char) :=
  let (whole, rest) : List Nat × List Char := match cs with
    | '0' :: rest => ([0], rest)
    | _ => digits cs
  if whole.isEmpty then .error .malformed
  else
    match fraction? rest, exponent? rest with
    | none, none =>
      if limits.digits.any (whole.length > ·) then .error (.longInteger whole.length)
      else
        let n : Int := Numeral.ofDigits whole
        .ok (.int (if negative then -n else n), rest)
    | none, some (e, rest') => .ok (.float (Numeral.decimalOf negative whole [] e), rest')
    | some (f, rest'), _ =>
      match exponent? rest' with
      | none => .ok (.float (Numeral.decimalOf negative whole f 0), rest')
      | some (e, rest'') => .ok (.float (Numeral.decimalOf negative whole f e), rest'')

/-- Takes a word from the front. -/
def word? (word : String) (cs : List Char) : Option (List Char) :=
  let w := word.toList
  if w.isPrefixOf cs then some (cs.drop w.length) else none

/-- Reads a number or one of the words. -/
def scalar (limits : JsonLimits) (cs : List Char) : Except JsonReadFault (Value × List Char) :=
  match cs with
  | 'n' :: _ => named cs "null" .null
  | 't' :: _ => named cs "true" (.bool true)
  | 'f' :: _ => named cs "false" (.bool false)
  | 'N' :: _ => named cs "NaN" (.float .nan)
  | 'I' :: _ => named cs "Infinity" (.float .infinity)
  | '-' :: rest =>
    match word? "Infinity" rest with
    | some rest' => .ok (.float Double.infinity.neg, rest')
    | none => number limits true rest
  | _ => number limits false cs
where
  named (cs : List Char) (w : String) (v : Value) : Except JsonReadFault (Value × List Char) :=
    match word? w cs with
    | some rest => .ok (v, rest)
    | none => .error .malformed

/-- Whether a container may be opened inside `depth` others. -/
def admits (limits : JsonLimits) (depth : Nat) : Bool := !limits.depth.any (depth ≥ ·)

mutual

/-- Reads a value that begins at the first character. -/
def valueAt (limits : JsonLimits) : Nat → Nat → List Char → Except JsonReadFault (Value × List Char)
  | 0, _, _ => .error .malformed
  | fuel + 1, depth, cs =>
    match cs with
    | '"' :: rest =>
      match stringBody? [] rest with
      | some (s, rest') => .ok (.text s, rest')
      | none => .error .malformed
    | '[' :: rest =>
      if !admits limits depth then .error .tooDeep
      else
        match skip rest with
        | ']' :: rest' => .ok (.list [], rest')
        | rest' => itemsAt limits fuel (depth + 1) [] rest'
    | '\x7b' :: rest =>
      if !admits limits depth then .error .tooDeep
      else
        match skip rest with
        | '\x7d' :: rest' => .ok (.object [], rest')
        | rest' => fieldsAt limits fuel (depth + 1) [] rest'
    | _ => scalar limits cs

/-- Reads the items of a list, of which those in `seen` are read, the last one first. -/
def itemsAt (limits : JsonLimits) :
    Nat → Nat → List Value → List Char → Except JsonReadFault (Value × List Char)
  | 0, _, _, _ => .error .malformed
  | fuel + 1, depth, seen, cs =>
    match valueAt limits fuel depth cs with
    | .error e => .error e
    | .ok (v, rest) =>
      match skip rest with
      | ',' :: rest' => itemsAt limits fuel depth (v :: seen) (skip rest')
      | ']' :: rest' => .ok (.list (v :: seen).reverse, rest')
      | _ => .error .malformed

/-- Reads the fields of an object, of which those in `seen` are read, the last one first. -/
def fieldsAt (limits : JsonLimits) :
    Nat → Nat → List (Key × Value) → List Char → Except JsonReadFault (Value × List Char)
  | 0, _, _, _ => .error .malformed
  | fuel + 1, depth, seen, cs =>
    match cs with
    | '"' :: rest =>
      match stringBody? [] rest with
      | none => .error .malformed
      | some (name, rest') =>
        match skip rest' with
        | ':' :: rest'' =>
          match valueAt limits fuel depth (skip rest'') with
          | .error e => .error e
          | .ok (v, tail) =>
            let seen' := (.text name, v) :: seen
            match skip tail with
            | ',' :: tail' => fieldsAt limits fuel depth seen' (skip tail')
            | '\x7d' :: tail' => .ok (.object (Fields.ofList seen'.reverse), tail')
            | _ => .error .malformed
        | _ => .error .malformed
    | _ => .error .malformed

end

/-- Reads a whole text. -/
def readWith (limits : JsonLimits) (s : String) : Except JsonReadFault Value :=
  let cs := s.toList
  match valueAt limits (2 * cs.length + 2) 0 (skip cs) with
  | .error e => .error e
  | .ok (v, rest) => if (skip rest).isEmpty then .ok v else .error .malformed

/-- Reads a text of a document or a stored configuration. -/
def read (s : String) : Except JsonReadFault Value := readWith .document s

end Json

end Workflow
