/-!
# Punycode

Punycode writes a text in ASCII: its characters in ASCII first, then a hyphen, then for each of the
others a number in letters and digits. The number tells how far it is from the place and the character
before to the next ones, where places go round and round and characters go up.
-/
namespace Workflow.Text.Punycode

inductive Fault where
  /-- The text ends within a number. -/
  | incomplete
  | invalidDigit (c : Char)
  /-- A number leads beyond the last character. -/
  | invalidCharacter (code : Nat)
deriving DecidableEq

/-- The value of a letter or a digit. -/
def digit? (c : Char) : Option Nat :=
  if 'A' ≤ c && c ≤ 'Z' then some (c.toNat - 'A'.toNat)
  else if '0' ≤ c && c ≤ '9' then some (c.toNat - '0'.toNat + 26)
  else none

/-- The least digit at a place of a number that does not end it. -/
def threshold (place bias : Nat) : Nat := max 1 (min 26 (36 * (place + 1) - bias))

/-- The number at the front, and the rest. -/
def number (bias : Nat) : Nat → Nat → Nat → List Char → Except Fault (Nat × List Char)
  | _, _, _, [] => .error .incomplete
  | place, weight, sum, c :: rest =>
    match digit? c with
    | none => .error (.invalidDigit c)
    | some d =>
      let t := threshold place bias
      let sum := sum + d * weight
      if d < t then .ok (sum, rest) else number bias (place + 1) (weight * (36 - t)) sum rest

/-- Divides until little is left: how often, and what is left. -/
def reduced : Nat → Nat → Nat × Nat
  | 0, delta => (0, delta)
  | fuel + 1, delta =>
    if delta > 455 then
      let (count, rest) := reduced fuel (delta / 35)
      (count + 1, rest)
    else (0, delta)

/-- The bias behind a number, in a text that has so many characters then. -/
def adapted (delta : Nat) (isFirst : Bool) (count : Nat) : Nat :=
  let delta := if isFirst then delta / 700 else delta / 2
  let delta := delta + delta / count
  let (divisions, delta) := reduced (Nat.log2 delta + 1) delta
  divisions * 36 + 36 * delta / (delta + 38)

/-- Inserts the characters that numbers stand for: `place` is where the next one may stand first, and
`code` the character before. -/
def insertAll :
    Nat → Bool → Nat → Nat → Nat → List Nat → List Char → Except Fault (List Nat)
  | 0, _, _, _, _, text, _ => .ok text
  | _, _, _, _, _, text, [] => .ok text
  | fuel + 1, isFirst, bias, place, code, text, digits =>
    match number bias 0 1 0 digits with
    | .error f => .error f
    | .ok (delta, rest) =>
      let size := text.length + 1
      let place := place + delta
      let code := code + place / size
      if code > 0x10ffff then .error (.invalidCharacter code)
      else
        let place := place % size
        let text := text.take place ++ code :: text.drop place
        insertAll fuel false (adapted delta isFirst text.length) (place + 1) code text rest

/-- The part before the last hyphen and the part behind it; without a hyphen all is behind. -/
def split (cs : List Char) : List Char × List Char :=
  if cs.contains '-' then
    let back := cs.reverse.takeWhile (· != '-')
    (cs.take (cs.length - back.length - 1), back.reverse)
  else ([], cs)

/-- The code points of the text that the part before the last hyphen and the part behind it stand
for. -/
def read (plain extended : List Char) : Except Fault (List Nat) :=
  insertAll (extended.length + 1) true 72 0 0x80 (plain.map Char.toNat) (extended.map Char.toUpper)

/-! ## Writing -/

/-- The letter or digit of a value. -/
def digitChar (d : Nat) : Char :=
  if d < 26 then Char.ofNat ('a'.toNat + d) else Char.ofNat ('0'.toNat + (d - 26))

/-- The digits of a number from a place on. -/
def writeNumber (bias : Nat) : Nat → Nat → Nat → List Char
  | 0, _, _ => []
  | fuel + 1, place, n =>
    let t := threshold place bias
    if n < t then [digitChar n]
    else
      digitChar (t + (n - t) % (36 - t)) ::
        writeNumber bias fuel (place + 1) ((n - t) / (36 - t))

/-- What has been written, with how far it is from the last number. -/
structure Writing where
  digits : List Char := []
  delta : Nat := 0
  bias : Nat := 72
  /-- The count of characters that have been written. -/
  count : Nat
  isFirst : Bool := true

/-- Writes the places of a code point in a text. -/
def writeCode (text : List Nat) (code : Nat) (w : Writing) : Writing :=
  text.foldl (fun w c =>
    if c < code then { w with delta := w.delta + 1 }
    else if c == code then
      { digits := w.digits ++ writeNumber w.bias (w.delta + 1) 0 w.delta, delta := 0
        bias := adapted w.delta w.isFirst (w.count + 1), count := w.count + 1, isFirst := false }
    else w) w

/-- Writes the code points that are left, from the least on. -/
def writeCodes (text : List Nat) : Nat → List Nat → Writing → Writing
  | _, [], w => w
  | before, code :: rest, w =>
    let w := writeCode text code { w with delta := w.delta + (code - before) * (w.count + 1) }
    writeCodes text (code + 1) rest { w with delta := w.delta + 1 }

/-- The Punycode of a text of code points. -/
def write (text : List Nat) : List Char :=
  let plain := text.filter (· < 0x80)
  let others := ((text.filter (0x80 ≤ ·)).mergeSort (· ≤ ·)).eraseReps
  plain.map Char.ofNat ++ (if plain.isEmpty then [] else ['-']) ++
    (writeCodes text 0x80 others { count := plain.length }).digits

def hexDigits (n : Nat) : String := String.ofList (Nat.toDigits 16 n)

def Fault.message : Fault → String
  | incomplete => "incomplete punicode string"
  | invalidDigit c => "Invalid extended code point '" ++ String.ofList [c] ++ "'"
  | invalidCharacter code => "Invalid character U+" ++ hexDigits code

end Workflow.Text.Punycode
