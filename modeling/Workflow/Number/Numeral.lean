import Workflow.Number.Double
import Workflow.Text.Blank
import Workflow.Text.Digit

/-!
# Reading numerals

The grammar of integers and decimals written by people: white space around, a sign, digits of any
script, a single underscore between two digits; for decimals also a point, an exponent and the
words `inf`, `infinity` and `nan` in any case.
-/
namespace Workflow.Numeral

open Text

/-- The longest integer text that is read, in digits. -/
def digitLimit : Nat := 4300

/-- The digits at the front, an underscore being allowed between two of them, and the rest. The
digits are gathered in `seen`, nearest last. -/
def digitRun (seen : List Nat) : List Char → List Nat × List Char
  | [] => (seen.reverse, [])
  | '_' :: c :: rest =>
    match digit? c with
    | some d => if seen.isEmpty then ([], '_' :: c :: rest) else digitRun (d :: seen) rest
    | none => (seen.reverse, '_' :: c :: rest)
  | c :: rest =>
    match digit? c with
    | some d => digitRun (d :: seen) rest
    | none => (seen.reverse, c :: rest)

/-- The number written by a list of digits. -/
def ofDigits (digits : List Nat) : Nat := digits.foldl (fun n d => n * 10 + d) 0

/-- Takes a sign from the front; `true` is negative. -/
def sign : List Char → Bool × List Char
  | '-' :: rest => (true, rest)
  | '+' :: rest => (false, rest)
  | cs => (false, cs)

/-- Why a text is no integer. -/
inductive IntFault where
  | malformed
  | tooLong (digits : Nat)
deriving DecidableEq

/-- Reads an integer. That there are too many digits is told before what is wrong behind them, but not
before an underscore that is out of place. -/
def readInt (s : String) : Except IntFault Int :=
  let (negative, body) := sign (trimBy isNumeralBlank s.toList)
  match digitRun [] body with
  | ([], _) => .error .malformed
  | (_, '_' :: _) => .error .malformed
  | (digits, rest) =>
    if digits.length > digitLimit then .error (.tooLong digits.length)
    else if !rest.isEmpty then .error .malformed
    else .ok (if negative then -(ofDigits digits : Int) else ofDigits digits)

def int? (s : String) : Option Int := (readInt s).toOption

/-- The letters of a word as in ASCII lower case. -/
def isWord (word : String) (cs : List Char) : Bool := cs.map Char.toLower == word.toList

/-- Reads the exponent after the digits, if there is one; `none` if it is malformed. -/
def exponent? : List Char → Option Int
  | [] => some 0
  | c :: rest =>
    if c == 'e' || c == 'E' then
      let (negative, body) := sign rest
      match digitRun [] body with
      | ([], _) => none
      | (digits, []) => some (if negative then -(ofDigits digits : Int) else ofDigits digits)
      | (_, _ :: _) => none
    else none

/-- The value of the digits on both sides of the point and of an exponent. -/
def decimalOf (negative : Bool) (whole fraction : List Nat) (exponent : Int) : Double :=
  Double.ofDecimal negative (ofDigits (whole ++ fraction)) (exponent - fraction.length)

/-- Reads a decimal without white space around it. -/
def unsignedDouble? (negative : Bool) (body : List Char) : Option Double :=
  if isWord "inf" body || isWord "infinity" body then some (.ofRank negative infinityRank)
  else if isWord "nan" body then some .nan
  else
    let (whole, rest) := digitRun [] body
    match rest with
    | '.' :: '_' :: _ => none
    | '.' :: rest' =>
      let (fraction, tail) := digitRun [] rest'
      if whole.isEmpty && fraction.isEmpty then none
      else (exponent? tail).map (decimalOf negative whole fraction ·)
    | _ =>
      if whole.isEmpty then none
      else (exponent? rest).map (decimalOf negative whole [] ·)

/-- Reads a decimal. -/
def double? (s : String) : Option Double :=
  let (negative, body) := sign (trimBy isNumeralBlank s.toList)
  unsignedDouble? negative body

end Workflow.Numeral
