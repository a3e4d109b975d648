import Workflow.Number.Decimal
import Workflow.Number.Numeral
import Workflow.Shell.Arithmetic
import Workflow.Shell.Source

/-!
# Formatted output

Escapes of `echo` and `printf`, and the formats of `printf`: a format is used again until all
arguments are written, and an argument that is missing is empty or zero.
-/
namespace Workflow.Shell

/-- What is written of a text with escapes; `isCut` if an escape ends all output. -/
structure Unescaped where
  text : List Char
  isCut : Bool := false

namespace Escape

def isOctal (c : Char) : Bool := '0' ≤ c && c ≤ '7'

/-- The byte of octal digits. -/
def ofOctal (cs : List Char) : Char :=
  Char.ofNat (cs.foldl (fun n c => n * 8 + (c.toNat - 48)) 0 % 256)

def letter? (c : Char) : Option Char :=
  match c with
  | '\\' => some '\\'
  | 'a' => some '\x07'
  | 'b' => some '\x08'
  | 'f' => some '\x0c'
  | 'n' => some '\n'
  | 'r' => some '\r'
  | 't' => some '\t'
  | 'v' => some '\x0b'
  | _ => none

/-- The byte of what stands behind a backslash in a format, and what follows. -/
def format (cs : List Char) : Char × List Char :=
  match cs with
  | [] => ('\\', [])
  | c :: rest =>
    match letter? c with
    | some d => (d, rest)
    | none =>
      let digits := (cs.take 3).takeWhile isOctal
      if digits.isEmpty then ('\\', cs) else (ofOctal digits, cs.drop digits.length)

/-- A text with its escapes replaced: `\c` ends it, and octal digits may have a zero in front. -/
def replaceWithin : Nat → List Char → Unescaped
  | 0, _ => ⟨[], false⟩
  | _, [] => ⟨[], false⟩
  | _, '\\' :: 'c' :: _ => ⟨[], true⟩
  | fuel + 1, '\\' :: '0' :: rest =>
    let digits := (rest.take 3).takeWhile isOctal
    let after := replaceWithin fuel (rest.drop digits.length)
    { after with text := ofOctal digits :: after.text }
  | fuel + 1, '\\' :: rest =>
    let (c, rest) := format rest
    let after := replaceWithin fuel rest
    { after with text := c :: after.text }
  | fuel + 1, c :: rest =>
    let after := replaceWithin fuel rest
    { after with text := c :: after.text }

def replace (cs : List Char) : Unescaped := replaceWithin cs.length cs

end Escape

namespace Printf

/-- How an argument is laid out. -/
structure Layout where
  isLeft : Bool := false
  sign : List Char := []
  isAlternative : Bool := false
  isZeroPadded : Bool := false
  width : Nat := 0
  precision : Option Nat := none

/-- Fills a text up to the width with blanks. -/
def Layout.fill (l : Layout) (cs : List Char) : List Char :=
  let blanks := List.replicate (l.width - cs.length) ' '
  if l.isLeft then cs ++ blanks else blanks ++ cs

/-- Fills a number up to the width, with zeros behind its sign or blanks. -/
def Layout.fillNumber (l : Layout) (start digits : List Char) (mayPad : Bool) : List Char :=
  if l.isZeroPadded && !l.isLeft && mayPad then
    start ++ List.replicate (l.width - start.length - digits.length) '0' ++ digits
  else l.fill (start ++ digits)

/-- Digits with zeros in front up to the precision; no digits for zero with no precision at all. -/
def Layout.atLeast (l : Layout) (digits : List Char) : List Char :=
  if l.precision == some 0 && digits == ['0'] then []
  else List.replicate (l.precision.getD 0 - digits.length) '0' ++ digits

def Layout.signed (l : Layout) (n : Int) : List Char :=
  l.fillNumber (if n < 0 then ['-'] else l.sign) (l.atLeast (toString n.natAbs).toList)
    l.precision.isNone

def Layout.unsigned (l : Layout) (conversion : Char) (n : Nat) : List Char :=
  let base := if conversion == 'o' then 8 else if conversion == 'u' then 10 else 16
  let digits := Nat.toDigits base n
  let digits := if conversion == 'X' then digits.map Char.toUpper else digits
  let start : List Char :=
    if !l.isAlternative || n == 0 then []
    else if conversion == 'o' then ['0']
    else if conversion == 'u' then []
    else ['0', conversion]
  l.fillNumber start (l.atLeast digits) l.precision.isNone

/-- A magnitude with a fixed count of places. -/
def fixed (places rank : Nat) : List Char :=
  let (num, den) := Double.ratioOf rank
  let digits := (toString (Double.roundQuotient (num * tenTo places) den)).toList
  let digits := List.replicate (places + 1 - digits.length) '0' ++ digits
  let whole := digits.take (digits.length - places)
  if places == 0 then whole else whole ++ '.' :: digits.drop (digits.length - places)

/-- A magnitude with one digit before the point, a fixed count of places, and an exponent. -/
def scientific (places rank : Nat) : List Char :=
  let d := Decimal.rounded (places + 1) rank
  let digits := (toString d.digits).toList
  let top : Int := if d.digits == 0 then 0 else d.exponent + digits.length - 1
  let padded := digits ++ List.replicate (places + 1 - digits.length) '0'
  padded.take 1 ++ (if places == 0 then [] else '.' :: (padded.drop 1).take places) ++
    (DecimalStyle.exponentText top).toList

/-- A magnitude with a count of significant digits, positional unless it is very small or great. -/
def general (digits rank : Nat) : List Char :=
  let style : DecimalStyle := ⟨-4, (max digits 1 : Nat), false, false⟩
  (style.layout (Decimal.rounded (max digits 1) rank)).toList

def Layout.real (l : Layout) (conversion : Char) : Double → List Char
  | .nan => l.fill ['n', 'a', 'n']
  | .number isNegative rank _ =>
    let start := if isNegative then ['-'] else l.sign
    if rank == infinityRank then l.fill (start ++ ['i', 'n', 'f'])
    else
      let places := l.precision.getD 6
      let lower := conversion.toLower
      let digits :=
        if lower == 'f' then fixed places rank
        else if lower == 'e' then scientific places rank
        else general places rank
      l.fillNumber start (if conversion.isUpper then digits.map Char.toUpper else digits) true

/-- What has been written so far. -/
structure State where
  output : List Char := []
  /-- What is wrong with arguments. -/
  complaints : List String := []
  arguments : List (List Char)
  isCut : Bool := false
  fault : Option String := none

abbrev Printing := StateM State

def put (cs : List Char) : Printing Unit := modify fun s => { s with output := s.output ++ cs }

/-- The next argument, if there is one. -/
def next? : Printing (Option (List Char)) := do
  match (← get).arguments with
  | [] => return none
  | a :: rest =>
    modify fun s => { s with arguments := rest }
    return some a

def complain (argument : List Char) (what : String) : Printing Unit :=
  modify fun s => { s with complaints := s.complaints ++ [String.ofList argument ++ ": " ++ what] }

/-- The next argument as an integer with or without a sign. -/
def nextInteger (isSigned : Bool) : Printing Int := do
  match ← next? with
  | none => return 0
  | some cs =>
    if cs.head? == some '"' || cs.head? == some '\'' then return ((cs.drop 1).headD '\x00').toNat
    match Arithmetic.leadingSigned? cs with
    | some (n, rest) =>
      let clamped : Int :=
        if isSigned then max (-Arithmetic.highest - 1) (min n Arithmetic.highest)
        else if n.natAbs < twoTo 64 then n
        else twoTo 64 - 1
      if !rest.isEmpty then complain cs "not completely converted"
      else if clamped != n then complain cs "Numerical result out of range"
      return clamped
    | none =>
      if !cs.isEmpty then complain cs "expected numeric value"
      return 0

/-- The next argument as a real number. -/
def nextReal : Printing Double := do
  match ← next? with
  | none => return .zero
  | some cs =>
    match Numeral.double? (String.ofList cs) with
    | some d => return d
    | none =>
      if !cs.isEmpty then complain cs "expected numeric value"
      return .zero

/-- The flags of a layout. -/
def flags (cs : List Char) (l : Layout) : Layout :=
  cs.foldl (fun l c =>
    match c with
    | '-' => { l with isLeft := true }
    | '+' => { l with sign := ['+'] }
    | ' ' => if l.sign.isEmpty then { l with sign := [' '] } else l
    | '#' => { l with isAlternative := true }
    | _ => { l with isZeroPadded := true }) l

def number (cs : List Char) : Nat := cs.foldl (fun n c => n * 10 + (c.toNat - 48)) 0

/-- A count in a format: digits, or a star for the next argument. -/
def count (cs : List Char) : Printing (Int × List Char) := do
  match cs with
  | '*' :: rest => return (← nextInteger true, rest)
  | cs => return (number (cs.takeWhile Char.isDigit), cs.dropWhile Char.isDigit)

/-- The layout behind a percent sign, and what follows. -/
def layout (cs : List Char) : Printing (Layout × List Char) := do
  let marks := cs.takeWhile fun c => "#-+ 0".contains c
  let l := flags marks {}
  let (width, cs) ← count (cs.drop marks.length)
  let l := if width < 0 then { l with isLeft := true, width := width.natAbs } else { l with width := width.toNat }
  match cs with
  | '.' :: cs =>
    let (precision, cs) ← count cs
    return (if precision < 0 then l else { l with precision := some precision.toNat }, cs)
  | cs => return (l, cs)

def cutTo (precision : Option Nat) (cs : List Char) : List Char :=
  match precision with
  | some n => cs.take n
  | none => cs

/-- Writes the next argument by a conversion. -/
def convert (l : Layout) (conversion : Char) : Printing Unit := do
  if conversion == 's' then put (l.fill (cutTo l.precision ((← next?).getD [])))
  else if conversion == 'b' then
    let u := Escape.replace ((← next?).getD [])
    put (l.fill (cutTo l.precision u.text))
    if u.isCut then modify fun s => { s with isCut := true }
  else if conversion == 'c' then put (l.fill [((← next?).getD []).headD '\x00'])
  else if conversion == 'd' || conversion == 'i' then put (l.signed (← nextInteger true))
  else if "ouxX".contains conversion then
    put (l.unsigned conversion (Arithmetic.bits (← nextInteger false)))
  else put (l.real conversion (← nextReal))

/-- Writes a format once. -/
def once : Nat → List Char → Printing Unit
  | 0, _ => return
  | _, [] => return
  | fuel + 1, '\\' :: rest => do
    let (c, rest) := Escape.format rest
    put [c]
    once fuel rest
  | fuel + 1, '%' :: '%' :: rest => do
    put ['%']
    once fuel rest
  | fuel + 1, '%' :: rest => do
    let (l, after) ← layout rest
    match after with
    | [] => modify fun s => { s with fault := some "missing format character" }
    | c :: after =>
      if "sbcdiouxXfFeEgG".contains c then
        convert l c
        if !(← get).isCut then once fuel after
      else
        let directive := '%' :: rest.take (rest.length - after.length)
        modify fun s => { s with fault := some (String.ofList directive ++ ": invalid directive") }
  | fuel + 1, c :: rest => do
    put [c]
    once fuel rest

/-- Writes a format again and again while it takes arguments and some are left. -/
def repeated (format : List Char) : Nat → Printing Unit
  | 0 => return
  | fuel + 1 => do
    let before := (← get).arguments.length
    once (format.length + 1) format
    let s ← get
    if !s.isCut && s.fault.isNone && s.arguments.length < before && !s.arguments.isEmpty then
      repeated format fuel

def run (format : List Char) (arguments : List (List Char)) : State :=
  ((repeated format (arguments.length + 1)).run { arguments }).2

end Printf

end Workflow.Shell
