import Workflow.Number.Double

/-!
# Decimal text of binary numbers

A finite magnitude is written with the fewest decimal digits that read back as the same magnitude
(`shortest`), the nearest such decimal if there are several, or rounded to a fixed count of digits
(`rounded`). A `DecimalStyle` says how the digits are laid out.
-/
namespace Workflow

/-- A decimal magnitude: `digits * 10 ^ exponent`. -/
structure Decimal where
  digits : Nat
  exponent : Int
deriving DecidableEq, Inhabited

namespace Decimal

/-- The greatest `e` with `10 ^ e ≤ num / den`, for positive `num` and `den`. -/
def floorLog10 (num den : Nat) : Int :=
  let reaches (e : Int) : Bool := den * tenTo e.toNat ≤ num * tenTo (-e).toNat
  let e := (Double.floorLog2 num den) * 30103 / 100000
  if reaches (e + 1) then e + 1 else if reaches e then e else e - 1

/-- `num / den` in units of `10 ^ unit`, as a quotient. -/
def inUnits (num den : Nat) (unit : Int) : Nat × Nat :=
  (num * tenTo (-unit).toNat, den * tenTo unit.toNat)

/-- Whether a decimal rounds to the magnitude with this rank. -/
def readsAs (rank : Nat) (d : Decimal) : Bool :=
  Double.rankOfRatio (d.digits * tenTo d.exponent.toNat) (tenTo (-d.exponent).toNat) == rank

/-- Of the two decimals with the given unit around the magnitude of a rank, the nearest that reads
back as that rank. -/
def onGrid? (rank : Nat) (unit : Int) : Option Decimal :=
  let (num, den) := Double.ratioOf rank
  let (n, d) := inUnits num den unit
  let below : Decimal := ⟨n / d, unit⟩
  let above : Decimal := ⟨n / d + 1, unit⟩
  let near := if Double.roundQuotient n d == n / d then below else above
  let far := if Double.roundQuotient n d == n / d then above else below
  if readsAs rank near then some near else if readsAs rank far then some far else none

/-- The first decimal found with `count` digits, or up to `more` further ones. -/
def shortestFrom (rank : Nat) (top : Int) (count : Nat) : Nat → Decimal
  | 0 => (onGrid? rank (top + 1 - count)).getD default
  | more + 1 =>
    match onGrid? rank (top + 1 - count) with
    | some d => d
    | none => shortestFrom rank top (count + 1) more

/-- Drops trailing zeros, at most `fuel` of them. -/
def dropZeros : Nat → Decimal → Decimal
  | 0, d => d
  | fuel + 1, d =>
    if d.digits != 0 && d.digits % 10 == 0 then dropZeros fuel ⟨d.digits / 10, d.exponent + 1⟩ else d

/-- The decimal with the fewest digits that reads back as the magnitude with this rank. -/
def shortest (rank : Nat) : Decimal :=
  if rank = 0 then ⟨0, 0⟩
  else
    let (num, den) := Double.ratioOf rank
    dropZeros 1 (shortestFrom rank (floorLog10 num den) 1 16)

/-- The magnitude with this rank in `count` significant digits, without trailing zeros; `round` makes
the quotient of two numbers whole. -/
def roundedBy (round : Nat → Nat → Nat) (count : Nat) (rank : Nat) : Decimal :=
  if rank = 0 then ⟨0, 0⟩
  else
    let (num, den) := Double.ratioOf rank
    let unit := floorLog10 num den + 1 - count
    let (n, d) := inUnits num den unit
    dropZeros (count + 1) ⟨round n d, unit⟩

/-- Rounds to `count` significant digits; a half goes to the even neighbour. -/
def rounded : Nat → Nat → Decimal := roundedBy Double.roundQuotient

/-- The whole number that is nearest to a quotient; a half goes up. -/
def halfUp (num den : Nat) : Nat := (2 * num + den) / (2 * den)

end Decimal

/-- How a decimal is laid out as text. -/
structure DecimalStyle where
  /-- The least exponent of the first digit that is written positionally. -/
  least : Int
  /-- The first exponent of the first digit that is no longer written positionally. -/
  bound : Int
  /-- Whether a whole number is written with a point and a zero. -/
  pointZero : Bool
  /-- Whether a single digit before an exponent is. -/
  mantissaZero : Bool

namespace DecimalStyle

/-- Every double has this text in documents, messages and outputs: positional from `1e-04` up to
but not including `1e+16`, whole numbers with `.0`. -/
def document : DecimalStyle := ⟨-4, 16, true, false⟩

/-- The text of a number of seconds in a message. -/
def seconds : DecimalStyle := ⟨-4, 6, false, false⟩

/-- The text of a number that is kept in a text column. -/
def column : DecimalStyle := ⟨-4, 15, true, true⟩

/-- The mark `e`, a sign and at least two digits. -/
def exponentText (e : Int) : String :=
  let digits := toString e.natAbs
  (if e < 0 then "e-" else "e+") ++ (if digits.length < 2 then "0" ++ digits else digits)

/-- The text of a decimal. -/
def layout (style : DecimalStyle) (d : Decimal) : String :=
  let digits := (toString d.digits).toList
  let count : Int := digits.length
  let top := if d.digits = 0 then 0 else d.exponent + count - 1
  if style.least ≤ top && top < style.bound then
    if top < 0 then
      "0." ++ String.ofList (List.replicate (-top - 1).toNat '0' ++ digits)
    else
      let whole := digits.take (top + 1).toNat ++ List.replicate (top + 1 - count).toNat '0'
      let rest := digits.drop (top + 1).toNat
      String.ofList whole ++
        (if rest.isEmpty then (if style.pointZero then ".0" else "")
         else "." ++ String.ofList rest)
  else
    let rest := digits.drop 1
    String.ofList (digits.take 1) ++
      (if rest.isEmpty then (if style.mantissaZero then ".0" else "")
        else "." ++ String.ofList rest) ++
      exponentText top

end DecimalStyle

namespace Double

/-- A number as text, its digits chosen by `digits`. -/
def textWith (style : DecimalStyle) (digits : Nat → Decimal) : Double → String
  | nan => "nan"
  | number negative rank _ =>
    (if negative then "-" else "") ++
      (if rank == infinityRank then "inf" else style.layout (digits rank))

/-- The text of a number with the fewest digits that read back. -/
def text (d : Double) : String := d.textWith .document Decimal.shortest

/-- The text of a number of seconds, with six significant digits. -/
def secondsText (d : Double) : String := d.textWith .seconds (Decimal.rounded 6)

end Double

end Workflow
