import Workflow.Number.Power

/-!
# Binary floating-point numbers

A `Double` is a 64-bit binary floating-point number, described by its place in the order of its
magnitudes. The magnitudes are counted from zero (`rank` 0) in increasing order up to infinity
(`infinityRank`), so comparing two numbers is comparing two signed ranks, and the next larger
magnitude has the next rank. The value of a finite rank is `mantissa * 2 ^ exponent`.

Every operation is computed exactly on integers and rounded once, by `ofRatio`: to the nearest
magnitude, of two equally near ones to that with the even rank.
-/
namespace Workflow

/-- The rank of infinity among the magnitudes. -/
def infinityRank : Nat := 0x7FF0000000000000

/-- A 64-bit binary floating-point number. -/
inductive Double where
  | number (negative : Bool) (rank : Nat) (rank_le : rank ≤ infinityRank)
  | nan
deriving DecidableEq

namespace Double

/-- The number of a sign and a rank; a rank beyond infinity is infinity. -/
def ofRank (negative : Bool) (rank : Nat) : Double :=
  .number negative (min rank infinityRank) (Nat.min_le_right _ _)

def zero : Double := ofRank false 0

def infinity : Double := ofRank false infinityRank

instance : Inhabited Double := ⟨zero⟩

def isNaN : Double → Bool
  | nan => true
  | number .. => false

def isFinite : Double → Bool
  | nan => false
  | number _ rank _ => rank < infinityRank

def isNegative : Double → Bool
  | nan => false
  | number negative .. => negative

def neg : Double → Double
  | nan => nan
  | number negative rank h => number (!negative) rank h

/-- Both zeros are zero. -/
def isZero : Double → Bool
  | nan => false
  | number _ rank _ => rank == 0

/-! ## The value of a rank -/

/-- The integer factor of the magnitude with this rank. -/
def mantissaOf (rank : Nat) : Nat :=
  if rank < twoTo 52 then rank else rank % twoTo 52 + twoTo 52

/-- The power of two in the magnitude with this rank. -/
def exponentOf (rank : Nat) : Int :=
  (max (rank / twoTo 52) 1 : Nat) - 1075

/-- The magnitude with this rank as a quotient of two integers. -/
def ratioOf (rank : Nat) : Nat × Nat :=
  let e := exponentOf rank
  (mantissaOf rank * twoTo e.toNat, twoTo (-e).toNat)

/-! ## Rounding -/

/-- The integer nearest to `num / den`; halfway, the even neighbour. -/
def roundQuotient (num den : Nat) : Nat :=
  let q := num / den
  let r := num % den
  if 2 * r < den then q
  else if den < 2 * r then q + 1
  else q + q % 2

/-- The greatest `e` with `2 ^ e ≤ num / den`, for positive `num` and `den`. -/
def floorLog2 (num den : Nat) : Int :=
  let e := (Nat.log2 num : Int) - Nat.log2 den
  if den * twoTo e.toNat ≤ num * twoTo (-e).toNat then e else e - 1

/-- The rank of the magnitude nearest to `num / den`, unbounded above. -/
def rankOfRatio (num den : Nat) : Nat :=
  if num = 0 then 0
  else
    let q := max (floorLog2 num den - 52) (-1074)
    let m := roundQuotient (num * twoTo (-q).toNat) (den * twoTo q.toNat)
    (q + 1074).toNat * twoTo 52 + m

/-- The number nearest to `± num / den`. -/
def ofRatio (negative : Bool) (num den : Nat) : Double :=
  ofRank negative (rankOfRatio num den)

/-- The number nearest to an integer, infinite if that is out of range. -/
def roundInt (i : Int) : Double := ofRatio (i < 0) i.natAbs 1

/-- The number nearest to an integer, if a finite one is. -/
def ofInt? (i : Int) : Option Double :=
  let d := roundInt i
  if d.isFinite then some d else none

/-- The number nearest to `± digits * 10 ^ exponent`. -/
def ofDecimal (negative : Bool) (digits : Nat) (exponent : Int) : Double :=
  let size := Nat.log2 digits + 1
  if digits = 0 then ofRank negative 0
  else if exponent > 400 then ofRank negative infinityRank
  else if exponent * 3 + size < -1200 then ofRank negative 0
  else ofRatio negative (digits * tenTo exponent.toNat) (tenTo (-exponent).toNat)

/-! ## Order -/

/-- The place of a number in the order; both zeros share the place 0. -/
def place (negative : Bool) (rank : Nat) : Int :=
  if negative then -(rank : Int) else rank

/-- Nothing is below, above or equal to a NaN. -/
def lt : Double → Double → Bool
  | number s a _, number t b _ => place s a < place t b
  | _, _ => false

def beq : Double → Double → Bool
  | number s a _, number t b _ => place s a == place t b
  | _, _ => false

def le : Double → Double → Bool
  | number s a _, number t b _ => place s a ≤ place t b
  | _, _ => false

/-! ## Arithmetic -/

/-- The integer part of a finite number, toward zero. -/
def truncate : Double → Int
  | nan => 0
  | number negative rank _ =>
    let (n, d) := ratioOf rank
    let t : Int := (n / d : Nat)
    if negative then -t else t

/-- Whether a number is finite and has no fractional part. -/
def isInteger : Double → Bool
  | nan => false
  | number _ rank _ => rank < infinityRank && (ratioOf rank).1 % (ratioOf rank).2 == 0

def mul : Double → Double → Double
  | number s a _, number t b _ =>
    if a == infinityRank || b == infinityRank then
      if a == 0 || b == 0 then nan else ofRank (s != t) infinityRank
    else
      let (n, d) := ratioOf a
      let (n', d') := ratioOf b
      ofRatio (s != t) (n * n') (d * d')
  | _, _ => nan

/-- Division by a positive integer. -/
def divNat : Double → Nat → Double
  | nan, _ => nan
  | number s a h, k =>
    if a == infinityRank then number s a h
    else
      let (n, d) := ratioOf a
      ofRatio s n (d * k)

def add : Double → Double → Double
  | number s a h, number t b h' =>
    if a == infinityRank then (if b == infinityRank && s != t then nan else number s a h)
    else if b == infinityRank then number t b h'
    else
      let (n, d) := ratioOf a
      let (n', d') := ratioOf b
      let x : Int := (if s then -1 else 1) * (n * d' : Nat) + (if t then -1 else 1) * (n' * d : Nat)
      if x == 0 then ofRank (s && t) 0 else ofRatio (x < 0) x.natAbs (d * d')
  | _, _ => nan

end Double

end Workflow
