import Workflow.Proofs.Digits
import Workflow.Proofs.Ordering
import Workflow.Proofs.Rounding

/-!
# Comparing integers

Integers are compared by the floating-point numbers nearest to them, whether they are given as numbers or
as decimal texts. Rounding keeps their order, so that a comparison never comes out the wrong way round;
but integers that are rounded to the same number count as equal, which none do up to `2 ^ 53`
(`compare_integers`). Beyond the range of floating-point numbers an integer cannot be compared at all, and
its text is compared as a text.
-/

namespace Workflow

/-! ### Rounding integers -/

namespace Double

theorem roundQuotient_le (num den : Nat) : roundQuotient num den ≤ num / den + 1 := by
  unfold roundQuotient
  simp only
  split_ifs <;> omega

/-- Rounding keeps the order of quotients with one denominator. -/
theorem roundQuotient_mono {a b : Nat} (den : Nat) (h : a ≤ b) : roundQuotient a den ≤ roundQuotient b den := by
  rcases Nat.lt_or_ge (a / den) (b / den) with hlt | hge
  · exact ((roundQuotient_le a den).trans hlt).trans (div_le_roundQuotient b den)
  · have hdiv : a / den = b / den := Nat.le_antisymm (Nat.div_le_div_right h) hge
    have hmod : a % den ≤ b % den := by
      have ha := Nat.div_add_mod a den
      have hb := Nat.div_add_mod b den
      rw [hdiv] at ha
      omega
    unfold roundQuotient
    simp only [hdiv]
    split_ifs <;> omega

theorem log2_mono {m n : Nat} (hm : m ≠ 0) (h : m ≤ n) : Nat.log2 m ≤ Nat.log2 n :=
  (twoTo_le_iff (by omega)).1 ((Nat.log2_self_le hm).trans h)

theorem roundQuotient_one (n : Nat) : roundQuotient n 1 = n := by
  simp [roundQuotient, Nat.mod_one]

/-- The rank of an integer: its binary places beyond the greatest mantissa are rounded away. -/
theorem rankOfRatio_one {n : Nat} (hn : n ≠ 0) : rankOfRatio n 1 =
    (Nat.log2 n + 1022) * twoTo 52 +
      roundQuotient (n * twoTo (52 - Nat.log2 n)) (twoTo (Nat.log2 n - 52)) := by
  have hq : max ((Nat.log2 n : Int) - 52) (-1074) = (Nat.log2 n : Int) - 52 := by omega
  have hneg : (-((Nat.log2 n : Int) - 52)).toNat = 52 - Nat.log2 n := by omega
  have hpos : ((Nat.log2 n : Int) - 52).toNat = Nat.log2 n - 52 := by omega
  have hexp : ((Nat.log2 n : Int) - 52 + 1074).toNat = Nat.log2 n + 1022 := by omega
  simp only [rankOfRatio, if_neg hn, floorLog2_one hn, hq, hneg, hpos, hexp, Nat.one_mul]

/-- The mantissa of an integer has its leading bit, and is at most the next power of two. -/
theorem mantissa_bounds {n : Nat} (hn : n ≠ 0) :
    twoTo 52 ≤ roundQuotient (n * twoTo (52 - Nat.log2 n)) (twoTo (Nat.log2 n - 52)) ∧
      roundQuotient (n * twoTo (52 - Nat.log2 n)) (twoTo (Nat.log2 n - 52)) ≤ twoTo 53 := by
  have hpow : twoTo (Nat.log2 n) * twoTo (52 - Nat.log2 n) = twoTo 52 * twoTo (Nat.log2 n - 52) := by
    rw [← twoTo_add, ← twoTo_add]
    congr 1
    omega
  have hlow : twoTo 52 * twoTo (Nat.log2 n - 52) ≤ n * twoTo (52 - Nat.log2 n) := by
    rw [← hpow]
    exact Nat.mul_le_mul_right _ (Nat.log2_self_le hn)
  have hhigh : n * twoTo (52 - Nat.log2 n) < twoTo 53 * twoTo (Nat.log2 n - 52) := by
    calc n * twoTo (52 - Nat.log2 n) < twoTo (Nat.log2 n + 1) * twoTo (52 - Nat.log2 n) :=
          Nat.mul_lt_mul_of_pos_right Nat.lt_log2_self (twoTo_pos _)
      _ = 2 * (twoTo 52 * twoTo (Nat.log2 n - 52)) := by
          rw [twoTo_add, Nat.mul_right_comm, hpow, Nat.mul_comm]
          rfl
      _ = twoTo 53 * twoTo (Nat.log2 n - 52) := by
          rw [← Nat.mul_assoc]
          rfl
  constructor
  · exact ((Nat.le_div_iff_mul_le (twoTo_pos _)).2 hlow).trans (div_le_roundQuotient _ _)
  · exact (roundQuotient_le _ _).trans ((Nat.div_lt_iff_lt_mul (twoTo_pos _)).2 hhigh)

theorem rankOfRatio_eq_zero {n : Nat} : rankOfRatio n 1 = 0 ↔ n = 0 := by
  constructor
  · intro h
    by_contra hn
    have := (mantissa_bounds hn).1
    have := twoTo_pos 52
    rw [rankOfRatio_one hn] at h
    omega
  · rintro rfl
    rfl

/-- Integers on both sides of a power of two: the rank of the power is between their ranks. -/
theorem rankOfRatio_le_of_log2_lt {m n : Nat} (hm : m ≠ 0) (h : Nat.log2 m < Nat.log2 n) :
    rankOfRatio m 1 ≤ (Nat.log2 m + 1024) * twoTo 52 ∧ (Nat.log2 m + 1024) * twoTo 52 ≤ rankOfRatio n 1 := by
  have hn : n ≠ 0 := by
    rintro rfl
    exact absurd h (Nat.not_lt_zero _)
  have h53 : twoTo 53 = 2 * twoTo 52 := rfl
  constructor
  · have := (mantissa_bounds hm).2
    rw [rankOfRatio_one hm, Nat.add_mul, Nat.add_mul]
    omega
  · have hmul : (Nat.log2 m + 1) * twoTo 52 ≤ Nat.log2 n * twoTo 52 := Nat.mul_le_mul_right _ h
    have := (mantissa_bounds hn).1
    rw [Nat.add_mul] at hmul
    rw [rankOfRatio_one hn, Nat.add_mul, Nat.add_mul]
    omega

/-- Rounding keeps the order of integers. -/
theorem rankOfRatio_mono {m n : Nat} (h : m ≤ n) : rankOfRatio m 1 ≤ rankOfRatio n 1 := by
  rcases Nat.eq_zero_or_pos m with rfl | hm
  · exact Nat.zero_le _
  · have hm : m ≠ 0 := Nat.ne_of_gt hm
    have hn : n ≠ 0 := by omega
    rcases Nat.lt_or_eq_of_le (log2_mono hm h) with hlt | heq
    · exact (rankOfRatio_le_of_log2_lt hm hlt).1.trans (rankOfRatio_le_of_log2_lt hm hlt).2
    · rw [rankOfRatio_one hm, rankOfRatio_one hn, heq]
      exact Nat.add_le_add_left (roundQuotient_mono _ (Nat.mul_le_mul_right _ h)) _

/-- An integer below `2 ^ 53` is not rounded. -/
theorem rankOfRatio_exact {n : Nat} (hn : n ≠ 0) (h : n < twoTo 53) :
    rankOfRatio n 1 = (Nat.log2 n + 1022) * twoTo 52 + n * twoTo (52 - Nat.log2 n) := by
  have hlog : Nat.log2 n < 53 := (Nat.log2_lt hn).2 h
  have hzero : Nat.log2 n - 52 = 0 := by omega
  rw [rankOfRatio_one hn, hzero]
  exact congrArg _ (roundQuotient_one _)

/-- Integers up to `2 ^ 53` are told apart. -/
theorem rankOfRatio_lt {m n : Nat} (h : m < n) (hn : n ≤ twoTo 53) : rankOfRatio m 1 < rankOfRatio n 1 := by
  have hn0 : n ≠ 0 := Nat.ne_of_gt (Nat.zero_lt_of_lt h)
  rcases Nat.eq_zero_or_pos m with rfl | hm
  · exact Nat.pos_of_ne_zero fun h => hn0 (rankOfRatio_eq_zero.1 h)
  · have hm : m ≠ 0 := Nat.ne_of_gt hm
    have hm53 : m < twoTo 53 := lt_of_lt_of_le h hn
    rcases Nat.lt_or_eq_of_le (log2_mono hm h.le) with hlt | heq
    · refine lt_of_lt_of_le ?_ (rankOfRatio_le_of_log2_lt hm hlt).2
      have hmul : m * twoTo (52 - Nat.log2 m) < twoTo (Nat.log2 m + 1) * twoTo (52 - Nat.log2 m) :=
        Nat.mul_lt_mul_of_pos_right Nat.lt_log2_self (twoTo_pos _)
      have hpow : twoTo (Nat.log2 m + 1) * twoTo (52 - Nat.log2 m) = 2 * twoTo 52 := by
        have := (Nat.log2_lt hm).2 hm53
        rw [← twoTo_add, show Nat.log2 m + 1 + (52 - Nat.log2 m) = 53 by omega]
        rfl
      rw [rankOfRatio_exact hm hm53, Nat.add_mul, Nat.add_mul]
      omega
    · have hn53 : n < twoTo 53 := by
        refine Nat.lt_of_not_le fun hle => ?_
        have := (twoTo_le_iff hn0).1 hle
        have := (Nat.log2_lt hm).2 hm53
        omega
      rw [rankOfRatio_exact hm hm53, rankOfRatio_exact hn0 hn53, heq]
      exact Nat.add_lt_add_left (Nat.mul_lt_mul_of_pos_right h (twoTo_pos _)) _

/-- Just the integers that are not beyond halfway to `2 ^ 1024` are rounded to a finite number. -/
theorem rankOfRatio_lt_infinityRank {n : Nat} :
    rankOfRatio n 1 < infinityRank ↔ n < twoTo 1024 - twoTo 970 := by
  have hinf : infinityRank ≤ rankOfRatio (twoTo 1024 - twoTo 970) 1 := by decide +kernel
  have hfin : rankOfRatio (twoTo 1024 - twoTo 970 - 1) 1 < infinityRank := by decide +kernel
  constructor
  · intro h
    by_contra hle
    exact absurd (hinf.trans (rankOfRatio_mono (Nat.not_lt.1 hle))) (Nat.not_le.2 h)
  · intro h
    exact lt_of_le_of_lt (rankOfRatio_mono (by omega)) hfin

/-- The integers that are rounded to a finite number. -/
def InRange (i : Int) : Prop := i.natAbs < twoTo 1024 - twoTo 970

theorem isFinite_roundInt {i : Int} : (roundInt i).isFinite = true ↔ InRange i := by
  have hmin : min (rankOfRatio i.natAbs 1) infinityRank < infinityRank ↔ rankOfRatio i.natAbs 1 < infinityRank := by
    omega
  simp only [roundInt, ofRatio, ofRank, isFinite, decide_eq_true_eq]
  exact hmin.trans rankOfRatio_lt_infinityRank

theorem ofInt?_of_inRange {i : Int} (h : InRange i) : ofInt? i = some (roundInt i) := if_pos (isFinite_roundInt.2 h)

theorem inRange_of_le {i : Int} (h : i.natAbs ≤ twoTo 53) : InRange i :=
  lt_of_le_of_lt h (by decide +kernel)

/-- The place of an integer among the numbers, infinity not regarded. -/
def placeOf (i : Int) : Int := place (decide (i < 0)) (rankOfRatio i.natAbs 1)

theorem placeOf_nonneg {i : Int} (h : 0 ≤ i) : placeOf i = rankOfRatio i.natAbs 1 := by
  rw [placeOf, decide_eq_false (Int.not_lt.2 h)]
  rfl

theorem placeOf_neg {i : Int} (h : i < 0) : placeOf i = -(rankOfRatio i.natAbs 1 : Int) := by
  rw [placeOf, decide_eq_true h]
  rfl

theorem placeOf_mono {l r : Int} (h : l ≤ r) : placeOf l ≤ placeOf r := by
  rcases lt_or_ge l 0 with hl | hl
  · rcases lt_or_ge r 0 with hr | hr
    · have := rankOfRatio_mono (show r.natAbs ≤ l.natAbs by omega)
      rw [placeOf_neg hl, placeOf_neg hr]
      omega
    · rw [placeOf_neg hl, placeOf_nonneg hr]
      omega
  · have := rankOfRatio_mono (show l.natAbs ≤ r.natAbs by omega)
    rw [placeOf_nonneg hl, placeOf_nonneg (hl.trans h)]
    omega

/-- A place below that of zero is that of a negative integer. -/
theorem placeOf_neg_iff {i : Int} : placeOf i < 0 ↔ i < 0 := by
  constructor
  · intro h
    by_contra hi
    rw [placeOf_nonneg (Int.not_lt.1 hi)] at h
    omega
  · intro h
    have : rankOfRatio i.natAbs 1 ≠ 0 := fun hz => absurd (rankOfRatio_eq_zero.1 hz) (by omega)
    rw [placeOf_neg h]
    omega

/-- The place of an integer tells its sign and its rank. -/
theorem placeOf_eq_iff {l r : Int} : placeOf l = placeOf r ↔
    (l < 0 ↔ r < 0) ∧ rankOfRatio l.natAbs 1 = rankOfRatio r.natAbs 1 := by
  constructor
  · intro h
    have hsign : l < 0 ↔ r < 0 := by rw [← placeOf_neg_iff, h, placeOf_neg_iff]
    refine ⟨hsign, ?_⟩
    rcases lt_or_ge l 0 with hl | hl
    · rw [placeOf_neg hl, placeOf_neg (hsign.1 hl)] at h
      omega
    · rw [placeOf_nonneg hl, placeOf_nonneg (Int.not_lt.1 (mt hsign.2 (Int.not_lt.2 hl)))] at h
      omega
  · rintro ⟨hsign, hrank⟩
    rw [placeOf, placeOf, decide_eq_decide.2 hsign, hrank]

/-- Integers with one place are rounded to one number. -/
theorem roundInt_eq_iff {l r : Int} (hl : InRange l) (hr : InRange r) :
    roundInt l = roundInt r ↔ placeOf l = placeOf r := by
  rw [placeOf_eq_iff]
  simp only [roundInt, ofRatio, ofRank, Double.number.injEq, decide_eq_decide,
    Nat.min_eq_left (rankOfRatio_lt_infinityRank.2 hl).le, Nat.min_eq_left (rankOfRatio_lt_infinityRank.2 hr).le]

/-- Rounded integers stand to each other as the integers do, unless they are rounded to one number. -/
theorem order_roundInt {l r : Int} (hl : InRange l) (hr : InRange r) :
    (roundInt l).order (roundInt r) = if roundInt l = roundInt r then .eq else Ord.compare l r := by
  have horder : (roundInt l).order (roundInt r) = Ord.compare (placeOf l) (placeOf r) := by
    simp only [roundInt, ofRatio, ofRank, order, placeOf, Nat.min_eq_left (rankOfRatio_lt_infinityRank.2 hl).le,
      Nat.min_eq_left (rankOfRatio_lt_infinityRank.2 hr).le]
  rw [horder]
  split
  next h => exact Int.compare_eq_eq.2 ((roundInt_eq_iff hl hr).1 h)
  next h =>
    have hne : placeOf l ≠ placeOf r := mt (roundInt_eq_iff hl hr).2 h
    rcases lt_trichotomy l r with hlt | rfl | hgt
    · rw [Int.compare_eq_lt.2 hlt, Int.compare_eq_lt.2 (lt_of_le_of_ne (placeOf_mono hlt.le) hne)]
    · exact absurd rfl hne
    · rw [Int.compare_eq_gt.2 hgt, Int.compare_eq_gt.2 (lt_of_le_of_ne (placeOf_mono hgt.le) hne.symm)]

/-- Different integers up to `2 ^ 53` are rounded to different numbers. -/
theorem eq_of_roundInt {l r : Int} (hl : l.natAbs ≤ twoTo 53) (hr : r.natAbs ≤ twoTo 53)
    (h : roundInt l = roundInt r) : l = r := by
  obtain ⟨hsign, hrank⟩ := placeOf_eq_iff.1 ((roundInt_eq_iff (inRange_of_le hl) (inRange_of_le hr)).1 h)
  have habs : l.natAbs = r.natAbs := by
    rcases lt_trichotomy l.natAbs r.natAbs with hlt | heq | hgt
    · exact absurd hrank (rankOfRatio_lt hlt hr).ne
    · exact heq
    · exact absurd hrank (rankOfRatio_lt hgt hl).ne'
  omega

theorem ofDecimal_zero (negative : Bool) (n : Nat) : ofDecimal negative n 0 = ofRatio negative n 1 := by
  have hlow : ¬ (0 : Int) * 3 + (Nat.log2 n + 1 : Nat) < -1200 := by omega
  unfold ofDecimal
  simp only [if_neg hlow]
  split
  next h =>
    subst h
    rfl
  next =>
    rw [if_neg (by decide), show tenTo (0 : Int).toNat = 1 from rfl, show tenTo (-0 : Int).toNat = 1 from rfl,
      Nat.mul_one]

end Double

/-! ### Decimal texts -/

namespace Numeral

theorem unsignedDouble?_toDigits (negative : Bool) (n : Nat) :
    unsignedDouble? negative (Nat.toDigits 10 n) = some (Double.ofRatio negative n 1) := by
  have hrun : digitRun [] (Nat.toDigits 10 n) = (digitValues (Nat.toDigits 10 n), []) := by
    simpa using digitRun_append (IsDigits.toDigits n) Stops.nil []
  have hne : (digitValues (Nat.toDigits 10 n)).isEmpty = false := by simp [digitValues, Nat.toDigits_ne_nil]
  obtain ⟨d, ds, hd, hds, -⟩ := exists_toDigits n
  have hword (word : String) (h : ∀ c ∈ word.toList.head?, c.isDigit = false) (hw : word.toList ≠ []) :
      isWord word (Nat.toDigits 10 n) = false := by
    rw [hds]
    exact isWord_of_isDigit hd h hw
  rw [unsignedDouble?, hword "inf" (by rintro c ⟨⟩; rfl) (by decide),
    hword "infinity" (by rintro c ⟨⟩; rfl) (by decide), hword "nan" (by rintro c ⟨⟩; rfl) (by decide), hrun]
  simp only [hne, Bool.false_eq_true, Bool.or_self, if_false, exponent?, Option.map_some, decimalOf,
    List.append_nil, ofDigits_toDigits]
  exact congrArg some (Double.ofDecimal_zero negative n)

/-- The decimal text of an integer reads as the number nearest to it. -/
theorem double?_toString (i : Int) : double? (toString i) = some (Double.roundInt i) := by
  have htrim : Text.trimBy Text.isNumeralBlank (toString i).toList = (toString i).toList :=
    Text.trimBy_eq fun c hc => isNumeralBlank_of_isChar (Json.isChar_of_mem_toString c hc)
  rw [double?, htrim, Json.sign_toString]
  exact unsignedDouble?_toDigits _ _

end Numeral

/-! ### Comparing -/

/-- Whether the relation holds between two integers. -/
def Relation.holdsOfIntegers (r : Relation) (i j : Int) : Bool :=
  match r with
  | eq => i == j
  | neq => i != j
  | gt => j < i
  | gte => j ≤ i
  | lt => i < j
  | lte => i ≤ j

theorem Relation.holdsOfIntegers_eq (r : Relation) (i j : Int) :
    r.holdsOfIntegers i j = r.admits (Ord.compare i j) := by
  rcases lt_trichotomy i j with h | rfl | h
  · rw [Int.compare_eq_lt.2 h]
    cases r <;> simp [holdsOfIntegers, admits, h, h.le, h.ne, h.not_gt, h.not_ge]
  · rw [Int.compare_eq_eq.2 rfl]
    cases r <;> simp [holdsOfIntegers, admits]
  · rw [Int.compare_eq_gt.2 h]
    cases r <;> simp [holdsOfIntegers, admits, h, h.le, h.ne', h.not_gt, h.not_ge]

namespace Value

open Double

/-- A value gives an integer: as a number, or by its decimal text. -/
inductive Denotes : Value → Int → Prop where
  | number (i : Int) : Denotes (.int i) i
  | text (i : Int) : Denotes (.text (toString i)) i

variable {x y : Value} {l r i : Int}

theorem numberOfText?_toString (i : Int) : numberOfText? (toString i) = some (roundInt i) := by
  have htrim : Text.trim (toString i).toList = (toString i).toList :=
    Text.trimBy_eq fun c hc => Numeral.isBlank_of_isChar (Json.isChar_of_mem_toString c hc)
  have hbar : (toString i).toList.contains '_' = false := by
    rw [List.contains_eq_mem, decide_eq_false_iff_not]
    exact fun h => absurd (Json.isChar_of_mem_toString _ h) (by decide)
  have hne : (toString i).toList.isEmpty = false := by
    obtain ⟨d, ds, -, hds, -⟩ := exists_toDigits i.natAbs
    rw [Json.toList_toString_int, hds]
    split <;> rfl
  simp only [numberOfText?, htrim, hbar, hne, Bool.or_self, Bool.false_eq_true, if_false, String.ofList_toList,
    Numeral.double?_toString]

theorem Denotes.toNumber (h : x.Denotes i) (hi : InRange i) : x.toNumber = .ok (some (roundInt i)) := by
  cases h with
  | number => simp only [Value.toNumber, ofInt?_of_inRange hi]
  | text =>
    rw [Value.toNumber, numberOfText?_toString, Option.filter_some, if_pos (isFinite_roundInt.2 hi)]

theorem inRange_of_isWide (hw : (Value.int i).isWide = false) : InRange i := by
  by_contra hi
  rw [isWide, ofInt?, if_neg (mt isFinite_roundInt.1 hi)] at hw
  cases hw

/-- An integer out of range has no number: it cannot be asked for, or its text reads as infinity. -/
theorem Denotes.toNumber_eq_none (h : x.Denotes i) (hi : ¬ InRange i) (hw : x.isWide = false) :
    x.toNumber = .ok none := by
  cases h with
  | number => exact absurd (inRange_of_isWide hw) hi
  | text =>
    rw [Value.toNumber, numberOfText?_toString, Option.filter_some, if_neg (mt isFinite_roundInt.1 hi)]

theorem Denotes.toText (h : x.Denotes i) (hw : x.isWide = false) : x.toText = .ok (toString i) := by
  cases h with
  | number =>
    have hlt : i.natAbs < tenTo Numeral.digitLimit :=
      lt_of_lt_of_le (inRange_of_isWide hw) ((Nat.sub_le _ _).trans (twoTo_le_tenTo (by decide)))
    simp only [Value.toText, plain, plain?, quoted?, intText?, if_pos hlt]
  | text => rfl

/-- Two integers, each a number or a decimal text, are compared as the numbers nearest to them: as the
integers themselves, unless they are rounded to one number and count as equal, which different ones up to
`2 ^ 53` never are. If one is out of range the comparison fails should that one be given as a number, and
else compares their texts. -/
theorem compare_integers (hx : x.Denotes l) (hy : y.Denotes r) (op : Relation) :
    (InRange l → InRange r → compare op x y =
      .ok (if roundInt l = roundInt r then op.holdsOfIntegers l l else op.holdsOfIntegers l r)) ∧
    (l.natAbs ≤ 2 ^ 53 → r.natAbs ≤ 2 ^ 53 → compare op x y = .ok (op.holdsOfIntegers l r)) ∧
    (¬ (InRange l ∧ InRange r) → compare op x y =
      if x.isWide || y.isWide then .error .integerOverflow
      else .ok (op.holdsOfTexts (toString l) (toString r))) := by
  have hnear (hl : InRange l) (hr : InRange r) : compare op x y =
      .ok (if roundInt l = roundInt r then op.holdsOfIntegers l l else op.holdsOfIntegers l r) := by
    rw [compare_numbers (hx.toNumber hl) (hy.toNumber hr),
      op.holdsOfNumbers_eq (isFinite_roundInt.2 hl) (isFinite_roundInt.2 hr), order_roundInt hl hr,
      op.holdsOfIntegers_eq, op.holdsOfIntegers_eq, Int.compare_eq_eq.2 rfl, ← apply_ite]
  refine ⟨hnear, fun hl hr => ?_, fun hfar => ?_⟩
  · rw [hnear (inRange_of_le hl) (inRange_of_le hr)]
    split
    next h => rw [eq_of_roundInt hl hr h]
    next => rfl
  · split
    next hw => exact compare_wide (by simpa using hw)
    next hw =>
    obtain ⟨hwx, hwy⟩ : x.isWide = false ∧ y.isWide = false := by simpa using hw
    have hnone : x.toNumber = .ok none ∨ y.toNumber = .ok none := by
      by_cases hl : InRange l
      · exact .inr (hy.toNumber_eq_none (fun hr => hfar ⟨hl, hr⟩) hwy)
      · exact .inl (hx.toNumber_eq_none hl hwx)
    rw [compare_texts hwx hwy hnone, hx.toText hwx, hy.toText hwy]
    rfl

/-- The least integer that is not told apart from the one before it counts as equal to that one, and the
text of an integer of 401 digits comes before that of the integer nine. -/
theorem compare_rounded :
    (Value.text "9007199254740993").Denotes 9007199254740993 ∧
    compare .eq (.text "9007199254740993") (.int 9007199254740992) = .ok true ∧
    compare .gt (.text "9007199254740993") (.int 9007199254740992) = .ok false ∧
    compare .lt (.text "9007199254740993") (.int 9007199254740994) = .ok true ∧
    compare .lt (.text (toString (tenTo 400 : Int))) (.int 9) = .ok true := by
  have hx : (Value.text "9007199254740993").Denotes 9007199254740993 := .text 9007199254740993
  have hnear (r : Int) (op : Relation) (hr : r.natAbs < 10 ^ 16) := (compare_integers hx (.number r) op).1
    (lt_of_lt_of_le (show _ < 10 ^ 16 by decide) (by decide +kernel)) (lt_of_lt_of_le hr (by decide +kernel))
  have hfar : ¬ InRange (tenTo 400 : Int) := by
    rw [InRange]
    decide +kernel
  refine ⟨hx, ?_, ?_, ?_, ?_⟩
  · rw [hnear _ _ (by decide)]
    decide +kernel
  · rw [hnear _ _ (by decide)]
    decide +kernel
  · rw [hnear _ _ (by decide)]
    decide +kernel
  · rw [(compare_integers (.text (tenTo 400 : Int)) (.number 9) .lt).2.2 fun h => hfar h.1,
      if_neg (by decide), Relation.holdsOfTexts, Json.toList_toString_int, Json.toList_toString_int]
    decide +kernel

end Value

end Workflow
