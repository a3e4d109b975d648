import Workflow.Proofs.Integers

/-!
# Numbers as quotients

What a rounded number is, as a quotient of two integers. A quotient that has the 53 digits of a mantissa with
so many binary places (`Leads`) is rounded to these places: the number is the nearest integer over a power of
two (`isRatio_ofRatio`). A product of two numbers is rounded in the same way (`IsRatio.isRatio_mul`), and the
integer part of a number is that of the quotient (`IsRatio.truncate_eq`).
-/

namespace Workflow

theorem twoTo_split {b c : Nat} (hc : c ≤ b) : twoTo b = twoTo c * twoTo (b - c) := by
  rw [← twoTo_add, Nat.add_sub_cancel' hc]

namespace Double

/-! ### Rounding quotients -/

/-- The nearest integer is no further from a quotient than one half. -/
theorem roundQuotient_near (num : Nat) {den : Nat} (hd : 0 < den) :
    2 * (den * roundQuotient num den) ≤ 2 * num + den ∧
      2 * num ≤ 2 * (den * roundQuotient num den) + den := by
  have hdiv := Nat.div_add_mod num den
  have hmod := Nat.mod_lt num hd
  unfold roundQuotient
  simp only
  split_ifs with hbelow habove
  · omega
  · rw [Nat.mul_add]
    omega
  · rw [Nat.mul_add]
    rcases Nat.mod_two_eq_zero_or_one (num / den) with h | h <;> rw [h] <;> omega

/-- What is rounded to less than an even integer is nearer to the integers below it. -/
theorem roundQuotient_lt_iff {num den t : Nat} (hd : 0 < den) (ht : t % 2 = 0) :
    roundQuotient num den < t ↔ 2 * num + den < 2 * (den * t) := by
  have hdiv := Nat.div_add_mod num den
  have hmod := Nat.mod_lt num hd
  rcases lt_trichotomy (num / den + 1) t with hlt | rfl | hgt
  · have hle := Nat.mul_le_mul_left den (show num / den + 2 ≤ t from hlt)
    have hround := roundQuotient_le num den
    rw [Nat.mul_add] at hle
    constructor <;> omega
  · rw [Nat.mul_add, roundQuotient]
    split_ifs <;> omega
  · have hle := Nat.mul_le_mul_left den (show t ≤ num / den by omega)
    have hround := div_le_roundQuotient num den
    constructor <;> omega

theorem roundQuotient_mul_right (num den : Nat) {c : Nat} (hc : 0 < c) :
    roundQuotient (num * c) (den * c) = roundQuotient num den := by
  have hbelow : 2 * (num % den * c) < den * c ↔ 2 * (num % den) < den := by
    rw [← Nat.mul_assoc]
    exact Nat.mul_lt_mul_right hc
  have habove : den * c < 2 * (num % den * c) ↔ den < 2 * (num % den) := by
    rw [← Nat.mul_assoc]
    exact Nat.mul_lt_mul_right hc
  simp only [roundQuotient, Nat.mul_div_mul_right _ _ hc, Nat.mul_mod_mul_right, hbelow, habove]

/-- Rounding sees the quotient alone. -/
theorem roundQuotient_congr {num den num' den' : Nat} (hd : 0 < den) (hd' : 0 < den')
    (h : num * den' = num' * den) : roundQuotient num den = roundQuotient num' den' := by
  rw [← roundQuotient_mul_right num den hd', h, Nat.mul_comm den, roundQuotient_mul_right num' den' hd]

/-! ### The leading bit -/

/-- With `b` binary places behind the point a quotient has the 53 digits of a mantissa. -/
structure Leads (num den b : Nat) : Prop where
  low : den * twoTo 52 ≤ num * twoTo b
  high : num * twoTo b < den * twoTo 53

variable {num den b : Nat}

theorem Leads.pos (h : Leads num den b) : 0 < den ∧ num ≠ 0 := by
  have hlt := Nat.lt_of_le_of_lt h.low h.high
  have hden : 0 < den := Nat.pos_of_ne_zero fun hz => by simp [hz] at hlt
  refine ⟨hden, fun hz => ?_⟩
  have hlow := h.low
  rw [hz, Nat.zero_mul] at hlow
  exact Nat.ne_of_gt (Nat.mul_pos hden (twoTo_pos 52)) (Nat.le_zero.1 hlow)

theorem Leads.congr {num' den' : Nat} (h : Leads num den b) (hd' : 0 < den')
    (heq : num * den' = num' * den) : Leads num' den' b := by
  have hd := h.pos.1
  have hscale : num * twoTo b * den' = num' * twoTo b * den := by
    rw [Nat.mul_right_comm, heq, Nat.mul_right_comm]
  constructor
  · refine Nat.le_of_mul_le_mul_right ?_ hd
    calc den' * twoTo 52 * den = den * twoTo 52 * den' := by ac_rfl
      _ ≤ num * twoTo b * den' := Nat.mul_le_mul_right _ h.low
      _ = num' * twoTo b * den := hscale
  · refine Nat.lt_of_mul_lt_mul_right (a := den) ?_
    calc num' * twoTo b * den = num * twoTo b * den' := hscale.symm
      _ < den * twoTo 53 * den' := Nat.mul_lt_mul_of_pos_right h.high hd'
      _ = den' * twoTo 53 * den := by ac_rfl

/-- A quotient that is not too large has such places. -/
theorem exists_leads (hn : num ≠ 0) (h : num < den * twoTo 53) : ∃ b, Leads num den b := by
  have hex : ∃ b, den * twoTo 52 ≤ num * twoTo b := by
    refine ⟨den * twoTo 52, Nat.le_trans (Nat.le_of_lt Nat.lt_two_pow_self) ?_⟩
    exact Nat.le_mul_of_pos_left _ (Nat.pos_of_ne_zero hn)
  classical
  refine ⟨Nat.find hex, Nat.find_spec hex, ?_⟩
  -- With one place less there are too few digits.
  cases hb : Nat.find hex with
  | zero => exact lt_of_eq_of_lt (Nat.mul_one num) h
  | succ b =>
    have hlt : num * twoTo b < den * twoTo 52 := Nat.not_le.1 (Nat.find_min hex (by omega))
    have h53 : twoTo 53 = twoTo 52 * 2 := rfl
    have hsucc : twoTo (b + 1) = twoTo b * 2 := twoTo_add b 1
    rw [h53, hsucc, ← Nat.mul_assoc, ← Nat.mul_assoc]
    exact Nat.mul_lt_mul_of_pos_right hlt (by decide)

/-- Both ways to multiply with a power of two say the same of the quotient. -/
theorem mul_twoTo_le_iff {t b : Nat} {e : Int} (h : e + b = t) :
    den * twoTo e.toNat ≤ num * twoTo (-e).toNat ↔ den * twoTo t ≤ num * twoTo b := by
  rcases le_total 0 e with he | he
  · have ht : t = e.toNat + b := by omega
    have hz : (-e).toNat = 0 := by omega
    rw [hz, ht, twoTo_add, ← Nat.mul_assoc, show twoTo 0 = 1 from rfl, Nat.mul_one]
    exact (Nat.mul_le_mul_right_iff (twoTo_pos b)).symm
  · have hb : b = (-e).toNat + t := by omega
    have hz : e.toNat = 0 := by omega
    rw [hz, hb, twoTo_add, ← Nat.mul_assoc, show twoTo 0 = 1 from rfl, Nat.mul_one]
    exact (Nat.mul_le_mul_right_iff (twoTo_pos t)).symm

theorem Leads.floorLog2_eq (h : Leads num den b) : floorLog2 num den = 52 - (b : Int) := by
  obtain ⟨hd, hn⟩ := h.pos
  have hd : den ≠ 0 := Nat.ne_of_gt hd
  have hlow : Nat.log2 den + 52 < Nat.log2 num + 1 + b := by
    refine (Nat.pow_lt_pow_iff_right (a := 2) (by decide)).1 ?_
    calc twoTo (Nat.log2 den + 52) ≤ den * twoTo 52 := by
          rw [twoTo_add]
          exact Nat.mul_le_mul_right _ (Nat.log2_self_le hd)
      _ ≤ num * twoTo b := h.low
      _ < twoTo (Nat.log2 num + 1) * twoTo b := Nat.mul_lt_mul_of_pos_right Nat.lt_log2_self (twoTo_pos b)
      _ = twoTo (Nat.log2 num + 1 + b) := (twoTo_add _ _).symm
  have hhigh : Nat.log2 num + b < Nat.log2 den + 1 + 53 := by
    refine (Nat.pow_lt_pow_iff_right (a := 2) (by decide)).1 ?_
    calc twoTo (Nat.log2 num + b) ≤ num * twoTo b := by
          rw [twoTo_add]
          exact Nat.mul_le_mul_right _ (Nat.log2_self_le hn)
      _ < den * twoTo 53 := h.high
      _ ≤ twoTo (Nat.log2 den + 1) * twoTo 53 := Nat.mul_le_mul_right _ (Nat.le_of_lt Nat.lt_log2_self)
      _ = twoTo (Nat.log2 den + 1 + 53) := (twoTo_add _ _).symm
  have hcases : (Nat.log2 num : Int) - Nat.log2 den + b = (52 : Nat) ∨
      (Nat.log2 num : Int) - Nat.log2 den + b = (53 : Nat) := by omega
  unfold floorLog2
  rcases hcases with he | he
  · simp only [if_pos ((mul_twoTo_le_iff he).2 h.low)]
    omega
  · simp only [if_neg (mt (mul_twoTo_le_iff he).1 (Nat.not_le.2 h.high))]
    omega

/-! ### The rank of a quotient -/

theorem Leads.rankOfRatio_eq (h : Leads num den b) (hb : b ≤ 1074) :
    rankOfRatio num den = (1074 - b) * twoTo 52 + roundQuotient (num * twoTo b) den := by
  have hq : max ((52 : Int) - b - 52) (-1074) = -b := by omega
  have hneg : (-(-(b : Int))).toNat = b := by omega
  have hpos : (-(b : Int)).toNat = 0 := by omega
  have hexp : (-(b : Int) + 1074).toNat = 1074 - b := by omega
  simp only [rankOfRatio, if_neg h.pos.2, h.floorLog2_eq, hq, hneg, hpos, hexp, show twoTo 0 = 1 from rfl,
    Nat.mul_one]

theorem Leads.roundQuotient_bounds (h : Leads num den b) :
    twoTo 52 ≤ roundQuotient (num * twoTo b) den ∧ roundQuotient (num * twoTo b) den ≤ twoTo 53 := by
  have hd := h.pos.1
  constructor
  · refine ((Nat.le_div_iff_mul_le hd).2 ?_).trans (div_le_roundQuotient _ _)
    exact Nat.mul_comm den _ ▸ h.low
  · refine (roundQuotient_le _ _).trans ((Nat.div_lt_iff_lt_mul hd).2 ?_)
    exact Nat.mul_comm den _ ▸ h.high

section
variable {e f : Nat}

/-- A rank is an exponent and, below it, a mantissa without its leading bit. -/
theorem mantissaOf_eq (he : 0 < e) (hf : f < twoTo 52) : mantissaOf (e * twoTo 52 + f) = twoTo 52 + f := by
  have hge : ¬ e * twoTo 52 + f < twoTo 52 := by
    have := Nat.mul_le_mul_right (twoTo 52) he
    omega
  rw [mantissaOf, if_neg hge, Nat.mul_add_mod_self_right, Nat.mod_eq_of_lt hf, Nat.add_comm]

theorem exponentOf_eq (he : 0 < e) (hf : f < twoTo 52) : exponentOf (e * twoTo 52 + f) = e - 1075 := by
  have hdiv : (e * twoTo 52 + f) / twoTo 52 = e := by
    rw [Nat.add_comm, Nat.add_mul_div_right _ _ (twoTo_pos 52), Nat.div_eq_of_lt hf, Nat.zero_add]
  rw [exponentOf, hdiv, Nat.max_eq_left he]

theorem ratioOf_eq {b : Nat} (hb : b < 1075) (hf : f < twoTo 52) :
    ratioOf ((1075 - b) * twoTo 52 + f) = (twoTo 52 + f, twoTo b) := by
  have hexp : exponentOf ((1075 - b) * twoTo 52 + f) = -b := by
    rw [exponentOf_eq (by omega) hf]
    omega
  have hpos : (-(b : Int)).toNat = 0 := by omega
  have hneg : (-(-(b : Int))).toNat = b := by omega
  rw [ratioOf, hexp, hpos, hneg, mantissaOf_eq (by omega) hf, show twoTo 0 = 1 from rfl, Nat.mul_one]

end

/-- A mantissa with its leading bit, or the next power of two, over a power of two. -/
theorem ratioOf_rank {m : Nat} (hb : 0 < b) (hb' : b ≤ 1074) (hlow : twoTo 52 ≤ m) (hhigh : m ≤ twoTo 53) :
    (ratioOf ((1074 - b) * twoTo 52 + m)).1 * twoTo b = m * (ratioOf ((1074 - b) * twoTo 52 + m)).2 := by
  have h53 : twoTo 53 = twoTo 52 + twoTo 52 := rfl
  rcases Nat.lt_or_eq_of_le hhigh with hlt | rfl
  · obtain ⟨f, rfl⟩ := Nat.exists_eq_add_of_le hlow
    have hrank : (1074 - b) * twoTo 52 + (twoTo 52 + f) = (1075 - b) * twoTo 52 + f := by
      rw [show 1075 - b = 1074 - b + 1 by omega, Nat.succ_mul, Nat.add_assoc]
    rw [hrank, ratioOf_eq (by omega) (by omega)]
  · -- The next power of two has an exponent more and an empty mantissa.
    obtain ⟨c, rfl⟩ : ∃ c, b = c + 1 := ⟨b - 1, by omega⟩
    have hrank : (1074 - (c + 1)) * twoTo 52 + twoTo 53 = (1075 - c) * twoTo 52 + 0 := by
      rw [h53, show 1075 - c = 1074 - (c + 1) + 1 + 1 by omega, Nat.succ_mul, Nat.succ_mul]
      omega
    rw [hrank, ratioOf_eq (by omega) (twoTo_pos 52), twoTo_add c 1]
    calc (twoTo 52 + 0) * (twoTo c * twoTo 1) = twoTo 52 * twoTo 1 * twoTo c := by rw [Nat.add_zero]; ac_rfl
      _ = twoTo 53 * twoTo c := rfl

/-! ### Numbers that are quotients -/

/-- A finite number that is not negative is the quotient of two integers. -/
def IsRatio (d : Double) (num den : Nat) : Prop :=
  ∃ rank h, d = .number false rank h ∧ rank < infinityRank ∧ 0 < den ∧
    (ratioOf rank).1 * den = num * (ratioOf rank).2 ∧ 0 < (ratioOf rank).2

variable {d d' : Double} {num' den' : Nat}

/-- A quotient is rounded to the nearest integer over a power of two. -/
theorem isRatio_ofRatio (h : Leads num den b) (hb : 0 < b) (hb' : b ≤ 1074) :
    (ofRatio false num den).IsRatio (roundQuotient (num * twoTo b) den) (twoTo b) := by
  obtain ⟨hlow, hhigh⟩ := h.roundQuotient_bounds
  have hrank : rankOfRatio num den < infinityRank := by
    have hinf : infinityRank = 2047 * twoTo 52 := rfl
    have h53 : twoTo 53 = 2 * twoTo 52 := rfl
    have hpos := twoTo_pos 52
    have hmul : (1074 - b) * twoTo 52 ≤ 1074 * twoTo 52 := Nat.mul_le_mul_right _ (Nat.sub_le _ _)
    rw [h.rankOfRatio_eq hb']
    omega
  have hratio := ratioOf_rank hb hb' hlow hhigh
  rw [← h.rankOfRatio_eq hb'] at hratio
  refine ⟨_, Nat.min_le_right _ _, rfl, ?_⟩
  rw [Nat.min_eq_left (Nat.le_of_lt hrank)]
  exact ⟨hrank, twoTo_pos b, hratio, twoTo_pos _⟩

theorem IsRatio.truncate_eq (h : d.IsRatio num den) : d.truncate = (num / den : Nat) := by
  obtain ⟨rank, hle, rfl, -, hd, heq, hpos⟩ := h
  have hdiv : (ratioOf rank).1 / (ratioOf rank).2 = num / den := by
    rw [← Nat.mul_div_mul_right _ _ hd, heq, Nat.mul_comm _ den, Nat.mul_div_mul_right _ _ hpos]
  simp only [truncate, hdiv, Bool.false_eq_true, if_false]

/-- A product is the product of the quotients, rounded. -/
theorem IsRatio.isRatio_mul (h : d.IsRatio num den) (h' : d'.IsRatio num' den')
    (hlead : Leads (num * num') (den * den') b) (hb : 0 < b) (hb' : b ≤ 1074) :
    (d.mul d').IsRatio (roundQuotient (num * num' * twoTo b) (den * den')) (twoTo b) := by
  obtain ⟨rank, hle, rfl, hlt, hd, heq, hpos⟩ := h
  obtain ⟨rank', hle', rfl, hlt', hd', heq', hpos'⟩ := h'
  have hinf : (rank == infinityRank || rank' == infinityRank) = false := by
    simp [Nat.ne_of_lt hlt, Nat.ne_of_lt hlt']
  have hmul : (number false rank hle).mul (number false rank' hle') =
      ofRatio false ((ratioOf rank).1 * (ratioOf rank').1) ((ratioOf rank).2 * (ratioOf rank').2) := by
    simp only [mul, hinf, Bool.false_eq_true, if_false]
    rfl
  have hcross : num * num' * ((ratioOf rank).2 * (ratioOf rank').2) =
      (ratioOf rank).1 * (ratioOf rank').1 * (den * den') := by
    calc num * num' * ((ratioOf rank).2 * (ratioOf rank').2)
        = num * (ratioOf rank).2 * (num' * (ratioOf rank').2) := by ac_rfl
      _ = (ratioOf rank).1 * den * ((ratioOf rank').1 * den') := by rw [heq, heq']
      _ = (ratioOf rank).1 * (ratioOf rank').1 * (den * den') := by ac_rfl
  have hround : roundQuotient (num * num' * twoTo b) (den * den') =
      roundQuotient ((ratioOf rank).1 * (ratioOf rank').1 * twoTo b) ((ratioOf rank).2 * (ratioOf rank').2) := by
    refine roundQuotient_congr (Nat.mul_pos hd hd') (Nat.mul_pos hpos hpos') ?_
    rw [Nat.mul_right_comm, hcross, Nat.mul_right_comm]
  rw [hmul, hround]
  exact isRatio_ofRatio (hlead.congr (Nat.mul_pos hpos hpos') hcross) hb hb'

end Double

end Workflow
