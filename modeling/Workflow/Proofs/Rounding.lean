import Workflow.Number.Decimal
import Workflow.Proofs.Comparability

/-!
# Decimals that are not rounded to zero

A quotient is rounded to zero if it is at most half of the least magnitude (`rankOfRatio_eq_zero_iff`). So
the decimal with the fewest digits that reads back as a magnitude does not read as zero unless its digits
are zero (`not_isZero_shortest`).
-/

namespace Workflow

namespace Double

theorem roundQuotient_eq_zero_iff {num den : Nat} (hd : 0 < den) :
    roundQuotient num den = 0 ↔ 2 * num ≤ den := by
  have hdiv : num / den = 0 ↔ num < den := Nat.div_eq_zero_iff_lt hd
  constructor
  · intro h
    have hq : num / den = 0 := Nat.le_zero.1 (h ▸ div_le_roundQuotient num den)
    rw [roundQuotient, hq, Nat.mod_eq_of_lt (hdiv.1 hq)] at h
    by_contra hlt
    simp only [if_neg (show ¬ 2 * num < den by omega), if_pos (show den < 2 * num by omega)] at h
    cases h
  · intro h
    have hlt : num < den := by omega
    rw [roundQuotient, hdiv.2 hlt, Nat.mod_eq_of_lt hlt]
    by_cases heq : 2 * num < den
    · simp only [if_pos heq]
    · simp only [if_neg heq, if_neg (show ¬ den < 2 * num by omega)]

/-- A quotient is rounded to zero if it is at most half of the least magnitude. -/
theorem rankOfRatio_eq_zero_iff {num den : Nat} (hn : num ≠ 0) (hd : 0 < den) :
    rankOfRatio num den = 0 ↔ num * twoTo 1075 ≤ den := by
  have htwo : 2 * (num * twoTo 1074) = num * twoTo 1075 := by
    have h1 : twoTo 1 = 2 := rfl
    rw [show 1075 = 1074 + 1 from rfl, twoTo_add, h1, Nat.mul_left_comm, Nat.mul_comm 2]
  have hround : roundQuotient (num * twoTo 1074) (den * twoTo 0) = 0 ↔ num * twoTo 1075 ≤ den := by
    rw [show twoTo 0 = 1 from rfl, Nat.mul_one, roundQuotient_eq_zero_iff hd, htwo]
  rw [rankOfRatio, if_neg hn]
  generalize hq : max (floorLog2 num den - 52) (-1074) = q
  simp only [Nat.add_eq_zero_iff, Nat.mul_eq_zero]
  constructor
  · rintro ⟨hz, hm⟩
    have hz : (q + 1074).toNat = 0 := hz.resolve_right (Nat.ne_of_gt (twoTo_pos 52))
    have hq : q = -1074 := by omega
    rw [hq] at hm
    exact hround.1 hm
  · intro hle
    have hlog : Nat.log2 num + 1075 ≤ Nat.log2 den := by
      refine (twoTo_le_iff (Nat.ne_of_gt hd)).1 (le_trans ?_ hle)
      rw [twoTo_add]
      exact Nat.mul_le_mul_right _ (Nat.log2_self_le hn)
    have hfloor : floorLog2 num den ≤ -1075 := by
      unfold floorLog2
      simp only
      split <;> omega
    have hq : q = -1074 := by omega
    rw [hq]
    exact ⟨.inl rfl, hround.2 hle⟩

theorem neg_ofDecimal (digits : Nat) (exponent : Int) :
    (ofDecimal false digits exponent).neg = ofDecimal true digits exponent := by
  unfold ofDecimal
  simp only
  split_ifs <;> rfl

theorem not_isZero_ofDecimal (negative : Bool) {d : Decimal} (hd : d.digits ≠ 0)
    (h : rankOfRatio (d.digits * tenTo d.exponent.toNat) (tenTo (-d.exponent).toNat) ≠ 0) :
    (ofDecimal negative d.digits d.exponent).isZero = false := by
  have hlt : tenTo (-d.exponent).toNat < d.digits * tenTo d.exponent.toNat * twoTo 1075 := by
    rwa [Ne, rankOfRatio_eq_zero_iff (Nat.mul_ne_zero hd (Nat.ne_of_gt (tenTo_pos _))) (tenTo_pos _), not_le] at h
  have hsmall : ¬ d.exponent * 3 + (Nat.log2 d.digits + 1 : Nat) < -1200 := by
    intro hlow
    obtain ⟨k, hk⟩ : ∃ k : Nat, d.exponent = -k := ⟨(-d.exponent).toNat, by omega⟩
    rw [hk, Int.neg_neg, Int.toNat_natCast, Int.toNat_neg_natCast, show tenTo 0 = 1 from rfl, Nat.mul_one] at hlt
    have hpow : twoTo (3 * k) ≤ tenTo k := by
      rw [twoTo, tenTo, Nat.pow_eq, Nat.pow_eq, Nat.pow_mul]
      exact Nat.pow_le_pow_left (by decide) k
    have hdigits : d.digits < twoTo (Nat.log2 d.digits + 1) := Nat.lt_log2_self
    have hle : twoTo (Nat.log2 d.digits + 1) * twoTo 1075 ≤ twoTo (3 * k) := by
      rw [← twoTo_add]
      exact Nat.pow_le_pow_right (by decide) (by omega)
    have := Nat.mul_lt_mul_of_pos_right hdigits (twoTo_pos 1075)
    omega
  rw [ofDecimal]
  simp only [if_neg hd, if_neg hsmall]
  split
  · rfl
  · have hmin : min (rankOfRatio (d.digits * tenTo d.exponent.toNat) (tenTo (-d.exponent).toNat)) infinityRank ≠ 0 := by
      have hinf : infinityRank ≠ 0 := by decide
      omega
    simpa [ofRatio, ofRank, isZero] using hmin
end Double

namespace Decimal
open Double

theorem onGrid?_spec {rank : Nat} {unit : Int} {d : Decimal} (h : onGrid? rank unit = some d) :
    readsAs rank d = true := by
  unfold onGrid? at h
  dsimp only at h
  split_ifs at h <;> cases h <;> assumption

theorem shortestFrom_spec {rank : Nat} {top : Int} (more count : Nat)
    (hd : (shortestFrom rank top count more).digits ≠ 0) :
    readsAs rank (shortestFrom rank top count more) = true := by
  induction more generalizing count with
  | zero =>
    rw [shortestFrom] at hd ⊢
    cases h : onGrid? rank (top + 1 - count) with
    | none => rw [h] at hd; exact absurd rfl hd
    | some d => exact onGrid?_spec h
  | succ more ih =>
    rw [shortestFrom] at hd ⊢
    cases h : onGrid? rank (top + 1 - count) with
    | none =>
      rw [h] at hd
      exact ih _ hd
    | some d => exact onGrid?_spec h

theorem not_isZero_shortest (negative : Bool) {rank : Nat} (h : (shortest rank).digits ≠ 0) :
    (ofDecimal negative (shortest rank).digits (shortest rank).exponent).isZero = false := by
  refine not_isZero_ofDecimal negative h ?_
  unfold shortest at h ⊢
  split at h
  next hr => exact absurd rfl h
  next hr =>
  simp only [if_neg hr] at h ⊢
  generalize hs : shortestFrom rank (floorLog10 (ratioOf rank).1 (ratioOf rank).2) 1 16 = s at h ⊢
  have hread (hd : s.digits ≠ 0) :
      ¬ s.digits * tenTo s.exponent.toNat * twoTo 1075 ≤ tenTo (-s.exponent).toNat := by
    have := shortestFrom_spec 16 1 (hs ▸ hd)
    rw [hs, readsAs, beq_iff_eq] at this
    rw [← rankOfRatio_eq_zero_iff (Nat.mul_ne_zero hd (Nat.ne_of_gt (tenTo_pos _))) (tenTo_pos _), this]
    exact hr
  by_cases hten : (s.digits != 0 && s.digits % 10 == 0) = true
  · rw [dropZeros, if_pos hten, dropZeros] at h ⊢
    obtain ⟨hne, hmod⟩ : s.digits ≠ 0 ∧ s.digits % 10 = 0 := by simpa using hten
    obtain ⟨k, hk⟩ := Nat.dvd_of_mod_eq_zero hmod
    rw [hk, Nat.mul_div_cancel_left _ (by decide)] at h ⊢
    rw [Ne, rankOfRatio_eq_zero_iff (Nat.mul_ne_zero h (Nat.ne_of_gt (tenTo_pos _))) (tenTo_pos _)]
    have hread := hread hne
    rw [hk] at hread
    rcases lt_or_ge s.exponent 0 with he | he
    · obtain ⟨n, hn⟩ : ∃ n : Nat, s.exponent = -(n + 1 : Nat) := ⟨(-s.exponent - 1).toNat, by omega⟩
      have h1 : (s.exponent + 1).toNat = 0 := by omega
      have h2 : (-(s.exponent + 1)).toNat = n := by omega
      have h3 : s.exponent.toNat = 0 := by omega
      have h4 : (-s.exponent).toNat = n + 1 := by omega
      rw [h3, h4, tenTo_succ] at hread
      rw [h1, h2]
      refine fun hle => hread ?_
      rw [Nat.mul_assoc 10, Nat.mul_assoc 10, Nat.mul_comm 10]
      exact Nat.mul_le_mul_right 10 hle
    · have h1 : (s.exponent + 1).toNat = s.exponent.toNat + 1 := by omega
      have h2 : (-(s.exponent + 1)).toNat = (-s.exponent).toNat := by omega
      rw [h1, h2, tenTo_succ]
      rwa [show k * (tenTo s.exponent.toNat * 10) = 10 * k * tenTo s.exponent.toNat by ac_rfl]
  · rw [dropZeros, if_neg hten] at h ⊢
    rw [Ne, rankOfRatio_eq_zero_iff (Nat.mul_ne_zero h (Nat.ne_of_gt (tenTo_pos _))) (tenTo_pos _)]
    exact hread h
end Decimal

end Workflow
