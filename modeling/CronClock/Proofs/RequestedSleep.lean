import CronClock.Firing
import CronClock.Proofs.Wall
import Mathlib.Algebra.Ring.Int.Defs
import Mathlib.Algebra.Ring.Nat

/-! # Requested sleeps

A delay is slept as a binary fraction of seconds with 53 significant bits. Below 2 ^ 33 seconds the
fraction tells microseconds apart and the sleep lasts as long as the delay, `Firing.requested_eq`. From
there up to the length of the calendar it is off by at most 31 microseconds, `Firing.requested_near`. -/
set_option autoImplicit false
namespace CronClock

namespace Decimal

theorem div_le_roundedQuotient (numerator denominator : Nat) :
    numerator / denominator ≤ roundedQuotient numerator denominator := by
  unfold roundedQuotient
  simp only
  split
  · omega
  · split
    · omega
    · omega

theorem roundedQuotient_near (numerator denominator : Nat) (positive : 0 < denominator) :
    2 * (roundedQuotient numerator denominator * denominator) ≤ 2 * numerator + denominator ∧
      2 * numerator ≤ 2 * (roundedQuotient numerator denominator * denominator) + denominator := by
  have parts := Nat.div_add_mod' numerator denominator
  have rest := Nat.mod_lt numerator positive
  unfold roundedQuotient
  simp only
  split
  · omega
  · split
    · rw [Nat.add_mul, Nat.one_mul]
      omega
    · rw [Nat.add_mul]
      rcases Nat.mod_two_eq_zero_or_one (numerator / denominator) with even | odd
      · rw [even]
        omega
      · rw [odd]
        omega

namespace Binary

theorem scaledQuotient_zero (denominator : Nat) (exponent : Int) :
    scaledQuotient 0 denominator exponent = 0 := by
  unfold scaledQuotient
  split
  · simp [roundedQuotient]
  · simp [roundedQuotient]

theorem scaledQuotient_neg (numerator denominator places : Nat) :
    scaledQuotient numerator denominator (-(places : Int))
      = roundedQuotient (numerator * 2 ^ places) denominator := by
  unfold scaledQuotient
  cases places with
  | zero => simp
  | succ places =>
    have below : ¬ 0 ≤ -((places + 1 : Nat) : Int) := by omega
    rw [if_neg below, Int.neg_neg, Int.toNat_natCast]
    rfl

theorem nearest_exponent_le (numerator places : Nat) (few : places ≤ 1074)
    (fits : numerator * 2 ^ places + 500000 < 2 ^ 53 * 1000000) :
    (nearest numerator 1000000).exponent ≤ -(places : Int) := by
  unfold nearest
  split
  · simp only [leastExponent]
    omega
  · next positive =>
    have least : leastExponent ≤ -(places : Int) := by
      simp only [leastExponent]
      omega
    have width : numerator.log2 + places < 73 := by
      rw [← Nat.pow_lt_pow_iff_right (by decide : 1 < 2), Nat.pow_add]
      have below := Nat.log2_self_le positive
      have product := Nat.mul_le_mul_right (2 ^ places) below
      omega
    have log : Nat.log2 1000000 = 19 := by decide
    have near : exponentOf numerator 1000000 ≤ -(places : Int) := by
      simp only [exponentOf, precision, log]
      omega
    simp only
    split
    · exact Int.max_le.mpr ⟨near, least⟩
    · next misfit =>
      rcases Int.lt_or_eq_of_le near with below | same
      · exact Int.max_le.mpr ⟨by omega, least⟩
      · have room := (roundedQuotient_near (numerator * 2 ^ places) 1000000 (by decide)).1
        rw [same, scaledQuotient_neg, decide_eq_true_eq] at misfit
        have bits : Nat.pow 2 precision = 2 ^ 53 := rfl
        rw [bits] at misfit
        omega

theorem nearest_significand (numerator denominator places : Nat)
    (exponent : (nearest numerator denominator).exponent = -(places : Int)) :
    (nearest numerator denominator).significand
      = roundedQuotient (numerator * 2 ^ places) denominator := by
  rw [← scaledQuotient_neg, ← exponent]
  unfold nearest
  split
  · next zero =>
    subst zero
    rw [scaledQuotient_zero]
  · rfl

theorem scaled_eq (fraction : Binary) (places digits : Nat)
    (exponent : fraction.exponent = -(places : Int)) (positive : 0 < places) :
    fraction.scaled digits = roundedQuotient (fraction.significand * 10 ^ digits) (2 ^ places) := by
  have below : ¬ 0 ≤ fraction.exponent := by omega
  have same : (-fraction.exponent).toNat = places := by omega
  rw [scaled, if_neg below, same]
  rfl

end Binary
end Decimal

namespace Firing

open Decimal Decimal.Binary

/-- From here on a delay in microseconds has more than 53 bits in seconds. -/
def finest : Int := 2 ^ 33 * Wall.second

theorem requested_cases (span : Nat) (least : Nat) (few : least ≤ 1074) (some : 0 < least)
    (fits : span * 2 ^ least + 500000 < 2 ^ 53 * 1000000) :
    ∃ places slept significand : Nat, least ≤ places ∧ requested span = slept ∧
      significand = roundedQuotient (span * 2 ^ places) 1000000 ∧
      slept = roundedQuotient (significand * 1000000) (2 ^ places) := by
  have exponent := nearest_exponent_le span least few fits
  obtain ⟨places, same⟩ : ∃ places : Nat, (nearest span 1000000).exponent = -(places : Int) :=
    ⟨(-(nearest span 1000000).exponent).toNat, by omega⟩
  refine ⟨places, _, _, by omega, ?_, rfl, rfl⟩
  have million : 10 ^ 6 = 1000000 := rfl
  rw [requested, seconds, Int.toNat_natCast, scaled_eq _ places 6 same (by omega),
    nearest_significand span 1000000 places same, million]

/-- Both roundings together: to a fraction in units of a second, and back to microseconds. -/
theorem requested_bounds (span : Nat) (least : Nat) (few : least ≤ 1074) (some : 0 < least)
    (fits : span * 2 ^ least + 500000 < 2 ^ 53 * 1000000) :
    ∃ slept unit : Nat, requested span = slept ∧ 2 ^ least ≤ unit ∧
      2 * (slept * unit) ≤ 2 * (span * unit) + (1000000 + unit) ∧
      2 * (span * unit) ≤ 2 * (slept * unit) + (1000000 + unit) := by
  obtain ⟨places, slept, significand, more, told, first, second⟩ :=
    requested_cases span least few some fits
  have firstNear := roundedQuotient_near (span * 2 ^ places) 1000000 (by decide)
  have secondNear := roundedQuotient_near (significand * 1000000) (2 ^ places) (Nat.two_pow_pos places)
  rw [← first] at firstNear
  rw [← second] at secondNear
  exact ⟨slept, 2 ^ places, told, Nat.pow_le_pow_right (by decide) more, by omega, by omega⟩

theorem requested_eq (delay : Int) (begun : 0 ≤ delay) (short : delay < finest) :
    requested delay = delay := by
  obtain ⟨span, rfl⟩ := Int.eq_ofNat_of_zero_le begun
  simp only [finest, Wall.second] at short
  obtain ⟨slept, unit, told, wide, above, below⟩ :=
    requested_bounds span 20 (by decide) (by decide) (by omega)
  rw [told]
  rcases Nat.lt_trichotomy slept span with less | same | greater
  · have product := Nat.mul_le_mul_right unit (Nat.succ_le_of_lt less)
    rw [Nat.succ_mul] at product
    omega
  · rw [same]
  · have product := Nat.mul_le_mul_right unit (Nat.succ_le_of_lt greater)
    rw [Nat.succ_mul] at product
    omega

theorem requested_near (delay : Int) (begun : 0 ≤ delay) (within : delay < Wall.limit) :
    requested delay ≤ delay + 31 ∧ delay ≤ requested delay + 31 := by
  obtain ⟨span, rfl⟩ := Int.eq_ofNat_of_zero_le begun
  have limit : Wall.limit = 315537897600000000 := by decide
  obtain ⟨slept, unit, told, wide, above, below⟩ :=
    requested_bounds span 14 (by decide) (by decide) (by omega)
  rw [told]
  constructor
  · by_contra far
    have product := Nat.mul_le_mul_right unit (by omega : span + 32 ≤ slept)
    rw [Nat.add_mul] at product
    omega
  · by_contra far
    have product := Nat.mul_le_mul_right unit (by omega : slept + 32 ≤ span)
    rw [Nat.add_mul] at product
    omega

theorem le_requested (delay : Int) (long : finest ≤ delay) (within : delay < Wall.limit) :
    finest ≤ requested delay := by
  simp only [finest, Wall.second] at long ⊢
  obtain ⟨span, rfl⟩ := Int.eq_ofNat_of_zero_le (by omega : 0 ≤ delay)
  have limit : Wall.limit = 315537897600000000 := by decide
  obtain ⟨places, slept, significand, least, told, first, second⟩ :=
    requested_cases span 14 (by decide) (by decide) (by omega)
  have firstNear := div_le_roundedQuotient (span * 2 ^ places) 1000000
  have secondNear := div_le_roundedQuotient (significand * 1000000) (2 ^ places)
  rw [← first] at firstNear
  rw [← second] at secondNear
  have unit := Nat.two_pow_pos places
  have bits : 2 ^ 33 * 2 ^ places ≤ significand := by
    refine Nat.le_trans ?_ firstNear
    rw [Nat.le_div_iff_mul_le (by decide), Nat.mul_right_comm]
    exact Nat.mul_le_mul_right _ (by omega)
  have reached : 2 ^ 33 * 1000000 ≤ slept := by
    refine Nat.le_trans ?_ secondNear
    rw [Nat.le_div_iff_mul_le unit, Nat.mul_right_comm]
    exact Nat.mul_le_mul_right _ bits
  rw [told]
  omega

/-- A sleep below the finest delay is as long as its delay, which then is below it too. -/
theorem eq_of_requested (delay : Int) (begun : 0 ≤ delay) (within : delay < Wall.limit)
    (short : requested delay < finest) : requested delay = delay := by
  apply requested_eq delay begun
  by_contra long
  have reached := le_requested delay (Int.not_lt.mp long) within
  omega

theorem requested_pos (delay : Int) (ahead : 0 < delay) (within : delay < Wall.limit) :
    0 < requested delay := by
  by_cases short : delay < finest
  · rw [requested_eq delay (Int.le_of_lt ahead) short]
    exact ahead
  · have long := le_requested delay (Int.not_lt.mp short) within
    have positive : 0 < finest := by decide
    omega

end Firing
end CronClock
