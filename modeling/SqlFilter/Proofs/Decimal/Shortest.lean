import Mathlib.Algebra.Order.Field.Power
import Mathlib.Tactic.Linarith
import Mathlib.Tactic.Ring
import SqlFilter.Decimal.Shortest

/-!
# The shortest digits of a double

The digits that a double is written with stand for a number that is rounded to that double. Seventeen of them suffice.
-/

set_option autoImplicit false

namespace SqlFilter.Decimal

def Scaled.value (d : Scaled) : ℚ :=
  d.digits * 10 ^ d.exponent

-- How far below a double the numbers begin that are rounded to it, in its steps: the steps below a power of two are
-- half as wide.
def reach (m : Nat) (q : Int) : ℚ :=
  if m = 2 ^ 52 ∧ -1074 < q then 1 / 4 else 1 / 2

-- A number is rounded to the nearest double. Halfway between two it is rounded to the one with an even last digit.
def RoundsTo (m : Nat) (q : Int) (value : ℚ) : Prop :=
  if m % 2 = 0 then (m - reach m q) * 2 ^ q ≤ value ∧ value ≤ (m + 1 / 2) * 2 ^ q
  else (m - reach m q) * 2 ^ q < value ∧ value < (m + 1 / 2) * 2 ^ q

theorem zero_rounds (q : Int) : RoundsTo 0 q 0 := by
  have step : (0 : ℚ) < 2 ^ q := by positivity
  have half : reach 0 q = 1 / 2 := if_neg fun narrow => absurd narrow.1 (by decide)
  rw [RoundsTo, if_pos rfl, half]
  constructor <;> push_cast <;> linarith

-- A power with its exponent split into a natural and the negative of one.
theorem pow_to_nat (base : ℚ) (nonzero : base ≠ 0) (z : Int) : base ^ z.toNat = base ^ z * base ^ (-z).toNat := by
  rcases Int.le_total 0 z with positive | negative
  · have none : (-z).toNat = 0 := by omega
    rw [none, pow_zero, mul_one, ← zpow_natCast, Int.toNat_of_nonneg positive]
  · have none : z.toNat = 0 := by omega
    rw [none, pow_zero, ← zpow_natCast base (-z).toNat, Int.toNat_of_nonneg (by omega), ← zpow_add₀ nonzero,
      add_neg_cancel, zpow_zero]

theorem value_shift (digits room : Nat) (exponent : Int) :
    (Scaled.mk (digits * 10 ^ room) exponent).value = (Scaled.mk digits (exponent + room)).value := by
  unfold Scaled.value
  push_cast
  rw [zpow_add₀ (by norm_num), zpow_natCast]
  ring

namespace Interval

theorem den_positive (m : Nat) (q : Int) : 0 < (around m q).den :=
  Nat.pow_pos (by decide)

-- A grid point times the denominator, as `against` compares it with the ends.
theorem against_value (i : Interval) (d : Scaled) :
    ((i.against d).1 : ℚ) = d.value * (i.den * (i.against d).2 : ℚ) := by
  have split := pow_to_nat 10 (by norm_num) d.exponent
  simp only [against, Nat.pow_eq, Nat.cast_mul, Nat.cast_pow, Nat.cast_ofNat, split, Scaled.value]
  ring

theorem against_positive (i : Interval) (d : Scaled) : 0 < (i.against d).2 :=
  Nat.pow_pos (by decide)

-- Quarters of a step over the denominator.
theorem quarters (m n : Nat) (q : Int) :
    ((n * Nat.pow 2 (q - 2).toNat : Nat) : ℚ) = (n / 4 : ℚ) * 2 ^ q * (around m q).den := by
  have split := pow_to_nat 2 (by norm_num) (q - 2)
  have flipped : -(q - 2) = 2 - q := by ring
  have quarter : (2 : ℚ) ^ (q - 2) = 2 ^ q / 4 := by
    rw [zpow_sub₀ (by norm_num)]
    norm_num
  rw [flipped, quarter] at split
  simp only [around, Nat.pow_eq, Nat.cast_mul, Nat.cast_pow, Nat.cast_ofNat, split]
  ring

theorem low_value (m : Nat) (q : Int) (positive : 0 < m) :
    ((around m q).low : ℚ) = (m - reach m q) * 2 ^ q * (around m q).den := by
  by_cases narrow : m = 2 ^ 52 ∧ -1074 < q
  · have low : (around m q).low = (4 * m - 1) * Nat.pow 2 (q - 2).toNat := by
      simp [around, narrow]
    have quarter : ((4 * m - 1 : Nat) : ℚ) / 4 = m - reach m q := by
      rw [reach, if_pos narrow, Nat.cast_sub (by omega)]
      push_cast
      ring
    rw [low, quarters m, quarter]
  · have low : (around m q).low = (4 * m - 2) * Nat.pow 2 (q - 2).toNat := by
      have wide : (decide (m = Nat.pow 2 52) && decide (-1074 < q)) = false := by
        simpa using narrow
      simp only [around, wide, Bool.false_eq_true, if_false]
    have half : ((4 * m - 2 : Nat) : ℚ) / 4 = m - reach m q := by
      rw [reach, if_neg narrow, Nat.cast_sub (by omega)]
      push_cast
      ring
    rw [low, quarters m, half]

theorem high_value (m : Nat) (q : Int) :
    ((around m q).high : ℚ) = (m + 1 / 2) * 2 ^ q * (around m q).den := by
  have half : ((4 * m + 2 : Nat) : ℚ) / 4 = m + 1 / 2 := by
    push_cast
    ring
  have high : (around m q).high = (4 * m + 2) * Nat.pow 2 (q - 2).toNat := rfl
  rw [high, quarters m, half]

theorem holds_iff (m : Nat) (q : Int) (positive : 0 < m) (d : Scaled) :
    (around m q).holds d = true ↔ RoundsTo m q d.value := by
  have scale : (0 : ℚ) < (around m q).den * ((around m q).against d).2 :=
    mul_pos (Nat.cast_pos.mpr (den_positive m q)) (Nat.cast_pos.mpr (against_positive _ d))
  have low : (((around m q).low * ((around m q).against d).2 : Nat) : ℚ) =
      (m - reach m q) * 2 ^ q * ((around m q).den * ((around m q).against d).2) := by
    rw [Nat.cast_mul, low_value m q positive, mul_assoc]
  have high : (((around m q).high * ((around m q).against d).2 : Nat) : ℚ) =
      (m + 1 / 2) * 2 ^ q * ((around m q).den * ((around m q).against d).2) := by
    rw [Nat.cast_mul, high_value, mul_assoc]
  have closed : (around m q).closed = decide (m % 2 = 0) := rfl
  unfold RoundsTo holds
  dsimp only
  rw [closed]
  by_cases even : m % 2 = 0
  · rw [if_pos (decide_eq_true even), if_pos even, Bool.and_eq_true, decide_eq_true_iff, decide_eq_true_iff,
      ← Nat.cast_le (α := ℚ), ← Nat.cast_le (α := ℚ), low, high, against_value, mul_le_mul_iff_left₀ scale,
      mul_le_mul_iff_left₀ scale]
  · rw [if_neg (by simpa using even), if_neg even, Bool.and_eq_true, decide_eq_true_iff, decide_eq_true_iff,
      ← Nat.cast_lt (α := ℚ), ← Nat.cast_lt (α := ℚ), low, high, against_value, mul_lt_mul_iff_left₀ scale,
      mul_lt_mul_iff_left₀ scale]

theorem value_value (m : Nat) (q : Int) : ((around m q).value : ℚ) = m * 2 ^ q * (around m q).den := by
  have whole : ((4 * m : Nat) : ℚ) / 4 = m := by
    push_cast
    ring
  have value : (around m q).value = 4 * m * Nat.pow 2 (q - 2).toNat := rfl
  rw [value, quarters m, whole]

theorem ten_power_le (n : Nat) (positive : 0 < n) : 10 ^ ((Nat.toDigits 10 n).length - 1) ≤ n := by
  by_cases short : (Nat.toDigits 10 n).length ≤ 1
  · rw [Nat.sub_eq_zero_of_le short]
    exact positive
  · apply Nat.not_lt.mp
    rw [← Nat.length_toDigits_le_iff (by decide) (by omega)]
    omega

-- The first digit of the double is not zero.
theorem ten_magnitude_le (i : Interval) (den : 0 < i.den) (value : 0 < i.value) :
    (10 : ℚ) ^ i.magnitude * i.den ≤ i.value := by
  have denominator : (0 : ℚ) < i.den := Nat.cast_pos.mpr den
  unfold magnitude
  by_cases large : i.den ≤ i.value
  · have digits := ten_power_le (i.value / i.den) (Nat.div_pos large den)
    have bound := (Nat.mul_le_mul_right i.den digits).trans (Nat.div_mul_le_self i.value i.den)
    have exponent : ((Nat.toDigits 10 (i.value / i.den)).length : Int) - 1 =
        ((Nat.toDigits 10 (i.value / i.den)).length - 1 : Nat) := by
      have present : 0 < (Nat.toDigits 10 (i.value / i.den)).length := Nat.length_toDigits_pos
      omega
    rw [if_pos large, exponent, zpow_natCast]
    exact_mod_cast bound
  · have digits : (i.den - 1) / i.value < 10 ^ (Nat.toDigits 10 ((i.den - 1) / i.value)).length :=
      (Nat.length_toDigits_le_iff (by decide) Nat.length_toDigits_pos).mp le_rfl
    have bound : i.den ≤ i.value * 10 ^ (Nat.toDigits 10 ((i.den - 1) / i.value)).length := by
      have less := (Nat.div_lt_iff_lt_mul value).mp digits
      rw [Nat.mul_comm] at less
      omega
    have power : (0 : ℚ) < 10 ^ (Nat.toDigits 10 ((i.den - 1) / i.value)).length := by positivity
    rw [if_neg large, zpow_neg, zpow_natCast, inv_mul_le_iff₀ power, mul_comm]
    exact_mod_cast bound

-- The double lies between two neighbours on every grid.
theorem below_neighbours (i : Interval) (den : 0 < i.den) (exponent : Int) :
    (i.below exponent).value * i.den ≤ i.value ∧
      (i.value : ℚ) < ((i.below exponent).value + 10 ^ exponent) * i.den := by
  have split := pow_to_nat 10 (by norm_num) exponent
  have factor : (0 : ℚ) < 10 ^ (-exponent).toNat := by positivity
  have unit : 0 < i.den * 10 ^ exponent.toNat := Nat.mul_pos den (Nat.pow_pos (by decide))
  have under := Nat.div_mul_le_self (i.value * 10 ^ (-exponent).toNat) (i.den * 10 ^ exponent.toNat)
  have past := Nat.lt_div_mul_add (a := i.value * 10 ^ (-exponent).toNat) unit
  rw [← Nat.cast_le (α := ℚ)] at under
  rw [← Nat.cast_lt (α := ℚ)] at past
  simp only [Nat.cast_mul, Nat.cast_pow, Nat.cast_ofNat, Nat.cast_add, split] at under past
  simp only [below, Nat.pow_eq, Scaled.value]
  constructor
  · apply le_of_mul_le_mul_right _ factor
    linarith
  · apply lt_of_mul_lt_mul_right _ factor.le
    linarith

theorem on_grid_holds {i : Interval} {tie : Tie} {exponent : Int} {d : Scaled}
    (found : i.onGrid tie exponent = some d) : i.holds d = true := by
  unfold onGrid at found
  dsimp only at found
  split at found
  · cases found
  · cases found
    assumption
  · cases found
    assumption
  · split at found
    · cases found
      assumption
    · split at found
      · cases found
        assumption
      · cases tie <;> cases found
        · assumption
        · split <;> assumption

theorem on_grid_none {i : Interval} {tie : Tie} {exponent : Int} (missing : i.onGrid tie exponent = none) :
    i.holds (i.below exponent) = false ∧
      i.holds { i.below exponent with digits := (i.below exponent).digits + 1 } = false := by
  unfold onGrid at missing
  dsimp only at missing
  split at missing
  · exact ⟨by assumption, by assumption⟩
  · cases missing
  · cases missing
  · split at missing
    · cases missing
    · split at missing
      · cases missing
      · cases tie <;> cases missing

end Interval

-- Of two numbers around a double that are closer to each other than those that are rounded to it reach, one is.
theorem one_rounds {m : Nat} {q : Int} {low high : ℚ} (under : low ≤ m * 2 ^ q) (past : m * 2 ^ q < high)
    (close : high - low < (1 / 2 + reach m q) * 2 ^ q) : RoundsTo m q low ∨ RoundsTo m q high := by
  have step : (0 : ℚ) < 2 ^ q := by positivity
  have down : 0 < reach m q * 2 ^ q := by
    apply mul_pos _ step
    unfold reach
    split <;> norm_num
  unfold RoundsTo
  by_contra neither
  rw [not_or] at neither
  split at neither
  · have lower : low < (m - reach m q) * 2 ^ q := by
      by_contra reached
      exact neither.1 ⟨not_lt.mp reached, by linarith⟩
    have upper : (m + 1 / 2) * 2 ^ q < high := by
      by_contra reached
      exact neither.2 ⟨by linarith, not_lt.mp reached⟩
    linarith
  · have lower : low ≤ (m - reach m q) * 2 ^ q := by
      by_contra reached
      exact neither.1 ⟨not_le.mp reached, by linarith⟩
    have upper : (m + 1 / 2) * 2 ^ q ≤ high := by
      by_contra reached
      exact neither.2 ⟨by linarith, not_le.mp reached⟩
    linarith

theorem rounds_positive {m : Nat} {q : Int} {value : ℚ} (positive : 0 < m) (rounds : RoundsTo m q value) :
    0 < value := by
  have step : (0 : ℚ) < 2 ^ q := by positivity
  have least : (1 : ℚ) ≤ m := Nat.one_le_cast.mpr positive
  have down : reach m q ≤ 1 / 2 := by
    unfold reach
    split <;> norm_num
  have low : 0 < (m - reach m q) * 2 ^ q := mul_pos (by linarith) step
  unfold RoundsTo at rounds
  split at rounds
  · exact low.trans_le rounds.1
  · exact low.trans rounds.1

-- Seventeen digits suffice: their grid is finer than the doubles.
theorem seventeen_suffice (tie : Tie) (m : Nat) (q : Int) (positive : 0 < m) (bounded : m < 2 ^ 53) :
    (Interval.around m q).onGrid tie ((Interval.around m q).magnitude - 16) ≠ none := by
  intro missing
  obtain ⟨noLower, noUpper⟩ := Interval.on_grid_none missing
  have den := Interval.den_positive m q
  have denominator : (0 : ℚ) < (Interval.around m q).den := Nat.cast_pos.mpr den
  have step : (0 : ℚ) < 2 ^ q := by positivity
  have value := Interval.value_value m q
  have least : 0 < (Interval.around m q).value :=
    Nat.mul_pos (Nat.mul_pos (by decide) positive) (Nat.pow_pos (by decide))
  have first := Interval.ten_magnitude_le (Interval.around m q) den least
  obtain ⟨under, past⟩ := Interval.below_neighbours (Interval.around m q) den ((Interval.around m q).magnitude - 16)
  rw [value, mul_le_mul_iff_left₀ denominator] at first under
  rw [value, mul_lt_mul_iff_left₀ denominator] at past
  set lower := (Interval.around m q).below ((Interval.around m q).magnitude - 16) with lowerDef
  have upper : (Scaled.mk (lower.digits + 1) lower.exponent).value =
      lower.value + 10 ^ ((Interval.around m q).magnitude - 16) := by
    simp only [Scaled.value, lowerDef, Interval.below]
    push_cast
    ring
  have grid : (10 : ℚ) ^ (Interval.around m q).magnitude = 10 ^ 16 * 10 ^ ((Interval.around m q).magnitude - 16) := by
    rw [zpow_sub₀ (by norm_num)]
    norm_num
    ring
  have close : (10 : ℚ) ^ ((Interval.around m q).magnitude - 16) < (1 / 2 + reach m q) * 2 ^ q := by
    by_contra coarse
    have many : 10 ^ 16 * ((1 / 2 + reach m q) * 2 ^ q) ≤ m * 2 ^ q := by
      rw [grid] at first
      linarith [not_lt.mp coarse]
    have few : (10 : ℚ) ^ 16 * (1 / 2 + reach m q) ≤ m := by
      apply le_of_mul_le_mul_right _ step
      linarith
    unfold reach at few
    split at few
    · rename_i narrow
      rw [narrow.1] at few
      norm_num at few
    · have limit : (m : ℚ) < 2 ^ 53 := by exact_mod_cast bounded
      norm_num at few limit
      linarith
  rcases one_rounds under past (by linarith) with rounds | rounds
  · rw [← Interval.holds_iff m q positive] at rounds
    rw [rounds] at noLower
    cases noLower
  · rw [← upper, ← Interval.holds_iff m q positive] at rounds
    rw [rounds] at noUpper
    cases noUpper

theorem strip_value (room : Nat) (d : Scaled) : (d.strip room).value = d.value := by
  induction room generalizing d with
  | zero => rfl
  | succ room ih =>
      rw [Scaled.strip]
      split
      · rename_i zero
        have digits : d.digits = d.digits / 10 * 10 ^ 1 := by omega
        have shifted := value_shift (d.digits / 10) 1 d.exponent
        rw [← digits] at shifted
        rw [ih]
        exact shifted.symm
      · rfl

-- The decimal that is written is rounded to the double again.
theorem shortest_rounds (tie : Tie) (m : Nat) (q : Int) (positive : 0 < m) (bounded : m < 2 ^ 53) :
    RoundsTo m q (shortest tie m q).value := by
  unfold shortest
  dsimp only
  rw [strip_value]
  cases found : (List.range 17).findSome? fun (n : Nat) =>
      (Interval.around m q).onGrid tie ((Interval.around m q).magnitude - n) with
  | none =>
      have missing := List.findSome?_eq_none_iff.mp found 16 (by decide)
      exact absurd missing (seventeen_suffice tie m q positive bounded)
  | some d =>
      obtain ⟨n, _, grid⟩ := List.exists_of_findSome?_eq_some found
      rw [Option.getD_some, ← Interval.holds_iff m q positive]
      exact Interval.on_grid_holds grid

end SqlFilter.Decimal
