import Mathlib.Algebra.Order.Ring.Int
import Mathlib.Tactic.Linarith
import Mathlib.Tactic.Ring
import YieldPool.Reward.Accrual

/-!
# Bounds on what accrues

The ratio is rounded down, so all shares together are paid at most the reward rate in a period (`ratio_mul_le`), and it
is zero exactly in an empty pool and in one so large that a share earns less than one scaled unit
(`ratio_eq_zero_iff`). Rounding an accrued reward down costs less than one unit.
-/

namespace YieldPool.Reward

theorem precision_pos : 0 < precision := by decide

/-- A ratio of what is not negative is not negative. -/
theorem ratio_nonneg {rewardRate totalShares : Int} (hr : 0 ≤ rewardRate) (ht : 0 ≤ totalShares) :
    0 ≤ ratio rewardRate totalShares := by
  unfold ratio
  split
  · exact Int.le_refl 0
  · exact Int.ediv_nonneg (Int.mul_nonneg hr (Int.le_of_lt precision_pos)) ht

/-- All shares together earn at most the reward rate in one period. -/
theorem ratio_mul_le {rewardRate totalShares : Int} (hr : 0 ≤ rewardRate) :
    ratio rewardRate totalShares * totalShares ≤ rewardRate * precision := by
  unfold ratio
  split
  · rename_i h
    rw [h, Int.mul_zero]
    exact Int.mul_nonneg hr (Int.le_of_lt precision_pos)
  · rename_i h
    exact Int.ediv_mul_le _ h

/-- A share of fewer earns no less. -/
theorem ratio_anti {rewardRate totalShares larger : Int} (hr : 0 ≤ rewardRate) (ht : 0 < totalShares)
    (le : totalShares ≤ larger) : ratio rewardRate larger ≤ ratio rewardRate totalShares := by
  have some : ratio rewardRate totalShares = rewardRate * precision / totalShares := if_neg (Int.ne_of_gt ht)
  have nonneg : 0 ≤ ratio rewardRate larger := ratio_nonneg hr (by omega)
  rw [some, Int.le_ediv_iff_mul_le ht]
  exact Int.le_trans (Int.mul_le_mul_of_nonneg_left le nonneg) (ratio_mul_le hr)

/-- A share earns at most the whole scaled rate in one period. -/
theorem ratio_le {rewardRate : Int} (hr : 0 ≤ rewardRate) (totalShares : Int) :
    ratio rewardRate totalShares ≤ rewardRate * precision := by
  unfold ratio
  split
  · exact Int.mul_nonneg hr (Int.le_of_lt precision_pos)
  · exact Int.ediv_le_self _ (Int.mul_nonneg hr (Int.le_of_lt precision_pos))

@[simp] theorem ratio_zero (rewardRate : Int) : ratio rewardRate 0 = 0 := rfl

/-- The ratio is zero exactly in an empty pool and where the total exceeds the scaled rate. -/
theorem ratio_eq_zero_iff {rewardRate totalShares : Int} (hr : 0 ≤ rewardRate) (ht : 0 ≤ totalShares) :
    ratio rewardRate totalShares = 0 ↔ totalShares = 0 ∨ rewardRate * precision < totalShares := by
  have scaled : 0 ≤ rewardRate * precision := Int.mul_nonneg hr (Int.le_of_lt precision_pos)
  unfold ratio
  split
  · rename_i h
    simp [h]
  · rename_i h
    have pos : 0 < totalShares := by omega
    constructor
    · intro e
      refine Or.inr (Int.not_le.mp fun le => ?_)
      have : 1 ≤ rewardRate * precision / totalShares := (Int.le_ediv_iff_mul_le pos).mpr (by omega)
      omega
    · rintro (e | lt)
      · exact absurd e h
      · exact Int.ediv_eq_zero_of_lt scaled lt

/-- A pool that is not empty and pays nothing pays nothing either when it grows. -/
theorem ratio_eq_zero_of_le {rewardRate totalShares larger : Int} (hr : 0 ≤ rewardRate) (ht : 0 < totalShares)
    (h : ratio rewardRate totalShares = 0) (le : totalShares ≤ larger) : ratio rewardRate larger = 0 := by
  rcases (ratio_eq_zero_iff hr (Int.le_of_lt ht)).mp h with e | lt
  · omega
  · exact (ratio_eq_zero_iff hr (by omega)).mpr (Or.inr (by omega))

/-- The accumulator rises by the ratio in every period. -/
theorem accumulator_later (ratio delay later compensation : Int) :
    accumulator ratio later compensation = accumulator ratio delay compensation + ratio * (later - delay) := by
  unfold accumulator
  ring

/-- Rounding down never credits more than was earned. -/
theorem accrued_mul_le (ratio delay compensation shares : Int) :
    accrued ratio delay compensation shares * precision ≤ accumulator ratio delay compensation * shares :=
  Int.ediv_mul_le _ (Int.ne_of_gt precision_pos)

/-- Rounding down withholds less than one unit. -/
theorem lt_accrued_add_one_mul (ratio delay compensation shares : Int) :
    accumulator ratio delay compensation * shares < (accrued ratio delay compensation shares + 1) * precision :=
  Int.lt_ediv_add_one_mul_self _ precision_pos

end YieldPool.Reward
