import YieldPool.Proofs.Reward.History

/-!
# What a move does to the others

A move is meant to leave alone what the shares of everybody else have been credited with. It does so through both
corrections of the compensation, except where the shares of the others have a ratio of zero although they are not none:
there the compensation is reset as if the pool were empty, and whatever it stood for is lost to the others
(`Reached.credited_iff`).
-/

namespace YieldPool.Reward

open PoolState Journal

/-- What a number of shares of a pool has been credited with after a number of periods. -/
def PoolState.credited (p : PoolState) (rewardRate delay shares : Int) : Int :=
  accrued (ratio rewardRate p.totalShares) delay p.compensation shares

/-- Less than one unit rounds down to nothing. -/
theorem ediv_precision_eq_zero_iff {n : Int} (nonneg : 0 ≤ n) : n / precision = 0 ↔ n < precision := by
  constructor
  · intro zero
    have below := Int.lt_ediv_add_one_mul_self n precision_pos
    rwa [zero, Int.zero_add, Int.one_mul] at below
  · exact Int.ediv_eq_zero_of_lt nonneg

namespace Reached

variable {rewardRate : Int} {p next : PoolState} {log : List Entry} {m : Move} {r : Rebalanced}

/-- Who does not move holds some of the shares that are not the mover's. -/
theorem shares_between (h : Reached rewardRate p log) {other who : Text} (ne : other ≠ who) :
    0 ≤ (p.holding other).shares ∧
      (p.holding other).shares ≤ p.totalShares - (p.holding who).shares := by
  have held := (elim_find?_holding p who (f := Holding.shares) rfl).symm
  have erased := Table.sum_erase p.holdings Holding.shares who
  have nonneg : 0 ≤ (p.holdings.erase who).sum Holding.shares :=
    Table.sum_nonneg fun b hb => (h.holdings_nonneg b (Table.mem_erase_rows.mp hb).1).1
  rw [h.sum_shares, ← held] at erased
  cases e : p.holdings.find? other with
  | none =>
    rw [holding, e]
    exact ⟨Int.le_refl 0, show (0 : Int) ≤ _ by omega⟩
  | some a =>
    rw [show p.holding other = a by rw [holding, e]; rfl]
    obtain ⟨ha, rfl⟩ := Table.find?_eq_some_iff.mp e
    exact ⟨(h.holdings_nonneg a ha).1, h.shares_le_detached who a (Table.mem_erase_rows.mpr ⟨ha, ne⟩)⟩

/-- A move leaves what another's shares have been credited with exactly when the others' shares do not outweigh the
scaled reward rate, or the compensation has not yet credited those shares with a unit. -/
theorem credited_iff (h : Reached rewardRate p log) (latest : Until log m.delay)
    (accepted : p.attempt rewardRate m = .ok (next, r)) {other : Text} (ne : other ≠ m.who) :
    next.credited rewardRate m.delay (p.holding other).shares =
        p.credited rewardRate m.delay (p.holding other).shares ↔
      ¬(rewardRate * precision < p.totalShares - (p.holding m.who).shares ∧
        precision ≤ p.compensation * (p.holding other).shares) := by
  obtain ⟨admissible, rfl, rfl⟩ := attempt_eq_ok_iff.mp accepted
  have rate : 0 ≤ rewardRate := admissible.rewardRate_fits.1
  have detached : 0 ≤ (p.cycle rewardRate m).detachedTotal := admissible.detachedTotal_fits.1
  obtain ⟨nonneg, held⟩ := h.shares_between ne
  show (p.cycle rewardRate m).nextAccumulated * _ / precision =
    (p.cycle rewardRate m).accumulated * _ / precision ↔ _
  by_cases zero : (p.cycle rewardRate m).detachedRatio = 0
  · rw [Cycle.nextAccumulated_of_eq_zero zero]
    rcases (ratio_eq_zero_iff rate detached).mp zero with empty | outweighed
    · have none : (p.holding other).shares = 0 := Int.le_antisymm (empty ▸ held) nonneg
      have scaled : 0 ≤ rewardRate * precision := Int.mul_nonneg rate (Int.le_of_lt precision_pos)
      rw [none, Int.mul_zero, Int.mul_zero, show p.totalShares - (p.holding m.who).shares = 0 from empty]
      exact iff_of_true rfl fun lost => Int.not_lt.mpr scaled lost.1
    · have positive : 0 < (p.cycle rewardRate m).detachedTotal :=
        Int.lt_of_le_of_lt (Int.mul_nonneg rate (Int.le_of_lt precision_pos)) outweighed
      have next_zero : (p.cycle rewardRate m).nextRatio = 0 :=
        ratio_eq_zero_of_le rate positive zero (Int.le_add_of_nonneg_right admissible.nextShares_fits.1)
      have zero_before : ratio rewardRate p.totalShares = 0 :=
        ratio_eq_zero_of_le rate positive zero (Int.sub_le_self _ admissible.shares_fits.1)
      have compensated : (p.cycle rewardRate m).accumulated = p.compensation := by
        show ratio rewardRate p.totalShares * m.delay + p.compensation = p.compensation
        rw [zero_before, Int.zero_mul, Int.zero_add]
      have credited : 0 ≤ p.compensation * (p.holding other).shares := by
        rw [← compensated]
        exact Int.mul_nonneg (h.accumulator_nonneg rate admissible.delay_fits.1 latest) nonneg
      rw [next_zero, Int.zero_mul, Int.zero_mul, Int.zero_ediv, compensated, eq_comm,
        ediv_precision_eq_zero_iff credited, ← Int.not_le]
      exact not_congr (and_iff_right outweighed).symm
  · rw [Cycle.nextAccumulated_of_ne_zero zero]
    exact iff_of_true rfl fun lost => zero ((ratio_eq_zero_iff rate detached).mpr (Or.inr lost.1))

end Reached

/-- After any timely history, a further successful move leaves what another participant's shares have been credited with
exactly when the shares of all others do not exceed the reward rate scaled by `precision`, or the compensation of the
pool is worth less than one unit to that participant. -/
theorem credited_to_others_iff {rewardRate : Int} {moves : List Move} (timely : Timely rewardRate moves) {m : Move}
    (latest : Until (empty.journal rewardRate moves) m.delay) {next : PoolState} {r : Rebalanced}
    (accepted : (empty.run rewardRate moves).attempt rewardRate m = .ok (next, r)) {other : Text}
    (ne : other ≠ m.who) :
    next.credited rewardRate m.delay ((empty.run rewardRate moves).holding other).shares =
        (empty.run rewardRate moves).credited rewardRate m.delay ((empty.run rewardRate moves).holding other).shares ↔
      ¬(rewardRate * precision <
          (empty.run rewardRate moves).totalShares - ((empty.run rewardRate moves).holding m.who).shares ∧
        precision ≤
          (empty.run rewardRate moves).compensation * ((empty.run rewardRate moves).holding other).shares) :=
  (reached_run timely).credited_iff latest accepted ne

/-- One share and, ten periods later, so many that a rate of one no longer pays a scaled unit a share. -/
def outweighed : List Move := [⟨"a", some 1, 0⟩, ⟨"b", some (2 * 10 ^ 18), 10⟩]

/-- The pool after the harvest of the single share. -/
def harvestedOutweighed : PoolState :=
  ⟨2 * 10 ^ 18 + 1, 0, ⟨[⟨"a", 1, 0⟩, ⟨"b", 2 * 10 ^ 18, 2 * 10 ^ 19⟩], by decide⟩⟩

/-- The shares of the other outweigh the scaled rate, the compensation is worth far more than a unit to them, and so the
harvest changes what they have been credited with: it was `2 * 10 ^ 19` and is nothing. -/
theorem credited_to_others_iff_outweighed :
    (empty.run 1 outweighed).totalShares - ((empty.run 1 outweighed).holding "a").shares = 2 * 10 ^ 18 ∧
      (empty.run 1 outweighed).compensation * ((empty.run 1 outweighed).holding "b").shares = 2 * 10 ^ 37 ∧
      (empty.run 1 outweighed).credited 1 10 ((empty.run 1 outweighed).holding "b").shares = 2 * 10 ^ 19 ∧
      harvestedOutweighed.credited 1 10 ((empty.run 1 outweighed).holding "b").shares = 0 ∧
      (harvestedOutweighed.credited 1 10 ((empty.run 1 outweighed).holding "b").shares =
          (empty.run 1 outweighed).credited 1 10 ((empty.run 1 outweighed).holding "b").shares ↔
        ¬(1 * precision < (empty.run 1 outweighed).totalShares - ((empty.run 1 outweighed).holding "a").shares ∧
          precision ≤ (empty.run 1 outweighed).compensation * ((empty.run 1 outweighed).holding "b").shares)) :=
  ⟨by decide +kernel, by decide +kernel, by decide +kernel, by decide +kernel,
    credited_to_others_iff (m := ⟨"a", none, 10⟩) (r := ⟨10, ⟨1, 0, 0⟩, 2 * 10 ^ 18 + 1⟩) (by decide +kernel)
      (by decide +kernel) (by decide +kernel) (by decide)⟩

/-- The harvest of the single share takes from the other all that its shares had been credited with. -/
theorem credited_to_others_lost :
    Timely 1 outweighed ∧ Until (empty.journal 1 outweighed) 10 ∧
      (∃ r, (empty.run 1 outweighed).attempt 1 ⟨"a", none, 10⟩ = .ok (harvestedOutweighed, r)) ∧
      (empty.run 1 outweighed).credited 1 10 ((empty.run 1 outweighed).holding "b").shares = 2 * 10 ^ 19 ∧
      harvestedOutweighed.credited 1 10 ((empty.run 1 outweighed).holding "b").shares = 0 := by
  refine ⟨by decide +kernel, by decide +kernel, ⟨⟨10, ⟨1, 0, 0⟩, 2 * 10 ^ 18 + 1⟩, by decide +kernel⟩, ?_, ?_⟩
  · decide +kernel
  · decide +kernel

end YieldPool.Reward
