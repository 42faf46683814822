import YieldPool.Proofs.Reward.Coverage

/-!
# Claiming and leaving

Between the settlement of a cycle and its deposit the participant's shares are out of the total, and the compensation is
the one that the rest of the pool needs. Where a settlement succeeds, that number alone decides: if it fits its width,
the participant can claim and can leave, and is paid what was settled (`Cycle.harvesting_admissible`,
`Cycle.leaving_admissible`); if it does not, every cycle of the participant is refused because of it
(`Cycle.rebalance_of_unfit`). It is never too great (`Cycle.detachedCompensation_le`), and not too small as long as the
pool has not released more than the width holds (`settled_claims_and_leaves`).
-/

namespace YieldPool.Reward

open PoolState Journal

namespace Cycle

variable {c : Cycle} {settled : Position}

/-- A settlement that succeeds leaves as debt what is due. -/
theorem settled_debt (settles : settle c.settlement = .ok settled) : settled.debt = c.due := by
  obtain ⟨-, -, -, rfl⟩ := settle_settlement.mp settles
  rfl

/-- Taking shares out never makes the compensation greater than it was, or than nothing. -/
theorem detachedCompensation_le (settles : settle c.settlement = .ok settled) (le : c.shares ≤ c.totalShares) :
    c.detachedCompensation ≤ max 0 c.compensation := by
  obtain ⟨fits, -⟩ := settle_settlement.mp settles
  have rate : 0 ≤ c.rewardRate := fits.rewardRate.1
  have others : 0 ≤ c.detachedTotal := Int.sub_nonneg_of_le le
  unfold detachedCompensation
  split
  · exact Int.le_max_left 0 _
  · rename_i paid
    have some : c.detachedTotal ≠ 0 := fun empty => paid (by rw [detachedRatio, empty, ratio_zero])
    have own : 0 ≤ c.shares := fits.shares.1
    have larger : c.detachedTotal ≤ c.totalShares := Int.sub_le_self _ own
    have slower : ratio c.rewardRate c.totalShares ≤ c.detachedRatio := ratio_anti rate (by omega) larger
    have less : ratio c.rewardRate c.totalShares * c.delay ≤ c.detachedRatio * c.delay :=
      Int.mul_le_mul_of_nonneg_right slower fits.delay.1
    unfold accumulated accumulator
    omega

/-- The compensation without the participant's shares fits unless it is too small. -/
theorem detachedCompensation_fits_iff (settles : settle c.settlement = .ok settled) (le : c.shares ≤ c.totalShares) :
    Width.i128.Fits c.detachedCompensation ↔ Width.i128.least ≤ c.detachedCompensation := by
  obtain ⟨fits, -⟩ := settle_settlement.mp settles
  have above := detachedCompensation_le settles le
  have greatest : c.compensation ≤ Width.i128.greatest := fits.compensation.2
  have zero : 0 ≤ Width.i128.greatest := by decide
  exact ⟨fun h => h.1, fun h => ⟨h, by omega⟩⟩

/-- After a settlement that succeeds, a cycle does too if all that follows fits. -/
theorem admissible_of_settled (settles : settle c.settlement = .ok settled) (le : c.shares ≤ c.totalShares)
    (detached : Width.i128.Fits c.detachedCompensation) (shares : Width.u64.Fits c.nextShares)
    (total : Width.u64.Fits c.nextTotal) (compensation : Width.i128.Fits c.nextCompensation)
    (debt : Width.u128.Fits c.nextDebt) : c.Admissible := by
  obtain ⟨fits, dueFits, debtLe, -⟩ := settle_settlement.mp settles
  exact ⟨fits.shares, fits.debt, fits.compensation, fits.delay, fits.rewardRate, fits.currentTotal, shares, total, le,
    debtLe, dueFits, detached, compensation, debt⟩

/-- What shares earn in a pool that starts anew fits a debt. -/
theorem accrued_anew_fits (fits : c.settlement.Fits) (le : c.shares ≤ c.totalShares) :
    Width.u128.Fits (accrued (ratio c.rewardRate c.totalShares) c.delay 0 c.shares) := by
  have rate : 0 ≤ c.rewardRate := fits.rewardRate.1
  have time : 0 ≤ c.delay := fits.delay.1
  have own : 0 ≤ c.shares := fits.shares.1
  have speed : 0 ≤ ratio c.rewardRate c.totalShares := ratio_nonneg rate (Int.le_trans own le)
  have earned : accumulator (ratio c.rewardRate c.totalShares) c.delay 0 * c.shares ≤
      c.rewardRate * c.delay * precision :=
    calc accumulator (ratio c.rewardRate c.totalShares) c.delay 0 * c.shares
        = c.delay * (ratio c.rewardRate c.totalShares * c.shares) := by
          unfold accumulator
          ring
      _ ≤ c.delay * (ratio c.rewardRate c.totalShares * c.totalShares) :=
        Int.mul_le_mul_of_nonneg_left (Int.mul_le_mul_of_nonneg_left le speed) time
      _ ≤ c.delay * (c.rewardRate * precision) := Int.mul_le_mul_of_nonneg_left (ratio_mul_le rate) time
      _ = c.rewardRate * c.delay * precision := by ring
  have released : c.rewardRate * c.delay ≤ Width.u64.greatest * Width.u64.greatest :=
    Int.mul_le_mul fits.rewardRate.2 fits.delay.2 time (by decide)
  have wide : Width.u64.greatest * Width.u64.greatest ≤ Width.u128.greatest := by decide
  constructor
  · refine Int.ediv_nonneg (Int.mul_nonneg ?_ own) (Int.le_of_lt precision_pos)
    rw [accumulator, Int.add_zero]
    exact Int.mul_nonneg speed time
  · have debt := Int.ediv_le_ediv precision_pos earned
    rw [Int.mul_ediv_cancel _ (Int.ne_of_gt precision_pos)] at debt
    exact Int.le_trans debt (Int.le_trans released wide)

/-- Whoever can be settled can claim, if the compensation without the claiming shares fits. The compensation is then as
before, unless the others' shares earn nothing and the pool starts anew. -/
theorem harvesting_admissible (settles : settle c.settlement = .ok settled) (le : c.shares ≤ c.totalShares)
    (detached : Width.i128.Fits c.detachedCompensation) : c.harvesting.Admissible := by
  obtain ⟨fits, dueFits, -⟩ := settle_settlement.mp settles
  have total : c.harvesting.nextTotal = c.totalShares := Int.sub_add_cancel c.totalShares c.shares
  have speed : c.harvesting.nextRatio = ratio c.rewardRate c.totalShares := by
    rw [nextRatio, total]
    rfl
  have after : c.harvesting.nextCompensation = 0 ∨ c.harvesting.nextCompensation = c.compensation := by
    unfold nextCompensation
    split
    · exact Or.inl rfl
    · rw [speed]
      exact Or.inr (add_sub_cancel_left _ _)
  have debt : Width.u128.Fits c.harvesting.nextDebt := by
    rw [nextDebt, speed]
    rcases after with anew | same
    · rw [anew]
      exact accrued_anew_fits fits le
    · rw [same]
      exact dueFits
  have compensation : Width.i128.Fits c.harvesting.nextCompensation := by
    rcases after with anew | same
    · rw [anew]
      decide
    · rw [same]
      exact fits.compensation
  exact admissible_of_settled settles le detached fits.shares (total ▸ fits.currentTotal) compensation debt

/-- Whoever can be settled can leave, if the compensation without the leaving shares fits. -/
theorem leaving_admissible (settles : settle c.settlement = .ok settled) (le : c.shares ≤ c.totalShares)
    (detached : Width.i128.Fits c.detachedCompensation) (leaves : c.nextShares = 0) : c.Admissible := by
  obtain ⟨fits, -⟩ := settle_settlement.mp settles
  have total : c.nextTotal = c.detachedTotal := by
    rw [nextTotal, leaves, Int.add_zero]
  have others : Width.u64.Fits c.detachedTotal :=
    ⟨Int.sub_nonneg_of_le le, Int.le_trans (Int.sub_le_self _ fits.shares.1) fits.currentTotal.2⟩
  have compensation : c.nextCompensation = c.detachedCompensation := by
    rw [nextCompensation, detachedCompensation, nextRatio, total]
    rfl
  have debt : c.nextDebt = 0 := nextDebt_of_leaves leaves
  refine admissible_of_settled settles le detached ?_ (total ▸ others) (compensation ▸ detached) ?_
  · rw [leaves]
    decide
  · rw [debt]
    decide

/-- A withdrawal is refused because of the compensation that it would leave, if nothing else is wrong. -/
theorem withdraw_of_unfit (settles : settle c.settlement = .ok settled) (le : c.shares ≤ c.totalShares)
    (unfit : ¬Width.i128.Fits c.detachedCompensation) :
    withdraw (c.withdrawal c.settled) = .error (.unfit "compensation" .i128 c.detachedCompensation) := by
  obtain ⟨fits, dueFits, -⟩ := settle_settlement.mp settles
  have fewer : c.detachedTotal ≤ c.totalShares := Int.sub_le_self _ fits.shares.1
  have others : Width.u64.Fits c.detachedTotal :=
    ⟨Int.sub_nonneg_of_le le, Int.le_trans fewer fits.currentTotal.2⟩
  have read : (c.withdrawal c.settled).check = .ok () := Step.check_eq_ok_iff.mpr
    ⟨fits.shares, dueFits, fits.compensation, fits.delay, fits.rewardRate, fits.currentTotal, others⟩
  refine bind_eq_error_iff.mpr (Or.inr ⟨(), read, ?_⟩)
  refine bind_eq_error_iff.mpr (Or.inr ⟨(), require_eq_ok_iff.mpr fewer, ?_⟩)
  refine bind_eq_error_iff.mpr (Or.inr ⟨c.due, Width.check_eq_ok_iff.mpr ⟨dueFits, rfl⟩, ?_⟩)
  refine bind_eq_error_iff.mpr (Or.inr ⟨(), require_eq_ok_iff.mpr rfl, ?_⟩)
  refine bind_eq_error_iff.mpr (Or.inl ?_)
  rw [withdrawnCompensation_settled, Width.check_eq_error_iff]
  exact ⟨unfit, rfl⟩

/-- Whatever number of shares is wanted, nothing but the compensation without the participant's own can stand in the way
before they are put in. -/
theorem rebalance_of_unfit (settles : settle c.settlement = .ok settled) (le : c.shares ≤ c.totalShares)
    (next : Width.u64.Fits c.nextShares) (unfit : ¬Width.i128.Fits c.detachedCompensation) :
    rebalance c = .error (.unfit "compensation" .i128 c.detachedCompensation) := by
  obtain ⟨-, -, -, same⟩ := settle_settlement.mp settles
  have refused := withdraw_of_unfit settles le unfit
  rw [same] at refused
  refine bind_eq_error_iff.mpr (Or.inr ⟨_, Width.check_eq_ok_iff.mpr ⟨next, rfl⟩, ?_⟩)
  refine bind_eq_error_iff.mpr (Or.inr ⟨(), require_eq_ok_iff.mpr le, ?_⟩)
  refine bind_eq_error_iff.mpr (Or.inr ⟨settled, settles, ?_⟩)
  exact bind_eq_error_iff.mpr (Or.inl refused)

end Cycle

namespace PoolState

/-- The cycle by which a participant leaves after a number of periods. -/
def leaving (p : PoolState) (rewardRate delay : Int) (who : Text) : Cycle := p.cycle rewardRate ⟨who, some 0, delay⟩

end PoolState

/-- Where a pool has released no more than the width holds, the compensation without a participant's shares fits. -/
theorem Reached.detachedCompensation_fits {rewardRate : Int} {p : PoolState} {log : List Entry}
    (h : Reached rewardRate p log) {delay : Int} (latest : Until log delay) {who : Text} {settled : Position}
    (settles : settle (p.leaving rewardRate delay who).settlement = .ok settled)
    (released : rewardRate * delay * precision ≤ 2 ^ 127) :
    Width.i128.Fits (p.leaving rewardRate delay who).detachedCompensation := by
  obtain ⟨fits, -⟩ := Cycle.settle_settlement.mp settles
  have rate : 0 ≤ rewardRate := fits.rewardRate.1
  have time : 0 ≤ delay := fits.delay.1
  rw [Cycle.detachedCompensation_fits_iff settles (h.holding_shares who).2, Cycle.detachedCompensation]
  split
  · decide
  · have credited : 0 ≤ (p.leaving rewardRate delay who).accumulated := h.accumulator_nonneg rate time latest
    have rest : (p.leaving rewardRate delay who).detachedRatio * delay ≤ 2 ^ 127 :=
      calc (p.leaving rewardRate delay who).detachedRatio * delay
          ≤ rewardRate * precision * delay := Int.mul_le_mul_of_nonneg_right (ratio_le rate _) time
        _ = rewardRate * delay * precision := by ring
        _ ≤ 2 ^ 127 := released
    have least : Width.i128.least = -2 ^ 127 := by decide
    show Width.i128.least ≤ (p.leaving rewardRate delay who).accumulated -
      (p.leaving rewardRate delay who).detachedRatio * delay
    omega

/-- After any timely history, a participant who can be settled can claim and can leave, and each pays what was settled,
if the compensation that the rest of the pool needs meanwhile fits its width. If it does not, both are refused because
of it. It fits as long as the pool has released no more than that width holds. -/
theorem settled_claims_and_leaves {rewardRate : Int} {moves : List Move} (timely : Timely rewardRate moves)
    {delay : Int} (latest : Until (empty.journal rewardRate moves) delay) {who : Text} {c : Cycle}
    (leaving : (empty.run rewardRate moves).leaving rewardRate delay who = c) {settled : Position}
    (settles : settle c.settlement = .ok settled) :
    (Width.i128.Fits c.detachedCompensation →
      ∃ claimed left, harvest c = .ok claimed ∧ rebalance c = .ok left ∧
        claimed.harvested = settled.debt - c.debt ∧ left.harvested = settled.debt - c.debt) ∧
    (¬Width.i128.Fits c.detachedCompensation →
      harvest c = .error (.unfit "compensation" .i128 c.detachedCompensation) ∧
        rebalance c = .error (.unfit "compensation" .i128 c.detachedCompensation)) ∧
    (rewardRate * delay * precision ≤ 2 ^ 127 → Width.i128.Fits c.detachedCompensation) := by
  subst leaving
  have reached := reached_run timely
  have le := (reached.holding_shares who).2
  have paid := Cycle.settled_debt settles
  obtain ⟨fits, -⟩ := Cycle.settle_settlement.mp settles
  have none : Width.u64.Fits 0 := by decide
  refine ⟨fun detached => ?_, fun unfit => ⟨?_, ?_⟩, reached.detachedCompensation_fits latest settles⟩
  · have claims := Cycle.harvesting_admissible settles le detached
    have leaves := Cycle.leaving_admissible settles le detached rfl
    refine ⟨_, _, rebalance_eq_ok_iff.mpr ⟨claims, rfl⟩, rebalance_eq_ok_iff.mpr ⟨leaves, rfl⟩, ?_, ?_⟩
    · rw [paid]
      rfl
    · rw [paid]
      rfl
  · exact Cycle.rebalance_of_unfit settles le fits.shares unfit
  · exact Cycle.rebalance_of_unfit settles le none unfit

/-- One share, and a million of another. -/
def lopsided : List Move := [⟨"b", some 1, 0⟩, ⟨"a", some (10 ^ 6), 0⟩]

/-- After `2 ^ 10` periods the million shares have earned 1125898780943843 units, which they can claim and can leave
with. -/
theorem settled_claims_and_leaves_lopsided :
    ∃ claimed left,
      settle ((empty.run (2 ^ 40) lopsided).leaving (2 ^ 40) (2 ^ 10) "a").settlement =
        .ok ⟨10 ^ 6, 1125898780943843, 0⟩ ∧
      harvest ((empty.run (2 ^ 40) lopsided).leaving (2 ^ 40) (2 ^ 10) "a") = .ok claimed ∧
      rebalance ((empty.run (2 ^ 40) lopsided).leaving (2 ^ 40) (2 ^ 10) "a") = .ok left ∧
      claimed.harvested = 1125898780943843 ∧ left.harvested = 1125898780943843 := by
  have timely : Timely (2 ^ 40) lopsided := by decide +kernel
  have latest : Until (empty.journal (2 ^ 40) lopsided) (2 ^ 10) := by decide +kernel
  have settles : settle ((empty.run (2 ^ 40) lopsided).leaving (2 ^ 40) (2 ^ 10) "a").settlement =
      .ok ⟨10 ^ 6, 1125898780943843, 0⟩ := by decide +kernel
  have debt : ((empty.run (2 ^ 40) lopsided).leaving (2 ^ 40) (2 ^ 10) "a").debt = 0 := by decide +kernel
  obtain ⟨paid, -, released⟩ := settled_claims_and_leaves timely latest rfl settles
  simp only [debt, Int.sub_zero] at paid
  obtain ⟨claimed, left, claims, leaves, same, same'⟩ := paid (released (by decide))
  exact ⟨claimed, left, settles, claims, leaves, same, same'⟩

/-- After many periods the million shares can still be settled, but neither claim nor leave: the compensation that the
one share needs without them does not fit. -/
theorem settled_neither_claims_nor_leaves :
    Timely (2 ^ 40) lopsided ∧ Until (empty.journal (2 ^ 40) lopsided) (2 ^ 30) ∧
      settle ((empty.run (2 ^ 40) lopsided).leaving (2 ^ 40) (2 ^ 30) "a").settlement =
        .ok ⟨10 ^ 6, 1180590440126971176452, 0⟩ ∧
      harvest ((empty.run (2 ^ 40) lopsided).leaving (2 ^ 40) (2 ^ 30) "a") =
        .error (.unfit "compensation" .i128 (-1180590440126971176452823547176959344640)) ∧
      rebalance ((empty.run (2 ^ 40) lopsided).leaving (2 ^ 40) (2 ^ 30) "a") =
        .error (.unfit "compensation" .i128 (-1180590440126971176452823547176959344640)) := by
  refine ⟨?_, ?_, ?_, ?_, ?_⟩ <;> decide +kernel

end YieldPool.Reward
