import YieldPool.Proofs.Reward.Accrual
import YieldPool.Reward.Rebalance

/-!
# What a cycle does

A cycle of settling, withdrawing and depositing has many checks, but what it does is simple: `rebalance_eq_ok_iff` says
under which conditions it succeeds (`Cycle.Admissible`) and gives its outcome in closed form (`Cycle.outcome`). The
accumulator of the pool stays as it is, unless the ratio of the shares left by the mover is zero; then it starts anew
(`Cycle.nextAccumulator_eq`). `rebalance_error_cases` lists the causes for which a cycle is refused.
-/

namespace YieldPool.Reward

/-- All that a step reads fits its width. -/
structure Step.Fits (s : Step) : Prop where
  shares : Width.u64.Fits s.shares
  debt : Width.u128.Fits s.debt
  compensation : Width.i128.Fits s.compensation
  delay : Width.u64.Fits s.delay
  rewardRate : Width.u64.Fits s.rewardRate
  currentTotal : Width.u64.Fits s.currentTotal
  nextTotal : Width.u64.Fits s.nextTotal

/-- What the shares of a step have earned before it. -/
def Step.due (s : Step) : Int := accrued s.currentRatio s.delay s.compensation s.shares

/-- A step can be read exactly if each of its quantities fits its width. -/
theorem Step.check_eq_ok_iff {s : Step} {u : Unit} : s.check = .ok u ↔ s.Fits := by
  constructor
  · intro h
    simp only [check, bind_eq_ok_iff, Width.check_eq_ok_iff] at h
    obtain ⟨_, ⟨h1, -⟩, _, ⟨h2, -⟩, _, ⟨h3, -⟩, _, ⟨h4, -⟩, _, ⟨h5, -⟩, _, ⟨h6, -⟩, _, ⟨h7, -⟩, -⟩ := h
    exact ⟨h1, h2, h3, h4, h5, h6, h7⟩
  · rintro ⟨h1, h2, h3, h4, h5, h6, h7⟩
    simp [check, Width.check, h1, h2, h3, h4, h5, h6, h7]
    rfl

/-- A step that cannot be read is refused for a quantity that does not fit. -/
theorem Step.check_error {s : Step} {f : Fault} (h : s.check = .error f) : ∃ q w n, f = .unfit q w n := by
  simp only [check, bind_eq_error_iff, Width.check_eq_error_iff, pure, Except.pure, reduceCtorEq, and_false,
    exists_false, or_false] at h
  rcases h with ⟨-, h⟩ | ⟨_, -, ⟨-, h⟩ | ⟨_, -, ⟨-, h⟩ | ⟨_, -, ⟨-, h⟩ | ⟨_, -, ⟨-, h⟩ | ⟨_, -, ⟨-, h⟩ |
    ⟨_, -, -, h⟩⟩⟩⟩⟩⟩ <;> exact ⟨_, _, _, h.symm⟩

/-- A settlement succeeds exactly if the total stays, and what is due fits and is not below the debt. -/
theorem settle_eq_ok_iff {s : Step} {p : Position} :
    settle s = .ok p ↔ s.Fits ∧ s.currentTotal = s.nextTotal ∧ Width.u128.Fits s.due ∧ s.debt ≤ s.due ∧
      ⟨s.shares, s.due, s.compensation⟩ = p := by
  simp only [settle, bind_eq_ok_iff, Step.check_eq_ok_iff, require_eq_ok_iff, accruedDebt, Width.check_eq_ok_iff]
  constructor
  · rintro ⟨-, fits, -, same, _, ⟨dueFits, rfl⟩, -, le, h⟩
    exact ⟨fits, same, dueFits, le, Except.ok.inj h⟩
  · rintro ⟨fits, same, dueFits, le, rfl⟩
    exact ⟨(), fits, (), same, _, ⟨dueFits, rfl⟩, (), le, rfl⟩

/-- A withdrawal succeeds exactly if the total does not grow, the debt is what is due, and the compensation fits. -/
theorem withdraw_eq_ok_iff {s : Step} {p : Position} :
    withdraw s = .ok p ↔ s.Fits ∧ s.nextTotal ≤ s.currentTotal ∧ Width.u128.Fits s.due ∧ s.debt = s.due ∧
      Width.i128.Fits s.withdrawnCompensation ∧ ⟨0, 0, s.withdrawnCompensation⟩ = p := by
  simp only [withdraw, bind_eq_ok_iff, Step.check_eq_ok_iff, require_eq_ok_iff, accruedDebt, Width.check_eq_ok_iff]
  constructor
  · rintro ⟨-, fits, -, le, _, ⟨dueFits, rfl⟩, -, settled, _, ⟨compensationFits, rfl⟩, h⟩
    exact ⟨fits, le, dueFits, settled, compensationFits, Except.ok.inj h⟩
  · rintro ⟨fits, le, dueFits, settled, compensationFits, rfl⟩
    exact ⟨(), fits, (), le, _, ⟨dueFits, rfl⟩, (), settled, _, ⟨compensationFits, rfl⟩, rfl⟩

/-- What the shares put in by a step would have earned before it. -/
def Step.depositedDebt (s : Step) : Int := accrued s.nextRatio s.delay s.depositedCompensation s.shares

/-- A deposit succeeds exactly if the total does not shrink, there is no debt before it, and compensation and debt fit.
-/
theorem deposit_eq_ok_iff {s : Step} {p : Position} :
    deposit s = .ok p ↔ s.Fits ∧ s.currentTotal ≤ s.nextTotal ∧ s.debt = 0 ∧
      Width.i128.Fits s.depositedCompensation ∧ Width.u128.Fits s.depositedDebt ∧
      ⟨s.shares, s.depositedDebt, s.depositedCompensation⟩ = p := by
  simp only [deposit, bind_eq_ok_iff, Step.check_eq_ok_iff, require_eq_ok_iff, accruedDebt, Width.check_eq_ok_iff]
  constructor
  · rintro ⟨-, fits, -, le, -, clear, _, ⟨compensationFits, rfl⟩, _, ⟨debtFits, rfl⟩, h⟩
    exact ⟨fits, le, clear, compensationFits, debtFits, Except.ok.inj h⟩
  · rintro ⟨fits, le, clear, compensationFits, debtFits, rfl⟩
    exact ⟨(), fits, (), le, (), clear, _, ⟨compensationFits, rfl⟩, _, ⟨debtFits, rfl⟩, rfl⟩

/-- Why a settlement is refused. -/
theorem settle_error {s : Step} {f : Fault} (h : settle s = .error f) :
    (∃ q w n, f = .unfit q w n) ∨ (s.currentTotal ≠ s.nextTotal ∧ f = .totalChanged s.currentTotal s.nextTotal) ∨
      (s.due < s.debt ∧ f = .debtFallen s.debt s.due) := by
  simp only [settle, bind_eq_error_iff, Step.check_eq_ok_iff, require_eq_error_iff, require_eq_ok_iff, accruedDebt,
    Width.check_eq_error_iff, Width.check_eq_ok_iff, pure, Except.pure, reduceCtorEq, and_false, exists_false,
    or_false] at h
  rcases h with h | ⟨-, -, ⟨changed, rfl⟩ | ⟨-, -, ⟨-, rfl⟩ | ⟨_, ⟨-, rfl⟩, fallen, rfl⟩⟩⟩
  · exact Or.inl (Step.check_error h)
  · exact Or.inr (Or.inl ⟨changed, rfl⟩)
  · exact Or.inl ⟨_, _, _, rfl⟩
  · exact Or.inr (Or.inr ⟨Int.not_le.mp fallen, rfl⟩)

/-- Why a withdrawal is refused. -/
theorem withdraw_error {s : Step} {f : Fault} (h : withdraw s = .error f) :
    (∃ q w n, f = .unfit q w n) ∨ (s.currentTotal < s.nextTotal ∧ f = .totalGrown s.currentTotal s.nextTotal) ∨
      (s.debt ≠ s.due ∧ f = .debtUnsettled s.debt s.due) := by
  simp only [withdraw, bind_eq_error_iff, Step.check_eq_ok_iff, require_eq_error_iff, require_eq_ok_iff, accruedDebt,
    Width.check_eq_error_iff, Width.check_eq_ok_iff, pure, Except.pure, reduceCtorEq, and_false, exists_false,
    or_false] at h
  rcases h with h | ⟨-, -, ⟨grown, rfl⟩ | ⟨-, -, ⟨-, rfl⟩ | ⟨_, ⟨-, rfl⟩, ⟨unsettled, rfl⟩ | ⟨-, -, -, rfl⟩⟩⟩⟩
  · exact Or.inl (Step.check_error h)
  · exact Or.inr (Or.inl ⟨Int.not_le.mp grown, rfl⟩)
  · exact Or.inl ⟨_, _, _, rfl⟩
  · exact Or.inr (Or.inr ⟨unsettled, rfl⟩)
  · exact Or.inl ⟨_, _, _, rfl⟩

/-- Why a deposit is refused. -/
theorem deposit_error {s : Step} {f : Fault} (h : deposit s = .error f) :
    (∃ q w n, f = .unfit q w n) ∨ (s.nextTotal < s.currentTotal ∧ f = .totalShrunk s.currentTotal s.nextTotal) ∨
      (s.debt ≠ 0 ∧ f = .debtCarried s.debt) := by
  simp only [deposit, bind_eq_error_iff, Step.check_eq_ok_iff, require_eq_error_iff, require_eq_ok_iff, accruedDebt,
    Width.check_eq_error_iff, Width.check_eq_ok_iff, pure, Except.pure, reduceCtorEq, and_false, exists_false,
    or_false] at h
  rcases h with h | ⟨-, -, ⟨shrunk, rfl⟩ | ⟨-, -, ⟨carried, rfl⟩ | ⟨-, -, ⟨-, rfl⟩ | ⟨_, -, -, rfl⟩⟩⟩⟩
  · exact Or.inl (Step.check_error h)
  · exact Or.inr (Or.inl ⟨Int.not_le.mp shrunk, rfl⟩)
  · exact Or.inr (Or.inr ⟨carried, rfl⟩)
  · exact Or.inl ⟨_, _, _, rfl⟩
  · exact Or.inl ⟨_, _, _, rfl⟩

/-! ## The closed form -/

namespace Cycle

/-- What one share has been credited with before a cycle. -/
def accumulated (c : Cycle) : Int := accumulator (ratio c.rewardRate c.totalShares) c.delay c.compensation

/-- What the participant's shares have earned before a cycle. -/
def due (c : Cycle) : Int := accrued (ratio c.rewardRate c.totalShares) c.delay c.compensation c.shares

/-- The ratio of the shares of the others. -/
def detachedRatio (c : Cycle) : Int := ratio c.rewardRate c.detachedTotal

/-- The total after a cycle. -/
def nextTotal (c : Cycle) : Int := c.detachedTotal + c.nextShares

/-- The ratio after a cycle. -/
def nextRatio (c : Cycle) : Int := ratio c.rewardRate c.nextTotal

/-- The compensation while the participant's shares are out of the total. -/
def detachedCompensation (c : Cycle) : Int :=
  if c.detachedRatio = 0 then 0 else c.accumulated - c.detachedRatio * c.delay

/-- The compensation after a cycle. -/
def nextCompensation (c : Cycle) : Int :=
  if c.detachedRatio = 0 then 0 else c.accumulated - c.nextRatio * c.delay

/-- What one share has been credited with after a cycle. -/
def nextAccumulated (c : Cycle) : Int := accumulator c.nextRatio c.delay c.nextCompensation

/-- The participant's debt after a cycle. -/
def nextDebt (c : Cycle) : Int := accrued c.nextRatio c.delay c.nextCompensation c.nextShares

/-- The position after the settlement of a cycle. -/
def settled (c : Cycle) : Position := ⟨c.shares, c.due, c.compensation⟩

/-- The position after the withdrawal of a cycle. -/
def withdrawn (c : Cycle) : Position := ⟨0, 0, c.detachedCompensation⟩

/-- The position after a cycle. -/
def deposited (c : Cycle) : Position := ⟨c.nextShares, c.nextDebt, c.nextCompensation⟩

/-- What comes of a cycle that succeeds. -/
def outcome (c : Cycle) : Rebalanced := ⟨c.due - c.debt, c.deposited, c.nextTotal⟩

/-- The conditions under which a cycle succeeds. -/
structure Admissible (c : Cycle) : Prop where
  shares_fits : Width.u64.Fits c.shares
  debt_fits : Width.u128.Fits c.debt
  compensation_fits : Width.i128.Fits c.compensation
  delay_fits : Width.u64.Fits c.delay
  rewardRate_fits : Width.u64.Fits c.rewardRate
  totalShares_fits : Width.u64.Fits c.totalShares
  nextShares_fits : Width.u64.Fits c.nextShares
  nextTotal_fits : Width.u64.Fits c.nextTotal
  shares_le : c.shares ≤ c.totalShares
  debt_le : c.debt ≤ c.due
  due_fits : Width.u128.Fits c.due
  detachedCompensation_fits : Width.i128.Fits c.detachedCompensation
  nextCompensation_fits : Width.i128.Fits c.nextCompensation
  nextDebt_fits : Width.u128.Fits c.nextDebt

@[simp] theorem nextRatio_withdrawal (c : Cycle) (p : Position) : (c.withdrawal p).nextRatio = c.detachedRatio := rfl

@[simp] theorem currentRatio_depositing (c : Cycle) (p : Position) (nextTotal : Int) :
    (c.depositing p nextTotal).currentRatio = c.detachedRatio := rfl

/-- The withdrawal of a cycle leaves the compensation of the others' shares. -/
theorem withdrawnCompensation_settled (c : Cycle) :
    (c.withdrawal c.settled).withdrawnCompensation = c.detachedCompensation := by
  unfold Step.withdrawnCompensation detachedCompensation
  rw [nextRatio_withdrawal]
  by_cases h : c.detachedRatio = 0
  · rw [if_pos h, if_pos h]
  · rw [if_neg h, if_neg h]
    simp only [Step.currentRatio, withdrawal, settled, accumulated, accumulator]
    ring

/-- The deposit of a cycle leaves the compensation of the cycle. -/
theorem depositedCompensation_withdrawn (c : Cycle) :
    (c.depositing c.withdrawn c.nextTotal).depositedCompensation = c.nextCompensation := by
  unfold Step.depositedCompensation nextCompensation
  rw [currentRatio_depositing]
  by_cases h : c.detachedRatio = 0
  · rw [if_pos h, if_pos h]
  · rw [if_neg h, if_neg h]
    simp only [Step.nextRatio, depositing, withdrawn, detachedCompensation, if_neg h, nextRatio]
    ring

/-- Whoever leaves has no debt left. -/
theorem nextDebt_of_leaves {c : Cycle} (leaves : c.nextShares = 0) : c.nextDebt = 0 := by
  rw [nextDebt, leaves, accrued, Int.mul_zero]
  rfl

/-- The deposit of a cycle leaves the debt of the cycle. -/
theorem depositedDebt_withdrawn (c : Cycle) : (c.depositing c.withdrawn c.nextTotal).depositedDebt = c.nextDebt := by
  unfold Step.depositedDebt
  rw [depositedCompensation_withdrawn]
  rfl

/-- Where the others' shares have a ratio, what one share has been credited with stays as it is. -/
theorem nextAccumulated_of_ne_zero {c : Cycle} (h : c.detachedRatio ≠ 0) : c.nextAccumulated = c.accumulated := by
  simp only [nextAccumulated, nextCompensation, if_neg h, accumulator]
  ring

/-- Where the others' shares have no ratio, what one share has been credited with starts anew. -/
theorem nextAccumulated_of_eq_zero {c : Cycle} (h : c.detachedRatio = 0) :
    c.nextAccumulated = c.nextRatio * c.delay := by
  simp [nextAccumulated, nextCompensation, h, accumulator]

end Cycle

namespace Cycle

/-- The settlement of a cycle succeeds exactly if what is due fits and is not below the debt. -/
theorem settle_settlement {c : Cycle} {p : Position} :
    settle c.settlement = .ok p ↔ c.settlement.Fits ∧ Width.u128.Fits c.due ∧ c.debt ≤ c.due ∧ c.settled = p :=
  settle_eq_ok_iff.trans ⟨fun ⟨fits, _, dueFits, le, h⟩ => ⟨fits, dueFits, le, h⟩,
    fun ⟨fits, dueFits, le, h⟩ => ⟨fits, rfl, dueFits, le, h⟩⟩

/-- The settled shares can be withdrawn exactly if they are part of the total and the compensation without them fits. -/
theorem withdraw_settled {c : Cycle} {p : Position} :
    withdraw (c.withdrawal c.settled) = .ok p ↔ (c.withdrawal c.settled).Fits ∧ c.detachedTotal ≤ c.totalShares ∧
      Width.u128.Fits c.due ∧ Width.i128.Fits c.detachedCompensation ∧ c.withdrawn = p := by
  rw [withdraw_eq_ok_iff, withdrawnCompensation_settled]
  exact ⟨fun ⟨fits, le, dueFits, _, fits', h⟩ => ⟨fits, le, dueFits, fits', h⟩,
    fun ⟨fits, le, dueFits, fits', h⟩ => ⟨fits, le, dueFits, rfl, fits', h⟩⟩

/-- After the withdrawal the shares can be deposited exactly if compensation and debt with them fit. -/
theorem deposit_withdrawn {c : Cycle} {p : Position} :
    deposit (c.depositing c.withdrawn c.nextTotal) = .ok p ↔ (c.depositing c.withdrawn c.nextTotal).Fits ∧
      c.detachedTotal ≤ c.nextTotal ∧ Width.i128.Fits c.nextCompensation ∧ Width.u128.Fits c.nextDebt ∧
      c.deposited = p := by
  rw [deposit_eq_ok_iff, depositedCompensation_withdrawn, depositedDebt_withdrawn]
  exact ⟨fun ⟨fits, le, _, fits', debtFits, h⟩ => ⟨fits, le, fits', debtFits, h⟩,
    fun ⟨fits, le, fits', debtFits, h⟩ => ⟨fits, le, rfl, fits', debtFits, h⟩⟩

/-- The shares of the others fit where total and participant's shares do. -/
theorem Admissible.detachedTotal_fits {c : Cycle} (a : c.Admissible) : Width.u64.Fits c.detachedTotal :=
  ⟨Int.sub_nonneg_of_le a.shares_le, Int.le_trans (Int.sub_le_self _ a.shares_fits.1) a.totalShares_fits.2⟩

/-- A cycle that leaves the pool empty leaves no compensation. -/
theorem Admissible.nextCompensation_of_empty {c : Cycle} (a : c.Admissible) (empty : c.nextTotal = 0) :
    c.nextCompensation = 0 := by
  have others : 0 ≤ c.detachedTotal := a.detachedTotal_fits.1
  have own : 0 ≤ c.nextShares := a.nextShares_fits.1
  have none : c.detachedTotal = 0 := by
    unfold nextTotal at empty
    omega
  refine if_pos ?_
  rw [detachedRatio, none]
  rfl

end Cycle

open Reward.Cycle in
/-- A cycle succeeds exactly under the conditions of `Admissible`, and then comes to its outcome. -/
theorem rebalance_eq_ok_iff {c : Cycle} {r : Rebalanced} : rebalance c = .ok r ↔ c.Admissible ∧ c.outcome = r := by
  simp only [rebalance, bind_eq_ok_iff, Width.check_eq_ok_iff, require_eq_ok_iff]
  constructor
  · rintro ⟨_, ⟨nextShares, rfl⟩, -, le, _, settle, _, withdraw, _, ⟨nextTotal, rfl⟩, _, deposit, h⟩
    obtain ⟨fits, dueFits, debtLe, rfl⟩ := settle_settlement.mp settle
    obtain ⟨-, -, -, detachedFits, rfl⟩ := withdraw_settled.mp withdraw
    obtain ⟨-, -, nextFits, nextDebtFits, rfl⟩ := deposit_withdrawn.mp deposit
    exact ⟨⟨fits.shares, fits.debt, fits.compensation, fits.delay, fits.rewardRate, fits.currentTotal, nextShares,
      nextTotal, le, debtLe, dueFits, detachedFits, nextFits, nextDebtFits⟩, Except.ok.inj h⟩
  · rintro ⟨a, rfl⟩
    have settle : settle c.settlement = .ok c.settled := settle_settlement.mpr
      ⟨⟨a.shares_fits, a.debt_fits, a.compensation_fits, a.delay_fits, a.rewardRate_fits, a.totalShares_fits,
        a.totalShares_fits⟩, a.due_fits, a.debt_le, rfl⟩
    have withdraw : withdraw (c.withdrawal c.settled) = .ok c.withdrawn := withdraw_settled.mpr
      ⟨⟨a.shares_fits, a.due_fits, a.compensation_fits, a.delay_fits, a.rewardRate_fits, a.totalShares_fits,
        a.detachedTotal_fits⟩, Int.sub_le_self _ a.shares_fits.1, a.due_fits, a.detachedCompensation_fits, rfl⟩
    have zero : Width.u128.Fits 0 := by decide
    have deposit : deposit (c.depositing c.withdrawn c.nextTotal) = .ok c.deposited := deposit_withdrawn.mpr
      ⟨⟨a.nextShares_fits, zero, a.detachedCompensation_fits, a.delay_fits, a.rewardRate_fits,
        a.detachedTotal_fits, a.nextTotal_fits⟩, Int.le_add_of_nonneg_right a.nextShares_fits.1,
        a.nextCompensation_fits, a.nextDebt_fits, rfl⟩
    exact ⟨_, ⟨a.nextShares_fits, rfl⟩, (), a.shares_le, _, settle, _, withdraw, _, ⟨a.nextTotal_fits, rfl⟩, _,
      deposit, rfl⟩

open Reward.Cycle in
/-- A cycle is refused because something does not fit, because the debt would fall, or because the participant holds
more than the whole pool. -/
theorem rebalance_error_cases {c : Cycle} {f : Fault} (h : rebalance c = .error f) :
    (∃ q w n, f = .unfit q w n) ∨ (c.due < c.debt ∧ f = .debtFallen c.debt c.due) ∨
      (c.totalShares < c.shares ∧ f = .sharesExceedTotal c.shares c.totalShares) := by
  simp only [rebalance, bind_eq_error_iff, Width.check_eq_error_iff, Width.check_eq_ok_iff, require_eq_error_iff,
    require_eq_ok_iff, pure, Except.pure, reduceCtorEq, and_false, exists_false, or_false] at h
  rcases h with ⟨-, rfl⟩ | ⟨_, ⟨nextShares, rfl⟩, ⟨exceeds, rfl⟩ | ⟨-, le, refused | ⟨_, settle, h⟩⟩⟩
  · exact Or.inl ⟨_, _, _, rfl⟩
  · exact Or.inr (Or.inr ⟨Int.not_le.mp exceeds, rfl⟩)
  · rcases settle_error refused with h | ⟨changed, -⟩ | h
    · exact Or.inl h
    · exact absurd rfl changed
    · exact Or.inr (Or.inl h)
  · obtain ⟨fits, dueFits, -, rfl⟩ := settle_settlement.mp settle
    rcases h with refused | ⟨_, withdraw, ⟨-, rfl⟩ | ⟨_, ⟨-, rfl⟩, refused⟩⟩
    · rcases withdraw_error refused with h | ⟨grown, -⟩ | ⟨unsettled, -⟩
      · exact Or.inl h
      · exact absurd grown (Int.not_lt.mpr (Int.sub_le_self _ fits.shares.1))
      · exact absurd rfl unsettled
    · exact Or.inl ⟨_, _, _, rfl⟩
    · obtain ⟨-, -, -, -, rfl⟩ := withdraw_settled.mp withdraw
      rcases deposit_error refused with h | ⟨shrunk, -⟩ | ⟨carried, -⟩
      · exact Or.inl h
      · exact absurd shrunk (Int.not_lt.mpr (Int.le_add_of_nonneg_right nextShares.1))
      · exact absurd rfl carried

end YieldPool.Reward
