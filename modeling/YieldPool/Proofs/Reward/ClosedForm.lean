import YieldPool.Proofs.Reward.Cycle

/-!
# The closed form of a cycle

Of a cycle's three steps with their checks there remain a few bounds and three formulas, in terms of what one share has
been credited with before the cycle (`Cycle.accumulated`) and of the compensation after it (`Cycle.nextCompensation`).
A cycle outside these bounds is refused for one of three causes, and it is decided by the numbers which one
(`rebalance_eq_sharesExceedTotal_iff`, `rebalance_eq_debtFallen_iff`). What a step is refused for when the steps before
it were others than those of a cycle never happens (`not_isMisstep_of_rebalance`).
-/

namespace YieldPool

/-- The refusals of steps taken in another order than that of a cycle: a settlement that changes the total, a withdrawal
that makes it larger or comes without a settlement, a deposit that makes it smaller or comes without a withdrawal. -/
def Fault.IsMisstep : Fault → Prop
  | .totalChanged .. | .totalGrown .. | .debtUnsettled .. | .totalShrunk .. | .debtCarried .. => True
  | .unfit .. | .sharesExceedTotal .. | .debtFallen .. | .poolInconsistent .. => False

namespace Reward

/-- A settlement finds that the debt has fallen exactly when all that it reads and computes fits. -/
theorem settle_eq_debtFallen_iff {s : Step} {recorded computed : Int} :
    settle s = .error (.debtFallen recorded computed) ↔ s.Fits ∧ s.currentTotal = s.nextTotal ∧
      Width.u128.Fits s.due ∧ s.due < s.debt ∧ s.debt = recorded ∧ s.due = computed := by
  simp only [settle, bind_eq_error_iff, Step.check_eq_ok_iff, require_eq_error_iff, require_eq_ok_iff, accruedDebt,
    Width.check_eq_error_iff, Width.check_eq_ok_iff, pure, Except.pure, reduceCtorEq, and_false, exists_false,
    or_false, false_or, Fault.debtFallen.injEq]
  constructor
  · rintro (unread | ⟨-, fits, -, same, _, ⟨dueFits, rfl⟩, fallen, recorded, computed⟩)
    · obtain ⟨_, _, _, unfit⟩ := Step.check_error unread
      cases unfit
    · exact ⟨fits, same, dueFits, Int.not_le.mp fallen, recorded, computed⟩
  · rintro ⟨fits, same, dueFits, fallen, recorded, computed⟩
    exact Or.inr ⟨(), fits, (), same, _, ⟨dueFits, rfl⟩, Int.not_le.mpr fallen, recorded, computed⟩

namespace Cycle

variable {c : Cycle} {f : Fault}

/-- A cycle is refused for holding more than the whole pool exactly when it is so and the wanted shares fit. -/
theorem rebalance_eq_sharesExceedTotal_iff :
    rebalance c = .error (.sharesExceedTotal c.shares c.totalShares) ↔
      Width.u64.Fits c.nextShares ∧ c.totalShares < c.shares := by
  constructor
  · intro refused
    rcases rebalance_error_cases refused with ⟨_, _, _, unfit⟩ | ⟨-, fallen⟩ | ⟨exceeds, -⟩
    · cases unfit
    · cases fallen
    · refine ⟨Decidable.byContradiction fun unfit => ?_, exceeds⟩
      have first : rebalance c = .error (.unfit "next_shares" .u64 c.nextShares) :=
        bind_eq_error_iff.mpr (Or.inl (Width.check_eq_error_iff.mpr ⟨unfit, rfl⟩))
      rw [first] at refused
      cases refused
  · rintro ⟨fits, exceeds⟩
    refine bind_eq_error_iff.mpr (Or.inr ⟨_, Width.check_eq_ok_iff.mpr ⟨fits, rfl⟩, ?_⟩)
    exact bind_eq_error_iff.mpr (Or.inl (require_eq_error_iff.mpr ⟨Int.not_le.mpr exceeds, rfl⟩))

/-- A cycle is refused for a fallen debt exactly when it is the settlement that refuses it for that. -/
theorem rebalance_eq_debtFallen_iff {recorded computed : Int} :
    rebalance c = .error (.debtFallen recorded computed) ↔ Width.u64.Fits c.nextShares ∧ c.shares ≤ c.totalShares ∧
      settle c.settlement = .error (.debtFallen recorded computed) := by
  simp only [rebalance, bind_eq_error_iff, Width.check_eq_error_iff, Width.check_eq_ok_iff, require_eq_error_iff,
    require_eq_ok_iff, pure, Except.pure, reduceCtorEq, and_false, exists_false, or_false, false_or]
  constructor
  · rintro ⟨_, ⟨fits, rfl⟩, -, le, refused | ⟨_, settle, withdrawn | ⟨_, withdraw, _, -, deposited⟩⟩⟩
    · exact ⟨fits, le, refused⟩
    · rcases withdraw_error withdrawn with ⟨_, _, _, unfit⟩ | ⟨-, grown⟩ | ⟨-, unsettled⟩
      · cases unfit
      · cases grown
      · cases unsettled
    · rcases deposit_error deposited with ⟨_, _, _, unfit⟩ | ⟨-, shrunk⟩ | ⟨-, carried⟩
      · cases unfit
      · cases shrunk
      · cases carried
  · rintro ⟨fits, le, refused⟩
    exact ⟨_, ⟨fits, rfl⟩, (), le, Or.inl refused⟩

/-- No step of a cycle finds that the steps before it were others than those of a cycle. -/
theorem not_isMisstep_of_rebalance (refused : rebalance c = .error f) : ¬f.IsMisstep := by
  rcases rebalance_error_cases refused with ⟨_, _, _, rfl⟩ | ⟨-, rfl⟩ | ⟨-, rfl⟩
  · exact id
  · exact id
  · exact id

/-- The bounds of a cycle in terms of what one share has been credited with and of the compensation after it. -/
theorem admissible_iff_bounds :
    c.Admissible ↔ Width.u64.Fits c.shares ∧ Width.u64.Fits c.delay ∧ Width.u64.Fits c.rewardRate ∧
      Width.u64.Fits c.totalShares ∧ Width.u64.Fits c.nextShares ∧ Width.u64.Fits c.nextTotal ∧
      Width.u128.Fits c.debt ∧ Width.i128.Fits c.compensation ∧ c.shares ≤ c.totalShares ∧
      c.debt ≤ c.accumulated * c.shares / precision ∧
      c.accumulated * c.shares / precision ≤ Width.u128.greatest ∧
      (c.detachedRatio ≠ 0 → Width.i128.Fits (c.accumulated - c.detachedRatio * c.delay)) ∧
      Width.i128.Fits c.nextCompensation ∧
      Width.u128.Fits ((c.nextRatio * c.delay + c.nextCompensation) * c.nextShares / precision) := by
  constructor
  · intro a
    refine ⟨a.shares_fits, a.delay_fits, a.rewardRate_fits, a.totalShares_fits, a.nextShares_fits, a.nextTotal_fits,
      a.debt_fits, a.compensation_fits, a.shares_le, a.debt_le, a.due_fits.2, fun paid => ?_, a.nextCompensation_fits,
      a.nextDebt_fits⟩
    have detached := a.detachedCompensation_fits
    rwa [detachedCompensation, if_neg paid] at detached
  · rintro ⟨shares, delay, rate, total, next, nextTotal, debt, compensation, le, debtLe, due, detached,
      nextCompensation, nextDebt⟩
    refine ⟨shares, debt, compensation, delay, rate, total, next, nextTotal, le, debtLe,
      ⟨Int.le_trans debt.1 debtLe, due⟩, ?_, nextCompensation, nextDebt⟩
    unfold detachedCompensation
    split
    · decide
    · rename_i paid
      exact detached paid

end Cycle

open Reward.Cycle in
/-- A cycle succeeds exactly within its bounds, and then harvests what the shares have been credited with beyond the
debt, and leaves the wanted shares, with what these would have been credited with as debt, the compensation and the
total. Outside the bounds it is refused: if the wanted shares fit, for holding more than the whole pool, where it is so;
else, if all that the settlement reads and computes fits, for a debt above what has been credited; and for a number that
does not fit in every other case. No step ever finds that the steps before it were not those of a cycle. -/
theorem rebalance_closed_form (c : Cycle) :
    (∀ r, rebalance c = .ok r ↔
      (Width.u64.Fits c.shares ∧ Width.u64.Fits c.delay ∧ Width.u64.Fits c.rewardRate ∧
        Width.u64.Fits c.totalShares ∧ Width.u64.Fits c.nextShares ∧ Width.u64.Fits c.nextTotal ∧
        Width.u128.Fits c.debt ∧ Width.i128.Fits c.compensation ∧ c.shares ≤ c.totalShares ∧
        c.debt ≤ c.accumulated * c.shares / precision ∧
        c.accumulated * c.shares / precision ≤ Width.u128.greatest ∧
        (c.detachedRatio ≠ 0 → Width.i128.Fits (c.accumulated - c.detachedRatio * c.delay)) ∧
        Width.i128.Fits c.nextCompensation ∧
        Width.u128.Fits ((c.nextRatio * c.delay + c.nextCompensation) * c.nextShares / precision)) ∧
      r = ⟨c.accumulated * c.shares / precision - c.debt,
        ⟨c.nextShares, (c.nextRatio * c.delay + c.nextCompensation) * c.nextShares / precision, c.nextCompensation⟩,
        c.nextTotal⟩) ∧
    (∀ f, rebalance c = .error f → ¬f.IsMisstep ∧
      (f.code = .numericOverflow ∨ f.code = .nonMonotonicDebt ∨
        c.totalShares < c.shares ∧ f.code = .accountingPrecondition)) ∧
    ((∃ f, rebalance c = .error f ∧ f.code = .accountingPrecondition) ↔
      Width.u64.Fits c.nextShares ∧ c.totalShares < c.shares) ∧
    ((∃ f, rebalance c = .error f ∧ f.code = .nonMonotonicDebt) ↔
      Width.u64.Fits c.nextShares ∧ c.shares ≤ c.totalShares ∧ c.settlement.Fits ∧
        Width.u128.Fits (c.accumulated * c.shares / precision) ∧
        c.accumulated * c.shares / precision < c.debt) := by
  refine ⟨fun r => ?_, fun f refused => ⟨not_isMisstep_of_rebalance refused, ?_⟩, ⟨?_, ?_⟩, ⟨?_, ?_⟩⟩
  · rw [rebalance_eq_ok_iff, ← admissible_iff_bounds]
    exact and_congr_right fun _ => eq_comm
  · rcases rebalance_error_cases refused with ⟨_, _, _, rfl⟩ | ⟨-, rfl⟩ | ⟨exceeds, rfl⟩
    · exact Or.inl rfl
    · exact Or.inr (Or.inl rfl)
    · exact Or.inr (Or.inr ⟨exceeds, rfl⟩)
  · rintro ⟨f, refused, code⟩
    rcases rebalance_error_cases refused with ⟨_, _, _, rfl⟩ | ⟨-, rfl⟩ | ⟨-, rfl⟩
    · cases code
    · cases code
    · exact rebalance_eq_sharesExceedTotal_iff.mp refused
  · intro exceeds
    exact ⟨_, rebalance_eq_sharesExceedTotal_iff.mpr exceeds, rfl⟩
  · rintro ⟨f, refused, code⟩
    rcases rebalance_error_cases refused with ⟨_, _, _, rfl⟩ | ⟨-, rfl⟩ | ⟨-, rfl⟩
    · cases code
    · obtain ⟨fits, le, settles⟩ := rebalance_eq_debtFallen_iff.mp refused
      obtain ⟨read, -, due, fallen, -⟩ := settle_eq_debtFallen_iff.mp settles
      exact ⟨fits, le, read, due, fallen⟩
    · cases code
  · rintro ⟨fits, le, read, due, fallen⟩
    have settles := settle_eq_debtFallen_iff.mpr ⟨read, rfl, due, fallen, rfl, rfl⟩
    exact ⟨_, rebalance_eq_debtFallen_iff.mpr ⟨fits, le, settles⟩, rfl⟩

end Reward

end YieldPool
