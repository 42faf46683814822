import YieldPool.Proofs.Reward.Isolation

/-!
# Debts stay covered

A rate sustains a total if it is zero or pays every share of that total at least one scaled unit in a period. As long as
the rate sustains every total that a history leaves, no move takes anything from what the shares of the others have been
credited with (`Reached.accumulated_mul_shares`). So every debt is covered by what its shares have been credited with
(`Reached.debt_le_credited`), and only a number that does not fit its width can stand in the way of a move.
-/

namespace YieldPool.Reward

open PoolState Journal

/-- The rate is zero, or it pays every share of a total at least one scaled unit in a period. -/
def Sustains (rewardRate totalShares : Int) : Prop := rewardRate = 0 ∨ totalShares ≤ rewardRate * precision

instance (rewardRate totalShares : Int) : Decidable (Sustains rewardRate totalShares) :=
  inferInstanceAs (Decidable (_ ∨ _))

/-- The rate sustains every total that the successful moves of a journal have left. -/
def Journal.Sustained (rewardRate : Int) (log : List Entry) : Prop :=
  ∀ e ∈ log, Sustains rewardRate e.outcome.totalShares

instance (rewardRate : Int) (log : List Entry) : Decidable (Sustained rewardRate log) :=
  inferInstanceAs (Decidable (∀ e ∈ log, Sustains rewardRate e.outcome.totalShares))

/-- Without a reward rate no share earns anything. -/
@[simp] theorem ratio_of_rate_zero (totalShares : Int) : ratio 0 totalShares = 0 := by
  simp [ratio]

/-- What shares have been credited with does not fall as periods pass. -/
theorem PoolState.credited_later (p : PoolState) {rewardRate delay later shares : Int}
    (rate : 0 ≤ ratio rewardRate p.totalShares) (held : 0 ≤ shares) (le : delay ≤ later) :
    p.credited rewardRate delay shares ≤ p.credited rewardRate later shares := by
  unfold credited accrued
  refine Int.ediv_le_ediv precision_pos (Int.mul_le_mul_of_nonneg_right ?_ held)
  rw [accumulator_later _ delay later]
  exact Int.le_add_of_nonneg_right (Int.mul_nonneg rate (Int.sub_nonneg_of_le le))

namespace Reached

variable {rewardRate : Int} {p : PoolState} {log : List Entry}

/-- A pool that pays nothing never has a compensation. -/
theorem compensation_of_rate_zero (h : Reached 0 p log) : p.compensation = 0 := by
  cases h with
  | start => rfl
  | moved _ _ accepted =>
    obtain ⟨-, rfl, rfl⟩ := attempt_eq_ok_iff.mp accepted
    exact if_pos (ratio_of_rate_zero _)

/-- The total of a state is one that the journal has left, or that of the empty pool. -/
theorem sustains (h : Reached rewardRate p log) (rate : 0 ≤ rewardRate) (sustained : Sustained rewardRate log) :
    Sustains rewardRate p.totalShares := by
  cases h with
  | start => exact Or.inr (Int.mul_nonneg rate (Int.le_of_lt precision_pos))
  | moved _ _ accepted =>
    obtain ⟨-, rfl, rfl⟩ := attempt_eq_ok_iff.mp accepted
    exact sustained _ (List.mem_append_right _ (List.mem_singleton_self _))

/-- Whoever has moved or not holds a number of shares that is not negative, and not more than the total. -/
theorem holding_shares (h : Reached rewardRate p log) (who : Text) :
    0 ≤ (p.holding who).shares ∧ (p.holding who).shares ≤ p.totalShares := by
  cases found : p.holdings.find? who with
  | none =>
    rw [holding, found]
    exact ⟨Int.le_refl 0, h.totalShares_nonneg⟩
  | some a =>
    have member := Table.mem_of_find? found
    rw [show p.holding who = a by rw [holding, found]; rfl, ← h.sum_shares]
    exact ⟨(h.holdings_nonneg a member).1, Table.le_sum (fun b hb => (h.holdings_nonneg b hb).1) member⟩

/-- Where the rate sustains every total, a move leaves what another's shares have been credited with, to the scaled
unit. The accumulator starts anew only where there is no share of another or the rate is zero. -/
theorem accumulated_mul_shares (h : Reached rewardRate p log) (sustained : Sustained rewardRate log) {m : Move}
    (admissible : (p.cycle rewardRate m).Admissible) {other : Text} (ne : other ≠ m.who) :
    (p.cycle rewardRate m).nextAccumulated * (p.holding other).shares =
      (p.cycle rewardRate m).accumulated * (p.holding other).shares := by
  have rate : 0 ≤ rewardRate := admissible.rewardRate_fits.1
  by_cases zero : (p.cycle rewardRate m).detachedRatio = 0
  · rcases (ratio_eq_zero_iff rate admissible.detachedTotal_fits.1).mp zero with empty | outweighed
    · obtain ⟨nonneg, held⟩ := h.shares_between ne
      have none : (p.holding other).shares = 0 := Int.le_antisymm (empty ▸ held) nonneg
      rw [none, Int.mul_zero, Int.mul_zero]
    · have free : rewardRate = 0 := by
        rcases h.sustains rate sustained with free | sustains
        · exact free
        · have le : (p.cycle rewardRate m).detachedTotal ≤ p.totalShares := Int.sub_le_self _ admissible.shares_fits.1
          omega
      subst free
      have before : (p.cycle 0 m).accumulated = 0 := by
        show ratio 0 p.totalShares * m.delay + p.compensation = 0
        rw [ratio_of_rate_zero, h.compensation_of_rate_zero, Int.zero_mul, Int.zero_add]
      have after : (p.cycle 0 m).nextAccumulated = 0 := by
        rw [Cycle.nextAccumulated_of_eq_zero zero, Cycle.nextRatio]
        show ratio 0 _ * m.delay = 0
        rw [ratio_of_rate_zero, Int.zero_mul]
      rw [before, after]
  · rw [Cycle.nextAccumulated_of_ne_zero zero]

/-- Where the rate sustains every total, each debt is covered by what its shares have been credited with. -/
theorem debt_le_credited (h : Reached rewardRate p log) (sustained : Sustained rewardRate log) {delay : Int}
    (latest : Until log delay) (who : Text) :
    (p.holding who).debt ≤ p.credited rewardRate delay (p.holding who).shares := by
  induction h generalizing delay with
  | start => simp [credited, accrued, holding, PoolState.empty]
  | @moved p next log m r before last accepted ih =>
    have reached := before.moved last accepted
    obtain ⟨admissible, rfl, rfl⟩ := attempt_eq_ok_iff.mp accepted
    obtain ⟨past, -⟩ := List.forall_mem_append.mp sustained
    have now : ((p.store m.who (p.cycle rewardRate m).outcome).holding who).debt ≤
        (p.store m.who (p.cycle rewardRate m).outcome).credited rewardRate m.delay
          ((p.store m.who (p.cycle rewardRate m).outcome).holding who).shares := by
      rw [holding_store]
      split
      · exact Int.le_refl _
      · rename_i other
        show _ ≤ (p.cycle rewardRate m).nextAccumulated * (p.holding who).shares / precision
        rw [before.accumulated_mul_shares past admissible (Ne.symm other)]
        exact ih past last
    have since : m.delay ≤ delay := latest _ (List.mem_append_right log (List.mem_singleton_self _))
    have rate : 0 ≤ (p.cycle rewardRate m).nextRatio :=
      ratio_nonneg admissible.rewardRate_fits.1 admissible.nextTotal_fits.1
    exact Int.le_trans now (credited_later _ rate (reached.holding_shares who).1 since)

/-- Where the rate sustains every total, a move is refused only because some number does not fit its width. -/
theorem attempt_error (h : Reached rewardRate p log) (sustained : Sustained rewardRate log) {m : Move}
    (latest : Until log m.delay) {f : Fault} (refused : p.attempt rewardRate m = .error f) :
    f.code = .numericOverflow := by
  simp only [attempt, bind_eq_error_iff, pure, Except.pure, reduceCtorEq, and_false, exists_false, or_false] at refused
  rcases rebalance_error_cases refused with ⟨quantity, width, n, rfl⟩ | ⟨fallen, -⟩ | ⟨exceeds, -⟩
  · rfl
  · have covered := h.debt_le_credited sustained latest m.who
    exact absurd covered (Int.not_le.mpr fallen)
  · have held := (h.holding_shares m.who).2
    exact absurd held (Int.not_le.mpr exceeds)

end Reached

namespace PoolState

/-- Whatever is refused in a history is refused to a move after the moves before it. -/
theorem attempt_of_error_mem_outcomes {p : PoolState} {rewardRate : Int} {moves : List Move} {f : Fault}
    (refused : .error f ∈ p.outcomes rewardRate moves) :
    ∃ before m rest, moves = before ++ m :: rest ∧ (p.run rewardRate before).attempt rewardRate m = .error f := by
  induction moves generalizing p with
  | nil => exact absurd refused List.not_mem_nil
  | cons m rest ih =>
    rcases List.mem_cons.mp refused with first | later
    · refine ⟨[], m, rest, rfl, ?_⟩
      cases attempted : p.attempt rewardRate m with
      | ok x =>
        rw [attempted] at first
        cases first
      | error e =>
        rw [attempted] at first
        cases first
        exact attempted
    · obtain ⟨before, m', rest', rfl, attempted⟩ := ih later
      exact ⟨m :: before, m', rest', rfl, attempted⟩

/-- A timely history is timely up to any of its attempts. -/
theorem Timely.of_append {rewardRate : Int} {moves more : List Move} (h : Timely rewardRate (moves ++ more)) :
    Timely rewardRate moves := by
  induction more using List.reverseRecOn with
  | nil => rwa [List.append_nil] at h
  | append_singleton more m ih =>
    rw [← List.append_assoc] at h
    exact ih h.of_append_singleton.1

end PoolState

/-- In a timely history whose rate sustains every total that it leaves, a move is refused only because some number does
not fit its width: no debt is ever found to have fallen or to be stale, and no shares to exceed the total. -/
theorem refused_only_for_width {rewardRate : Int} {moves : List Move} (timely : Timely rewardRate moves)
    (sustained : Sustained rewardRate (empty.journal rewardRate moves)) {f : Fault}
    (refused : .error f ∈ empty.outcomes rewardRate moves) : f.code = .numericOverflow := by
  obtain ⟨before, m, rest, rfl, attempted⟩ := attempt_of_error_mem_outcomes refused
  have past : Sustained rewardRate (empty.journal rewardRate before) := by
    rw [journal_append] at sustained
    exact (List.forall_mem_append.mp sustained).1
  rw [← List.singleton_append, ← List.append_assoc] at timely
  obtain ⟨timely, latest⟩ := timely.of_append.of_append_singleton
  exact (reached_run timely).attempt_error past latest attempted

/-- Two stakers come, one harvests, both leave so that the pool drains, and one comes back after an attempt to hold more
shares than fit. -/
def drainedPool : List Move :=
  [⟨"a", some 10, 0⟩, ⟨"b", some 20, 3⟩, ⟨"a", none, 4⟩, ⟨"a", some 0, 6⟩, ⟨"b", some 0, 7⟩, ⟨"b", some (2 ^ 64), 9⟩,
    ⟨"b", some 30, 9⟩, ⟨"a", some 5, 9⟩]

/-- The attempt is refused, and as an overflow. -/
theorem refused_only_for_width_drainedPool :
    Timely 100 drainedPool ∧ Sustained 100 (empty.journal 100 drainedPool) ∧
      .error (.unfit "next_shares" .u64 (2 ^ 64)) ∈ empty.outcomes 100 drainedPool ∧
      (Fault.unfit "next_shares" .u64 (2 ^ 64)).code = .numericOverflow := by
  have timely : Timely 100 drainedPool := by decide +kernel
  have sustained : Sustained 100 (empty.journal 100 drainedPool) := by decide +kernel
  have refused : .error (.unfit "next_shares" .u64 (2 ^ 64)) ∈ empty.outcomes 100 drainedPool := by decide +kernel
  exact ⟨timely, sustained, refused, refused_only_for_width timely sustained refused⟩

end YieldPool.Reward
