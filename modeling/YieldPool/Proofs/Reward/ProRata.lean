import Mathlib.Algebra.Order.Field.Basic
import YieldPool.Proofs.Reward.Coverage
import YieldPool.Proofs.Reward.Solvency

/-!
# Payout pro rata

In each interval between two moves a participant earns the ratio for each share and period. What a pool pays follows
this exact sum: the harvests of a participant, with what its shares have been credited with beyond its debt
(`PoolState.uncollected`), differ from what was earned only by what rounding moves at each of the participant's own
moves (`uncollected_moved`). A move of another changes nothing (`uncollected_of_ne`), as long as the rate sustains every
total.
-/

namespace YieldPool.Reward

open PoolState Journal

namespace Journal

/-- The successful moves of one participant. -/
def ofMover (who : Text) (log : List Entry) : List Entry := log.filter fun e => decide (e.move.who = who)

/-- An own entry comes last among the own ones. -/
theorem ofMover_append_singleton_of_eq {who : Text} {e : Entry} (own : e.move.who = who) (log : List Entry) :
    ofMover who (log ++ [e]) = ofMover who log ++ [e] := by
  simp [ofMover, own]

/-- An entry of another is not among the own ones. -/
theorem ofMover_append_singleton_of_ne {who : Text} {e : Entry} (other : e.move.who ≠ who) (log : List Entry) :
    ofMover who (log ++ [e]) = ofMover who log := by
  simp [ofMover, other]

/-- An entry adds its harvest. -/
theorem harvested_append_singleton (log : List Entry) (e : Entry) :
    harvested (log ++ [e]) = harvested log + e.outcome.harvested := by
  simp [harvested]

end Journal

namespace PoolState

/-- What a participant's shares earn in one period, scaled. -/
def earning (p : PoolState) (rewardRate : Int) (who : Text) : Int :=
  ratio rewardRate p.totalShares * (p.holding who).shares

/-- What a participant's shares earn, scaled and without rounding, in the intervals between the moves of a history: the
first interval begins at one delay, and the last one ends at another. -/
def earned (p : PoolState) (rewardRate : Int) (who : Text) (first last : Int) : List Move → Int
  | [] => p.earning rewardRate who * (last - first)
  | m :: rest =>
    p.earning rewardRate who * (m.delay - first) + (p.after rewardRate m).earned rewardRate who m.delay last rest

/-- What a participant's shares have been credited with beyond its debt, scaled and without rounding. -/
def uncollected (p : PoolState) (rewardRate delay : Int) (who : Text) : Int :=
  accumulator (ratio rewardRate p.totalShares) delay p.compensation * (p.holding who).shares -
    (p.holding who).debt * precision

variable {rewardRate : Int}

/-- A further move ends the last interval, and the next one begins with what it leaves. -/
theorem earned_append_singleton (p : PoolState) (who : Text) (first delay : Int) (moves : List Move) (m : Move) :
    p.earned rewardRate who first delay (moves ++ [m]) =
      p.earned rewardRate who first m.delay moves +
        (p.run rewardRate (moves ++ [m])).earning rewardRate who * (delay - m.delay) := by
  induction moves generalizing p first with
  | nil => rfl
  | cons head rest ih =>
    have others := ih (p.after rewardRate head) head.delay
    rw [List.cons_append, earned, earned, others, Int.add_assoc]
    rfl

/-- What is not collected rises by what is earned. -/
theorem uncollected_later (p : PoolState) (who : Text) (delay later : Int) :
    p.uncollected rewardRate later who =
      p.uncollected rewardRate delay who + p.earning rewardRate who * (later - delay) := by
  unfold uncollected earning
  rw [accumulator_later _ delay later]
  ring

/-- A settlement pays what is not collected, but for less than a unit. -/
theorem uncollected_of_settle {p : PoolState} {delay : Int} {who : Text} {settled : Position}
    (accepted : settle (p.settlement rewardRate delay who) = .ok settled) :
    (settled.debt - (p.holding who).debt) * precision ≤ p.uncollected rewardRate delay who ∧
      p.uncollected rewardRate delay who < (settled.debt - (p.holding who).debt + 1) * precision := by
  obtain ⟨-, -, -, rfl⟩ := Cycle.settle_settlement.mp accepted
  have floor := accrued_mul_le (ratio rewardRate p.totalShares) delay p.compensation (p.holding who).shares
  have ceil := lt_accrued_add_one_mul (ratio rewardRate p.totalShares) delay p.compensation (p.holding who).shares
  have debt : (p.cycle rewardRate ⟨who, none, delay⟩).settled.debt =
      accrued (ratio rewardRate p.totalShares) delay p.compensation (p.holding who).shares := rfl
  rw [debt]
  unfold uncollected
  constructor
  · linarith
  · linarith

/-- A move of a participant harvests what it had not collected, but for less than a unit that rounding moves. The debts
before and after the move are both rounded down. -/
theorem uncollected_moved {p next : PoolState} {m : Move} {r : Rebalanced}
    (accepted : p.attempt rewardRate m = .ok (next, r)) :
    |r.harvested * precision + next.uncollected rewardRate m.delay m.who -
      p.uncollected rewardRate m.delay m.who| ≤ precision := by
  obtain ⟨-, rfl, rfl⟩ := attempt_eq_ok_iff.mp accepted
  have floor := accrued_mul_le (ratio rewardRate p.totalShares) m.delay p.compensation (p.holding m.who).shares
  have ceil := lt_accrued_add_one_mul (ratio rewardRate p.totalShares) m.delay p.compensation (p.holding m.who).shares
  have nextFloor := accrued_mul_le (p.cycle rewardRate m).nextRatio m.delay (p.cycle rewardRate m).nextCompensation
    (p.cycle rewardRate m).nextShares
  have nextCeil := lt_accrued_add_one_mul (p.cycle rewardRate m).nextRatio m.delay
    (p.cycle rewardRate m).nextCompensation (p.cycle rewardRate m).nextShares
  have harvest : (p.cycle rewardRate m).outcome.harvested =
      accrued (ratio rewardRate p.totalShares) m.delay p.compensation (p.holding m.who).shares -
        (p.holding m.who).debt := rfl
  have after : (p.store m.who (p.cycle rewardRate m).outcome).uncollected rewardRate m.delay m.who =
      accumulator (p.cycle rewardRate m).nextRatio m.delay (p.cycle rewardRate m).nextCompensation *
          (p.cycle rewardRate m).nextShares -
        accrued (p.cycle rewardRate m).nextRatio m.delay (p.cycle rewardRate m).nextCompensation
          (p.cycle rewardRate m).nextShares * precision := by
    unfold uncollected
    rw [holding_store, if_pos rfl]
    rfl
  rw [harvest, after, abs_le]
  unfold uncollected
  constructor <;> linarith

end PoolState

namespace Reached

variable {rewardRate : Int} {p next : PoolState} {log : List Entry} {m : Move} {r : Rebalanced}

/-- Where the rate sustains every total, a move leaves what others have not collected. -/
theorem uncollected_of_ne (h : Reached rewardRate p log) (sustained : Sustained rewardRate log)
    (accepted : p.attempt rewardRate m = .ok (next, r)) {who : Text} (ne : m.who ≠ who) :
    next.uncollected rewardRate m.delay who = p.uncollected rewardRate m.delay who := by
  obtain ⟨admissible, rfl, rfl⟩ := attempt_eq_ok_iff.mp accepted
  have credited := h.accumulated_mul_shares sustained admissible (Ne.symm ne)
  unfold uncollected
  rw [holding_store, if_neg ne]
  exact congrArg (fun n => n - (p.holding who).debt * precision) credited

end Reached

/-- The harvests of a participant, with what it has not collected, differ from what it earned by at most one unit for
each of its moves. A refused attempt changes nothing, and what is earned after it adds to both sides. -/
theorem harvested_and_uncollected_near {rewardRate : Int} {moves : List Move} (timely : Timely rewardRate moves)
    (sustained : Sustained rewardRate (empty.journal rewardRate moves)) (who : Text) (delay : Int) :
    |harvested (ofMover who (empty.journal rewardRate moves)) * precision +
        (empty.run rewardRate moves).uncollected rewardRate delay who - empty.earned rewardRate who 0 delay moves| ≤
      (ofMover who (empty.journal rewardRate moves)).length * precision := by
  induction moves using List.reverseRecOn generalizing delay with
  | nil => simp [harvested, ofMover, uncollected, earned, earning, holding, PoolState.empty, run]
  | append_singleton moves m ih =>
    obtain ⟨timely, -⟩ := timely.of_append_singleton
    rw [uncollected_later _ who m.delay delay, earned_append_singleton]
    rw [run_append_singleton, journal_append] at *
    cases attempted : (empty.run rewardRate moves).attempt rewardRate m with
    | error f =>
      rw [journal_cons_of_error attempted, journal_nil, List.append_nil] at *
      rw [after_of_error attempted]
      have before := ih timely sustained m.delay
      convert before using 2
      ring
    | ok x =>
      obtain ⟨next, r⟩ := x
      rw [journal_cons_of_ok attempted, journal_nil] at *
      rw [after_of_ok attempted]
      obtain ⟨past, -⟩ := List.forall_mem_append.mp sustained
      have before := ih timely past m.delay
      by_cases own : m.who = who
      · subst own
        have moved := uncollected_moved attempted
        rw [ofMover_append_singleton_of_eq (e := ⟨m, r⟩) rfl, harvested_append_singleton, List.length_append,
          List.length_singleton]
        push_cast
        rw [abs_le] at before moved ⊢
        constructor <;> linarith
      · have same := (reached_run timely).uncollected_of_ne past attempted own
        rw [ofMover_append_singleton_of_ne own, same]
        convert before using 2
        ring

/-- Scaled amounts that are near each other are near each other in units. -/
theorem abs_sub_div_precision_lt {paid earned : Int} {n : Nat}
    (near : |paid * precision - earned| < (n + 1) * precision) : |(paid : ℚ) - earned / precision| < 1 + n := by
  have pos : (0 : ℚ) < precision := by exact_mod_cast precision_pos
  obtain ⟨low, high⟩ := abs_lt.mp near
  have low : -(((n : ℚ) + 1) * precision) < paid * precision - earned := by exact_mod_cast low
  have high : (paid : ℚ) * precision - earned < (n + 1) * precision := by exact_mod_cast high
  have above : (earned : ℚ) / precision < paid + (1 + n) := by
    rw [div_lt_iff₀ pos]
    linarith
  have below : (paid : ℚ) - (1 + n) < earned / precision := by
    rw [lt_div_iff₀ pos]
    linarith
  rw [abs_lt]
  constructor
  · linarith
  · linarith

/-- In a timely history whose rate sustains every total that it leaves, what a participant has harvested, together with
what a settlement at a delay would still pay, differs from the exact sum of what its shares earned in the intervals
between the moves and until then by less than one unit, and one for each of its successful moves. -/
theorem payout_near_earned {rewardRate : Int} {moves : List Move} (timely : Timely rewardRate moves)
    (sustained : Sustained rewardRate (empty.journal rewardRate moves)) {delay : Int} {who : Text} {settled : Position}
    (accepted : settle ((empty.run rewardRate moves).settlement rewardRate delay who) = .ok settled) :
    |((harvested (ofMover who (empty.journal rewardRate moves)) +
          (settled.debt - ((empty.run rewardRate moves).holding who).debt) : Int) : ℚ) -
        (empty.earned rewardRate who 0 delay moves : ℚ) / (precision : ℚ)| <
      1 + ((ofMover who (empty.journal rewardRate moves)).length : ℚ) := by
  have near := harvested_and_uncollected_near timely sustained who delay
  obtain ⟨floor, ceil⟩ := uncollected_of_settle accepted
  apply abs_sub_div_precision_lt
  rw [abs_le] at near
  rw [abs_lt]
  constructor
  · linarith
  · linarith

/-- The second staker of the drained pool is paid before and after it drains. -/
theorem payout_near_earned_drainedPool :
    Timely 100 drainedPool ∧ Sustained 100 (empty.journal 100 drainedPool) ∧
      ∃ settled, settle ((empty.run 100 drainedPool).settlement 100 12 "b") = .ok settled ∧
        |((harvested (ofMover "b" (empty.journal 100 drainedPool)) +
              (settled.debt - ((empty.run 100 drainedPool).holding "b").debt) : Int) : ℚ) -
            (empty.earned 100 "b" 0 12 drainedPool : ℚ) / (precision : ℚ)| <
          1 + ((ofMover "b" (empty.journal 100 drainedPool)).length : ℚ) := by
  have timely : Timely 100 drainedPool := by decide +kernel
  have sustained : Sustained 100 (empty.journal 100 drainedPool) := by decide +kernel
  have accepted : settle ((empty.run 100 drainedPool).settlement 100 12 "b") =
      .ok ⟨30, 1157, 4285714285714285719⟩ := by decide +kernel
  exact ⟨timely, sustained, _, accepted, payout_near_earned timely sustained accepted⟩

end YieldPool.Reward
