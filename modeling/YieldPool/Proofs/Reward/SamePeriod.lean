import YieldPool.Proofs.Reward.Cycle

/-!
# Moves of one participant within one period

Of several cycles of one participant at one delay, each takes the shares that the one before has put in out of the total
again, so all of them have the others' shares in common (`Cycle.detachedTotal_following`). Whatever a cycle does after
that depends on what it finds only through the accumulator, which a cycle keeps unless it starts anew, and then it
starts anew in all of them. So the second of two cycles has nothing to harvest and ends where a single cycle would have
ended (`Cycle.outcome_following`), and moves within one period collapse into one (`same_period_moves_collapse`).
-/

namespace YieldPool.Reward

/-- A participant's position with the total of its pool. -/
structure Standing where
  position : Position
  totalShares : Int
deriving DecidableEq, Repr

/-- Where a cycle leaves the participant. -/
def Rebalanced.standing (r : Rebalanced) : Standing := ⟨r.position, r.totalShares⟩

namespace Standing

/-- The cycle that asks for a number of shares. -/
def cycle (st : Standing) (rewardRate delay nextShares : Int) : Cycle :=
  ⟨st.position.shares, st.position.debt, st.position.compensation, delay, rewardRate, st.totalShares, nextShares⟩

/-- What comes of cycles at one delay that ask for one number of shares after the other. -/
def moves (st : Standing) (rewardRate delay : Int) : List Int → Except Fault (List Rebalanced)
  | [] => .ok []
  | target :: rest => do
    let first ← rebalance (st.cycle rewardRate delay target)
    let later ← first.standing.moves rewardRate delay rest
    return first :: later

theorem moves_nil_eq_ok_iff {st : Standing} {rewardRate delay : Int} {outcomes : List Rebalanced} :
    st.moves rewardRate delay [] = .ok outcomes ↔ [] = outcomes := by
  simp only [moves, Except.ok.injEq]

/-- Targets are reached one after the other. -/
theorem moves_cons_eq_ok_iff {st : Standing} {rewardRate delay target : Int} {rest : List Int}
    {outcomes : List Rebalanced} :
    st.moves rewardRate delay (target :: rest) = .ok outcomes ↔
      ∃ first, rebalance (st.cycle rewardRate delay target) = .ok first ∧
        ∃ later, first.standing.moves rewardRate delay rest = .ok later ∧ first :: later = outcomes := by
  simp only [moves, bind_eq_ok_iff, pure, Except.pure, Except.ok.injEq]

end Standing

namespace Cycle

/-- The cycle that asks for another number of shares. -/
def redirected (c : Cycle) (target : Int) : Cycle := { c with nextShares := target }

/-- The cycle after a cycle, at the same delay. -/
def following (c : Cycle) (target : Int) : Cycle := c.outcome.standing.cycle c.rewardRate c.delay target

/-- A cycle has the others' shares in common with the one after it. -/
theorem detachedTotal_following (c : Cycle) (target : Int) : (c.following target).detachedTotal = c.detachedTotal := by
  show c.nextTotal - c.nextShares = c.detachedTotal
  rw [nextTotal, Int.add_sub_cancel]

/-- The next cycle of a participant has the others' shares at the same ratio. -/
theorem detachedRatio_following (c : Cycle) (target : Int) : (c.following target).detachedRatio = c.detachedRatio := by
  rw [detachedRatio, detachedTotal_following]
  rfl

/-- The next cycle of a participant leads to the total that the first would have led to. -/
theorem nextTotal_following (c : Cycle) (target : Int) :
    (c.following target).nextTotal = (c.redirected target).nextTotal := by
  rw [nextTotal, detachedTotal_following]
  rfl

/-- The next cycle of a participant leads to the ratio that the first would have led to. -/
theorem nextRatio_following (c : Cycle) (target : Int) :
    (c.following target).nextRatio = (c.redirected target).nextRatio := by
  rw [nextRatio, nextTotal_following]
  rfl

/-- What one share has been credited with before a cycle is what the cycle before left, which is what there was before
that one if the others' shares have a ratio. -/
theorem accumulated_following {c : Cycle} (paid : c.detachedRatio ≠ 0) (target : Int) :
    (c.following target).accumulated = c.accumulated :=
  nextAccumulated_of_ne_zero paid

/-- The second of two cycles leaves the compensation that it would leave in the stead of the first. -/
theorem nextCompensation_following (c : Cycle) (target : Int) :
    (c.following target).nextCompensation = (c.redirected target).nextCompensation := by
  unfold nextCompensation
  rw [detachedRatio_following, nextRatio_following]
  by_cases unpaid : c.detachedRatio = 0
  · rw [if_pos unpaid]
    exact (if_pos unpaid).symm
  · rw [if_neg unpaid, accumulated_following unpaid]
    exact (if_neg unpaid).symm

/-- The next cycle of a participant leads to the debt that the first would have led to. -/
theorem nextDebt_following (c : Cycle) (target : Int) :
    (c.following target).nextDebt = (c.redirected target).nextDebt := by
  rw [nextDebt, nextRatio_following, nextCompensation_following]
  rfl

/-- The second of two cycles harvests nothing, and ends where it would end in the stead of the first. -/
theorem outcome_following (c : Cycle) (target : Int) :
    (c.following target).outcome = ⟨0, (c.redirected target).deposited, (c.redirected target).nextTotal⟩ := by
  have harvested : (c.following target).due - (c.following target).debt = 0 := Int.sub_self c.nextDebt
  have position : (c.following target).deposited = (c.redirected target).deposited := by
    rw [deposited, nextDebt_following, nextCompensation_following]
    rfl
  rw [outcome, harvested, position, nextTotal_following]

/-- Where two cycles succeed one after the other, the second does in the stead of the first. -/
theorem Admissible.redirected {c : Cycle} (first : c.Admissible) {target : Int}
    (second : (c.following target).Admissible) : (c.redirected target).Admissible where
  shares_fits := first.shares_fits
  debt_fits := first.debt_fits
  compensation_fits := first.compensation_fits
  delay_fits := first.delay_fits
  rewardRate_fits := first.rewardRate_fits
  totalShares_fits := first.totalShares_fits
  nextShares_fits := second.nextShares_fits
  nextTotal_fits := nextTotal_following c target ▸ second.nextTotal_fits
  shares_le := first.shares_le
  debt_le := first.debt_le
  due_fits := first.due_fits
  detachedCompensation_fits := first.detachedCompensation_fits
  nextCompensation_fits := nextCompensation_following c target ▸ second.nextCompensation_fits
  nextDebt_fits := nextDebt_following c target ▸ second.nextDebt_fits

/-- Two cycles that succeed one after the other come to what one cycle in their stead comes to, and the first of them
harvests it all. -/
theorem rebalance_redirected {c : Cycle} {first second : Rebalanced} {target : Int} (moved : rebalance c = .ok first)
    (again : rebalance (first.standing.cycle c.rewardRate c.delay target) = .ok second) :
    second.harvested = 0 ∧
      rebalance (c.redirected target) = .ok ⟨first.harvested, second.position, second.totalShares⟩ := by
  obtain ⟨admissible, rfl⟩ := rebalance_eq_ok_iff.mp moved
  obtain ⟨following, rfl⟩ := rebalance_eq_ok_iff.mp again
  have outcome := outcome_following c target
  refine ⟨congrArg Rebalanced.harvested outcome, ?_⟩
  refine rebalance_eq_ok_iff.mpr ⟨admissible.redirected following, ?_⟩
  show _ = Rebalanced.mk _ (c.following target).outcome.position (c.following target).outcome.totalShares
  rw [outcome]
  rfl

end Cycle

/-- Where cycles of one participant at one delay succeed one after the other, the first of them harvests all and the
others nothing, and a single cycle that asks for the last number of shares succeeds, with the same harvest and the same
shares, debt, compensation and total in the end. -/
theorem same_period_moves_collapse {st : Standing} {rewardRate delay target : Int} {targets : List Int}
    {outcomes : List Rebalanced} (succeed : st.moves rewardRate delay (target :: targets) = .ok outcomes) :
    ∃ first later, outcomes = first :: later ∧ rebalance (st.cycle rewardRate delay target) = .ok first ∧
      (∀ r ∈ later, r.harvested = 0) ∧
      rebalance (st.cycle rewardRate delay (targets.getLastD target)) =
        .ok ⟨first.harvested, (later.getLastD first).position, (later.getLastD first).totalShares⟩ := by
  induction targets generalizing st target outcomes with
  | nil =>
    obtain ⟨first, moved, _, none, rfl⟩ := Standing.moves_cons_eq_ok_iff.mp succeed
    obtain rfl := Standing.moves_nil_eq_ok_iff.mp none
    exact ⟨first, [], rfl, moved, by simp, moved⟩
  | cons next rest ih =>
    obtain ⟨first, moved, _, onwards, rfl⟩ := Standing.moves_cons_eq_ok_iff.mp succeed
    obtain ⟨second, later, rfl, again, nothing, direct⟩ := ih onwards
    obtain ⟨none, -⟩ := Cycle.rebalance_redirected moved again
    obtain ⟨-, whole⟩ := Cycle.rebalance_redirected moved direct
    refine ⟨first, second :: later, rfl, moved, List.forall_mem_cons.mpr ⟨none, nothing⟩, ?_⟩
    rw [List.getLastD_cons, List.getLastD_cons]
    exact whole

/-- The only staker of a pool. -/
def soleStaker : Standing := ⟨⟨10, 3, 2 * 10 ^ 18⟩, 10⟩

/-- The only staker claims twice, leaves so that the pool is empty, and comes back. -/
theorem same_period_moves_collapse_soleStaker :
    ∃ later, soleStaker.moves 7 5 [10, 10, 0, 45] = .ok (⟨52, ⟨10, 35, 0⟩, 10⟩ :: later) ∧
      (∀ r ∈ later, r.harvested = 0) ∧
      rebalance (soleStaker.cycle 7 5 45) =
        .ok ⟨52, (later.getLastD ⟨52, ⟨10, 35, 0⟩, 10⟩).position,
          (later.getLastD ⟨52, ⟨10, 35, 0⟩, 10⟩).totalShares⟩ := by
  have succeed : soleStaker.moves 7 5 [10, 10, 0, 45] = .ok [⟨52, ⟨10, 35, 0⟩, 10⟩, ⟨0, ⟨10, 35, 0⟩, 10⟩,
      ⟨0, ⟨0, 0, 0⟩, 0⟩, ⟨0, ⟨45, 34, 0⟩, 45⟩] := by decide +kernel
  obtain ⟨first, later, outcomes, -, nothing, direct⟩ := same_period_moves_collapse succeed
  obtain ⟨rfl, rfl⟩ := List.cons.inj outcomes
  exact ⟨_, succeed, nothing, direct⟩

end YieldPool.Reward
