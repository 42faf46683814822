import YieldPool.Reward.Transition

/-!
# Rebalancing

Every change of stake, a mere harvest included, is one cycle: settle, withdraw all shares, deposit the new number of
shares. The settlement's rise of the debt is the harvest.
-/

namespace YieldPool.Reward

/-- A participant and its pool before a cycle, with the number of shares wanted after it. -/
structure Cycle where
  shares : Int
  debt : Int
  compensation : Int
  delay : Int
  rewardRate : Int
  totalShares : Int
  nextShares : Int
deriving DecidableEq, Repr

/-- What a cycle pays out, the position after it, and the pool's new total. -/
structure Rebalanced where
  harvested : Int
  position : Position
  totalShares : Int
deriving DecidableEq, Repr

/-- The step that brings the debt up to date. -/
def Cycle.settlement (c : Cycle) : Step :=
  ⟨c.shares, c.debt, c.compensation, c.delay, c.rewardRate, c.totalShares, c.totalShares⟩

/-- The total without the participant's shares. -/
def Cycle.detachedTotal (c : Cycle) : Int := c.totalShares - c.shares

/-- The step that takes all shares of the settled participant out. -/
def Cycle.withdrawal (c : Cycle) (settled : Position) : Step :=
  ⟨settled.shares, settled.debt, settled.compensation, c.delay, c.rewardRate, c.totalShares, c.detachedTotal⟩

/-- The step that puts the new shares in. -/
def Cycle.depositing (c : Cycle) (withdrawn : Position) (nextTotal : Int) : Step :=
  ⟨c.nextShares, withdrawn.debt, withdrawn.compensation, c.delay, c.rewardRate, c.detachedTotal, nextTotal⟩

/-- Settles, withdraws and deposits. -/
def rebalance (c : Cycle) : Except Fault Rebalanced := do
  let _ ← Width.u64.check "next_shares" c.nextShares
  require (c.shares ≤ c.totalShares) (.sharesExceedTotal c.shares c.totalShares)
  let settled ← settle c.settlement
  let withdrawn ← withdraw (c.withdrawal settled)
  let nextTotal ← Width.u64.check "total_shares" (c.detachedTotal + c.nextShares)
  let deposited ← deposit (c.depositing withdrawn nextTotal)
  return ⟨settled.debt - c.debt, deposited, nextTotal⟩

/-- The cycle that leaves the number of shares as it is. -/
def Cycle.harvesting (c : Cycle) : Cycle := { c with nextShares := c.shares }

/-- Claims what is owed without a change of stake. -/
def harvest (c : Cycle) : Except Fault Rebalanced := rebalance c.harvesting

end YieldPool.Reward
