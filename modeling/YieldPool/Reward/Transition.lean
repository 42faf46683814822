import YieldPool.Reward.Accrual

/-!
# Settling, withdrawing and depositing

The three steps of which every move of stake is made. A step reads the bookkeeping of one participant and of its pool
and yields the participant's shares and debt with the pool's compensation. `settle` brings the debt up to date,
`withdraw` takes the shares out of the total and `deposit` puts shares in; the last two correct the compensation so
that what the other shares have earned is as before.
-/

namespace YieldPool.Reward

/-- The bookkeeping that a step reads: participant, pool, elapsed periods, and the pool's total before and after. -/
structure Step where
  shares : Int
  debt : Int
  compensation : Int
  delay : Int
  rewardRate : Int
  currentTotal : Int
  nextTotal : Int
deriving DecidableEq, Repr

/-- A participant's shares and debt with the pool's compensation. -/
structure Position where
  shares : Int
  debt : Int
  compensation : Int
deriving DecidableEq, Repr

/-- Refuses a step of which some quantity does not fit its width; the first such quantity is named. -/
def Step.check (s : Step) : Except Fault Unit := do
  let _ ← Width.u64.check "shares" s.shares
  let _ ← Width.u128.check "debt" s.debt
  let _ ← Width.i128.check "compensation" s.compensation
  let _ ← Width.u64.check "delay" s.delay
  let _ ← Width.u64.check "reward_rate" s.rewardRate
  let _ ← Width.u64.check "current_total_shares" s.currentTotal
  let _ ← Width.u64.check "next_total_shares" s.nextTotal
  return ()

/-- The ratio before the step. -/
def Step.currentRatio (s : Step) : Int := ratio s.rewardRate s.currentTotal

/-- The ratio after the step. -/
def Step.nextRatio (s : Step) : Int := ratio s.rewardRate s.nextTotal

/-- Brings the debt up to what the shares have earned; the rise is what is owed. The total stays, and the debt never
falls. -/
def settle (s : Step) : Except Fault Position := do
  s.check
  require (s.currentTotal = s.nextTotal) (.totalChanged s.currentTotal s.nextTotal)
  let debt ← accruedDebt s.currentRatio s.delay s.compensation s.shares
  require (s.debt ≤ debt) (.debtFallen s.debt debt)
  return ⟨s.shares, debt, s.compensation⟩

/-- The compensation after shares were taken out: what the other shares have earned stays, and nothing is left to be
compensated where the ratio is zero afterwards. -/
def Step.withdrawnCompensation (s : Step) : Int :=
  if s.nextRatio = 0 then 0 else s.compensation - (s.nextRatio - s.currentRatio) * s.delay

/-- Takes the shares of a settled participant out of the total, leaving neither shares nor debt. -/
def withdraw (s : Step) : Except Fault Position := do
  s.check
  require (s.nextTotal ≤ s.currentTotal) (.totalGrown s.currentTotal s.nextTotal)
  let expected ← accruedDebt s.currentRatio s.delay s.compensation s.shares
  require (s.debt = expected) (.debtUnsettled s.debt expected)
  let compensation ← Width.i128.check "compensation" s.withdrawnCompensation
  return ⟨0, 0, compensation⟩

/-- The compensation after shares were put in: what the other shares have earned stays, and a pool whose ratio was
zero starts without compensation. -/
def Step.depositedCompensation (s : Step) : Int :=
  if s.currentRatio = 0 then 0 else s.compensation + (s.currentRatio - s.nextRatio) * s.delay

/-- Puts shares into the total; what these shares would have earned so far is the participant's debt. -/
def deposit (s : Step) : Except Fault Position := do
  s.check
  require (s.currentTotal ≤ s.nextTotal) (.totalShrunk s.currentTotal s.nextTotal)
  require (s.debt = 0) (.debtCarried s.debt)
  let compensation ← Width.i128.check "compensation" s.depositedCompensation
  let debt ← accruedDebt s.nextRatio s.delay compensation s.shares
  return ⟨s.shares, debt, compensation⟩

end YieldPool.Reward
