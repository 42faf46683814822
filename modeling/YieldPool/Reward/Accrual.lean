import YieldPool.Reward.Fault

/-!
# Accrual of rewards

Rewards are paid by whole periods, counted from a pool's genesis. A pool pays its reward rate once in every period,
split among the shares of that period. The ratio is the reward of one share in one period, scaled by `precision` and
rounded down. What a share has earned since the pool began is the ratio times the number of periods plus the pool's
compensation, which stands for the periods in which the ratio was another. A participant's debt is what its shares have
earned, in whole reward units.
-/

namespace YieldPool

/-! ## Time -/

/-- Why a time is refused. -/
inductive ClockRefusal where
  /-- A period must have a positive length. -/
  | periodNotPositive (length : Int)
  /-- The time is before the genesis of the pool. -/
  | beforeGenesis (now genesis : Int)
  /-- A clock does not move backwards. -/
  | backwards (seconds : Int)
deriving DecidableEq, Repr

/-- The message of a refused time. -/
def ClockRefusal.message : ClockRefusal → Text
  | .periodNotPositive length => "period_length must be positive: " ++ Text.ofInt length
  | .beforeGenesis now genesis =>
    "clock is before pool genesis: now=" ++ Text.ofInt now ++ " genesis=" ++ Text.ofInt genesis
  | .backwards seconds => "cannot move clock backwards: " ++ Text.ofInt seconds

/-- The whole periods from the genesis until now. -/
def elapsedPeriods (genesis periodLength now : Int) : Except ClockRefusal Int :=
  if periodLength ≤ 0 then .error (.periodNotPositive periodLength)
  else if now < genesis then .error (.beforeGenesis now genesis)
  else .ok ((now - genesis) / periodLength)

/-- A clock that is set by hand, in whole seconds. -/
structure Clock where
  now : Int := 0
deriving DecidableEq, Repr

/-- The clock some seconds later. -/
def Clock.advance (c : Clock) (seconds : Int) : Except ClockRefusal Clock :=
  if seconds < 0 then .error (.backwards seconds) else .ok ⟨c.now + seconds⟩

namespace Reward

/-! ## Rewards -/

/-- The scale of ratios and compensations: 10^18. -/
def precision : Int := 1000000000000000000

/-- The scaled reward of one share in one period, rounded down; nothing in an empty pool. -/
def ratio (rewardRate totalShares : Int) : Int :=
  if totalShares = 0 then 0 else rewardRate * precision / totalShares

/-- The ratio of a rate and a total that fit 64 bits. -/
def fraction (rewardRate totalShares : Int) : Except Fault Int := do
  let rewardRate ← Width.u64.check "reward_rate" rewardRate
  let totalShares ← Width.u64.check "total_shares" totalShares
  return ratio rewardRate totalShares

/-- The scaled reward credited to one share after a number of periods. -/
def accumulator (ratio delay compensation : Int) : Int := ratio * delay + compensation

/-- The reward credited to shares after a number of periods, rounded down to whole units. -/
def accrued (ratio delay compensation shares : Int) : Int :=
  accumulator ratio delay compensation * shares / precision

/-- The accrued reward as a debt, which fits 128 bits. -/
def accruedDebt (ratio delay compensation shares : Int) : Except Fault Int :=
  Width.u128.check "debt" (accrued ratio delay compensation shares)

end Reward

end YieldPool
