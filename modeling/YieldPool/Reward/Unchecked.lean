import YieldPool.Error
import YieldPool.Reward.History
import YieldPool.Value.Arithmetic
import YieldPool.Value.Compare

/-!
# Operands that have not been checked

A caller may hand over a value where the reward engine wants an integer. The functions here read such operands in the
order in which the engine looks at them, so that the first one that is of the wrong kind or out of its width is
reported; from there on the engine's own functions do the work. Times and numbers of seconds are compared and calculated
with as far as their kinds allow.
-/

namespace YieldPool

/-- The integer of a value that is an integer and fits a width. -/
def Width.read (w : Width) (quantity : Text) (v : Value) : Except Error Int :=
  match v with
  | .int n => w.check quantity n
  | _ => .error (.operand (.notInt quantity v.kind))

namespace Reward

/-- The ratio of an unchecked rate and total. -/
def readFraction (rewardRate totalShares : Value) : Except Error Int := do
  let rewardRate ← Width.u64.read "reward_rate" rewardRate
  let totalShares ← Width.u64.read "total_shares" totalShares
  return ratio rewardRate totalShares

/-- The accumulator of unchecked operands. -/
def readAccumulator (ratio delay compensation : Value) : Except Misuse Outcome := do
  let product ← (← Outcome.ofValue ratio).times (← Outcome.ofValue delay)
  product.plus (← Outcome.ofValue compensation)

/-- The accrued debt of unchecked operands, which must come out as an integer. -/
def readAccruedDebt (ratio delay compensation shares : Value) : Except Error Int := do
  let earned ← readAccumulator ratio delay compensation
  let product ← earned.times (← Outcome.ofValue shares)
  match ← product.quotient (.exact precision) with
  | .exact n => Width.u128.check "debt" n
  | other => throw (.operand (.notInt "debt" other.kind))

/-- A step of unchecked operands. -/
def Step.read (shares debt compensation delay rewardRate currentTotal nextTotal : Value) : Except Error Step := do
  let shares ← Width.u64.read "shares" shares
  let debt ← Width.u128.read "debt" debt
  let compensation ← Width.i128.read "compensation" compensation
  let delay ← Width.u64.read "delay" delay
  let rewardRate ← Width.u64.read "reward_rate" rewardRate
  let currentTotal ← Width.u64.read "current_total_shares" currentTotal
  let nextTotal ← Width.u64.read "next_total_shares" nextTotal
  return ⟨shares, debt, compensation, delay, rewardRate, currentTotal, nextTotal⟩

/-- A cycle of unchecked operands. Shares and total are compared before they are known to be integers. -/
def Cycle.read (shares debt compensation delay rewardRate totalShares nextShares : Value) : Except Error Cycle := do
  let nextShares ← Width.u64.read "next_shares" nextShares
  let exceeding ← orRefuse (totalShares.below? shares) (.misuse .noOrder)
  require (exceeding = false) (.operand (.sharesExceedTotal shares totalShares))
  let s ← Step.read shares debt compensation delay rewardRate totalShares totalShares
  return ⟨s.shares, s.debt, s.compensation, s.delay, s.rewardRate, s.currentTotal, nextShares⟩

/-- The rules that unchecked books violate. Truth values count as numbers here. -/
def readViolations (totalShares compensation shares debts : Value) : Except Misuse (List Violation) := do
  let within (w : Width) (v : Value) : Except Misuse Bool :=
    match v.number? with
    | some n => .ok ((Number.exact w.least).atMost n && n.atMost (.exact w.greatest))
    | none => .error .noOrder
  let isZero (v : Value) : Bool := v.same (.int 0)
  let sum ← Value.sum (← shares.items)
  let matching := match totalShares.number? with
    | some total => total.same sum
    | none => false
  let totalFits ← within .u64 totalShares
  let compensationFits ← within .i128 compensation
  let uncompensated := !isZero totalShares || isZero compensation
  let debtsFit ← (← debts.items).foldlM (fun fits debt => if fits then within .u128 debt else .ok false) true
  return (Violation.all.zip [matching, totalFits, compensationFits, uncompensated, debtsFit]).filterMap
    fun (violation, obeyed) => if obeyed then none else some violation

/-- The cycle of a participant in a pool with unchecked numbers of shares and periods; null asks for a harvest. -/
def PoolState.readCycle (p : PoolState) (rewardRate : Value) (who : Text) (nextShares delay : Value) :
    Except Error Cycle :=
  let held := p.holding who
  let wanted := match nextShares with
    | .null => .int held.shares
    | v => v
  Cycle.read (.int held.shares) (.int held.debt) (.int p.compensation) delay rewardRate (.int p.totalShares) wanted

/-- The pool after an unchecked move, and the outcome of the cycle. -/
def PoolState.readAttempt (p : PoolState) (rewardRate : Value) (who : Text) (nextShares delay : Value) :
    Except Error (PoolState × Rebalanced) := do
  let cycle ← p.readCycle rewardRate who nextShares delay
  let r ← rebalance cycle
  return (p.store who r, r)

end Reward

/-! ## Times -/

/-- The elapsed periods of unchecked times. -/
def readElapsedPeriods (genesis periodLength now : Value) : Except Error Outcome := do
  let length ← orRefuse periodLength.number? (.misuse .noOrder)
  require (length.atMost (.exact 0) = false) (.operand (.periodNotPositive periodLength))
  let early ← orRefuse (now.below? genesis) (.misuse .noOrder)
  require (early = false) (.operand (.beforeGenesis now genesis))
  let elapsed ← (← Outcome.ofValue now).minus (← Outcome.ofValue genesis)
  elapsed.quotient (← Outcome.ofValue periodLength)

/-- The time of a clock that was set to an unchecked time, an unchecked number of seconds later. -/
def readAdvance (now seconds : Value) : Except Error Outcome := do
  let given ← orRefuse seconds.number? (.misuse .noOrder)
  require (given.below (.exact 0) = false) (.operand (.backwards seconds))
  (← Outcome.ofValue now).plus (← Outcome.ofValue seconds)

end YieldPool
