import YieldPool.Reward.Accrual
import YieldPool.Effect
import YieldPool.Store

/-!
# Handling one operation

For each action, the conditions under which it is accepted and the store that it leaves. A handler works on a store
that is not committed yet and yields the new store with what came of the operation, or the first condition that does
not hold.
-/

namespace YieldPool.Handler

variable {L : Type}

/-- What an operation is handled with: who sent it, when, and under which configuration. -/
structure Context where
  sender : Text
  now : Int
  config : Config

/-- Anybody may open pools where no operator is named, and else only the operator. -/
def Context.mayOpenPools (c : Context) : Bool :=
  match c.config.operatorPubkey with
  | some operator => decide (operator = [] ∨ c.sender = operator)
  | none => true

/-- A pool that must exist. -/
def requirePool (s : Store L) (poolId : Text) : Except Error PoolRecord :=
  orRefuse (s.pool? poolId) (.action (.poolUnknown poolId))

/-- The sender must own the pool. -/
def requireOwner (pool : PoolRecord) (sender : Text) : Except Error Unit :=
  require (pool.owner = sender) (.action .ownerOnly)

/-- The pool must not be frozen. -/
def requireActive (pool : PoolRecord) : Except Error Unit :=
  require (pool.isFrozen = false) (.action (.poolFrozen pool.poolId))

/-- A participant that must have a record. -/
def requireParticipant (s : Store L) (owner poolId : Text) : Except Error ParticipantRecord :=
  orRefuse (s.participant? owner poolId) (.action (.participantUnknown owner poolId))

/-- The cycle that brings a participant to a number of shares. -/
def cycle (pool : PoolRecord) (participant : ParticipantRecord) (delay nextShares : Int) : Reward.Cycle :=
  ⟨participant.shares, participant.debt, pool.compensation, delay, pool.rewardRate, pool.totalShares, nextShares⟩

/-- The store with a reward paid to an account from the reward account of a pool; nothing moves where nothing is due. -/
def payOut [Custody L] (s : Store L) (pool : PoolRecord) (account : Text) (reward : Int) : Except Error (Store L) :=
  if 0 < reward then s.transfer (rewardAccount pool.poolId) account pool.rewardAsset reward else .ok s

/-- Runs the reward cycle, stores the new records and pays out the harvest. -/
def moveStake [Custody L] (now : Int) (s : Store L) (pool : PoolRecord) (participant : ParticipantRecord)
    (nextShares : Int) : Except Error (Store L × StakeChange) := do
  let delay ← elapsedPeriods pool.genesisTime pool.periodLength now
  let r ← Reward.rebalance (cycle pool participant delay nextShares)
  let nextPool ← pool.withStake r.totalShares r.position.compensation
  let nextParticipant ← participant.withHolding r.position.shares r.position.debt
  let s := (s.putPool nextPool).putParticipant nextParticipant
  let s ← payOut s pool participant.owner r.harvested
  return (s, ⟨delay, r.harvested, r.position.shares, r.position.debt, r.totalShares⟩)

/-- Opens a pool that belongs to the sender and starts now. -/
def initializePool (c : Context) (op : Operation) (s : Store L) : Except Error (Store L × Effect.Outcome) := do
  require (c.mayOpenPools = true) (.action .operatorOnly)
  require (s.pools.contains op.poolId = false) (.action (.poolExists op.poolId))
  let rewardRate ← Operation.requireInt "reward_rate" 0 c.config.maxRewardRate (op.field "reward_rate")
  let period ← Operation.requireInt "period" c.config.minPeriodSeconds c.config.maxPeriodSeconds (op.field "period")
  let stakeAsset ← Operation.requireText "stake_asset" Operation.longestName (op.field "stake_asset")
  let rewardAsset ← Operation.requireText "reward_asset" Operation.longestName (op.field "reward_asset")
  let pool ← PoolRecord.read {
    poolId := .text op.poolId
    owner := .text c.sender
    status := .status .initialized
    genesisTime := .int c.now
    periodLength := .int period
    rewardRate := .int rewardRate
    totalShares := .int 0
    compensation := .int 0
    stakeAsset := .text stakeAsset
    rewardAsset := .text rewardAsset }
  return (s.putPool pool, .poolOpened c.now)

/-- Opens a record without shares for the sender. -/
def initializeParticipant (c : Context) (op : Operation) (s : Store L) : Except Error (Store L × Effect.Outcome) := do
  let _ ← requirePool s op.poolId
  require (s.participant? c.sender op.poolId = none) (.action (.participantExists c.sender op.poolId))
  let participant ← ParticipantRecord.fresh op.poolId c.sender
  return (s.putParticipant participant, .participantOpened)

/-- The record of an owner in a pool, or a fresh one. -/
def participantOrFresh (s : Store L) (owner poolId : Text) : Except Error ParticipantRecord :=
  match s.participant? owner poolId with
  | some participant => .ok participant
  | none => ParticipantRecord.fresh poolId owner

/-- Moves tokens of the sender into the treasury and adds as many shares. -/
def stake [Custody L] (c : Context) (op : Operation) (s : Store L) : Except Error (Store L × Effect.Outcome) := do
  let pool ← requirePool s op.poolId
  requireActive pool
  let amount ← op.amount
  let participant ← participantOrFresh s c.sender op.poolId
  let s ← s.transfer c.sender (treasuryAccount pool.poolId) pool.stakeAsset amount
  let (s, change) ← moveStake c.now s pool participant (participant.shares + amount)
  return (s, .staked change amount)

/-- Takes shares away and moves as many tokens from the treasury to the sender. -/
def unstake [Custody L] (c : Context) (op : Operation) (s : Store L) : Except Error (Store L × Effect.Outcome) := do
  let pool ← requirePool s op.poolId
  requireActive pool
  let amount ← op.amount
  let participant ← requireParticipant s c.sender op.poolId
  require (amount ≤ participant.shares) (.action (.unstakeExceeds amount participant.shares))
  let (s, change) ← moveStake c.now s pool participant (participant.shares - amount)
  let s ← s.transfer (treasuryAccount pool.poolId) c.sender pool.stakeAsset amount
  return (s, .unstaked change amount)

/-- Pays out what the sender's shares have earned. -/
def harvest [Custody L] (c : Context) (op : Operation) (s : Store L) : Except Error (Store L × Effect.Outcome) := do
  let pool ← requirePool s op.poolId
  requireActive pool
  let participant ← requireParticipant s c.sender op.poolId
  let (s, change) ← moveStake c.now s pool participant participant.shares
  return (s, .harvested change)

/-- Freezes or thaws a pool of the sender. -/
def setStatus (status : PoolStatus) (c : Context) (op : Operation) (s : Store L) :
    Except Error (Store L × Effect.Outcome) := do
  let pool ← requirePool s op.poolId
  requireOwner pool c.sender
  return (s.putPool (pool.withStatus status), .statusSet status)

/-- Moves tokens of the sender into the reward account. -/
def seed [Custody L] (c : Context) (op : Operation) (s : Store L) : Except Error (Store L × Effect.Outcome) := do
  let pool ← requirePool s op.poolId
  let amount ← op.amount
  let s ← s.transfer c.sender (rewardAccount pool.poolId) pool.rewardAsset amount
  return (s, .seeded amount)

/-- Moves tokens from the reward account of a pool of the sender back to the sender. -/
def unseed [Custody L] (c : Context) (op : Operation) (s : Store L) : Except Error (Store L × Effect.Outcome) := do
  let pool ← requirePool s op.poolId
  requireOwner pool c.sender
  let amount ← op.amount
  let s ← s.transfer (rewardAccount pool.poolId) c.sender pool.rewardAsset amount
  return (s, .unseeded amount)

/-- Gives a pool of the sender to a new owner. -/
def transferPoolOwnership (c : Context) (op : Operation) (s : Store L) : Except Error (Store L × Effect.Outcome) := do
  let pool ← requirePool s op.poolId
  requireOwner pool c.sender
  let owner ← Operation.requireText "new_owner" Operation.longestName (op.field "new_owner")
  let pool ← pool.withOwner owner
  return (s.putPool pool, .ownerSet owner)

/-- Drops the sender's record, which must hold nothing. -/
def closeParticipant (c : Context) (op : Operation) (s : Store L) : Except Error (Store L × Effect.Outcome) := do
  let participant ← requireParticipant s c.sender op.poolId
  require (participant.isClosable = true) (.action (.participantHolds none))
  let s ← s.deleteParticipant c.sender op.poolId
  return (s, .participantClosed)

/-- Drops one record of a pool that is being closed, which must hold nothing. -/
def dropParticipant (s : Store L) (participant : ParticipantRecord) : Except Error (Store L) := do
  require (participant.isClosable = true) (.action (.participantHolds (some participant.owner)))
  s.deleteParticipant participant.owner participant.poolId

/-- Drops an empty pool of the sender with its records, and moves what is left of its rewards to the sender. -/
def closePool [Custody L] (c : Context) (op : Operation) (s : Store L) : Except Error (Store L × Effect.Outcome) := do
  let pool ← requirePool s op.poolId
  requireOwner pool c.sender
  require (pool.totalShares = 0) (.action (.poolHoldsShares pool.totalShares))
  let s ← (s.participantsOf pool.poolId).foldlM dropParticipant s
  let (s, leftover) ← s.sweep (rewardAccount pool.poolId) c.sender pool.rewardAsset
  let s ← s.deletePool pool.poolId
  return (s, .poolClosed leftover)

/-- The handler of an action. -/
def ofAction [Custody L] : Action → Context → Operation → Store L → Except Error (Store L × Effect.Outcome)
  | .initializePool => initializePool
  | .initializeParticipant => initializeParticipant
  | .stake => stake
  | .unstake => unstake
  | .harvest => harvest
  | .freezePool => setStatus .frozen
  | .thawPool => setStatus .initialized
  | .seed => seed
  | .unseed => unseed
  | .transferPoolOwnership => transferPoolOwnership
  | .closeParticipant => closeParticipant
  | .closePool => closePool

end YieldPool.Handler
