import YieldPool.Error

/-!
# Stored records

The state of one pool and of one participant in a pool, as the store keeps it. The fields are within the widths in
which they are stored, and no name is empty; a record that breaks this cannot be made. `PoolRecord.read` and
`ParticipantRecord.read` make records from unchecked fields and report the first field that is refused.
-/

namespace YieldPool

namespace PoolStatus

/-- The status with a name. -/
def ofName? (t : Text) : Option PoolStatus :=
  if t = PoolStatus.initialized.name then some .initialized
  else if t = PoolStatus.frozen.name then some .frozen
  else none

/-- The status that a value is or names. -/
def ofValue? : Value → Option PoolStatus
  | .status s => some s
  | .text t => ofName? t
  | _ => none

end PoolStatus

/-- The state of one pool. -/
@[ext]
structure PoolRecord where
  poolId : Text
  owner : Text
  status : PoolStatus
  genesisTime : Int
  periodLength : Int
  rewardRate : Int
  totalShares : Int
  compensation : Int
  stakeAsset : Text
  rewardAsset : Text
  poolId_ne : poolId ≠ []
  owner_ne : owner ≠ []
  genesisTime_fits : Width.u64.Fits genesisTime
  periodLength_pos : 1 ≤ periodLength
  periodLength_fits : Width.u64.Fits periodLength
  rewardRate_fits : Width.u64.Fits rewardRate
  totalShares_fits : Width.u64.Fits totalShares
  compensation_fits : Width.i128.Fits compensation
  stakeAsset_ne : stakeAsset ≠ []
  rewardAsset_ne : rewardAsset ≠ []
deriving DecidableEq

/-- One owner's stake in one pool, with the reward that was settled for it. -/
@[ext]
structure ParticipantRecord where
  poolId : Text
  owner : Text
  shares : Int
  debt : Int
  poolId_ne : poolId ≠ []
  owner_ne : owner ≠ []
  shares_fits : Width.u64.Fits shares
  debt_fits : Width.u128.Fits debt
deriving DecidableEq

namespace RecordField

/-- A text that is not empty. -/
def readText (field : Text) (v : Value) : Except Error { t : Text // t ≠ [] } :=
  match v with
  | .text t => if h : t ≠ [] then .ok ⟨t, h⟩ else .error (.record (.notText field))
  | _ => .error (.record (.notText field))

/-- A status itself; the text that names it is none. -/
def readStatus : Value → Except Error PoolStatus
  | .status s => .ok s
  | _ => .error (.record .notStatus)

/-- An integer within bounds. -/
def readInt (field : Text) (least greatest : Int) (v : Value) :
    Except Error { n : Int // least ≤ n ∧ n ≤ greatest } :=
  match v with
  | .int n =>
    if h : least ≤ n ∧ n ≤ greatest then .ok ⟨n, h⟩ else .error (.record (.outOfRange field least greatest n))
  | _ => .error (.record (.notInt field))

/-- An integer that fits a width. -/
def readFitting (field : Text) (w : Width) (v : Value) : Except Error { n : Int // w.Fits n } :=
  readInt field w.least w.greatest v

end RecordField

namespace PoolRecord

open RecordField

/-- The unchecked fields of a pool. -/
structure Fields where
  poolId : Value
  owner : Value
  status : Value
  genesisTime : Value
  periodLength : Value
  rewardRate : Value
  totalShares : Value
  compensation : Value
  stakeAsset : Value
  rewardAsset : Value

/-- The pool with these fields, checked in their order. -/
def read (f : Fields) : Except Error PoolRecord := do
  let ⟨poolId, poolId_ne⟩ ← readText "pool_id" f.poolId
  let ⟨owner, owner_ne⟩ ← readText "owner" f.owner
  let status ← readStatus f.status
  let ⟨genesisTime, genesisTime_fits⟩ ← readFitting "genesis_time" .u64 f.genesisTime
  let ⟨periodLength, bounds⟩ ← readInt "period_length" 1 Width.u64.greatest f.periodLength
  let ⟨rewardRate, rewardRate_fits⟩ ← readFitting "reward_rate" .u64 f.rewardRate
  let ⟨totalShares, totalShares_fits⟩ ← readFitting "total_shares" .u64 f.totalShares
  let ⟨compensation, compensation_fits⟩ ← readFitting "compensation" .i128 f.compensation
  let ⟨stakeAsset, stakeAsset_ne⟩ ← readText "stake_asset" f.stakeAsset
  let ⟨rewardAsset, rewardAsset_ne⟩ ← readText "reward_asset" f.rewardAsset
  return {
    poolId, owner, status, genesisTime, periodLength, rewardRate, totalShares, compensation, stakeAsset, rewardAsset
    poolId_ne, owner_ne, genesisTime_fits, rewardRate_fits, totalShares_fits, compensation_fits
    stakeAsset_ne, rewardAsset_ne
    periodLength_pos := bounds.1
    periodLength_fits := ⟨Int.le_trans (by decide) bounds.1, bounds.2⟩ }

/-- Whether the pool is closed for stake and harvest. -/
def isFrozen (p : PoolRecord) : Bool := p.status = .frozen

/-- The pool with another total and compensation, which must fit their widths. -/
def withStake (p : PoolRecord) (totalShares compensation : Int) : Except Error PoolRecord := do
  let ⟨totalShares, totalShares_fits⟩ ← readFitting "total_shares" .u64 (.int totalShares)
  let ⟨compensation, compensation_fits⟩ ← readFitting "compensation" .i128 (.int compensation)
  return { p with totalShares, compensation, totalShares_fits, compensation_fits }

/-- The pool with another status. -/
def withStatus (p : PoolRecord) (status : PoolStatus) : PoolRecord := { p with status }

/-- The pool with another owner, whose name must not be empty. -/
def withOwner (p : PoolRecord) (owner : Text) : Except Error PoolRecord := do
  let ⟨owner, owner_ne⟩ ← readText "owner" (.text owner)
  return { p with owner, owner_ne }

end PoolRecord

namespace ParticipantRecord

open RecordField

/-- Participants are told apart by pool and owner. -/
def key (p : ParticipantRecord) : Text × Text := (p.poolId, p.owner)

/-- The participant with these fields, checked in their order. -/
def read (poolId owner shares debt : Value) : Except Error ParticipantRecord := do
  let ⟨poolId, poolId_ne⟩ ← readText "pool_id" poolId
  let ⟨owner, owner_ne⟩ ← readText "owner" owner
  let ⟨shares, shares_fits⟩ ← readFitting "shares" .u64 shares
  let ⟨debt, debt_fits⟩ ← readFitting "debt" .u128 debt
  return { poolId, owner, shares, debt, poolId_ne, owner_ne, shares_fits, debt_fits }

/-- A participant without shares and debt. -/
def fresh (poolId owner : Text) : Except Error ParticipantRecord := read (.text poolId) (.text owner) (.int 0) (.int 0)

/-- The participant with other shares and debt, which must fit their widths. -/
def withHolding (p : ParticipantRecord) (shares debt : Int) : Except Error ParticipantRecord := do
  let ⟨shares, shares_fits⟩ ← readFitting "shares" .u64 (.int shares)
  let ⟨debt, debt_fits⟩ ← readFitting "debt" .u128 (.int debt)
  return { p with shares, debt, shares_fits, debt_fits }

/-- Whether nothing would be lost with the record. -/
def isClosable (p : ParticipantRecord) : Bool := p.shares = 0 && p.debt = 0

end ParticipantRecord

end YieldPool
