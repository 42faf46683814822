import YieldPool.Record

/-!
# Documents of records

A record is written as an object with a member for each field and the version of the layout. Reading checks the
version first, then that the fields are exactly the record's, then the fields one by one.
-/

namespace YieldPool

/-- The version of the layout of records. -/
def recordVersion : Int := 1

/-- The expected names that entries lack. -/
def missingNames (expected : List Text) (entries : Value.Entries) : List Text :=
  expected.filter fun name => (entries.get? name).isNone

/-- The keys of entries that are none of the expected names. -/
def unknownKeys (expected : List Text) (entries : Value.Entries) : List Value :=
  entries.keys.filter fun key => !expected.any fun name => key.sameKey (.text name)

/-- Refuses a value that is not a mapping with this version and exactly these fields, and yields its entries. -/
def RecordKind.checkedEntries (kind : RecordKind) (fields : List Text) (v : Value) : Except Error Value.Entries := do
  let version ← v.fieldOr "version" .null
  require (version.isOne = true) (.record (.version kind version))
  let entries ← v.entries
  let expected : List Text := "version" :: fields
  let missing := missingNames expected entries
  require (missing = []) (.record (.missing kind (Text.sort missing)))
  requireNone (unknownKeys expected entries) fun sorted => .record (.unknown kind sorted)
  return entries

/-- Refuses entries without one of the required fields, or with one that is neither required nor optional. -/
def checkFieldNames (required optional : List Text) (entries : Value.Entries) : Except Error Unit := do
  require (missingNames required entries = []) (.misuse .wrongFields)
  require ((unknownKeys (required ++ optional) entries).isEmpty = true) (.misuse .wrongFields)

namespace PoolRecord

/-- The names of a pool's fields. -/
def fieldNames : List Text :=
  ["pool_id", "owner", "status", "genesis_time", "period_length", "reward_rate", "total_shares", "compensation",
    "stake_asset", "reward_asset"]

/-- The document of a pool. -/
def toJson (p : PoolRecord) : Json := .record [
  ("pool_id", .text p.poolId),
  ("owner", .text p.owner),
  ("status", .text p.status.name),
  ("genesis_time", .int p.genesisTime),
  ("period_length", .int p.periodLength),
  ("reward_rate", .int p.rewardRate),
  ("total_shares", .int p.totalShares),
  ("compensation", .int p.compensation),
  ("stake_asset", .text p.stakeAsset),
  ("reward_asset", .text p.rewardAsset),
  ("version", .int recordVersion)]

/-- The fields of a pool by name, with a given status. -/
def Fields.ofEntries (entries : Value.Entries) (status : Value) : Fields where
  poolId := entries.getD "pool_id"
  owner := entries.getD "owner"
  status := status
  genesisTime := entries.getD "genesis_time"
  periodLength := entries.getD "period_length"
  rewardRate := entries.getD "reward_rate"
  totalShares := entries.getD "total_shares"
  compensation := entries.getD "compensation"
  stakeAsset := entries.getD "stake_asset"
  rewardAsset := entries.getD "reward_asset"

/-- The pool with these fields by name. -/
def ofEntries (entries : Value.Entries) : Except Error PoolRecord := do
  checkFieldNames fieldNames [] entries
  read (Fields.ofEntries entries (entries.getD "status"))

/-- The pool that a value describes; its status may be named. -/
def ofValue (v : Value) : Except Error PoolRecord := do
  let entries ← RecordKind.pool.checkedEntries fieldNames v
  let status ← orRefuse (PoolStatus.ofValue? (entries.getD "status")) (.record .unknownStatus)
  read (Fields.ofEntries entries (.status status))

end PoolRecord

namespace ParticipantRecord

/-- The names of a participant's fields. -/
def fieldNames : List Text := ["pool_id", "owner", "shares", "debt"]

/-- The document of a participant. -/
def toJson (p : ParticipantRecord) : Json := .record [
  ("pool_id", .text p.poolId),
  ("owner", .text p.owner),
  ("shares", .int p.shares),
  ("debt", .int p.debt),
  ("version", .int recordVersion)]

/-- The participant with these fields by name; shares and debt are zero where they are left out. -/
def ofEntries (entries : Value.Entries) : Except Error ParticipantRecord := do
  checkFieldNames ["pool_id", "owner"] ["shares", "debt"] entries
  let number (name : Text) : Value := (Value.Entries.get? entries name).getD (.int 0)
  read (entries.getD "pool_id") (entries.getD "owner") (number "shares") (number "debt")

/-- The participant that a value describes. -/
def ofValue (v : Value) : Except Error ParticipantRecord := do
  let entries ← RecordKind.participant.checkedEntries fieldNames v
  read (entries.getD "pool_id") (entries.getD "owner") (entries.getD "shares") (entries.getD "debt")

end ParticipantRecord

end YieldPool
