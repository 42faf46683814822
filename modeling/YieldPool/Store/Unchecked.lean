import YieldPool.Ledger.Unchecked
import YieldPool.Store.Snapshot

/-!
# Stores with unchecked tokens and names

A store may keep its tokens in a `LooseLedger`, and its records may be sought by values that have not been checked. Only
texts name records; other keys name none, and what is no key at all is refused. The snapshot states whole amounts, so
it has no place for an amount without a whole part.
-/

namespace YieldPool.Store

variable {L : Type}

/-- The store with its ledger open to unchecked movements. -/
def loosen (s : Store Ledger) : Store LooseLedger := ⟨s.pools, s.participants, .strict s.ledger⟩

/-- The pool that a value names. -/
def poolAt? (s : Store L) (poolId : Value) : Except Error (Option PoolRecord) := do
  require (poolId.isKey = true) (.misuse .noMember)
  match poolId with
  | .text poolId => return s.pool? poolId
  | _ => return none

/-- The store without the pool that a value names. -/
def deletePoolAt (s : Store L) (poolId : Value) : Except Error (Store L) := do
  require (poolId.isKey = true) (.misuse .noMember)
  match poolId with
  | .text poolId => s.deletePool poolId
  | _ => throw (.store (.unknownPool poolId.display))

/-- The record of the owner in the pool that two values name. -/
def participantAt? (s : Store L) (owner poolId : Value) : Except Error (Option ParticipantRecord) := do
  require (owner.isKey = true ∧ poolId.isKey = true) (.misuse .noMember)
  match owner, poolId with
  | .text owner, .text poolId => return s.participant? owner poolId
  | _, _ => return none

/-- The store without the record of the owner in the pool that two values name. -/
def deleteParticipantAt (s : Store L) (owner poolId : Value) : Except Error (Store L) := do
  require (owner.isKey = true ∧ poolId.isKey = true) (.misuse .noMember)
  match owner, poolId with
  | .text owner, .text poolId => s.deleteParticipant owner poolId
  | _, _ => throw (.store (.unknownParticipant owner.display poolId.display))

/-- The participants of the pool that a value names. -/
def participantsAt (s : Store L) : Value → List ParticipantRecord
  | .text poolId => s.participantsOf poolId
  | _ => []

/-- The row of a balance with its whole amount. -/
def wholeRow (b : LooseBalance) : Except Error Value := do
  let amount ← b.amount.value.toInt
  return .list [b.account, b.asset, .int amount]

/-- The entry of a snapshot for a row. -/
def rowEntry : Value → Value
  | .list [account, asset, amount] =>
    .dictionary [(.text "account", account), (.text "asset", asset), (.text "amount", amount)]
  | v => v

/-- The snapshot of a store, whose balances must have an order. -/
def looseSnapshot (s : Store LooseLedger) : Except Error Value :=
  match s.ledger with
  | .strict l => .ok (snapshot ⟨s.pools, s.participants, l⟩).toValue
  | .loose rows => do
    let balances ← rows.mapM wholeRow
    let sorted ← orRefuse (Value.sort? balances) (.misuse .noOrder)
    return .dictionary [
      (.text "version", .int snapshotVersion),
      (.text "pools", .list (s.pools.rows.map fun p => p.toJson.toValue)),
      (.text "participants", .list (s.participants.rows.map fun p => p.toJson.toValue)),
      (.text "balances", .list (sorted.map rowEntry))]

/-- The digest of the store's snapshot. -/
def looseCommitment (s : Store LooseLedger) : Except Error Text := do
  Digest.digest "store_snapshot" snapshotVersion (← s.looseSnapshot)

end YieldPool.Store
