import YieldPool.Digest
import YieldPool.Record.Codec
import YieldPool.Store

/-!
# Snapshots

A snapshot is the document of a store: the version of the layout, and the pools, participants and balances in the
order of the store's tables. `restore` makes a store from a snapshot and checks everything it reads: versions, fields,
duplicates, references, and last the consistency of each pool. The commitment of a store is the digest of its
snapshot.
-/

namespace YieldPool.Store

/-- The version of the layout of snapshots. -/
def snapshotVersion : Int := 1

/-- The document of a balance. -/
def balanceJson (b : Balance) : Json := .record [
  ("account", .text b.account),
  ("asset", .text b.asset),
  ("amount", .int b.amount)]

/-- The document of a store. -/
def snapshot (s : Store Ledger) : Json := .record [
  ("version", .int snapshotVersion),
  ("pools", .array (s.pools.rows.map PoolRecord.toJson)),
  ("participants", .array (s.participants.rows.map ParticipantRecord.toJson)),
  ("balances", .array (s.ledger.balances.rows.map balanceJson))]

/-- The bytes that are hashed for the commitment of a store. -/
def commitmentMessage (s : Store Ledger) : Except Error (List UInt8) :=
  Digest.message "store_snapshot" snapshotVersion s.snapshot.toValue

/-- The digest of the store's snapshot. -/
def commitment (s : Store Ledger) : Except Error Text :=
  Digest.digest "store_snapshot" snapshotVersion s.snapshot.toValue

/-- The store with a pool of a snapshot, of which it must not hold one already. -/
def restorePool (s : Store Ledger) (entry : Value) : Except Error (Store Ledger) := do
  let pool ← PoolRecord.ofValue entry
  require (s.pools.contains pool.poolId = false) (.store (.duplicatePool pool.poolId))
  return s.putPool pool

/-- The store with a participant of a snapshot, whose pool it must hold already. -/
def restoreParticipant (s : Store Ledger) (entry : Value) : Except Error (Store Ledger) := do
  let participant ← ParticipantRecord.ofValue entry
  require (s.pools.contains participant.poolId = true) (.store (.orphan participant.poolId))
  require (s.participants.contains participant.key = false)
    (.store (.duplicateParticipant participant.owner participant.poolId))
  return s.putParticipant participant

/-- The store with a balance of a snapshot, and the accounts and assets seen so far, this one included. An amount of
zero counts as seen. -/
def restoreBalance (state : Store Ledger × List (Text × Text)) (entry : Value) :
    Except Error (Store Ledger × List (Text × Text)) := do
  let (s, seen) := state
  let account := (← entry.entry "account").display
  let asset := (← entry.entry "asset").display
  require ((account, asset) ∉ seen) (.store (.duplicateBalance account asset))
  let amount ← (← entry.entry "amount").toInt
  let s ← s.credit account asset amount
  return (s, (account, asset) :: seen)

/-- Refuses a store of which a pool is not consistent; the first such pool is named. -/
def checkPools (s : Store Ledger) : Except Error Unit :=
  s.pools.rows.forM fun pool =>
    require ((s.books pool).violations = []) (.store (.inconsistentPool pool.poolId (s.books pool).violations))

/-- The items of one of the three lists of a snapshot; a list that is left out is empty. -/
def listed (v : Value) (name : Text) : Except Error (List Value) := do
  let items ← v.fieldOr name (.list [])
  items.items

/-- The store of a snapshot. -/
def restore (v : Value) : Except Error (Store Ledger) := do
  let version ← v.fieldOr "version" .null
  require (version.isOne = true) (.store (.version version))
  let s ← (← listed v "pools").foldlM restorePool empty
  let s ← (← listed v "participants").foldlM restoreParticipant s
  let (s, _) ← (← listed v "balances").foldlM restoreBalance (s, [])
  s.checkPools
  return s

end YieldPool.Store
