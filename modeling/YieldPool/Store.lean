import YieldPool.Error
import YieldPool.Record
import YieldPool.Reward.History
import YieldPool.Table

/-!
# The store of accounts

A store holds the pools by identifier, the participants by pool and owner, and the custody of the tokens, which is the
ledger unless said otherwise. Its tables are sorted by these keys, so two stores with the same records and balances are
equal. Handling operations needs nothing of the custody but to move a whole amount between two accounts and to empty an
account.
-/

namespace YieldPool

/-! ## Custody of tokens -/

/-- A state that keeps tokens for accounts. -/
class Custody (L : Type) where
  /-- Moves an amount of an asset from one account to another. -/
  transfer (l : L) (source target asset : Text) (amount : Int) : Except Error L
  /-- Moves all that an account holds of an asset to another account, and says how much that was. -/
  sweep (l : L) (source target asset : Text) : Except Error (L × Int)

namespace Ledger

/-- Moves all that an account holds of an asset to another account, and says how much that was. -/
def sweep (l : Ledger) (source target asset : Text) : Except LedgerRefusal (Ledger × Int) :=
  let amount := l.balance source asset
  if 0 < amount then do
    let l ← l.transfer source target asset amount
    return (l, amount)
  else .ok (l, amount)

end Ledger

instance : Custody Ledger where
  transfer l source target asset amount := (l.transfer source target asset amount).mapError .ledger
  sweep l source target asset := (l.sweep source target asset).mapError .ledger

/-! ## Stores -/

/-- Pools, participants and what keeps the tokens. -/
structure Store (L : Type) where
  pools : Table PoolRecord.poolId
  participants : Table ParticipantRecord.key
  ledger : L
deriving DecidableEq

namespace Store

variable {L : Type}

/-- The store that holds nothing. -/
def empty : Store Ledger := ⟨Table.empty, Table.empty, Ledger.empty⟩

/-- The pool with an identifier. -/
def pool? (s : Store L) (poolId : Text) : Option PoolRecord := s.pools.find? poolId

/-- The store with a pool put in, in the stead of one with the same identifier. -/
def putPool (s : Store L) (p : PoolRecord) : Store L := { s with pools := s.pools.insert p }

/-- The store without a pool that it holds. -/
def deletePool (s : Store L) (poolId : Text) : Except Error (Store L) :=
  if s.pools.contains poolId then .ok { s with pools := s.pools.erase poolId }
  else .error (.store (.unknownPool poolId))

/-- The identifiers of the pools in order. -/
def poolIds (s : Store L) : List Text := s.pools.rows.map (·.poolId)

/-- The record of an owner in a pool. -/
def participant? (s : Store L) (owner poolId : Text) : Option ParticipantRecord := s.participants.find? (poolId, owner)

/-- The store with a participant put in, in the stead of one with the same pool and owner. -/
def putParticipant (s : Store L) (p : ParticipantRecord) : Store L := { s with participants := s.participants.insert p }

/-- The store without a participant that it holds. -/
def deleteParticipant (s : Store L) (owner poolId : Text) : Except Error (Store L) :=
  if s.participants.contains (poolId, owner) then .ok { s with participants := s.participants.erase (poolId, owner) }
  else .error (.store (.unknownParticipant owner poolId))

/-- The participants of a pool in the order of their owners. -/
def participantsOf (s : Store L) (poolId : Text) : List ParticipantRecord :=
  s.participants.rows.filter fun p => decide (p.poolId = poolId)

@[simp] theorem pool?_empty (poolId : Text) : empty.pool? poolId = none := rfl

@[simp] theorem participant?_empty (owner poolId : Text) : empty.participant? owner poolId = none := rfl

/-- A pool that is found has the identifier it was sought by. -/
theorem poolId_of_pool? {s : Store L} {poolId : Text} {p : PoolRecord} (h : s.pool? poolId = some p) :
    p.poolId = poolId := Table.key_of_find? h

/-- A pool that is put in is found by its identifier, and every other as before. -/
@[simp] theorem pool?_putPool (s : Store L) (p : PoolRecord) (poolId : Text) :
    (s.putPool p).pool? poolId = if p.poolId = poolId then some p else s.pool? poolId :=
  Table.find?_insert s.pools p poolId

@[simp] theorem participant?_putPool (s : Store L) (p : PoolRecord) (owner poolId : Text) :
    (s.putPool p).participant? owner poolId = s.participant? owner poolId := rfl

@[simp] theorem pool?_putParticipant (s : Store L) (p : ParticipantRecord) (poolId : Text) :
    (s.putParticipant p).pool? poolId = s.pool? poolId := rfl

/-- A participant that is put in is found by owner and pool, and every other as before. -/
@[simp] theorem participant?_putParticipant (s : Store L) (p : ParticipantRecord) (owner poolId : Text) :
    (s.putParticipant p).participant? owner poolId =
      if p.key = (poolId, owner) then some p else s.participant? owner poolId :=
  Table.find?_insert s.participants p (poolId, owner)

/-- Stores with the same records and balances are equal. -/
theorem ext_lookup {s t : Store Ledger} (pools : ∀ poolId, s.pool? poolId = t.pool? poolId)
    (participants : ∀ owner poolId, s.participant? owner poolId = t.participant? owner poolId)
    (balances : ∀ account asset, s.ledger.balance account asset = t.ledger.balance account asset) : s = t := by
  obtain ⟨sp, sq, sl⟩ := s
  obtain ⟨tp, tq, tl⟩ := t
  have hp : sp = tp := Table.ext_find? pools
  have hq : sq = tq := Table.ext_find? fun ⟨poolId, owner⟩ => participants owner poolId
  have hl : sl = tl := Ledger.ext_balance balances
  rw [hp, hq, hl]

/-- What an account holds of an asset. -/
def balance (s : Store Ledger) (account asset : Text) : Int := s.ledger.balance account asset

/-- Adds to a balance. -/
def credit (s : Store Ledger) (account asset : Text) (amount : Int) : Except Error (Store Ledger) := do
  let ledger ← s.ledger.credit account asset amount
  return { s with ledger }

/-- Takes from a balance. -/
def debit (s : Store Ledger) (account asset : Text) (amount : Int) : Except Error (Store Ledger) := do
  let ledger ← s.ledger.debit account asset amount
  return { s with ledger }

/-- Moves tokens between accounts. -/
def transfer [Custody L] (s : Store L) (source target asset : Text) (amount : Int) : Except Error (Store L) := do
  let ledger ← Custody.transfer s.ledger source target asset amount
  return { s with ledger }

/-- Moves all that an account holds of an asset to another account, and says how much that was. -/
def sweep [Custody L] (s : Store L) (source target asset : Text) : Except Error (Store L × Int) := do
  let (ledger, amount) ← Custody.sweep s.ledger source target asset
  return ({ s with ledger }, amount)

/-- The numbers of a pool and of its participants that have to agree. -/
def books (s : Store L) (p : PoolRecord) : Reward.Books :=
  let participants := s.participantsOf p.poolId
  ⟨p.totalShares, p.compensation, participants.map (·.shares), participants.map (·.debt)⟩

/-- A store is consistent when each pool is, and each participant belongs to a pool. -/
def Consistent (s : Store L) : Prop :=
  (∀ p ∈ s.pools.rows, (s.books p).violations = []) ∧ ∀ p ∈ s.participants.rows, s.pools.contains p.poolId = true

/-! ### The commit boundary -/

/-- Works on a staged copy of a store. If the block ends cleanly, the staged store takes the place of the store; if it is
stopped, the staged store is dropped. What the block yields, or what stopped it, is passed on. -/
def transaction {ε α : Type} (s : Store L) (block : Store L → Except ε (Store L × α)) : Store L × Except ε α :=
  match block s with
  | .ok (staged, a) => (staged, .ok a)
  | .error e => (s, .error e)

/-- A block that ends cleanly is committed with what it yields. -/
theorem transaction_eq_ok_iff {ε α : Type} {s t : Store L} {block : Store L → Except ε (Store L × α)} {a : α} :
    s.transaction block = (t, .ok a) ↔ block s = .ok (t, a) := by
  unfold transaction
  cases block s with
  | ok staged => simp [Prod.ext_iff]
  | error e => simp

/-- A block that is stopped leaves the store as it was. -/
theorem transaction_eq_error_iff {ε α : Type} {s t : Store L} {block : Store L → Except ε (Store L × α)} {e : ε} :
    s.transaction block = (t, .error e) ↔ block s = .error e ∧ s = t := by
  unfold transaction
  cases block s with
  | ok staged => simp
  | error f => simp [and_comm]

/-- A store in one line: the numbers of its pools and participants. -/
def summary (s : Store L) : Text :=
  "AccountStore(" ++ Text.ofNat s.pools.size ++ " pools, " ++ Text.ofNat s.participants.size ++ " participants)"

end Store

/-- The account that holds the tokens staked in a pool. -/
def treasuryAccount (poolId : Text) : Text := "pool:" ++ poolId ++ ":treasury"

/-- The account that holds the rewards of a pool that were not paid out yet. -/
def rewardAccount (poolId : Text) : Text := "pool:" ++ poolId ++ ":rewards"

end YieldPool
