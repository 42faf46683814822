import YieldPool.Proofs.Arrivals
import YieldPool.Proofs.Store.Contents

/-!
# A store of dictionaries

`ArrivalStore` keeps pools, participants and balances in the order of their arrival and sorts them each time they are
listed. `ArrivalStore.tables` is the store of the sorted tables of the same rows. Every write commutes with it, and is
refused on both sides with the same error (`tables_make`), and so does the restoration of a snapshot (`tables_restore`).
Whatever is looked up or listed is the same on both sides, so a store of dictionaries cannot be told from one of sorted
tables through any writes (`answers_of_written`). Its snapshot is that of any other with the same rows, in whatever
order they arrived (`snapshot_eq_iff`).
-/

namespace YieldPool

open Store (Write)

/-- Pools, participants and balances in the order of their arrival. -/
structure ArrivalStore where
  pools : Arrivals PoolRecord.poolId
  participants : Arrivals ParticipantRecord.key
  balances : Arrivals Balance.key

/-- Two steps on one side are two steps on the other if each step is. -/
theorem map_bind_eq {α β γ δ : Type} {x : Except Error α} {y : Except Error γ} {f : α → Except Error β}
    {k : γ → Except Error δ} {h : α → γ} {g : β → δ} (first : x.map h = y) (second : ∀ a, (f a).map g = k (h a)) :
    (x >>= f).map g = y >>= k := by
  subst first
  cases x with
  | ok a => exact second a
  | error e => rfl

namespace ArrivalStore

/-- The store that holds nothing. -/
def empty : ArrivalStore := ⟨.empty, .empty, .empty⟩

/-- The pool with an identifier. -/
def pool? (s : ArrivalStore) (poolId : Text) : Option PoolRecord := s.pools.find? poolId

/-- The store with a pool put in. -/
def putPool (s : ArrivalStore) (p : PoolRecord) : ArrivalStore := { s with pools := s.pools.put p }

/-- The store without a pool that it holds. -/
def deletePool (s : ArrivalStore) (poolId : Text) : Except Error ArrivalStore :=
  if (s.pool? poolId).isSome then .ok { s with pools := s.pools.drop poolId }
  else .error (.store (.unknownPool poolId))

/-- The identifiers of the pools, sorted. -/
def poolIds (s : ArrivalStore) : List Text := KeyOrder.sortBy id (s.pools.rows.map (·.poolId))

/-- The record of an owner in a pool. -/
def participant? (s : ArrivalStore) (owner poolId : Text) : Option ParticipantRecord :=
  s.participants.find? (poolId, owner)

/-- The store with a participant put in. -/
def putParticipant (s : ArrivalStore) (q : ParticipantRecord) : ArrivalStore :=
  { s with participants := s.participants.put q }

/-- The store without a participant that it holds. -/
def deleteParticipant (s : ArrivalStore) (owner poolId : Text) : Except Error ArrivalStore :=
  if (s.participant? owner poolId).isSome then .ok { s with participants := s.participants.drop (poolId, owner) }
  else .error (.store (.unknownParticipant owner poolId))

/-- The participants of a pool, sorted by their owners. -/
def participantsOf (s : ArrivalStore) (poolId : Text) : List ParticipantRecord :=
  KeyOrder.sortBy (·.owner) (s.participants.rows.filter fun q => decide (q.poolId = poolId))

/-- What an account holds of an asset. -/
def balance (s : ArrivalStore) (account asset : Text) : Int :=
  match s.balances.find? (account, asset) with
  | some b => b.amount
  | none => 0

/-- Sets a balance, which cannot be negative; there is no row for zero. -/
def setBalance (s : ArrivalStore) (account asset : Text) (amount : Int) : Except Error ArrivalStore :=
  if negative : amount < 0 then .error (.ledger (.negativeBalance amount))
  else if zero : amount = 0 then .ok { s with balances := s.balances.drop (account, asset) }
  else .ok { s with balances := s.balances.put ⟨account, asset, amount, by omega⟩ }

/-- Adds an amount to a balance. -/
def credit (s : ArrivalStore) (account asset : Text) (amount : Int) : Except Error ArrivalStore :=
  if amount < 0 then .error (.ledger (.negativeCredit amount))
  else s.setBalance account asset (s.balance account asset + amount)

/-- Takes an amount from a balance that covers it. -/
def debit (s : ArrivalStore) (account asset : Text) (amount : Int) : Except Error ArrivalStore :=
  if amount < 0 then .error (.ledger (.negativeDebit amount))
  else if s.balance account asset < amount then
    .error (.ledger (.insufficient account (s.balance account asset) amount asset))
  else s.setBalance account asset (s.balance account asset - amount)

/-- The store of sorted tables with the same rows. -/
def tables (s : ArrivalStore) : Store Ledger := ⟨s.pools.table, s.participants.table, ⟨s.balances.table⟩⟩

section

variable (s : ArrivalStore)

/-! ## What is looked up and listed -/

/-- The tables hold the same pool under an identifier. -/
@[simp] theorem pool?_tables (poolId : Text) : s.tables.pool? poolId = s.pool? poolId := s.pools.find?_table poolId

/-- The tables hold the same record for an owner in a pool. -/
@[simp] theorem participant?_tables (owner poolId : Text) :
    s.tables.participant? owner poolId = s.participant? owner poolId :=
  s.participants.find?_table (poolId, owner)

/-- The tables hold the same balances. -/
@[simp] theorem balance_tables (account asset : Text) :
    s.tables.ledger.balance account asset = s.balance account asset := by
  have found : s.tables.ledger.balances.find? (account, asset) = s.balances.find? (account, asset) :=
    s.balances.find?_table (account, asset)
  rw [Ledger.balance, found]
  rfl

/-- The tables have a pool exactly if there is one. -/
theorem contains_pools_tables (poolId : Text) : s.tables.pools.contains poolId = (s.pool? poolId).isSome :=
  congrArg Option.isSome (s.pool?_tables poolId)

/-- The tables have a record of an owner in a pool exactly if there is one. -/
theorem contains_participants_tables (owner poolId : Text) :
    s.tables.participants.contains (poolId, owner) = (s.participant? owner poolId).isSome :=
  congrArg Option.isSome (s.participant?_tables owner poolId)

/-- The identifiers stand in the same order. -/
theorem poolIds_tables : s.tables.poolIds = s.poolIds := by
  have sorted : KeyOrder.sortBy id (s.pools.rows.map (·.poolId)) =
      (KeyOrder.sortBy PoolRecord.poolId s.pools.rows).map (·.poolId) := KeyOrder.sortBy_map fun _ => rfl
  exact sorted.symm

/-- The pools that the sorted identifiers name are those of the table. -/
theorem filterMap_poolIds : s.poolIds.filterMap s.pool? = s.tables.pools.rows := by
  have same : s.pool? = s.tables.pools.find? := funext fun poolId => (s.pool?_tables poolId).symm
  rw [← poolIds_tables, same]
  exact s.tables.pools.filterMap_find?_keys

/-- The participants of a pool stand in the same order. -/
theorem participantsOf_tables (poolId : Text) : s.tables.participantsOf poolId = s.participantsOf poolId := by
  have inPool : ((s.tables.participants.rows.filter fun q => decide (q.poolId = poolId))).Pairwise
      fun q r => KeyOrder.before q.owner r.owner = true := by
    refine (s.tables.participants.sorted.filter _).imp_of_mem fun {q r} member other ordered => ?_
    have same : q.poolId = r.poolId :=
      (of_decide_eq_true (List.mem_filter.mp member).2).trans (of_decide_eq_true (List.mem_filter.mp other).2).symm
    exact (KeyOrder.before_prod_of_eq same).mp ordered
  have arrived : (s.tables.participants.rows.filter fun q => decide (q.poolId = poolId)).Perm
      (s.participants.rows.filter fun q => decide (q.poolId = poolId)) :=
    s.participants.rows_table_perm.filter _
  rw [participantsOf, ← KeyOrder.sortBy_of_perm arrived (KeyOrder.nodup_of_sorted inPool),
    KeyOrder.sortBy_of_sorted inPool]
  rfl

/-- The document of a store, of which every list is sorted. -/
def snapshot : Json := .record [
  ("version", .int Store.snapshotVersion),
  ("pools", .array ((s.poolIds.filterMap s.pool?).map PoolRecord.toJson)),
  ("participants", .array ((KeyOrder.sortBy ParticipantRecord.key s.participants.rows).map ParticipantRecord.toJson)),
  ("balances", .array ((KeyOrder.sortBy Balance.key s.balances.rows).map Store.balanceJson))]

/-- The snapshot is that of the tables. -/
theorem snapshot_tables : s.tables.snapshot = s.snapshot := by
  rw [snapshot, filterMap_poolIds]
  rfl

/-! ## Writes -/

/-- A pool that is put in is put into the tables. -/
theorem tables_putPool (p : PoolRecord) : (s.putPool p).tables = s.tables.putPool p := by
  rw [putPool, tables, Arrivals.table_put]
  rfl

/-- A participant that is put in is put into the tables. -/
theorem tables_putParticipant (q : ParticipantRecord) : (s.putParticipant q).tables = s.tables.putParticipant q := by
  rw [putParticipant, tables, Arrivals.table_put]
  rfl

/-- A pool is deleted from the tables, or unknown to them. -/
theorem tables_deletePool (poolId : Text) : (s.deletePool poolId).map tables = s.tables.deletePool poolId := by
  rw [deletePool, Store.deletePool, contains_pools_tables]
  split
  · rw [Except.map, tables, Arrivals.table_drop]
    rfl
  · rfl

/-- A participant is deleted from the tables, or unknown to them. -/
theorem tables_deleteParticipant (owner poolId : Text) :
    (s.deleteParticipant owner poolId).map tables = s.tables.deleteParticipant owner poolId := by
  rw [deleteParticipant, Store.deleteParticipant, contains_participants_tables]
  split
  · rw [Except.map, tables, Arrivals.table_drop]
    rfl
  · rfl

/-- A balance that is set is set in the tables, or refused by them. -/
theorem tables_setBalance (account asset : Text) (amount : Int) :
    (s.setBalance account asset amount).map tables =
      ((s.tables.ledger.setBalance account asset amount).mapError Error.ledger).map
        fun l => { s.tables with ledger := l } := by
  rw [setBalance, Ledger.setBalance]
  split
  · rfl
  · rename_i nonneg
    rw [Ledger.set]
    split
    · rename_i zero
      rw [dif_neg (Int.not_lt.mpr (Int.le_of_eq zero)), Except.map, tables, Arrivals.table_drop]
      rfl
    · rename_i nonzero
      have positive : 0 < amount := by omega
      rw [dif_pos positive, Except.map, tables, Arrivals.table_put]
      rfl

/-- A credit is made in the tables, or refused by them. -/
theorem tables_credit (account asset : Text) (amount : Int) :
    (s.credit account asset amount).map tables = s.tables.credit account asset amount := by
  rw [credit, Store.credit, Ledger.credit, balance_tables]
  split
  · rfl
  · rw [tables_setBalance]
    cases s.tables.ledger.setBalance account asset (s.balance account asset + amount) <;> rfl

/-- A debit is made in the tables, or refused by them. -/
theorem tables_debit (account asset : Text) (amount : Int) :
    (s.debit account asset amount).map tables = s.tables.debit account asset amount := by
  rw [debit, Store.debit, Ledger.debit, balance_tables]
  split
  · rfl
  · split
    · rfl
    · rw [tables_setBalance]
      cases s.tables.ledger.setBalance account asset (s.balance account asset - amount) <;> rfl

end

mutual

/-- The store after a write. -/
def make : Write → ArrivalStore → Except Error ArrivalStore
  | .putPool p, s => .ok (s.putPool p)
  | .deletePool poolId, s => s.deletePool poolId
  | .putParticipant q, s => .ok (s.putParticipant q)
  | .deleteParticipant owner poolId, s => s.deleteParticipant owner poolId
  | .credit account asset amount, s => s.credit account asset amount
  | .debit account asset amount, s => s.debit account asset amount
  | .transfer source target asset amount, s => do
    let taken ← s.debit source asset amount
    taken.credit target asset amount
  | .transaction writes, s => makeAll writes s
termination_by structural w => w

/-- The store after writes that are made one after the other, if none is refused. -/
def makeAll : List Write → ArrivalStore → Except Error ArrivalStore
  | [], s => .ok s
  | w :: rest, s => do
    let t ← make w s
    makeAll rest t
termination_by structural ws => ws

end

mutual

/-- A write is made in the tables, or refused by them with the same error. -/
theorem tables_make : ∀ (w : Write) (s : ArrivalStore), (make w s).map tables = w.make s.tables
  | .putPool p, s => congrArg Except.ok (s.tables_putPool p)
  | .deletePool poolId, s => s.tables_deletePool poolId
  | .putParticipant q, s => congrArg Except.ok (s.tables_putParticipant q)
  | .deleteParticipant owner poolId, s => s.tables_deleteParticipant owner poolId
  | .credit account asset amount, s => s.tables_credit account asset amount
  | .debit account asset amount, s => s.tables_debit account asset amount
  | .transfer source target asset amount, s => by
    rw [Write.make, Store.transfer_eq_bind]
    exact map_bind_eq (s.tables_debit source asset amount) fun taken => taken.tables_credit target asset amount
  | .transaction writes, s => tables_makeAll writes s
termination_by structural w => w

/-- Writes one after the other are made in the tables, or refused by them with the same error. -/
theorem tables_makeAll : ∀ (ws : List Write) (s : ArrivalStore), (makeAll ws s).map tables = Write.makeAll ws s.tables
  | [], _ => rfl
  | w :: rest, s => map_bind_eq (tables_make w s) (tables_makeAll rest)
termination_by structural ws => ws

end

/-- The store after writes, of which those that are refused change nothing. -/
def written (s : ArrivalStore) (ws : List Write) : ArrivalStore :=
  ws.foldl (fun s w => (make w s).toOption.getD s) s

/-- The tables after writes are those that the writes make of the tables before. -/
theorem tables_written (s : ArrivalStore) (ws : List Write) : (s.written ws).tables = s.tables.written ws := by
  refine (List.foldl_hom tables fun s w => ?_).symm
  rw [← tables_make]
  cases make w s with
  | ok t => rfl
  | error e => rfl

/-! ## Restoration -/

/-- The store with a pool of a snapshot, of which it must not hold one already. -/
def restorePool (s : ArrivalStore) (entry : Value) : Except Error ArrivalStore := do
  let pool ← PoolRecord.ofValue entry
  require ((s.pool? pool.poolId).isSome = false) (.store (.duplicatePool pool.poolId))
  return s.putPool pool

/-- The store with a participant of a snapshot, whose pool it must hold already. -/
def restoreParticipant (s : ArrivalStore) (entry : Value) : Except Error ArrivalStore := do
  let participant ← ParticipantRecord.ofValue entry
  require ((s.pool? participant.poolId).isSome = true) (.store (.orphan participant.poolId))
  require ((s.participant? participant.owner participant.poolId).isSome = false)
    (.store (.duplicateParticipant participant.owner participant.poolId))
  return s.putParticipant participant

/-- The store with a balance of a snapshot, and the accounts and assets seen so far, this one included. -/
def restoreBalance (state : ArrivalStore × List (Text × Text)) (entry : Value) :
    Except Error (ArrivalStore × List (Text × Text)) := do
  let account := (← entry.entry "account").display
  let asset := (← entry.entry "asset").display
  require (state.2.contains (account, asset) = false) (.store (.duplicateBalance account asset))
  let amount ← (← entry.entry "amount").toInt
  let s ← state.1.credit account asset amount
  return (s, (account, asset) :: state.2)

/-- The numbers of a pool and of its participants that have to agree. -/
def books (s : ArrivalStore) (p : PoolRecord) : Reward.Books :=
  let participants := s.participantsOf p.poolId
  ⟨p.totalShares, p.compensation, participants.map (·.shares), participants.map (·.debt)⟩

/-- Refuses a store of which a pool is not consistent; the first such pool in the order of the identifiers is named. -/
def checkPools (s : ArrivalStore) : Except Error Unit :=
  (s.poolIds.filterMap s.pool?).forM fun pool =>
    require ((s.books pool).violations = []) (.store (.inconsistentPool pool.poolId (s.books pool).violations))

/-- The store of a snapshot. -/
def restore (v : Value) : Except Error ArrivalStore := do
  let version ← v.fieldOr "version" .null
  require (version.isOne = true) (.store (.version version))
  let s ← (← Store.listed v "pools").foldlM restorePool empty
  let s ← (← Store.listed v "participants").foldlM restoreParticipant s
  let (s, _) ← (← Store.listed v "balances").foldlM restoreBalance (s, [])
  s.checkPools
  return s

/-- What both sides do first is the same on both. -/
theorem map_id_eq {α : Type} (x : Except Error α) : x.map id = x := by
  cases x <;> rfl

/-- Entries are taken up on both sides alike if each is. -/
theorem map_foldlM {σ τ : Type} {g : σ → τ} {f : σ → Value → Except Error σ} {k : τ → Value → Except Error τ}
    (step : ∀ s v, (f s v).map g = k (g s) v) (values : List Value) (s : σ) :
    (values.foldlM f s).map g = values.foldlM k (g s) := by
  induction values generalizing s with
  | nil => rfl
  | cons v rest ih =>
    rw [List.foldlM_cons, List.foldlM_cons]
    exact map_bind_eq (step s v) ih

/-- A pool of a snapshot is taken up by the tables, or refused by them. -/
theorem tables_restorePool (s : ArrivalStore) (v : Value) : (s.restorePool v).map tables = s.tables.restorePool v := by
  refine map_bind_eq (map_id_eq _) fun pool => ?_
  rw [id, contains_pools_tables]
  exact map_bind_eq (map_id_eq _) fun _ => congrArg Except.ok (s.tables_putPool pool)

/-- A participant of a snapshot is taken up by the tables, or refused by them. -/
theorem tables_restoreParticipant (s : ArrivalStore) (v : Value) :
    (s.restoreParticipant v).map tables = s.tables.restoreParticipant v := by
  refine map_bind_eq (map_id_eq _) fun participant => ?_
  rw [id, contains_pools_tables, ParticipantRecord.key, contains_participants_tables]
  exact map_bind_eq (map_id_eq _) fun _ => map_bind_eq (map_id_eq _) fun _ =>
    congrArg Except.ok (s.tables_putParticipant participant)

/-- A balance of a snapshot is taken up by the tables, or refused by them. -/
theorem tables_restoreBalance (state : ArrivalStore × List (Text × Text)) (v : Value) :
    (restoreBalance state v).map (Prod.map tables id) = Store.restoreBalance (Prod.map tables id state) v := by
  obtain ⟨s, seen⟩ := state
  refine map_bind_eq (map_id_eq _) fun account => map_bind_eq (map_id_eq _) fun asset => ?_
  have unseen (key : Text × Text) (e : Error) : require (seen.contains key = false) e = require (key ∉ seen) e :=
    if_congr (by simp) rfl rfl
  refine map_bind_eq ((map_id_eq _).trans (unseen _ _)) fun _ => map_bind_eq (map_id_eq _) fun entry => ?_
  refine map_bind_eq (map_id_eq _) fun amount => ?_
  exact map_bind_eq (s.tables_credit account.display asset.display amount) fun _ => rfl

/-- The pools are checked in the same order, and with the same numbers. -/
theorem checkPools_tables (s : ArrivalStore) : s.tables.checkPools = s.checkPools := by
  have books : ∀ p, s.tables.books p = s.books p := fun p => by
    rw [Store.books, participantsOf_tables]
    rfl
  rw [checkPools, filterMap_poolIds, Store.checkPools]
  simp only [books]

/-- A snapshot restores the same store in tables, or is refused with the same error. -/
theorem tables_restore (v : Value) : (restore v).map tables = Store.restore v := by
  refine map_bind_eq (map_id_eq _) fun version => map_bind_eq (map_id_eq _) fun _ => ?_
  refine map_bind_eq (map_id_eq _) fun pools => ?_
  refine map_bind_eq (map_foldlM tables_restorePool pools empty) fun s => ?_
  refine map_bind_eq (map_id_eq _) fun participants => ?_
  refine map_bind_eq (map_foldlM tables_restoreParticipant participants s) fun s => ?_
  refine map_bind_eq (map_id_eq _) fun balances => ?_
  refine map_bind_eq (map_foldlM tables_restoreBalance balances (s, [])) fun state => ?_
  exact map_bind_eq ((map_id_eq _).trans (checkPools_tables state.1).symm) fun _ => rfl

/-! ## What can be told apart -/

/-- After any writes a store of dictionaries answers as the store of sorted tables after the same writes: further writes
are refused with the same errors, and the records, balances, listings and snapshots are the same. -/
theorem answers_of_written (s : ArrivalStore) (ws : List Write) :
    (∀ w, (make w (s.written ws)).map tables = w.make (s.tables.written ws)) ∧
      (s.written ws).pool? = (s.tables.written ws).pool? ∧
      (s.written ws).participant? = (s.tables.written ws).participant? ∧
      (s.written ws).balance = (s.tables.written ws).balance ∧
      (s.written ws).poolIds = (s.tables.written ws).poolIds ∧
      (s.written ws).participantsOf = (s.tables.written ws).participantsOf ∧
      (s.written ws).snapshot = (s.tables.written ws).snapshot := by
  rw [← tables_written]
  generalize s.written ws = t
  exact ⟨fun w => tables_make w t, funext fun poolId => (t.pool?_tables poolId).symm,
    funext fun owner => funext fun poolId => (t.participant?_tables owner poolId).symm,
    funext fun account => funext fun asset => (t.balance_tables account asset).symm, t.poolIds_tables.symm,
    funext fun poolId => (t.participantsOf_tables poolId).symm, t.snapshot_tables.symm⟩

/-- Stores have the same snapshot exactly if they hold the same rows, in whatever order these arrived. -/
theorem snapshot_eq_iff {s t : ArrivalStore} :
    s.snapshot = t.snapshot ↔
      s.pools.rows.Perm t.pools.rows ∧ s.participants.rows.Perm t.participants.rows ∧
        s.balances.rows.Perm t.balances.rows := by
  rw [← Arrivals.table_eq_iff, ← Arrivals.table_eq_iff, ← Arrivals.table_eq_iff, ← snapshot_tables, ← snapshot_tables]
  constructor
  · intro same
    have tables := Store.snapshot_injective same
    exact ⟨congrArg Store.pools tables, congrArg Store.participants tables,
      congrArg (fun u : Store Ledger => u.ledger.balances) tables⟩
  · rintro ⟨pools, participants, balances⟩
    rw [tables, tables, pools, participants, balances]

end ArrivalStore

end YieldPool
