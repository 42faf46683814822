import YieldPool.Proofs.Digest
import YieldPool.Proofs.Json.Sorted
import YieldPool.Proofs.Store.Commitment
import YieldPool.Proofs.Store.Restore
import YieldPool.Proofs.Transaction.Consistency

/-!
# What a commitment identifies

`Contents` is what a store answers when it is asked for records and balances, with nothing said about how they are kept.
Writes that are made directly, alone or in a transaction, change the contents at one place and are refused for reasons
that the contents show (`contents_make`), so nothing is left of the order in which they were made, nor of what was
written over or taken back. The bytes that are hashed for a commitment list the contents in a fixed order and can be
read back, so two stores have the same bytes exactly if they have the same contents (`same_message_iff_same_contents`).
-/

namespace YieldPool.Store

/-! ## Contents -/

/-- The pools by identifier, the participants by owner and pool, and the balances by account and asset. -/
@[ext]
structure Contents where
  pool? : Text → Option PoolRecord
  participant? : Text → Text → Option ParticipantRecord
  balance : Text → Text → Int

/-- What a store holds. -/
def contents (s : Store Ledger) : Contents := ⟨s.pool?, s.participant?, s.balance⟩

/-- Stores that hold the same are equal. -/
theorem contents_inj {s t : Store Ledger} : s.contents = t.contents ↔ s = t := by
  constructor
  · intro same
    obtain ⟨pools, participants, balances⟩ := Contents.mk.inj same
    exact ext_lookup (congrFun pools) (fun owner => congrFun (congrFun participants owner))
      (fun account => congrFun (congrFun balances account))
  · exact congrArg contents

namespace Contents

/-- The contents with a pool, or none, under an identifier. -/
def setPool (c : Contents) (poolId : Text) (p : Option PoolRecord) : Contents :=
  { c with pool? := fun other => if poolId = other then p else c.pool? other }

/-- The contents with a participant, or none, for an owner in a pool. -/
def setParticipant (c : Contents) (owner poolId : Text) (q : Option ParticipantRecord) : Contents :=
  { c with participant? := fun other name => if owner = other ∧ poolId = name then q else c.participant? other name }

/-- The contents with an amount as the balance of an account. -/
def setBalance (c : Contents) (account asset : Text) (amount : Int) : Contents :=
  { c with balance := fun other name => if account = other ∧ asset = name then amount else c.balance other name }

/-- The contents without a pool, which must be there. -/
def deletePool (c : Contents) (poolId : Text) : Option Contents :=
  if (c.pool? poolId).isSome then some (c.setPool poolId none) else none

/-- The contents without a participant, which must be there. -/
def deleteParticipant (c : Contents) (owner poolId : Text) : Option Contents :=
  if (c.participant? owner poolId).isSome then some (c.setParticipant owner poolId none) else none

/-- The contents with an amount, which must not be negative, added to a balance. -/
def credit (c : Contents) (account asset : Text) (amount : Int) : Option Contents :=
  if 0 ≤ amount then some (c.setBalance account asset (c.balance account asset + amount)) else none

/-- The contents with an amount, which must not be negative, taken from a balance that covers it. -/
def debit (c : Contents) (account asset : Text) (amount : Int) : Option Contents :=
  if 0 ≤ amount ∧ amount ≤ c.balance account asset then
    some (c.setBalance account asset (c.balance account asset - amount))
  else none

end Contents

/-! ## Writes -/

/-- What is written to a store directly. Of a transaction either all writes are made or, if one is refused, none. -/
inductive Write where
  | putPool (p : PoolRecord)
  | deletePool (poolId : Text)
  | putParticipant (q : ParticipantRecord)
  | deleteParticipant (owner poolId : Text)
  | credit (account asset : Text) (amount : Int)
  | debit (account asset : Text) (amount : Int)
  | transfer (source target asset : Text) (amount : Int)
  | transaction (writes : List Write)

namespace Write

mutual

/-- The store after a write. -/
def make : Write → Store Ledger → Except Error (Store Ledger)
  | .putPool p, s => .ok (s.putPool p)
  | .deletePool poolId, s => s.deletePool poolId
  | .putParticipant q, s => .ok (s.putParticipant q)
  | .deleteParticipant owner poolId, s => s.deleteParticipant owner poolId
  | .credit account asset amount, s => s.credit account asset amount
  | .debit account asset amount, s => s.debit account asset amount
  | .transfer source target asset amount, s => s.transfer source target asset amount
  | .transaction writes, s => makeAll writes s
termination_by structural w => w

/-- The store after writes that are made one after the other, if none is refused. -/
def makeAll : List Write → Store Ledger → Except Error (Store Ledger)
  | [], s => .ok s
  | w :: rest, s => do
    let t ← make w s
    makeAll rest t
termination_by structural ws => ws

end

mutual

/-- The contents after a write. -/
def apply : Write → Contents → Option Contents
  | .putPool p, c => some (c.setPool p.poolId (some p))
  | .deletePool poolId, c => c.deletePool poolId
  | .putParticipant q, c => some (c.setParticipant q.owner q.poolId (some q))
  | .deleteParticipant owner poolId, c => c.deleteParticipant owner poolId
  | .credit account asset amount, c => c.credit account asset amount
  | .debit account asset amount, c => c.debit account asset amount
  | .transfer source target asset amount, c => do
    let taken ← c.debit source asset amount
    taken.credit target asset amount
  | .transaction writes, c => applyAll writes c
termination_by structural w => w

/-- The contents after writes that are made one after the other, if none is refused. -/
def applyAll : List Write → Contents → Option Contents
  | [], c => some c
  | w :: rest, c => do
    let d ← apply w c
    applyAll rest d
termination_by structural ws => ws

end

end Write

/-- The store after writes, of which those that are refused change nothing. -/
def written (s : Store Ledger) (ws : List Write) : Store Ledger :=
  ws.foldl (fun s w => (w.make s).toOption.getD s) s

/-- The contents after writes, of which those that are refused change nothing. -/
def Contents.written (c : Contents) (ws : List Write) : Contents := ws.foldl (fun c w => (w.apply c).getD c) c

section

variable (s : Store Ledger)

/-- A pool is put into the contents. -/
theorem contents_putPool (p : PoolRecord) : (s.putPool p).contents = s.contents.setPool p.poolId (some p) :=
  Contents.ext (funext fun poolId => pool?_putPool s p poolId) rfl rfl

/-- A participant is put into the contents. -/
theorem contents_putParticipant (q : ParticipantRecord) :
    (s.putParticipant q).contents = s.contents.setParticipant q.owner q.poolId (some q) := by
  refine Contents.ext rfl (funext fun owner => funext fun poolId => ?_) rfl
  refine (participant?_putParticipant s q owner poolId).trans (if_congr ?_ rfl rfl)
  rw [ParticipantRecord.key, Prod.mk.injEq, and_comm]

/-- A pool is deleted from the contents, or unknown to them. -/
theorem contents_deletePool (poolId : Text) :
    (s.deletePool poolId).toOption.map contents = s.contents.deletePool poolId := by
  have known : s.pools.contains poolId = (s.contents.pool? poolId).isSome := rfl
  rw [deletePool, Contents.deletePool, known]
  split
  · exact congrArg some (Contents.ext (funext fun other => Table.find?_erase s.pools poolId other) rfl rfl)
  · rfl

/-- A participant is deleted from the contents, or unknown to them. -/
theorem contents_deleteParticipant (owner poolId : Text) :
    (s.deleteParticipant owner poolId).toOption.map contents = s.contents.deleteParticipant owner poolId := by
  have known : s.participants.contains (poolId, owner) = (s.contents.participant? owner poolId).isSome := rfl
  rw [deleteParticipant, Contents.deleteParticipant, known]
  split
  · refine congrArg some (Contents.ext rfl (funext fun other => funext fun name => ?_) rfl)
    refine (Table.find?_erase s.participants (poolId, owner) (name, other)).trans (if_congr ?_ rfl rfl)
    rw [Prod.mk.injEq, and_comm]
  · rfl

/-- A balance is set in the contents as in the ledger. -/
theorem contents_set (account asset : Text) {amount : Int} (nonneg : 0 ≤ amount) :
    contents { s with ledger := s.ledger.set account asset amount } = s.contents.setBalance account asset amount :=
  Contents.ext rfl rfl (funext fun other => funext fun name => s.ledger.balance_set account asset nonneg other name)

/-- A credit is refused for its amount only, and adds it in the contents. -/
theorem contents_credit (account asset : Text) (amount : Int) :
    (s.credit account asset amount).toOption.map contents = s.contents.credit account asset amount := by
  have held : 0 ≤ s.ledger.balance account asset := s.ledger.balance_nonneg account asset
  rw [Contents.credit, credit, Ledger.credit]
  split
  · rename_i negative
    exact (if_neg (Int.not_le.mpr negative)).symm
  · rename_i nonneg
    have sum : 0 ≤ s.ledger.balance account asset + amount := Int.add_nonneg held (Int.not_lt.mp nonneg)
    rw [if_pos (Int.not_lt.mp nonneg), Ledger.setBalance_of_nonneg _ _ _ sum]
    exact congrArg some (s.contents_set account asset sum)

/-- A debit is refused for its amount or for a balance that does not cover it, and takes it in the contents. -/
theorem contents_debit (account asset : Text) (amount : Int) :
    (s.debit account asset amount).toOption.map contents = s.contents.debit account asset amount := by
  have balance : s.contents.balance account asset = s.ledger.balance account asset := rfl
  rw [Contents.debit, debit, Ledger.debit, balance]
  split
  · rename_i negative
    exact (if_neg fun h => Int.not_le.mpr negative h.1).symm
  · rename_i nonneg
    split
    · rename_i uncovered
      exact (if_neg fun h => Int.not_le.mpr uncovered h.2).symm
    · rename_i covered
      have rest : 0 ≤ s.ledger.balance account asset - amount := Int.sub_nonneg_of_le (Int.not_lt.mp covered)
      rw [if_pos ⟨Int.not_lt.mp nonneg, Int.not_lt.mp covered⟩, Ledger.setBalance_of_nonneg _ _ _ rest]
      exact congrArg some (s.contents_set account asset rest)

/-- A transfer takes from one account and gives to the other. -/
theorem transfer_eq_bind (source target asset : Text) (amount : Int) :
    s.transfer source target asset amount =
      s.debit source asset amount >>= fun t => t.credit target asset amount := by
  show ((s.ledger.debit source asset amount >>= fun l => l.credit target asset amount).mapError Error.ledger >>= _) = _
  rw [debit]
  cases s.ledger.debit source asset amount with
  | ok l => rfl
  | error e => rfl

end

/-- Contents are followed through a chain of two steps if they are through each. -/
theorem map_contents_bind {x : Except Error (Store Ledger)} {f : Store Ledger → Except Error (Store Ledger)}
    {g : Contents → Option Contents} (h : ∀ t, (f t).toOption.map contents = g t.contents) :
    (x >>= f).toOption.map contents = (x.toOption.map contents).bind g := by
  cases x with
  | ok t => exact h t
  | error e => rfl

mutual

/-- A write is refused for what the store holds and changes what the store holds, however it is kept. -/
theorem contents_make : ∀ (w : Write) (s : Store Ledger), (w.make s).toOption.map contents = w.apply s.contents
  | .putPool p, s => congrArg some (s.contents_putPool p)
  | .deletePool poolId, s => s.contents_deletePool poolId
  | .putParticipant q, s => congrArg some (s.contents_putParticipant q)
  | .deleteParticipant owner poolId, s => s.contents_deleteParticipant owner poolId
  | .credit account asset amount, s => s.contents_credit account asset amount
  | .debit account asset amount, s => s.contents_debit account asset amount
  | .transfer source target asset amount, s => by
    rw [Write.make, transfer_eq_bind, map_contents_bind (g := fun c => c.credit target asset amount)
      fun t => t.contents_credit target asset amount, contents_debit]
    rfl
  | .transaction writes, s => contents_makeAll writes s
termination_by structural w => w

/-- Writes one after the other are refused for what the store holds and change what the store holds. -/
theorem contents_makeAll : ∀ (ws : List Write) (s : Store Ledger),
    (Write.makeAll ws s).toOption.map contents = Write.applyAll ws s.contents
  | [], _ => rfl
  | w :: rest, s => by
    rw [Write.makeAll, map_contents_bind (contents_makeAll rest), contents_make w s]
    rfl
termination_by structural ws => ws

end

/-- The contents after writes are those that the writes make of the contents before. -/
theorem contents_written (s : Store Ledger) (ws : List Write) : (s.written ws).contents = s.contents.written ws := by
  refine (List.foldl_hom contents fun s w => ?_).symm
  rw [← contents_make]
  cases (w.make s).toOption with
  | none => rfl
  | some t => rfl

/-! ## Snapshots -/

/-- The document of a pool is in order throughout. -/
theorem sorted_toJson_pool (p : PoolRecord) : p.toJson.Sorted := by
  have distinct : (PoolRecord.fieldNames ++ [Text.ofString "version"]).Nodup := by decide
  refine Json.sorted_record distinct ?_
  simp only [List.forall_mem_cons, Json.Sorted.text, Json.Sorted.int, true_and]
  exact nofun

theorem sorted_toJson_participant (q : ParticipantRecord) : q.toJson.Sorted := by
  have distinct : (ParticipantRecord.fieldNames ++ [Text.ofString "version"]).Nodup := by decide
  refine Json.sorted_record distinct ?_
  simp only [List.forall_mem_cons, Json.Sorted.text, Json.Sorted.int, true_and]
  exact nofun

theorem sorted_balanceJson (b : Balance) : (balanceJson b).Sorted := by
  have distinct : ([Text.ofString "account", Text.ofString "asset", Text.ofString "amount"]).Nodup := by decide
  refine Json.sorted_record distinct ?_
  simp only [List.forall_mem_cons, Json.Sorted.text, Json.Sorted.int, true_and]
  exact nofun

/-- A snapshot is in order throughout. -/
theorem sorted_snapshot (s : Store Ledger) : s.snapshot.Sorted := by
  have distinct : ([Text.ofString "version", Text.ofString "pools", Text.ofString "participants",
    Text.ofString "balances"]).Nodup := by decide
  have pools := List.forall_mem_map.mpr fun p (_ : p ∈ s.pools.rows) => sorted_toJson_pool p
  have participants := List.forall_mem_map.mpr fun q (_ : q ∈ s.participants.rows) => sorted_toJson_participant q
  have balances := List.forall_mem_map.mpr fun b (_ : b ∈ s.ledger.balances.rows) => sorted_balanceJson b
  refine Json.sorted_record distinct ?_
  simp only [List.forall_mem_cons, Json.Sorted.int, Json.Sorted.array pools, Json.Sorted.array participants,
    Json.Sorted.array balances, true_and]
  exact nofun

/-- A snapshot describes one list of pools, one of participants and one of credits at most. A value is read as one
record at most. -/
theorem Describes.unique {v : Value} {ps ps' : List PoolRecord} {qs qs' : List ParticipantRecord}
    {cs cs' : List Credit} (h : Describes v ps qs cs) (h' : Describes v ps' qs' cs') :
    ps = ps' ∧ qs = qs' ∧ cs = cs' := by
  have read_unique : ∀ {α : Type} (read : Value → Except Error α) {name : Text} {xs ys : List α},
      (∃ values, listed v name = .ok values ∧ List.Forall₂ (fun v a => read v = .ok a) values xs) →
        (∃ values, listed v name = .ok values ∧ List.Forall₂ (fun v a => read v = .ok a) values ys) → xs = ys := by
    rintro α read name xs ys ⟨values, found, all⟩ ⟨values', found', all'⟩
    obtain rfl := Except.ok.inj (found.symm.trans found')
    exact List.right_unique_forall₂' (fun _ _ _ first second => Except.ok.inj (first.symm.trans second)) all all'
  exact ⟨read_unique _ h.pools h'.pools, read_unique _ h.participants h'.participants,
    read_unique _ h.credits h'.credits⟩

/-- Stores with the same snapshot are equal. -/
theorem snapshot_injective {s t : Store Ledger} (same : s.snapshot = t.snapshot) : s = t := by
  obtain ⟨⟨ps, _⟩, ⟨qs, _⟩, ⟨⟨bs, _⟩⟩⟩ := s
  obtain ⟨⟨ps', _⟩, ⟨qs', _⟩, ⟨⟨bs', _⟩⟩⟩ := t
  rw [snapshot_eq_document, snapshot_eq_document] at same
  obtain ⟨rfl, rfl, credits⟩ := (describes_document ps qs bs).unique (same ▸ describes_document ps' qs' bs')
  obtain rfl := Credit.ofBalance_injective.list_map credits
  rfl

/-- The bytes that are hashed are the heading and the snapshot as it stands. -/
theorem commitmentMessage_eq_ok_iff {s : Store Ledger} {bytes : List UInt8} :
    s.commitmentMessage = .ok bytes ↔ s.Committable ∧
      (Digest.heading "store_snapshot" snapshotVersion ++ s.snapshot.render .compact 0).utf8 = bytes := by
  have ascii : ("store_snapshot" : Text).all CodePoint.isAscii = true := by decide
  rw [commitmentMessage, Digest.message_eq_ok_iff, committable_iff_snapshot, ← Json.refusal?_toValue_iff,
    s.sorted_snapshot.toJson_toValue]
  simp [ascii]

/-- A commitment is the digest of the bytes that are hashed. -/
theorem commitment_eq_ok_iff {s : Store Ledger} {digest : Text} :
    s.commitment = .ok digest ↔ ∃ bytes, s.commitmentMessage = .ok bytes ∧ Digest.ofMessage bytes = digest := by
  simp only [commitment, commitmentMessage, Digest.digest, bind_eq_ok_iff, pure, Except.pure, Except.ok.injEq]

/-- Of any two stores that have a commitment, whatever requests, restorations and writes have made them, the bytes that
are hashed are the same exactly if the stores hold the same pools, the same participants, and the same balance for every
account and asset. And what writes leave in a store is what they make of its contents alone. -/
theorem same_message_iff_same_contents (s t : Store Ledger) (ws vs : List Write)
    (left : (s.written ws).Committable) (right : (t.written vs).Committable) :
    ∃ m₁ m₂, (s.written ws).commitmentMessage = .ok m₁ ∧ (t.written vs).commitmentMessage = .ok m₂ ∧
      (s.written ws).commitment = .ok (Digest.ofMessage m₁) ∧ (t.written vs).commitment = .ok (Digest.ofMessage m₂) ∧
      (m₁ = m₂ ↔ (s.written ws).contents = (t.written vs).contents) ∧
      (s.written ws).contents = s.contents.written ws ∧ (t.written vs).contents = t.contents.written vs := by
  have first := commitmentMessage_eq_ok_iff.mpr ⟨left, rfl⟩
  have second := commitmentMessage_eq_ok_iff.mpr ⟨right, rfl⟩
  refine ⟨_, _, first, second, commitment_eq_ok_iff.mpr ⟨_, first, rfl⟩, commitment_eq_ok_iff.mpr ⟨_, second, rfl⟩, ?_,
    contents_written s ws, contents_written t vs⟩
  rw [contents_inj]
  constructor
  · intro same
    exact snapshot_injective (Json.render_injective (List.append_cancel_left (Text.utf8_injective same)))
  · intro same
    rw [same]

open Transaction (stakedPool staker)

/-- A pool, a participant and two balances are written. -/
def straight : List Write :=
  [.putPool stakedPool, .putParticipant staker, .credit "a" "s" 5, .credit "b" "r" 1]

/-- They are written in another order, with a pool that is replaced, an account that is emptied, and a transaction that
is refused. -/
def roundabout : List Write :=
  [.credit "c" "s" 5, .credit "b" "r" 3, .transaction [.debit "b" "r" 2, .transfer "c" "a" "s" 5],
    .putParticipant staker, .deleteParticipant "a" "p", .putPool (stakedPool.withStatus .frozen),
    .putPool stakedPool, .transaction [.putPool (stakedPool.withStatus .frozen), .debit "c" "s" 1],
    .putParticipant staker]

/-- The two ways of writing lead to the same bytes, and one more transfer to others. -/
theorem same_message_iff_same_contents_roundabout :
    ∃ m other, (empty.written straight).commitmentMessage = .ok m ∧
      (empty.written roundabout).commitmentMessage = .ok m ∧
      ((empty.written roundabout).written [.transfer "a" "b" "s" 1]).commitmentMessage = .ok other ∧ m ≠ other := by
  have committable₁ : (empty.written straight).Committable := committable_iff_snapshot.mpr (by decide +kernel)
  have committable₂ : (empty.written roundabout).Committable := committable_iff_snapshot.mpr (by decide +kernel)
  have committable₃ : ((empty.written roundabout).written [.transfer "a" "b" "s" 1]).Committable :=
    committable_iff_snapshot.mpr (by decide +kernel)
  obtain ⟨m, same, first, second, -, -, equal, -⟩ :=
    same_message_iff_same_contents empty empty straight roundabout committable₁ committable₂
  obtain ⟨m', other, first', third, -, -, differ, -⟩ :=
    same_message_iff_same_contents empty (empty.written roundabout) straight [.transfer "a" "b" "s" 1] committable₁
      committable₃
  obtain rfl := Except.ok.inj (first.symm.trans first')
  obtain rfl := equal.mpr (contents_inj.mpr (by decide +kernel))
  exact ⟨m, other, first, second, third, fun equal => absurd (contents_inj.mp (differ.mp equal)) (by decide +kernel)⟩

end YieldPool.Store
