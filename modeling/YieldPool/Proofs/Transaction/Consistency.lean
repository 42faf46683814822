import YieldPool.Proofs.Store.Consistency
import YieldPool.Proofs.Store.Restore
import YieldPool.Proofs.Transaction

/-!
# Transactions keep a store consistent

Every handler keeps a store consistent (`consistent_ofAction`), so every run of operations does, and the check of the
pools at the end of a transaction finds nothing.
-/

namespace YieldPool

variable {L : Type}

/-! ## Handlers keep a store consistent -/

namespace Handler

open Store

variable {c : Context} {op : Operation} {s t : Store L} {o : Effect.Outcome}

/-- A change of stake of a participant whose record is that of the store keeps the store consistent. -/
theorem consistent_moveStake [Custody L] (h : s.Consistent) {now nextShares : Int} {pool : PoolRecord}
    {participant : ParticipantRecord} {change : StakeChange} (found : s.pool? participant.poolId = some pool)
    (held : s.sharesOf participant.owner participant.poolId = participant.shares)
    (moved : moveStake now s pool participant nextShares = .ok (t, change)) : t.Consistent := by
  obtain ⟨delay, admissible, ledger, rfl⟩ := moveStake_cases moved
  obtain ⟨total, -⟩ := (consistent_iff.mp h).1 participant.poolId pool found
  have same : participant.poolId = pool.poolId := (poolId_of_pool? found).symm
  refine h.putBoth (p := pool.moved admissible) (q := participant.moved admissible) same ?_ ?_
  · show s.sharesIn pool.poolId + (nextShares - s.sharesOf participant.owner pool.poolId) =
      pool.totalShares - participant.shares + nextShares
    rw [total, ← same, held]
    omega
  · exact admissible.nextCompensation_of_empty

/-- The record of an owner, fresh or not, states the shares that the owner has. -/
theorem participantOrFresh_shares {owner poolId : Text} {p : ParticipantRecord}
    (h : participantOrFresh s owner poolId = .ok p) : s.sharesOf owner poolId = p.shares := by
  rcases participantOrFresh_cases h with found | ⟨absent, -, -, none, -⟩
  · exact sharesOf_of_found found
  · rw [sharesOf, absent, none]
    rfl

/-- Dropping records that are those of the store keeps it consistent. -/
theorem consistent_dropParticipants {ps : List ParticipantRecord} (h : s.Consistent)
    (held : ∀ p ∈ ps, ∀ q, s.participants.find? p.key = some q → q = p)
    (dropped : ps.foldlM dropParticipant s = .ok t) : t.Consistent := by
  induction ps generalizing s with
  | nil =>
    cases dropped
    exact h
  | cons p rest ih =>
    rw [List.foldlM_cons, bind_eq_ok_iff] at dropped
    obtain ⟨_, first, dropped⟩ := dropped
    obtain ⟨closable, contained, rfl⟩ := dropParticipant_eq_ok_iff.mp first
    obtain ⟨q, found⟩ := Table.contains_eq_true_iff.mp contained
    obtain rfl := held p List.mem_cons_self q found
    have none : s.sharesOf q.owner q.poolId = 0 :=
      (sharesOf_of_found found).trans (ParticipantRecord.isClosable_iff.mp closable).1
    refine ih (h.eraseParticipant none) (fun r hr a ha => held r (List.mem_cons_of_mem q hr) a ?_) dropped
    rw [Table.find?_erase] at ha
    split at ha
    · cases ha
    · exact ha

/-- Closing a pool keeps a store consistent. -/
theorem consistent_closePool [Custody L] (h : s.Consistent) (closed : closePool c op s = .ok (t, o)) :
    t.Consistent := by
  obtain ⟨pool, s₁, ledger, -, dropped, rfl⟩ := closePool_cases closed
  have records : ∀ p ∈ s.participantsOf pool.poolId, s.participants.find? p.key = some p := fun p hp =>
    Table.find?_eq_some_iff.mpr ⟨(List.mem_filter.mp hp).1, rfl⟩
  have kept : s₁.Consistent := by
    refine consistent_dropParticipants h (fun p hp q hq => ?_) dropped
    rw [records p hp] at hq
    exact (Option.some.inj hq).symm
  exact kept.erasePool (ne_poolId_of_dropParticipants dropped)

/-- Every handler keeps a store consistent. -/
theorem consistent_ofAction [Custody L] {a : Action} (h : s.Consistent) (handled : ofAction a c op s = .ok (t, o)) :
    t.Consistent := by
  have status : ∀ {status}, setStatus status c op s = .ok (t, o) → t.Consistent := by
    intro status changed
    obtain ⟨pool, found, -, rfl, -⟩ := setStatus_eq_ok_iff.mp changed
    exact h.putPool (p := pool.withStatus status) ((consistent_iff.mp h).1 _ pool found)
  cases a with
  | initializePool =>
    obtain ⟨-, absent, pool, same, -, -, -, total, compensation, -, -, -, -, rfl, -⟩ :=
      initializePool_eq_ok_iff.mp handled
    refine h.putPool ⟨?_, fun _ => compensation⟩
    rw [same, total]
    exact h.sharesIn_of_absent absent
  | initializeParticipant =>
    obtain ⟨⟨pool, found⟩, absent, participant, same, owned, none, -, rfl, -⟩ :=
      initializeParticipant_eq_ok_iff.mp handled
    rw [same] at found absent
    rw [owned] at absent
    refine h.putParticipant found ?_
    rw [sharesOf, absent, none]
    rfl
  | stake =>
    obtain ⟨pool, found, -, amount, -, participant, read, s₁, paid, change, moved, -⟩ := stake_eq_ok_iff.mp handled
    obtain ⟨ledger, -, rfl⟩ := transfer_eq_ok_iff.mp paid
    have held := participantOrFresh_shares read
    obtain ⟨same, owned⟩ := participantOrFresh_owner read
    rw [← same] at found
    rw [← same, ← owned] at held
    exact consistent_moveStake (s := { s with ledger }) h found held moved
  | unstake =>
    obtain ⟨pool, found, -, amount, -, participant, record, -, s₁, change, moved, paid, -⟩ :=
      unstake_eq_ok_iff.mp handled
    obtain ⟨ledger, -, rfl⟩ := transfer_eq_ok_iff.mp paid
    obtain ⟨same, owned⟩ := owner_of_participant? record
    rw [← same] at found
    rw [← same, ← owned] at record
    have kept : s₁.Consistent := consistent_moveStake h found (sharesOf_of_found record) moved
    exact kept
  | harvest =>
    obtain ⟨pool, found, -, participant, record, change, moved, -⟩ := harvest_eq_ok_iff.mp handled
    obtain ⟨same, owned⟩ := owner_of_participant? record
    rw [← same] at found
    rw [← same, ← owned] at record
    exact consistent_moveStake h found (sharesOf_of_found record) moved
  | freezePool => exact status handled
  | thawPool => exact status handled
  | seed =>
    obtain ⟨ledger, amount, rfl, -⟩ := seed_cases handled
    exact h
  | unseed =>
    obtain ⟨ledger, amount, rfl, -⟩ := unseed_cases handled
    exact h
  | transferPoolOwnership =>
    obtain ⟨pool, found, -, owner, -, owner_ne, rfl, -⟩ := transferPoolOwnership_eq_ok_iff.mp handled
    exact h.putPool (p := { pool with owner, owner_ne }) ((consistent_iff.mp h).1 _ pool found)
  | closeParticipant =>
    obtain ⟨participant, found, closable, rfl, -⟩ := closeParticipant_eq_ok_iff.mp handled
    exact h.eraseParticipant
      ((sharesOf_of_found found).trans (ParticipantRecord.isClosable_iff.mp closable).1)
  | closePool => exact consistent_closePool h handled

end Handler

namespace Transaction

/-- No pool of a consistent store is refused. -/
theorem checkPools_of_consistent {s : Store L} (h : s.Consistent) (poolIds : List Text) :
    checkPools s poolIds = .ok () := by
  refine forM_eq_ok_iff.mpr fun poolId _ => ?_
  split
  · rfl
  · rename_i p found
    exact require_eq_ok_iff.mpr (Store.violations_books_iff.mpr ((Store.consistent_iff.mp h).1 poolId p found))

/-- Operations keep a store consistent. -/
theorem consistent_run [Custody L] {c : Handler.Context} {s t : Store L} {ops : List Operation} {effects : List Effect}
    (h : s.Consistent) (ran : run c s ops = .ok (t, effects)) : t.Consistent :=
  run_keeps (I := Store.Consistent) (fun _ _ _ _ (_ : True) h handled => Handler.consistent_ofAction h handled)
    (fun _ _ => trivial) h ran

/-- On a consistent store a request is refused for operational reasons only. -/
theorem operational_applyOrThrow {s : Store Ledger} (h : s.Consistent) (config : Config) (clock : Int) (r : Request) :
    RefusesWith Error.Operational (applyOrThrow config clock r s) := by
  have parsed := Operation.refusesWith_parse Error.operational_operation config r.operations
  simp only [applyOrThrow_eq_bind, refusesWith_bind, refusesWith_pure, implies_true, and_true, operational_timeOf, parsed,
    true_and, Operation.refusesWith_requireText Error.operational_operation, operational_run]
  rintro sender - now - ops - ⟨t, effects⟩ ran
  rw [checkPools_of_consistent (consistent_run h ran)]
  simp

/-- Any request leaves a consistent store consistent, and is never rejected for an inconsistent pool. -/
theorem consistent_apply {s : Store Ledger} (h : s.Consistent) (config : Config) (clock : Int) (r : Request) :
    ∃ t result, apply config clock r s = .ok (t, result) ∧ t.Consistent ∧
      ∀ message, result ≠ .rejected "invariant" message := by
  rw [apply_eq_match]
  cases applied : applyOrThrow config clock r s with
  | ok x =>
    obtain ⟨t, effects⟩ := x
    obtain ⟨sender, -, now, -, ops, -, ran, -⟩ := applyOrThrow_eq_ok_iff.mp applied
    exact ⟨t, .accepted effects, rfl, consistent_run h ran, fun _ => TxResult.noConfusion⟩
  | error e =>
    have refused := operational_applyOrThrow h config clock r e applied
    obtain ⟨rejected, ne⟩ := rejection?_of_ordinary refused.ordinary
    simp only [rejected]
    exact ⟨s, .rejected e.code _, rfl, h, fun _ same => ne (TxResult.rejected.inj same).1⟩

/-- The empty store is consistent, and so is every store that is restored from a snapshot. Any request, whoever sends
it, whatever it asks for and under any configuration, leaves a consistent store consistent and is never rejected because
a pool is found inconsistent. -/
theorem stores_stay_consistent :
    Store.empty.Consistent ∧
      (∀ (snapshot : Value) (s : Store Ledger), Store.restore snapshot = .ok s → s.Consistent) ∧
      ∀ (s : Store Ledger) (config : Config) (clock : Int) (r : Request), s.Consistent →
        ∃ t result, apply config clock r s = .ok (t, result) ∧ t.Consistent ∧
          ∀ message, result ≠ .rejected "invariant" message :=
  ⟨Store.consistent_empty, fun _ _ => Store.consistent_of_restore, fun _ config clock r h =>
    consistent_apply h config clock r⟩

/-- A pool in which ten tokens are staked. -/
def stakedPool : PoolRecord where
  poolId := "p"
  owner := "o"
  status := .initialized
  genesisTime := 0
  periodLength := 10
  rewardRate := 100
  totalShares := 10
  compensation := 0
  stakeAsset := "s"
  rewardAsset := "r"
  poolId_ne := by decide
  owner_ne := by decide
  genesisTime_fits := by decide
  periodLength_pos := by decide
  periodLength_fits := by decide
  rewardRate_fits := by decide
  totalShares_fits := by decide
  compensation_fits := by decide
  stakeAsset_ne := by decide
  rewardAsset_ne := by decide

/-- The participant to whom all shares of the pool belong. -/
def staker : ParticipantRecord where
  poolId := "p"
  owner := "a"
  shares := 10
  debt := 0
  poolId_ne := by decide
  owner_ne := by decide
  shares_fits := by decide
  debt_fits := by decide

/-- The store of the pool, with its stake and some rewards. -/
def stakedStore : Store Ledger :=
  ⟨Table.empty.insert stakedPool, Table.empty.insert staker,
    (Ledger.empty.set (treasuryAccount "p") "s" 10).set (rewardAccount "p") "r" 500⟩

/-- The staker takes four tokens back. -/
def unstakeFour : Request where
  sender := .text "a"
  now := .int 25
  operations := .list [.dictionary [(.text "module", .text "Farm"), (.text "version", .text "0.1"),
    (.text "action", .text "unstake"), (.text "pool_id", .text "p"), (.text "amount", .int 4)]]

/-- The store restores itself, is consistent, and stays so when four tokens are taken back. -/
theorem stores_stay_consistent_unstakeFour :
    Store.restore stakedStore.snapshot.toValue = .ok stakedStore ∧ stakedStore.Consistent ∧
      ∃ t result, apply {} 0 unstakeFour stakedStore = .ok (t, result) ∧ t.Consistent ∧
        ∀ message, result ≠ .rejected "invariant" message := by
  have restored : Store.restore stakedStore.snapshot.toValue = .ok stakedStore :=
    toOption_eq_some_iff.mp (by decide +kernel)
  have consistent : stakedStore.Consistent := stores_stay_consistent.2.1 _ _ restored
  exact ⟨restored, consistent, stores_stay_consistent.2.2 _ _ _ _ consistent⟩

end Transaction

end YieldPool
