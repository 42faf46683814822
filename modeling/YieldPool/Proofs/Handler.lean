import Mathlib.Tactic.Simproc.ExistsAndEq
import YieldPool.Handler
import YieldPool.Proofs.Operation
import YieldPool.Proofs.Record
import YieldPool.Proofs.Reward.Cycle
import YieldPool.Proofs.Table

/-!
# When an operation is accepted

For each handler, the conditions under which it accepts an operation, with the store that it leaves and what it reports.
Whoever reasons about operations starts from these statements and does not look into the handlers. A cycle that the
reward engine accepts fits into the records (`moveStake_eq_ok_iff`), so nothing but the reward engine, the time and the
payment can refuse a change of stake.
-/

namespace YieldPool

variable {L : Type}

namespace Store

/-- A transfer changes nothing of a store but its ledger. -/
theorem transfer_eq_ok_iff [Custody L] {s t : Store L} {source target asset : Text} {amount : Int} :
    s.transfer source target asset amount = .ok t ↔
      ∃ ledger, Custody.transfer s.ledger source target asset amount = .ok ledger ∧ { s with ledger } = t := by
  simp only [transfer, bind_eq_ok_iff]
  exact exists_congr fun _ => and_congr_right fun _ => ⟨Except.ok.inj, congrArg Except.ok⟩

/-- A sweep changes nothing of a store but its ledger, and reports the amount that was moved. -/
theorem sweep_eq_ok_iff [Custody L] {s t : Store L} {source target asset : Text} {amount : Int} :
    s.sweep source target asset = .ok (t, amount) ↔
      ∃ ledger, Custody.sweep s.ledger source target asset = .ok (ledger, amount) ∧ { s with ledger } = t := by
  simp only [sweep, bind_eq_ok_iff]
  constructor
  · rintro ⟨⟨ledger, _⟩, h, e⟩
    cases e
    exact ⟨ledger, h, rfl⟩
  · rintro ⟨ledger, h, rfl⟩
    exact ⟨_, h, rfl⟩

/-- A pool can be deleted exactly if the store holds it. -/
theorem deletePool_eq_ok_iff {s t : Store L} {poolId : Text} :
    s.deletePool poolId = .ok t ↔ s.pools.contains poolId = true ∧ { s with pools := s.pools.erase poolId } = t := by
  unfold deletePool
  split <;> simp [*]

/-- A participant can be deleted exactly if the store holds it. -/
theorem deleteParticipant_eq_ok_iff {s t : Store L} {owner poolId : Text} :
    s.deleteParticipant owner poolId = .ok t ↔ s.participants.contains (poolId, owner) = true ∧
      { s with participants := s.participants.erase (poolId, owner) } = t := by
  unfold deleteParticipant
  split <;> simp [*]

/-- A record that is found belongs to the owner and the pool it was sought by. -/
theorem owner_of_participant? {s : Store L} {owner poolId : Text} {p : ParticipantRecord}
    (found : s.participant? owner poolId = some p) : p.poolId = poolId ∧ p.owner = owner := by
  have e : p.key = (poolId, owner) := Table.key_of_find? found
  exact Prod.mk.inj e

end Store

/-- The pool after an admissible cycle of one of its participants. -/
def PoolRecord.moved (p : PoolRecord) {c : Reward.Cycle} (admissible : c.Admissible) : PoolRecord :=
  { p with
    totalShares := c.nextTotal
    compensation := c.nextCompensation
    totalShares_fits := admissible.nextTotal_fits
    compensation_fits := admissible.nextCompensation_fits }

/-- The participant after its admissible cycle. -/
def ParticipantRecord.moved (p : ParticipantRecord) {c : Reward.Cycle} (admissible : c.Admissible) :
    ParticipantRecord :=
  { p with
    shares := c.nextShares
    debt := c.nextDebt
    shares_fits := admissible.nextShares_fits
    debt_fits := admissible.nextDebt_fits }

namespace Handler

variable {c : Context} {op : Operation} {s t : Store L} {o : Effect.Outcome}

/-! ## The checks -/

/-- A pool that must exist is the one with the identifier. -/
theorem requirePool_eq_ok_iff {poolId : Text} {p : PoolRecord} :
    requirePool s poolId = .ok p ↔ s.pool? poolId = some p :=
  orRefuse_eq_ok_iff

/-- A participant that must have a record has the one of the owner in the pool. -/
theorem requireParticipant_eq_ok_iff {owner poolId : Text} {p : ParticipantRecord} :
    requireParticipant s owner poolId = .ok p ↔ s.participant? owner poolId = some p :=
  orRefuse_eq_ok_iff

/-- The check of the owner passes exactly for the owner of the pool. -/
theorem requireOwner_eq_ok_iff {pool : PoolRecord} {sender : Text} {u : Unit} :
    requireOwner pool sender = .ok u ↔ pool.owner = sender :=
  require_eq_ok_iff

/-- The check for activity passes exactly for a pool that is not frozen. -/
theorem requireActive_eq_ok_iff {pool : PoolRecord} {u : Unit} : requireActive pool = .ok u ↔ pool.isFrozen = false :=
  require_eq_ok_iff

/-! ## Changes of stake -/

/-- A change of stake is made exactly if time has not run backwards, the cycle is admissible and the harvest can be
paid. The records are those of the cycle, and what is reported is what the cycle computes. -/
theorem moveStake_eq_ok_iff [Custody L] {now nextShares : Int} {pool : PoolRecord} {participant : ParticipantRecord}
    {change : StakeChange} :
    moveStake now s pool participant nextShares = .ok (t, change) ↔
      ∃ delay, elapsedPeriods pool.genesisTime pool.periodLength now = .ok delay ∧
        ∃ admissible : (cycle pool participant delay nextShares).Admissible,
          payOut ((s.putPool (pool.moved admissible)).putParticipant (participant.moved admissible)) pool
            participant.owner (cycle pool participant delay nextShares).outcome.harvested = .ok t ∧
          ⟨delay, (cycle pool participant delay nextShares).outcome.harvested, nextShares,
            (cycle pool participant delay nextShares).nextDebt,
            (cycle pool participant delay nextShares).nextTotal⟩ = change := by
  simp only [moveStake, bind_eq_ok_iff, liftM, monadLift, MonadLift.monadLift, mapError_eq_ok_iff,
    Reward.rebalance_eq_ok_iff, PoolRecord.withStake_eq_ok_iff, ParticipantRecord.withHolding_eq_ok_iff]
  constructor
  · rintro ⟨delay, elapsed, _, ⟨admissible, rfl⟩, _, ⟨_, _, rfl⟩, _, ⟨_, _, rfl⟩, _, paid, h⟩
    cases h
    exact ⟨delay, elapsed, admissible, paid, rfl⟩
  · rintro ⟨delay, elapsed, admissible, paid, rfl⟩
    exact ⟨delay, elapsed, _, ⟨admissible, rfl⟩, _,
      ⟨admissible.nextTotal_fits, admissible.nextCompensation_fits, rfl⟩, _,
      ⟨admissible.nextShares_fits, admissible.nextDebt_fits, rfl⟩, _, paid, rfl⟩

/-- A payment changes nothing of a store but its ledger. -/
theorem payOut_cases [Custody L] {pool : PoolRecord} {account : Text} {reward : Int}
    (h : payOut s pool account reward = .ok t) : ∃ ledger, { s with ledger } = t := by
  unfold payOut at h
  split at h
  · obtain ⟨ledger, -, paid⟩ := Store.transfer_eq_ok_iff.mp h
    exact ⟨ledger, paid⟩
  · cases h
    exact ⟨s.ledger, rfl⟩

/-- A change of stake writes the pool and the participant, and changes nothing else but balances. -/
theorem moveStake_cases [Custody L] {now nextShares : Int} {pool : PoolRecord} {participant : ParticipantRecord}
    {change : StakeChange} (h : moveStake now s pool participant nextShares = .ok (t, change)) :
    ∃ (delay : Int) (admissible : (cycle pool participant delay nextShares).Admissible) (ledger : L),
      { (s.putPool (pool.moved admissible)).putParticipant (participant.moved admissible) with ledger } = t := by
  obtain ⟨delay, -, admissible, paid, -⟩ := moveStake_eq_ok_iff.mp h
  obtain ⟨ledger, written⟩ := payOut_cases paid
  exact ⟨delay, admissible, ledger, written⟩

/-- The record of an owner, or a fresh one without shares and debt where there is none. -/
theorem participantOrFresh_cases {owner poolId : Text} {p : ParticipantRecord}
    (h : participantOrFresh s owner poolId = .ok p) :
    s.participant? owner poolId = some p ∨
      s.participant? owner poolId = none ∧ p.poolId = poolId ∧ p.owner = owner ∧ p.shares = 0 ∧ p.debt = 0 := by
  unfold participantOrFresh at h
  split at h
  · rename_i found
    cases h
    exact Or.inl found
  · rename_i absent
    obtain ⟨rfl, rfl, noShares, noDebt⟩ := ParticipantRecord.fresh_eq_ok_iff.mp h
    exact Or.inr ⟨absent, rfl, rfl, noShares, noDebt⟩

/-- The record of an owner, fresh or not, is that owner's in that pool. -/
theorem participantOrFresh_owner {owner poolId : Text} {p : ParticipantRecord}
    (h : participantOrFresh s owner poolId = .ok p) : p.poolId = poolId ∧ p.owner = owner := by
  rcases participantOrFresh_cases h with found | ⟨-, same, owned, -, -⟩
  · exact Store.owner_of_participant? found
  · exact ⟨same, owned⟩

/-! ## The operations -/

/-- A pool is opened exactly if the sender may open pools, the identifier is new, and the four parameters are
acceptable. It belongs to the sender, starts now and holds nothing. -/
theorem initializePool_eq_ok_iff :
    initializePool c op s = .ok (t, o) ↔
      c.mayOpenPools = true ∧ s.pool? op.poolId = none ∧
        ∃ pool : PoolRecord, pool.poolId = op.poolId ∧ pool.owner = c.sender ∧ pool.status = .initialized ∧
          pool.genesisTime = c.now ∧ pool.totalShares = 0 ∧ pool.compensation = 0 ∧
          Operation.requireInt "reward_rate" 0 c.config.maxRewardRate (op.field "reward_rate") = .ok pool.rewardRate ∧
          Operation.requireInt "period" c.config.minPeriodSeconds c.config.maxPeriodSeconds (op.field "period") =
            .ok pool.periodLength ∧
          Operation.requireText "stake_asset" Operation.longestName (op.field "stake_asset") = .ok pool.stakeAsset ∧
          Operation.requireText "reward_asset" Operation.longestName (op.field "reward_asset") =
            .ok pool.rewardAsset ∧
          s.putPool pool = t ∧ .poolOpened c.now = o := by
  simp only [initializePool, bind_eq_ok_iff, require_eq_ok_iff, PoolRecord.read_eq_ok_iff, Table.contains_eq_false_iff,
    exists_const, pure, Except.pure, Except.ok.injEq, Prod.mk.injEq, Value.text.injEq, Value.int.injEq,
    Value.status.injEq]
  constructor
  · rintro ⟨may, absent, _, rate, _, period, _, stake, _, reward, pool, ⟨h₁, h₂, h₃, h₄, rfl, rfl, h₇, h₈, rfl, rfl⟩, h⟩
    exact ⟨may, absent, pool, h₁.symm, h₂.symm, h₃.symm, h₄.symm, h₇.symm, h₈.symm, rate, period, stake, reward, h⟩
  · rintro ⟨may, absent, pool, h₁, h₂, h₃, h₄, h₇, h₈, rate, period, stake, reward, h⟩
    exact ⟨may, absent, _, rate, _, period, _, stake, _, reward, pool,
      ⟨h₁.symm, h₂.symm, h₃.symm, h₄.symm, rfl, rfl, h₇.symm, h₈.symm, rfl, rfl⟩, h⟩

/-- A record is opened exactly if the pool exists and the sender has no record in it yet. -/
theorem initializeParticipant_eq_ok_iff :
    initializeParticipant c op s = .ok (t, o) ↔
      (∃ pool, s.pool? op.poolId = some pool) ∧ s.participant? c.sender op.poolId = none ∧
        ∃ participant : ParticipantRecord, op.poolId = participant.poolId ∧ c.sender = participant.owner ∧
          participant.shares = 0 ∧ participant.debt = 0 ∧
          s.putParticipant participant = t ∧ .participantOpened = o := by
  simp only [initializeParticipant, bind_eq_ok_iff, requirePool_eq_ok_iff, require_eq_ok_iff,
    ParticipantRecord.fresh_eq_ok_iff, exists_const, exists_and_right, and_assoc, pure, Except.pure, Except.ok.injEq,
    Prod.mk.injEq]

/-- Stake is accepted exactly if the pool is active, the sender can pay the amount into the treasury, and the change of
stake can then be made. -/
theorem stake_eq_ok_iff [Custody L] :
    stake c op s = .ok (t, o) ↔
      ∃ pool, s.pool? op.poolId = some pool ∧ pool.isFrozen = false ∧
        ∃ amount, op.amount = .ok amount ∧
          ∃ participant, participantOrFresh s c.sender op.poolId = .ok participant ∧
            ∃ s₁, s.transfer c.sender (treasuryAccount pool.poolId) pool.stakeAsset amount = .ok s₁ ∧
              ∃ change, moveStake c.now s₁ pool participant (participant.shares + amount) = .ok (t, change) ∧
                .staked change amount = o := by
  simp only [stake, bind_eq_ok_iff, requirePool_eq_ok_iff, requireActive_eq_ok_iff, exists_const, Prod.exists, pure,
    Except.pure, Except.ok.injEq, Prod.mk.injEq, existsAndEq, true_and]

/-- Stake is given back exactly if the pool is active, the sender has as many shares, the change of stake can be made,
and the treasury can then pay the amount. -/
theorem unstake_eq_ok_iff [Custody L] :
    unstake c op s = .ok (t, o) ↔
      ∃ pool, s.pool? op.poolId = some pool ∧ pool.isFrozen = false ∧
        ∃ amount, op.amount = .ok amount ∧
          ∃ participant, s.participant? c.sender op.poolId = some participant ∧ amount ≤ participant.shares ∧
            ∃ s₁ change, moveStake c.now s pool participant (participant.shares - amount) = .ok (s₁, change) ∧
              s₁.transfer (treasuryAccount pool.poolId) c.sender pool.stakeAsset amount = .ok t ∧
                .unstaked change amount = o := by
  simp only [unstake, bind_eq_ok_iff, requirePool_eq_ok_iff, requireActive_eq_ok_iff, requireParticipant_eq_ok_iff,
    require_eq_ok_iff, exists_const, Prod.exists, pure, Except.pure, Except.ok.injEq, Prod.mk.injEq, existsAndEq,
    true_and]

/-- A harvest is accepted exactly if the pool is active, the sender has a record in it, and the change of stake to the
same number of shares can be made. -/
theorem harvest_eq_ok_iff [Custody L] :
    harvest c op s = .ok (t, o) ↔
      ∃ pool, s.pool? op.poolId = some pool ∧ pool.isFrozen = false ∧
        ∃ participant, s.participant? c.sender op.poolId = some participant ∧
          ∃ change, moveStake c.now s pool participant participant.shares = .ok (t, change) ∧
            .harvested change = o := by
  simp only [harvest, bind_eq_ok_iff, requirePool_eq_ok_iff, requireActive_eq_ok_iff, requireParticipant_eq_ok_iff,
    exists_const, Prod.exists, pure, Except.pure, Except.ok.injEq, Prod.mk.injEq, existsAndEq, true_and]

/-- A status is set exactly by the owner of the pool. -/
theorem setStatus_eq_ok_iff {status : PoolStatus} :
    setStatus status c op s = .ok (t, o) ↔
      ∃ pool, s.pool? op.poolId = some pool ∧ pool.owner = c.sender ∧
        s.putPool (pool.withStatus status) = t ∧ .statusSet status = o := by
  simp only [setStatus, bind_eq_ok_iff, requirePool_eq_ok_iff, requireOwner_eq_ok_iff, exists_const, pure, Except.pure,
    Except.ok.injEq, Prod.mk.injEq]

/-- Rewards are added by anybody who can pay the amount into the reward account. -/
theorem seed_eq_ok_iff [Custody L] :
    seed c op s = .ok (t, o) ↔
      ∃ pool, s.pool? op.poolId = some pool ∧
        ∃ amount, op.amount = .ok amount ∧
          s.transfer c.sender (rewardAccount pool.poolId) pool.rewardAsset amount = .ok t ∧ .seeded amount = o := by
  simp only [seed, bind_eq_ok_iff, requirePool_eq_ok_iff, pure, Except.pure, Except.ok.injEq, Prod.mk.injEq,
    existsAndEq, true_and]

/-- Rewards are taken back exactly by the owner of the pool, as far as the reward account covers the amount. -/
theorem unseed_eq_ok_iff [Custody L] :
    unseed c op s = .ok (t, o) ↔
      ∃ pool, s.pool? op.poolId = some pool ∧ pool.owner = c.sender ∧
        ∃ amount, op.amount = .ok amount ∧
          s.transfer (rewardAccount pool.poolId) c.sender pool.rewardAsset amount = .ok t ∧ .unseeded amount = o := by
  simp only [unseed, bind_eq_ok_iff, requirePool_eq_ok_iff, requireOwner_eq_ok_iff, exists_const, pure, Except.pure,
    Except.ok.injEq, Prod.mk.injEq, existsAndEq, true_and]

/-- Seeding leaves the records. -/
theorem seed_cases [Custody L] (h : seed c op s = .ok (t, o)) :
    ∃ ledger amount, { s with ledger } = t ∧ .seeded amount = o := by
  obtain ⟨pool, -, amount, -, seeded, reported⟩ := seed_eq_ok_iff.mp h
  obtain ⟨ledger, -, same⟩ := Store.transfer_eq_ok_iff.mp seeded
  exact ⟨ledger, amount, same, reported⟩

/-- Unseeding leaves the records. -/
theorem unseed_cases [Custody L] (h : unseed c op s = .ok (t, o)) :
    ∃ ledger amount, { s with ledger } = t ∧ .unseeded amount = o := by
  obtain ⟨pool, -, -, amount, -, unseeded, reported⟩ := unseed_eq_ok_iff.mp h
  obtain ⟨ledger, -, same⟩ := Store.transfer_eq_ok_iff.mp unseeded
  exact ⟨ledger, amount, same, reported⟩

/-- A pool is given away exactly by its owner, and to an acceptable name. -/
theorem transferPoolOwnership_eq_ok_iff :
    transferPoolOwnership c op s = .ok (t, o) ↔
      ∃ pool, s.pool? op.poolId = some pool ∧ pool.owner = c.sender ∧
        ∃ owner, Operation.requireText "new_owner" Operation.longestName (op.field "new_owner") = .ok owner ∧
          ∃ owner_ne : owner ≠ [], s.putPool { pool with owner, owner_ne } = t ∧ .ownerSet owner = o := by
  simp only [transferPoolOwnership, bind_eq_ok_iff, requirePool_eq_ok_iff, requireOwner_eq_ok_iff,
    PoolRecord.withOwner_eq_ok_iff, exists_const, pure, Except.pure, Except.ok.injEq, Prod.mk.injEq, existsAndEq,
    true_and]

/-- A record is closed exactly if it holds neither shares nor debt. -/
theorem closeParticipant_eq_ok_iff :
    closeParticipant c op s = .ok (t, o) ↔
      ∃ participant, s.participant? c.sender op.poolId = some participant ∧ participant.isClosable = true ∧
        { s with participants := s.participants.erase (op.poolId, c.sender) } = t ∧ .participantClosed = o := by
  simp only [closeParticipant, bind_eq_ok_iff, requireParticipant_eq_ok_iff, require_eq_ok_iff,
    Store.deleteParticipant_eq_ok_iff, exists_const, pure, Except.pure, Except.ok.injEq, Prod.mk.injEq, existsAndEq,
    and_true]
  constructor
  · rintro ⟨participant, found, closable, -, dropped⟩
    exact ⟨participant, found, closable, dropped⟩
  · rintro ⟨participant, found, closable, dropped⟩
    exact ⟨participant, found, closable, Table.contains_eq_true_iff.mpr ⟨participant, found⟩, dropped⟩

/-- A record of a pool that is being closed is dropped exactly if it is there and holds neither shares nor debt. -/
theorem dropParticipant_eq_ok_iff {participant : ParticipantRecord} :
    dropParticipant s participant = .ok t ↔ participant.isClosable = true ∧
      s.participants.contains participant.key = true ∧
        { s with participants := s.participants.erase participant.key } = t := by
  simp only [dropParticipant, bind_eq_ok_iff, require_eq_ok_iff, Store.deleteParticipant_eq_ok_iff, exists_const,
    ParticipantRecord.key]

/-- Records that were dropped held nothing and are gone; nothing else has changed. A record that was dropped stays gone,
also if a later one has its key. -/
theorem dropParticipants_cases {ps : List ParticipantRecord} (h : ps.foldlM dropParticipant s = .ok t) :
    (∀ p ∈ ps, p.isClosable = true) ∧ t.pools = s.pools ∧ t.ledger = s.ledger ∧
      (∀ p ∈ ps, t.participants.find? p.key = none) ∧
        ∀ k, (∀ p ∈ ps, p.key ≠ k) → t.participants.find? k = s.participants.find? k := by
  induction ps generalizing s with
  | nil =>
    cases h
    simp
  | cons p rest ih =>
    rw [List.foldlM_cons, bind_eq_ok_iff] at h
    obtain ⟨_, dropped, h⟩ := h
    obtain ⟨closable, -, rfl⟩ := dropParticipant_eq_ok_iff.mp dropped
    obtain ⟨others, pools, ledger, gone, kept⟩ := ih h
    refine ⟨List.forall_mem_cons.mpr ⟨closable, others⟩, pools, ledger, List.forall_mem_cons.mpr ⟨?_, gone⟩, ?_⟩
    · by_cases again : ∃ q ∈ rest, q.key = p.key
      · obtain ⟨q, member, same⟩ := again
        rw [← same]
        exact gone q member
      · rw [kept p.key fun q member same => again ⟨q, member, same⟩, Table.find?_erase]
        exact if_pos rfl
    · intro k ne
      obtain ⟨here, there⟩ := List.forall_mem_cons.mp ne
      rw [kept k there, Table.find?_erase]
      exact if_neg here

/-- When all records of a pool were dropped, none is left. -/
theorem ne_poolId_of_dropParticipants {poolId : Text}
    (dropped : (s.participantsOf poolId).foldlM dropParticipant s = .ok t) :
    ∀ q ∈ t.participants.rows, q.poolId ≠ poolId := by
  intro q member same
  obtain ⟨-, -, -, gone, others⟩ := dropParticipants_cases dropped
  have left : t.participants.find? q.key = some q := Table.find?_eq_some_iff.mpr ⟨member, rfl⟩
  have outside : ∀ p ∈ s.participantsOf poolId, p.key ≠ q.key := by
    intro p among key
    rw [← key, gone p among] at left
    cases left
  rw [others q.key outside] at left
  exact outside q (List.mem_filter.mpr ⟨Table.mem_of_find? left, decide_eq_true same⟩) rfl

/-- A pool is closed exactly by its owner, when it has no shares and every record in it can be dropped. What is left of
the rewards goes to the owner. -/
theorem closePool_eq_ok_iff [Custody L] :
    closePool c op s = .ok (t, o) ↔
      ∃ pool, s.pool? op.poolId = some pool ∧ pool.owner = c.sender ∧ pool.totalShares = 0 ∧
        ∃ s₁, (s.participantsOf pool.poolId).foldlM dropParticipant s = .ok s₁ ∧
          ∃ s₂ leftover, s₁.sweep (rewardAccount pool.poolId) c.sender pool.rewardAsset = .ok (s₂, leftover) ∧
            s₂.deletePool pool.poolId = .ok t ∧ .poolClosed leftover = o := by
  simp only [closePool, bind_eq_ok_iff, requirePool_eq_ok_iff, requireOwner_eq_ok_iff, require_eq_ok_iff, exists_const,
    Prod.exists, pure, Except.pure, Except.ok.injEq, Prod.mk.injEq, existsAndEq, true_and]

/-- Beside the ledger, closing a pool drops the records in it and then the pool. -/
theorem closePool_cases [Custody L] (h : closePool c op s = .ok (t, o)) :
    ∃ pool s₁ ledger, s.pool? op.poolId = some pool ∧
      (s.participantsOf pool.poolId).foldlM dropParticipant s = .ok s₁ ∧
        { s₁ with pools := s₁.pools.erase pool.poolId, ledger } = t := by
  obtain ⟨pool, found, -, -, s₁, dropped, s₂, _, swept, deleted, -⟩ := closePool_eq_ok_iff.mp h
  obtain ⟨ledger, -, rfl⟩ := Store.sweep_eq_ok_iff.mp swept
  obtain ⟨-, same⟩ := Store.deletePool_eq_ok_iff.mp deleted
  exact ⟨pool, s₁, ledger, found, dropped, same⟩

/-! ## What is refused -/

/-- The reward engine never refuses a cycle for an inconsistent result. -/
theorem operational_rebalance (cycle : Reward.Cycle) :
    RefusesWith (fun f => f.code ≠ .invariant) (Reward.rebalance cycle) := by
  intro f h
  rcases Reward.rebalance_error_cases h with ⟨_, _, _, rfl⟩ | ⟨-, rfl⟩ | ⟨-, rfl⟩ <;> simp [Fault.code]

theorem operational_transfer (s : Store Ledger) (source target asset : Text) (amount : Int) :
    RefusesWith Error.Operational (s.transfer source target asset amount) := by
  simp [Store.transfer, Custody.transfer]

theorem operational_sweep (s : Store Ledger) (source target asset : Text) :
    RefusesWith Error.Operational (s.sweep source target asset) := by
  simp [Store.sweep, Custody.sweep]

theorem operational_deletePool (s : Store L) (poolId : Text) : RefusesWith Error.Operational (s.deletePool poolId) := by
  unfold Store.deletePool
  split <;> simp

theorem operational_deleteParticipant (s : Store L) (owner poolId : Text) :
    RefusesWith Error.Operational (s.deleteParticipant owner poolId) := by
  unfold Store.deleteParticipant
  split <;> simp

theorem operational_payOut (s : Store Ledger) (pool : PoolRecord) (account : Text) (reward : Int) :
    RefusesWith Error.Operational (payOut s pool account reward) := by
  unfold payOut
  split <;> simp [operational_transfer]

/-- A change of stake is refused for operational reasons only. -/
theorem operational_moveStake (now : Int) (s : Store Ledger) (pool : PoolRecord) (participant : ParticipantRecord)
    (nextShares : Int) : RefusesWith Error.Operational (moveStake now s pool participant nextShares) := by
  simp [moveStake, liftM, monadLift, MonadLift.monadLift, operational_rebalance, operational_payOut]

theorem operational_participantOrFresh (s : Store L) (owner poolId : Text) :
    RefusesWith Error.Operational (participantOrFresh s owner poolId) := by
  unfold participantOrFresh
  split <;> simp

/-- The records of a pool that is being closed are refused for operational reasons only. -/
theorem operational_dropParticipants (ps : List ParticipantRecord) (s : Store L) :
    RefusesWith Error.Operational (ps.foldlM dropParticipant s) := by
  induction ps generalizing s with
  | nil => exact refusesWith_ok s
  | cons p rest ih => simp [dropParticipant, operational_deleteParticipant, ih]

/-- Whatever a handler refuses is one of the errors that an operation can meet. -/
theorem operational_ofAction (a : Action) (c : Context) (op : Operation) (s : Store Ledger) :
    RefusesWith Error.Operational (ofAction a c op s) := by
  cases a <;>
    simp [ofAction, initializePool, initializeParticipant, stake, unstake, harvest, setStatus, seed, unseed,
      transferPoolOwnership, closeParticipant, closePool, requirePool, requireParticipant, requireOwner, requireActive,
      operational_transfer, operational_sweep, operational_deletePool, operational_deleteParticipant,
      operational_moveStake, operational_participantOrFresh, operational_dropParticipants]

end Handler

end YieldPool
