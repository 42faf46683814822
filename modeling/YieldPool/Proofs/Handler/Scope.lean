import YieldPool.Proofs.Handler

/-!
# Whose records an operation touches

An operation touches the sender's own record in the pool that it names, and no other record of a participant; only
closing the pool also takes away the records of others in it, which must hold nothing (`participant?_ofAction_cases`).
-/

namespace YieldPool.Handler

variable {L : Type} {c : Context} {op : Operation} {s t : Store L} {o : Effect.Outcome}

/-- A change of stake writes the record of its participant only. -/
theorem participant?_moveStake_of_ne [Custody L] {now nextShares : Int} {pool : PoolRecord}
    {participant : ParticipantRecord} {change : StakeChange}
    (moved : moveStake now s pool participant nextShares = .ok (t, change)) {owner poolId : Text}
    (other : participant.key ≠ (poolId, owner)) : t.participant? owner poolId = s.participant? owner poolId := by
  obtain ⟨delay, admissible, ledger, rfl⟩ := moveStake_cases moved
  exact (Table.find?_insert s.participants (participant.moved admissible) (poolId, owner)).trans (if_neg other)

/-- Records that are dropped with their pool were of this pool and held nothing. -/
theorem participant?_closePool [Custody L] (closed : closePool c op s = .ok (t, o)) (owner poolId : Text) :
    t.participant? owner poolId = s.participant? owner poolId ∨
      op.poolId = poolId ∧ t.participant? owner poolId = none ∧
        ∀ q, s.participant? owner poolId = some q → q.isClosable = true := by
  obtain ⟨pool, s₁, ledger, found, dropped, rfl⟩ := closePool_cases closed
  obtain ⟨closable, -, -, gone, kept⟩ := dropParticipants_cases dropped
  by_cases listed : ∃ q ∈ s.participantsOf pool.poolId, q.key = (poolId, owner)
  · obtain ⟨q, member, key⟩ := listed
    obtain ⟨stored, named⟩ := List.mem_filter.mp member
    have same : q.poolId = pool.poolId := of_decide_eq_true named
    have record : s.participant? owner poolId = some q := Table.find?_eq_some_iff.mpr ⟨stored, key⟩
    have absent : s₁.participants.find? (poolId, owner) = none := key ▸ gone q member
    refine Or.inr ⟨?_, absent, fun r found' => ?_⟩
    · rw [← Store.poolId_of_pool? found, ← same]
      exact (Prod.mk.inj key).1
    · obtain rfl := Option.some.inj (record.symm.trans found')
      exact closable q member
  · exact Or.inl (kept _ fun q member key => listed ⟨q, member, key⟩)

/-- An operation touches the sender's own record in the pool that it names, or closes this pool and takes away records
in it that hold nothing; every other record stays. -/
theorem participant?_ofAction_cases [Custody L] {a : Action} (handled : ofAction a c op s = .ok (t, o))
    (owner poolId : Text) :
    t.participant? owner poolId = s.participant? owner poolId ∨
      op.poolId = poolId ∧ (c.sender = owner ∨ a = .closePool ∧ t.participant? owner poolId = none ∧
        ∀ q, s.participant? owner poolId = some q → q.isClosable = true) := by
  by_cases own : op.poolId = poolId ∧ c.sender = owner
  · exact Or.inr ⟨own.1, Or.inl own.2⟩
  have other : (op.poolId, c.sender) ≠ (poolId, owner) := fun key => own (Prod.mk.inj key)
  have status : ∀ {status}, setStatus status c op s = .ok (t, o) →
      t.participant? owner poolId = s.participant? owner poolId := by
    intro status changed
    obtain ⟨pool, -, -, rfl, -⟩ := setStatus_eq_ok_iff.mp changed
    rfl
  cases a with
  | closePool =>
    rcases participant?_closePool handled owner poolId with same | ⟨named, gone⟩
    · exact Or.inl same
    · exact Or.inr ⟨named, Or.inr ⟨rfl, gone⟩⟩
  | initializePool =>
    obtain ⟨-, -, pool, -, -, -, -, -, -, -, -, -, -, rfl, -⟩ := initializePool_eq_ok_iff.mp handled
    exact Or.inl rfl
  | initializeParticipant =>
    obtain ⟨-, -, participant, named, owned, -, -, rfl, -⟩ := initializeParticipant_eq_ok_iff.mp handled
    rw [named, owned] at other
    exact Or.inl ((Store.participant?_putParticipant s participant owner poolId).trans (if_neg other))
  | stake =>
    obtain ⟨pool, -, -, amount, -, participant, read, s₁, staked, change, moved, -⟩ := stake_eq_ok_iff.mp handled
    obtain ⟨named, owned⟩ := participantOrFresh_owner read
    obtain ⟨ledger, -, rfl⟩ := Store.transfer_eq_ok_iff.mp staked
    rw [← named, ← owned] at other
    exact Or.inl (participant?_moveStake_of_ne moved other)
  | unstake =>
    obtain ⟨pool, -, -, amount, -, participant, record, -, s₁, change, moved, returned, -⟩ :=
      unstake_eq_ok_iff.mp handled
    obtain ⟨named, owned⟩ := Store.owner_of_participant? record
    obtain ⟨ledger, -, rfl⟩ := Store.transfer_eq_ok_iff.mp returned
    rw [← named, ← owned] at other
    exact Or.inl (participant?_moveStake_of_ne moved other :)
  | harvest =>
    obtain ⟨pool, -, -, participant, record, change, moved, -⟩ := harvest_eq_ok_iff.mp handled
    obtain ⟨named, owned⟩ := Store.owner_of_participant? record
    rw [← named, ← owned] at other
    exact Or.inl (participant?_moveStake_of_ne moved other)
  | freezePool => exact Or.inl (status handled)
  | thawPool => exact Or.inl (status handled)
  | seed =>
    obtain ⟨ledger, amount, rfl, -⟩ := seed_cases handled
    exact Or.inl rfl
  | unseed =>
    obtain ⟨ledger, amount, rfl, -⟩ := unseed_cases handled
    exact Or.inl rfl
  | transferPoolOwnership =>
    obtain ⟨pool, -, -, newOwner, -, owner_ne, rfl, -⟩ := transferPoolOwnership_eq_ok_iff.mp handled
    exact Or.inl rfl
  | closeParticipant =>
    obtain ⟨participant, -, -, rfl, -⟩ := closeParticipant_eq_ok_iff.mp handled
    exact Or.inl ((Table.find?_erase s.participants (op.poolId, c.sender) (poolId, owner)).trans (if_neg other))

end YieldPool.Handler
