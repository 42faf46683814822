import YieldPool.Proofs.Handler
import YieldPool.Proofs.Ledger

/-!
# What each operation moves

The outcome of an operation, with the pool's record before it, tells which tokens it has moved: stake goes between the
sender and the treasury, rewards between the reward account and the sender. The ledger that an operation leaves is the
one before it with these movements performed (`ledger_ofAction`), so every balance changes by their net
(`balance_ofAction`).
-/

namespace YieldPool

namespace Store

variable {s t : Store Ledger} {source target asset : Text} {amount : Int}

/-- A transfer of a store is one of its ledger. -/
theorem ledger_transfer (h : s.transfer source target asset amount = .ok t) :
    s.ledger.transfer source target asset amount = .ok t.ledger := by
  obtain ⟨ledger, moved, rfl⟩ := transfer_eq_ok_iff.mp h
  exact mapError_eq_ok_iff.mp moved

/-- A transfer is refused for a negative amount, or because the source does not cover it. -/
theorem transfer_error_cases {e : Error} (h : s.transfer source target asset amount = .error e) :
    amount < 0 ∧ e = .ledger (.negativeDebit amount) ∨
      s.balance source asset < amount ∧
        e = .ledger (.insufficient source (s.balance source asset) amount asset) := by
  simp only [transfer, bind_eq_error_iff, pure, Except.pure, reduceCtorEq, and_false, exists_false, or_false] at h
  obtain ⟨r, refused, rfl⟩ := mapError_eq_error_iff.mp h
  rcases Ledger.transfer_error_cases refused with ⟨negative, rfl⟩ | ⟨uncovered, rfl⟩
  · exact Or.inl ⟨negative, rfl⟩
  · exact Or.inr ⟨uncovered, rfl⟩

/-- A sweep is the transfer of all that its source holds of an asset. -/
theorem ledger_sweep (h : s.sweep source target asset = .ok (t, amount)) :
    s.balance source asset = amount ∧ s.ledger.transfer source target asset amount = .ok t.ledger := by
  obtain ⟨ledger, swept, rfl⟩ := sweep_eq_ok_iff.mp h
  exact Ledger.sweep_eq_ok_iff.mp (mapError_eq_ok_iff.mp swept)

end Store

/-- What an operation of a sender moves, read off its outcome. -/
def Effect.Outcome.movements (pool : PoolRecord) (sender : Text) : Outcome → List Movement
  | .staked change amount =>
    [⟨sender, treasuryAccount pool.poolId, pool.stakeAsset, amount⟩,
      ⟨rewardAccount pool.poolId, sender, pool.rewardAsset, change.harvested⟩]
  | .unstaked change amount =>
    [⟨rewardAccount pool.poolId, sender, pool.rewardAsset, change.harvested⟩,
      ⟨treasuryAccount pool.poolId, sender, pool.stakeAsset, amount⟩]
  | .harvested change => [⟨rewardAccount pool.poolId, sender, pool.rewardAsset, change.harvested⟩]
  | .seeded amount => [⟨sender, rewardAccount pool.poolId, pool.rewardAsset, amount⟩]
  | .unseeded amount => [⟨rewardAccount pool.poolId, sender, pool.rewardAsset, amount⟩]
  | .poolClosed returned => [⟨rewardAccount pool.poolId, sender, pool.rewardAsset, returned⟩]
  | .poolOpened _ | .participantOpened | .statusSet _ | .ownerSet _ | .participantClosed => []

/-- No account is concerned but the sender's and those of the pool. -/
theorem Effect.Outcome.total_movements_of_ne {pool : PoolRecord} {sender account : Text} (sent : sender ≠ account)
    (treasury : treasuryAccount pool.poolId ≠ account) (reward : rewardAccount pool.poolId ≠ account) (o : Outcome)
    (asset : Text) : Movement.total (o.movements pool sender) account asset = 0 := by
  cases o <;> simp [movements, Movement.net, sent, treasury, reward]

/-- What an effect reports to have moved, where the store is the one in which its operation was handled. -/
def Effect.movements {L : Type} (s : Store L) (e : Effect) : List Movement :=
  (s.pool? e.poolId).elim [] fun pool => e.outcome.movements pool e.sender

namespace Handler

open Store

variable {c : Context} {op : Operation} {s t : Store Ledger} {o : Effect.Outcome}

/-- A payment is a transfer from the reward account of the pool, also where nothing is due. -/
theorem ledger_payOut {pool : PoolRecord} {account : Text} {reward : Int} (nonneg : 0 ≤ reward)
    (h : payOut s pool account reward = .ok t) :
    s.ledger.transfer (rewardAccount pool.poolId) account pool.rewardAsset reward = .ok t.ledger := by
  unfold payOut at h
  split at h
  · exact ledger_transfer h
  · have none : reward = 0 := by omega
    cases h
    rw [none, Ledger.transfer_zero]

/-- A change of stake pays the harvest from the reward account to the participant. -/
theorem ledger_moveStake {now nextShares : Int} {pool : PoolRecord} {participant : ParticipantRecord}
    {change : StakeChange} (h : moveStake now s pool participant nextShares = .ok (t, change)) :
    s.ledger.transfer (rewardAccount pool.poolId) participant.owner pool.rewardAsset change.harvested =
      .ok t.ledger := by
  obtain ⟨delay, -, admissible, paid, rfl⟩ := moveStake_eq_ok_iff.mp h
  exact (ledger_payOut (Int.sub_nonneg_of_le admissible.debt_le) paid :)

/-- A change of stake moves its harvest from the reward account to the participant, and no other tokens. -/
theorem balance_moveStake {now nextShares : Int} {pool : PoolRecord} {participant : ParticipantRecord}
    {change : StakeChange} (h : moveStake now s pool participant nextShares = .ok (t, change)) (account name : Text) :
    t.balance account name = s.balance account name +
      Movement.net ⟨rewardAccount pool.poolId, participant.owner, pool.rewardAsset, change.harvested⟩ account name :=
  Ledger.balance_transfer (ledger_moveStake h) account name

/-- The ledger that an operation leaves is the one before it with the movements performed that the outcome reports, for
the pool as it was before the operation. -/
theorem ledger_ofAction {a : Action} (handled : ofAction a c op s = .ok (t, o)) :
    s.ledger.perform ((s.pool? op.poolId).elim [] fun pool => o.movements pool c.sender) = .ok t.ledger := by
  have status : ∀ {status}, setStatus status c op s = .ok (t, o) →
      s.ledger.perform ((s.pool? op.poolId).elim [] fun pool => o.movements pool c.sender) = .ok t.ledger := by
    intro status changed
    obtain ⟨pool, found, -, rfl, rfl⟩ := setStatus_eq_ok_iff.mp changed
    rw [found]
    rfl
  cases a with
  | initializePool =>
    obtain ⟨-, absent, pool, -, -, -, -, -, -, -, -, -, -, rfl, rfl⟩ := initializePool_eq_ok_iff.mp handled
    rw [absent]
    rfl
  | initializeParticipant =>
    obtain ⟨⟨pool, found⟩, -, participant, -, -, -, -, rfl, rfl⟩ := initializeParticipant_eq_ok_iff.mp handled
    rw [found]
    rfl
  | stake =>
    obtain ⟨pool, found, -, amount, -, participant, read, s₁, staked, change, moved, rfl⟩ :=
      stake_eq_ok_iff.mp handled
    obtain ⟨-, owned⟩ := participantOrFresh_owner read
    have paid := ledger_moveStake moved
    rw [owned] at paid
    rw [found]
    exact Ledger.perform_cons_eq_ok_iff.mpr
      ⟨s₁.ledger, ledger_transfer staked, Ledger.perform_cons_eq_ok_iff.mpr ⟨t.ledger, paid, rfl⟩⟩
  | unstake =>
    obtain ⟨pool, found, -, amount, -, participant, record, -, s₁, change, moved, returned, rfl⟩ :=
      unstake_eq_ok_iff.mp handled
    obtain ⟨-, owned⟩ := owner_of_participant? record
    have paid := ledger_moveStake moved
    rw [owned] at paid
    rw [found]
    exact Ledger.perform_cons_eq_ok_iff.mpr
      ⟨s₁.ledger, paid, Ledger.perform_cons_eq_ok_iff.mpr ⟨t.ledger, ledger_transfer returned, rfl⟩⟩
  | harvest =>
    obtain ⟨pool, found, -, participant, record, change, moved, rfl⟩ := harvest_eq_ok_iff.mp handled
    obtain ⟨-, owned⟩ := owner_of_participant? record
    have paid := ledger_moveStake moved
    rw [owned] at paid
    rw [found]
    exact Ledger.perform_cons_eq_ok_iff.mpr ⟨t.ledger, paid, rfl⟩
  | freezePool => exact status handled
  | thawPool => exact status handled
  | seed =>
    obtain ⟨pool, found, amount, -, moved, rfl⟩ := seed_eq_ok_iff.mp handled
    rw [found]
    exact Ledger.perform_cons_eq_ok_iff.mpr ⟨t.ledger, ledger_transfer moved, rfl⟩
  | unseed =>
    obtain ⟨pool, found, -, amount, -, moved, rfl⟩ := unseed_eq_ok_iff.mp handled
    rw [found]
    exact Ledger.perform_cons_eq_ok_iff.mpr ⟨t.ledger, ledger_transfer moved, rfl⟩
  | transferPoolOwnership =>
    obtain ⟨pool, found, -, owner, -, owner_ne, rfl, rfl⟩ := transferPoolOwnership_eq_ok_iff.mp handled
    rw [found]
    rfl
  | closeParticipant =>
    obtain ⟨participant, -, -, rfl, rfl⟩ := closeParticipant_eq_ok_iff.mp handled
    cases s.pool? op.poolId <;> rfl
  | closePool =>
    obtain ⟨pool, found, -, -, s₁, dropped, s₂, leftover, swept, deleted, rfl⟩ := closePool_eq_ok_iff.mp handled
    obtain ⟨-, -, ledger, -⟩ := dropParticipants_cases dropped
    obtain ⟨-, moved⟩ := ledger_sweep swept
    obtain ⟨-, rfl⟩ := deletePool_eq_ok_iff.mp deleted
    rw [ledger] at moved
    rw [found]
    exact Ledger.perform_cons_eq_ok_iff.mpr ⟨s₂.ledger, moved, rfl⟩

/-- Every balance changes by the net of what an operation's outcome reports, for the pool as it was before it. -/
theorem balance_ofAction {a : Action} (handled : ofAction a c op s = .ok (t, o)) (account name : Text) :
    t.balance account name = s.balance account name +
      (s.pool? op.poolId).elim 0 fun pool => Movement.total (o.movements pool c.sender) account name := by
  refine (Ledger.balance_perform (ledger_ofAction handled) account name).trans (congrArg _ ?_)
  cases s.pool? op.poolId <;> rfl

/-- No balance changes but the sender's and those of the accounts of the pool that is named. -/
theorem balance_ofAction_of_ne {a : Action} (handled : ofAction a c op s = .ok (t, o)) {account : Text}
    (sent : c.sender ≠ account) (treasury : treasuryAccount op.poolId ≠ account)
    (reward : rewardAccount op.poolId ≠ account) (asset : Text) :
    t.balance account asset = s.balance account asset := by
  rw [balance_ofAction handled]
  cases found : s.pool? op.poolId with
  | none => exact Int.add_zero _
  | some pool =>
    rw [← poolId_of_pool? found] at treasury reward
    rw [Option.elim_some, Effect.Outcome.total_movements_of_ne sent treasury reward, Int.add_zero]

end Handler

end YieldPool
