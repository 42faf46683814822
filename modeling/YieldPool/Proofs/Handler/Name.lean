import YieldPool.Proofs.Handler.Movement
import YieldPool.Proofs.Handler.Stake
import YieldPool.Proofs.Store.Commitment

/-!
# What names an operation writes

An operation writes the names that stand in it and the name of its sender, and nothing else that was not in the store:
neither into records (`named_records`) nor into balances (`named_balances`). So if the operation and the store are
well-formed but for the name of the sender, the store that it leaves is (`named_ofAction`).
-/

namespace YieldPool

variable {whose : Text → Prop}

/-- Tokens that are moved concern a source and a target, in the movement's asset. -/
theorem Movement.exists_of_total_ne_zero {ms : List Movement} {account asset : Text}
    (moved : total ms account asset ≠ 0) :
    ∃ m ∈ ms, (m.source = account ∨ m.target = account) ∧ m.asset = asset := by
  induction ms with
  | nil => exact absurd rfl moved
  | cons m rest ih =>
    by_cases concerned : (m.source = account ∨ m.target = account) ∧ m.asset = asset
    · exact ⟨m, List.mem_cons_self, concerned⟩
    · have unmoved : m.net account asset = 0 := by
        rw [net, if_neg fun h => concerned ⟨Or.inr h.1, h.2⟩, if_neg fun h => concerned ⟨Or.inl h.1, h.2⟩]
        rfl
      rw [total_cons, unmoved, Int.zero_add] at moved
      obtain ⟨n, member, found⟩ := ih moved
      exact ⟨n, List.mem_cons_of_mem m member, found⟩

/-- The accounts of a well-formed pool are well-formed. -/
theorem PoolRecord.Named.accounts {p : PoolRecord} (h : p.Named whose) :
    (treasuryAccount p.poolId).isWellFormed = true ∧ (rewardAccount p.poolId).isWellFormed = true := by
  simp [treasuryAccount, rewardAccount, h.poolId]

/-- Tokens move between the sender and the accounts of the pool, in the pool's assets. -/
theorem Effect.Outcome.named_movements (ordinary : ∀ t : Text, t.isWellFormed = true → whose t) {pool : PoolRecord}
    (named : pool.Named whose) {sender : Text} (acting : whose sender) (o : Outcome) :
    ∀ m ∈ o.movements pool sender, whose m.source ∧ whose m.target ∧ m.asset.isWellFormed = true := by
  obtain ⟨treasury, rewards⟩ := named.accounts
  have treasury := ordinary _ treasury
  have rewards := ordinary _ rewards
  cases o <;> simp [movements, treasury, rewards, acting, named.stakeAsset, named.rewardAsset]

namespace Handler

open Store

variable {c : Context} {op : Operation} {s t : Store Ledger} {o : Effect.Outcome} {a : Action}

/-- Balances that an operation leaves are of accounts that had one, of the sender, or of the pool. -/
theorem named_balances (ordinary : ∀ t : Text, t.isWellFormed = true → whose t) (acting : whose c.sender)
    (h : s.Named whose) (handled : ofAction a c op s = .ok (t, o)) (account asset : Text)
    (held : t.balance account asset ≠ 0) : whose account ∧ asset.isWellFormed = true := by
  by_cases before : s.balance account asset = 0
  · rw [balance_ofAction handled, before, Int.zero_add] at held
    cases found : s.pool? op.poolId with
    | none =>
      rw [found] at held
      exact absurd rfl held
    | some pool =>
      rw [found] at held
      have named : pool.Named whose := h.pools pool (Table.mem_of_find? found)
      obtain ⟨m, member, concerned, rfl⟩ := Movement.exists_of_total_ne_zero held
      obtain ⟨source, target, wellFormed⟩ := o.named_movements ordinary named acting m member
      rcases concerned with rfl | rfl
      · exact ⟨source, wellFormed⟩
      · exact ⟨target, wellFormed⟩
  · exact h.balances account asset before

/-- Dropping records leaves no name behind that was not there. -/
theorem named_dropParticipants {ps : List ParticipantRecord} (h : ∀ q ∈ s.participants.rows, q.Named whose)
    (dropped : ps.foldlM dropParticipant s = .ok t) : ∀ q ∈ t.participants.rows, q.Named whose := by
  refine foldlM_keeps (I := fun s : Store Ledger => ∀ q ∈ s.participants.rows, q.Named whose) ?_ h dropped
  intro s p t h dropped
  obtain ⟨-, -, rfl⟩ := dropParticipant_eq_ok_iff.mp dropped
  exact Table.forall_mem_erase h p.key

/-- Records that an operation leaves were there, or have the sender's name and the names in the operation. -/
theorem named_records (acting : whose c.sender) (wellFormed : op.WellFormed)
    (given : ∀ owner, Operation.requireText "new_owner" Operation.longestName (op.field "new_owner") = .ok owner →
      whose owner)
    (pools : ∀ p ∈ s.pools.rows, p.Named whose) (participants : ∀ q ∈ s.participants.rows, q.Named whose)
    (handled : ofAction a c op s = .ok (t, o)) :
    (∀ p ∈ t.pools.rows, p.Named whose) ∧ ∀ q ∈ t.participants.rows, q.Named whose := by
  have known : ∀ {pool : PoolRecord}, s.pool? op.poolId = some pool → pool.Named whose := fun found =>
    pools _ (Table.mem_of_find? found)
  have text : ∀ {field name : Text} {longest : Nat} {v : Text},
      Operation.requireText field longest (op.field name) = .ok v → v.isWellFormed = true := fun read =>
    wellFormed.field _ _ (Operation.requireText_eq_ok_iff.mp read).1
  have status : ∀ {status}, setStatus status c op s = .ok (t, o) →
      (∀ p ∈ t.pools.rows, p.Named whose) ∧ ∀ q ∈ t.participants.rows, q.Named whose := by
    intro status changed
    obtain ⟨pool, found, -, rfl, -⟩ := setStatus_eq_ok_iff.mp changed
    obtain ⟨poolId, owner, stakeAsset, rewardAsset⟩ := known found
    exact ⟨Table.forall_mem_insert pools ⟨poolId, owner, stakeAsset, rewardAsset⟩, participants⟩
  cases reported : o.change? with
  | some change =>
    obtain ⟨pool, participant, found, key, -, -, admissible, ledger, rfl⟩ := ofAction_of_change handled reported
    obtain ⟨poolId, owner, stakeAsset, rewardAsset⟩ := known found
    obtain ⟨same, owned⟩ := Prod.mk.inj key
    have next : (pool.moved admissible).Named whose := ⟨poolId, owner, stakeAsset, rewardAsset⟩
    have moved : (participant.moved admissible).Named whose :=
      ⟨(congrArg Text.isWellFormed same).trans wellFormed.poolId, owned ▸ acting⟩
    exact ⟨Table.forall_mem_insert pools next, Table.forall_mem_insert participants moved⟩
  | none =>
    have unmoving : a.movesStake = false := by
      rw [movesStake_ofAction handled, reported]
      rfl
    cases a with
    | stake | unstake | harvest => cases unmoving
    | initializePool =>
      obtain ⟨-, -, pool, same, owned, -, -, -, -, -, -, stakeAsset, rewardAsset, rfl, -⟩ :=
        initializePool_eq_ok_iff.mp handled
      have opened : pool.Named whose := ⟨same ▸ wellFormed.poolId, owned ▸ acting, text stakeAsset, text rewardAsset⟩
      exact ⟨Table.forall_mem_insert pools opened, participants⟩
    | initializeParticipant =>
      obtain ⟨-, -, participant, same, owned, -, -, rfl, -⟩ := initializeParticipant_eq_ok_iff.mp handled
      have entered : participant.Named whose := ⟨same ▸ wellFormed.poolId, owned ▸ acting⟩
      exact ⟨pools, Table.forall_mem_insert participants entered⟩
    | freezePool => exact status handled
    | thawPool => exact status handled
    | seed =>
      obtain ⟨ledger, amount, rfl, -⟩ := seed_cases handled
      exact ⟨pools, participants⟩
    | unseed =>
      obtain ⟨ledger, amount, rfl, -⟩ := unseed_cases handled
      exact ⟨pools, participants⟩
    | transferPoolOwnership =>
      obtain ⟨pool, found, -, newOwner, read, owner_ne, rfl, -⟩ := transferPoolOwnership_eq_ok_iff.mp handled
      obtain ⟨poolId, -, stakeAsset, rewardAsset⟩ := known found
      have handedOver : ({ pool with owner := newOwner, owner_ne } : PoolRecord).Named whose :=
        ⟨poolId, given newOwner read, stakeAsset, rewardAsset⟩
      exact ⟨Table.forall_mem_insert pools handedOver, participants⟩
    | closeParticipant =>
      obtain ⟨participant, -, -, rfl, -⟩ := closeParticipant_eq_ok_iff.mp handled
      exact ⟨pools, Table.forall_mem_erase participants (op.poolId, c.sender)⟩
    | closePool =>
      obtain ⟨pool, s₁, ledger, -, dropped, rfl⟩ := closePool_cases handled
      obtain ⟨-, samePools, -, -⟩ := dropParticipants_cases dropped
      have participants := named_dropParticipants participants dropped
      have kept : ∀ p ∈ s₁.pools.rows, p.Named whose := samePools ▸ pools
      exact ⟨Table.forall_mem_erase kept pool.poolId, participants⟩

/-- An operation writes no names but its own and the sender's. -/
theorem named_ofAction (ordinary : ∀ t : Text, t.isWellFormed = true → whose t) (acting : whose c.sender)
    (wellFormed : op.WellFormed) (h : s.Named whose) (handled : ofAction a c op s = .ok (t, o)) : t.Named whose := by
  obtain ⟨pools, participants⟩ := named_records acting wellFormed
    (fun owner read => ordinary owner (wellFormed.field _ _ (Operation.requireText_eq_ok_iff.mp read).1))
    h.pools h.participants handled
  exact ⟨pools, participants, named_balances ordinary acting h handled⟩

end Handler

end YieldPool
