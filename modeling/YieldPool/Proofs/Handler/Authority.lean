import YieldPool.Proofs.Handler.Pool

/-!
# What only the owner can do

Freezing and thawing a pool, giving it away, taking rewards out of it and closing it are left to its owner. Whatever
else is done by whoever else, the pool stays where it is, with its owner, its status and its terms
(`pool?_ofAction_of_other`).
-/

namespace YieldPool

/-- The owner, the status and the terms of a pool are the same. -/
structure PoolRecord.SameAdministration (p q : PoolRecord) : Prop where
  owner : p.owner = q.owner
  status : p.status = q.status
  terms : p.SameTerms q

namespace PoolRecord.SameAdministration

theorem refl (p : PoolRecord) : p.SameAdministration p := ⟨rfl, rfl, SameTerms.refl p⟩

theorem trans {p q r : PoolRecord} (h : p.SameAdministration q) (k : q.SameAdministration r) :
    p.SameAdministration r :=
  ⟨h.owner.trans k.owner, h.status.trans k.status, h.terms.trans k.terms⟩

end PoolRecord.SameAdministration

namespace Handler

variable {L : Type} {c : Context} {op : Operation} {s t : Store L} {o : Effect.Outcome}

/-- A change of stake leaves how the pool is run. -/
theorem administration_moveStake [Custody L] {now nextShares : Int} {pool : PoolRecord}
    {participant : ParticipantRecord} {change : StakeChange}
    (moved : moveStake now s pool participant nextShares = .ok (t, change)) :
    ∃ next, t.pool? pool.poolId = some next ∧ next.SameAdministration pool := by
  obtain ⟨delay, admissible, ledger, rfl⟩ := moveStake_cases moved
  have written := Store.pool?_putPool s (pool.moved admissible) pool.poolId
  exact ⟨pool.moved admissible, written.trans (if_pos rfl), rfl, rfl, PoolRecord.SameTerms.moved pool admissible⟩

/-- Only its owner closes a pool, gives it away, freezes or thaws it; whoever else acts on it leaves how it is run. What
requires the owner does not accept anybody else. -/
theorem pool?_ofAction_of_other [Custody L] {a : Action} (handled : ofAction a c op s = .ok (t, o)) {poolId : Text}
    {pool : PoolRecord} (found : s.pool? poolId = some pool) (other : pool.owner ≠ c.sender) :
    ∃ next, t.pool? poolId = some next ∧ next.SameAdministration pool := by
  have unchanged : t.pool? poolId = s.pool? poolId →
      ∃ next, t.pool? poolId = some next ∧ next.SameAdministration pool := by
    intro kept
    exact ⟨pool, kept.trans found, PoolRecord.SameAdministration.refl pool⟩
  by_cases named : op.poolId = poolId
  · subst named
    have same : pool.poolId = op.poolId := Store.poolId_of_pool? found
    have denied : ∀ q, s.pool? op.poolId = some q → q.owner ≠ c.sender := by
      intro q found'
      obtain rfl := Option.some.inj (found.symm.trans found')
      exact other
    have changed : ∀ {s₁ u : Store L} {now nextShares participant change q}, s.pool? op.poolId = some q →
        moveStake now s₁ q participant nextShares = .ok (u, change) →
          ∃ next, u.pool? op.poolId = some next ∧ next.SameAdministration pool := by
      intro s₁ u now nextShares participant change q found' moved
      obtain rfl := Option.some.inj (found.symm.trans found')
      rw [← same]
      exact administration_moveStake moved
    have status : ∀ {status}, setStatus status c op s ≠ .ok (t, o) := by
      intro status accepted
      obtain ⟨q, found', owned, -⟩ := setStatus_eq_ok_iff.mp accepted
      exact denied q found' owned
    cases a with
    | initializePool =>
      obtain ⟨-, absent, -⟩ := initializePool_eq_ok_iff.mp handled
      rw [found] at absent
      cases absent
    | initializeParticipant =>
      obtain ⟨-, -, participant, -, -, -, -, rfl, -⟩ := initializeParticipant_eq_ok_iff.mp handled
      exact unchanged rfl
    | stake =>
      obtain ⟨q, found', -, amount, -, participant, -, s₁, -, change, moved, -⟩ := stake_eq_ok_iff.mp handled
      exact changed found' moved
    | unstake =>
      obtain ⟨q, found', -, amount, -, participant, -, -, s₁, change, moved, returned, -⟩ :=
        unstake_eq_ok_iff.mp handled
      obtain ⟨ledger, -, rfl⟩ := Store.transfer_eq_ok_iff.mp returned
      have kept := changed found' moved
      exact kept
    | harvest =>
      obtain ⟨q, found', -, participant, -, change, moved, -⟩ := harvest_eq_ok_iff.mp handled
      exact changed found' moved
    | freezePool => exact absurd handled status
    | thawPool => exact absurd handled status
    | seed =>
      obtain ⟨q, -, amount, -, seeded, -⟩ := seed_eq_ok_iff.mp handled
      obtain ⟨ledger, -, rfl⟩ := Store.transfer_eq_ok_iff.mp seeded
      exact unchanged rfl
    | unseed =>
      obtain ⟨q, found', owned, -⟩ := unseed_eq_ok_iff.mp handled
      exact absurd owned (denied q found')
    | transferPoolOwnership =>
      obtain ⟨q, found', owned, -⟩ := transferPoolOwnership_eq_ok_iff.mp handled
      exact absurd owned (denied q found')
    | closeParticipant =>
      obtain ⟨participant, -, -, rfl, -⟩ := closeParticipant_eq_ok_iff.mp handled
      exact unchanged rfl
    | closePool =>
      obtain ⟨q, found', owned, -⟩ := closePool_eq_ok_iff.mp handled
      exact absurd owned (denied q found')
  · exact unchanged (pool?_ofAction_of_ne handled named)

end Handler

end YieldPool
