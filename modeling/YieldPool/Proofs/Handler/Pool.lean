import YieldPool.Proofs.Handler

/-!
# What becomes of a pool

An operation reports an outcome of its own action (`action_ofAction`). It leaves every pool alone but the one that it
names (`pool?_ofAction_of_ne`). That pool keeps its terms, and its total changes by what was staked or taken back,
unless the operation closes it (`pool?_ofAction`); its compensation changes only with a change of stake that is
reported. A pool that does not exist can only be opened, without shares or compensation (`pool?_ofAction_of_none`).
-/

namespace YieldPool

variable {L : Type}

/-- The terms on which a pool was opened are the same. -/
structure PoolRecord.SameTerms (p q : PoolRecord) : Prop where
  poolId : p.poolId = q.poolId
  genesisTime : p.genesisTime = q.genesisTime
  periodLength : p.periodLength = q.periodLength
  rewardRate : p.rewardRate = q.rewardRate
  stakeAsset : p.stakeAsset = q.stakeAsset
  rewardAsset : p.rewardAsset = q.rewardAsset

namespace PoolRecord.SameTerms

theorem refl (p : PoolRecord) : p.SameTerms p := ⟨rfl, rfl, rfl, rfl, rfl, rfl⟩

theorem trans {p q r : PoolRecord} (h : p.SameTerms q) (k : q.SameTerms r) : p.SameTerms r :=
  ⟨h.poolId.trans k.poolId, h.genesisTime.trans k.genesisTime, h.periodLength.trans k.periodLength,
    h.rewardRate.trans k.rewardRate, h.stakeAsset.trans k.stakeAsset, h.rewardAsset.trans k.rewardAsset⟩

/-- A change of stake keeps the terms of the pool. -/
theorem moved (p : PoolRecord) {c : Reward.Cycle} (admissible : c.Admissible) : (p.moved admissible).SameTerms p :=
  ⟨rfl, rfl, rfl, rfl, rfl, rfl⟩

end PoolRecord.SameTerms

/-- The action that an outcome comes of. -/
def Effect.Outcome.action : Outcome → Action
  | .poolOpened _ => .initializePool
  | .participantOpened => .initializeParticipant
  | .staked .. => .stake
  | .unstaked .. => .unstake
  | .harvested _ => .harvest
  | .statusSet .frozen => .freezePool
  | .statusSet .initialized => .thawPool
  | .seeded _ => .seed
  | .unseeded _ => .unseed
  | .ownerSet _ => .transferPoolOwnership
  | .participantClosed => .closeParticipant
  | .poolClosed _ => .closePool

/-- How many tokens an operation stakes; less than none if it takes some back. -/
def Effect.Outcome.stakeGain : Outcome → Int
  | .staked _ amount => amount
  | .unstaked _ amount => -amount
  | .poolOpened _ | .participantOpened | .harvested _ | .statusSet _ | .seeded _ | .unseeded _ | .ownerSet _
  | .participantClosed | .poolClosed _ => 0

/-- The change of stake that an outcome reports, if it reports one. -/
def Effect.Outcome.change? : Outcome → Option StakeChange
  | .staked change _ | .unstaked change _ | .harvested change => some change
  | .poolOpened _ | .participantOpened | .statusSet _ | .seeded _ | .unseeded _ | .ownerSet _ | .participantClosed
  | .poolClosed _ => none

namespace Handler

variable {c : Context} {op : Operation} {s t : Store L} {o : Effect.Outcome}

/-- An operation reports an outcome of its own action. -/
theorem action_ofAction [Custody L] {a : Action} (handled : ofAction a c op s = .ok (t, o)) : o.action = a := by
  have status : ∀ {status}, setStatus status c op s = .ok (t, o) → .statusSet status = o := fun changed => by
    obtain ⟨pool, -, -, -, reported⟩ := setStatus_eq_ok_iff.mp changed
    exact reported
  cases a with
  | initializePool =>
    obtain ⟨-, -, pool, -, -, -, -, -, -, -, -, -, -, -, rfl⟩ := initializePool_eq_ok_iff.mp handled
    rfl
  | initializeParticipant =>
    obtain ⟨-, -, participant, -, -, -, -, -, rfl⟩ := initializeParticipant_eq_ok_iff.mp handled
    rfl
  | stake =>
    obtain ⟨pool, -, -, amount, -, participant, -, s₁, -, change, -, rfl⟩ := stake_eq_ok_iff.mp handled
    rfl
  | unstake =>
    obtain ⟨pool, -, -, amount, -, participant, -, -, s₁, change, -, -, rfl⟩ := unstake_eq_ok_iff.mp handled
    rfl
  | harvest =>
    obtain ⟨pool, -, -, participant, -, change, -, rfl⟩ := harvest_eq_ok_iff.mp handled
    rfl
  | freezePool =>
    rw [← status handled]
    rfl
  | thawPool =>
    rw [← status handled]
    rfl
  | seed =>
    obtain ⟨ledger, amount, -, rfl⟩ := seed_cases handled
    rfl
  | unseed =>
    obtain ⟨ledger, amount, -, rfl⟩ := unseed_cases handled
    rfl
  | transferPoolOwnership =>
    obtain ⟨pool, -, -, owner, -, owner_ne, -, rfl⟩ := transferPoolOwnership_eq_ok_iff.mp handled
    rfl
  | closeParticipant =>
    obtain ⟨participant, -, -, -, rfl⟩ := closeParticipant_eq_ok_iff.mp handled
    rfl
  | closePool =>
    obtain ⟨pool, -, -, -, s₁, -, s₂, leftover, -, -, rfl⟩ := closePool_eq_ok_iff.mp handled
    rfl

/-- A change of stake leaves every other pool as it is. -/
theorem pool?_moveStake_of_ne [Custody L] {now nextShares : Int} {pool : PoolRecord} {participant : ParticipantRecord}
    {change : StakeChange} (h : moveStake now s pool participant nextShares = .ok (t, change)) {poolId : Text}
    (ne : pool.poolId ≠ poolId) : t.pool? poolId = s.pool? poolId := by
  obtain ⟨delay, admissible, ledger, rfl⟩ := moveStake_cases h
  exact (Store.pool?_putPool s (pool.moved admissible) poolId).trans (if_neg ne)

/-- Only the pool that an operation names can change. -/
theorem pool?_ofAction_of_ne [Custody L] {a : Action} (handled : ofAction a c op s = .ok (t, o)) {poolId : Text}
    (ne : op.poolId ≠ poolId) : t.pool? poolId = s.pool? poolId := by
  have other : ∀ {pool}, s.pool? op.poolId = some pool → pool.poolId ≠ poolId := fun found e =>
    ne ((Store.poolId_of_pool? found).symm.trans e)
  have status : ∀ {status}, setStatus status c op s = .ok (t, o) → t.pool? poolId = s.pool? poolId := by
    intro status changed
    obtain ⟨pool, found, -, rfl, -⟩ := setStatus_eq_ok_iff.mp changed
    rw [Store.pool?_putPool]
    exact if_neg (other found)
  cases a with
  | initializePool =>
    obtain ⟨-, -, pool, same, -, -, -, -, -, -, -, -, -, rfl, -⟩ := initializePool_eq_ok_iff.mp handled
    rw [Store.pool?_putPool, same]
    exact if_neg ne
  | initializeParticipant =>
    obtain ⟨-, -, participant, -, -, -, -, rfl, -⟩ := initializeParticipant_eq_ok_iff.mp handled
    rfl
  | stake =>
    obtain ⟨pool, found, -, amount, -, participant, -, s₁, staked, change, changed, -⟩ := stake_eq_ok_iff.mp handled
    obtain ⟨ledger, -, rfl⟩ := Store.transfer_eq_ok_iff.mp staked
    exact pool?_moveStake_of_ne changed (other found)
  | unstake =>
    obtain ⟨pool, found, -, amount, -, participant, -, -, s₁, change, changed, returned, -⟩ :=
      unstake_eq_ok_iff.mp handled
    obtain ⟨ledger, -, rfl⟩ := Store.transfer_eq_ok_iff.mp returned
    exact (pool?_moveStake_of_ne changed (other found) :)
  | harvest =>
    obtain ⟨pool, found, -, participant, -, change, changed, -⟩ := harvest_eq_ok_iff.mp handled
    exact pool?_moveStake_of_ne changed (other found)
  | freezePool => exact status handled
  | thawPool => exact status handled
  | seed =>
    obtain ⟨ledger, amount, rfl, -⟩ := seed_cases handled
    rfl
  | unseed =>
    obtain ⟨ledger, amount, rfl, -⟩ := unseed_cases handled
    rfl
  | transferPoolOwnership =>
    obtain ⟨pool, found, -, owner, -, owner_ne, rfl, -⟩ := transferPoolOwnership_eq_ok_iff.mp handled
    rw [Store.pool?_putPool]
    exact if_neg (other found)
  | closeParticipant =>
    obtain ⟨participant, -, -, rfl, -⟩ := closeParticipant_eq_ok_iff.mp handled
    rfl
  | closePool =>
    obtain ⟨pool, s₁, ledger, found, dropped, rfl⟩ := closePool_cases handled
    obtain ⟨-, pools, -, -⟩ := dropParticipants_cases dropped
    show (s₁.pools.erase pool.poolId).find? poolId = s.pools.find? poolId
    rw [Table.find?_erase, pools]
    exact if_neg (other found)

/-- A change of stake keeps the terms of its pool, and adds the difference of shares to the total. -/
theorem pool?_moveStake [Custody L] {now nextShares : Int} {pool : PoolRecord} {participant : ParticipantRecord}
    {change : StakeChange} (h : moveStake now s pool participant nextShares = .ok (t, change)) :
    ∃ next, t.pool? pool.poolId = some next ∧ next.SameTerms pool ∧
      next.totalShares = pool.totalShares - participant.shares + nextShares := by
  obtain ⟨delay, admissible, ledger, rfl⟩ := moveStake_cases h
  exact ⟨pool.moved admissible, (Store.pool?_putPool s (pool.moved admissible) pool.poolId).trans (if_pos rfl),
    PoolRecord.SameTerms.moved pool admissible, rfl⟩

/-- The pool that an operation names keeps its terms unless it is closed, and its total changes by what was staked. Its
compensation stays unless a change of stake is reported. -/
theorem pool?_ofAction [Custody L] {a : Action} (handled : ofAction a c op s = .ok (t, o)) (stays : a ≠ .closePool)
    {pool : PoolRecord} (found : s.pool? op.poolId = some pool) :
    ∃ next, t.pool? op.poolId = some next ∧ next.SameTerms pool ∧
      next.totalShares = pool.totalShares + o.stakeGain ∧
        (o.change? = none → next.compensation = pool.compensation) := by
  have same : pool.poolId = op.poolId := Store.poolId_of_pool? found
  have unchanged : t.pool? op.poolId = s.pool? op.poolId → o.stakeGain = 0 →
      ∃ next, t.pool? op.poolId = some next ∧ next.SameTerms pool ∧
        next.totalShares = pool.totalShares + o.stakeGain ∧
          (o.change? = none → next.compensation = pool.compensation) := by
    intro kept none
    exact ⟨pool, kept.trans found, PoolRecord.SameTerms.refl pool, by omega, fun _ => rfl⟩
  have status : ∀ {status}, setStatus status c op s = .ok (t, o) → ∃ next, t.pool? op.poolId = some next ∧
      next.SameTerms pool ∧ next.totalShares = pool.totalShares + o.stakeGain ∧
        (o.change? = none → next.compensation = pool.compensation) := by
    intro status changed
    obtain ⟨_, found', -, rfl, rfl⟩ := setStatus_eq_ok_iff.mp changed
    obtain rfl := Option.some.inj (found.symm.trans found')
    exact ⟨pool.withStatus status, (Store.pool?_putPool s _ _).trans (if_pos same),
      ⟨rfl, rfl, rfl, rfl, rfl, rfl⟩, (Int.add_zero _).symm, fun _ => rfl⟩
  cases a with
  | initializePool =>
    obtain ⟨-, absent, -⟩ := initializePool_eq_ok_iff.mp handled
    rw [found] at absent
    cases absent
  | initializeParticipant =>
    obtain ⟨-, -, participant, -, -, -, -, rfl, rfl⟩ := initializeParticipant_eq_ok_iff.mp handled
    exact unchanged rfl rfl
  | stake =>
    obtain ⟨_, found', -, amount, -, participant, -, s₁, staked, change, moved, rfl⟩ := stake_eq_ok_iff.mp handled
    obtain rfl := Option.some.inj (found.symm.trans found')
    obtain ⟨next, kept, terms, total⟩ := pool?_moveStake moved
    rw [same] at kept
    refine ⟨next, kept, terms, ?_, nofun⟩
    rw [total, Effect.Outcome.stakeGain]
    omega
  | unstake =>
    obtain ⟨_, found', -, amount, -, participant, -, -, s₁, change, moved, returned, rfl⟩ :=
      unstake_eq_ok_iff.mp handled
    obtain rfl := Option.some.inj (found.symm.trans found')
    obtain ⟨next, kept, terms, total⟩ := pool?_moveStake moved
    obtain ⟨ledger, -, rfl⟩ := Store.transfer_eq_ok_iff.mp returned
    rw [same] at kept
    refine ⟨next, kept, terms, ?_, nofun⟩
    rw [total, Effect.Outcome.stakeGain]
    omega
  | harvest =>
    obtain ⟨_, found', -, participant, -, change, moved, rfl⟩ := harvest_eq_ok_iff.mp handled
    obtain rfl := Option.some.inj (found.symm.trans found')
    obtain ⟨next, kept, terms, total⟩ := pool?_moveStake moved
    rw [same] at kept
    refine ⟨next, kept, terms, ?_, nofun⟩
    rw [total, Effect.Outcome.stakeGain]
    omega
  | freezePool => exact status handled
  | thawPool => exact status handled
  | seed =>
    obtain ⟨ledger, amount, rfl, rfl⟩ := seed_cases handled
    exact unchanged rfl rfl
  | unseed =>
    obtain ⟨ledger, amount, rfl, rfl⟩ := unseed_cases handled
    exact unchanged rfl rfl
  | transferPoolOwnership =>
    obtain ⟨_, found', -, owner, -, owner_ne, rfl, rfl⟩ := transferPoolOwnership_eq_ok_iff.mp handled
    obtain rfl := Option.some.inj (found.symm.trans found')
    exact ⟨{ pool with owner, owner_ne }, (Store.pool?_putPool s _ _).trans (if_pos same),
      ⟨rfl, rfl, rfl, rfl, rfl, rfl⟩, (Int.add_zero _).symm, fun _ => rfl⟩
  | closeParticipant =>
    obtain ⟨participant, -, -, rfl, rfl⟩ := closeParticipant_eq_ok_iff.mp handled
    exact unchanged rfl rfl
  | closePool => exact absurd rfl stays

/-- A pool that is closed is gone. -/
theorem pool?_closePool [Custody L] (closed : closePool c op s = .ok (t, o)) : t.pool? op.poolId = none := by
  obtain ⟨pool, s₁, ledger, found, -, rfl⟩ := closePool_cases closed
  show (s₁.pools.erase pool.poolId).find? op.poolId = none
  rw [Table.find?_erase, if_pos (Store.poolId_of_pool? found)]

/-- A pool that does not exist can only be opened, without shares or compensation. -/
theorem pool?_ofAction_of_none [Custody L] {a : Action} (handled : ofAction a c op s = .ok (t, o))
    (absent : s.pool? op.poolId = none) :
    t.pool? op.poolId = none ∨
      ∃ pool, t.pool? op.poolId = some pool ∧ pool.totalShares = 0 ∧ pool.compensation = 0 ∧ a = .initializePool := by
  have none : ∀ pool, s.pool? op.poolId ≠ some pool := fun pool found => by
    rw [absent] at found
    cases found
  have status : ∀ {status}, setStatus status c op s ≠ .ok (t, o) := fun changed => by
    obtain ⟨pool, found, -⟩ := setStatus_eq_ok_iff.mp changed
    exact none pool found
  cases a with
  | initializePool =>
    obtain ⟨-, -, pool, same, -, -, -, total, compensation, -, -, -, -, rfl, -⟩ := initializePool_eq_ok_iff.mp handled
    exact Or.inr ⟨pool, (Store.pool?_putPool s pool op.poolId).trans (if_pos same), total, compensation, rfl⟩
  | initializeParticipant =>
    obtain ⟨⟨pool, found⟩, -⟩ := initializeParticipant_eq_ok_iff.mp handled
    exact absurd found (none pool)
  | stake =>
    obtain ⟨pool, found, -⟩ := stake_eq_ok_iff.mp handled
    exact absurd found (none pool)
  | unstake =>
    obtain ⟨pool, found, -⟩ := unstake_eq_ok_iff.mp handled
    exact absurd found (none pool)
  | harvest =>
    obtain ⟨pool, found, -⟩ := harvest_eq_ok_iff.mp handled
    exact absurd found (none pool)
  | freezePool => exact absurd handled status
  | thawPool => exact absurd handled status
  | seed =>
    obtain ⟨pool, found, -⟩ := seed_eq_ok_iff.mp handled
    exact absurd found (none pool)
  | unseed =>
    obtain ⟨pool, found, -⟩ := unseed_eq_ok_iff.mp handled
    exact absurd found (none pool)
  | transferPoolOwnership =>
    obtain ⟨pool, found, -⟩ := transferPoolOwnership_eq_ok_iff.mp handled
    exact absurd found (none pool)
  | closeParticipant =>
    obtain ⟨participant, -, -, rfl, -⟩ := closeParticipant_eq_ok_iff.mp handled
    exact Or.inl absent
  | closePool =>
    obtain ⟨pool, found, -⟩ := closePool_eq_ok_iff.mp handled
    exact absurd found (none pool)

end Handler

end YieldPool
