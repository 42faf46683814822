import YieldPool.Proofs.Handler.Pool
import YieldPool.Reward.History

/-!
# What becomes of a stake

An operation that stakes, takes back or harvests reports a change of stake, and no other does (`movesStake_ofAction`).
It runs the cycle of the sender's holding and reports what comes of it (`ofAction_of_change`). Every other operation
leaves what everybody holds, though records come and go (`holding_ofAction`), and leaves total and compensation of
every pool that is there before and after it (`pool_ofAction`). A pool that is there only afterwards was opened, without
shares (`opened_ofAction`).
-/

namespace YieldPool

variable {L : Type}

/-- The actions that change a stake or harvest. -/
def Action.movesStake : Action → Bool
  | .stake | .unstake | .harvest => true
  | .initializePool | .initializeParticipant | .freezePool | .thawPool | .seed | .unseed | .transferPoolOwnership
  | .closeParticipant | .closePool => false

/-- A change of stake is reported as the cycle came out. -/
structure StakeChange.Reports (change : StakeChange) (r : Reward.Rebalanced) : Prop where
  harvested : change.harvested = r.harvested
  shares : change.shares = r.position.shares
  debt : change.debt = r.position.debt
  totalShares : change.totalShares = r.totalShares

namespace Store

/-- What an owner holds in a pool; nothing without a record. -/
def holding (s : Store L) (owner poolId : Text) : Reward.Holding :=
  (s.participant? owner poolId).elim ⟨owner, 0, 0⟩ fun q => ⟨owner, q.shares, q.debt⟩

variable {s : Store L}

/-- Who has a record holds what it says. -/
theorem holding_of_found {owner poolId : Text} {q : ParticipantRecord} (found : s.participant? owner poolId = some q) :
    s.holding owner poolId = ⟨owner, q.shares, q.debt⟩ := by
  rw [holding, found]
  rfl

/-- Who has no record holds nothing. -/
theorem holding_of_absent {owner poolId : Text} (absent : s.participant? owner poolId = none) :
    s.holding owner poolId = ⟨owner, 0, 0⟩ := by
  rw [holding, absent]
  rfl

/-- A record that can be closed holds nothing. -/
theorem holding_of_closable {owner poolId : Text} {q : ParticipantRecord}
    (found : s.participant? owner poolId = some q) (closable : q.isClosable = true) :
    s.holding owner poolId = ⟨owner, 0, 0⟩ := by
  obtain ⟨shares, debt⟩ := ParticipantRecord.isClosable_iff.mp closable
  rw [holding_of_found found, shares, debt]

/-- A record that is put in says what its owner holds in its pool, and nothing of anybody else. -/
theorem holding_putParticipant (s : Store L) (q : ParticipantRecord) (owner poolId : Text) :
    (s.putParticipant q).holding owner poolId =
      if q.key = (poolId, owner) then ⟨owner, q.shares, q.debt⟩ else s.holding owner poolId := by
  unfold holding
  rw [participant?_putParticipant]
  split <;> rfl

/-- Holdings depend on the records of participants alone. -/
theorem holding_congr {s t : Store L} {owner poolId : Text}
    (same : t.participants.find? (poolId, owner) = s.participants.find? (poolId, owner)) :
    t.holding owner poolId = s.holding owner poolId := by
  unfold holding participant?
  rw [same]

end Store

namespace Handler

open Store

variable {c : Context} {op : Operation} {s t : Store L} {o : Effect.Outcome}

/-- A change of stake runs the cycle that it reports. -/
theorem moveStake_reports [Custody L] {now nextShares : Int} {pool : PoolRecord} {participant : ParticipantRecord}
    {change : StakeChange} (h : moveStake now s pool participant nextShares = .ok (t, change)) :
    change.Reports (cycle pool participant change.delay change.shares).outcome ∧
      ∃ (admissible : (cycle pool participant change.delay change.shares).Admissible) (ledger : L),
        { (s.putPool (pool.moved admissible)).putParticipant (participant.moved admissible) with ledger } = t := by
  obtain ⟨delay, -, admissible, paid, rfl⟩ := moveStake_eq_ok_iff.mp h
  obtain ⟨ledger, written⟩ := payOut_cases paid
  exact ⟨⟨rfl, rfl, rfl, rfl⟩, admissible, ledger, written⟩

/-- A change of stake is reported exactly for the actions that move stakes. -/
theorem movesStake_ofAction [Custody L] {a : Action} (handled : ofAction a c op s = .ok (t, o)) :
    a.movesStake = o.change?.isSome := by
  rw [← action_ofAction handled]
  cases o with
  | statusSet status => cases status <;> rfl
  | _ => rfl

/-- An operation that reports a change of stake runs the cycle of the sender's holding and writes both records. -/
theorem ofAction_of_change [Custody L] {a : Action} (handled : ofAction a c op s = .ok (t, o)) {change : StakeChange}
    (reported : o.change? = some change) :
    ∃ pool participant, s.pool? op.poolId = some pool ∧ participant.key = (op.poolId, c.sender) ∧
      s.holding c.sender op.poolId = ⟨c.sender, participant.shares, participant.debt⟩ ∧
      change.Reports (cycle pool participant change.delay change.shares).outcome ∧
      ∃ (admissible : (cycle pool participant change.delay change.shares).Admissible) (ledger : L),
        { (s.putPool (pool.moved admissible)).putParticipant (participant.moved admissible) with ledger } = t := by
  have moves : a.movesStake = true := by
    rw [movesStake_ofAction handled, reported]
    rfl
  cases a with
  | stake =>
    obtain ⟨pool, found, -, amount, -, participant, read, s₁, staked, _, moved, rfl⟩ := stake_eq_ok_iff.mp handled
    cases reported
    obtain ⟨same, owned⟩ := participantOrFresh_owner read
    obtain ⟨ledger, -, rfl⟩ := Store.transfer_eq_ok_iff.mp staked
    have held : s.holding c.sender op.poolId = ⟨c.sender, participant.shares, participant.debt⟩ := by
      rcases participantOrFresh_cases read with record | ⟨absent, -, -, shares, debt⟩
      · exact holding_of_found record
      · rw [holding_of_absent absent, shares, debt]
    obtain ⟨reports, admissible, paid, rfl⟩ := moveStake_reports moved
    exact ⟨pool, participant, found, Prod.ext same owned, held, reports, admissible, paid, rfl⟩
  | unstake =>
    obtain ⟨pool, found, -, amount, -, participant, record, -, s₁, _, moved, returned, rfl⟩ :=
      unstake_eq_ok_iff.mp handled
    cases reported
    obtain ⟨same, owned⟩ := owner_of_participant? record
    obtain ⟨ledger, -, rfl⟩ := Store.transfer_eq_ok_iff.mp returned
    obtain ⟨reports, admissible, _, rfl⟩ := moveStake_reports moved
    exact ⟨pool, participant, found, Prod.ext same owned, holding_of_found record, reports, admissible, ledger, rfl⟩
  | harvest =>
    obtain ⟨pool, found, -, participant, record, _, moved, rfl⟩ := harvest_eq_ok_iff.mp handled
    cases reported
    obtain ⟨same, owned⟩ := owner_of_participant? record
    exact ⟨pool, participant, found, Prod.ext same owned, holding_of_found record, moveStake_reports moved⟩
  | _ => cases moves

/-- Records that were dropped held nothing, so everybody holds what they held. -/
theorem holding_dropParticipants {poolId : Text} (dropped : (s.participantsOf poolId).foldlM dropParticipant s = .ok t)
    (owner other : Text) : t.holding owner other = s.holding owner other := by
  obtain ⟨closable, -, -, gone, kept⟩ := dropParticipants_cases dropped
  by_cases member : ∃ q ∈ s.participantsOf poolId, q.key = (other, owner)
  · obtain ⟨q, member, key⟩ := member
    have absent : t.participant? owner other = none := by
      rw [participant?, ← key]
      exact gone q member
    have found : s.participant? owner other = some q :=
      Table.find?_eq_some_iff.mpr ⟨(List.mem_filter.mp member).1, key⟩
    rw [holding_of_absent absent, holding_of_closable found (closable q member)]
  · exact holding_congr (kept _ fun q hq key => member ⟨q, hq, key⟩)

/-- Unless a change of stake is reported, everybody holds what they held, though records come and go. -/
theorem holding_ofAction [Custody L] {a : Action} (handled : ofAction a c op s = .ok (t, o))
    (unmoved : o.change? = none) (owner poolId : Text) : t.holding owner poolId = s.holding owner poolId := by
  have status : ∀ {status}, setStatus status c op s = .ok (t, o) → t.holding owner poolId = s.holding owner poolId := by
    intro status changed
    obtain ⟨pool, -, -, rfl, -⟩ := setStatus_eq_ok_iff.mp changed
    rfl
  have unmoving : a.movesStake = false := by
    rw [movesStake_ofAction handled, unmoved]
    rfl
  cases a with
  | stake | unstake | harvest => cases unmoving
  | initializePool =>
    obtain ⟨-, -, pool, -, -, -, -, -, -, -, -, -, -, rfl, -⟩ := initializePool_eq_ok_iff.mp handled
    rfl
  | initializeParticipant =>
    obtain ⟨-, absent, participant, same, owned, shares, debt, rfl, -⟩ := initializeParticipant_eq_ok_iff.mp handled
    rw [holding_putParticipant]
    split
    · rename_i key
      obtain ⟨rfl, rfl⟩ := Prod.mk.inj key
      rw [same, owned] at absent
      rw [holding_of_absent absent, shares, debt]
    · rfl
  | freezePool => exact status handled
  | thawPool => exact status handled
  | seed =>
    obtain ⟨ledger, amount, rfl, -⟩ := seed_cases handled
    rfl
  | unseed =>
    obtain ⟨ledger, amount, rfl, -⟩ := unseed_cases handled
    rfl
  | transferPoolOwnership =>
    obtain ⟨pool, -, -, newOwner, -, owner_ne, rfl, -⟩ := transferPoolOwnership_eq_ok_iff.mp handled
    rfl
  | closeParticipant =>
    obtain ⟨participant, found, closable, rfl, -⟩ := closeParticipant_eq_ok_iff.mp handled
    by_cases key : (op.poolId, c.sender) = (poolId, owner)
    · obtain ⟨rfl, rfl⟩ := Prod.mk.inj key
      have absent : ({ s with participants := s.participants.erase (op.poolId, c.sender) } : Store L).participant?
          c.sender op.poolId = none := by
        rw [participant?, Table.find?_erase, if_pos rfl]
      rw [holding_of_absent absent, holding_of_closable found closable]
    · refine holding_congr ?_
      rw [Table.find?_erase, if_neg key]
  | closePool =>
    obtain ⟨pool, s₁, ledger, -, dropped, rfl⟩ := closePool_cases handled
    exact holding_dropParticipants dropped owner poolId

/-- Nobody's holding in another pool than the one named changes. -/
theorem holding_ofAction_of_ne [Custody L] {a : Action} (handled : ofAction a c op s = .ok (t, o)) {poolId : Text}
    (ne : op.poolId ≠ poolId) (owner : Text) : t.holding owner poolId = s.holding owner poolId := by
  cases reported : o.change? with
  | none => exact holding_ofAction handled reported owner poolId
  | some change =>
    obtain ⟨pool, participant, -, key, -, -, admissible, ledger, rfl⟩ := ofAction_of_change handled reported
    have other : (participant.moved admissible).key ≠ (poolId, owner) := fun same =>
      ne (Prod.mk.inj (key.symm.trans same)).1
    exact (holding_putParticipant _ _ owner poolId).trans (if_neg other)

/-- Unless a change of stake is reported, a pool that is there before and after has the same total, compensation and
terms. -/
theorem pool_ofAction [Custody L] {a : Action} (handled : ofAction a c op s = .ok (t, o)) (unmoved : o.change? = none)
    {poolId : Text} {pool next : PoolRecord} (found : s.pool? poolId = some pool) (kept : t.pool? poolId = some next) :
    next.SameTerms pool ∧ next.totalShares = pool.totalShares ∧ next.compensation = pool.compensation := by
  by_cases named : op.poolId = poolId
  · subst named
    by_cases closing : a = .closePool
    · subst closing
      rw [pool?_closePool handled] at kept
      cases kept
    · obtain ⟨_, kept', terms, total, compensation⟩ := pool?_ofAction handled closing found
      obtain rfl := Option.some.inj (kept.symm.trans kept')
      have unstaked : o.stakeGain = 0 := by
        cases o <;> first | rfl | cases unmoved
      exact ⟨terms, by omega, compensation unmoved⟩
  · rw [pool?_ofAction_of_ne handled named, found] at kept
    obtain rfl := Option.some.inj kept
    exact ⟨PoolRecord.SameTerms.refl pool, rfl, rfl⟩

/-- A pool that is there is not opened again. -/
theorem ne_initializePool_of_found [Custody L] {a : Action} (handled : ofAction a c op s = .ok (t, o))
    {pool : PoolRecord} (found : s.pool? op.poolId = some pool) : a ≠ .initializePool := by
  rintro rfl
  obtain ⟨-, absent, -⟩ := initializePool_eq_ok_iff.mp handled
  rw [found] at absent
  cases absent

/-- A pool that is there only afterwards was opened by the operation, without shares or compensation. -/
theorem opened_ofAction [Custody L] {a : Action} (handled : ofAction a c op s = .ok (t, o)) {poolId : Text}
    {pool : PoolRecord} (absent : s.pool? poolId = none) (found : t.pool? poolId = some pool) :
    op.poolId = poolId ∧ a = .initializePool ∧ pool.totalShares = 0 ∧ pool.compensation = 0 := by
  have named : op.poolId = poolId := by
    by_contra other
    rw [pool?_ofAction_of_ne handled other, absent] at found
    cases found
  subst named
  rcases pool?_ofAction_of_none handled absent with still | ⟨_, found', total, compensation, opened⟩
  · rw [still] at found
    cases found
  · obtain rfl := Option.some.inj (found.symm.trans found')
    exact ⟨rfl, opened, total, compensation⟩

end Handler

end YieldPool
