import YieldPool.Proofs.Handler.Stake
import YieldPool.Proofs.Ledger
import YieldPool.Proofs.Store.Consistency

/-!
# What can be closed

A record can be closed that holds neither shares nor debt. Every operation keeps it so that nobody has a debt without
shares (`debtsHaveShares_ofAction`), so a record can be closed exactly when it holds no shares
(`exists_closeParticipant_iff`). A pool without shares has only records without shares, as its total is what its
participants hold together; so a pool can be closed exactly when its total is zero (`exists_closePool_iff`), however
many records there are to be dropped with it.
-/

namespace YieldPool

variable {L : Type}

namespace Store

/-- Whoever has a debt in a pool has shares in it. -/
def DebtsHaveShares (s : Store L) : Prop :=
  ∀ owner poolId, (s.holding owner poolId).shares = 0 → (s.holding owner poolId).debt = 0

theorem debtsHaveShares_empty : empty.DebtsHaveShares := fun _ _ _ => rfl

/-- Where every debt has shares, a record can be closed exactly when it holds no shares. -/
theorem DebtsHaveShares.isClosable_iff {s : Store L} (h : s.DebtsHaveShares) {owner poolId : Text}
    {q : ParticipantRecord} (found : s.participant? owner poolId = some q) : q.isClosable = true ↔ q.shares = 0 := by
  have debt := h owner poolId
  rw [holding_of_found found] at debt
  rw [ParticipantRecord.isClosable_iff]
  exact ⟨And.left, fun none => ⟨none, debt none⟩⟩

/-- In a pool whose total is zero nobody holds shares. -/
theorem Consistent.shares_eq_zero {s : Store L} (h : s.Consistent) {poolId : Text} {p : PoolRecord}
    (found : s.pool? poolId = some p) (empty : p.totalShares = 0) {q : ParticipantRecord}
    (member : q ∈ s.participants.rows) (named : q.poolId = poolId) : q.shares = 0 := by
  have nonneg : ∀ r ∈ s.participants.rows, 0 ≤ sharesFor poolId r := by
    intro r _
    unfold sharesFor
    split
    · exact r.shares_fits.1
    · exact Int.le_refl 0
  have least : sharesFor poolId q ≤ s.sharesIn poolId := Table.le_sum nonneg member
  have total : s.sharesIn poolId = p.totalShares := poolId_of_pool? found ▸ ((consistent_iff.mp h).1 poolId p found).1
  have own : sharesFor poolId q = q.shares := if_pos named
  rw [own, total, empty] at least
  exact Int.le_antisymm least q.shares_fits.1

end Store

namespace Handler

open Store

variable {c : Context} {op : Operation} {o : Effect.Outcome}

/-- A change of stake leaves no debt without shares, and nothing else changes what anybody holds. -/
theorem debtsHaveShares_ofAction [Custody L] {s t : Store L} {a : Action} (h : s.DebtsHaveShares)
    (handled : ofAction a c op s = .ok (t, o)) : t.DebtsHaveShares := by
  intro owner poolId
  cases reported : o.change? with
  | none =>
    rw [holding_ofAction handled reported]
    exact h owner poolId
  | some change =>
    obtain ⟨pool, participant, -, -, -, -, admissible, ledger, rfl⟩ := ofAction_of_change handled reported
    have held := holding_putParticipant (s.putPool (pool.moved admissible)) (participant.moved admissible) owner poolId
    intro none
    replace none := (congrArg Reward.Holding.shares held).symm.trans none
    refine (congrArg Reward.Holding.debt held).trans ?_
    by_cases mover : (participant.moved admissible).key = (poolId, owner)
    · rw [if_pos mover] at none ⊢
      exact Reward.Cycle.nextDebt_of_leaves none
    · rw [if_neg mover] at none ⊢
      exact h owner poolId none

/-- The sender's record can be closed exactly when it holds no shares. -/
theorem exists_closeParticipant_iff {s : Store L} (debts : s.DebtsHaveShares) {q : ParticipantRecord}
    (found : s.participant? c.sender op.poolId = some q) :
    (∃ t o, closeParticipant c op s = .ok (t, o)) ↔ q.shares = 0 := by
  rw [← debts.isClosable_iff found]
  constructor
  · rintro ⟨t, o, closed⟩
    obtain ⟨_, found', closable, -, -⟩ := closeParticipant_eq_ok_iff.mp closed
    obtain rfl := Option.some.inj (found.symm.trans found')
    exact closable
  · intro closable
    exact ⟨_, _, closeParticipant_eq_ok_iff.mpr ⟨q, found, closable, rfl, rfl⟩⟩

/-- Different records of a store that can be closed can be dropped one after the other. Dropping one leaves the others,
whose keys are different. -/
theorem exists_dropParticipants {s : Store L} {ps : List ParticipantRecord}
    (distinct : (ps.map ParticipantRecord.key).Nodup) (closable : ∀ p ∈ ps, p.isClosable = true)
    (there : ∀ p ∈ ps, p ∈ s.participants.rows) : ∃ t, ps.foldlM dropParticipant s = .ok t := by
  induction ps generalizing s with
  | nil => exact ⟨s, rfl⟩
  | cons p rest ih =>
    rw [List.map_cons, List.nodup_cons] at distinct
    obtain ⟨new, distinct⟩ := distinct
    obtain ⟨first, others⟩ := List.forall_mem_cons.mp closable
    obtain ⟨here, among⟩ := List.forall_mem_cons.mp there
    have dropped : dropParticipant s p = .ok { s with participants := s.participants.erase p.key } :=
      dropParticipant_eq_ok_iff.mpr
        ⟨first, Table.contains_eq_true_iff.mpr ⟨p, Table.find?_eq_some_iff.mpr ⟨here, rfl⟩⟩, rfl⟩
    obtain ⟨t, onwards⟩ := ih (s := { s with participants := s.participants.erase p.key }) distinct others
      fun q member => Table.mem_erase_rows.mpr
        ⟨among q member, fun same => new (same ▸ List.mem_map_of_mem member)⟩
    exact ⟨t, by rw [List.foldlM_cons, bind_eq_ok_iff]; exact ⟨_, dropped, onwards⟩⟩

/-- The sender's pool can be closed exactly when its total is zero. -/
theorem exists_closePool_iff {s : Store Ledger} (consistent : s.Consistent) (debts : s.DebtsHaveShares)
    {pool : PoolRecord} (found : s.pool? op.poolId = some pool) (owned : pool.owner = c.sender) :
    (∃ t o, closePool c op s = .ok (t, o)) ↔ pool.totalShares = 0 := by
  constructor
  · rintro ⟨t, o, closed⟩
    obtain ⟨_, found', -, empty, -⟩ := closePool_eq_ok_iff.mp closed
    obtain rfl := Option.some.inj (found.symm.trans found')
    exact empty
  · intro empty
    have named := poolId_of_pool? found
    have closable : ∀ q ∈ s.participantsOf pool.poolId, q.isClosable = true := by
      intro q among
      obtain ⟨member, same⟩ := List.mem_filter.mp among
      have record : s.participant? q.owner q.poolId = some q := Table.find?_eq_some_iff.mpr ⟨member, rfl⟩
      exact (debts.isClosable_iff record).mpr
        (consistent.shares_eq_zero found empty member ((of_decide_eq_true same).trans named))
    have distinct : ((s.participantsOf pool.poolId).map ParticipantRecord.key).Nodup :=
      s.participants.keys_nodup.sublist (List.filter_sublist.map _)
    obtain ⟨s₁, dropped⟩ := exists_dropParticipants distinct closable fun q among => (List.mem_filter.mp among).1
    obtain ⟨-, pools, -, -⟩ := dropParticipants_cases dropped
    obtain ⟨ledger, swept⟩ := s₁.ledger.exists_sweep_eq_ok (rewardAccount pool.poolId) c.sender pool.rewardAsset
    have there : s₁.pools.contains pool.poolId = true := by
      rw [pools, named]
      exact Table.contains_eq_true_iff.mpr ⟨pool, found⟩
    have paid : s₁.sweep (rewardAccount pool.poolId) c.sender pool.rewardAsset =
        .ok ({ s₁ with ledger }, s₁.balance (rewardAccount pool.poolId) pool.rewardAsset) :=
      sweep_eq_ok_iff.mpr ⟨ledger, congrArg (Except.mapError Error.ledger) swept, rfl⟩
    exact ⟨_, _, closePool_eq_ok_iff.mpr ⟨pool, found, owned, empty, s₁, dropped, _, _, paid,
      deletePool_eq_ok_iff.mpr ⟨there, rfl⟩, rfl⟩⟩

/-- When a pool is closed, no record in it is left. -/
theorem ne_poolId_of_closePool [Custody L] {s t : Store L} (closed : closePool c op s = .ok (t, o)) :
    ∀ q ∈ t.participants.rows, q.poolId ≠ op.poolId := by
  obtain ⟨pool, s₁, ledger, found, dropped, rfl⟩ := closePool_cases closed
  rw [← poolId_of_pool? found]
  intro q member
  exact ne_poolId_of_dropParticipants dropped q member

end Handler

end YieldPool
