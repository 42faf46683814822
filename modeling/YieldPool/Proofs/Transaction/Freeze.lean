import YieldPool.Proofs.Transaction.Batch
import YieldPool.Proofs.Transaction.Refinement

/-!
# A frozen pool stands still

A frozen pool admits no change of stake (`unmoving_of_frozen`), and only an operation that thaws or closes it takes it
out of this status (`frozen_ofAction`). So as long as nothing of the kind is accepted, the pool stays frozen with what
everybody holds in it, whatever else is done to it and elsewhere, and every request that would change a stake in it is
rejected (`frozen_pool_stands_still`).
-/

namespace YieldPool

variable {L : Type}

/-- The actions that take a frozen pool out of its status. -/
def Action.releases : Action → Bool
  | .thawPool | .closePool => true
  | .initializePool | .initializeParticipant | .stake | .unstake | .harvest | .freezePool | .seed | .unseed
  | .transferPoolOwnership | .closeParticipant => false

/-- A pool as it was in one store is frozen in another, on the same terms and with the same total, compensation and
holdings. -/
structure Store.StandsStill (s : Store L) (pool : PoolRecord) (t : Store L) : Prop where
  record : ∃ next, t.pool? pool.poolId = some next ∧ next.isFrozen = true ∧ next.SameTerms pool ∧
    next.totalShares = pool.totalShares ∧ next.compensation = pool.compensation
  holding : ∀ owner, t.holding owner pool.poolId = s.holding owner pool.poolId

/-- A frozen pool stands still as it is. -/
theorem Store.StandsStill.refl {s : Store L} {pool : PoolRecord} (found : s.pool? pool.poolId = some pool)
    (frozen : pool.isFrozen = true) : s.StandsStill pool s :=
  ⟨⟨pool, found, frozen, PoolRecord.SameTerms.refl pool, rfl, rfl⟩, fun _ => rfl⟩

namespace Handler

variable {c : Context} {op : Operation} {s t : Store L} {o : Effect.Outcome} {pool : PoolRecord}

/-- A frozen pool admits no change of stake. -/
theorem unmoving_of_frozen [Custody L] {a : Action} (handled : ofAction a c op s = .ok (t, o))
    (found : s.pool? op.poolId = some pool) (frozen : pool.isFrozen = true) : a.movesStake = false := by
  have active : ∀ q, s.pool? op.poolId = some q → q.isFrozen ≠ false := by
    intro q found'
    obtain rfl := Option.some.inj (found.symm.trans found')
    exact ne_false_of_eq_true frozen
  cases a with
  | stake =>
    obtain ⟨q, found', unfrozen, -⟩ := stake_eq_ok_iff.mp handled
    exact absurd unfrozen (active q found')
  | unstake =>
    obtain ⟨q, found', unfrozen, -⟩ := unstake_eq_ok_iff.mp handled
    exact absurd unfrozen (active q found')
  | harvest =>
    obtain ⟨q, found', unfrozen, -⟩ := harvest_eq_ok_iff.mp handled
    exact absurd unfrozen (active q found')
  | _ => rfl

/-- A frozen pool stays frozen unless it is thawed or closed. -/
theorem frozen_ofAction [Custody L] {a : Action} (handled : ofAction a c op s = .ok (t, o))
    (unreleased : a.releases = false) (found : s.pool? op.poolId = some pool) (frozen : pool.isFrozen = true) :
    ∃ next, t.pool? op.poolId = some next ∧ next.isFrozen = true := by
  have unmoving := unmoving_of_frozen handled found frozen
  cases a with
  | stake | unstake | harvest => cases unmoving
  | thawPool | closePool => cases unreleased
  | initializePool => exact absurd rfl (ne_initializePool_of_found handled found)
  | initializeParticipant =>
    obtain ⟨-, -, participant, -, -, -, -, rfl, -⟩ := initializeParticipant_eq_ok_iff.mp handled
    exact ⟨pool, found, frozen⟩
  | freezePool =>
    obtain ⟨q, found', -, rfl, -⟩ := setStatus_eq_ok_iff.mp handled
    exact ⟨q.withStatus .frozen, (Store.pool?_putPool s _ _).trans (if_pos (Store.poolId_of_pool? found')), rfl⟩
  | seed =>
    obtain ⟨ledger, amount, rfl, -⟩ := seed_cases handled
    exact ⟨pool, found, frozen⟩
  | unseed =>
    obtain ⟨ledger, amount, rfl, -⟩ := unseed_cases handled
    exact ⟨pool, found, frozen⟩
  | transferPoolOwnership =>
    obtain ⟨q, found', -, owner, -, owner_ne, rfl, -⟩ := transferPoolOwnership_eq_ok_iff.mp handled
    obtain rfl := Option.some.inj (found.symm.trans found')
    exact ⟨{ pool with owner, owner_ne },
      (Store.pool?_putPool s _ _).trans (if_pos (Store.poolId_of_pool? found)), frozen⟩
  | closeParticipant =>
    obtain ⟨participant, -, -, rfl, -⟩ := closeParticipant_eq_ok_iff.mp handled
    exact ⟨pool, found, frozen⟩

/-- A frozen pool stands still while an operation neither thaws nor closes it. -/
theorem standsStill_ofAction [Custody L] {a : Action} {u : Store L} (still : s.StandsStill pool t)
    (handled : ofAction a c op t = .ok (u, o)) (unreleased : op.poolId = pool.poolId → a.releases = false) :
    s.StandsStill pool u := by
  obtain ⟨⟨current, found, frozen, terms, total, compensation⟩, held⟩ := still
  have kept : (op.poolId ≠ pool.poolId ∨ o.change? = none) ∧
      ∃ next, u.pool? pool.poolId = some next ∧ next.isFrozen = true := by
    by_cases named : op.poolId = pool.poolId
    · rw [← named] at found ⊢
      have unmoving := unmoving_of_frozen handled found frozen
      rw [movesStake_ofAction handled] at unmoving
      exact ⟨Or.inr (Option.not_isSome_iff_eq_none.mp (ne_true_of_eq_false unmoving)),
        frozen_ofAction handled (unreleased named) found frozen⟩
    · exact ⟨Or.inl named, current, (pool?_ofAction_of_ne handled named).trans found, frozen⟩
  obtain ⟨other, next, kept, stillFrozen⟩ := kept
  obtain ⟨terms', total', compensation', held'⟩ := Transaction.undisturbed handled other found kept
  exact ⟨⟨next, kept, stillFrozen, terms'.trans terms, total'.trans total, compensation'.trans compensation⟩,
    fun owner => (held' owner).trans (held owner)⟩

end Handler

namespace Transaction

variable {c : Handler.Context} {s t u : Store L} {pool : PoolRecord}

/-- A frozen pool stands still while operations neither thaw nor close it. -/
theorem standsStill_run [Custody L] (still : s.StandsStill pool t) {ops : List Operation}
    (unreleased : ∀ op ∈ ops, op.poolId = pool.poolId → op.action.releases = false) {effects : List Effect}
    (ran : run c t ops = .ok (u, effects)) : s.StandsStill pool u :=
  run_keeps (fun _ _ _ _ allowed still handled => Handler.standsStill_ofAction still handled allowed) unreleased still
    ran

/-- Operations that would change a stake in a frozen pool, and neither thaw nor close it, do not run. The operations
before such a one leave the pool frozen. -/
theorem run_ne_ok_of_frozen [Custody L] (found : s.pool? pool.poolId = some pool) (frozen : pool.isFrozen = true)
    {ops : List Operation} (moving : ∃ op ∈ ops, op.poolId = pool.poolId ∧ op.action.movesStake = true)
    (unreleased : ∀ op ∈ ops, op.poolId = pool.poolId → op.action.releases = false) {effects : List Effect} :
    run c s ops ≠ .ok (t, effects) := by
  intro ran
  obtain ⟨op, member, named, moves⟩ := moving
  obtain ⟨done, rest, rfl⟩ := List.append_of_mem member
  obtain ⟨s₁, first, before, second, after, -⟩ := run_append_eq_ok_iff.mp ran
  obtain ⟨s₂, effect, stepped, -⟩ := run_cons_eq_ok_iff.mp after
  obtain ⟨o, handled, -⟩ := step_eq_ok_iff.mp stepped
  have still := standsStill_run (Store.StandsStill.refl found frozen)
    (fun op member => unreleased op (List.mem_append_left _ member)) before
  obtain ⟨current, found', frozen', -⟩ := still.record
  rw [← named] at found'
  rw [Handler.unmoving_of_frozen handled found' frozen'] at moves
  cases moves

/-- A request that would change a stake in a frozen pool, and neither thaws nor closes it, is rejected. -/
theorem rejected_of_frozen {s : Store Ledger} (found : s.pool? pool.poolId = some pool) (frozen : pool.isFrozen = true)
    (config : Config) (clock : Int) (r : Request)
    (asks : ∀ ops, Operation.parse config r.operations = .ok ops →
      (∃ op ∈ ops, op.poolId = pool.poolId ∧ op.action.movesStake = true) ∧
        ∀ op ∈ ops, op.poolId = pool.poolId → op.action.releases = false) :
    ∃ code message, apply config clock r s = .ok (s, .rejected code message) := by
  cases applied : applyOrThrow config clock r s with
  | ok x =>
    obtain ⟨sender, -, now, -, ops, parsed, ran, -⟩ := applyOrThrow_eq_ok_iff.mp applied
    obtain ⟨moving, unreleased⟩ := asks ops parsed
    exact absurd ran (run_ne_ok_of_frozen found frozen moving unreleased)
  | error e =>
    obtain ⟨text, -, answered⟩ := apply_of_error applied
    exact ⟨e.code, text, answered⟩

end Transaction

/-- While a pool is frozen its accounting stands still. After any requests, by whoever and under any configurations, of
which no accepted one reports that it thawed or closed the pool, the pool is still frozen, with the same terms, total
and compensation, and everybody holds the same shares and debt in it as before, with or without a record. Then every
request is rejected in which an operation stakes, takes back or harvests in the pool and none thaws or closes it,
wherever that operation stands in the request. -/
theorem frozen_pool_stands_still {s : Store Ledger} {poolId : Text} {pool : PoolRecord}
    (found : s.pool? poolId = some pool) (frozen : pool.isFrozen = true) {events : List Event}
    (unreleased : ∀ e ∈ s.reports events, e.poolId = poolId → e.action.releases = false) :
    (∃ next, (s.run events).pool? poolId = some next ∧ next.isFrozen = true ∧ next.SameTerms pool ∧
        next.totalShares = pool.totalShares ∧ next.compensation = pool.compensation) ∧
      (∀ owner, (s.run events).holding owner poolId = s.holding owner poolId) ∧
      ∀ (config : Config) (clock : Int) (r : Request),
        (∀ ops, Operation.parse config r.operations = .ok ops →
          (∃ op ∈ ops, op.poolId = poolId ∧ op.action.movesStake = true) ∧
            ∀ op ∈ ops, op.poolId = poolId → op.action.releases = false) →
          ∃ code message,
            Transaction.apply config clock r (s.run events) = .ok (s.run events, .rejected code message) := by
  obtain rfl := Store.poolId_of_pool? found
  have run : (∀ e ∈ [] ++ s.reports events, e.poolId = pool.poolId → e.action.releases = false) →
      s.StandsStill pool (s.run events) := by
    refine Store.run_keeps_with_reports (I := fun t log =>
      (∀ e ∈ log, e.poolId = pool.poolId → e.action.releases = false) → s.StandsStill pool t)
      (fun t ledger log before unreleased => ?_) (fun c t u op effect log before stepped unreleased => ?_)
      (fun _ => Store.StandsStill.refl found frozen) events
    · obtain ⟨record, held⟩ := before unreleased
      exact ⟨record, held⟩
    · obtain ⟨o, handled, rfl⟩ := Transaction.step_eq_ok_iff.mp stepped
      obtain ⟨earlier, last⟩ := List.forall_mem_append.mp unreleased
      exact Handler.standsStill_ofAction (before earlier) handled (last _ List.mem_cons_self)
  have still := run unreleased
  refine ⟨still.record, still.holding, fun config clock r asks => ?_⟩
  obtain ⟨next, found', frozen', terms, -, -⟩ := still.record
  rw [← terms.poolId] at found' asks
  exact Transaction.rejected_of_frozen found' frozen' config clock r asks

/-- The pool with its stake, frozen by its owner. -/
def frozenStore : Store Ledger := Transaction.stakedStore.run [.request {} 0 (requestOf "o" "freeze_pool" 25 [])]

/-- While the pool is frozen, others put rewards into it and open and close records; the owner takes rewards out and
gives the pool away, and then cannot thaw it any more; the staker cannot take anything back. -/
def whileFrozen : List Event :=
  [.credit "b" "r" 50,
    .request {} 0 (requestOf "b" "seed" 25 [(.text "amount", .int 50)]),
    .request {} 0 (requestOf "a" "unstake" 26 [(.text "amount", .int 4)]),
    .request {} 0 (requestOf "b" "initialize_participant" 27 []),
    .request {} 0 (requestOf "o" "unseed" 28 [(.text "amount", .int 20)]),
    .request {} 0 (requestOf "o" "transfer_pool_ownership" 29 [(.text "new_owner", .text "b")]),
    .request {} 0 (requestOf "o" "thaw_pool" 30 []),
    .request {} 0 (requestOf "b" "freeze_pool" 31 []),
    .request {} 0 (requestOf "b" "close_participant" 32 [])]

/-- The staker opens a pool and takes four tokens back from the frozen one. -/
def openingAndUnstaking : Request where
  sender := .text "a"
  now := .int 40
  operations := .list [operationOf "q" "initialize_pool" (openingFor "s" "r"),
    operationOf "p" "unstake" [(.text "amount", .int 4)]]

/-- Six requests are accepted while the pool is frozen. Its ten shares stay, and a request that opens a pool and takes
stake back is rejected. -/
theorem frozen_pool_stands_still_whileFrozen :
    (frozenStore.reports whileFrozen).map Effect.action =
        [.seed, .initializeParticipant, .unseed, .transferPoolOwnership, .freezePool, .closeParticipant] ∧
      (∃ next, (frozenStore.run whileFrozen).pool? "p" = some next ∧ next.isFrozen = true ∧ next.totalShares = 10) ∧
      (frozenStore.run whileFrozen).holding "a" "p" = ⟨"a", 10, 0⟩ ∧
      ∃ code message, Transaction.apply {} 0 openingAndUnstaking (frozenStore.run whileFrozen) =
        .ok (frozenStore.run whileFrozen, .rejected code message) := by
  have there : (frozenStore.pool? "p").map (fun p => (p.isFrozen, p.totalShares)) = some (true, 10) := by
    decide +kernel
  obtain ⟨pool, found, frozenTotal⟩ := Option.map_eq_some_iff.mp there
  obtain ⟨frozen, total⟩ := Prod.mk.inj frozenTotal
  have held : frozenStore.holding "a" "p" = ⟨"a", 10, 0⟩ := by decide +kernel
  have unreleased : ∀ e ∈ frozenStore.reports whileFrozen, e.poolId = "p" → e.action.releases = false := by
    decide +kernel
  obtain ⟨⟨next, kept, still, -, sameTotal, -⟩, sameHolding, rejected⟩ :=
    frozen_pool_stands_still found frozen unreleased
  have asks : ∀ ops ∈ (Operation.parse {} openingAndUnstaking.operations).toOption,
      (∃ op ∈ ops, op.poolId = "p" ∧ op.action.movesStake = true) ∧
        ∀ op ∈ ops, op.poolId = "p" → op.action.releases = false := by decide +kernel
  exact ⟨by decide +kernel, ⟨next, kept, still, sameTotal.trans total⟩, (sameHolding "a").trans held,
    rejected {} 0 openingAndUnstaking fun ops parsed => asks ops (toOption_eq_some_iff.mpr parsed)⟩

end YieldPool
