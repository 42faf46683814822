import Mathlib.Data.List.DropRight
import YieldPool.Proofs.Handler.Stake
import YieldPool.Proofs.Reward.History
import YieldPool.Proofs.Transaction.Consistency
import YieldPool.Proofs.Transaction.Report

/-!
# Pools follow their histories

What was reported for a pool since it was last opened lists the moves of its participants. A plain pool that starts
empty and makes these moves accepts all of them with the outcomes that were reported, and ends with the total, the
compensation and the holdings of the pool in the store (`pools_follow_histories`). Records that were closed and records
that were never opened are holdings of nothing; the pool in the store and the plain pool then differ in form only.
-/

namespace YieldPool

open Reward (PoolState Rebalanced Move)

/-! ## What is reported for a pool -/

namespace Effect

/-- What was reported for a pool since it was last opened. -/
def sinceOpened (poolId : Text) (log : List Effect) : List Effect :=
  (log.filter fun e => decide (e.poolId = poolId)).rtakeWhile fun e => decide (e.action ≠ .initializePool)

/-- The changes of stake in a pool since it was last opened. -/
def changes (poolId : Text) (log : List Effect) : List StakeChange :=
  (sinceOpened poolId log).filterMap (·.outcome.change?)

/-- The move that an effect reports: who then held how many shares, and after how many periods. -/
def move? (e : Effect) : Option Move :=
  e.outcome.change?.map fun change => ⟨e.sender, some change.shares, change.delay⟩

/-- The moves in a pool since it was last opened. -/
def moves (poolId : Text) (log : List Effect) : List Move := (sinceOpened poolId log).filterMap move?

variable {poolId : Text} {e : Effect} (log : List Effect)

/-- An effect in another pool is none since the pool was opened. -/
theorem sinceOpened_append_of_ne (other : e.poolId ≠ poolId) :
    sinceOpened poolId (log ++ [e]) = sinceOpened poolId log := by
  rw [sinceOpened, List.filter_append, List.filter_singleton, decide_eq_false other]
  exact congrArg (List.rtakeWhile _) (List.append_nil _)

/-- No effect comes before the opening of the pool. -/
theorem sinceOpened_append_of_opening (same : e.poolId = poolId) (opening : e.action = .initializePool) :
    sinceOpened poolId (log ++ [e]) = [] := by
  rw [sinceOpened, List.filter_append, List.filter_singleton, decide_eq_true same]
  exact List.rtakeWhile_concat_neg _ _ _ (by simp [opening])

/-- An effect in the pool comes after the others since it was opened. -/
theorem sinceOpened_append (same : e.poolId = poolId) (running : e.action ≠ .initializePool) :
    sinceOpened poolId (log ++ [e]) = sinceOpened poolId log ++ [e] := by
  rw [sinceOpened, List.filter_append, List.filter_singleton, decide_eq_true same]
  exact List.rtakeWhile_concat_pos _ _ _ (decide_eq_true running)

/-- Effects on other pools, and effects that report no change of stake, add no move. -/
theorem history_append_of_other
    (other : e.poolId ≠ poolId ∨ e.action ≠ .initializePool ∧ e.outcome.change? = none) :
    changes poolId (log ++ [e]) = changes poolId log ∧ moves poolId (log ++ [e]) = moves poolId log := by
  unfold changes moves
  by_cases same : e.poolId = poolId
  · obtain ⟨running, unmoved⟩ := other.resolve_left (not_not_intro same)
    rw [sinceOpened_append log same running, List.filterMap_append, List.filterMap_append]
    simp [move?, unmoved]
  · rw [sinceOpened_append_of_ne log same]
    exact ⟨rfl, rfl⟩

/-- An effect that reports a change of stake adds it, and the move. -/
theorem history_append_of_change (same : e.poolId = poolId) (running : e.action ≠ .initializePool)
    {change : StakeChange} (reported : e.outcome.change? = some change) :
    changes poolId (log ++ [e]) = changes poolId log ++ [change] ∧
      moves poolId (log ++ [e]) = moves poolId log ++ [⟨e.sender, some change.shares, change.delay⟩] := by
  unfold changes moves
  rw [sinceOpened_append log same running, List.filterMap_append, List.filterMap_append]
  simp [move?, reported]

end Effect

/-! ## The state of a pool in a store -/

namespace Store

variable {L : Type}

/-- A pool of a store agrees with a plain pool: total, compensation, and what everybody holds. -/
structure Follows (s : Store L) (pool : PoolRecord) (p : PoolState) : Prop where
  totalShares : p.totalShares = pool.totalShares
  compensation : p.compensation = pool.compensation
  holding : ∀ owner, p.holding owner = s.holding owner pool.poolId

/-- A plain pool that a pool of a store agrees with is asked for the cycle that the store runs, and agrees again. -/
theorem Follows.moved {s : Store L} {pool : PoolRecord} {participant : ParticipantRecord} {who : Text} {p : PoolState}
    (h : s.Follows pool p) (key : participant.key = (pool.poolId, who))
    (held : s.holding who pool.poolId = ⟨who, participant.shares, participant.debt⟩) {delay nextShares : Int}
    (admissible : (Handler.cycle pool participant delay nextShares).Admissible) (ledger : L) :
    ∃ next, p.attempt pool.rewardRate ⟨who, some nextShares, delay⟩ =
        .ok (next, (Handler.cycle pool participant delay nextShares).outcome) ∧
      ({ (s.putPool (pool.moved admissible)).putParticipant (participant.moved admissible) with ledger } :
        Store L).Follows (pool.moved admissible) next := by
  have asked : p.cycle pool.rewardRate ⟨who, some nextShares, delay⟩ =
      Handler.cycle pool participant delay nextShares := by
    have holding : p.holding who = ⟨who, participant.shares, participant.debt⟩ := (h.holding who).trans held
    simp only [PoolState.cycle, Handler.cycle, holding, h.totalShares, h.compensation, Option.getD_some]
  refine ⟨p.store who (Handler.cycle pool participant delay nextShares).outcome,
    PoolState.attempt_eq_ok_iff.mpr ⟨asked ▸ admissible, congrArg _ asked, rfl⟩, rfl, rfl, fun owner => ?_⟩
  have written : (participant.moved admissible).key = (pool.poolId, who) := key
  rw [PoolState.holding_store]
  refine Eq.trans ?_ (holding_putParticipant _ (participant.moved admissible) owner pool.poolId).symm
  rw [written]
  by_cases mover : who = owner
  · subst mover
    rw [if_pos rfl, if_pos rfl]
    rfl
  · rw [if_neg mover, if_neg fun same => mover (Prod.mk.inj same).2]
    exact h.holding owner

/-- The moves reported for a pool since it was opened lead a plain pool to the pool's state, and none is refused: each
comes out as it was reported. -/
structure Replays (s : Store L) (pool : PoolRecord) (log : List Effect) : Prop where
  follows : s.Follows pool (PoolState.empty.run pool.rewardRate (Effect.moves pool.poolId log))
  outcomes : List.Forall₂ (fun change outcome => ∃ r, outcome = .ok r ∧ change.Reports r)
    (Effect.changes pool.poolId log)
    (PoolState.empty.outcomes pool.rewardRate (Effect.moves pool.poolId log))

/-- A store is faithful to what was reported if it is consistent and every pool replays what was reported for it. -/
structure Faithful (s : Store L) (log : List Effect) : Prop where
  consistent : s.Consistent
  replays : ∀ poolId pool, s.pool? poolId = some pool → s.Replays pool log

/-- Nobody holds anything in a pool that does not exist. -/
theorem Consistent.holding_of_absent {s : Store L} (h : s.Consistent) {poolId : Text} (absent : s.pool? poolId = none)
    (owner : Text) : s.holding owner poolId = ⟨owner, 0, 0⟩ := by
  refine Store.holding_of_absent ?_
  by_contra present
  obtain ⟨q, found⟩ := Option.ne_none_iff_exists'.mp present
  obtain ⟨p, known⟩ := (consistent_iff.mp h).2 q (Table.mem_of_find? found)
  rw [(owner_of_participant? found).1, absent] at known
  cases known

theorem faithful_empty : empty.Faithful [] := by
  refine ⟨consistent_empty, fun poolId pool found => ?_⟩
  rw [pool?_empty] at found
  cases found

/-- Balances do not matter. -/
theorem Faithful.withLedger {s : Store L} {log : List Effect} (h : s.Faithful log) (ledger : L) :
    ({ s with ledger } : Store L).Faithful log := by
  refine ⟨h.consistent, fun poolId pool found => ?_⟩
  obtain ⟨⟨total, compensation, held⟩, outcomes⟩ := h.replays poolId pool found
  exact ⟨⟨total, compensation, held⟩, outcomes⟩

end Store

namespace Transaction

open Store Handler

variable {L : Type} {c : Context} {op : Operation} {s t : Store L} {effect : Effect} {log : List Effect}

/-- A pool that was just opened has no history. -/
theorem replays_opened [Custody L] (h : s.Consistent) (stepped : step c s op = .ok (t, effect)) {poolId : Text}
    {pool : PoolRecord} (absent : s.pool? poolId = none) (found : t.pool? poolId = some pool) :
    t.Replays pool (log ++ [effect]) := by
  obtain ⟨o, handled, rfl⟩ := step_eq_ok_iff.mp stepped
  obtain ⟨named, opening, total, compensation⟩ := opened_ofAction handled absent found
  obtain rfl := poolId_of_pool? found
  have unmoved : o.change? = none := by
    rw [← Option.not_isSome_iff_eq_none, ← movesStake_ofAction handled, opening]
    decide
  have fresh : Effect.sinceOpened pool.poolId (log ++ [⟨op.action, op.poolId, c.sender, o⟩]) = [] :=
    Effect.sinceOpened_append_of_opening log named opening
  have nothing : ∀ owner, t.holding owner pool.poolId = ⟨owner, 0, 0⟩ := by
    intro owner
    rw [holding_ofAction handled unmoved, h.holding_of_absent absent]
  constructor
  · rw [Effect.moves, fresh]
    exact ⟨total.symm, compensation.symm, fun owner => (nothing owner).symm⟩
  · rw [Effect.moves, Effect.changes, fresh]
    exact List.Forall₂.nil

/-- Total, compensation and holdings of a pool change only by a reported change of stake in this pool. -/
theorem undisturbed [Custody L] {a : Action} {o : Effect.Outcome} (handled : ofAction a c op s = .ok (t, o))
    {poolId : Text} (other : op.poolId ≠ poolId ∨ o.change? = none) {pool next : PoolRecord}
    (found : s.pool? poolId = some pool) (kept : t.pool? poolId = some next) :
    next.SameTerms pool ∧ next.totalShares = pool.totalShares ∧ next.compensation = pool.compensation ∧
      ∀ owner, t.holding owner poolId = s.holding owner poolId := by
  rcases other with ne | unmoved
  · rw [pool?_ofAction_of_ne handled ne, found] at kept
    obtain rfl := Option.some.inj kept
    exact ⟨PoolRecord.SameTerms.refl pool, rfl, rfl, holding_ofAction_of_ne handled ne⟩
  · obtain ⟨terms, total, compensation⟩ := pool_ofAction handled unmoved found kept
    exact ⟨terms, total, compensation, fun owner => holding_ofAction handled unmoved owner poolId⟩

/-- An effect on another pool, or one that reports no change of stake, leaves a pool's history and its state. -/
theorem replays_undisturbed [Custody L] (stepped : step c s op = .ok (t, effect)) {poolId : Text}
    (other : op.poolId ≠ poolId ∨ effect.outcome.change? = none) {pool next : PoolRecord}
    (found : s.pool? poolId = some pool) (kept : t.pool? poolId = some next) (h : s.Replays pool log) :
    t.Replays next (log ++ [effect]) := by
  obtain ⟨o, handled, rfl⟩ := step_eq_ok_iff.mp stepped
  obtain ⟨terms, total, compensation, held⟩ := undisturbed handled other found kept
  obtain rfl := poolId_of_pool? found
  have unaffected : op.poolId ≠ pool.poolId ∨ op.action ≠ .initializePool ∧ o.change? = none := by
    by_cases same : op.poolId = pool.poolId
    · rw [← same] at found
      exact Or.inr ⟨ne_initializePool_of_found handled found, other.resolve_left (not_not_intro same)⟩
    · exact Or.inl same
  obtain ⟨sameChanges, sameMoves⟩ := Effect.history_append_of_other log
    (e := ⟨op.action, op.poolId, c.sender, o⟩) unaffected
  constructor
  · rw [terms.poolId, terms.rewardRate, sameMoves]
    refine ⟨h.follows.totalShares.trans total.symm, h.follows.compensation.trans compensation.symm, fun owner => ?_⟩
    rw [terms.poolId, held]
    exact h.follows.holding owner
  · rw [terms.poolId, terms.rewardRate, sameMoves, sameChanges]
    exact h.outcomes

/-- A change of stake in the pool is the next move of its history. The sender's holding in the store is the mover's
holding in the plain pool, with or without a record. -/
theorem replays_moved [Custody L] (stepped : step c s op = .ok (t, effect)) {change : StakeChange}
    (reported : effect.outcome.change? = some change) {pool next : PoolRecord}
    (found : s.pool? op.poolId = some pool) (kept : t.pool? op.poolId = some next) (h : s.Replays pool log) :
    t.Replays next (log ++ [effect]) := by
  obtain ⟨o, handled, rfl⟩ := step_eq_ok_iff.mp stepped
  obtain ⟨_, participant, found', key, held, reports, admissible, ledger, rfl⟩ := ofAction_of_change handled reported
  obtain rfl := Option.some.inj (found.symm.trans found')
  have same : pool.poolId = op.poolId := poolId_of_pool? found
  have running := ne_initializePool_of_found handled found
  obtain rfl : pool.moved admissible = next :=
    Option.some.inj (((pool?_putPool s (pool.moved admissible) op.poolId).trans (if_pos same)).symm.trans kept)
  obtain ⟨nextChanges, nextMoves⟩ := Effect.history_append_of_change log
    (e := ⟨op.action, op.poolId, c.sender, o⟩) same.symm running reported
  rw [← same] at key held
  obtain ⟨next, attempted, follows⟩ := h.follows.moved key held admissible ledger
  constructor
  · show Follows _ _ (PoolState.empty.run pool.rewardRate (Effect.moves pool.poolId _))
    rw [nextMoves, PoolState.run_append_singleton, PoolState.after_of_ok attempted]
    exact follows
  · show List.Forall₂ _ (Effect.changes pool.poolId _)
      (PoolState.empty.outcomes pool.rewardRate (Effect.moves pool.poolId _))
    rw [nextChanges, nextMoves, PoolState.outcomes_append_singleton, attempted]
    exact List.rel_append h.outcomes (List.Forall₂.cons ⟨_, rfl, reports⟩ List.Forall₂.nil)

/-- Every operation keeps every pool of a store to its history. A history grows only with a change of stake that is
reported for its pool. -/
theorem faithful_step [Custody L] (h : s.Faithful log) (stepped : step c s op = .ok (t, effect)) :
    t.Faithful (log ++ [effect]) := by
  obtain ⟨o, handled, rfl⟩ := step_eq_ok_iff.mp stepped
  refine ⟨consistent_ofAction h.consistent handled, fun poolId next kept => ?_⟩
  cases before : s.pool? poolId with
  | none => exact replays_opened h.consistent stepped before kept
  | some pool =>
    have replays := h.replays poolId pool before
    by_cases same : op.poolId = poolId
    · subst same
      cases reported : o.change? with
      | none => exact replays_undisturbed stepped (Or.inr reported) before kept replays
      | some change => exact replays_moved stepped reported before kept replays
    · exact replays_undisturbed stepped (Or.inl same) before kept replays

end Transaction

/-- In every run from the empty store, a pool that is there at the end has the total, the compensation and the holdings
of a plain pool that starts empty and makes the moves reported since the pool was last opened; and each of these moves
is accepted with the outcome that was reported. Neither an operation that moves no stake, nor an operation on another
pool, nor a rejected request changes total, compensation or holdings of a pool. -/
theorem pools_follow_histories :
    (∀ (events : List Event) (poolId : Text) (pool : PoolRecord),
      (Store.empty.run events).pool? poolId = some pool →
        (Store.empty.run events).Follows pool
          (PoolState.empty.run pool.rewardRate (Effect.moves poolId (Store.empty.reports events))) ∧
        List.Forall₂ (fun change outcome => ∃ r, outcome = .ok r ∧ change.Reports r)
          (Effect.changes poolId (Store.empty.reports events))
          (PoolState.empty.outcomes pool.rewardRate (Effect.moves poolId (Store.empty.reports events)))) ∧
      (∀ (c : Handler.Context) (s t : Store Ledger) (op : Operation) (effect : Effect) (poolId : Text)
        (pool next : PoolRecord), Transaction.step c s op = .ok (t, effect) →
        op.poolId ≠ poolId ∨ op.action.movesStake = false → s.pool? poolId = some pool → t.pool? poolId = some next →
          next.SameTerms pool ∧ next.totalShares = pool.totalShares ∧ next.compensation = pool.compensation ∧
            ∀ owner, t.holding owner poolId = s.holding owner poolId) ∧
      ∀ (config : Config) (clock : Int) (r : Request) (s t : Store Ledger) (code message : Text),
        Transaction.apply config clock r s = .ok (t, .rejected code message) → t = s := by
  refine ⟨fun events poolId pool found => ?_, ?_, ?_⟩
  · have faithful : (Store.empty.run events).Faithful ([] ++ Store.empty.reports events) :=
      Store.run_keeps_with_reports (fun s ledger log h => h.withLedger ledger)
        (fun c s t op effect log => Transaction.faithful_step) Store.faithful_empty events
    obtain ⟨follows, outcomes⟩ := faithful.replays poolId pool found
    rw [Store.poolId_of_pool? found] at follows outcomes
    exact ⟨follows, outcomes⟩
  · rintro c s t op effect poolId pool next stepped other found kept
    obtain ⟨o, handled, -⟩ := Transaction.step_eq_ok_iff.mp stepped
    refine Transaction.undisturbed handled (other.imp_right fun unmoving => ?_) found kept
    rw [Handler.movesStake_ofAction handled] at unmoving
    exact Option.not_isSome_iff_eq_none.mp (ne_true_of_eq_false unmoving)
  · intro config clock r s t code message rejected
    exact Transaction.store_of_rejected rejected

/-- Two stakers come and go and the pool is closed; it is opened again, at another rate, and they come back. -/
def reopenedPool : List Event :=
  let request := fun sender action now fields => Event.request {} 0 (requestOf sender action now fields)
  let terms := fun rate => [(.text "reward_rate", .int rate), (.text "period", .int 10),
    (.text "stake_asset", .text "s"), (.text "reward_asset", .text "r")]
  [.credit "a" "s" 100, .credit "b" "s" 100, .credit "o" "r" 1000,
    request "o" "initialize_pool" 0 (terms 5),
    request "o" "seed" 0 [(.text "amount", .int 500)],
    request "a" "stake" 5 [(.text "amount", .int 40)],
    request "a" "unstake" 35 [(.text "amount", .int 40)],
    request "a" "close_participant" 35 [],
    request "o" "close_pool" 40 [],
    request "o" "initialize_pool" 50 (terms 7),
    request "o" "seed" 50 [(.text "amount", .int 500)],
    request "b" "stake" 50 [(.text "amount", .int 20)],
    request "a" "stake" 75 [(.text "amount", .int 10)],
    request "b" "harvest" 90 []]

/-- The pool that was opened again follows the moves since then, at its new rate. Freezing it keeps its total, and a
rejected withdrawal keeps the store. -/
theorem pools_follow_histories_reopenedPool :
    (∃ pool, (Store.empty.run reopenedPool).pool? "p" = some pool ∧ pool.rewardRate = 7 ∧ pool.totalShares = 30 ∧
      (Store.empty.run reopenedPool).Follows pool
        (PoolState.empty.run 7 [⟨"b", some 20, 0⟩, ⟨"a", some 10, 2⟩, ⟨"b", some 20, 4⟩])) ∧
      (∃ t effect pool next, Transaction.step ⟨"o", 95, {}⟩ (Store.empty.run reopenedPool) ⟨"p", .freezePool, []⟩ =
          .ok (t, effect) ∧ (Store.empty.run reopenedPool).pool? "p" = some pool ∧ t.pool? "p" = some next ∧
        next.totalShares = pool.totalShares) ∧
      ∃ t message, Transaction.apply {} 0 (requestOf "a" "unstake" 95 [(.text "amount", .int 99)])
          (Store.empty.run reopenedPool) = .ok (t, .rejected "rejected" message) ∧
        t = Store.empty.run reopenedPool := by
  obtain ⟨follow, undisturbed, rejected⟩ := pools_follow_histories
  have there : ((Store.empty.run reopenedPool).pool? "p").map (fun p => (p.rewardRate, p.totalShares)) =
      some (7, 30) := by decide +kernel
  obtain ⟨pool, found, terms⟩ := Option.map_eq_some_iff.mp there
  obtain ⟨rate, total⟩ := Prod.mk.inj terms
  refine ⟨⟨pool, found, rate, total, ?_⟩, ?_, ?_⟩
  · have moves : Effect.moves "p" (Store.empty.reports reopenedPool) =
        [⟨"b", some 20, 0⟩, ⟨"a", some 10, 2⟩, ⟨"b", some 20, 4⟩] := by decide +kernel
    rw [← moves, ← rate]
    exact (follow reopenedPool "p" pool found).1
  · have frozen : ((Transaction.step ⟨"o", 95, {}⟩ (Store.empty.run reopenedPool) ⟨"p", .freezePool, []⟩).toOption.bind
        fun x => x.1.pool? "p").isSome = true := by decide +kernel
    obtain ⟨next, handled⟩ := Option.isSome_iff_exists.mp frozen
    obtain ⟨⟨t, effect⟩, stepped, kept⟩ := Option.bind_eq_some_iff.mp handled
    have stepped := toOption_eq_some_iff.mp stepped
    exact ⟨t, effect, pool, next, stepped, found, kept,
      (undisturbed _ _ t _ effect "p" pool next stepped (Or.inr rfl) found kept).2.1⟩
  · have refused : ((Transaction.apply {} 0 (requestOf "a" "unstake" 95 [(.text "amount", .int 99)])
        (Store.empty.run reopenedPool)).toOption.map fun x => x.2) =
          some (.rejected "rejected" "unstake exceeds shares: 99 > 10") := by decide +kernel
    obtain ⟨⟨t, result⟩, applied, rfl⟩ := Option.map_eq_some_iff.mp refused
    have applied := toOption_eq_some_iff.mp applied
    exact ⟨t, _, applied, rejected _ _ _ _ t _ _ applied⟩

end YieldPool
