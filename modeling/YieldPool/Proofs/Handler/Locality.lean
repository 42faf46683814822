import YieldPool.Proofs.Agreement
import YieldPool.Proofs.Handler.Movement

/-!
# What an operation reads

A scope is a sender with some pools. Stores that are the same within a scope, in its pools, their participants and the
balances of its accounts, are told apart by no operation of the sender on such a pool: it is refused on both with the
same error, or accepted on both with the same outcome, and leaves them the same within the scope (`ofAction_agree`).
-/

namespace YieldPool

/-- Ledgers that agree on the source of a transfer accept it or refuse it alike, and agree afterwards wherever they did
before. -/
theorem Ledger.transfer_agree {l m : Ledger} {source asset : Text}
    (covered : l.balance source asset = m.balance source asset) (target : Text) (amount : Int) :
    AgreeUpTo (fun l' m' : Ledger => ∀ account name,
        l.balance account name = m.balance account name → l'.balance account name = m'.balance account name)
      (l.transfer source target asset amount) (m.transfer source target asset amount) := by
  have held := m.balance_nonneg source asset
  cases moved : l.transfer source target asset amount with
  | ok l' =>
    cases moved' : m.transfer source target asset amount with
    | ok m' =>
      refine .yielded fun account name same => ?_
      rw [balance_transfer moved, balance_transfer moved', same]
    | error r =>
      obtain ⟨nonneg, enough, -⟩ := transfer_eq_ok_iff.mp moved
      rcases transfer_error_cases moved' with ⟨negative, -⟩ | ⟨lacking, -⟩ <;> omega
  | error r =>
    cases moved' : m.transfer source target asset amount with
    | ok m' =>
      obtain ⟨nonneg, enough, -⟩ := transfer_eq_ok_iff.mp moved'
      rcases transfer_error_cases moved with ⟨negative, -⟩ | ⟨lacking, -⟩ <;> omega
    | error r' =>
      have same : r = r' := by
        rcases transfer_error_cases moved with ⟨negative, rfl⟩ | ⟨lacking, rfl⟩ <;>
          rcases transfer_error_cases moved' with ⟨negative', rfl⟩ | ⟨lacking', rfl⟩
        · rfl
        · omega
        · omega
        · rw [covered]
      rw [same]
      exact .refused r'

/-- Ledgers that agree on the source of a sweep sweep the same amount, and agree afterwards wherever they did before. -/
theorem Ledger.sweep_agree {l m : Ledger} {source asset : Text}
    (covered : l.balance source asset = m.balance source asset) (target : Text) :
    AgreeUpTo (fun x y : Ledger × Int => x.2 = y.2 ∧ ∀ account name,
        l.balance account name = m.balance account name → x.1.balance account name = y.1.balance account name)
      (l.sweep source target asset) (m.sweep source target asset) := by
  simp only [sweep, covered]
  split
  · refine (transfer_agree covered target _).bind fun l' m' same => ?_
    exact .yielded ⟨rfl, same⟩
  · exact .yielded ⟨rfl, fun _ _ same => same⟩

/-- A sender, and some pools. -/
structure Scope where
  sender : Value
  pools : List Text

/-- The accounts of a scope are the sender's own and those of the pools. -/
def Scope.Holds (f : Scope) (account : Text) : Prop :=
  f.sender = .text account ∨ ∃ poolId ∈ f.pools, account = treasuryAccount poolId ∨ account = rewardAccount poolId

/-- The treasury of a pool of the scope is an account of the scope. -/
theorem Scope.holds_treasuryAccount {f : Scope} {poolId : Text} (named : poolId ∈ f.pools) :
    f.Holds (treasuryAccount poolId) := Or.inr ⟨poolId, named, Or.inl rfl⟩

/-- The reward account of a pool of the scope is an account of the scope. -/
theorem Scope.holds_rewardAccount {f : Scope} {poolId : Text} (named : poolId ∈ f.pools) :
    f.Holds (rewardAccount poolId) := Or.inr ⟨poolId, named, Or.inr rfl⟩

namespace Store

/-- Two stores are the same within a scope: in its pools, their participants, and the balances of its accounts. -/
structure SameIn (f : Scope) (s t : Store Ledger) : Prop where
  pool? : ∀ poolId ∈ f.pools, s.pool? poolId = t.pool? poolId
  participant? : ∀ poolId ∈ f.pools, ∀ owner, s.participant? owner poolId = t.participant? owner poolId
  balance : ∀ account, f.Holds account → ∀ asset, s.balance account asset = t.balance account asset

/-- Stores that are the same within a scope, with the same thing beside each. -/
inductive SameResult {α : Type} (f : Scope) : Store Ledger × α → Store Ledger × α → Prop
  | intro {s t : Store Ledger} (same : s.SameIn f t) (a : α) : SameResult f (s, a) (t, a)

namespace SameIn

variable {f : Scope} {s t : Store Ledger}

/-- Stores that are the same in a scope hold the same of its pools. -/
theorem contains (h : s.SameIn f t) {poolId : Text} (named : poolId ∈ f.pools) :
    s.pools.contains poolId = t.pools.contains poolId :=
  congrArg Option.isSome (h.pool? poolId named)

/-- The participants of a pool come in the same order. -/
theorem participantsOf (h : s.SameIn f t) {poolId : Text} (named : poolId ∈ f.pools) :
    s.participantsOf poolId = t.participantsOf poolId := by
  refine Table.rows_eq_of_mem_iff (s.participants.sorted.filter _) (t.participants.sorted.filter _) fun q => ?_
  rw [Store.participantsOf, Store.participantsOf, List.mem_filter, List.mem_filter]
  refine and_congr_left fun ours => ?_
  have same := h.participant? poolId named q.owner
  have key : q.key = (poolId, q.owner) := congrArg (·, q.owner) (of_decide_eq_true ours)
  have stored : ∀ u : Store Ledger, q ∈ u.participants.rows ↔ u.participant? q.owner poolId = some q := by
    intro u
    rw [Store.participant?, Table.find?_eq_some_iff]
    exact (and_iff_left key).symm
  rw [stored s, stored t, same]

/-- Stores that are the same in a scope have the same books for its pools. -/
theorem books (h : s.SameIn f t) {pool : PoolRecord} (named : pool.poolId ∈ f.pools) : s.books pool = t.books pool := by
  unfold Store.books
  rw [h.participantsOf named]

/-! ## Writes on both -/

theorem putPool (h : s.SameIn f t) (p : PoolRecord) : (s.putPool p).SameIn f (t.putPool p) := by
  refine ⟨fun poolId named => ?_, h.participant?, h.balance⟩
  rw [pool?_putPool, pool?_putPool, h.pool? poolId named]

theorem putParticipant (h : s.SameIn f t) (q : ParticipantRecord) :
    (s.putParticipant q).SameIn f (t.putParticipant q) := by
  refine ⟨h.pool?, fun poolId named owner => ?_, h.balance⟩
  rw [participant?_putParticipant, participant?_putParticipant, h.participant? poolId named]

/-- A pool of the scope is deleted from both or unknown to both. -/
theorem deletePool (h : s.SameIn f t) {poolId : Text} (named : poolId ∈ f.pools) :
    AgreeUpTo (SameIn f) (s.deletePool poolId) (t.deletePool poolId) := by
  unfold Store.deletePool
  rw [h.contains named]
  split
  · refine .yielded ⟨fun other within => ?_, h.participant?, h.balance⟩
    have found := h.pool? other within
    unfold Store.pool? at found ⊢
    rw [Table.find?_erase, Table.find?_erase, found]
  · exact .refused _

/-- A participant of a pool of the scope is deleted from both or unknown to both. -/
theorem deleteParticipant (h : s.SameIn f t) {poolId : Text} (named : poolId ∈ f.pools) (owner : Text) :
    AgreeUpTo (SameIn f) (s.deleteParticipant owner poolId) (t.deleteParticipant owner poolId) := by
  have found : s.participants.contains (poolId, owner) = t.participants.contains (poolId, owner) :=
    congrArg Option.isSome (h.participant? poolId named owner)
  unfold Store.deleteParticipant
  rw [found]
  split
  · refine .yielded ⟨h.pool?, fun other within owner => ?_, h.balance⟩
    have found := h.participant? other within owner
    unfold Store.participant? at found ⊢
    rw [Table.find?_erase, Table.find?_erase, found]
  · exact .refused _

/-- A transfer reads no balance but that of its source. -/
theorem transfer (h : s.SameIn f t) {source : Text} (held : f.Holds source) (target asset : Text) (amount : Int) :
    AgreeUpTo (SameIn f) (s.transfer source target asset amount) (t.transfer source target asset amount) := by
  have moved := (Ledger.transfer_agree (h.balance source held asset) target amount).mapError Error.ledger
  refine AgreeUpTo.bind moved fun l m same => .yielded ⟨h.pool?, h.participant?, fun account within name => ?_⟩
  exact same account name (h.balance account within name)

/-- A sweep from an account of the scope moves the same amount on both. -/
theorem sweep (h : s.SameIn f t) {source : Text} (held : f.Holds source) (target asset : Text) :
    AgreeUpTo (SameResult f) (s.sweep source target asset) (t.sweep source target asset) := by
  have swept := (Ledger.sweep_agree (h.balance source held asset) target).mapError Error.ledger
  refine AgreeUpTo.bind swept ?_
  rintro ⟨l, amount⟩ ⟨m, other⟩ ⟨(rfl : amount = other), same⟩
  have left : SameIn f { s with ledger := l } { t with ledger := m } :=
    ⟨h.pool?, h.participant?, fun account within name => same account name (h.balance account within name)⟩
  exact .yielded (.intro left amount)

end SameIn

end Store

namespace Handler

open Store

variable {f : Scope} {s t : Store Ledger} {c : Context} {op : Operation}

/-- A payment from the reward account of a pool of the scope is made on both or refused on both. -/
theorem payOut_agree (h : s.SameIn f t) {pool : PoolRecord} (named : pool.poolId ∈ f.pools) (account : Text)
    (reward : Int) : AgreeUpTo (SameIn f) (payOut s pool account reward) (payOut t pool account reward) := by
  unfold payOut
  split
  · exact h.transfer (Scope.holds_rewardAccount named) account pool.rewardAsset reward
  · exact .yielded h

/-- A change of stake in a pool of the scope is made on both with the same report, or refused on both. -/
theorem moveStake_agree (h : s.SameIn f t) {pool : PoolRecord} (named : pool.poolId ∈ f.pools) (now : Int)
    (participant : ParticipantRecord) (nextShares : Int) :
    AgreeUpTo (SameResult f) (moveStake now s pool participant nextShares)
      (moveStake now t pool participant nextShares) := by
  refine .bind_same fun delay _ => .bind_same fun r _ => .bind_same fun nextPool _ => .bind_same fun next _ => ?_
  refine (payOut_agree ((h.putPool nextPool).putParticipant next) named participant.owner r.harvested).bind ?_
  intro s₁ t₁ same
  exact .yielded (.intro same _)

/-! ## Handlers -/

section Handlers

variable (h : s.SameIn f t) (named : op.poolId ∈ f.pools)

include h named

/-- The pool of the operation is found alike. -/
theorem requirePool_eq : requirePool s op.poolId = requirePool t op.poolId := by
  unfold requirePool
  rw [h.pool? op.poolId named]

/-- A record in the pool of the operation is found alike. -/
theorem requireParticipant_eq (owner : Text) :
    requireParticipant s owner op.poolId = requireParticipant t owner op.poolId := by
  unfold requireParticipant
  rw [h.participant? op.poolId named]

/-- A record in the pool of the operation, or a fresh one, is found alike. -/
theorem participantOrFresh_eq (owner : Text) :
    participantOrFresh s owner op.poolId = participantOrFresh t owner op.poolId := by
  unfold participantOrFresh
  rw [h.participant? op.poolId named owner]

omit h in
/-- The pool that an operation finds is the one that it names. -/
theorem mem_of_requirePool {pool : PoolRecord} (found : requirePool t op.poolId = .ok pool) :
    pool.poolId ∈ f.pools := by
  rwa [poolId_of_pool? (requirePool_eq_ok_iff.mp found)]

theorem initializePool_agree : AgreeUpTo (SameResult f) (initializePool c op s) (initializePool c op t) := by
  unfold initializePool
  rw [h.contains named]
  refine .bind_same fun _ _ => .bind_same fun _ _ => .bind_same fun rate _ => .bind_same fun period _ => ?_
  refine .bind_same fun stakeAsset _ => .bind_same fun rewardAsset _ => .bind_same fun pool _ => ?_
  exact .yielded (.intro (h.putPool pool) _)

theorem initializeParticipant_agree :
    AgreeUpTo (SameResult f) (initializeParticipant c op s) (initializeParticipant c op t) := by
  unfold initializeParticipant
  rw [requirePool_eq h named, h.participant? op.poolId named]
  refine .bind_same fun pool _ => .bind_same fun _ _ => .bind_same fun participant _ => ?_
  exact .yielded (.intro (h.putParticipant participant) _)

theorem stake_agree (own : f.Holds c.sender) : AgreeUpTo (SameResult f) (stake c op s) (stake c op t) := by
  unfold stake
  rw [requirePool_eq h named, participantOrFresh_eq h named]
  refine .bind_same fun pool found => .bind_same fun _ _ => .bind_same fun amount _ => ?_
  refine .bind_same fun participant _ => ?_
  refine (h.transfer own (treasuryAccount pool.poolId) pool.stakeAsset amount).bind fun s₁ t₁ same => ?_
  refine (moveStake_agree same (mem_of_requirePool named found) c.now participant _).bind ?_
  rintro _ _ ⟨same, change⟩
  exact .yielded (.intro same _)

theorem unstake_agree : AgreeUpTo (SameResult f) (unstake c op s) (unstake c op t) := by
  unfold unstake
  rw [requirePool_eq h named, requireParticipant_eq h named]
  refine .bind_same fun pool found => .bind_same fun _ _ => .bind_same fun amount _ => ?_
  refine .bind_same fun participant _ => .bind_same fun _ _ => ?_
  have ours := mem_of_requirePool named found
  refine (moveStake_agree h ours c.now participant _).bind ?_
  rintro _ _ ⟨same, change⟩
  have treasury := Scope.holds_treasuryAccount ours
  refine (same.transfer treasury c.sender pool.stakeAsset amount).bind fun s₂ t₂ same => ?_
  exact .yielded (.intro same _)

theorem harvest_agree : AgreeUpTo (SameResult f) (harvest c op s) (harvest c op t) := by
  unfold harvest
  rw [requirePool_eq h named, requireParticipant_eq h named]
  refine .bind_same fun pool found => .bind_same fun _ _ => .bind_same fun participant _ => ?_
  refine (moveStake_agree h (mem_of_requirePool named found) c.now participant _).bind ?_
  rintro _ _ ⟨same, change⟩
  exact .yielded (.intro same _)

theorem setStatus_agree (status : PoolStatus) :
    AgreeUpTo (SameResult f) (setStatus status c op s) (setStatus status c op t) := by
  unfold setStatus
  rw [requirePool_eq h named]
  refine .bind_same fun pool _ => .bind_same fun _ _ => ?_
  exact .yielded (.intro (h.putPool _) _)

theorem seed_agree (own : f.Holds c.sender) : AgreeUpTo (SameResult f) (seed c op s) (seed c op t) := by
  unfold seed
  rw [requirePool_eq h named]
  refine .bind_same fun pool _ => .bind_same fun amount _ => ?_
  refine (h.transfer own (rewardAccount pool.poolId) pool.rewardAsset amount).bind fun s₁ t₁ same => ?_
  exact .yielded (.intro same _)

theorem unseed_agree : AgreeUpTo (SameResult f) (unseed c op s) (unseed c op t) := by
  unfold unseed
  rw [requirePool_eq h named]
  refine .bind_same fun pool found => .bind_same fun _ _ => .bind_same fun amount _ => ?_
  have rewards := Scope.holds_rewardAccount (mem_of_requirePool named found)
  refine (h.transfer rewards c.sender pool.rewardAsset amount).bind fun s₁ t₁ same => ?_
  exact .yielded (.intro same _)

theorem transferPoolOwnership_agree :
    AgreeUpTo (SameResult f) (transferPoolOwnership c op s) (transferPoolOwnership c op t) := by
  unfold transferPoolOwnership
  rw [requirePool_eq h named]
  refine .bind_same fun pool _ => .bind_same fun _ _ => .bind_same fun owner _ => .bind_same fun next _ => ?_
  exact .yielded (.intro (h.putPool next) _)

theorem closeParticipant_agree : AgreeUpTo (SameResult f) (closeParticipant c op s) (closeParticipant c op t) := by
  unfold closeParticipant
  rw [requireParticipant_eq h named]
  refine .bind_same fun participant _ => .bind_same fun _ _ => ?_
  refine (h.deleteParticipant named c.sender).bind fun s₁ t₁ same => ?_
  exact .yielded (.intro same _)

end Handlers

/-- The participants of a pool that is closed are the same ones, and are dropped alike. -/
theorem dropParticipants_agree (h : s.SameIn f t) {poolId : Text} (named : poolId ∈ f.pools) :
    AgreeUpTo (SameIn f) ((s.participantsOf poolId).foldlM dropParticipant s)
      ((t.participantsOf poolId).foldlM dropParticipant t) := by
  rw [h.participantsOf named]
  refine AgreeUpTo.foldlM (fun q member s₁ t₁ same => ?_) h
  have ours : q.poolId = poolId := of_decide_eq_true (List.mem_filter.mp member).2
  rw [← ours] at named
  exact .bind_same fun _ _ => same.deleteParticipant named q.owner

/-- Closing a pool does not tell the stores apart. -/
theorem closePool_agree (h : s.SameIn f t) (named : op.poolId ∈ f.pools) :
    AgreeUpTo (SameResult f) (closePool c op s) (closePool c op t) := by
  unfold closePool
  rw [requirePool_eq h named]
  refine .bind_same fun pool found => .bind_same fun _ _ => .bind_same fun _ _ => ?_
  have ours := mem_of_requirePool named found
  refine (dropParticipants_agree h ours).bind fun s₁ t₁ same => ?_
  refine (same.sweep (Scope.holds_rewardAccount ours) c.sender pool.rewardAsset).bind ?_
  rintro _ _ ⟨same, leftover⟩
  refine (same.deletePool ours).bind fun s₃ t₃ same => ?_
  exact .yielded (.intro same _)

/-- Stores that are the same within a scope are told apart by no operation of its sender on one of its pools. -/
theorem ofAction_agree (h : s.SameIn f t) (sent : f.sender = .text c.sender) (named : op.poolId ∈ f.pools)
    (a : Action) : AgreeUpTo (SameResult f) (ofAction a c op s) (ofAction a c op t) := by
  have own : f.Holds c.sender := Or.inl sent
  cases a with
  | initializePool => exact initializePool_agree h named
  | initializeParticipant => exact initializeParticipant_agree h named
  | stake => exact stake_agree h named own
  | unstake => exact unstake_agree h named
  | harvest => exact harvest_agree h named
  | freezePool => exact setStatus_agree h named .frozen
  | thawPool => exact setStatus_agree h named .initialized
  | seed => exact seed_agree h named own
  | unseed => exact unseed_agree h named
  | transferPoolOwnership => exact transferPoolOwnership_agree h named
  | closeParticipant => exact closeParticipant_agree h named
  | closePool => exact closePool_agree h named

end Handler

end YieldPool
