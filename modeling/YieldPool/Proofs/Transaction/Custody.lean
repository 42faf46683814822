import YieldPool.Proofs.Handler.Movement
import YieldPool.Proofs.Handler.Pool
import YieldPool.Proofs.Transaction.Run

/-!
# Custody of the stake

A pool is backed if its treasury holds exactly as many tokens of the stake asset as the pool has shares and nothing
else, and its reward account holds nothing but the reward asset; a pool that does not exist is backed if both accounts
are empty. As long as nobody acts or is credited under the name of such an account, every operation keeps every pool
backed (`backed_ofAction`), so taking stake back never lacks tokens.
-/

namespace YieldPool

/-! ## The accounts of pools -/

theorem treasuryAccount_inj {p q : Text} : treasuryAccount p = treasuryAccount q ↔ p = q := by
  simp [treasuryAccount]

theorem rewardAccount_inj {p q : Text} : rewardAccount p = rewardAccount q ↔ p = q := by
  simp [rewardAccount]

/-- Treasuries and reward accounts end differently. -/
theorem treasuryAccount_ne_rewardAccount (p q : Text) : treasuryAccount p ≠ rewardAccount q := by
  intro e
  have last : (Text.ofString ":treasury").getLast? = (Text.ofString ":rewards").getLast? := by
    have last := congrArg List.getLast? e
    rwa [treasuryAccount, rewardAccount, List.getLast?_append_of_ne_nil _ (by decide),
      List.getLast?_append_of_ne_nil _ (by decide)] at last
  exact absurd last (by decide)

/-- An account in which some pool keeps tokens. -/
def IsCustody (account : Text) : Prop := ∃ poolId, account = treasuryAccount poolId ∨ account = rewardAccount poolId

/-- An account outside custody is no treasury. -/
theorem ne_treasuryAccount {account : Text} (outside : ¬IsCustody account) (poolId : Text) :
    account ≠ treasuryAccount poolId := fun e => outside ⟨poolId, Or.inl e⟩

/-- An account outside custody is no reward account. -/
theorem ne_rewardAccount {account : Text} (outside : ¬IsCustody account) (poolId : Text) :
    account ≠ rewardAccount poolId := fun e => outside ⟨poolId, Or.inr e⟩

/-- The names of these accounts have a beginning and an end, so no short name is one. -/
theorem not_isCustody_of_length_lt {account : Text} (short : account.length < 13) : ¬IsCustody account := by
  have opening : (Text.ofString "pool:").length = 5 := by decide
  have treasury : (Text.ofString ":treasury").length = 9 := by decide
  have rewards : (Text.ofString ":rewards").length = 8 := by decide
  rintro ⟨poolId, rfl | rfl⟩
  · rw [treasuryAccount, List.length_append, List.length_append] at short
    omega
  · rw [rewardAccount, List.length_append, List.length_append] at short
    omega

namespace Effect.Outcome

open Movement

variable {pool : PoolRecord} {sender : Text}

/-- The treasury gains what is staked, in the stake asset. -/
theorem total_movements_treasury (outside : ¬IsCustody sender) (o : Outcome) (asset : Text) :
    total (o.movements pool sender) (treasuryAccount pool.poolId) asset =
      if asset = pool.stakeAsset then o.stakeGain else 0 := by
  have sent := ne_treasuryAccount outside pool.poolId
  have reward := (treasuryAccount_ne_rewardAccount pool.poolId pool.poolId).symm
  by_cases e : asset = pool.stakeAsset
  · cases o <;> simp [movements, net, stakeGain, sent, reward, e]
  · cases o <;> simp [movements, net, sent, reward, e, Ne.symm e]

/-- The reward account is only concerned in the reward asset. -/
theorem total_movements_reward (outside : ¬IsCustody sender) (o : Outcome) {asset : Text}
    (other : asset ≠ pool.rewardAsset) : total (o.movements pool sender) (rewardAccount pool.poolId) asset = 0 := by
  have sent := ne_rewardAccount outside pool.poolId
  have treasury := treasuryAccount_ne_rewardAccount pool.poolId pool.poolId
  cases o <;> simp [movements, net, sent, treasury, other.symm]

end Effect.Outcome

/-! ## Backed pools -/

namespace Store

/-- The treasury of a pool holds its stake and nothing else, and its reward account nothing but the reward asset; the
accounts of a pool that does not exist hold nothing. -/
structure Backed (s : Store Ledger) (poolId : Text) : Prop where
  treasury : ∀ pool, s.pool? poolId = some pool → ∀ asset,
    s.balance (treasuryAccount poolId) asset = if asset = pool.stakeAsset then pool.totalShares else 0
  rewards : ∀ pool, s.pool? poolId = some pool → ∀ asset, asset ≠ pool.rewardAsset →
    s.balance (rewardAccount poolId) asset = 0
  absent : s.pool? poolId = none → ∀ asset,
    s.balance (treasuryAccount poolId) asset = 0 ∧ s.balance (rewardAccount poolId) asset = 0

/-- A pool is backed if its treasury holds its stake alone, and its reward account the reward asset alone. -/
theorem backed_of_some {s : Store Ledger} {poolId : Text} {pool : PoolRecord} (found : s.pool? poolId = some pool)
    (treasury : ∀ asset,
      s.balance (treasuryAccount poolId) asset = if asset = pool.stakeAsset then pool.totalShares else 0)
    (rewards : ∀ asset, asset ≠ pool.rewardAsset → s.balance (rewardAccount poolId) asset = 0) : s.Backed poolId := by
  constructor
  · intro other found'
    obtain rfl := Option.some.inj (found.symm.trans found')
    exact treasury
  · intro other found'
    obtain rfl := Option.some.inj (found.symm.trans found')
    exact rewards
  · intro absent
    rw [found] at absent
    cases absent

/-- A pool that does not exist is backed if its two accounts are empty. -/
theorem backed_of_none {s : Store Ledger} {poolId : Text} (absent : s.pool? poolId = none)
    (empty : ∀ asset, s.balance (treasuryAccount poolId) asset = 0 ∧ s.balance (rewardAccount poolId) asset = 0) :
    s.Backed poolId := by
  constructor
  · intro pool found
    rw [absent] at found
    cases found
  · intro pool found
    rw [absent] at found
    cases found
  · exact fun _ => empty

/-- A pool stays backed if neither its record nor its accounts change. -/
theorem Backed.congr {s t : Store Ledger} {poolId : Text} (h : s.Backed poolId) (same : t.pool? poolId = s.pool? poolId)
    (treasury : ∀ asset, t.balance (treasuryAccount poolId) asset = s.balance (treasuryAccount poolId) asset)
    (reward : ∀ asset, t.balance (rewardAccount poolId) asset = s.balance (rewardAccount poolId) asset) :
    t.Backed poolId := by
  constructor <;> simp only [same, treasury, reward]
  · exact h.treasury
  · exact h.rewards
  · exact h.absent

end Store

namespace Handler

open Store

variable {c : Context} {op : Operation} {s t : Store Ledger} {o : Effect.Outcome}

/-- The accounts of a pool change by the movements of the operation that names it. -/
theorem balance_ofAction_of_some {a : Action} (handled : ofAction a c op s = .ok (t, o)) {pool : PoolRecord}
    (found : s.pool? op.poolId = some pool) (account asset : Text) :
    t.balance account asset =
      s.balance account asset + Movement.total (o.movements pool c.sender) account asset := by
  rw [balance_ofAction handled, found]
  rfl

/-- The accounts of other pools do not change. -/
theorem backed_ofAction_of_ne {a : Action} (outside : ¬IsCustody c.sender) (handled : ofAction a c op s = .ok (t, o))
    {poolId : Text} (ne : op.poolId ≠ poolId) (h : s.Backed poolId) : t.Backed poolId := by
  refine h.congr (pool?_ofAction_of_ne handled ne) (fun asset => ?_) (fun asset => ?_)
  · exact balance_ofAction_of_ne handled (ne_treasuryAccount outside poolId) (fun e => ne (treasuryAccount_inj.mp e))
      (treasuryAccount_ne_rewardAccount poolId op.poolId).symm asset
  · exact balance_ofAction_of_ne handled (ne_rewardAccount outside poolId)
      (treasuryAccount_ne_rewardAccount op.poolId poolId) (fun e => ne (rewardAccount_inj.mp e)) asset

/-- A pool that is closed leaves both its accounts empty. -/
theorem backed_closePool (outside : ¬IsCustody c.sender) (closed : closePool c op s = .ok (t, o))
    (h : s.Backed op.poolId) : t.Backed op.poolId := by
  obtain ⟨pool, found, -, empty, s₁, dropped, s₂, leftover, swept, deleted, rfl⟩ := closePool_eq_ok_iff.mp closed
  obtain ⟨-, -, ledger, -⟩ := dropParticipants_cases dropped
  obtain ⟨held, -⟩ := ledger_sweep swept
  obtain ⟨-, rfl⟩ := deletePool_eq_ok_iff.mp deleted
  have moved := balance_ofAction_of_some (a := .closePool) closed found
  have same : pool.poolId = op.poolId := poolId_of_pool? found
  refine backed_of_none (pool?_closePool closed) fun asset => ⟨?_, ?_⟩
  · rw [moved, h.treasury pool found, ← same, Effect.Outcome.total_movements_treasury outside, empty,
      Effect.Outcome.stakeGain, ite_self]
    rfl
  · by_cases e : asset = pool.rewardAsset
    · have swept : s.balance (rewardAccount op.poolId) asset = leftover := by
        rw [← held, e, same, Store.balance, Store.balance, ledger]
      have sent := ne_rewardAccount outside op.poolId
      rw [moved, swept]
      simp [Effect.Outcome.movements, Movement.net, same, sent, e]
    · rw [moved, h.rewards pool found asset e, ← same, Effect.Outcome.total_movements_reward outside _ e]
      rfl

/-- Every handler keeps every pool backed if the sender is outside custody. -/
theorem backed_ofAction {a : Action} (outside : ¬IsCustody c.sender) (handled : ofAction a c op s = .ok (t, o))
    (h : ∀ poolId, s.Backed poolId) (poolId : Text) : t.Backed poolId := by
  by_cases ne : op.poolId = poolId
  · subst ne
    cases found : s.pool? op.poolId with
    | none =>
      have before := (h op.poolId).absent found
      have unmoved : ∀ account asset, t.balance account asset = s.balance account asset := by
        intro account asset
        rw [balance_ofAction handled, found]
        exact Int.add_zero _
      rcases pool?_ofAction_of_none handled found with absent | ⟨pool, opened, total, -⟩
      · refine backed_of_none absent fun asset => ?_
        rw [unmoved, unmoved]
        exact before asset
      · refine backed_of_some opened (fun asset => ?_) (fun asset _ => ?_)
        · rw [unmoved, total, ite_self]
          exact (before asset).1
        · rw [unmoved]
          exact (before asset).2
    | some pool =>
      by_cases closing : a = .closePool
      · subst closing
        exact backed_closePool outside handled (h op.poolId)
      · obtain ⟨next, kept, terms, total, -⟩ := pool?_ofAction handled closing found
        have moved := balance_ofAction_of_some handled found
        have same : pool.poolId = op.poolId := poolId_of_pool? found
        refine backed_of_some kept (fun asset => ?_) (fun asset other => ?_)
        · rw [moved, (h op.poolId).treasury pool found, ← same, Effect.Outcome.total_movements_treasury outside,
            terms.stakeAsset, total]
          split <;> omega
        · rw [terms.rewardAsset] at other
          rw [moved, (h op.poolId).rewards pool found asset other, ← same,
            Effect.Outcome.total_movements_reward outside o other]
          rfl
  · exact backed_ofAction_of_ne outside handled ne (h poolId)

/-- An error that says that a treasury lacks tokens. -/
def LacksStake : Error → Prop
  | .ledger (.insufficient account _ _ _) => ∃ poolId, account = treasuryAccount poolId
  | _ => False

@[simp] theorem not_lacksStake_fault (f : Fault) : ¬LacksStake (.fault f) := id

@[simp] theorem not_lacksStake_clock (r : ClockRefusal) : ¬LacksStake (.clock r) := id

@[simp] theorem not_lacksStake_record (r : RecordRefusal) : ¬LacksStake (.record r) := id

@[simp] theorem not_lacksStake_operation (r : OperationRefusal) : ¬LacksStake (.operation r) := id

@[simp] theorem not_lacksStake_action (r : ActionRefusal) : ¬LacksStake (.action r) := id

/-- A payment may lack rewards, but no stake. -/
theorem payOut_lacks_no_stake (s : Store Ledger) (pool : PoolRecord) (account : Text) (reward : Int) :
    RefusesWith (fun e => ¬LacksStake e) (payOut s pool account reward) := by
  unfold payOut
  split
  · intro e refused
    rcases transfer_error_cases refused with ⟨-, rfl⟩ | ⟨-, rfl⟩
    · exact id
    · rintro ⟨poolId, same⟩
      exact treasuryAccount_ne_rewardAccount poolId pool.poolId same.symm
  · exact refusesWith_ok s

/-- A change of stake may lack rewards, but no stake. -/
theorem moveStake_lacks_no_stake (now : Int) (s : Store Ledger) (pool : PoolRecord) (participant : ParticipantRecord)
    (nextShares : Int) : RefusesWith (fun e => ¬LacksStake e) (moveStake now s pool participant nextShares) := by
  simp [moveStake, liftM, monadLift, MonadLift.monadLift, payOut_lacks_no_stake]

/-- After the shares are taken away, the treasury covers the tokens that go back. -/
theorem treasury_covers {pool : PoolRecord} {participant : ParticipantRecord} {amount : Int} {change : StakeChange}
    (outside : ¬IsCustody participant.owner) (h : s.Backed pool.poolId) (found : s.pool? pool.poolId = some pool)
    (moved : moveStake c.now s pool participant (participant.shares - amount) = .ok (t, change)) :
    amount ≤ t.balance (treasuryAccount pool.poolId) pool.stakeAsset := by
  obtain ⟨next, -, -, total⟩ := pool?_moveStake moved
  have nonneg : 0 ≤ next.totalShares := next.totalShares_fits.1
  have reward := (treasuryAccount_ne_rewardAccount pool.poolId pool.poolId).symm
  rw [balance_moveStake moved, h.treasury pool found, if_pos rfl,
    Movement.net_of_ne reward (ne_treasuryAccount outside pool.poolId)]
  omega

/-- Taking stake back never lacks tokens of the treasury. Only the last transfer takes tokens from a treasury, and it is
covered. -/
theorem unstake_lacks_no_stake (outside : ¬IsCustody c.sender) (h : ∀ poolId, s.Backed poolId) :
    RefusesWith (fun e => ¬LacksStake e) (unstake c op s) := by
  have read : RefusesWith (fun e => ¬LacksStake e) op.amount :=
    Operation.refusesWith_amount (E := fun e => ¬LacksStake e) not_lacksStake_operation op
  simp only [unstake, requirePool, requireActive, requireParticipant, refusesWith_bind, refusesWith_orRefuse,
    refusesWith_require, refusesWith_pure, read, moveStake_lacks_no_stake, not_lacksStake_action, not_false_eq_true,
    implies_true, and_true, true_and, orRefuse_eq_ok_iff]
  rintro pool found - - amount positive participant record - - ⟨s₁, change⟩ moved e refused
  obtain ⟨-, owned⟩ := owner_of_participant? record
  have same : pool.poolId = op.poolId := poolId_of_pool? found
  rw [← owned] at outside
  rw [← same] at found
  have covered := treasury_covers outside (h pool.poolId) found moved
  have least := (Operation.amount_eq_ok_iff.mp positive).2.1
  rcases transfer_error_cases refused with ⟨negative, -⟩ | ⟨uncovered, -⟩
  · omega
  · exact absurd covered (Int.not_le.mpr uncovered)

end Handler

/-! ## Runs -/

/-- Nobody acts or is credited under the name of an account of a pool. -/
def Event.Outside : Event → Prop
  | .request _ _ r => ∀ sender, r.sender = .text sender → ¬IsCustody sender
  | .credit account _ _ => ¬IsCustody account

namespace Store

theorem backed_empty (poolId : Text) : empty.Backed poolId :=
  backed_of_none (pool?_empty poolId) fun _ => ⟨rfl, rfl⟩

/-- The operations of a request keep every pool backed if the sender is outside custody. -/
theorem backed_run {c : Handler.Context} {s t : Store Ledger} {ops : List Operation} {effects : List Effect}
    (outside : ¬IsCustody c.sender) (h : ∀ poolId, s.Backed poolId)
    (ran : Transaction.run c s ops = .ok (t, effects)) : ∀ poolId, t.Backed poolId :=
  Transaction.run_keeps (I := fun s => ∀ poolId, s.Backed poolId)
    (fun _ _ _ _ (_ : True) h handled => Handler.backed_ofAction outside handled h) (fun _ _ => trivial) h ran

/-- Every event from outside keeps every pool backed. -/
theorem backed_after {s : Store Ledger} {e : Event} (outside : e.Outside) (h : ∀ poolId, s.Backed poolId) :
    ∀ poolId, (s.after e).Backed poolId := by
  cases e with
  | request config clock r =>
    rcases s.afterRequest_cases config clock r with ⟨same, -⟩ | applied
    · show ∀ poolId, (s.afterRequest config clock r).Backed poolId
      rw [same]
      exact h
    · obtain ⟨sender, named, now, -, ops, -, ran, -⟩ := Transaction.applyOrThrow_eq_ok_iff.mp applied
      exact backed_run (outside sender (Operation.requireText_eq_ok_iff.mp named).1) h ran
  | credit account asset amount =>
    obtain ⟨ledger, credited, others⟩ := s.afterCredit_cases account asset amount
    intro poolId
    show (s.afterCredit account asset amount).Backed poolId
    rw [credited]
    exact (h poolId).congr rfl (fun name => others _ name (ne_treasuryAccount outside poolId).symm)
      (fun name => others _ name (ne_rewardAccount outside poolId).symm)

end Store

/-- In every run from the empty store in which nobody acts or is credited under the name of an account of a pool, the
treasury of every pool holds its stake exactly, its reward account nothing but rewards, and the accounts of pools that
do not exist nothing. So it is in the middle of every transaction, too, and an attempt to take stake back is never
refused because a treasury lacks tokens. -/
theorem custody_backs_stake {events : List Event} (outside : ∀ e ∈ events, e.Outside) :
    (∀ poolId, (Store.empty.run events).Backed poolId) ∧
      ∀ (c : Handler.Context) (ops : List Operation) (s : Store Ledger) (effects : List Effect),
        ¬IsCustody c.sender → Transaction.run c (Store.empty.run events) ops = .ok (s, effects) →
          (∀ poolId, s.Backed poolId) ∧ ∀ op e, Handler.unstake c op s = .error e → ¬Handler.LacksStake e := by
  have backed : ∀ poolId, (Store.empty.run events).Backed poolId :=
    Store.run_keeps (I := fun s => ∀ poolId, s.Backed poolId) (fun _ _ outside h => Store.backed_after outside h)
      outside Store.backed_empty
  refine ⟨backed, fun c ops s effects acting ran => ?_⟩
  have staged := Store.backed_run acting backed ran
  exact ⟨staged, fun op => Handler.unstake_lacks_no_stake acting staged⟩

/-- A pool is opened and seeded, forty tokens are staked and ten of them taken back. -/
def oneStaker : List Event :=
  [.credit "a" "s" 100, .credit "o" "r" 1000,
    .request {} 0 (requestOf "o" "initialize_pool" 0 [(.text "reward_rate", .int 5), (.text "period", .int 10),
      (.text "stake_asset", .text "s"), (.text "reward_asset", .text "r")]),
    .request {} 0 (requestOf "o" "seed" 0 [(.text "amount", .int 500)]),
    .request {} 0 (requestOf "a" "stake" 5 [(.text "amount", .int 40)]),
    .request {} 0 (requestOf "a" "unstake" 35 [(.text "amount", .int 10)])]

/-- A staker takes part of the stake back: the treasury holds the 30 tokens that are left, and no withdrawal can
lack them. -/
theorem custody_backs_stake_oneStaker :
    (∀ poolId, (Store.empty.run oneStaker).Backed poolId) ∧
      ((Store.empty.run oneStaker).pool? "p").map PoolRecord.totalShares = some 30 ∧
      (Store.empty.run oneStaker).balance (treasuryAccount "p") "s" = 30 ∧
      ∀ op e, Handler.unstake ⟨"a", 50, {}⟩ op (Store.empty.run oneStaker) = .error e → ¬Handler.LacksStake e := by
  have owner : ¬IsCustody "o" := not_isCustody_of_length_lt (by decide)
  have staker : ¬IsCustody "a" := not_isCustody_of_length_lt (by decide)
  have outside : ∀ e ∈ oneStaker, e.Outside := by
    simp [oneStaker, requestOf, Event.Outside, owner, staker]
  obtain ⟨backed, staged⟩ := custody_backs_stake outside
  have idle : Transaction.run ⟨"a", 50, {}⟩ (Store.empty.run oneStaker) [] = .ok (Store.empty.run oneStaker, []) :=
    Transaction.run_nil_eq_ok_iff.mpr ⟨rfl, rfl⟩
  obtain ⟨-, covered⟩ := staged ⟨"a", 50, {}⟩ [] (Store.empty.run oneStaker) [] staker idle
  exact ⟨backed, by decide +kernel, by decide +kernel, covered⟩

end YieldPool
