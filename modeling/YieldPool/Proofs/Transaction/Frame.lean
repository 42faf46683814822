import YieldPool.Proofs.Handler.Movement
import YieldPool.Proofs.Handler.Pool
import YieldPool.Proofs.Handler.Scope
import YieldPool.Proofs.Transaction.Run

/-!
# What a request leaves alone

A request concerns its sender and the pools that its operations name. Every other pool keeps its record and the records
of its participants; in a pool that is named, the records of everybody but the sender stay as well, unless the pool is
closed, and then only records that hold nothing go. Balances of accounts other than the sender's and those of the named
pools stay (`accepted_request_frame`).
-/

namespace YieldPool.Transaction

variable {L : Type} [Custody L] {c : Handler.Context} {s t : Store L} {ops : List Operation} {effects : List Effect}

/-- Pools that no operation names stay as they are. -/
theorem pool?_run_of_unnamed {poolId : Text} (unnamed : ∀ op ∈ ops, op.poolId ≠ poolId)
    (ran : run c s ops = .ok (t, effects)) : t.pool? poolId = s.pool? poolId :=
  run_keeps (I := fun u => u.pool? poolId = s.pool? poolId)
    (fun _ _ op _ (ne : op.poolId ≠ poolId) same handled => (Handler.pool?_ofAction_of_ne handled ne).trans same)
    unnamed rfl ran

/-- A record stays as it is unless an operation names its pool and is its owner's or closes the pool. -/
theorem participant?_run_of_unnamed {owner poolId : Text}
    (untouched : ∀ op ∈ ops, op.poolId = poolId → c.sender ≠ owner ∧ op.action ≠ .closePool)
    (ran : run c s ops = .ok (t, effects)) : t.participant? owner poolId = s.participant? owner poolId := by
  refine run_keeps (I := fun u => u.participant? owner poolId = s.participant? owner poolId)
    (fun u v op o (allowed : op.poolId = poolId → c.sender ≠ owner ∧ op.action ≠ .closePool) same handled => ?_)
    untouched rfl ran
  rcases Handler.participant?_ofAction_cases handled owner poolId with kept | ⟨named, own | ⟨closing, -⟩⟩
  · exact kept.trans same
  · exact absurd own (allowed named).1
  · exact absurd closing (allowed named).2

/-- The record of somebody else stays as it is or is gone, and in that case it held nothing. Where it has gone with an
earlier closing it is known already that it held nothing. -/
theorem participant?_run_of_other {owner : Text} (other : c.sender ≠ owner) (poolId : Text)
    (ran : run c s ops = .ok (t, effects)) :
    t.participant? owner poolId = s.participant? owner poolId ∨
      t.participant? owner poolId = none ∧ ∀ q, s.participant? owner poolId = some q → q.isClosable = true := by
  refine run_keeps
    (I := fun u => u.participant? owner poolId = s.participant? owner poolId ∨
      u.participant? owner poolId = none ∧ ∀ q, s.participant? owner poolId = some q → q.isClosable = true)
    (fun u v op o (_ : True) before handled => ?_) (fun _ _ => trivial) (Or.inl rfl) ran
  rcases Handler.participant?_ofAction_cases handled owner poolId with kept | ⟨-, own | ⟨-, gone, closable⟩⟩
  · rwa [kept]
  · exact absurd own other
  · rcases before with same | ⟨-, held⟩
    · exact Or.inr ⟨gone, fun q found => closable q (same.trans found)⟩
    · exact Or.inr ⟨gone, held⟩

/-- The balances of an account stay as they are if it is neither the sender's nor one of a named pool. -/
theorem balance_run_of_unnamed {c : Handler.Context} {s t : Store Ledger} {ops : List Operation}
    {effects : List Effect} {account : Text} (sent : c.sender ≠ account)
    (unnamed : ∀ op ∈ ops, treasuryAccount op.poolId ≠ account ∧ rewardAccount op.poolId ≠ account)
    (ran : run c s ops = .ok (t, effects)) (asset : Text) : t.balance account asset = s.balance account asset :=
  run_keeps (I := fun u => u.balance account asset = s.balance account asset)
    (fun _ _ op _ (ne : treasuryAccount op.poolId ≠ account ∧ rewardAccount op.poolId ≠ account) same handled =>
      (Handler.balance_ofAction_of_ne handled sent ne.1 ne.2 asset).trans same)
    unnamed rfl ran

end YieldPool.Transaction

namespace YieldPool

open Transaction

/-- An accepted request leaves alone every pool that its operations do not name, with the records of its participants;
the records of everybody but the sender in a named pool that no operation closes; and the balances of every account
that is neither the sender's nor one of a named pool. Where a pool is closed, the records of others in it stay or go,
and only records without shares and debt go. -/
theorem accepted_request_frame {config : Config} {clock : Int} {r : Request} {s t : Store Ledger}
    {effects : List Effect} (accepted : apply config clock r s = .ok (t, .accepted effects)) :
    ∃ sender ops, r.sender = .text sender ∧ Operation.parse config r.operations = .ok ops ∧
      (∀ poolId, (∀ op ∈ ops, op.poolId ≠ poolId) →
        t.pool? poolId = s.pool? poolId ∧ ∀ owner, t.participant? owner poolId = s.participant? owner poolId) ∧
      (∀ owner poolId, owner ≠ sender → (∀ op ∈ ops, op.poolId = poolId → op.action ≠ .closePool) →
        t.participant? owner poolId = s.participant? owner poolId) ∧
      (∀ owner poolId q, owner ≠ sender → s.participant? owner poolId = some q →
        t.participant? owner poolId = some q ∨
          t.participant? owner poolId = none ∧ q.shares = 0 ∧ q.debt = 0) ∧
      ∀ account, account ≠ sender →
        (∀ op ∈ ops, account ≠ treasuryAccount op.poolId ∧ account ≠ rewardAccount op.poolId) →
          ∀ asset, t.balance account asset = s.balance account asset := by
  obtain ⟨sender, named, now, -, ops, parsed, ran, -⟩ :=
    applyOrThrow_eq_ok_iff.mp (applyOrThrow_of_accepted accepted)
  refine ⟨sender, ops, (Operation.requireText_eq_ok_iff.mp named).1, parsed, ?_, ?_, ?_, ?_⟩
  · intro poolId unnamed
    exact ⟨pool?_run_of_unnamed unnamed ran, fun owner =>
      participant?_run_of_unnamed (fun op member same => absurd same (unnamed op member)) ran⟩
  · intro owner poolId other unclosed
    exact participant?_run_of_unnamed (fun op member same => ⟨other.symm, unclosed op member same⟩) ran
  · intro owner poolId q other found
    rcases participant?_run_of_other other.symm poolId ran with same | ⟨gone, closable⟩
    · exact Or.inl (same.trans found)
    · exact Or.inr ⟨gone, ParticipantRecord.isClosable_iff.mp (closable q found)⟩
  · intro account other outside asset
    exact balance_run_of_unnamed other.symm (fun op member =>
      ⟨(outside op member).1.symm, (outside op member).2.symm⟩) ran asset

/-- One account stakes in a pool and is a participant of another without shares there. -/
def twoPools : List Event :=
  [.credit "a" "s" 100,
    .request {} 0 (requestOf "o" "initialize_pool" 0 (openingFor "s" "r")),
    .request {} 0 (requestOf "a" "stake" 0 [(.text "amount", .int 40)]),
    .request {} 0 ⟨.text "o", .int 0, .list [operationOf "q" "initialize_pool" (openingFor "s" "r")]⟩,
    .request {} 0 ⟨.text "a", .int 0, .list [operationOf "q" "initialize_participant" []]⟩]

/-- The owner closes the other pool and opens it again. -/
def renewing : Request where
  sender := .text "o"
  now := .int 25
  operations := .list [operationOf "q" "close_pool" [], operationOf "q" "initialize_pool" (openingFor "u" "r")]

/-- The other pool is closed and opened again. The staker's pool, record and treasury stay as they are, and the empty
record goes. -/
theorem accepted_request_frame_renewing :
    ∃ s t effects, Store.empty.run twoPools = s ∧ s.participants.size = 2 ∧
      apply {} 0 renewing s = .ok (t, .accepted effects) ∧ effects.length = 2 ∧
      t.pool? "p" = s.pool? "p" ∧ t.participant? "a" "p" = s.participant? "a" "p" ∧
      (∀ q, s.participant? "a" "q" = some q →
        t.participant? "a" "q" = some q ∨ t.participant? "a" "q" = none ∧ q.shares = 0 ∧ q.debt = 0) ∧
      ∀ asset, t.balance (treasuryAccount "p") asset = s.balance (treasuryAccount "p") asset := by
  have accepted : apply {} 0 renewing (Store.empty.run twoPools) =
      .ok ((Store.empty.run twoPools).afterRequest {} 0 renewing,
        .accepted ((Store.empty.run twoPools).reportOf {} 0 renewing)) :=
    toOption_eq_some_iff.mp (by decide +kernel)
  obtain ⟨sender, ops, sent, parsed, unnamed, -, others, accounts⟩ := accepted_request_frame accepted
  cases sent
  have renewed : (Operation.parse {} renewing.operations).toOption.map (·.all fun op => op.poolId = "q") =
      some true := by decide +kernel
  rw [parsed] at renewed
  have named : ∀ op ∈ ops, op.poolId = "q" := fun op member =>
    of_decide_eq_true (List.all_eq_true.mp (Option.some.inj renewed) op member)
  obtain ⟨pool, participants⟩ := unnamed "p" fun op member => named op member ▸ by decide
  refine ⟨_, _, _, rfl, by decide +kernel, accepted, by decide +kernel, pool, participants "a",
    fun q => others "a" "q" q (by decide), accounts _ (by decide) fun op member => ?_⟩
  rw [named op member]
  decide

end YieldPool
