import YieldPool.Proofs.Handler.Authority
import YieldPool.Proofs.Transaction.Consistency
import YieldPool.Proofs.Transaction.Run

/-!
# Only the owner runs a pool

However many requests others send, a pool stays where it is, with its owner, its status and its terms; and whoever sends
a request that does not close the pool, its terms stay, even if the pool is given away in the middle of the request
(`only_owner_administers`).
-/

namespace YieldPool

/-- A request is not sent by a name; credits are not sent by anybody. -/
def Event.NotSentBy (name : Text) : Event → Prop
  | .request _ _ r => r.sender ≠ .text name
  | .credit _ _ _ => True

namespace Transaction

variable {L : Type} {c : Handler.Context} {s t : Store L} {ops : List Operation} {effects : List Effect}
  {poolId : Text} {pool : PoolRecord}

/-- Operations of anybody but the owner leave how a pool is run. -/
theorem administration_run [Custody L] (found : s.pool? poolId = some pool) (other : pool.owner ≠ c.sender)
    (ran : run c s ops = .ok (t, effects)) : ∃ next, t.pool? poolId = some next ∧ next.SameAdministration pool := by
  refine run_keeps (I := fun u => ∃ next, u.pool? poolId = some next ∧ next.SameAdministration pool)
    (fun u v op o (_ : True) before handled => ?_) (fun _ _ => trivial)
    ⟨pool, found, PoolRecord.SameAdministration.refl pool⟩ ran
  obtain ⟨current, found', same⟩ := before
  obtain ⟨next, kept, still⟩ := Handler.pool?_ofAction_of_other handled found' (same.owner ▸ other)
  exact ⟨next, kept, still.trans same⟩

/-- Operations that do not close a pool leave its terms. -/
theorem terms_run [Custody L] (found : s.pool? poolId = some pool)
    (unclosed : ∀ op ∈ ops, op.poolId = poolId → op.action ≠ .closePool)
    (ran : run c s ops = .ok (t, effects)) : ∃ next, t.pool? poolId = some next ∧ next.SameTerms pool := by
  refine run_keeps (I := fun u => ∃ next, u.pool? poolId = some next ∧ next.SameTerms pool)
    (fun u v op o (stays : op.poolId = poolId → op.action ≠ .closePool) before handled => ?_) unclosed
    ⟨pool, found, PoolRecord.SameTerms.refl pool⟩ ran
  obtain ⟨current, found', same⟩ := before
  by_cases named : op.poolId = poolId
  · subst named
    obtain ⟨next, kept, still, -⟩ := Handler.pool?_ofAction handled (stays rfl) found'
    exact ⟨next, kept, still.trans same⟩
  · exact ⟨current, (Handler.pool?_ofAction_of_ne handled named).trans found', same⟩

end Transaction

namespace Store

/-- What others send leaves how a pool is run. -/
theorem administration_after {s : Store Ledger} {e : Event} {poolId : Text} {pool : PoolRecord}
    (found : s.pool? poolId = some pool) (others : e.NotSentBy pool.owner) :
    ∃ next, (s.after e).pool? poolId = some next ∧ next.SameAdministration pool := by
  cases e with
  | request config clock r =>
    show ∃ next, (s.afterRequest config clock r).pool? poolId = some next ∧ next.SameAdministration pool
    rcases s.afterRequest_cases config clock r with ⟨unchanged, -⟩ | applied
    · rw [unchanged]
      exact ⟨pool, found, PoolRecord.SameAdministration.refl pool⟩
    · obtain ⟨sender, named, now, -, ops, -, ran, -⟩ := Transaction.applyOrThrow_eq_ok_iff.mp applied
      have sent : r.sender = .text sender := (Operation.requireText_eq_ok_iff.mp named).1
      have other : pool.owner ≠ sender := fun same => others (same ▸ sent)
      exact Transaction.administration_run found other ran
  | credit account asset amount =>
    obtain ⟨ledger, credited, -⟩ := s.afterCredit_cases account asset amount
    show ∃ next, (s.afterCredit account asset amount).pool? poolId = some next ∧ next.SameAdministration pool
    rw [credited]
    exact ⟨pool, found, PoolRecord.SameAdministration.refl pool⟩

end Store

/-- Only its owner runs a pool, and nobody changes its terms. After any requests of others and any credits, the pool is
still there, with the same owner, the same status and the same terms. After an accepted request of anybody, the owner
included, in which no operation closes the pool, it is still there with the same terms. -/
theorem only_owner_administers {s : Store Ledger} {poolId : Text} {pool : PoolRecord}
    (found : s.pool? poolId = some pool) :
    (∀ events : List Event, (∀ e ∈ events, e.NotSentBy pool.owner) →
      ∃ next, (s.run events).pool? poolId = some next ∧ next.SameAdministration pool) ∧
    ∀ (config : Config) (clock : Int) (r : Request) (t : Store Ledger) (effects : List Effect) (ops : List Operation),
      Transaction.apply config clock r s = .ok (t, .accepted effects) →
        Operation.parse config r.operations = .ok ops → (∀ op ∈ ops, op.poolId = poolId → op.action ≠ .closePool) →
          ∃ next, t.pool? poolId = some next ∧ next.SameTerms pool := by
  constructor
  · intro events others
    refine Store.run_keeps (I := fun u => ∃ next, u.pool? poolId = some next ∧ next.SameAdministration pool)
      (fun u e other before => ?_) others ⟨pool, found, PoolRecord.SameAdministration.refl pool⟩
    obtain ⟨current, found', same⟩ := before
    obtain ⟨next, kept, still⟩ := Store.administration_after found' (same.owner ▸ other)
    exact ⟨next, kept, still.trans same⟩
  · intro config clock r t effects ops accepted parsed unclosed
    obtain ⟨sender, -, now, -, read, parsed', ran, -⟩ :=
      Transaction.applyOrThrow_eq_ok_iff.mp (Transaction.applyOrThrow_of_accepted accepted)
    obtain rfl := Except.ok.inj (parsed.symm.trans parsed')
    exact Transaction.terms_run found unclosed ran

/-- The staker tries to freeze the pool, and takes four tokens back; a stranger tries to close it. -/
def intrusions : List Event :=
  [.request {} 0 (requestOf "a" "freeze_pool" 25 []), .request {} 0 Transaction.unstakeFour,
    .request {} 0 (requestOf "b" "close_pool" 25 [])]

/-- The owner freezes the pool and gives it away. -/
def handover : Request where
  sender := .text "o"
  now := .int 25
  operations := .list [operationOf "p" "freeze_pool" [],
    operationOf "p" "transfer_pool_ownership" [(.text "new_owner", .text "b")]]

/-- Others do not change how the pool is run, but its owner freezes it and gives it away with its terms. -/
theorem only_owner_administers_intrusions_handover :
    (∃ next, (Transaction.stakedStore.run intrusions).pool? "p" = some next ∧
      next.SameAdministration Transaction.stakedPool ∧ next.totalShares = 6) ∧
    ∃ t effects next, Transaction.apply {} 0 handover Transaction.stakedStore = .ok (t, .accepted effects) ∧
      t.pool? "p" = some next ∧ next.SameTerms Transaction.stakedPool ∧ next.owner = "b" ∧ next.status = .frozen := by
  have found : Transaction.stakedStore.pool? "p" = some Transaction.stakedPool := by decide +kernel
  obtain ⟨run, terms⟩ := only_owner_administers found
  constructor
  · have others : ∀ e ∈ intrusions, e.NotSentBy Transaction.stakedPool.owner := by
      simp only [intrusions, requestOf, Transaction.unstakeFour, Transaction.stakedPool, Event.NotSentBy,
        List.forall_mem_cons, ne_eq, Value.text.injEq]
      exact ⟨by decide, by decide, by decide, List.forall_mem_nil _⟩
    have left : ((Transaction.stakedStore.run intrusions).pool? "p").map PoolRecord.totalShares = some 6 := by
      decide +kernel
    obtain ⟨next, kept, same⟩ := run intrusions others
    rw [kept] at left
    exact ⟨next, kept, same, Option.some.inj left⟩
  · have accepted : Transaction.apply {} 0 handover Transaction.stakedStore =
        .ok (Transaction.stakedStore.afterRequest {} 0 handover,
          .accepted (Transaction.stakedStore.reportOf {} 0 handover)) :=
      toOption_eq_some_iff.mp (by decide +kernel)
    have read : (Operation.parse {} handover.operations).toOption.map (·.all fun op => op.action ≠ .closePool) =
        some true := by decide +kernel
    have given : ((Transaction.stakedStore.afterRequest {} 0 handover).pool? "p").map
        (fun p => (p.owner, p.status)) = some (Text.ofString "b", PoolStatus.frozen) := by decide +kernel
    obtain ⟨ops, parsed, unclosed⟩ := Option.map_eq_some_iff.mp read
    obtain ⟨next, kept, same⟩ := terms {} 0 handover _ _ ops accepted (toOption_eq_some_iff.mp parsed)
      fun op member _ => of_decide_eq_true (List.all_eq_true.mp unclosed op member)
    rw [kept] at given
    obtain ⟨owner, status⟩ := Prod.mk.inj (Option.some.inj given)
    exact ⟨_, _, next, accepted, kept, same, owner, status⟩

end YieldPool
