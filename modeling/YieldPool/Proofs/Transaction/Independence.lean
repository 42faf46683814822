import YieldPool.Proofs.Handler.Locality
import YieldPool.Proofs.Transaction.Answer
import YieldPool.Proofs.Transaction.Custody
import YieldPool.Proofs.Transaction.Frame

/-!
# Independent requests commute

A request reads and writes nothing outside its scope: on stores that are the same within it, it has the same result and
leaves them the same within it (`apply_agree`), and outside it leaves everything as it was (`sameOutside_apply`). Scopes
are apart if neither sender is the other or an account of a pool of the other, and no pool is in both. Then no account
is in both either, whatever the pools are called, so two requests with such scopes can be applied in either order
(`independent_requests_commute`).
-/

namespace YieldPool

/-! ## Scopes -/

namespace Scope

/-- Different senders, different pools, and neither sender is an account of a pool of the other. -/
structure Apart (f g : Scope) : Prop where
  senders : f.sender ≠ g.sender
  pools : ∀ poolId ∈ f.pools, poolId ∉ g.pools
  first : ∀ poolId ∈ g.pools,
    f.sender ≠ .text (treasuryAccount poolId) ∧ f.sender ≠ .text (rewardAccount poolId)
  second : ∀ poolId ∈ f.pools,
    g.sender ≠ .text (treasuryAccount poolId) ∧ g.sender ≠ .text (rewardAccount poolId)

variable {f g : Scope}

theorem Apart.symm (apart : f.Apart g) : g.Apart f :=
  ⟨apart.senders.symm, fun poolId here there => apart.pools poolId there here, apart.second, apart.first⟩

/-- No account is in two scopes that are apart. -/
theorem Apart.not_holds (apart : f.Apart g) {account : Text} (held : g.Holds account) : ¬f.Holds account := by
  intro also
  rcases also with sent | ⟨p, named, kept⟩
  · rcases held with sent' | ⟨q, named', rfl | rfl⟩
    · exact apart.senders (sent.trans sent'.symm)
    · exact (apart.first q named').1 sent
    · exact (apart.first q named').2 sent
  · rcases held with sent' | ⟨q, named', kept'⟩
    · rcases kept with rfl | rfl
      · exact (apart.second p named).1 sent'
      · exact (apart.second p named).2 sent'
    · have different : p ≠ q := fun same => apart.pools p named (same ▸ named')
      rcases kept with rfl | rfl <;> rcases kept' with same | same
      · exact different (treasuryAccount_inj.mp same)
      · exact treasuryAccount_ne_rewardAccount p q same
      · exact treasuryAccount_ne_rewardAccount q p same.symm
      · exact different (rewardAccount_inj.mp same)

end Scope

/-- What a request is about: its sender, and the pools that its operations name, if they are well-formed. -/
def Request.scope (config : Config) (r : Request) : Scope where
  sender := r.sender
  pools :=
    match Operation.parse config r.operations with
    | .ok ops => ops.map (·.poolId)
    | .error _ => []

/-- The scope of a request has its sender, if that is a name. -/
theorem Request.sender_of_named {config : Config} {r : Request} {sender : Text}
    (named : Operation.requireText "tx_sender" Operation.longestName r.sender = .ok sender) :
    (r.scope config).sender = .text sender :=
  (Operation.requireText_eq_ok_iff.mp named).1

/-- The scope of a request has every pool that its operations name. -/
theorem Request.named_of_parse {config : Config} {r : Request} {ops : List Operation}
    (parsed : Operation.parse config r.operations = .ok ops) : ∀ op ∈ ops, op.poolId ∈ (r.scope config).pools := by
  intro op member
  rw [scope, parsed]
  exact List.mem_map_of_mem member

/-! ## Stores that differ within a scope -/

namespace Store

/-- Two stores are the same outside a scope. -/
structure SameOutside (f : Scope) (s t : Store Ledger) : Prop where
  pool? : ∀ poolId, poolId ∉ f.pools → s.pool? poolId = t.pool? poolId
  participant? : ∀ poolId, poolId ∉ f.pools → ∀ owner, s.participant? owner poolId = t.participant? owner poolId
  balance : ∀ account, ¬f.Holds account → ∀ asset, s.balance account asset = t.balance account asset

variable {f g : Scope} {s t u v : Store Ledger}

theorem SameOutside.refl (f : Scope) (s : Store Ledger) : s.SameOutside f s :=
  ⟨fun _ _ => rfl, fun _ _ _ => rfl, fun _ _ _ => rfl⟩

/-- Stores that are the same outside a scope are the same within every scope apart from it. -/
theorem SameOutside.sameIn (h : s.SameOutside f t) (apart : f.Apart g) : s.SameIn g t :=
  ⟨fun poolId named => h.pool? poolId (apart.symm.pools poolId named),
    fun poolId named => h.participant? poolId (apart.symm.pools poolId named),
    fun account held => h.balance account (apart.not_holds held)⟩

/-- Two changes of one value, each made under a condition, lead to the same in either order if the conditions exclude
each other. -/
theorem eq_of_exclusive {α : Type} {P Q : Prop} (exclusive : P → ¬Q) {start first second forth back : α}
    (outsideFirst : ¬P → first = start) (outsideSecond : ¬Q → second = start) (outsideForth : ¬Q → forth = first)
    (withinForth : Q → forth = second) (outsideBack : ¬P → back = second) (withinBack : P → back = first) :
    forth = back := by
  by_cases p : P
  · rw [outsideForth (exclusive p), withinBack p]
  · by_cases q : Q
    · rw [withinForth q, outsideBack p]
    · rw [outsideForth q, outsideFirst p, outsideBack p, outsideSecond q]

/-- Two changes within scopes that are apart lead to the same store in either order, if each change has the same result
within its scope whether it comes first or second. -/
theorem eq_of_apart (apart : f.Apart g) {start first second forth back : Store Ledger}
    (outsideFirst : first.SameOutside f start) (outsideSecond : second.SameOutside g start)
    (outsideForth : forth.SameOutside g first) (withinForth : forth.SameIn g second)
    (outsideBack : back.SameOutside f second) (withinBack : back.SameIn f first) : forth = back := by
  refine ext_lookup (fun poolId => ?_) (fun owner poolId => ?_) fun account asset => ?_
  · exact eq_of_exclusive (apart.pools poolId) (outsideFirst.pool? poolId) (outsideSecond.pool? poolId)
      (outsideForth.pool? poolId) (withinForth.pool? poolId) (outsideBack.pool? poolId) (withinBack.pool? poolId)
  · exact eq_of_exclusive (apart.pools poolId) (fun out => outsideFirst.participant? poolId out owner)
      (fun out => outsideSecond.participant? poolId out owner) (fun out => outsideForth.participant? poolId out owner)
      (fun named => withinForth.participant? poolId named owner)
      (fun out => outsideBack.participant? poolId out owner)
      fun named => withinBack.participant? poolId named owner
  · have exclusive : f.Holds account → ¬g.Holds account := fun held => apart.symm.not_holds held
    exact eq_of_exclusive exclusive (fun out => outsideFirst.balance account out asset)
      (fun out => outsideSecond.balance account out asset) (fun out => outsideForth.balance account out asset)
      (fun held => withinForth.balance account held asset) (fun out => outsideBack.balance account out asset)
      fun held => withinBack.balance account held asset

end Store

/-! ## Requests -/

namespace Transaction

open Store

variable {f : Scope} {c : Handler.Context} {s t : Store Ledger} {ops : List Operation} {effects : List Effect}

/-- Stores that are the same in the sender's scope agree on an operation on one of its pools. -/
theorem step_agree (h : s.SameIn f t) (sent : f.sender = .text c.sender) {op : Operation}
    (named : op.poolId ∈ f.pools) : AgreeUpTo (SameResult f) (step c s op) (step c t op) := by
  refine (Handler.ofAction_agree h sent named op.action).bind ?_
  rintro _ _ ⟨same, outcome⟩
  exact .yielded (.intro same _)

/-- Operations within a scope read nothing outside it. -/
theorem run_agree (h : s.SameIn f t) (sent : f.sender = .text c.sender) (named : ∀ op ∈ ops, op.poolId ∈ f.pools) :
    AgreeUpTo (SameResult f) (run c s ops) (run c t ops) := by
  induction ops generalizing s t with
  | nil => exact .yielded (.intro h [])
  | cons op rest ih =>
    obtain ⟨here, others⟩ := List.forall_mem_cons.mp named
    refine (step_agree h sent here).bind ?_
    rintro _ _ ⟨same, effect⟩
    refine (ih same others).bind ?_
    rintro _ _ ⟨same, effects⟩
    exact .yielded (.intro same _)

/-- Operations within a scope write nothing outside it. -/
theorem sameOutside_run (sent : f.sender = .text c.sender) (named : ∀ op ∈ ops, op.poolId ∈ f.pools)
    (ran : run c s ops = .ok (t, effects)) : t.SameOutside f s := by
  have unnamed : ∀ poolId, poolId ∉ f.pools → ∀ op ∈ ops, op.poolId ≠ poolId :=
    fun poolId out op member same => out (same ▸ named op member)
  refine ⟨fun poolId out => ?_, fun poolId out owner => ?_, fun account out asset => ?_⟩
  · exact pool?_run_of_unnamed (unnamed poolId out) ran
  · exact participant?_run_of_unnamed (fun op member same => absurd same (unnamed poolId out op member)) ran
  · have other : c.sender ≠ account := fun same => out (Or.inl (same ▸ sent))
    refine balance_run_of_unnamed other (fun op member => ⟨fun same => out ?_, fun same => out ?_⟩) ran asset
    · exact same ▸ Scope.holds_treasuryAccount (named op member)
    · exact same ▸ Scope.holds_rewardAccount (named op member)

/-- The check of pools in a scope reads nothing outside it. -/
theorem checkPools_agree (h : s.SameIn f t) {poolIds : List Text} (named : ∀ poolId ∈ poolIds, poolId ∈ f.pools) :
    checkPools s poolIds = checkPools t poolIds := by
  refine forM_congr fun poolId member => ?_
  have here : poolId ∈ f.pools := named poolId ((KeyOrder.sortBy_perm id poolIds).mem_iff.mp member)
  rw [h.pool? poolId here]
  cases found : t.pool? poolId with
  | none => rfl
  | some pool =>
    rw [← poolId_of_pool? found] at here
    simp only [h.books here]

/-- A request reads nothing outside its scope when it is applied. -/
theorem applyOrThrow_agree {config : Config} {r : Request} (h : s.SameIn (r.scope config) t) (clock : Int) :
    AgreeUpTo (SameResult (r.scope config)) (applyOrThrow config clock r s) (applyOrThrow config clock r t) := by
  rw [applyOrThrow_eq_bind, applyOrThrow_eq_bind]
  refine .bind_same fun sender named => .bind_same fun now _ => .bind_same fun ops parsed => ?_
  have pools := Request.named_of_parse parsed
  refine (run_agree h (Request.sender_of_named named) pools).bind ?_
  rintro _ _ ⟨same, effects⟩
  have checked := checkPools_agree same (List.forall_mem_map.mpr pools)
  simp only [checked]
  refine .bind_same fun _ _ => ?_
  exact .yielded (.intro same effects)

/-- A request has the same result on stores that are the same within its scope, and leaves them the same within it. -/
theorem apply_agree {config : Config} {r : Request} (h : s.SameIn (r.scope config) t) (clock : Int) :
    ∃ s' t' result, apply config clock r s = .ok (s', result) ∧ apply config clock r t = .ok (t', result) ∧
      s'.SameIn (r.scope config) t' := by
  have agree := applyOrThrow_agree h clock
  cases applied : applyOrThrow config clock r s with
  | ok x =>
    obtain ⟨s', effects⟩ := x
    obtain ⟨_, applied', ⟨same, _⟩⟩ := agree.exists_of_ok applied
    exact ⟨s', _, .accepted effects, apply_of_ok applied, apply_of_ok applied', same⟩
  | error e =>
    obtain ⟨text, message, answered⟩ := apply_of_error applied
    obtain ⟨text', message', answered'⟩ := apply_of_error (agree.error_of_error applied)
    obtain rfl := Option.some.inj (message.symm.trans message')
    exact ⟨s, t, .rejected e.code text, answered, answered', h⟩

/-- A request writes nothing outside its scope. -/
theorem sameOutside_apply {config : Config} {clock : Int} {r : Request} {result : TxResult}
    (applied : apply config clock r s = .ok (t, result)) : t.SameOutside (r.scope config) s := by
  cases result with
  | rejected code message =>
    rw [store_of_rejected applied]
    exact SameOutside.refl _ s
  | accepted effects =>
    obtain ⟨sender, named, now, -, ops, parsed, ran, -⟩ :=
      applyOrThrow_eq_ok_iff.mp (applyOrThrow_of_accepted applied)
    exact sameOutside_run (Request.sender_of_named named) (Request.named_of_parse parsed) ran

/-- Requests whose scopes are apart commute: of different senders, on different pools, neither sender an account of a
pool of the other. Each has its own configuration and time, and is answered with the same result whether it comes first
or second, accepted or rejected; the store is the same after both. -/
theorem independent_requests_commute {config₁ config₂ : Config} {r₁ r₂ : Request}
    (apart : (r₁.scope config₁).Apart (r₂.scope config₂)) (clock₁ clock₂ : Int) (s : Store Ledger) :
    ∃ first second both result₁ result₂,
      apply config₁ clock₁ r₁ s = .ok (first, result₁) ∧ apply config₂ clock₂ r₂ first = .ok (both, result₂) ∧
        apply config₂ clock₂ r₂ s = .ok (second, result₂) ∧ apply config₁ clock₁ r₁ second = .ok (both, result₁) := by
  obtain ⟨first, result₁, applied₁⟩ := exists_apply_eq_ok config₁ clock₁ r₁ s
  have outside₁ := sameOutside_apply applied₁
  obtain ⟨forth, second, result₂, later₂, applied₂, within₂⟩ := apply_agree (outside₁.sameIn apart) clock₂
  have outside₂ := sameOutside_apply applied₂
  obtain ⟨back, first', result₁', later₁, applied₁', within₁⟩ := apply_agree (outside₂.sameIn apart.symm) clock₁
  rw [applied₁] at applied₁'
  cases applied₁'
  have same : forth = back := eq_of_apart apart outside₁ outside₂ (sameOutside_apply later₂) within₂
    (sameOutside_apply later₁) within₁
  exact ⟨first, second, forth, result₁, result₂, applied₁, later₂, applied₂, same ▸ later₁⟩

/-- The staker of the one pool adds to the stake. -/
def adding : Request := requestOf "a" "stake" 5 [(.text "amount", .int 20)]

/-- Adding to the stake of the one pool and renewing the other come to the same in both orders. -/
theorem independent_requests_commute_adding_renewing :
    ∃ first second both result₁ result₂,
      apply {} 0 adding (Store.empty.run twoPools) = .ok (first, result₁) ∧
        apply {} 0 renewing first = .ok (both, result₂) ∧
        apply {} 0 renewing (Store.empty.run twoPools) = .ok (second, result₂) ∧
        apply {} 0 adding second = .ok (both, result₁) ∧
        (both.pool? "p").map PoolRecord.totalShares = some 60 ∧
        (both.pool? "q").map PoolRecord.stakeAsset = some "u" := by
  have added : (adding.scope {}).pools = ["p"] := by decide +kernel
  have renewed : (renewing.scope {}).pools = ["q", "q"] := by decide +kernel
  have staker : (adding.scope {}).sender = .text "a" := rfl
  have owner : (renewing.scope {}).sender = .text "o" := rfl
  have apart : (adding.scope {}).Apart (renewing.scope {}) := by
    constructor <;> simp only [added, renewed, staker, owner, ne_eq, Value.text.injEq] <;> decide
  obtain ⟨first, second, both, result₁, result₂, applied₁, later₂, applied₂, later₁⟩ :=
    independent_requests_commute apart 0 0 (Store.empty.run twoPools)
  have after : both = ((Store.empty.run twoPools).afterRequest {} 0 adding).afterRequest {} 0 renewing := by
    simp only [Store.afterRequest, applied₁, later₂]
  refine ⟨first, second, both, result₁, result₂, applied₁, later₂, applied₂, later₁, ?_, ?_⟩ <;> rw [after]
  · decide +kernel
  · decide +kernel

end Transaction

end YieldPool
