import YieldPool.Proofs.Transaction.Answer
import YieldPool.Proofs.Transaction.Frame

/-!
# A batch is its parts one after the other

Operations are run exactly when those before are, and those after on what these leave (`run_append_eq_ok_iff`). On a
consistent store the check at the end finds nothing, neither after a part nor after the whole, so a request is accepted
exactly when it applies without that check (`apply_eq_accepted_iff`). So a request that is split in two is accepted
exactly when both requests are, and leaves the same store with the same effects (`batch_iff_parts`).
-/

namespace YieldPool.Transaction

variable {L : Type} {c : Handler.Context} {s u : Store L} {effects : List Effect}

/-- Operations are run exactly when the first of them are, and the others on the store that these leave. -/
theorem run_append_eq_ok_iff [Custody L] {xs ys : List Operation} :
    run c s (xs ++ ys) = .ok (u, effects) ↔ ∃ t first, run c s xs = .ok (t, first) ∧
      ∃ second, run c t ys = .ok (u, second) ∧ first ++ second = effects := by
  induction xs generalizing s effects with
  | nil =>
    constructor
    · intro ran
      exact ⟨s, [], run_nil_eq_ok_iff.mpr ⟨rfl, rfl⟩, effects, ran, rfl⟩
    · rintro ⟨t, first, none, second, ran, rfl⟩
      obtain ⟨rfl, rfl⟩ := run_nil_eq_ok_iff.mp none
      exact ran
  | cons op rest ih =>
    rw [List.cons_append, run_cons_eq_ok_iff]
    constructor
    · rintro ⟨s₁, effect, stepped, others, ran, rfl⟩
      obtain ⟨t, first, before, second, after, rfl⟩ := ih.mp ran
      exact ⟨t, effect :: first, run_cons_eq_ok_iff.mpr ⟨s₁, effect, stepped, first, before, rfl⟩, second, after, rfl⟩
    · rintro ⟨t, _, whole, second, after, rfl⟩
      obtain ⟨s₁, effect, stepped, first, before, rfl⟩ := run_cons_eq_ok_iff.mp whole
      exact ⟨s₁, effect, stepped, first ++ second, ih.mpr ⟨t, first, before, second, after, rfl⟩, rfl⟩

/-- A request on a consistent store is accepted exactly when its sender, time and operations are read and the operations
run. -/
theorem apply_eq_accepted_iff {config : Config} {clock : Int} {r : Request} {s t : Store Ledger}
    (consistent : s.Consistent) :
    apply config clock r s = .ok (t, .accepted effects) ↔
      ∃ sender, Operation.requireText "tx_sender" Operation.longestName r.sender = .ok sender ∧
        ∃ now, timeOf clock r.now = .ok now ∧
          ∃ ops, Operation.parse config r.operations = .ok ops ∧
            run ⟨sender, now, config⟩ s ops = .ok (t, effects) := by
  constructor
  · intro accepted
    obtain ⟨sender, named, now, timed, ops, parsed, ran, -⟩ :=
      applyOrThrow_eq_ok_iff.mp (applyOrThrow_of_accepted accepted)
    exact ⟨sender, named, now, timed, ops, parsed, ran⟩
  · rintro ⟨sender, named, now, timed, ops, parsed, ran⟩
    have checked := checkPools_of_consistent (consistent_run consistent ran) (ops.map (·.poolId))
    exact apply_of_ok (applyOrThrow_eq_ok_iff.mpr ⟨sender, named, now, timed, ops, parsed, ran, checked⟩)

/-- A time that is given does not depend on the clock. -/
theorem timeOf_of_given {now : Value} (given : now ≠ .null) (clock other : Int) :
    timeOf clock now = timeOf other now := by
  cases now with
  | null => exact absurd rfl given
  | _ => rfl

/-- On a consistent store, a request with a given time and no more operations than are allowed, split in two anywhere,
is accepted exactly when the first part is, and then the second part on the store that it leaves, sent by the same
sender at the same time. The store is the same in the end, and the effects are those of the first part followed by those
of the second. -/
theorem batch_iff_parts {s : Store Ledger} (consistent : s.Consistent) {config : Config} {sender now : Value}
    (given : now ≠ .null) {xs ys : List Value} (few : (xs.length + ys.length : Int) ≤ config.maxOps)
    (clock clock₁ clock₂ : Int) (u : Store Ledger) (effects : List Effect) :
    apply config clock ⟨sender, now, .list (xs ++ ys)⟩ s = .ok (u, .accepted effects) ↔
      ∃ t first second, apply config clock₁ ⟨sender, now, .list xs⟩ s = .ok (t, .accepted first) ∧
        apply config clock₂ ⟨sender, now, .list ys⟩ t = .ok (u, .accepted second) ∧ first ++ second = effects := by
  rw [apply_eq_accepted_iff consistent]
  constructor
  · rintro ⟨who, named, time, timed, ops, parsed, ran⟩
    obtain ⟨ops₁, parsed₁, ops₂, parsed₂, rfl⟩ := (Operation.parse_append_eq_ok_iff few).mp parsed
    obtain ⟨t, first, ran₁, second, ran₂, joined⟩ := run_append_eq_ok_iff.mp ran
    have between := consistent_run consistent ran₁
    have timed₁ := (timeOf_of_given given clock₁ clock).trans timed
    have timed₂ := (timeOf_of_given given clock₂ clock).trans timed
    exact ⟨t, first, second,
      (apply_eq_accepted_iff consistent).mpr ⟨who, named, time, timed₁, ops₁, parsed₁, ran₁⟩,
      (apply_eq_accepted_iff between).mpr ⟨who, named, time, timed₂, ops₂, parsed₂, ran₂⟩, joined⟩
  · rintro ⟨t, first, second, accepted₁, accepted₂, joined⟩
    obtain ⟨who, named, time, timed₁, ops₁, parsed₁, ran₁⟩ := (apply_eq_accepted_iff consistent).mp accepted₁
    have between := consistent_run consistent ran₁
    obtain ⟨who', named', time', timed₂, ops₂, parsed₂, ran₂⟩ := (apply_eq_accepted_iff between).mp accepted₂
    have timed := (timeOf_of_given given clock clock₁).trans timed₁
    have sameSender : who' = who := Except.ok.inj (named'.symm.trans named)
    have sameTime : time' = time :=
      Except.ok.inj (timed₂.symm.trans ((timeOf_of_given given clock₂ clock).trans timed))
    rw [sameSender, sameTime] at ran₂
    exact ⟨who, named, time, timed, ops₁ ++ ops₂,
      (Operation.parse_append_eq_ok_iff few).mpr ⟨ops₁, parsed₁, ops₂, parsed₂, rfl⟩,
      run_append_eq_ok_iff.mpr ⟨t, first, ran₁, second, ran₂, joined⟩⟩

/-- The owner closes the other pool, and opens it again. -/
theorem batch_iff_parts_renewing :
    ∃ s t u first second, Store.empty.run twoPools = s ∧ s.Consistent ∧ (s.pool? "q").isSome = true ∧
      apply {} 0 ⟨.text "o", .int 25, .list [operationOf "q" "close_pool" []]⟩ s = .ok (t, .accepted first) ∧
      t.pool? "q" = none ∧
      apply {} 0 ⟨.text "o", .int 25, .list [operationOf "q" "initialize_pool" (openingFor "u" "r")]⟩ t =
        .ok (u, .accepted second) ∧
      apply {} 0 renewing s = .ok (u, .accepted (first ++ second)) ∧ (first ++ second).length = 2 := by
  have consistent : (Store.empty.run twoPools).Consistent := by
    unfold Store.Consistent
    decide +kernel
  have accepted : apply {} 0 ⟨.text "o", .int 25, .list ([operationOf "q" "close_pool" []] ++
      [operationOf "q" "initialize_pool" (openingFor "u" "r")])⟩ (Store.empty.run twoPools) =
      .ok ((Store.empty.run twoPools).afterRequest {} 0 renewing,
        .accepted ((Store.empty.run twoPools).reportOf {} 0 renewing)) :=
    toOption_eq_some_iff.mp (by decide +kernel)
  have given : Value.int 25 ≠ .null := nofun
  obtain ⟨t, first, second, closed, opened, joined⟩ :=
    (batch_iff_parts consistent given (by decide) 0 0 0 _ _).mp accepted
  refine ⟨_, t, _, first, second, rfl, consistent, by decide +kernel, closed, ?_, opened, ?_, ?_⟩
  · have after : t = (Store.empty.run twoPools).afterRequest {} 0
        ⟨.text "o", .int 25, .list [operationOf "q" "close_pool" []]⟩ := by
      simp only [Store.afterRequest, closed]
    rw [after]
    decide +kernel
  · rw [joined]
    exact accepted
  · rw [joined]
    decide +kernel

end YieldPool.Transaction
