import YieldPool.Proofs.Handler
import YieldPool.Transaction

/-!
# Runs of operations

What every handled operation keeps, a run of operations keeps (`run_keeps`). A request that is refused leaves the store
as it was (`store_of_submit_error`), so what becomes of it is what `applyOrThrow` says, with a rejection in the place of
most errors (`apply_eq_match`). Whatever is refused before the check of the pools becomes a rejection, and not one for an
inconsistent pool (`rejection?_of_ordinary`).
-/

namespace YieldPool

/-- The code under which an error is reported: that of its class if it comes from the reward engine. -/
def Error.code (e : Error) : Text :=
  match e.kind with
  | .reward code => code.name
  | _ => "rejected"

namespace Transaction

variable {L : Type} {c : Handler.Context} {s t : Store L}

/-- An operation is performed exactly if its handler accepts it; its effect is what the handler reports, with its
action, pool and sender. -/
theorem step_eq_ok_iff [Custody L] {op : Operation} {effect : Effect} :
    step c s op = .ok (t, effect) ↔
      ∃ o, Handler.ofAction op.action c op s = .ok (t, o) ∧ ⟨op.action, op.poolId, c.sender, o⟩ = effect := by
  simp only [step, bind_eq_ok_iff, Prod.exists, pure, Except.pure, Except.ok.injEq, Prod.mk.injEq, existsAndEq,
    true_and]

theorem run_nil_eq_ok_iff [Custody L] {effects : List Effect} :
    run c s [] = .ok (t, effects) ↔ s = t ∧ [] = effects := by
  simp only [run, Except.ok.injEq, Prod.mk.injEq]

/-- Operations are performed one after the other, each with its effect. -/
theorem run_cons_eq_ok_iff [Custody L] {op : Operation} {rest : List Operation} {effects : List Effect} :
    run c s (op :: rest) = .ok (t, effects) ↔
      ∃ s₁ effect, step c s op = .ok (s₁, effect) ∧
        ∃ others, run c s₁ rest = .ok (t, others) ∧ effect :: others = effects := by
  simp only [run, bind_eq_ok_iff, Prod.exists, pure, Except.pure, Except.ok.injEq, Prod.mk.injEq, existsAndEq, true_and]

/-- What every handled operation of a kind keeps, a run of such operations keeps. -/
theorem run_keeps [Custody L] {I : Store L → Prop} {allowed : Operation → Prop}
    (kept : ∀ s t op o, allowed op → I s → Handler.ofAction op.action c op s = .ok (t, o) → I t)
    {ops : List Operation} (all : ∀ op ∈ ops, allowed op) {effects : List Effect} (h : I s)
    (ran : run c s ops = .ok (t, effects)) : I t := by
  induction ops generalizing s effects with
  | nil =>
    obtain ⟨rfl, -⟩ := run_nil_eq_ok_iff.mp ran
    exact h
  | cons op rest ih =>
    obtain ⟨first, others⟩ := List.forall_mem_cons.mp all
    obtain ⟨s₁, effect, handled, _, ran, -⟩ := run_cons_eq_ok_iff.mp ran
    obtain ⟨o, handled, -⟩ := step_eq_ok_iff.mp handled
    exact ih others (kept s s₁ op o first h handled) ran

/-- A request that is refused leaves the store as it was, whether it could not be read or was stopped while its
operations were handled. -/
theorem store_of_submit_error [Custody L] {config : Config} {clock : Int} {r : Request} {e : Error}
    (h : submit config clock r s = (t, .error e)) : s = t := by
  unfold submit at h
  split at h
  · exact (Store.transaction_eq_error_iff.mp h).2
  · exact congrArg Prod.fst h

/-- A request is carried out step by step: sender, time and operations are read, the operations are handled, and the
pools are checked. -/
theorem applyOrThrow_eq_bind [Custody L] (config : Config) (clock : Int) (r : Request) (s : Store L) :
    applyOrThrow config clock r s = do
      let sender ← Operation.requireText "tx_sender" Operation.longestName r.sender
      let now ← timeOf clock r.now
      let operations ← Operation.parse config r.operations
      let (t, effects) ← run ⟨sender, now, config⟩ s operations
      checkPools t (operations.map (·.poolId))
      return (t, effects) := by
  have handled : applyOrThrow config clock r s = read config clock r >>= fun x => block x.1 x.2 s := by
    unfold applyOrThrow submit
    cases read config clock r with
    | error e => rfl
    | ok x =>
      change _ = block x.1 x.2 s
      simp only [Store.transaction]
      cases block x.1 x.2 s <;> rfl
  rw [handled, read]
  cases Operation.requireText "tx_sender" Operation.longestName r.sender with
  | error e => rfl
  | ok sender =>
    cases timeOf clock r.now with
    | error e => rfl
    | ok now =>
      cases Operation.parse config r.operations with
      | error e => rfl
      | ok operations => rfl

/-- A request that is refused becomes a rejection, if its error is of a kind that does. -/
theorem apply_eq_match [Custody L] (config : Config) (clock : Int) (r : Request) (s : Store L) :
    apply config clock r s =
      match applyOrThrow config clock r s with
      | .ok (t, effects) => .ok (t, .accepted effects)
      | .error e =>
        match rejection? e with
        | some rejected => .ok (s, rejected)
        | none => .error e := by
  unfold apply applyOrThrow
  cases submitted : submit config clock r s with
  | mk t outcome =>
    cases outcome with
    | ok effects => rfl
    | error e =>
      obtain rfl := store_of_submit_error submitted
      rfl

/-- A request is accepted exactly if its sender, time and operations can be read, its operations are handled, and the
pools are consistent afterwards. -/
theorem applyOrThrow_eq_ok_iff [Custody L] {config : Config} {clock : Int} {r : Request} {effects : List Effect} :
    applyOrThrow config clock r s = .ok (t, effects) ↔
      ∃ sender, Operation.requireText "tx_sender" Operation.longestName r.sender = .ok sender ∧
        ∃ now, timeOf clock r.now = .ok now ∧
          ∃ ops, Operation.parse config r.operations = .ok ops ∧
            run ⟨sender, now, config⟩ s ops = .ok (t, effects) ∧ checkPools t (ops.map (·.poolId)) = .ok () := by
  simp only [applyOrThrow_eq_bind, bind_eq_ok_iff, Prod.exists, pure, Except.pure, Except.ok.injEq, Prod.mk.injEq]
  constructor
  · rintro ⟨sender, named, now, timed, ops, parsed, _, _, ran, _, checked, rfl, rfl⟩
    exact ⟨sender, named, now, timed, ops, parsed, ran, checked⟩
  · rintro ⟨sender, named, now, timed, ops, parsed, ran, checked⟩
    exact ⟨sender, named, now, timed, ops, parsed, _, _, ran, _, checked, rfl, rfl⟩

/-! ## What is refused -/

/-- A time that is not one is refused for an operation's field. -/
theorem operational_timeOf (clock : Int) (now : Value) : RefusesWith Error.Operational (timeOf clock now) := by
  unfold timeOf
  split <;> simp

/-- Operations are refused for operational reasons only. -/
theorem operational_run (c : Handler.Context) (s : Store Ledger) (ops : List Operation) :
    RefusesWith Error.Operational (run c s ops) := by
  induction ops generalizing s with
  | nil => exact refusesWith_ok (s, [])
  | cons op rest ih => simp [run, step, Handler.operational_ofAction, ih]

/-- What an error becomes is a rejection. -/
theorem rejected_of_rejection? {e : Error} {result : TxResult} (h : rejection? e = some result) :
    ∃ code message, result = .rejected code message := by
  unfold rejection? at h
  split at h
  all_goals first
    | exact ⟨_, _, (Option.some.inj h).symm⟩
    | cases h

/-- A request is accepted exactly as it is applied. -/
theorem applyOrThrow_of_accepted [Custody L] {config : Config} {clock : Int} {r : Request} {effects : List Effect}
    (h : apply config clock r s = .ok (t, .accepted effects)) : applyOrThrow config clock r s = .ok (t, effects) := by
  rw [apply_eq_match] at h
  split at h
  · rename_i applied
    cases h
    exact applied
  · split at h
    · rename_i rejected
      obtain ⟨code, message, rfl⟩ := rejected_of_rejection? rejected
      cases h
    · cases h

/-- A rejected request leaves the store as it was. -/
theorem store_of_rejected [Custody L] {config : Config} {clock : Int} {r : Request} {code message : Text}
    (h : apply config clock r s = .ok (t, .rejected code message)) : t = s := by
  rw [apply_eq_match] at h
  split at h
  · cases h
  · split at h
    · cases h
      rfl
    · cases h

/-- Only the class of inconsistent pools has that class's name. -/
theorem name_ne_invariant {code : FaultCode} (h : code ≠ .invariant) : code.name ≠ "invariant" := by
  cases code with
  | invariant => exact absurd rfl h
  | _ => decide

/-- An ordinary error becomes a rejection with its code, which does not blame an inconsistent pool. -/
theorem rejection?_of_ordinary {e : Error} (h : e.Ordinary) :
    rejection? e = some (.rejected e.code (e.message?.getD [])) ∧ e.code ≠ "invariant" := by
  unfold Error.Ordinary at h
  unfold rejection? Error.code
  cases kind : e.kind with
  | reward code =>
    rw [kind] at h
    exact ⟨rfl, name_ne_invariant h⟩
  | value | encoding | document | type | missingEntry => exact ⟨rfl, by decide⟩
  | missingField | overflow | memory | depth =>
    rw [kind] at h
    exact h.elim

end Transaction

end YieldPool
