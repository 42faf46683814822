import YieldPool.Proofs.Handler.Movement
import YieldPool.Proofs.Handler.Pool
import YieldPool.Proofs.Transaction.Run

/-!
# Effects account for every token

The trail of a run of operations lists their effects, each with the store in which its operation was handled, so that
it tells the assets that the pool had at that point even if the pool was closed and opened again since. The ledger at
the end is the one at the beginning with the movements of the trail performed one after the other (`ledger_run`). So an
accepted request changes every balance by the net of what its effects report, and no tokens are created or destroyed
(`effects_account_for_tokens`).
-/

namespace YieldPool

/-- An effect reports an operation of a sender, with an outcome of the operation's action. -/
structure Effect.Of (sender : Text) (op : Operation) (e : Effect) : Prop where
  action : e.action = op.action
  poolId : e.poolId = op.poolId
  sender : e.sender = sender
  outcome : e.outcome.action = op.action

namespace Transaction

variable {L : Type} {c : Handler.Context}

/-- The effects of operations that are handled one after the other, each with the store in which its operation was
handled. -/
def trail [Custody L] (c : Handler.Context) (s : Store L) : List Operation → List (Store L × Effect)
  | [] => []
  | op :: rest =>
    match step c s op with
    | .ok (next, effect) => (s, effect) :: trail c next rest
    | .error _ => []

/-- What the effects of operations report to have moved, in order, each for the pool that its operation found. -/
def moved [Custody L] (c : Handler.Context) (s : Store L) (ops : List Operation) : List Movement :=
  (trail c s ops).flatMap fun x => x.2.movements x.1

/-- The effect of the first operation is recorded with the store that it was performed on. -/
theorem trail_cons_of_ok [Custody L] {s t : Store L} {op : Operation} {effect : Effect}
    (stepped : step c s op = .ok (t, effect)) (rest : List Operation) :
    trail c s (op :: rest) = (s, effect) :: trail c t rest := by
  rw [trail, stepped]

/-- The movements of the first operation come first. -/
theorem moved_cons_of_ok [Custody L] {s t : Store L} {op : Operation} {effect : Effect}
    (stepped : step c s op = .ok (t, effect)) (rest : List Operation) :
    moved c s (op :: rest) = effect.movements s ++ moved c t rest := by
  rw [moved, trail_cons_of_ok stepped, List.flatMap_cons]
  rfl

/-- The trail of accepted operations has all their effects. -/
theorem map_trail [Custody L] {s t : Store L} {ops : List Operation} {effects : List Effect}
    (ran : run c s ops = .ok (t, effects)) : (trail c s ops).map Prod.snd = effects := by
  induction ops generalizing s effects with
  | nil =>
    obtain ⟨-, rfl⟩ := run_nil_eq_ok_iff.mp ran
    rfl
  | cons op rest ih =>
    obtain ⟨s₁, effect, stepped, others, onwards, rfl⟩ := run_cons_eq_ok_iff.mp ran
    rw [trail_cons_of_ok stepped, List.map_cons, ih onwards]

/-- Each operation is reported by one effect, in order. -/
theorem effects_of_run [Custody L] {s t : Store L} {ops : List Operation} {effects : List Effect}
    (ran : run c s ops = .ok (t, effects)) : List.Forall₂ (Effect.Of c.sender) ops effects := by
  induction ops generalizing s effects with
  | nil =>
    obtain ⟨-, rfl⟩ := run_nil_eq_ok_iff.mp ran
    exact List.Forall₂.nil
  | cons op rest ih =>
    obtain ⟨s₁, effect, stepped, others, onwards, rfl⟩ := run_cons_eq_ok_iff.mp ran
    obtain ⟨o, handled, rfl⟩ := step_eq_ok_iff.mp stepped
    exact List.Forall₂.cons ⟨rfl, rfl, rfl, Handler.action_ofAction handled⟩ (ih onwards)

variable {s t : Store Ledger} {ops : List Operation} {effects : List Effect}

/-- An operation performs the movements that its effect reports. -/
theorem ledger_step {op : Operation} {effect : Effect} (stepped : step c s op = .ok (t, effect)) :
    s.ledger.perform (effect.movements s) = .ok t.ledger := by
  obtain ⟨o, handled, rfl⟩ := step_eq_ok_iff.mp stepped
  exact Handler.ledger_ofAction handled

/-- A run of operations performs the movements that its effects report, one after the other. -/
theorem ledger_run (ran : run c s ops = .ok (t, effects)) : s.ledger.perform (moved c s ops) = .ok t.ledger := by
  induction ops generalizing s effects with
  | nil =>
    obtain ⟨rfl, -⟩ := run_nil_eq_ok_iff.mp ran
    rfl
  | cons op rest ih =>
    obtain ⟨s₁, effect, stepped, others, onwards, -⟩ := run_cons_eq_ok_iff.mp ran
    rw [moved_cons_of_ok stepped]
    exact Ledger.perform_append_eq_ok_iff.mpr ⟨s₁.ledger, ledger_step stepped, ih onwards⟩

/-- An accepted request reports one effect for each operation. Every balance changes by the net of the movements that
these effects report, each for the assets of its pool as they were when the operation was handled. So all accounts
together hold as much of every asset as before. -/
theorem effects_account_for_tokens {config : Config} {clock : Int} {r : Request}
    (accepted : apply config clock r s = .ok (t, .accepted effects)) :
    ∃ sender now ops, r.sender = .text sender ∧ timeOf clock r.now = .ok now ∧
      Operation.parse config r.operations = .ok ops ∧ List.Forall₂ (Effect.Of sender) ops effects ∧
      (trail ⟨sender, now, config⟩ s ops).map Prod.snd = effects ∧
      (∀ account asset, t.balance account asset =
        s.balance account asset + Movement.total (moved ⟨sender, now, config⟩ s ops) account asset) ∧
      ∀ asset (accounts : List Text), accounts.Nodup →
        (∀ account, s.balance account asset ≠ 0 ∨ t.balance account asset ≠ 0 → account ∈ accounts) →
          (accounts.map fun account => t.balance account asset).sum =
            (accounts.map fun account => s.balance account asset).sum := by
  obtain ⟨sender, named, now, timed, ops, parsed, ran, -⟩ :=
    applyOrThrow_eq_ok_iff.mp (applyOrThrow_of_accepted accepted)
  have performed := ledger_run ran
  refine ⟨sender, now, ops, (Operation.requireText_eq_ok_iff.mp named).1, timed, parsed, effects_of_run ran,
    map_trail ran, Ledger.balance_perform performed, fun asset accounts distinct all => ?_⟩
  calc (accounts.map fun account => t.balance account asset).sum
    _ = t.ledger.supply asset :=
      t.ledger.sum_balances_eq_supply asset distinct fun account held => all account (.inr held)
    _ = s.ledger.supply asset := Ledger.supply_perform performed asset
    _ = (accounts.map fun account => s.balance account asset).sum :=
      (s.ledger.sum_balances_eq_supply asset distinct fun account held => all account (.inl held)).symm

/-- One account stakes in a pool of its own, whose rewards are of the asset that is staked. -/
def ownPool : List Event :=
  [.credit "a" "s" 100, .credit "a" "u" 10,
    .request {} 0 (requestOf "a" "initialize_pool" 0 (openingFor "s" "s")),
    .request {} 0 (requestOf "a" "seed" 0 [(.text "amount", .int 50)]),
    .request {} 0 (requestOf "a" "stake" 0 [(.text "amount", .int 40)])]

/-- The stake is taken back and the pool closed, opened again for other assets, and joined. -/
def reopening : Request where
  sender := .text "a"
  now := .int 25
  operations := .list [
    operationOf "p" "unstake" [(.text "amount", .int 40)],
    operationOf "p" "close_pool" [],
    operationOf "p" "initialize_pool" (openingFor "u" "r"),
    operationOf "p" "stake" [(.text "amount", .int 7)]]

/-- Four operations close a pool and open it again for other assets. What moved is what they report, in the assets of
the time, and every asset is conserved. -/
theorem effects_account_for_tokens_reopening :
    ∃ t effects, apply {} 0 reopening (Store.empty.run ownPool) = .ok (t, .accepted effects) ∧ effects.length = 4 ∧
      (∀ account asset, t.balance account asset = (Store.empty.run ownPool).balance account asset +
        Movement.total [⟨rewardAccount "p", "a", "s", 10⟩, ⟨treasuryAccount "p", "a", "s", 40⟩,
          ⟨rewardAccount "p", "a", "s", 40⟩, ⟨"a", treasuryAccount "p", "u", 7⟩, ⟨rewardAccount "p", "a", "r", 0⟩]
          account asset) ∧
      ∀ asset (accounts : List Text), accounts.Nodup →
        (∀ account, (Store.empty.run ownPool).balance account asset ≠ 0 ∨ t.balance account asset ≠ 0 →
          account ∈ accounts) →
          (accounts.map fun account => t.balance account asset).sum =
            (accounts.map fun account => (Store.empty.run ownPool).balance account asset).sum := by
  have accepted : apply {} 0 reopening (Store.empty.run ownPool) =
      .ok ((Store.empty.run ownPool).afterRequest {} 0 reopening,
        .accepted ((Store.empty.run ownPool).reportOf {} 0 reopening)) :=
    toOption_eq_some_iff.mp (by decide +kernel)
  obtain ⟨sender, now, ops, sent, timed, parsed, -, -, balances, sums⟩ := effects_account_for_tokens accepted
  cases sent
  cases timed
  have movements : (Operation.parse {} reopening.operations).toOption.map
      (moved ⟨"a", 25, {}⟩ (Store.empty.run ownPool)) = some [⟨rewardAccount "p", "a", "s", 10⟩,
        ⟨treasuryAccount "p", "a", "s", 40⟩, ⟨rewardAccount "p", "a", "s", 40⟩, ⟨"a", treasuryAccount "p", "u", 7⟩,
        ⟨rewardAccount "p", "a", "r", 0⟩] := by decide +kernel
  rw [parsed] at movements
  rw [Option.some.inj movements] at balances
  exact ⟨_, _, accepted, by decide +kernel, balances, sums⟩

end Transaction

end YieldPool
