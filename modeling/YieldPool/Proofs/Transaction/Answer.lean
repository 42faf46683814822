import YieldPool.Proofs.Transaction.Consistency

/-!
# Every request is answered

Whatever a request holds, it is answered: it is accepted exactly when its operations apply, and else rejected with the
code and the message of the first refusal, on the store as it was (`every_request_answered`). Operations are refused by
the first of them that is refused on the store that those before it leave (`run_eq_error_iff`).
-/

namespace YieldPool.Transaction

/-- An error that becomes a rejection with its code and its message. -/
def Reported (e : Error) : Prop := ∃ text, e.message? = some text ∧ rejection? e = some (.rejected e.code text)

/-- A refusal of the reward engine is reported with its message. -/
theorem reported_fault (f : Fault) : Reported (.fault f) := ⟨f.message, rfl, rfl⟩

/-- Whatever an operation can meet is reported with its message. -/
theorem reported_of_operational {e : Error} (h : e.Operational) : Reported e := by
  obtain ⟨text, message⟩ := h.message
  obtain ⟨rejected, -⟩ := rejection?_of_ordinary h.ordinary
  rw [message] at rejected
  exact ⟨text, message, rejected⟩

/-- An inconsistent pool is reported with its message. -/
theorem reported_checkPools {L : Type} (s : Store L) (poolIds : List Text) :
    RefusesWith Reported (checkPools s poolIds) := by
  refine refusesWith_forM (fun poolId => ?_) _
  split
  · exact refusesWith_ok ()
  · exact refusesWith_require.mpr fun _ => reported_fault _

/-- Whatever a request is refused for is reported. -/
theorem reported_applyOrThrow (config : Config) (clock : Int) (r : Request) (s : Store Ledger) :
    RefusesWith Reported (applyOrThrow config clock r s) := by
  have sender := (Operation.refusesWith_requireText Error.operational_operation "tx_sender" Operation.longestName
    r.sender).mono fun _ => reported_of_operational
  have time := (operational_timeOf clock r.now).mono fun _ => reported_of_operational
  have parsed := (Operation.refusesWith_parse Error.operational_operation config r.operations).mono fun _ =>
    reported_of_operational
  have ran := fun c ops => (operational_run c s ops).mono fun _ => reported_of_operational
  simp [applyOrThrow_eq_bind, sender, time, parsed, ran, reported_checkPools]

/-- A request that is performed is accepted with its effects. -/
theorem apply_of_ok {config : Config} {clock : Int} {r : Request} {s t : Store Ledger} {effects : List Effect}
    (applied : applyOrThrow config clock r s = .ok (t, effects)) :
    apply config clock r s = .ok (t, .accepted effects) := by
  rw [apply_eq_match, applied]

/-- A request that is refused is rejected with the code and the message of the refusal, and leaves the store. -/
theorem apply_of_error {config : Config} {clock : Int} {r : Request} {s : Store Ledger} {e : Error}
    (refused : applyOrThrow config clock r s = .error e) :
    ∃ text, e.message? = some text ∧ apply config clock r s = .ok (s, .rejected e.code text) := by
  obtain ⟨text, message, rejected⟩ := reported_applyOrThrow config clock r s e refused
  refine ⟨text, message, ?_⟩
  simp only [apply_eq_match, refused, rejected]

/-- Every request is answered. -/
theorem exists_apply_eq_ok (config : Config) (clock : Int) (r : Request) (s : Store Ledger) :
    ∃ t result, apply config clock r s = .ok (t, result) := by
  cases applied : applyOrThrow config clock r s with
  | ok x => exact ⟨x.1, .accepted x.2, apply_of_ok applied⟩
  | error e =>
    obtain ⟨text, -, answered⟩ := apply_of_error applied
    exact ⟨s, .rejected e.code text, answered⟩

variable {L : Type} {c : Handler.Context} {s : Store L}

/-- Operations are refused for the first one that is refused, on the store that those before it leave. -/
theorem run_cons_eq_error_iff [Custody L] {op : Operation} {rest : List Operation} {e : Error} :
    run c s (op :: rest) = .error e ↔
      step c s op = .error e ∨ ∃ t effect, step c s op = .ok (t, effect) ∧ run c t rest = .error e := by
  simp only [run, bind_eq_error_iff, Prod.exists, pure, Except.pure, reduceCtorEq, and_false, exists_false, or_false]

/-- Operations are refused exactly when those before one of them are accepted and that one is refused. -/
theorem run_eq_error_iff [Custody L] {ops : List Operation} {e : Error} :
    run c s ops = .error e ↔
      ∃ done op rest t effects,
        ops = done ++ op :: rest ∧ run c s done = .ok (t, effects) ∧ step c t op = .error e := by
  induction ops generalizing s with
  | nil => simp [run]
  | cons first others ih =>
    rw [run_cons_eq_error_iff]
    constructor
    · rintro (refused | ⟨s₁, effect, stepped, refused⟩)
      · exact ⟨[], first, others, s, [], rfl, rfl, refused⟩
      · obtain ⟨done, op, rest, t, effects, rfl, ran, stopped⟩ := ih.mp refused
        exact ⟨first :: done, op, rest, t, effect :: effects, rfl,
          run_cons_eq_ok_iff.mpr ⟨s₁, effect, stepped, effects, ran, rfl⟩, stopped⟩
    · rintro ⟨done, op, rest, t, effects, split, ran, stopped⟩
      cases done with
      | nil =>
        obtain ⟨rfl, rfl⟩ := List.cons.inj split
        obtain ⟨rfl, -⟩ := run_nil_eq_ok_iff.mp ran
        exact Or.inl stopped
      | cons head done =>
        obtain ⟨rfl, rfl⟩ := List.cons.inj split
        obtain ⟨s₁, effect, stepped, following, onwards, -⟩ := run_cons_eq_ok_iff.mp ran
        exact Or.inr ⟨s₁, effect, stepped, ih.mpr ⟨done, op, rest, t, following, rfl, onwards, stopped⟩⟩

/-- Whatever the values of a request are, it is answered and nothing is thrown. It is accepted exactly when its
operations apply, with the same effects on the same store. It is rejected exactly when they are refused, with the code
and the message of the refusal, and then the store is as it was, even where operations before the refused one were
handled. -/
theorem every_request_answered (config : Config) (clock : Int) (r : Request) (s : Store Ledger) :
    (∃ t result, apply config clock r s = .ok (t, result)) ∧
      (∀ t effects, apply config clock r s = .ok (t, .accepted effects) ↔
        applyOrThrow config clock r s = .ok (t, effects)) ∧
      (∀ t code text, apply config clock r s = .ok (t, .rejected code text) ↔
        t = s ∧ ∃ e, applyOrThrow config clock r s = .error e ∧ e.code = code ∧ e.message? = some text) ∧
      ∀ sender now done op rest t effects e,
        Operation.requireText "tx_sender" Operation.longestName r.sender = .ok sender →
          timeOf clock r.now = .ok now → Operation.parse config r.operations = .ok (done ++ op :: rest) →
            run ⟨sender, now, config⟩ s done = .ok (t, effects) → step ⟨sender, now, config⟩ t op = .error e →
              ∃ text, e.message? = some text ∧ apply config clock r s = .ok (s, .rejected e.code text) := by
  refine ⟨exists_apply_eq_ok config clock r s, fun t effects => ⟨applyOrThrow_of_accepted, apply_of_ok⟩,
    fun t code text => ⟨fun rejected => ?_, ?_⟩, ?_⟩
  · cases applied : applyOrThrow config clock r s with
    | ok x =>
      rw [apply_of_ok applied] at rejected
      cases rejected
    | error e =>
      obtain ⟨message, found, answered⟩ := apply_of_error applied
      rw [answered] at rejected
      cases rejected
      exact ⟨rfl, e, rfl, rfl, found⟩
  · rintro ⟨rfl, e, refused, rfl, found⟩
    obtain ⟨message, found', answered⟩ := apply_of_error refused
    obtain rfl := Option.some.inj (found.symm.trans found')
    exact answered
  · intro sender now done op rest t effects e named timed parsed ran stopped
    refine apply_of_error ?_
    have refused := run_eq_error_iff.mpr ⟨done, op, rest, t, effects, rfl, ran, stopped⟩
    simp only [applyOrThrow_eq_bind, named, timed, parsed, refused, bind, Except.bind]

/-- The fields of an operation by which the staker takes tokens back. -/
def unstaking (amount : Int) : Value.Entries :=
  [(.text "module", .text "Farm"), (.text "version", .text "0.1"), (.text "action", .text "unstake"),
    (.text "pool_id", .text "p"), (.text "amount", .int amount)]

/-- The staker takes four tokens back and then more than are left. -/
def overdrawing : Request where
  sender := .text "a"
  now := .int 25
  operations := .list [.dictionary (unstaking 4), .dictionary (unstaking 7)]

/-- The first four tokens can be taken back, seven more cannot: the request is rejected for these, and the store is as
before. -/
theorem every_request_answered_overdrawing :
    ∃ t effects,
      run ⟨"a", 25, {}⟩ stakedStore [⟨"p", .unstake, unstaking 4⟩] = .ok (t, effects) ∧
      t.balance "a" "s" = 4 ∧
      step ⟨"a", 25, {}⟩ t ⟨"p", .unstake, unstaking 7⟩ = .error (.action (.unstakeExceeds 7 6)) ∧
      apply {} 0 overdrawing stakedStore = .ok (stakedStore, .rejected "rejected" "unstake exceeds shares: 7 > 6") := by
  have parsed : Operation.parse {} overdrawing.operations =
      .ok ([⟨"p", .unstake, unstaking 4⟩] ++ ⟨"p", .unstake, unstaking 7⟩ :: []) := by
    rfl
  obtain ⟨-, -, -, stopped⟩ := every_request_answered {} 0 overdrawing stakedStore
  have ran : ∃ t effects, run ⟨"a", 25, {}⟩ stakedStore [⟨"p", .unstake, unstaking 4⟩] = .ok (t, effects) ∧
      t.balance "a" "s" = 4 ∧
      step ⟨"a", 25, {}⟩ t ⟨"p", .unstake, unstaking 7⟩ = .error (.action (.unstakeExceeds 7 6)) :=
    ⟨_, _, rfl, rfl, rfl⟩
  obtain ⟨t, effects, ran, moved, refused⟩ := ran
  obtain ⟨text, message, rejected⟩ := stopped "a" 25 _ _ _ t effects _ rfl rfl parsed ran refused
  cases message
  exact ⟨t, effects, ran, moved, refused, rejected⟩

end YieldPool.Transaction
