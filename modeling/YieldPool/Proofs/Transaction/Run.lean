import YieldPool.Proofs.Transaction

/-!
# Runs of a store

What reaches a store from outside is a request or a credit to an account. A run is a list of such events, one after the
other; a rejected request and a refused credit change nothing. What every event keeps, a run keeps (`run_keeps`).
-/

namespace YieldPool

/-- What reaches a store from outside: a request, under a configuration and at the time of a clock, or a credit. -/
inductive Event where
  | request (config : Config) (clock : Int) (r : Request)
  | credit (account asset : Text) (amount : Int)

/-- A request of one operation on a pool. -/
def requestOf (sender action : Text) (now : Int) (fields : Value.Entries) : Request where
  sender := .text sender
  now := .int now
  operations := .list [.dictionary ([(.text "module", .text "Farm"), (.text "version", .text "0.1"),
    (.text "action", .text action), (.text "pool_id", .text "p")] ++ fields)]

/-- The entries of an operation on a pool. -/
def entriesFor (poolId action : Text) (fields : Value.Entries) : Value.Entries :=
  [(.text "module", .text "Farm"), (.text "version", .text "0.1"), (.text "action", .text action),
    (.text "pool_id", .text poolId)] ++ fields

/-- An operation on a pool. -/
def operationOf (poolId action : Text) (fields : Value.Entries) : Value :=
  .dictionary (entriesFor poolId action fields)

/-- The fields by which a pool is opened for two assets. -/
def openingFor (stakeAsset rewardAsset : Text) : Value.Entries :=
  [(.text "reward_rate", .int 5), (.text "period", .int 10), (.text "stake_asset", .text stakeAsset),
    (.text "reward_asset", .text rewardAsset)]

namespace Store

/-- The store after a request, which changes nothing if it is rejected. -/
def afterRequest (s : Store Ledger) (config : Config) (clock : Int) (r : Request) : Store Ledger :=
  match Transaction.apply config clock r s with
  | .ok (t, _) => t
  | .error _ => s

/-- What a request reports: the effects of its operations if it is accepted. -/
def reportOf (s : Store Ledger) (config : Config) (clock : Int) (r : Request) : List Effect :=
  match Transaction.apply config clock r s with
  | .ok (_, .accepted effects) => effects
  | _ => []

/-- The store after a credit, which changes nothing if it is refused. -/
def afterCredit (s : Store Ledger) (account asset : Text) (amount : Int) : Store Ledger :=
  match s.credit account asset amount with
  | .ok t => t
  | .error _ => s

/-- The store after an event. -/
def after (s : Store Ledger) : Event → Store Ledger
  | .request config clock r => s.afterRequest config clock r
  | .credit account asset amount => s.afterCredit account asset amount

/-- The store after a list of events. -/
def run (s : Store Ledger) (events : List Event) : Store Ledger := events.foldl after s

/-- A request changes a store only if it is accepted, and then it reports its effects. -/
theorem afterRequest_cases (s : Store Ledger) (config : Config) (clock : Int) (r : Request) :
    s.afterRequest config clock r = s ∧ s.reportOf config clock r = [] ∨
      Transaction.applyOrThrow config clock r s =
        .ok (s.afterRequest config clock r, s.reportOf config clock r) := by
  simp only [afterRequest, reportOf, Transaction.apply_eq_match]
  cases Transaction.applyOrThrow config clock r s with
  | ok x => exact Or.inr rfl
  | error e =>
    refine Or.inl ?_
    cases rejected : Transaction.rejection? e with
    | none => simp [rejected]
    | some result =>
      obtain ⟨code, message, rfl⟩ := Transaction.rejected_of_rejection? rejected
      simp [rejected]

/-- A credit changes the balance of its account at most, and no record. -/
theorem afterCredit_cases (s : Store Ledger) (account asset : Text) (amount : Int) :
    ∃ ledger, s.afterCredit account asset amount = { s with ledger } ∧
      ∀ other name, other ≠ account → ledger.balance other name = s.balance other name := by
  unfold afterCredit
  cases h : s.credit account asset amount with
  | error e => exact ⟨s.ledger, rfl, fun _ _ _ => rfl⟩
  | ok t =>
    simp only [credit, bind_eq_ok_iff, liftM, monadLift, MonadLift.monadLift, mapError_eq_ok_iff] at h
    obtain ⟨ledger, credited, h⟩ := h
    cases h
    refine ⟨ledger, rfl, fun other name ne => ?_⟩
    obtain ⟨nonneg, rfl⟩ := Ledger.credit_eq_ok_iff.mp credited
    rw [Ledger.balance_set _ _ _ (Int.add_nonneg (s.ledger.balance_nonneg account asset) nonneg)]
    exact if_neg fun e => ne e.1.symm

/-- What every event of a kind keeps, a run of such events keeps. -/
theorem run_keeps {I : Store Ledger → Prop} {allowed : Event → Prop}
    (kept : ∀ s e, allowed e → I s → I (s.after e)) {events : List Event} (all : ∀ e ∈ events, allowed e)
    {s : Store Ledger} (h : I s) : I (s.run events) := by
  induction events generalizing s with
  | nil => exact h
  | cons e rest ih =>
    obtain ⟨first, others⟩ := List.forall_mem_cons.mp all
    exact ih others (kept s e first h)

end Store

end YieldPool
