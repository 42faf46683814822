import YieldPool.Proofs.Transaction.Run

/-!
# What a run reports

An accepted request reports the effects of its operations in order; a rejected request and a credit report nothing. If
something holds of a store and of all that has been reported, and every operation keeps it with the operation's effect
reported last, and no change of balances disturbs it, then it holds throughout a run (`run_keeps_with_reports`).
-/

namespace YieldPool

/-- What every operation keeps, its effect reported, a run of operations keeps. -/
theorem Transaction.run_keeps_with_effects {L : Type} [Custody L] {I : Store L → List Effect → Prop}
    {c : Handler.Context} (kept : ∀ s t op effect log, I s log → step c s op = .ok (t, effect) → I t (log ++ [effect]))
    {s t : Store L} {ops : List Operation} {log effects : List Effect} (h : I s log)
    (ran : run c s ops = .ok (t, effects)) : I t (log ++ effects) := by
  induction ops generalizing s log effects with
  | nil =>
    obtain ⟨rfl, rfl⟩ := run_nil_eq_ok_iff.mp ran
    rwa [List.append_nil]
  | cons op rest ih =>
    obtain ⟨s₁, effect, handled, others, onwards, rfl⟩ := run_cons_eq_ok_iff.mp ran
    have later := ih (kept s s₁ op effect log h handled) onwards
    rwa [List.append_assoc, List.singleton_append] at later

namespace Store

/-- What an event reports; a credit reports nothing. -/
def reported (s : Store Ledger) : Event → List Effect
  | .request config clock r => s.reportOf config clock r
  | .credit _ _ _ => []

/-- What the events of a run report, in order. -/
def reports (s : Store Ledger) : List Event → List Effect
  | [] => []
  | e :: rest => s.reported e ++ (s.after e).reports rest

variable {I : Store Ledger → List Effect → Prop}

/-- What operations and changes of balances keep, an event keeps. -/
theorem after_keeps_with_reports (credited : ∀ s ledger log, I s log → I { s with ledger } log)
    (handled : ∀ c s t op effect log, I s log → Transaction.step c s op = .ok (t, effect) → I t (log ++ [effect]))
    {s : Store Ledger} {log : List Effect} (h : I s log) (e : Event) : I (s.after e) (log ++ s.reported e) := by
  cases e with
  | request config clock r =>
    show I (s.afterRequest config clock r) (log ++ s.reportOf config clock r)
    rcases s.afterRequest_cases config clock r with ⟨same, silent⟩ | accepted
    · rw [same, silent, List.append_nil]
      exact h
    · obtain ⟨sender, -, now, -, ops, -, ran, -⟩ := Transaction.applyOrThrow_eq_ok_iff.mp accepted
      exact Transaction.run_keeps_with_effects (fun s t op effect log => handled _ s t op effect log) h ran
  | credit account asset amount =>
    show I (s.afterCredit account asset amount) (log ++ [])
    obtain ⟨ledger, same, -⟩ := s.afterCredit_cases account asset amount
    rw [same, List.append_nil]
    exact credited s ledger log h

/-- What operations and changes of balances keep, a run of events keeps. -/
theorem run_keeps_with_reports (credited : ∀ s ledger log, I s log → I { s with ledger } log)
    (handled : ∀ c s t op effect log, I s log → Transaction.step c s op = .ok (t, effect) → I t (log ++ [effect]))
    {s : Store Ledger} {log : List Effect} (h : I s log) (events : List Event) :
    I (s.run events) (log ++ s.reports events) := by
  induction events generalizing s log with
  | nil =>
    show I s (log ++ [])
    rwa [List.append_nil]
  | cons e rest ih =>
    have later := ih (after_keeps_with_reports credited handled h e)
    rwa [List.append_assoc] at later

end Store

end YieldPool
