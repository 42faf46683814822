/-!
# Failures and checks

Every failure belongs to one kind, by which a caller tells what is to blame: the value, its shape, a missing entry, or
the state of a pool. A transaction reports the failures of most kinds as a rejection and lets four through: fields
sought in a value that has none, a number beyond the range of a conversion, and what is too long or nested too deeply to
be held.

A computation that may fail is a chain of steps, and most steps are checks: a condition holds, or a thing is there. The
statements here take such a chain apart: it yields a result exactly when each of its steps does.
-/

namespace YieldPool

/-! ## Kinds of failure -/

/-- The classes of refusals of the reward engine. -/
inductive FaultCode where
  | accountingPrecondition
  | nonMonotonicDebt
  | numericOverflow
  | staleDebt
  | invariant
deriving DecidableEq, Repr

/-- The kinds of failure. -/
inductive FailureKind where
  /-- A value of the right shape that is not acceptable. -/
  | value
  /-- A text that the encoding in question cannot hold, which is a value that is not acceptable too. -/
  | encoding
  /-- A text that is no JSON document, which is a value that is not acceptable too. -/
  | document
  /-- A value of the wrong shape. -/
  | type
  /-- An entry that is not there. -/
  | missingEntry
  /-- Fields were sought in a value that has none. -/
  | missingField
  /-- A number beyond the range of a conversion. -/
  | overflow
  /-- A sequence longer than can be kept. -/
  | memory
  /-- A document that is nested too deeply. -/
  | depth
  /-- A refusal of the reward engine. -/
  | reward (code : FaultCode)
deriving DecidableEq, Repr

/-! ## Checks -/

/-- Passes where a condition holds, and refuses otherwise. -/
def require {ε : Type} (p : Prop) [Decidable p] (refusal : ε) : Except ε Unit :=
  if p then .ok () else .error refusal

/-- What is there, or a refusal. -/
def orRefuse {ε α : Type} (x : Option α) (refusal : ε) : Except ε α :=
  match x with
  | some a => .ok a
  | none => .error refusal

/-- A check passes exactly when its condition holds. -/
theorem require_eq_ok_iff {ε : Type} {p : Prop} [Decidable p] {refusal : ε} {u : Unit} :
    require p refusal = .ok u ↔ p := by
  by_cases h : p <;> simp [require, h]

/-- A check refuses exactly when its condition does not hold, and gives its own cause. -/
theorem require_eq_error_iff {ε : Type} {p : Prop} [Decidable p] {refusal e : ε} :
    require p refusal = .error e ↔ ¬p ∧ refusal = e := by
  by_cases h : p <;> simp [require, h]

/-- What must be there is yielded exactly if it is there. -/
theorem orRefuse_eq_ok_iff {ε α : Type} {x : Option α} {refusal : ε} {a : α} :
    orRefuse x refusal = .ok a ↔ x = some a := by
  cases x <;> simp [orRefuse]

/-- Two steps yield a result exactly when the first yields something with which the second yields it. -/
theorem bind_eq_ok_iff {ε α β : Type} {x : Except ε α} {f : α → Except ε β} {b : β} :
    (x >>= f) = .ok b ↔ ∃ a, x = .ok a ∧ f a = .ok b := by
  cases x <;> simp [bind, Except.bind]

/-- Two steps refuse exactly when the first does, or yields something with which the second does. -/
theorem bind_eq_error_iff {ε α β : Type} {x : Except ε α} {f : α → Except ε β} {e : ε} :
    (x >>= f) = .error e ↔ x = .error e ∨ ∃ a, x = .ok a ∧ f a = .error e := by
  cases x <;> simp [bind, Except.bind]

end YieldPool
