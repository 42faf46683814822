import YieldPool.Error

/-!
# What a computation can refuse with

`RefusesWith E x` says that whatever `x` refuses with has the property `E`; a chain of steps has it exactly when each
step does on what the steps before it yield. Whatever an operation can meet when it is read and handled has a message
(`Error.Operational.message`) and is ordinary: a transaction reports it as a rejection under a code other than that of
an inconsistent pool (`Error.Operational.ordinary`).
-/

namespace YieldPool

/-- Whatever is refused is refused with an error of a kind. -/
def RefusesWith {ε α : Type} (E : ε → Prop) (x : Except ε α) : Prop := ∀ e, x = .error e → E e

section RefusesWith

variable {ε ε' α β : Type} {E : ε → Prop}

/-- What refuses with errors of a kind refuses with errors of a wider kind. -/
theorem RefusesWith.mono {F : ε → Prop} {x : Except ε α} (h : RefusesWith E x) (imp : ∀ e, E e → F e) :
    RefusesWith F x :=
  fun e refused => imp e (h e refused)

@[simp] theorem refusesWith_true (x : Except ε α) : RefusesWith (fun _ => True) x := fun _ _ => trivial

@[simp] theorem refusesWith_ok (a : α) : RefusesWith E (.ok a) := by
  intro e h
  cases h

@[simp] theorem refusesWith_pure (a : α) : RefusesWith E (pure a : Except ε α) := refusesWith_ok a

@[simp] theorem refusesWith_error {e : ε} : RefusesWith E (.error e : Except ε α) ↔ E e := by
  constructor
  · intro h
    exact h e rfl
  · intro h _ eq
    cases eq
    exact h

/-- A chain refuses with errors of a kind exactly when each of its steps does. -/
@[simp] theorem refusesWith_bind {x : Except ε α} {f : α → Except ε β} :
    RefusesWith E (x >>= f) ↔ RefusesWith E x ∧ ∀ a, x = .ok a → RefusesWith E (f a) := by
  cases x with
  | ok a =>
    show RefusesWith E (f a) ↔ _
    simp
  | error e =>
    show RefusesWith E (.error e) ↔ _
    simp

/-- What is made of a result has no part in refusals. -/
@[simp] theorem refusesWith_map {x : Except ε α} {f : α → β} : RefusesWith E (f <$> x) ↔ RefusesWith E x := by
  cases x with
  | ok a => exact iff_of_true (refusesWith_ok (f a)) (refusesWith_ok a)
  | error e => exact Iff.trans refusesWith_error refusesWith_error.symm

/-- A check refuses with its error if its condition does not hold. -/
@[simp] theorem refusesWith_require {p : Prop} [Decidable p] {refusal : ε} :
    RefusesWith E (require p refusal) ↔ (¬p → E refusal) := by
  unfold require
  split <;> simp [*]

/-- What must be there is refused with its error where it is not. -/
@[simp] theorem refusesWith_orRefuse {x : Option α} {refusal : ε} :
    RefusesWith E (orRefuse x refusal) ↔ (x = none → E refusal) := by
  cases x <;> simp [orRefuse]

/-- Renamed errors are of a kind if the errors are of the kind that is renamed to it. -/
@[simp] theorem refusesWith_mapError {E : ε' → Prop} {x : Except ε α} {f : ε → ε'} :
    RefusesWith E (x.mapError f) ↔ RefusesWith (fun e => E (f e)) x := by
  cases x with
  | ok a => exact iff_of_true (refusesWith_ok a) (refusesWith_ok a)
  | error e =>
    show RefusesWith E (.error (f e)) ↔ _
    rw [refusesWith_error, refusesWith_error]

/-- Errors that are renamed leave what is yielded. -/
theorem mapError_eq_ok_iff {x : Except ε α} {f : ε → ε'} {a : α} : x.mapError f = .ok a ↔ x = .ok a := by
  cases x with
  | ok b =>
    show Except.ok b = .ok a ↔ _
    rw [Except.ok.injEq, Except.ok.injEq]
  | error r =>
    show Except.error (f r) = .ok a ↔ _
    simp

/-- A renamed error is the name of an error. -/
theorem mapError_eq_error_iff {x : Except ε α} {f : ε → ε'} {e : ε'} :
    x.mapError f = .error e ↔ ∃ r, x = .error r ∧ f r = e := by
  cases x with
  | ok b =>
    show Except.ok b = .error e ↔ _
    simp
  | error r =>
    show Except.error (f r) = .error e ↔ _
    simp

/-- A result is kept exactly if there is one. -/
theorem toOption_eq_some_iff {x : Except ε α} {a : α} : x.toOption = some a ↔ x = .ok a := by
  cases x <;> simp [Except.toOption]

/-- What every step of a fold keeps, the fold keeps. -/
theorem foldlM_keeps {I : β → Prop} {f : β → α → Except ε β} (kept : ∀ b a c, I b → f b a = .ok c → I c) {xs : List α}
    {b c : β} (h : I b) (folded : xs.foldlM f b = .ok c) : I c := by
  induction xs generalizing b with
  | nil =>
    cases folded
    exact h
  | cons a rest ih =>
    rw [List.foldlM_cons, bind_eq_ok_iff] at folded
    obtain ⟨next, first, folded⟩ := folded
    exact ih (kept b a next h first) folded

/-- A check of all members of a list passes exactly when each of them passes. -/
theorem forM_eq_ok_iff {f : α → Except ε Unit} {xs : List α} {u : Unit} :
    xs.forM f = .ok u ↔ ∀ a ∈ xs, f a = .ok () := by
  induction xs with
  | nil => simp [List.forM, pure, Except.pure]
  | cons a rest ih =>
    show (f a >>= fun _ => rest.forM f) = .ok u ↔ _
    rw [bind_eq_ok_iff, List.forall_mem_cons, ← ih]
    exact ⟨fun ⟨_, h⟩ => h, fun h => ⟨(), h⟩⟩

/-- What every check of a member is refused with, the check of all members is refused with. -/
theorem refusesWith_forM {f : α → Except ε Unit} (each : ∀ a, RefusesWith E (f a)) (xs : List α) :
    RefusesWith E (xs.forM f) := by
  induction xs with
  | nil => exact refusesWith_ok ()
  | cons a rest ih => exact refusesWith_bind.mpr ⟨each a, fun _ _ => ih⟩

end RefusesWith

namespace Error

/-- An error that becomes a rejection, and not because a pool is inconsistent. -/
def Ordinary (e : Error) : Prop :=
  match e.kind with
  | .reward code => code ≠ .invariant
  | .value | .encoding | .document | .type | .missingEntry => True
  | .missingField | .overflow | .memory | .depth => False

/-- An error that an operation can meet when it is read and handled. -/
def Operational (e : Error) : Prop :=
  match e with
  | .fault f => f.code ≠ .invariant
  | .record r => r ≠ .unknownStatus
  | .clock _ | .ledger _ | .store _ | .operation _ | .action _ => True
  | .operand _ | .misuse _ | .canonical _ | .labelNotAscii | .notDocument | .nestedTooDeeply | .config _ => False

@[simp] theorem operational_fault {f : Fault} : (fault f).Operational ↔ f.code ≠ .invariant := Iff.rfl

@[simp] theorem operational_record {r : RecordRefusal} : (record r).Operational ↔ r ≠ .unknownStatus := Iff.rfl

@[simp] theorem operational_clock (r : ClockRefusal) : (clock r).Operational := trivial

@[simp] theorem operational_ledger (r : LedgerRefusal) : (ledger r).Operational := trivial

@[simp] theorem operational_store (r : StoreRefusal) : (store r).Operational := trivial

@[simp] theorem operational_operation (r : OperationRefusal) : (operation r).Operational := trivial

@[simp] theorem operational_action (r : ActionRefusal) : (action r).Operational := trivial

/-- Whatever an operation can meet is reported as a rejection, and not because a pool is inconsistent. -/
theorem Operational.ordinary {e : Error} (h : e.Operational) : e.Ordinary := by
  cases e with
  | fault f => exact h
  | record r => cases r <;> trivial
  | store r => cases r <;> trivial
  | clock r | ledger r | operation r | action r => trivial
  | operand r | misuse m | canonical r | labelNotAscii | notDocument | nestedTooDeeply | config r => exact h.elim

/-- Such an error has a message. -/
theorem Operational.message {e : Error} (h : e.Operational) : ∃ text, e.message? = some text := by
  cases e with
  | record r =>
    cases r with
    | unknownStatus => exact absurd rfl h
    | _ => exact ⟨_, rfl⟩
  | fault f | clock r | ledger r | store r | operation r | action r => exact ⟨_, rfl⟩
  | operand r | misuse m | canonical r | labelNotAscii | notDocument | nestedTooDeeply | config r => exact h.elim

end Error

end YieldPool
