import YieldPool.Failure

/-!
# Computations that agree

Two computations agree up to a relation if both are refused with the same error, or both yield results in that relation.
A chain of steps agrees step by step (`AgreeUpTo.bind`), and a fold does if its step keeps the relation
(`AgreeUpTo.foldlM`).
-/

namespace YieldPool

/-- Both are refused with the same error, or both yield results in a relation. -/
inductive AgreeUpTo {ε α β : Type} (R : α → β → Prop) : Except ε α → Except ε β → Prop
  | refused (e : ε) : AgreeUpTo R (.error e) (.error e)
  | yielded {a : α} {b : β} (related : R a b) : AgreeUpTo R (.ok a) (.ok b)

namespace AgreeUpTo

variable {ε ε' α α' β β' : Type} {R : α → β → Prop} {S : α' → β' → Prop} {x : Except ε α} {y : Except ε β}

/-- What the one yields is related to something that the other yields. -/
theorem exists_of_ok {a : α} (h : AgreeUpTo R x y) (yields : x = .ok a) : ∃ b, y = .ok b ∧ R a b := by
  cases h with
  | refused e => cases yields
  | yielded related =>
    cases yields
    exact ⟨_, rfl, related⟩

/-- What the one is refused with, the other is refused with. -/
theorem error_of_error {e : ε} (h : AgreeUpTo R x y) (refuses : x = .error e) : y = .error e := by
  cases h with
  | refused e =>
    cases refuses
    rfl
  | yielded related => cases refuses

/-- Chains agree if their first steps do, and the others on related results of these. -/
theorem bind {f : α → Except ε α'} {g : β → Except ε β'} (first : AgreeUpTo R x y)
    (next : ∀ a b, R a b → AgreeUpTo S (f a) (g b)) : AgreeUpTo S (x >>= f) (y >>= g) := by
  cases first with
  | refused e => exact refused e
  | yielded related => exact next _ _ related

/-- Chains with the same first step agree if the others do on what it yields. -/
theorem bind_same {f : α → Except ε α'} {g : α → Except ε β'}
    (next : ∀ a, x = .ok a → AgreeUpTo S (f a) (g a)) : AgreeUpTo S (x >>= f) (x >>= g) := by
  cases x with
  | error e => exact refused e
  | ok a => exact next a rfl

/-- Computations still agree when their errors are renamed alike. -/
theorem mapError (h : AgreeUpTo R x y) (rename : ε → ε') : AgreeUpTo R (x.mapError rename) (y.mapError rename) := by
  cases h with
  | refused e => exact refused (rename e)
  | yielded related => exact yielded related

/-- Folds agree if each step takes related states to related states. -/
theorem foldlM {γ : Type} {f : α → γ → Except ε α} {g : β → γ → Except ε β} {cs : List γ}
    (step : ∀ c ∈ cs, ∀ a b, R a b → AgreeUpTo R (f a c) (g b c)) {a : α} {b : β} (related : R a b) :
    AgreeUpTo R (cs.foldlM f a) (cs.foldlM g b) := by
  induction cs generalizing a b with
  | nil => exact yielded related
  | cons c rest ih =>
    obtain ⟨first, others⟩ := List.forall_mem_cons.mp step
    rw [List.foldlM_cons, List.foldlM_cons]
    exact bind (first a b related) fun _ _ => ih others

end AgreeUpTo

/-- Checks that are the same on all members of a list are the same on the list. -/
theorem forM_congr {ε α : Type} {f g : α → Except ε Unit} {xs : List α} (same : ∀ a ∈ xs, f a = g a) :
    xs.forM f = xs.forM g := by
  induction xs with
  | nil => rfl
  | cons a rest ih =>
    obtain ⟨first, others⟩ := List.forall_mem_cons.mp same
    show (f a >>= fun _ => rest.forM f) = (g a >>= fun _ => rest.forM g)
    rw [first, ih others]

end YieldPool
