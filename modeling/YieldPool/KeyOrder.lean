/-!
# Strict total orders on keys

Tables and sorted listings order their rows by a key. `KeyOrder` is a decidable strict total order: a code point is
ordered by its number, a list of keys lexicographically, and a pair by its first part, then its second. Because the
order is total, a list sorted by it is determined by its members.
-/

namespace YieldPool

/-- A decidable strict total order. -/
class KeyOrder (κ : Type) where
  /-- The first key stands strictly before the second. -/
  before : κ → κ → Bool
  irrefl : ∀ a, before a a = false
  trans : ∀ {a b c}, before a b = true → before b c = true → before a c = true
  total : ∀ {a b}, before a b = false → before b a = false → a = b

namespace KeyOrder

/-- Two keys of which one stands before the other are different. -/
theorem ne_of_before {κ : Type} [KeyOrder κ] {a b : κ} (h : before a b = true) : a ≠ b := by
  intro e
  rw [e, irrefl] at h
  exact Bool.noConfusion h

/-- Numbers below a bound are ordered by size. -/
instance (n : Nat) : KeyOrder (Fin n) where
  before a b := decide (a.val < b.val)
  irrefl a := by simp
  trans h k := by simp only [decide_eq_true_eq] at *; omega
  total h k := by simp only [decide_eq_false_iff_not] at *; exact Fin.ext (by omega)

/-- The lexicographic order on lists: a proper initial part stands before the whole. -/
def lexBefore {κ : Type} [KeyOrder κ] : List κ → List κ → Bool
  | _, [] => false
  | [], _ :: _ => true
  | a :: as, b :: bs => before a b || (!before b a && lexBefore as bs)

theorem lexBefore_irrefl {κ : Type} [KeyOrder κ] : ∀ as : List κ, lexBefore as as = false
  | [] => rfl
  | a :: as => by simp [lexBefore, irrefl, lexBefore_irrefl as]

/-- Lists of which neither stands before the other are equal. -/
theorem lexBefore_total {κ : Type} [KeyOrder κ] :
    ∀ {as bs : List κ}, lexBefore as bs = false → lexBefore bs as = false → as = bs
  | [], [], _, _ => rfl
  | [], _ :: _, h, _ => by simp [lexBefore] at h
  | _ :: _, [], _, k => by simp [lexBefore] at k
  | a :: as, b :: bs, h, k => by
    simp only [lexBefore, Bool.or_eq_false_iff] at h k
    have e : a = b := total h.1 k.1
    subst e
    have h2 := h.2
    have k2 := k.2
    simp only [irrefl, Bool.not_false, Bool.true_and] at h2 k2
    rw [lexBefore_total h2 k2]

/-- The head decides, and equal heads leave it to the tails. -/
theorem lexBefore_cons_iff {κ : Type} [KeyOrder κ] {a b : κ} {as bs : List κ} :
    lexBefore (a :: as) (b :: bs) = true ↔ before a b = true ∨ (a = b ∧ lexBefore as bs = true) := by
  simp only [lexBefore, Bool.or_eq_true, Bool.and_eq_true, Bool.not_eq_true']
  constructor
  · rintro (h | ⟨h, k⟩)
    · exact Or.inl h
    · cases hab : before a b with
      | true => exact Or.inl rfl
      | false => exact Or.inr ⟨total hab h, k⟩
  · rintro (h | ⟨rfl, k⟩)
    · exact Or.inl h
    · exact Or.inr ⟨irrefl a, k⟩

/-- What stands before a list stands before whatever comes after that. -/
theorem lexBefore_trans {κ : Type} [KeyOrder κ] :
    ∀ {as bs cs : List κ}, lexBefore as bs = true → lexBefore bs cs = true → lexBefore as cs = true
  | _, _, [], _, k => by simp [lexBefore] at k
  | _, [], _ :: _, h, _ => by simp [lexBefore] at h
  | [], _ :: _, _ :: _, _, _ => rfl
  | a :: as, b :: bs, c :: cs, h, k => by
    rw [lexBefore_cons_iff] at h k ⊢
    rcases h with h | ⟨rfl, h⟩
    · rcases k with k | ⟨rfl, _⟩
      · exact Or.inl (trans h k)
      · exact Or.inl h
    · rcases k with k | ⟨rfl, k⟩
      · exact Or.inl k
      · exact Or.inr ⟨rfl, lexBefore_trans h k⟩

instance {κ : Type} [KeyOrder κ] : KeyOrder (List κ) where
  before := lexBefore
  irrefl := lexBefore_irrefl
  trans := lexBefore_trans
  total := lexBefore_total

/-- A pair is ordered by its first part, and by its second where the first parts agree. -/
instance {κ μ : Type} [KeyOrder κ] [KeyOrder μ] : KeyOrder (κ × μ) where
  before a b := before a.1 b.1 || (!before b.1 a.1 && before a.2 b.2)
  irrefl a := by simp [irrefl]
  trans := by
    rintro ⟨a1, a2⟩ ⟨b1, b2⟩ ⟨c1, c2⟩ h k
    simp only [Bool.or_eq_true, Bool.and_eq_true, Bool.not_eq_true'] at h k ⊢
    rcases h with h | ⟨h1, h2⟩
    · rcases k with k | ⟨k1, _⟩
      · exact Or.inl (trans h k)
      · cases hbc : before b1 c1 with
        | true => exact Or.inl (trans h hbc)
        | false => rw [← total hbc k1]; exact Or.inl h
    · cases hab : before a1 b1 with
      | true =>
        rcases k with k | ⟨k1, _⟩
        · exact Or.inl (trans hab k)
        · cases hbc : before b1 c1 with
          | true => exact Or.inl (trans hab hbc)
          | false => rw [← total hbc k1]; exact Or.inl hab
      | false =>
        rw [total hab h1]
        rcases k with k | ⟨k1, k2⟩
        · exact Or.inl k
        · exact Or.inr ⟨k1, trans h2 k2⟩
  total := by
    rintro ⟨a1, a2⟩ ⟨b1, b2⟩ h k
    simp only [Bool.or_eq_false_iff] at h k
    have e : a1 = b1 := total h.1 k.1
    subst e
    have h2 := h.2
    have k2 := k.2
    simp only [irrefl, Bool.not_false, Bool.true_and] at h2 k2
    rw [total h2 k2]

/-- Puts a row before the first row whose key stands after its own. -/
def insertBy {κ α : Type} [KeyOrder κ] (key : α → κ) (a : α) : List α → List α
  | [] => [a]
  | b :: rest => if before (key a) (key b) then a :: b :: rest else b :: insertBy key a rest

/-- The rows in the order of their keys. -/
def sortBy {κ α : Type} [KeyOrder κ] (key : α → κ) (rows : List α) : List α :=
  rows.foldl (fun sorted a => insertBy key a sorted) []

/-- Putting a row in keeps the others. -/
theorem insertBy_perm {κ α : Type} [KeyOrder κ] (key : α → κ) (a : α) (rows : List α) :
    (insertBy key a rows).Perm (a :: rows) := by
  induction rows with
  | nil => exact List.Perm.refl _
  | cons b rest ih =>
    simp only [insertBy]
    split
    · exact List.Perm.refl _
    · exact (ih.cons b).trans (List.Perm.swap a b rest)

/-- Sorting keeps every row, as often as it occurs. -/
theorem sortBy_perm {κ α : Type} [KeyOrder κ] (key : α → κ) (rows : List α) : (sortBy key rows).Perm rows := by
  have gen : ∀ (rows sorted : List α),
      (rows.foldl (fun sorted a => insertBy key a sorted) sorted).Perm (sorted ++ rows) := by
    intro rows
    induction rows with
    | nil => intro sorted; simp
    | cons a rest ih =>
      intro sorted
      refine (ih _).trans ?_
      refine ((insertBy_perm key a sorted).append_right rest).trans ?_
      exact List.perm_middle.symm
  simpa [sortBy] using gen rows []

end KeyOrder

end YieldPool
