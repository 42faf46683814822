import Mathlib.Data.List.Induction
import YieldPool.Ledger.Unchecked
import YieldPool.Proofs.Ledger

/-!
# The ledger as a function of account and asset

A caller who names accounts and assets by texts and states whole amounts sees a plain function: a credit adds, a debit
subtracts, and a transfer does both, also where source and target are one account (`Ledger.exists_make_of_covered`). What
is refused leaves the ledger as it is (`Ledger.exists_make_of_not_covered`). The ledger follows the function through any
calls (`follows_made`). Its rows list only positive balances and each of them once, so the rows of two ledgers compare
as equal exactly if the functions are (`LooseLedger.same_strict_iff`).
-/

namespace YieldPool

/-- A call of a ledger with a whole amount. -/
inductive LedgerCall where
  | credit (account asset : Text) (amount : Int)
  | debit (account asset : Text) (amount : Int)
  | transfer (source target asset : Text) (amount : Int)
deriving DecidableEq, Repr

namespace LedgerCall

/-- What a call adds to a balance; negative if it takes from it. -/
def net : LedgerCall → Text → Text → Int
  | .credit account asset amount, other, name => if account = other ∧ asset = name then amount else 0
  | .debit account asset amount, other, name => if account = other ∧ asset = name then -amount else 0
  | .transfer source target asset amount, other, name => Movement.net ⟨source, target, asset, amount⟩ other name

/-- The amount of a call is not negative, and the balance that it is taken from, if any, is not smaller. -/
def Covered (balance : Text → Text → Int) : LedgerCall → Prop
  | .credit _ _ amount => 0 ≤ amount
  | .debit account asset amount => 0 ≤ amount ∧ amount ≤ balance account asset
  | .transfer source _ asset amount => 0 ≤ amount ∧ amount ≤ balance source asset

instance (balance : Text → Text → Int) : (c : LedgerCall) → Decidable (c.Covered balance)
  | .credit _ _ _ => inferInstanceAs (Decidable (_ ≤ _))
  | .debit _ _ _ | .transfer _ _ _ _ => inferInstanceAs (Decidable (_ ∧ _))

/-- The balances after a call, which changes nothing unless it is covered. -/
def after (balance : Text → Text → Int) (c : LedgerCall) : Text → Text → Int :=
  if c.Covered balance then fun account asset => balance account asset + c.net account asset else balance

/-- The balances after calls, which are all zero at first. -/
def balances (calls : List LedgerCall) : Text → Text → Int := calls.foldl after fun _ _ => 0

end LedgerCall

/-! ## Calls of a ledger -/

namespace Ledger

/-- The ledger after a call. -/
def make (l : Ledger) : LedgerCall → Except LedgerRefusal Ledger
  | .credit account asset amount => l.credit account asset amount
  | .debit account asset amount => l.debit account asset amount
  | .transfer source target asset amount => l.transfer source target asset amount

/-- A covered call is accepted, and changes every balance by what it adds. -/
theorem exists_make_of_covered {l : Ledger} {c : LedgerCall} (covered : c.Covered l.balance) :
    ∃ m, l.make c = .ok m ∧ ∀ account asset, m.balance account asset = l.balance account asset + c.net account asset := by
  cases c with
  | credit account asset amount =>
    have sum : 0 ≤ l.balance account asset + amount := Int.add_nonneg (l.balance_nonneg account asset) covered
    refine ⟨_, credit_eq_ok_iff.mpr ⟨covered, rfl⟩, fun other name => ?_⟩
    rw [balance_set _ _ _ sum, LedgerCall.net]
    split
    · rename_i same
      rw [same.1, same.2]
    · exact (Int.add_zero _).symm
  | debit account asset amount =>
    obtain ⟨nonneg, covered⟩ := covered
    have rest : 0 ≤ l.balance account asset - amount := Int.sub_nonneg_of_le covered
    refine ⟨_, debit_eq_ok_iff.mpr ⟨nonneg, covered, rfl⟩, fun other name => ?_⟩
    rw [balance_set _ _ _ rest, LedgerCall.net]
    split
    · rename_i same
      rw [same.1, same.2, Int.sub_eq_add_neg]
    · exact (Int.add_zero _).symm
  | transfer source target asset amount =>
    obtain ⟨nonneg, covered⟩ := covered
    obtain ⟨m, moved⟩ : ∃ m, l.transfer source target asset amount = .ok m :=
      ⟨_, transfer_eq_ok_iff.mpr ⟨nonneg, covered, credit_eq_ok_iff.mpr ⟨nonneg, rfl⟩⟩⟩
    exact ⟨m, moved, balance_transfer moved⟩

/-- A call that is not covered is refused. -/
theorem exists_make_of_not_covered {l : Ledger} {c : LedgerCall} (uncovered : ¬c.Covered l.balance) :
    ∃ r, l.make c = .error r := by
  cases made : l.make c with
  | error r => exact ⟨r, rfl⟩
  | ok m =>
    refine absurd ?_ uncovered
    cases c with
    | credit account asset amount => exact (credit_eq_ok_iff.mp made).1
    | debit account asset amount =>
      obtain ⟨nonneg, covered, -⟩ := debit_eq_ok_iff.mp made
      exact ⟨nonneg, covered⟩
    | transfer source target asset amount =>
      obtain ⟨nonneg, covered, -⟩ := transfer_eq_ok_iff.mp made
      exact ⟨nonneg, covered⟩

end Ledger

namespace LooseLedger

/-- The ledger after a call, and what stopped the call. -/
def make (l : LooseLedger) : LedgerCall → LooseLedger × Option Error
  | .credit account asset amount =>
    match l.credit (.text account) (.text asset) (.int amount) with
    | .ok m => (m, none)
    | .error e => (l, some e)
  | .debit account asset amount =>
    match l.debit (.text account) (.text asset) (.int amount) with
    | .ok m => (m, none)
    | .error e => (l, some e)
  | .transfer source target asset amount => l.move (.text source) (.text target) (.text asset) (.int amount)

/-- The ledger after calls, some of which may be stopped. -/
def made (l : LooseLedger) (calls : List LedgerCall) : LooseLedger := calls.foldl (fun l c => (l.make c).1) l

section

variable (l : Ledger) (account asset : Text) (amount : Int)

/-- A credit of a whole amount under texts is the credit of the ledger. -/
theorem credit_strict :
    (strict l).credit (.text account) (.text asset) (.int amount) =
      ((l.credit account asset amount).mapError .ledger).map strict := by
  rw [credit]
  cases l.credit account asset amount <;> rfl

/-- A debit of a whole amount under texts is the debit of the ledger. -/
theorem debit_strict :
    (strict l).debit (.text account) (.text asset) (.int amount) =
      ((l.debit account asset amount).mapError .ledger).map strict := by
  rw [debit]
  cases l.debit account asset amount <;> rfl

end

/-- A ledger stays one with each call, and a call that is stopped has changed nothing. What could be taken is not
negative, so it can be given, and no transfer is stopped half-way. -/
theorem make_strict (l : Ledger) (c : LedgerCall) :
    (strict l).make c =
      match l.make c with
      | .ok m => (strict m, none)
      | .error r => (strict l, some (.ledger r)) := by
  cases c with
  | credit account asset amount =>
    rw [make, credit_strict, Ledger.make]
    cases l.credit account asset amount <;> rfl
  | debit account asset amount =>
    rw [make, debit_strict, Ledger.make]
    cases l.debit account asset amount <;> rfl
  | transfer source target asset amount =>
    rw [make, move, debit_strict, Ledger.make, Ledger.transfer]
    cases taken : l.debit source asset amount with
    | error r => rfl
    | ok m =>
      obtain ⟨nonneg, -, -⟩ := Ledger.debit_eq_ok_iff.mp taken
      obtain ⟨n, given⟩ : ∃ n, m.credit target asset amount = .ok n :=
        ⟨_, Ledger.credit_eq_ok_iff.mpr ⟨nonneg, rfl⟩⟩
      have second : (strict m).credit (.text target) (.text asset) (.int amount) = .ok (strict n) := by
        rw [credit_strict, given]
        rfl
      simp only [bind, Except.bind, Except.mapError, Except.map, second, given]

/-! ## Rows of a ledger -/

/-- The row of a balance is for its own account and asset only. -/
theorem isFor_ofBalance (b : Balance) (account asset : Text) :
    (LooseBalance.ofBalance b).isFor (.text account) (.text asset) = decide (b.key = (account, asset)) := by
  simp [LooseBalance.isFor, LooseBalance.ofBalance, Value.sameKey, Balance.key]

/-- A balance is found in the rows of a ledger. -/
theorem balance_strict (l : Ledger) (account asset : Text) :
    (strict l).balance (.text account) (.text asset) = .ok (.exact (l.balance account asset)) := by
  have keys : (Value.text account).isKey = true ∧ (Value.text asset).isKey = true := ⟨rfl, rfl⟩
  have found : LooseBalance.find (strict l).rows (.text account) (.text asset) = .exact (l.balance account asset) := by
    have rows : (strict l).rows.find? (fun b => b.isFor (.text account) (.text asset)) =
        (l.balances.find? (account, asset)).map LooseBalance.ofBalance := by
      rw [rows, List.find?_map, Table.find?]
      simp only [Function.comp_def, isFor_ofBalance]
    rw [LooseBalance.find, rows, Ledger.balance]
    cases l.balances.find? (account, asset) <;> rfl
  rw [balance, require, if_pos keys, ← found]
  rfl

/-- Ledgers compare as equal by their rows exactly if they are equal. -/
theorem same_strict_iff {l m : Ledger} : (strict l).same (strict m) = true ↔ l = m := by
  have listed : (strict l).same (strict m) = true ↔
      l.balances.rows.length = m.balances.rows.length ∧ l.balances.rows ⊆ m.balances.rows := by
    have row : ∀ b : Balance, (∃ c ∈ m.balances.rows, (LooseBalance.ofBalance c).isFor (.text b.account) (.text b.asset) =
        true ∧ (Number.exact b.amount).same (.exact c.amount) = true) ↔ b ∈ m.balances.rows := by
      intro b
      simp only [isFor_ofBalance, Number.same_exact, decide_eq_true_eq]
      constructor
      · rintro ⟨⟨_, _, _, _⟩, member, key, amount⟩
        obtain ⟨rfl, rfl⟩ := Prod.mk.inj key
        cases amount
        exact member
      · intro member
        exact ⟨b, member, rfl, rfl⟩
    simp only [same, rows, List.length_map, Bool.and_eq_true, decide_eq_true_eq, List.all_map, List.all_eq_true,
      List.any_map, List.any_eq_true, Function.comp_def]
    exact and_congr_right' (forall₂_congr fun b _ => row b)
  rw [listed]
  constructor
  · rintro ⟨length, subset⟩
    have perm : l.balances.rows.Perm m.balances.rows :=
      (List.subperm_of_subset l.balances.rows_nodup subset).perm_of_length_le (Nat.le_of_eq length.symm)
    have rows : l.balances.rows = m.balances.rows :=
      Table.rows_eq_of_mem_iff l.balances.sorted m.balances.sorted fun b => perm.mem_iff
    obtain ⟨⟨_, _⟩⟩ := l
    obtain ⟨⟨_, _⟩⟩ := m
    cases rows
    rfl
  · rintro rfl
    exact ⟨rfl, List.Subset.refl _⟩

/-! ## Any number of calls -/

/-- A ledger, and it has the balances that a function says. -/
def Follows (l : LooseLedger) (balance : Text → Text → Int) : Prop := ∃ m : Ledger, l = strict m ∧ m.balance = balance

/-- A ledger that follows a function of balances follows it through a call. -/
theorem Follows.make {l : LooseLedger} {balance : Text → Text → Int} (h : l.Follows balance) (c : LedgerCall) :
    (l.make c).1.Follows (c.after balance) := by
  obtain ⟨m, rfl, rfl⟩ := h
  rw [make_strict, LedgerCall.after]
  by_cases covered : c.Covered m.balance
  · obtain ⟨n, accepted, balance⟩ := Ledger.exists_make_of_covered covered
    rw [accepted, if_pos covered]
    exact ⟨n, rfl, funext fun account => funext fun asset => balance account asset⟩
  · obtain ⟨r, refused⟩ := Ledger.exists_make_of_not_covered covered
    rw [refused, if_neg covered]
    exact ⟨m, rfl, rfl⟩

/-- After any calls the balances are those that the calls add up to. -/
theorem follows_made (calls : List LedgerCall) : (empty.made calls).Follows (LedgerCall.balances calls) := by
  have start : empty.Follows fun _ _ => 0 := ⟨.empty, rfl, rfl⟩
  unfold made LedgerCall.balances
  induction calls using List.reverseRecOn with
  | nil => exact start
  | append_singleton calls c ih =>
    rw [List.foldl_append, List.foldl_append]
    exact ih.make c

/-- Whatever calls a ledger has got since it was empty, it is a function from account and asset to integers that are not
negative, to which credits add and from which debits subtract. A further call is stopped exactly if its amount is
negative or not covered, for being an unacceptable value, and then the ledger is as before. No row lists zero or less.
Two ledgers compare as equal exactly if they agree on every balance. -/
theorem ledger_is_balance_function (calls : List LedgerCall) :
    (∀ account asset, 0 ≤ LedgerCall.balances calls account asset ∧
      (empty.made calls).balance (.text account) (.text asset) =
        .ok (.exact (LedgerCall.balances calls account asset))) ∧
      (∀ c : LedgerCall,
        c.Covered (LedgerCall.balances calls) ∧ ((empty.made calls).make c).2 = none ∨
          ¬c.Covered (LedgerCall.balances calls) ∧
            ∃ e, (empty.made calls).make c = (empty.made calls, some e) ∧ e.kind = .value) ∧
      (∀ b ∈ (empty.made calls).rows, ∃ n, b.amount = .exact n ∧ 0 < n) ∧
      ∀ others : List LedgerCall, (empty.made calls).same (empty.made others) = true ↔
        ∀ account asset, (empty.made calls).balance (.text account) (.text asset) =
          (empty.made others).balance (.text account) (.text asset) := by
  obtain ⟨m, made, balances⟩ := follows_made calls
  rw [made, ← balances]
  refine ⟨fun account asset => ⟨m.balance_nonneg account asset, balance_strict m account asset⟩, fun c => ?_,
    fun b member => ?_, fun others => ?_⟩
  · rw [make_strict]
    by_cases covered : c.Covered m.balance
    · obtain ⟨n, accepted, -⟩ := Ledger.exists_make_of_covered covered
      rw [accepted]
      exact Or.inl ⟨covered, rfl⟩
    · obtain ⟨r, refused⟩ := Ledger.exists_make_of_not_covered covered
      rw [refused]
      exact Or.inr ⟨covered, .ledger r, rfl, rfl⟩
  · obtain ⟨row, -, rfl⟩ := List.mem_map.mp member
    exact ⟨row.amount, rfl, row.positive⟩
  · obtain ⟨n, made', -⟩ := follows_made others
    rw [made', same_strict_iff]
    simp only [balance_strict, Except.ok.injEq, Number.exact.injEq]
    constructor
    · rintro rfl account asset
      rfl
    · exact Ledger.ext_balance

end LooseLedger

end YieldPool
