import YieldPool.Failure
import YieldPool.Table
import YieldPool.Text

/-!
# Token balances

A ledger says how much of each asset each account holds. Only positive balances are listed; every other balance is
zero. The rows are sorted by account and asset, so two ledgers that agree on every balance are equal.
-/

namespace YieldPool

/-- What one account holds of one asset, which is more than nothing. -/
structure Balance where
  account : Text
  asset : Text
  amount : Int
  positive : 0 < amount
deriving DecidableEq

namespace Balance

/-- Balances are told apart by account and asset. -/
def key (b : Balance) : Text × Text := (b.account, b.asset)

end Balance

/-- Why a movement of tokens is refused. -/
inductive LedgerRefusal where
  | negativeBalance (amount : Int)
  | negativeCredit (amount : Int)
  | negativeDebit (amount : Int)
  | insufficient (account : Text) (balance amount : Int) (asset : Text)
deriving DecidableEq, Repr

/-- The message of a refused movement. -/
def LedgerRefusal.message : LedgerRefusal → Text
  | .negativeBalance amount => "Balance cannot be negative: " ++ Text.ofInt amount
  | .negativeCredit amount => "Credit must be non-negative: " ++ Text.ofInt amount
  | .negativeDebit amount => "Debit must be non-negative: " ++ Text.ofInt amount
  | .insufficient account balance amount asset =>
    "Insufficient balance for " ++ account ++ ": " ++ Text.ofInt balance ++ " < " ++ Text.ofInt amount ++
      " (" ++ asset ++ ")"

/-- A table of balances. -/
structure Ledger where
  balances : Table Balance.key
deriving DecidableEq

namespace Ledger

/-- The ledger without balances. -/
def empty : Ledger := ⟨Table.empty⟩

/-- What an account holds of an asset. -/
def balance (l : Ledger) (account asset : Text) : Int :=
  match l.balances.find? (account, asset) with
  | some b => b.amount
  | none => 0

/-- The ledger in which an account holds an amount of an asset; no row is kept for an amount that is not positive. -/
def set (l : Ledger) (account asset : Text) (amount : Int) : Ledger :=
  if positive : 0 < amount then ⟨l.balances.insert ⟨account, asset, amount, positive⟩⟩
  else ⟨l.balances.erase (account, asset)⟩

/-- Sets a balance, which cannot be negative. -/
def setBalance (l : Ledger) (account asset : Text) (amount : Int) : Except LedgerRefusal Ledger :=
  if amount < 0 then .error (.negativeBalance amount) else .ok (l.set account asset amount)

/-- Adds an amount to a balance. -/
def credit (l : Ledger) (account asset : Text) (amount : Int) : Except LedgerRefusal Ledger :=
  if amount < 0 then .error (.negativeCredit amount)
  else l.setBalance account asset (l.balance account asset + amount)

/-- Takes an amount from a balance that covers it. -/
def debit (l : Ledger) (account asset : Text) (amount : Int) : Except LedgerRefusal Ledger :=
  if amount < 0 then .error (.negativeDebit amount)
  else if l.balance account asset < amount then
    .error (.insufficient account (l.balance account asset) amount asset)
  else l.setBalance account asset (l.balance account asset - amount)

/-- Moves an amount of an asset from one account to another. -/
def transfer (l : Ledger) (source target asset : Text) (amount : Int) : Except LedgerRefusal Ledger := do
  let debited ← l.debit source asset amount
  debited.credit target asset amount

/-- A ledger in one line: the number of its rows. -/
def summary (l : Ledger) : Text := "TokenLedger(" ++ Text.ofNat l.balances.size ++ " entries)"

/-- A balance is never negative. -/
theorem balance_nonneg (l : Ledger) (account asset : Text) : 0 ≤ l.balance account asset := by
  simp only [balance]
  split
  · rename_i b _
    exact Int.le_of_lt b.positive
  · exact Int.le_refl 0

/-- After a balance was set to an amount that is not negative, it is that amount, and every other balance is as
before. -/
theorem balance_set (l : Ledger) (account asset : Text) {amount : Int} (h : 0 ≤ amount) (other name : Text) :
    (l.set account asset amount).balance other name =
      if account = other ∧ asset = name then amount else l.balance other name := by
  by_cases positive : 0 < amount
  · simp only [set, balance, positive, dite_true, Table.find?_insert, Balance.key, Prod.mk.injEq]
    by_cases e : account = other ∧ asset = name
    · simp [e]
    · simp [e]
  · simp only [set, balance, positive, dite_false, Table.find?_erase, Prod.mk.injEq]
    by_cases e : account = other ∧ asset = name
    · simp only [e, and_self, if_true]
      omega
    · simp [e]

@[simp] theorem balance_empty (account asset : Text) : empty.balance account asset = 0 := rfl

/-- A balance is set to every amount that is not negative. -/
theorem setBalance_of_nonneg (l : Ledger) (account asset : Text) {amount : Int} (h : 0 ≤ amount) :
    l.setBalance account asset amount = .ok (l.set account asset amount) :=
  if_neg (Int.not_lt.mpr h)

/-- A credit is accepted exactly when its amount is not negative, and then adds it. -/
theorem credit_eq_ok_iff {l m : Ledger} {account asset : Text} {amount : Int} :
    l.credit account asset amount = .ok m ↔
      0 ≤ amount ∧ l.set account asset (l.balance account asset + amount) = m := by
  simp only [credit]
  split
  · rename_i h
    simp [Int.not_le.mpr h]
  · rename_i h
    have nonneg := Int.not_lt.mp h
    rw [setBalance_of_nonneg _ _ _ (Int.add_nonneg (l.balance_nonneg account asset) nonneg), Except.ok.injEq]
    exact (and_iff_right nonneg).symm

/-- A debit is accepted exactly when its amount is not negative and covered, and then takes it. -/
theorem debit_eq_ok_iff {l m : Ledger} {account asset : Text} {amount : Int} :
    l.debit account asset amount = .ok m ↔
      0 ≤ amount ∧ amount ≤ l.balance account asset ∧
        l.set account asset (l.balance account asset - amount) = m := by
  simp only [debit]
  split
  · rename_i h
    simp [Int.not_le.mpr h]
  · rename_i h
    split
    · rename_i k
      simp [Int.not_le.mpr k]
    · rename_i k
      have covered := Int.not_lt.mp k
      rw [setBalance_of_nonneg _ _ _ (Int.sub_nonneg_of_le covered), Except.ok.injEq]
      simp [Int.not_lt.mp h, covered]

/-- A credit is refused for a negative amount, and for nothing else. -/
theorem credit_eq_error_iff {l : Ledger} {account asset : Text} {amount : Int} {r : LedgerRefusal} :
    l.credit account asset amount = .error r ↔ amount < 0 ∧ .negativeCredit amount = r := by
  simp only [credit]
  split
  · rename_i negative
    simp [negative]
  · rename_i h
    rw [setBalance_of_nonneg _ _ _ (Int.add_nonneg (l.balance_nonneg account asset) (Int.not_lt.mp h))]
    simp [h]

/-- A debit is refused for a negative amount, or because the balance does not cover it, and for nothing else. -/
theorem debit_eq_error_iff {l : Ledger} {account asset : Text} {amount : Int} {r : LedgerRefusal} :
    l.debit account asset amount = .error r ↔
      amount < 0 ∧ .negativeDebit amount = r ∨
        0 ≤ amount ∧ l.balance account asset < amount ∧
          .insufficient account (l.balance account asset) amount asset = r := by
  simp only [debit]
  split
  · rename_i negative
    simp [negative, Int.not_le.mpr negative]
  · rename_i h
    split
    · rename_i uncovered
      simp [h, Int.not_lt.mp h, uncovered]
    · rename_i covered
      rw [setBalance_of_nonneg _ _ _ (Int.sub_nonneg_of_le (Int.not_lt.mp covered))]
      simp [h, covered]

/-- No movement is refused because it would make a balance negative: what is set is a sum of amounts that are not
negative, or the rest of a balance that covers what is taken. -/
theorem ne_negativeBalance (l : Ledger) (source target asset : Text) (amount n : Int) :
    l.credit target asset amount ≠ .error (.negativeBalance n) ∧
      l.debit source asset amount ≠ .error (.negativeBalance n) ∧
      l.transfer source target asset amount ≠ .error (.negativeBalance n) := by
  have credit : ∀ m : Ledger, m.credit target asset amount ≠ .error (.negativeBalance n) := by
    intro m refused
    obtain ⟨-, cause⟩ := credit_eq_error_iff.mp refused
    cases cause
  have debit : l.debit source asset amount ≠ .error (.negativeBalance n) := by
    intro refused
    rcases debit_eq_error_iff.mp refused with ⟨-, cause⟩ | ⟨-, -, cause⟩ <;> cases cause
  refine ⟨credit l, debit, fun refused => ?_⟩
  rcases bind_eq_error_iff.mp refused with taken | ⟨m, -, given⟩
  · exact debit taken
  · exact credit m given

/-- Ledgers that agree on every balance are equal. -/
theorem ext_balance {l m : Ledger} (h : ∀ account asset, l.balance account asset = m.balance account asset) :
    l = m := by
  obtain ⟨t⟩ := l
  obtain ⟨u⟩ := m
  congr 1
  refine Table.ext_find? fun ⟨account, asset⟩ => ?_
  have e := h account asset
  simp only [balance] at e
  cases ht : t.find? (account, asset) with
  | none =>
    cases hu : u.find? (account, asset) with
    | none => rfl
    | some b =>
      simp only [ht, hu] at e
      have := b.positive
      omega
  | some a =>
    cases hu : u.find? (account, asset) with
    | none =>
      simp only [ht, hu] at e
      have := a.positive
      omega
    | some b =>
      simp only [ht, hu] at e
      have ka := Table.key_of_find? ht
      have kb := Table.key_of_find? hu
      cases a
      cases b
      simp only [Balance.key, Prod.mk.injEq] at ka kb e
      obtain ⟨rfl, rfl⟩ := ka
      obtain ⟨rfl, rfl⟩ := kb
      subst e
      rfl

end Ledger

end YieldPool
