import Mathlib.Algebra.Order.Ring.Int
import YieldPool.Store
import YieldPool.Proofs.Refusal
import YieldPool.Proofs.Table

/-!
# Movements of tokens

A movement takes an amount of an asset from one account and gives it to another. A transfer succeeds exactly when its
amount is not negative and covered by the source, and then every balance changes by the net of that movement, also where
source and target are one account (`balance_transfer`). A sweep is the transfer of all that the source holds. Movements
that are performed one after the other change every balance by their net and leave what all accounts hold together
(`balance_perform`, `supply_perform`). Credits add up on every balance, so those of the rows of a ledger make the ledger
in whatever order they are given (`foldl_afterCredit_of_perm`).
-/

namespace YieldPool

/-- An amount of an asset that goes from one account to another. -/
structure Movement where
  source : Text
  target : Text
  asset : Text
  amount : Int
deriving DecidableEq, Repr

namespace Movement

/-- What a movement adds to a balance; negative if it takes from it. -/
def net (m : Movement) (account asset : Text) : Int :=
  (if m.target = account ∧ m.asset = asset then m.amount else 0) -
    (if m.source = account ∧ m.asset = asset then m.amount else 0)

/-- What movements add to a balance. -/
def total (ms : List Movement) (account asset : Text) : Int := (ms.map fun m => m.net account asset).sum

@[simp] theorem total_nil (account asset : Text) : total [] account asset = 0 := rfl

@[simp] theorem total_cons (m : Movement) (ms : List Movement) (account asset : Text) :
    total (m :: ms) account asset = m.net account asset + total ms account asset := by
  simp [total]

/-- Accounts that are neither source nor target are not concerned. -/
theorem net_of_ne {m : Movement} {account : Text} (source : m.source ≠ account) (target : m.target ≠ account)
    (asset : Text) : m.net account asset = 0 := by
  simp [net, source, target]

end Movement

/-- An amount of an asset that is credited to an account. -/
structure Credit where
  account : Text
  asset : Text
  amount : Int

namespace Credit

/-- Credits are told apart by account and asset. -/
def key (c : Credit) : Text × Text := (c.account, c.asset)

/-- The credit that makes a balance. -/
def ofBalance (b : Balance) : Credit := ⟨b.account, b.asset, b.amount⟩

theorem ofBalance_injective : Function.Injective ofBalance := by
  rintro ⟨account, asset, amount, positive⟩ ⟨_, _, _, _⟩ same
  obtain ⟨rfl, rfl, rfl⟩ := mk.inj same
  rfl

/-- What a credit adds to a balance. -/
def share (c : Credit) (account asset : Text) : Int := if c.account = account ∧ c.asset = asset then c.amount else 0

end Credit

namespace Ledger

variable {l m : Ledger} {source target asset : Text} {amount : Int}

/-- A balance is not zero exactly when a row lists it. -/
theorem balance_ne_zero_iff {account asset : Text} :
    l.balance account asset ≠ 0 ↔ ∃ b ∈ l.balances.rows, b.key = (account, asset) := by
  have listed : (∃ b ∈ l.balances.rows, b.key = (account, asset)) ↔
      ∃ b, l.balances.find? (account, asset) = some b :=
    exists_congr fun b => Table.find?_eq_some_iff.symm
  rw [listed, balance]
  cases l.balances.find? (account, asset) with
  | none => simp
  | some b => exact iff_of_true (Int.ne_of_gt b.positive) ⟨b, rfl⟩

/-- A transfer succeeds exactly if its amount is not negative and the source covers it, and the rest of the source can
be credited to. -/
theorem transfer_eq_ok_iff :
    l.transfer source target asset amount = .ok m ↔ 0 ≤ amount ∧ amount ≤ l.balance source asset ∧
      (l.set source asset (l.balance source asset - amount)).credit target asset amount = .ok m := by
  simp only [transfer, bind_eq_ok_iff, debit_eq_ok_iff]
  constructor
  · rintro ⟨_, ⟨nonneg, covered, rfl⟩, h⟩
    exact ⟨nonneg, covered, h⟩
  · rintro ⟨nonneg, covered, h⟩
    exact ⟨_, ⟨nonneg, covered, rfl⟩, h⟩

/-- A transfer changes the balances of its source and target, and no others. -/
theorem balance_transfer (h : l.transfer source target asset amount = .ok m) (account name : Text) :
    m.balance account name = l.balance account name + Movement.net ⟨source, target, asset, amount⟩ account name := by
  obtain ⟨nonneg, covered, h⟩ := transfer_eq_ok_iff.mp h
  obtain ⟨-, rfl⟩ := credit_eq_ok_iff.mp h
  have rest : 0 ≤ l.balance source asset - amount := Int.sub_nonneg_of_le covered
  have held := (l.set source asset (l.balance source asset - amount)).balance_nonneg target asset
  rw [balance_set _ _ _ (Int.add_nonneg held nonneg), balance_set _ _ _ rest, balance_set _ _ _ rest]
  by_cases name_eq : asset = name
  · subst name_eq
    by_cases source_eq : source = account <;> by_cases target_eq : target = account <;>
      simp_all [Movement.net, Int.sub_eq_add_neg]
  · simp [Movement.net, name_eq]

/-- A transfer is refused for a negative amount, or because the source does not cover it. -/
theorem transfer_error_cases {r : LedgerRefusal} (h : l.transfer source target asset amount = .error r) :
    amount < 0 ∧ r = .negativeDebit amount ∨
      l.balance source asset < amount ∧ r = .insufficient source (l.balance source asset) amount asset := by
  rcases bind_eq_error_iff.mp h with refused | ⟨m, taken, refused⟩
  · rcases debit_eq_error_iff.mp refused with ⟨negative, rfl⟩ | ⟨-, uncovered, rfl⟩
    · exact Or.inl ⟨negative, rfl⟩
    · exact Or.inr ⟨uncovered, rfl⟩
  · obtain ⟨negative, -⟩ := credit_eq_error_iff.mp refused
    exact absurd (debit_eq_ok_iff.mp taken).1 (Int.not_le.mpr negative)

/-- Setting a balance to what it is changes nothing. -/
@[simp] theorem set_balance (l : Ledger) (account asset : Text) :
    l.set account asset (l.balance account asset) = l := by
  refine ext_balance fun other name => ?_
  rw [balance_set _ _ _ (l.balance_nonneg account asset)]
  split
  · rename_i e
    rw [e.1, e.2]
  · rfl

@[simp] theorem transfer_zero (l : Ledger) (source target asset : Text) :
    l.transfer source target asset 0 = .ok l := by
  rw [transfer_eq_ok_iff, Int.sub_zero, set_balance, credit_eq_ok_iff, Int.add_zero, set_balance]
  exact ⟨Int.le_refl 0, l.balance_nonneg source asset, Int.le_refl 0, rfl⟩

/-- A sweep transfers all that the source holds. -/
theorem sweep_eq_ok_iff {n : Int} :
    l.sweep source target asset = .ok (m, n) ↔
      l.balance source asset = n ∧ l.transfer source target asset n = .ok m := by
  simp only [sweep]
  split
  · simp only [bind_eq_ok_iff]
    constructor
    · rintro ⟨_, h, e⟩
      cases e
      exact ⟨rfl, h⟩
    · rintro ⟨rfl, h⟩
      exact ⟨m, h, rfl⟩
  · rename_i none
    have zero : l.balance source asset = 0 := Int.le_antisymm (Int.not_lt.mp none) (l.balance_nonneg source asset)
    rw [zero]
    constructor
    · intro h
      cases h
      exact ⟨rfl, l.transfer_zero source target asset⟩
    · rintro ⟨rfl, h⟩
      rw [transfer_zero] at h
      cases h
      rfl

/-- All that the source holds can always be moved. -/
theorem exists_sweep_eq_ok (l : Ledger) (source target asset : Text) :
    ∃ m, l.sweep source target asset = .ok (m, l.balance source asset) := by
  have held := l.balance_nonneg source asset
  exact ⟨_, sweep_eq_ok_iff.mpr ⟨rfl, transfer_eq_ok_iff.mpr
    ⟨held, Int.le_refl _, credit_eq_ok_iff.mpr ⟨held, rfl⟩⟩⟩⟩

/-! ## What all accounts hold together -/

/-- The amount of a balance in an asset. -/
def amountIn (asset : Text) (b : Balance) : Int := if b.asset = asset then b.amount else 0

/-- What all accounts together hold of an asset. -/
def supply (l : Ledger) (asset : Text) : Int := l.balances.sum (amountIn asset)

/-- The row of an account and an asset holds the balance in that asset, and none in another. -/
theorem elim_amountIn (l : Ledger) (account asset name : Text) :
    (l.balances.find? (account, asset)).elim 0 (amountIn name) =
      if asset = name then l.balance account asset else 0 := by
  unfold balance
  cases found : l.balances.find? (account, asset) with
  | none => exact (ite_self 0).symm
  | some b =>
    have key : b.key = (account, asset) := Table.key_of_find? found
    have same : b.asset = asset := (Prod.mk.inj key).2
    rw [Option.elim_some, amountIn, same]

/-- The supply is what any accounts hold together that include all with a balance. -/
theorem sum_balances_eq_supply (l : Ledger) (asset : Text) {accounts : List Text} (distinct : accounts.Nodup)
    (all : ∀ account, l.balance account asset ≠ 0 → account ∈ accounts) :
    (accounts.map fun account => l.balance account asset).sum = l.supply asset := by
  have keys : (accounts.map fun account => (account, asset)).Nodup :=
    List.pairwise_map.mpr (List.Pairwise.imp (fun ne e => ne (Prod.mk.inj e).1) distinct)
  have terms : accounts.map (fun account => l.balance account asset) =
      (accounts.map fun account => (account, asset)).map fun k => (l.balances.find? k).elim 0 (amountIn asset) := by
    rw [List.map_map]
    refine List.map_congr_left fun account _ => ?_
    exact ((elim_amountIn l account asset asset).trans (if_pos rfl)).symm
  rw [terms]
  refine Table.sum_find?_eq keys fun b member outside => if_neg fun same => outside ?_
  have held : l.balance b.account asset ≠ 0 := balance_ne_zero_iff.mpr ⟨b, member, Prod.ext rfl same⟩
  exact List.mem_map.mpr ⟨b.account, all b.account held, Prod.ext rfl same.symm⟩

/-- A balance that is set counts in the stead of the one before. -/
theorem supply_set (l : Ledger) (account asset : Text) {n : Int} (nonneg : 0 ≤ n) (name : Text) :
    (l.set account asset n).supply name =
      l.supply name + if asset = name then n - l.balance account asset else 0 := by
  have before := elim_amountIn l account asset name
  unfold set
  split
  · rename_i positive
    have inserted := Table.sum_insert l.balances (amountIn name) ⟨account, asset, n, positive⟩
    have counted : amountIn name ⟨account, asset, n, positive⟩ = if asset = name then n else 0 := rfl
    rw [show Balance.key ⟨account, asset, n, positive⟩ = (account, asset) from rfl, before, counted] at inserted
    simp only [supply]
    by_cases same : asset = name
    · simp only [if_pos same] at inserted ⊢
      omega
    · simp only [if_neg same] at inserted ⊢
      omega
  · have erased := Table.sum_erase l.balances (amountIn name) (account, asset)
    rw [before] at erased
    simp only [supply]
    by_cases same : asset = name
    · rw [if_pos same] at erased ⊢
      omega
    · rw [if_neg same] at erased ⊢
      omega

/-- A transfer leaves what all accounts hold together. -/
theorem supply_transfer (h : l.transfer source target asset amount = .ok m) (name : Text) :
    m.supply name = l.supply name := by
  obtain ⟨nonneg, covered, h⟩ := transfer_eq_ok_iff.mp h
  obtain ⟨-, rfl⟩ := credit_eq_ok_iff.mp h
  have rest : 0 ≤ l.balance source asset - amount := Int.sub_nonneg_of_le covered
  have held := (l.set source asset (l.balance source asset - amount)).balance_nonneg target asset
  rw [supply_set _ _ _ (Int.add_nonneg held nonneg), supply_set _ _ _ rest]
  split <;> omega

/-! ## Movements one after the other -/

/-- Performs movements one after the other. -/
def perform (l : Ledger) (ms : List Movement) : Except LedgerRefusal Ledger :=
  ms.foldlM (fun l m => l.transfer m.source m.target m.asset m.amount) l

/-- Movements are performed one after the other. -/
theorem perform_cons_eq_ok_iff {n : Ledger} {mv : Movement} {ms : List Movement} :
    l.perform (mv :: ms) = .ok n ↔
      ∃ m, l.transfer mv.source mv.target mv.asset mv.amount = .ok m ∧ m.perform ms = .ok n :=
  bind_eq_ok_iff

/-- Movements after others are performed on the ledger that these leave. -/
theorem perform_append_eq_ok_iff {n : Ledger} {ms others : List Movement} :
    l.perform (ms ++ others) = .ok n ↔ ∃ m, l.perform ms = .ok m ∧ m.perform others = .ok n := by
  rw [perform, List.foldlM_append, bind_eq_ok_iff]
  rfl

/-- Every balance changes by the net of the movements. -/
theorem balance_perform {ms : List Movement} (h : l.perform ms = .ok m) (account name : Text) :
    m.balance account name = l.balance account name + Movement.total ms account name := by
  induction ms generalizing l with
  | nil =>
    cases h
    exact (Int.add_zero _).symm
  | cons mv rest ih =>
    obtain ⟨next, moved, h⟩ := perform_cons_eq_ok_iff.mp h
    rw [ih h, balance_transfer moved, Movement.total_cons, Int.add_assoc]

/-- Movements leave what all accounts hold together. -/
theorem supply_perform {ms : List Movement} (h : l.perform ms = .ok m) (name : Text) :
    m.supply name = l.supply name :=
  foldlM_keeps (I := fun n => n.supply name = l.supply name)
    (fun _ _ _ same moved => (supply_transfer moved name).trans same) rfl h

/-! ## Credits one after the other -/

/-- The ledger after a credit of an amount that is not negative. -/
def afterCredit (l : Ledger) (c : Credit) : Ledger := l.set c.account c.asset (l.balance c.account c.asset + c.amount)

/-- Credits add up on every balance. -/
theorem balance_foldl_afterCredit {cs : List Credit} (nonneg : ∀ c ∈ cs, 0 ≤ c.amount) (l : Ledger)
    (account asset : Text) :
    (cs.foldl afterCredit l).balance account asset =
      l.balance account asset + (cs.map fun c => c.share account asset).sum := by
  induction cs generalizing l with
  | nil => simp
  | cons c rest ih =>
    obtain ⟨first, nonneg⟩ := List.forall_mem_cons.mp nonneg
    have held := l.balance_nonneg c.account c.asset
    have added : (l.afterCredit c).balance account asset = l.balance account asset + c.share account asset := by
      rw [afterCredit, balance_set _ _ _ (Int.add_nonneg held first), Credit.share]
      split
      · rename_i same
        rw [same.1, same.2]
      · exact (Int.add_zero _).symm
    rw [List.foldl_cons, ih nonneg, added, List.map_cons, List.sum_cons, Int.add_assoc]

/-- Credits that are not negative can be made in any order. -/
theorem foldl_afterCredit_perm {cs others : List Credit} (h : cs.Perm others) (nonneg : ∀ c ∈ cs, 0 ≤ c.amount)
    (l : Ledger) : cs.foldl afterCredit l = others.foldl afterCredit l := by
  have nonneg' : ∀ c ∈ others, 0 ≤ c.amount := fun c member => nonneg c (h.mem_iff.mpr member)
  refine ext_balance fun account asset => ?_
  rw [balance_foldl_afterCredit nonneg, balance_foldl_afterCredit nonneg', (h.map _).sum_eq]

/-- The balances of a ledger, credited in any order, make the ledger. -/
theorem foldl_afterCredit_of_perm {l : Ledger} {bs : List Balance} (h : bs.Perm l.balances.rows) :
    (bs.map Credit.ofBalance).foldl afterCredit empty = l := by
  have nonneg : ∀ c ∈ bs.map Credit.ofBalance, 0 ≤ c.amount :=
    List.forall_mem_map.mpr fun b _ => Int.le_of_lt b.positive
  refine ext_balance fun account asset => ?_
  have one := Table.sum_find?_eq (t := l.balances) (f := fun b => (Credit.ofBalance b).share account asset)
    (List.pairwise_singleton _ (account, asset)) fun b _ other =>
      if_neg fun same => other (List.mem_singleton.mpr (Prod.ext same.1 same.2))
  rw [balance_foldl_afterCredit nonneg, balance_empty, Int.zero_add, List.map_map, (h.map _).sum_eq]
  refine Eq.trans one.symm ?_
  rw [List.map_singleton, List.sum_singleton, balance]
  cases found : l.balances.find? (account, asset) with
  | none => rfl
  | some b =>
    have key : b.key = (account, asset) := Table.key_of_find? found
    exact if_pos (Prod.mk.inj key)

end Ledger

end YieldPool
