import Mathlib.Data.List.Perm.Basic
import YieldPool.Proofs.Store.Restore
import YieldPool.Proofs.Transaction.Consistency

/-!
# Snapshots with their lists in another order

Two snapshots of one version whose lists have the same entries, each list in an order of its own (`Rearranged`),
restore the same store or none (`restore_order_irrelevant`). The entries may be any values: one that cannot be read, one
that is listed twice under different spellings, or one that refers to nothing is refused wherever it stands.
-/

namespace YieldPool.Store

/-- Under a name two mappings have lists of the same values, in any order. -/
def ListsSame (entries others : Value.Entries) (name : Text) : Prop :=
  ∃ xs ys, entries.get? name = some (.list xs) ∧ others.get? name = some (.list ys) ∧ xs.Perm ys

/-- Two snapshots of one version list the same values, each list in an order of its own. -/
structure Rearranged (entries others : Value.Entries) : Prop where
  version : entries.get? "version" = others.get? "version"
  pools : ListsSame entries others "pools"
  participants : ListsSame entries others "participants"
  balances : ListsSame entries others "balances"

theorem ListsSame.symm {entries others : Value.Entries} {name : Text} (h : ListsSame entries others name) :
    ListsSame others entries name := by
  obtain ⟨xs, ys, first, second, perm⟩ := h
  exact ⟨ys, xs, second, first, perm.symm⟩

theorem Rearranged.symm {entries others : Value.Entries} (h : Rearranged entries others) : Rearranged others entries :=
  ⟨h.version.symm, h.pools.symm, h.participants.symm, h.balances.symm⟩

section Mappings

variable {v w : Value} {entries others : Value.Entries} (hv : v.mapping? = some entries) (hw : w.mapping? = some others)

include hv hw

/-- What is read from the values of a list is read from them in another order. -/
theorem ListsSame.exists_read {α : Type} {read : Value → Except Error α} {name : Text}
    (same : ListsSame entries others name) {rows : List α}
    (h : ∃ values, listed v name = .ok values ∧ List.Forall₂ (fun v a => read v = .ok a) values rows) :
    ∃ rows', rows.Perm rows' ∧ ∃ values, listed w name = .ok values ∧
      List.Forall₂ (fun v a => read v = .ok a) values rows' := by
  obtain ⟨xs, ys, first, second, perm⟩ := same
  obtain ⟨values, found, all⟩ := h
  obtain rfl := Except.ok.inj (found.symm.trans (listed_of_get? hv first))
  obtain ⟨rows', read, moved⟩ := List.perm_comp_forall₂ perm.symm all
  exact ⟨rows', moved.symm, ys, listed_of_get? hw second, read⟩

/-- A rearranged snapshot describes the same pools, participants and credits, in other orders. -/
theorem Describes.rearranged (h : Rearranged entries others) {ps : List PoolRecord} {qs : List ParticipantRecord}
    {cs : List Credit} (described : Describes v ps qs cs) :
    ∃ ps' qs' cs', ps.Perm ps' ∧ qs.Perm qs' ∧ cs.Perm cs' ∧ Describes w ps' qs' cs' := by
  obtain ⟨ps', pools, readPools⟩ := h.pools.exists_read hv hw described.pools
  obtain ⟨qs', participants, readParticipants⟩ := h.participants.exists_read hv hw described.participants
  obtain ⟨cs', credits, readCredits⟩ := h.balances.exists_read hv hw described.credits
  have version : ∃ version, w.fieldOr "version" .null = .ok version ∧ version.isOne = true := by
    obtain ⟨version, found, isOne⟩ := described.version
    obtain ⟨_, same, field⟩ := Value.fieldOr_eq_ok_iff.mp found
    obtain rfl := Option.some.inj (hv.symm.trans same)
    rw [h.version] at field
    exact ⟨version, Value.fieldOr_eq_ok_iff.mpr ⟨others, hw, field⟩, isOne⟩
  exact ⟨ps', qs', cs', pools, participants, credits, version, readPools, readParticipants, readCredits⟩

end Mappings

section Perm

variable {ps ps' : List PoolRecord} {qs qs' : List ParticipantRecord} {cs cs' : List Credit}

/-- What is listed without repetition is so in any order. -/
theorem Unambiguous.of_perm (h : Unambiguous ps qs cs) (pools : ps.Perm ps') (participants : qs.Perm qs')
    (credits : cs.Perm cs') : Unambiguous ps' qs' cs' where
  pools := (pools.map _).nodup_iff.mp h.pools
  participants := (participants.map _).nodup_iff.mp h.participants
  credits := (credits.map _).nodup_iff.mp h.credits
  nonneg := by
    intro c member
    exact h.nonneg c (credits.mem_iff.mpr member)

/-- The store of lists without repetitions does not depend on their order. -/
theorem ofLists_of_perm (h : Unambiguous ps qs cs) (pools : ps.Perm ps') (participants : qs.Perm qs')
    (credits : cs.Perm cs') : ofLists ps qs cs = ofLists ps' qs' cs' := by
  rw [ofLists, ofLists, Table.insertAll_perm _ pools h.pools, Table.insertAll_perm _ participants h.participants,
    Ledger.foldl_afterCredit_perm credits h.nonneg]

end Perm

/-- A rearranged snapshot restores the same store. -/
theorem restore_rearranged {v w : Value} {entries others : Value.Entries} (hv : v.mapping? = some entries)
    (hw : w.mapping? = some others) (h : Rearranged entries others) {s : Store Ledger} (restored : restore v = .ok s) :
    restore w = .ok s := by
  obtain ⟨ps, qs, cs, described, unambiguous, made, consistent⟩ := restore_eq_ok_iff.mp restored
  obtain ⟨ps', qs', cs', pools, participants, credits, described⟩ := described.rearranged hv hw h
  have same := ofLists_of_perm unambiguous pools participants credits
  exact restore_eq_ok_iff.mpr ⟨ps', qs', cs', described, unambiguous.of_perm pools participants credits,
    same.symm.trans made, consistent⟩

/-- Of two snapshots that list the same values in different orders, one is restored exactly if the other is, and then
the stores have the same pools, participants and balances, the same snapshot and the same commitment. -/
theorem restore_order_irrelevant {v w : Value} {entries others : Value.Entries} (hv : v.mapping? = some entries)
    (hw : w.mapping? = some others) (h : Rearranged entries others) :
    ((∃ s, restore v = .ok s) ↔ ∃ t, restore w = .ok t) ∧
      ∀ s t, restore v = .ok s → restore w = .ok t →
        (∀ poolId, s.pool? poolId = t.pool? poolId) ∧
        (∀ owner poolId, s.participant? owner poolId = t.participant? owner poolId) ∧
        (∀ account asset, s.balance account asset = t.balance account asset) ∧
        s.snapshot = t.snapshot ∧ s.commitment = t.commitment := by
  refine ⟨⟨?_, ?_⟩, ?_⟩
  · rintro ⟨s, restored⟩
    exact ⟨s, restore_rearranged hv hw h restored⟩
  · rintro ⟨t, restored⟩
    exact ⟨t, restore_rearranged hw hv h.symm restored⟩
  · intro s t first second
    obtain rfl := Except.ok.inj ((restore_rearranged hv hw h first).symm.trans second)
    exact ⟨fun _ => rfl, fun _ _ => rfl, fun _ _ => rfl, rfl, rfl⟩

open Transaction (stakedPool staker)

/-- The snapshot that lists these values. -/
def listing (version : Value) (pools participants balances : List Value) : Value.Entries :=
  [(.text "version", version), (.text "pools", .list pools), (.text "participants", .list participants),
    (.text "balances", .list balances)]

/-- Three lists that are rearranged rearrange the entries they stand in. -/
theorem rearranged_listing (version : Value) {pools pools' participants participants' balances balances' : List Value}
    (h₁ : pools.Perm pools') (h₂ : participants.Perm participants') (h₃ : balances.Perm balances') :
    Rearranged (listing version pools participants balances) (listing version pools' participants' balances') :=
  ⟨rfl, ⟨_, _, rfl, rfl, h₁⟩, ⟨_, _, rfl, rfl, h₂⟩, ⟨_, _, rfl, rfl, h₃⟩⟩

/-- Two pools. -/
def spelledPools : List Value :=
  [stakedPool.toJson.toValue,
    { stakedPool with
      poolId := "q"
      totalShares := 7
      poolId_ne := by decide
      totalShares_fits := by decide : PoolRecord }.toJson.toValue]

/-- One participant in the first of them and two in the other. -/
def spelledParticipants : List Value :=
  [staker.toJson.toValue,
    { staker with
      poolId := "q"
      shares := 3
      poolId_ne := by decide
      shares_fits := by decide : ParticipantRecord }.toJson.toValue,
    { staker with
      poolId := "q"
      owner := "b"
      shares := 4
      poolId_ne := by decide
      owner_ne := by decide
      shares_fits := by decide : ParticipantRecord }.toJson.toValue]

/-- A balance of one asset. -/
def spelledBalance (account amount : Value) : Value :=
  .dictionary [(.text "account", account), (.text "asset", .text "s"), (.text "amount", amount)]

/-- Balances that are not all spelled with a text and an integer. -/
def spelledBalances : List Value :=
  [spelledBalance (.text "a") (.int 5), spelledBalance (.int 7) (.text " 1_0 "),
    spelledBalance (.text "b") (.bool false)]

/-- Balances are restored from front to back and from back to front, and one account in two spellings is refused both
ways, even with an amount of zero. -/
theorem restore_order_irrelevant_spelled :
    (∃ s t, restore (.dictionary (listing (.bool true) spelledPools spelledParticipants spelledBalances)) = .ok s ∧
      restore (.dictionary (listing (.bool true) spelledPools.reverse spelledParticipants.reverse
        spelledBalances.reverse)) = .ok t ∧
      s.balance "7" "s" = 10 ∧ t.balance "7" "s" = 10 ∧ s.commitment = t.commitment) ∧
    ∀ t, restore (.dictionary (listing (.bool true) spelledPools.reverse spelledParticipants.reverse
      (spelledBalance (.text "7") (.int 0) :: spelledBalances).reverse)) ≠ .ok t := by
  have reversed : ∀ balances, Rearranged (listing (.bool true) spelledPools spelledParticipants balances)
      (listing (.bool true) spelledPools.reverse spelledParticipants.reverse balances.reverse) := fun balances =>
    rearranged_listing _ (List.reverse_perm _).symm (List.reverse_perm _).symm (List.reverse_perm _).symm
  constructor
  · have held : (restore (.dictionary (listing (.bool true) spelledPools spelledParticipants
        spelledBalances))).toOption.map (fun s => s.balance "7" "s") = some 10 := by
      decide +kernel
    obtain ⟨s, restored, balance⟩ := Option.map_eq_some_iff.mp held
    have restored := toOption_eq_some_iff.mp restored
    obtain ⟨same, equal⟩ := restore_order_irrelevant (v := .dictionary _) (w := .dictionary _) rfl rfl
      (reversed spelledBalances)
    obtain ⟨t, again⟩ := same.mp ⟨s, restored⟩
    obtain ⟨-, -, balances, -, commitment⟩ := equal s t restored again
    exact ⟨s, t, restored, again, balance, (balances "7" "s").symm.trans balance, commitment⟩
  · intro t restored
    obtain ⟨s, twice⟩ := (restore_order_irrelevant (v := .dictionary _) rfl rfl (reversed _)).1.mpr ⟨t, restored⟩
    have refused : (restore (.dictionary (listing (.bool true) spelledPools spelledParticipants
        (spelledBalance (.text "7") (.int 0) :: spelledBalances)))).toOption = none := by
      decide +kernel
    rw [twice] at refused
    cases refused

end YieldPool.Store
