import Mathlib.Data.List.Dedup
import Mathlib.Data.List.Induction
import YieldPool.Proofs.Reward.Cycle
import YieldPool.Proofs.Table
import YieldPool.Reward.History

/-!
# What a history reaches

The journal of a history lists its successful moves with what came of them. `Reached` is the relation between the state
of a pool and the journal of a timely history that leads there; a statement about all histories is an induction over it
(`reached_run`). In every state reached, the shares of all participants add up to the total, debts are not negative,
and no share has been credited with less than nothing.
-/

namespace YieldPool.Reward

/-- A successful move with what came of it. -/
structure Entry where
  move : Move
  outcome : Rebalanced
deriving DecidableEq, Repr

namespace PoolState

/-- The successful moves of a history, with what came of them. -/
def journal (p : PoolState) (rewardRate : Int) : List Move → List Entry
  | [] => []
  | m :: rest =>
    match p.attempt rewardRate m with
    | .ok (next, r) => ⟨m, r⟩ :: next.journal rewardRate rest
    | .error _ => p.journal rewardRate rest

/-- Each attempt of a history from the empty pool comes at a delay not smaller than that of any earlier successful
move. -/
def Timely (rewardRate : Int) (moves : List Move) : Prop :=
  ∀ n (h : n < moves.length), ∀ e ∈ empty.journal rewardRate (moves.take n), e.move.delay ≤ moves[n].delay

instance (rewardRate : Int) (moves : List Move) : Decidable (Timely rewardRate moves) :=
  inferInstanceAs (Decidable (∀ n (h : n < moves.length), ∀ e ∈ empty.journal rewardRate (moves.take n),
    e.move.delay ≤ moves[n].delay))

end PoolState

namespace Journal

/-- All that was harvested. -/
def harvested (log : List Entry) : Int := (log.map (·.outcome.harvested)).sum

/-- Who has moved, each once. -/
def movers (log : List Entry) : List Text := (log.map (·.move.who)).dedup

/-- No successful move comes after a delay. -/
def Until (log : List Entry) (delay : Int) : Prop := ∀ e ∈ log, e.move.delay ≤ delay

instance (log : List Entry) (delay : Int) : Decidable (Until log delay) :=
  inferInstanceAs (Decidable (∀ e ∈ log, e.move.delay ≤ delay))

end Journal

open PoolState Journal

/-- The states that timely histories lead to, with their journals. -/
inductive Reached (rewardRate : Int) : PoolState → List Entry → Prop where
  | start : Reached rewardRate PoolState.empty []
  | moved {p next : PoolState} {log : List Entry} {m : Move} {r : Rebalanced} (before : Reached rewardRate p log)
      (latest : Until log m.delay) (accepted : p.attempt rewardRate m = .ok (next, r)) :
      Reached rewardRate next (log ++ [⟨m, r⟩])

namespace PoolState

/-- A move that succeeds leads to the pool that it leaves. -/
theorem after_of_ok {p next : PoolState} {rewardRate : Int} {m : Move} {r : Rebalanced}
    (h : p.attempt rewardRate m = .ok (next, r)) : p.after rewardRate m = next := by
  rw [after, h]

/-- A move that is refused leaves the pool. -/
theorem after_of_error {p : PoolState} {rewardRate : Int} {m : Move} {f : Fault}
    (h : p.attempt rewardRate m = .error f) : p.after rewardRate m = p := by
  rw [after, h]

/-- A move that succeeds is the first entry of the journal. -/
theorem journal_cons_of_ok {p next : PoolState} {rewardRate : Int} {m : Move} {r : Rebalanced}
    (h : p.attempt rewardRate m = .ok (next, r)) (rest : List Move) :
    p.journal rewardRate (m :: rest) = ⟨m, r⟩ :: next.journal rewardRate rest := by
  rw [journal, h]

/-- A move that is refused has no entry in the journal. -/
theorem journal_cons_of_error {p : PoolState} {rewardRate : Int} {m : Move} {f : Fault}
    (h : p.attempt rewardRate m = .error f) (rest : List Move) :
    p.journal rewardRate (m :: rest) = p.journal rewardRate rest := by
  rw [journal, h]

@[simp] theorem journal_nil (p : PoolState) (rewardRate : Int) : p.journal rewardRate [] = [] := rfl

/-- The last move is made in the pool that the others lead to. -/
theorem run_append_singleton (p : PoolState) (rewardRate : Int) (moves : List Move) (m : Move) :
    p.run rewardRate (moves ++ [m]) = (p.run rewardRate moves).after rewardRate m :=
  List.foldl_append

/-- Further moves go on with the journal where the others lead. -/
theorem journal_append (p : PoolState) (rewardRate : Int) (moves more : List Move) :
    p.journal rewardRate (moves ++ more) =
      p.journal rewardRate moves ++ (p.run rewardRate moves).journal rewardRate more := by
  induction moves generalizing p with
  | nil => rfl
  | cons m rest ih =>
    rw [List.cons_append]
    show _ = _ ++ ((p.after rewardRate m).run rewardRate rest).journal rewardRate more
    cases h : p.attempt rewardRate m with
    | ok x => rw [journal_cons_of_ok h, journal_cons_of_ok h, after_of_ok h, ih, List.cons_append]
    | error e => rw [journal_cons_of_error h, journal_cons_of_error h, after_of_error h, ih]

/-- The last outcome is that of the last move in the pool that the others lead to. -/
theorem outcomes_append_singleton (p : PoolState) (rewardRate : Int) (moves : List Move) (m : Move) :
    p.outcomes rewardRate (moves ++ [m]) =
      p.outcomes rewardRate moves ++ [((p.run rewardRate moves).attempt rewardRate m).map (·.2)] := by
  induction moves generalizing p with
  | nil => rfl
  | cons first rest ih =>
    rw [List.cons_append, outcomes, outcomes, ih]
    rfl

/-- A timely history is timely up to its last attempt, which comes no earlier than any successful move. -/
theorem Timely.of_append_singleton {rewardRate : Int} {moves : List Move} {m : Move}
    (h : Timely rewardRate (moves ++ [m])) :
    Timely rewardRate moves ∧ Until (empty.journal rewardRate moves) m.delay := by
  constructor
  · intro n hn
    have le := h n (by rw [List.length_append]; omega)
    rwa [List.take_append_of_le_length (Nat.le_of_lt hn), List.getElem_append_left hn] at le
  · intro e he
    have le := h moves.length (by simp) e
    rw [List.take_left, List.getElem_concat_length rfl] at le
    exact le he

/-- A timely history leads to the state that running it leaves, with its journal. -/
theorem reached_run {rewardRate : Int} {moves : List Move} (timely : Timely rewardRate moves) :
    Reached rewardRate (empty.run rewardRate moves) (empty.journal rewardRate moves) := by
  induction moves using List.reverseRecOn with
  | nil => exact Reached.start
  | append_singleton moves m ih =>
    obtain ⟨timely, latest⟩ := timely.of_append_singleton
    have before := ih timely
    rw [run_append_singleton, journal_append]
    cases h : (empty.run rewardRate moves).attempt rewardRate m with
    | ok x =>
      rw [after_of_ok h, journal_cons_of_ok h, journal_nil]
      exact before.moved latest h
    | error e =>
      rw [after_of_error h, journal_cons_of_error h, journal_nil, List.append_nil]
      exact before

/-! ## One move -/

/-- A move succeeds exactly when its cycle is admissible, and stores the outcome of the cycle. -/
theorem attempt_eq_ok_iff {p next : PoolState} {rewardRate : Int} {m : Move} {r : Rebalanced} :
    p.attempt rewardRate m = .ok (next, r) ↔
      (p.cycle rewardRate m).Admissible ∧ (p.cycle rewardRate m).outcome = r ∧ p.store m.who r = next := by
  simp only [attempt, bind_eq_ok_iff, rebalance_eq_ok_iff]
  constructor
  · rintro ⟨r, ⟨admissible, rfl⟩, h⟩
    cases h
    exact ⟨admissible, rfl, rfl⟩
  · rintro ⟨admissible, rfl, rfl⟩
    exact ⟨_, ⟨admissible, rfl⟩, rfl⟩

/-- A stored outcome changes the mover's holding and no other. -/
theorem holding_store (p : PoolState) (who other : Text) (r : Rebalanced) :
    (p.store who r).holding other =
      if who = other then ⟨who, r.position.shares, r.position.debt⟩ else p.holding other := by
  simp only [holding, store, Table.find?_insert]
  split <;> rfl

/-- A quantity that is zero for who holds nothing, summed up or looked up. -/
theorem elim_find?_holding (p : PoolState) (who : Text) {f : Holding → Int} (h : f ⟨who, 0, 0⟩ = 0) :
    (p.holdings.find? who).elim 0 f = f (p.holding who) := by
  unfold holding
  cases p.holdings.find? who with
  | none => exact h.symm
  | some a => rfl

end PoolState

namespace Reached

variable {rewardRate : Int} {p : PoolState} {log : List Entry}

/-- The shares of all participants add up to the total. -/
theorem sum_shares (h : Reached rewardRate p log) : p.holdings.sum Holding.shares = p.totalShares := by
  induction h with
  | start => rfl
  | @moved p next log m r _ _ accepted ih =>
    obtain ⟨-, rfl, rfl⟩ := attempt_eq_ok_iff.mp accepted
    have e := Table.sum_insert p.holdings Holding.shares ⟨m.who, (p.cycle rewardRate m).nextShares,
      (p.cycle rewardRate m).nextDebt⟩
    have old := elim_find?_holding p m.who (f := Holding.shares) rfl
    show (p.holdings.insert _).sum _ = p.totalShares - (p.holding m.who).shares + (p.cycle rewardRate m).nextShares
    simp only [Cycle.outcome, Cycle.deposited] at e ⊢
    rw [old, ih] at e
    omega

/-- Nobody holds a negative number of shares or has a negative debt. -/
theorem holdings_nonneg (h : Reached rewardRate p log) : ∀ a ∈ p.holdings.rows, 0 ≤ a.shares ∧ 0 ≤ a.debt := by
  induction h with
  | start => simp [PoolState.empty, Table.empty]
  | moved _ _ accepted ih =>
    obtain ⟨admissible, rfl, rfl⟩ := attempt_eq_ok_iff.mp accepted
    exact Table.forall_mem_insert ih ⟨admissible.nextShares_fits.1, admissible.nextDebt_fits.1⟩

theorem totalShares_nonneg (h : Reached rewardRate p log) : 0 ≤ p.totalShares :=
  h.sum_shares ▸ Table.sum_nonneg fun a ha => (h.holdings_nonneg a ha).1

/-- Whoever does not move holds at most the shares that the mover does not hold. -/
theorem shares_le_detached (h : Reached rewardRate p log) (who : Text) :
    ∀ a ∈ (p.holdings.erase who).rows, a.shares ≤ p.totalShares - (p.holding who).shares := by
  intro a ha
  have nonneg : ∀ b ∈ (p.holdings.erase who).rows, 0 ≤ b.shares := fun b hb =>
    (h.holdings_nonneg b (Table.mem_erase_rows.mp hb).1).1
  have le := Table.le_sum nonneg ha
  have erased := Table.sum_erase p.holdings Holding.shares who
  have held := elim_find?_holding p who (f := Holding.shares) rfl
  rw [held, h.sum_shares] at erased
  omega

/-- No share has been credited with less than nothing. -/
theorem accumulator_nonneg (h : Reached rewardRate p log) (rate : 0 ≤ rewardRate) {delay : Int} (pos : 0 ≤ delay)
    (latest : Until log delay) : 0 ≤ accumulator (ratio rewardRate p.totalShares) delay p.compensation := by
  induction h generalizing delay with
  | start => simp [accumulator, PoolState.empty]
  | @moved p next log m r before last accepted ih =>
    obtain ⟨admissible, rfl, rfl⟩ := attempt_eq_ok_iff.mp accepted
    have credited := ih admissible.delay_fits.1 last
    have ratio_nonneg := ratio_nonneg rate admissible.nextTotal_fits.1
    have later : m.delay ≤ delay := latest _ (List.mem_append_right log (List.mem_singleton_self _))
    have now : 0 ≤ (p.cycle rewardRate m).nextAccumulated := by
      by_cases zero : (p.cycle rewardRate m).detachedRatio = 0
      · rw [Cycle.nextAccumulated_of_eq_zero zero]
        exact Int.mul_nonneg ratio_nonneg admissible.delay_fits.1
      · rw [Cycle.nextAccumulated_of_ne_zero zero]
        exact credited
    show 0 ≤ accumulator (p.cycle rewardRate m).nextRatio delay (p.cycle rewardRate m).nextCompensation
    rw [accumulator_later _ m.delay]
    exact Int.add_nonneg now (Int.mul_nonneg ratio_nonneg (Int.sub_nonneg_of_le later))

end Reached

end YieldPool.Reward
