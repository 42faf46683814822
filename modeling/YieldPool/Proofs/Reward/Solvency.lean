import YieldPool.Proofs.Reward.History

/-!
# Solvency of the reward stream

A pool never pays out more than its stream has released, but for less than one unit a move that rounding may cost. The
claim of a holding is what its shares have been credited with beyond its debt, scaled and never negative; the liability
of a pool is the sum of all claims. In each period the liability rises by at most the scaled rate
(`Reached.liability_later`), and a move turns some of it into the harvest and adds less than one unit by rounding the
new debt down (`Reached.liability_moved`). Where the accumulator starts anew, the claims of the others vanish.
-/

namespace YieldPool.Reward

open PoolState Journal

namespace PoolState

/-- The settlement of a participant after a number of periods. -/
def settlement (p : PoolState) (rewardRate delay : Int) (who : Text) : Step :=
  (p.cycle rewardRate ⟨who, none, delay⟩).settlement

/-- What a settlement would pay a participant after a number of periods; nothing where it is refused. -/
def owed (p : PoolState) (rewardRate delay : Int) (who : Text) : Int :=
  match settle (p.settlement rewardRate delay who) with
  | .ok settled => settled.debt - (p.holding who).debt
  | .error _ => 0

/-- What the shares of a holding have been credited with beyond its debt, scaled, if that is more than nothing. -/
def claim (p : PoolState) (rewardRate delay : Int) (h : Holding) : Int :=
  max 0 (accumulator (ratio rewardRate p.totalShares) delay p.compensation * h.shares - h.debt * precision)

/-- The scaled claims of all participants together. -/
def liability (p : PoolState) (rewardRate delay : Int) : Int := p.holdings.sum (p.claim rewardRate delay)

theorem claim_nonneg (p : PoolState) (rewardRate delay : Int) (h : Holding) : 0 ≤ p.claim rewardRate delay h :=
  Int.le_max_left 0 _

@[simp] theorem claim_nothing (p : PoolState) (rewardRate delay : Int) (who : Text) :
    p.claim rewardRate delay ⟨who, 0, 0⟩ = 0 := by
  simp [claim]

/-- What a holding's shares have earned beyond its debt is claimed. -/
theorem earned_mul_le (p : PoolState) (rewardRate delay : Int) (h : Holding) :
    (accrued (ratio rewardRate p.totalShares) delay p.compensation h.shares - h.debt) * precision ≤
      p.claim rewardRate delay h := by
  have rounded := accrued_mul_le (ratio rewardRate p.totalShares) delay p.compensation h.shares
  unfold claim
  rw [Int.sub_mul]
  omega

/-- A holding whose debt is what its shares have earned claims less than one unit. -/
theorem claim_lt_of_debt_eq (p : PoolState) (rewardRate delay : Int) {h : Holding}
    (e : h.debt = accrued (ratio rewardRate p.totalShares) delay p.compensation h.shares) :
    p.claim rewardRate delay h < precision := by
  have rounded := lt_accrued_add_one_mul (ratio rewardRate p.totalShares) delay p.compensation h.shares
  have pos := precision_pos
  rw [Int.add_mul, Int.one_mul] at rounded
  unfold claim
  rw [e]
  omega

/-- A settlement pays no more than is claimed. -/
theorem owed_mul_le (p : PoolState) (rewardRate delay : Int) (who : Text) :
    p.owed rewardRate delay who * precision ≤ p.claim rewardRate delay (p.holding who) := by
  unfold owed
  cases h : settle (p.settlement rewardRate delay who) with
  | error f =>
    rw [Int.zero_mul]
    exact p.claim_nonneg rewardRate delay _
  | ok settled =>
    obtain ⟨-, -, -, rfl⟩ := Cycle.settle_settlement.mp h
    exact p.earned_mul_le rewardRate delay (p.holding who)

/-- What settlements would pay distinct participants is claimed. -/
theorem sum_owed_mul_le (p : PoolState) (rewardRate delay : Int) {people : List Text} (distinct : people.Nodup) :
    (people.map (p.owed rewardRate delay)).sum * precision ≤ p.liability rewardRate delay := by
  refine Int.le_trans ?_ (Table.sum_find?_le (fun a _ => p.claim_nonneg rewardRate delay a) distinct)
  rw [← List.sum_map_mul_right]
  refine List.sum_le_sum fun who _ => ?_
  rw [elim_find?_holding p who (p.claim_nothing rewardRate delay who)]
  exact p.owed_mul_le rewardRate delay who

/-- A claim rises by the ratio of each share in every period. -/
theorem claim_later (p : PoolState) {rewardRate delay later : Int} (rate : 0 ≤ ratio rewardRate p.totalShares)
    (le : delay ≤ later) {h : Holding} (held : 0 ≤ h.shares) :
    p.claim rewardRate later h ≤
      p.claim rewardRate delay h + ratio rewardRate p.totalShares * (later - delay) * h.shares := by
  have gain : 0 ≤ ratio rewardRate p.totalShares * (later - delay) * h.shares :=
    Int.mul_nonneg (Int.mul_nonneg rate (Int.sub_nonneg_of_le le)) held
  unfold claim
  rw [accumulator_later _ delay, Int.add_mul]
  omega

end PoolState

namespace Reached

variable {rewardRate : Int} {p : PoolState} {log : List Entry}

/-- The liability of a pool rises by at most the scaled rate in every period. -/
theorem liability_later (h : Reached rewardRate p log) (rate : 0 ≤ rewardRate) {delay later : Int}
    (le : delay ≤ later) :
    p.liability rewardRate later ≤ p.liability rewardRate delay + rewardRate * (later - delay) * precision := by
  have rise : p.liability rewardRate later ≤ p.holdings.sum fun a =>
      p.claim rewardRate delay a + ratio rewardRate p.totalShares * (later - delay) * a.shares :=
    Table.sum_le_sum fun a ha =>
      p.claim_later (ratio_nonneg rate h.totalShares_nonneg) le (h.holdings_nonneg a ha).1
  rw [Table.sum_add, Table.sum_mul_left] at rise
  have total : p.holdings.sum (fun a => a.shares) = p.totalShares := h.sum_shares
  rw [total] at rise
  have released : ratio rewardRate p.totalShares * (later - delay) * p.totalShares ≤
      rewardRate * (later - delay) * precision :=
    calc ratio rewardRate p.totalShares * (later - delay) * p.totalShares
        = (later - delay) * (ratio rewardRate p.totalShares * p.totalShares) := by ring
      _ ≤ (later - delay) * (rewardRate * precision) :=
        Int.mul_le_mul_of_nonneg_left (ratio_mul_le rate) (Int.sub_nonneg_of_le le)
      _ = rewardRate * (later - delay) * precision := by ring
  exact Int.le_trans rise (Int.add_le_add_left released _)

/-- A move takes nothing from the claims of the others, and gives them nothing. The accumulator starts anew only where
there is no share of another or the pool pays nothing. -/
theorem claim_other_le (h : Reached rewardRate p log) {m : Move} (admissible : (p.cycle rewardRate m).Admissible)
    {a : Holding} (ha : a ∈ (p.holdings.erase m.who).rows) :
    (p.store m.who (p.cycle rewardRate m).outcome).claim rewardRate m.delay a ≤ p.claim rewardRate m.delay a := by
  show max 0 ((p.cycle rewardRate m).nextAccumulated * a.shares - a.debt * precision) ≤ _
  by_cases zero : (p.cycle rewardRate m).detachedRatio = 0
  · have nothing : (p.cycle rewardRate m).nextAccumulated * a.shares = 0 := by
      rw [Cycle.nextAccumulated_of_eq_zero zero]
      have held := h.shares_le_detached m.who a ha
      have nonneg := (h.holdings_nonneg a (Table.mem_erase_rows.mp ha).1).1
      by_cases empty : (p.cycle rewardRate m).detachedTotal = 0
      · have : a.shares = 0 := Int.le_antisymm (empty ▸ held) nonneg
        rw [this, Int.mul_zero]
      · have pos : 0 < (p.cycle rewardRate m).detachedTotal :=
          lt_of_le_of_ne admissible.detachedTotal_fits.1 (Ne.symm empty)
        have none : (p.cycle rewardRate m).nextRatio = 0 := ratio_eq_zero_of_le admissible.rewardRate_fits.1 pos zero
          (Int.le_add_of_nonneg_right admissible.nextShares_fits.1)
        rw [none, Int.zero_mul, Int.zero_mul]
    have debt : 0 ≤ a.debt * precision :=
      Int.mul_nonneg (h.holdings_nonneg a (Table.mem_erase_rows.mp ha).1).2 (Int.le_of_lt precision_pos)
    have claimed := p.claim_nonneg rewardRate m.delay a
    rw [nothing]
    omega
  · rw [Cycle.nextAccumulated_of_ne_zero zero]
    exact Int.le_refl _

/-- A move turns liability into its harvest, and rounding adds less than one unit. -/
theorem liability_moved (h : Reached rewardRate p log) {m : Move} {next : PoolState} {r : Rebalanced}
    (accepted : p.attempt rewardRate m = .ok (next, r)) :
    r.harvested * precision + next.liability rewardRate m.delay ≤ p.liability rewardRate m.delay + precision := by
  obtain ⟨admissible, rfl, rfl⟩ := attempt_eq_ok_iff.mp accepted
  have before := Table.sum_erase p.holdings (p.claim rewardRate m.delay) m.who
  rw [elim_find?_holding p m.who (p.claim_nothing rewardRate m.delay m.who)] at before
  have others : (p.holdings.erase m.who).sum ((p.store m.who (p.cycle rewardRate m).outcome).claim rewardRate m.delay) ≤
      (p.holdings.erase m.who).sum (p.claim rewardRate m.delay) :=
    Table.sum_le_sum fun a ha => h.claim_other_le admissible ha
  have paid : (p.cycle rewardRate m).outcome.harvested * precision ≤
      p.claim rewardRate m.delay (p.holding m.who) := p.earned_mul_le rewardRate m.delay (p.holding m.who)
  have rest := claim_lt_of_debt_eq (p.store m.who (p.cycle rewardRate m).outcome) rewardRate m.delay
    (h := ⟨m.who, (p.cycle rewardRate m).nextShares, (p.cycle rewardRate m).nextDebt⟩) rfl
  have after : (p.store m.who (p.cycle rewardRate m).outcome).liability rewardRate m.delay =
      (p.holdings.erase m.who).sum ((p.store m.who (p.cycle rewardRate m).outcome).claim rewardRate m.delay) +
        (p.store m.who (p.cycle rewardRate m).outcome).claim rewardRate m.delay
          ⟨m.who, (p.cycle rewardRate m).nextShares, (p.cycle rewardRate m).nextDebt⟩ :=
    Table.sum_insert_eq p.holdings _ ⟨m.who, (p.cycle rewardRate m).nextShares, (p.cycle rewardRate m).nextDebt⟩
  rw [after]
  unfold liability
  omega

/-- What has been harvested and what is claimed stay within what the stream has released, and one unit a move. -/
theorem harvested_and_liability_le (h : Reached rewardRate p log) (rate : 0 ≤ rewardRate) {delay : Int}
    (pos : 0 ≤ delay) (latest : Until log delay) :
    harvested log * precision + p.liability rewardRate delay ≤ (rewardRate * delay + log.length) * precision := by
  induction h generalizing delay with
  | start => simpa [harvested, liability, PoolState.empty] using
      Int.mul_nonneg (Int.mul_nonneg rate pos) (Int.le_of_lt precision_pos)
  | @moved p next log m r before last accepted ih =>
    have entry : (⟨m, r⟩ : Entry) ∈ log ++ [⟨m, r⟩] := List.mem_append_right log (List.mem_singleton_self _)
    have since : m.delay ≤ delay := latest _ entry
    have nonneg : 0 ≤ m.delay := (attempt_eq_ok_iff.mp accepted).1.delay_fits.1
    have until_then := ih nonneg last
    have now := before.liability_moved accepted
    have later := (before.moved last accepted).liability_later rate since
    have sum : harvested (log ++ [⟨m, r⟩]) = harvested log + r.harvested := by simp [harvested]
    have count : ((log ++ [(⟨m, r⟩ : Entry)]).length : Int) = log.length + 1 := by simp
    rw [sum, count]
    linarith

end Reached

/-- What all participants have harvested in a history, and what settlements would still pay them, is at most what the
stream has released and one unit for each successful move. -/
theorem harvested_and_owed_le {rewardRate : Int} {p : PoolState} {log : List Entry} (h : Reached rewardRate p log)
    (rate : 0 ≤ rewardRate) {delay : Int} (pos : 0 ≤ delay) (latest : Until log delay) {people : List Text}
    (distinct : people.Nodup) :
    harvested log + (people.map (p.owed rewardRate delay)).sum ≤ rewardRate * delay + log.length := by
  have bound := h.harvested_and_liability_le rate pos latest
  have owed := p.sum_owed_mul_le rewardRate delay distinct
  refine Int.le_of_mul_le_mul_right ?_ precision_pos
  rw [Int.add_mul]
  omega

/-- Whatever the stream's rate and whatever a timely history does, the harvests, together with what settlements at a
delay not before the last successful move would still pay any distinct participants, are at most what the stream has
released by then, one unit for each successful move and one for each participant who has moved. -/
theorem harvests_and_owed_le_released {rewardRate : Int} (rate : 0 ≤ rewardRate) {moves : List Move}
    (timely : Timely rewardRate moves) {delay : Int} (pos : 0 ≤ delay)
    (latest : Until (empty.journal rewardRate moves) delay) {people : List Text} (distinct : people.Nodup) :
    harvested (empty.journal rewardRate moves) + (people.map ((empty.run rewardRate moves).owed rewardRate delay)).sum ≤
      rewardRate * delay + (empty.journal rewardRate moves).length +
        (movers (empty.journal rewardRate moves)).length := by
  have bound := harvested_and_owed_le (reached_run timely) rate pos latest distinct
  omega

/-- Two stakers, harvests of both, an attempt that exceeds the width of shares, and an exit. -/
def twoStakers : List Move :=
  [⟨"a", some 10, 0⟩, ⟨"a", none, 1⟩, ⟨"b", some 20, 1⟩, ⟨"b", some (2 ^ 64), 3⟩, ⟨"a", none, 4⟩, ⟨"b", some 0, 5⟩]

/-- Two stakers, a harvest by each, a refused attempt and an exit. Two periods later 465 units have been harvested and
234 are still owed, of 700 that are released, with five units for the moves and two for those who made them. -/
theorem harvests_and_owed_le_released_of_two :
    harvested (empty.journal 100 twoStakers) = 465 ∧
      (["a", "b"].map ((empty.run 100 twoStakers).owed 100 7)).sum = 234 ∧
      (empty.journal 100 twoStakers).length = 5 ∧ (movers (empty.journal 100 twoStakers)).length = 2 ∧
      harvested (empty.journal 100 twoStakers) + (["a", "b"].map ((empty.run 100 twoStakers).owed 100 7)).sum ≤
        100 * 7 + (empty.journal 100 twoStakers).length + (movers (empty.journal 100 twoStakers)).length :=
  ⟨by decide +kernel, by decide +kernel, by decide +kernel, by decide +kernel,
    harvests_and_owed_le_released (by decide) (by decide +kernel) (by decide) (by decide +kernel) (by decide)⟩

end YieldPool.Reward
