import YieldPool.Reward.Rebalance
import YieldPool.Table

/-!
# Histories of a pool

A pool starts empty: no shares, no compensation, and every participant without shares or debt. A history is a list of
moves; a move that succeeds changes the pool and the mover's holding, and one that is refused changes nothing.

A pool and its participants are consistent when the total is the sum of the shares, total, compensation and debts fit
their widths, and an empty pool carries no compensation. `Books.violations` lists what is not so, in the order of
`Violation.all`.
-/

namespace YieldPool.Reward

/-! ## Books -/

/-- The numbers of a pool and of its participants that have to agree. -/
structure Books where
  totalShares : Int
  compensation : Int
  shares : List Int
  debts : List Int
deriving DecidableEq, Repr

/-- The shares of all participants together. -/
def Books.sharesHeld (b : Books) : Int := b.shares.foldr (fun shares total => shares + total) 0

/-- Whether one of the rules holds. -/
def Books.obeys (b : Books) : Violation → Bool
  | .totalMatchesParticipants => decide (b.totalShares = b.sharesHeld)
  | .totalFitsU64 => decide (Width.u64.Fits b.totalShares)
  | .compensationFitsI128 => decide (Width.i128.Fits b.compensation)
  | .emptyPoolUncompensated => decide (b.totalShares = 0 → b.compensation = 0)
  | .debtsFitU128 => b.debts.all fun debt => decide (Width.u128.Fits debt)

/-- The rules that do not hold. -/
def Books.violations (b : Books) : List Violation := Violation.all.filter fun v => !b.obeys v

/-- All rules hold. -/
def Books.Consistent (b : Books) : Prop := ∀ v, b.obeys v = true

/-- Nothing is violated exactly when all rules hold. -/
theorem Books.violations_eq_nil_iff (b : Books) : b.violations = [] ↔ b.Consistent := by
  simp only [violations, List.filter_eq_nil_iff, Consistent, Bool.not_eq_true', Bool.not_eq_false]
  exact ⟨fun h v => h v (by cases v <;> simp [Violation.all]), fun h v _ => h v⟩

/-! ## Moves -/

/-- One participant's shares and debt. -/
structure Holding where
  who : Text
  shares : Int
  debt : Int
deriving DecidableEq, Repr

/-- A pool with the holdings of everybody who has moved. -/
structure PoolState where
  totalShares : Int
  compensation : Int
  holdings : Table Holding.who
deriving DecidableEq

/-- A participant's attempt to hold a number of shares, or to harvest, after a number of periods. -/
structure Move where
  who : Text
  nextShares : Option Int
  delay : Int
deriving DecidableEq, Repr

namespace PoolState

/-- The pool before any move. -/
def empty : PoolState := ⟨0, 0, Table.empty⟩

/-- A participant's holding; nothing for who has not moved. -/
def holding (p : PoolState) (who : Text) : Holding := (p.holdings.find? who).getD ⟨who, 0, 0⟩

/-- The cycle that a move asks for; a harvest asks for the shares held. -/
def cycle (p : PoolState) (rewardRate : Int) (m : Move) : Cycle :=
  let held := p.holding m.who
  ⟨held.shares, held.debt, p.compensation, m.delay, rewardRate, p.totalShares, m.nextShares.getD held.shares⟩

/-- The pool with the outcome of a cycle stored. -/
def store (p : PoolState) (who : Text) (r : Rebalanced) : PoolState :=
  ⟨r.totalShares, r.position.compensation, p.holdings.insert ⟨who, r.position.shares, r.position.debt⟩⟩

/-- The pool after a move and the outcome of the cycle. -/
def attempt (p : PoolState) (rewardRate : Int) (m : Move) : Except Fault (PoolState × Rebalanced) := do
  let r ← rebalance (p.cycle rewardRate m)
  return (p.store m.who r, r)

/-- The pool after a move that may have been refused. -/
def after (p : PoolState) (rewardRate : Int) (m : Move) : PoolState :=
  match p.attempt rewardRate m with
  | .ok (next, _) => next
  | .error _ => p

/-- The pool after a history. -/
def run (p : PoolState) (rewardRate : Int) (moves : List Move) : PoolState :=
  moves.foldl (fun p m => p.after rewardRate m) p

/-- The outcomes of the moves of a history, refusals included. -/
def outcomes (p : PoolState) (rewardRate : Int) : List Move → List (Except Fault Rebalanced)
  | [] => []
  | m :: rest => (p.attempt rewardRate m).map (·.2) :: outcomes (p.after rewardRate m) rewardRate rest

/-- The numbers that have to agree. -/
def books (p : PoolState) : Books :=
  ⟨p.totalShares, p.compensation, p.holdings.rows.map (·.shares), p.holdings.rows.map (·.debt)⟩

end PoolState

end YieldPool.Reward
