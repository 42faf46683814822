import YieldPool.Failure
import YieldPool.Text

/-!
# Storage widths and refusals of the reward engine

Arithmetic is done on integers of any size; what is stored fits one of three widths, and `Width.Fits` says when an
integer does. A step of the reward engine yields a new position or one of the causes listed here, each of which has a
class and a message.
-/

namespace YieldPool

/-! ## Widths -/

/-- The widths in which numbers are stored. -/
inductive Width where
  | u64 | u128 | i128
deriving DecidableEq, Repr

namespace Width

/-- The least number of a width. -/
def least : Width → Int
  | .u64 | .u128 => 0
  | .i128 => -170141183460469231731687303715884105728

/-- The greatest number of a width. -/
def greatest : Width → Int
  | .u64 => 18446744073709551615
  | .u128 => 340282366920938463463374607431768211455
  | .i128 => 170141183460469231731687303715884105727

/-- The name of a width in messages. -/
def name : Width → Text
  | .u64 => "u64"
  | .u128 => "u128"
  | .i128 => "i128"

/-- A number fits a width when it lies between the two ends. -/
def Fits (w : Width) (n : Int) : Prop := w.least ≤ n ∧ n ≤ w.greatest

instance (w : Width) (n : Int) : Decidable (w.Fits n) := inferInstanceAs (Decidable (_ ∧ _))

end Width

/-! ## Causes -/

/-- The classes by name. -/
def FaultCode.name : FaultCode → Text
  | .accountingPrecondition => "accounting_precondition"
  | .nonMonotonicDebt => "non_monotonic_debt"
  | .numericOverflow => "numeric_overflow"
  | .staleDebt => "stale_debt"
  | .invariant => "invariant"

/-- What can be wrong with a pool and its participants. -/
inductive Violation where
  | totalMatchesParticipants
  | totalFitsU64
  | compensationFitsI128
  | emptyPoolUncompensated
  | debtsFitU128
deriving DecidableEq, Repr

namespace Violation

/-- The violations in the order in which they are looked for. -/
def all : List Violation :=
  [.totalMatchesParticipants, .totalFitsU64, .compensationFitsI128, .emptyPoolUncompensated, .debtsFitU128]

/-- The name of the rule that is violated. -/
def name : Violation → Text
  | .totalMatchesParticipants => "total_matches_participants"
  | .totalFitsU64 => "total_fits_u64"
  | .compensationFitsI128 => "compensation_fits_i128"
  | .emptyPoolUncompensated => "empty_pool_uncompensated"
  | .debtsFitU128 => "debts_fit_u128"

/-- The names of violations with commas between them. -/
def listed (violations : List Violation) : Text := Text.joinWith ", " (violations.map name)

end Violation

/-- Why the reward engine refuses a step. -/
inductive Fault where
  /-- A quantity does not fit its width. -/
  | unfit (quantity : Text) (width : Width) (n : Int)
  /-- A settlement must leave the total as it is. -/
  | totalChanged (current next : Int)
  /-- A withdrawal must not make the total larger. -/
  | totalGrown (current next : Int)
  /-- A deposit must not make the total smaller. -/
  | totalShrunk (current next : Int)
  /-- A deposit starts without debt. -/
  | debtCarried (debt : Int)
  /-- A participant cannot hold more than the whole pool. -/
  | sharesExceedTotal (shares total : Int)
  /-- The debt computed anew is below the recorded one. -/
  | debtFallen (recorded computed : Int)
  /-- The recorded debt is not the one due at this delay. -/
  | debtUnsettled (recorded expected : Int)
  /-- A pool is not consistent with its participants after a transaction. -/
  | poolInconsistent (poolId : Text) (violations : List Violation)
deriving DecidableEq, Repr

namespace Fault

/-- The class of a refusal. -/
def code : Fault → FaultCode
  | .unfit .. => .numericOverflow
  | .totalChanged .. | .totalGrown .. | .totalShrunk .. | .debtCarried .. | .sharesExceedTotal .. =>
    .accountingPrecondition
  | .debtFallen .. => .nonMonotonicDebt
  | .debtUnsettled .. => .staleDebt
  | .poolInconsistent .. => .invariant

/-- The message of a refusal. -/
def message : Fault → Text
  | .unfit quantity width n => quantity ++ " does not fit " ++ width.name ++ ": " ++ Text.ofInt n
  | .totalChanged current next =>
    "settle must not change total shares: " ++ Text.ofInt current ++ " -> " ++ Text.ofInt next
  | .totalGrown current next =>
    "withdraw cannot grow total shares: " ++ Text.ofInt current ++ " -> " ++ Text.ofInt next
  | .totalShrunk current next =>
    "deposit cannot shrink total shares: " ++ Text.ofInt current ++ " -> " ++ Text.ofInt next
  | .debtCarried debt => "deposit requires zero debt, got " ++ Text.ofInt debt
  | .sharesExceedTotal shares total =>
    "participant shares exceed pool total: " ++ Text.ofInt shares ++ " > " ++ Text.ofInt total
  | .debtFallen recorded computed =>
    "debt would decrease: recorded=" ++ Text.ofInt recorded ++ " computed=" ++ Text.ofInt computed
  | .debtUnsettled recorded expected =>
    "participant not settled: debt=" ++ Text.ofInt recorded ++ " expected=" ++ Text.ofInt expected
  | .poolInconsistent poolId violations =>
    "pool " ++ poolId ++ " invariant violations: " ++ Violation.listed violations

end Fault

/-- The number itself, or a refusal that names the quantity where it does not fit. -/
def Width.check (w : Width) (quantity : Text) (n : Int) : Except Fault Int :=
  if w.Fits n then .ok n else .error (.unfit quantity w n)

/-- A number passes exactly when it fits, and comes out as it is. -/
theorem Width.check_eq_ok_iff {w : Width} {quantity : Text} {n m : Int} :
    w.check quantity n = .ok m ↔ w.Fits n ∧ n = m := by
  by_cases h : w.Fits n <;> simp [check, h]

/-- A number is refused exactly when it does not fit. -/
theorem Width.check_eq_error_iff {w : Width} {quantity : Text} {n : Int} {f : Fault} :
    w.check quantity n = .error f ↔ ¬w.Fits n ∧ .unfit quantity w n = f := by
  by_cases h : w.Fits n <;> simp [check, h]

end YieldPool
