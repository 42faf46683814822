import YieldPool.Store

/-!
# Movements of tokens that have not been checked

A ledger takes whole amounts for named accounts. `LooseLedger` takes what a caller hands over: amounts that are truth
values or rounded numbers, and accounts and assets of any kind that can be told apart. It stays a ledger as long as it
is used as one and becomes a list of rows with the first movement that a ledger cannot hold; from then on sums with a
rounded number are rounded.
-/

namespace YieldPool

/-- A row of unchecked balances. -/
structure LooseBalance where
  account : Value
  asset : Value
  amount : Number

/-- A ledger, or rows that a ledger cannot hold. -/
inductive LooseLedger where
  | strict (l : Ledger)
  | loose (rows : List LooseBalance)

namespace LooseBalance

/-- Whether a row is that of an account and an asset. -/
def isFor (b : LooseBalance) (account asset : Value) : Bool := b.account.sameKey account && b.asset.sameKey asset

/-- The row of a balance. -/
def ofBalance (b : Balance) : LooseBalance := ⟨.text b.account, .text b.asset, .exact b.amount⟩

/-- The balance of an account and an asset in rows, which is zero where there is no row. -/
def find (rows : List LooseBalance) (account asset : Value) : Number :=
  match rows.find? fun b => b.isFor account asset with
  | some b => b.amount
  | none => .exact 0

/-- The rows with a balance set. A row keeps its place, a new one comes last, and there is none for zero. -/
def set (rows : List LooseBalance) (account asset : Value) (amount : Number) : List LooseBalance :=
  if amount.same (.exact 0) then rows.filter fun b => !b.isFor account asset
  else if rows.any fun b => b.isFor account asset then
    rows.map fun b => if b.isFor account asset then { b with amount } else b
  else rows ++ [⟨account, asset, amount⟩]

end LooseBalance

namespace LooseLedger

/-- The ledger without balances. -/
def empty : LooseLedger := .strict .empty

/-- The balances as rows. -/
def rows : LooseLedger → List LooseBalance
  | .strict l => l.balances.rows.map LooseBalance.ofBalance
  | .loose rows => rows

/-- What an account holds of an asset. Accounts and assets must be values that can be told apart. -/
def balance (l : LooseLedger) (account asset : Value) : Except Error Number := do
  require (account.isKey = true ∧ asset.isKey = true) (.misuse .noMember)
  return LooseBalance.find l.rows account asset

/-- A number that a movement takes as its amount, which must not be negative. -/
def readAmount (amount : Value) (negative : OperandRefusal) : Except Error Number := do
  let n ← orRefuse amount.number? (.misuse .noOrder)
  require (n.below (.exact 0) = false) (.operand negative)
  return n

/-- Sets a balance in rows, which cannot be negative. -/
def setBalance (l : LooseLedger) (account asset : Value) (amount : Number) : Except Error LooseLedger := do
  require (amount.below (.exact 0) = false) (.operand (.negativeBalance amount.value))
  return .loose (LooseBalance.set l.rows account asset amount)

/-- Adds an unchecked amount to a balance. -/
def credit (l : LooseLedger) (account asset amount : Value) : Except Error LooseLedger :=
  match l, account, asset, amount with
  | .strict l, .text account, .text asset, .int n => do
    let l ← l.credit account asset n
    return .strict l
  | _, _, _, _ => do
    let n ← readAmount amount (.negativeCredit amount)
    let held ← l.balance account asset
    l.setBalance account asset (← held.add n)

/-- Takes an unchecked amount from a balance that covers it. -/
def debit (l : LooseLedger) (account asset amount : Value) : Except Error LooseLedger :=
  match l, account, asset, amount with
  | .strict l, .text account, .text asset, .int n => do
    let l ← l.debit account asset n
    return .strict l
  | _, _, _, _ => do
    let n ← readAmount amount (.negativeDebit amount)
    let held ← l.balance account asset
    require (held.below n = false) (.operand (.insufficient account held.value amount asset))
    l.setBalance account asset (← held.sub n)

/-- Moves an unchecked amount from one account to another: the ledger afterwards, and what stopped the movement. A
movement that is stopped between its two halves has taken the amount all the same. -/
def move (l : LooseLedger) (source target asset amount : Value) : LooseLedger × Option Error :=
  match l.debit source asset amount with
  | .error e => (l, some e)
  | .ok taken =>
    match taken.credit target asset amount with
    | .error e => (taken, some e)
    | .ok moved => (moved, none)

/-- Moves an unchecked amount from one account to another. -/
def transfer (l : LooseLedger) (source target asset amount : Value) : Except Error LooseLedger := do
  let l ← l.debit source asset amount
  l.credit target asset amount

/-- Moves all that an account holds of an asset to another account, and says how much that was, without a fraction. -/
def sweep (l : LooseLedger) (source target asset : Value) : Except Error (LooseLedger × Int) := do
  let held ← l.balance source asset
  let whole := held.value.toInt.toOption.getD 0
  if (Number.exact 0).below held then
    let l ← l.transfer source target asset held.value
    return (l, whole)
  else return (l, whole)

/-- Whether two ledgers hold the same. -/
def same (l m : LooseLedger) : Bool :=
  decide (l.rows.length = m.rows.length) && l.rows.all fun b =>
    m.rows.any fun c => c.isFor b.account b.asset && b.amount.same c.amount

/-- The balances as lists of account, asset and amount in their order, if they have one. -/
def listed (l : LooseLedger) : Except Misuse (List Value) :=
  match Value.sort? (l.rows.map fun b => .list [b.account, b.asset, b.amount.value]) with
  | some sorted => .ok sorted
  | none => .error .noOrder

/-- A ledger in one line: the number of its rows. -/
def summary (l : LooseLedger) : Text := "TokenLedger(" ++ Text.ofNat l.rows.length ++ " entries)"

end LooseLedger

instance : Custody LooseLedger where
  transfer l source target asset amount := l.transfer (.text source) (.text target) (.text asset) (.int amount)
  sweep l source target asset := l.sweep (.text source) (.text target) (.text asset)

end YieldPool
