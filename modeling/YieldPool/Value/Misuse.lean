import YieldPool.Failure
import YieldPool.Text.Numeral
import YieldPool.Value

/-!
# Using a value as what it is not

The steps by which a value is read as something else, with the causes for which this fails: going through its items,
taking an entry by name, and turning it into an integer or adding it as a number.
-/

namespace YieldPool

/-- Why a value could not be used in some way. -/
inductive Misuse where
  /-- Optional entries were sought in a value that is not a mapping. -/
  | noFields
  /-- The value has no items to go through. -/
  | noItems
  /-- The value has no entries to take by name. -/
  | noEntries
  /-- The mapping lacks an entry. -/
  | noEntry (name : Text)
  /-- The value cannot be a member of a set. -/
  | noMember
  /-- The values have no order. -/
  | noOrder
  /-- The value takes no part in arithmetic. -/
  | noArithmetic
  /-- The value is of a kind that never stands for an integer. -/
  | noInteger
  /-- The text does not write an integer. -/
  | noNumeral
  /-- What is not a number has no whole part. -/
  | noWholePart
  /-- The number is too large for the conversion. -/
  | tooLarge
  /-- The sequence would have more items than can be kept. -/
  | noRoom
  /-- Not as many items as wanted. -/
  | wrongCount
  /-- A field is left out that has no default, or there is one that is not known. -/
  | wrongFields
deriving DecidableEq, Repr

/-- The kind of a misuse. -/
def Misuse.kind : Misuse → FailureKind
  | .noFields => .missingField
  | .noItems | .noEntries | .noMember | .noOrder | .noArithmetic | .noInteger | .wrongFields => .type
  | .noEntry _ => .missingEntry
  | .noNumeral | .noWholePart | .wrongCount => .value
  | .tooLarge => .overflow
  | .noRoom => .memory

/-- The sum of two numbers, rounded where one of them is. -/
def Number.add : Number → Number → Except Misuse Number
  | .exact m, .exact n => .ok (.exact (m + n))
  | .rounded x, .rounded y => .ok (.rounded (x.add y))
  | .exact m, .rounded y =>
    match Binary64.ofInt? m with
    | some x => .ok (.rounded (x.add y))
    | none => .error .tooLarge
  | .rounded x, .exact n =>
    match Binary64.ofInt? n with
    | some y => .ok (.rounded (x.add y))
    | none => .error .tooLarge

/-- The difference of two numbers, rounded where one of them is. -/
def Number.sub (a b : Number) : Except Misuse Number := a.add b.neg

namespace Value

/-- The items of a value: those of a sequence, the keys of a mapping, code points as texts, and bytes as integers. -/
def items : Value → Except Misuse (List Value)
  | .list items | .tuple items | .queue items => .ok items
  | .dictionary entries | .view entries => .ok (Entries.keys entries)
  | .text t => .ok (t.map fun c => .text [c])
  | .bytes bs => .ok (bs.map fun b => .int b.toNat)
  | _ => .error .noItems

/-- The entries of a mapping. -/
def entries (v : Value) : Except Misuse Entries := orRefuse v.mapping? .noFields

/-- The entry of a mapping under a name, or a value to use in its stead. -/
def fieldOr (v : Value) (name : Text) (absent : Value) : Except Misuse Value := do
  let entries ← v.entries
  return (entries.get? name).getD absent

/-- The entry of a mapping under a name. -/
def entry (v : Value) (name : Text) : Except Misuse Value := do
  let entries ← orRefuse v.mapping? .noEntries
  orRefuse (entries.get? name) (.noEntry name)

/-- The number of a value in arithmetic. -/
def number (v : Value) : Except Misuse Number :=
  match v.number? with
  | some n => .ok n
  | none => .error .noArithmetic

/-- The sum of numbers, from left to right. -/
def sum (items : List Value) : Except Misuse Number :=
  items.foldlM (fun total item => do total.add (← item.number)) (.exact 0)

/-- The integer that a value stands for: a number without its fraction, a text or bytes read as a written integer. -/
def toInt : Value → Except Misuse Int
  | .bool b => .ok (if b then 1 else 0)
  | .int n => .ok n
  | .float (.finite negative units) => .ok (Binary64.signedUnits negative (units / Binary64.one))
  | .float .nan => .error .noWholePart
  | .float (.infinite _) => .error .tooLarge
  | .text t =>
    match t.int? with
    | some n => .ok n
    | none => .error .noNumeral
  | .bytes bs =>
    match Text.int? (bs.map fun b => CodePoint.ofNat (if b.toNat < 0x80 then b.toNat else 0)) with
    | some n => .ok n
    | none => .error .noNumeral
  | _ => .error .noInteger

end Value

end YieldPool
