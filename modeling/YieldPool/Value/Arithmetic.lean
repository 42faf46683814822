import YieldPool.Value.Misuse

/-!
# Arithmetic with unchecked values

Values calculate as far as their kinds allow. Truth values count as numbers. An integer that meets a rounded number is
rounded first, which fails if it is too large. Texts, bytes, lists, tuples and queues are sequences: a product with an
integer is that many copies, none for a negative integer, and a sum of two sequences of one kind is their join.
Everything else takes no part in arithmetic.

A rope is a list written down as joins and repetitions of other lists. Its length is known without laying it out, so a
repetition too long to be kept can be refused before it is made.
-/

namespace YieldPool

/-! ## Ropes -/

/-- Items one after the other, written down as joins and repetitions. -/
inductive Rope (α : Type) where
  | items (xs : List α)
  | join (first second : Rope α)
  | copies (n : Nat) (r : Rope α)

namespace Rope

variable {α : Type}

/-- The number of items. -/
def length : Rope α → Nat
  | .items xs => xs.length
  | .join first second => first.length + second.length
  | .copies n r => n * r.length

/-- The items in order. Copies of nothing are not laid out one by one, however many they are. -/
def toList : Rope α → List α
  | .items xs => xs
  | .join first second => first.toList ++ second.toList
  | .copies n r => if r.length = 0 then [] else (List.replicate n r.toList).flatten

/-- The greatest index of an item. -/
def greatestIndex : Nat := 9223372036854775807

/-- The most items that a sequence is made with. -/
def capacity : Nat := 4294967296

/-- The copies of a sequence, whose number must be an index however long the sequence is. The cause is given for copies
with more items than there are indices. -/
def times (r : Rope α) (n : Int) (unindexed : Misuse) : Except Misuse (Rope α) :=
  if n < -(greatestIndex : Int) - 1 ∨ (greatestIndex : Int) < n then .error .tooLarge
  else if greatestIndex < n.toNat * r.length then .error unindexed
  else if capacity < n.toNat * r.length then .error .noRoom
  else .ok (.copies n.toNat r)

end Rope

/-! ## Outcomes -/

/-- The outcome of arithmetic as far as it can be told without rounding: an integer, some rounded number, or a
sequence. -/
inductive Outcome where
  | exact (n : Int)
  | rounded
  | text (r : Rope CodePoint)
  | bytes (r : Rope UInt8)
  | list (r : Rope Value)
  | tuple (r : Rope Value)
  | queue (r : Rope Value)

namespace Outcome

/-- The outcome that a value is in arithmetic. -/
def ofValue : Value → Except Misuse Outcome
  | .bool b => .ok (.exact (if b then 1 else 0))
  | .int n => .ok (.exact n)
  | .float _ => .ok .rounded
  | .text t => .ok (.text (.items t))
  | .bytes bs => .ok (.bytes (.items bs))
  | .list items => .ok (.list (.items items))
  | .tuple items => .ok (.tuple (.items items))
  | .queue items => .ok (.queue (.items items))
  | .null | .status _ | .dictionary _ | .view _ => .error .noArithmetic

/-- The value of an outcome, unless it was rounded. -/
def value? : Outcome → Option Value
  | .exact n => some (.int n)
  | .rounded => none
  | .text r => some (.text r.toList)
  | .bytes r => some (.bytes r.toList)
  | .list r => some (.list r.toList)
  | .tuple r => some (.tuple r.toList)
  | .queue r => some (.queue r.toList)

/-- The kind of value that an outcome is. -/
def kind : Outcome → Kind
  | .exact _ => .int
  | .rounded => .float
  | .text _ => .text
  | .bytes _ => .bytes
  | .list _ => .list
  | .tuple _ => .tuple
  | .queue _ => .queue

/-- Two numbers combined. An integer that meets a rounded number is rounded first, which fails if it is too large. -/
def combine (f : Int → Int → Int) : Outcome → Outcome → Except Misuse Outcome
  | .exact m, .exact n => .ok (.exact (f m n))
  | .exact n, .rounded | .rounded, .exact n => if (Binary64.ofInt? n).isSome then .ok .rounded else .error .tooLarge
  | .rounded, .rounded => .ok .rounded
  | _, _ => .error .noArithmetic

/-- The product of two numbers, or copies of a sequence. -/
def times : Outcome → Outcome → Except Misuse Outcome
  | .text r, .exact n | .exact n, .text r => do return .text (← r.times n .tooLarge)
  | .bytes r, .exact n | .exact n, .bytes r => do return .bytes (← r.times n .tooLarge)
  | .list r, .exact n | .exact n, .list r => do return .list (← r.times n .noRoom)
  | .tuple r, .exact n | .exact n, .tuple r => do return .tuple (← r.times n .noRoom)
  | .queue r, .exact n | .exact n, .queue r => do return .queue (← r.times n .noRoom)
  | a, b => combine (· * ·) a b

/-- The sum of two numbers, or the join of two sequences of one kind. -/
def plus : Outcome → Outcome → Except Misuse Outcome
  | .text r, .text s => .ok (.text (.join r s))
  | .bytes r, .bytes s => .ok (.bytes (.join r s))
  | .list r, .list s => .ok (.list (.join r s))
  | .tuple r, .tuple s => .ok (.tuple (.join r s))
  | .queue r, .queue s => .ok (.queue (.join r s))
  | a, b => combine (· + ·) a b

/-- The difference of two numbers. -/
def minus (a b : Outcome) : Except Misuse Outcome := combine (· - ·) a b

/-- The quotient of two numbers, rounded down. The divisor is not zero. -/
def quotient (a b : Outcome) : Except Misuse Outcome := combine Int.fdiv a b

end Outcome

end YieldPool
