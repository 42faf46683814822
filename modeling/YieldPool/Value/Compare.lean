import YieldPool.Value

/-!
# Comparing values

Numbers are compared by exact value, texts by code point, bytes by byte, and lists, tuples and queues
lexicographically; other pairs of values have no order. Equality is defined for all values, and values of unlike kinds
differ unless both are numbers or both are mappings.
-/

namespace YieldPool.Value

mutual

/-- Whether two values are equal. -/
def same : Value → Value → Bool
  | .null, .null => true
  | .text t, .text u => decide (t = u)
  | .bytes b, .bytes c => decide (b = c)
  | .status s, .status r => decide (s = r)
  | .list xs, .list ys | .tuple xs, .tuple ys | .queue xs, .queue ys => sameItems xs ys
  | .dictionary xs, .dictionary ys | .dictionary xs, .view ys | .view xs, .dictionary ys | .view xs, .view ys =>
    decide (xs.length = ys.length) && sameEntries xs ys
  | a, b =>
    match a.number?, b.number? with
    | some m, some n => m.same n
    | _, _ => false
termination_by structural v => v

/-- Whether two sequences have equal items in the same order. -/
def sameItems : List Value → List Value → Bool
  | [], [] => true
  | x :: xs, y :: ys => same x y && sameItems xs ys
  | _, _ => false
termination_by structural items => items

/-- Whether each entry has an equal entry in another mapping. -/
def sameEntries : List (Value × Value) → List (Value × Value) → Bool
  | [], _ => true
  | (k, v) :: rest, others =>
    (match others.find? fun other => other.1.sameKey k with
      | some other => same v other.2
      | none => false) && sameEntries rest others
termination_by structural entries => entries

end

mutual

/-- Whether a value stands before another one, if the two have an order. -/
def below? : Value → Value → Option Bool
  | .text t, .text u => some (KeyOrder.before t u)
  | .bytes b, .bytes c => some (KeyOrder.before (b.map UInt8.toFin) (c.map UInt8.toFin))
  | .list xs, .list ys | .tuple xs, .tuple ys | .queue xs, .queue ys => itemsBelow? xs ys
  | a, b =>
    match a.number?, b.number? with
    | some m, some n => some (m.below n)
    | _, _ => none
termination_by structural v => v

/-- The first pair of unequal items decides, and a proper initial part stands before the whole. -/
def itemsBelow? : List Value → List Value → Option Bool
  | _, [] => some false
  | [], _ :: _ => some true
  | x :: xs, y :: ys => if x.same y then itemsBelow? xs ys else below? x y
termination_by structural items => items

end

/-- Puts a value before the first one that it stands before. -/
def insertOrdered (v : Value) : List Value → List Value
  | [] => [v]
  | w :: rest => if v.below? w = some true then v :: w :: rest else w :: insertOrdered v rest

/-- The values in their order, if every two of them have one. -/
def sort? (values : List Value) : Option (List Value) :=
  if values.all fun v => values.all fun w => (v.below? w).isSome || v.same w then
    some (values.foldl (fun sorted v => insertOrdered v sorted) [])
  else none

end YieldPool.Value
