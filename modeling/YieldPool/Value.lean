import YieldPool.Binary64
import YieldPool.Text

/-!
# Values

What a caller hands over before anything has been checked: null, truth values, integers, floating point numbers,
texts, bytes, the statuses of pools, lists, and dictionaries with keys of any kind. A sequence may also be a tuple or a
double-ended queue, and a mapping may be a read-only view of a dictionary. A dictionary keeps its entries in the order
in which their keys came first; `Entries.set` keeps the keys distinct.
-/

namespace YieldPool

/-- Whether a pool takes stake and pays rewards. -/
inductive PoolStatus where
  | initialized | frozen
deriving DecidableEq, Repr

/-- The statuses by name. -/
def PoolStatus.name : PoolStatus → Text
  | .initialized => "INITIALIZED"
  | .frozen => "FROZEN"

/-- A value whose shape has not been checked. -/
inductive Value where
  | null
  | bool (b : Bool)
  | int (n : Int)
  | float (x : Binary64)
  | text (t : Text)
  | bytes (bs : List UInt8)
  /-- A status itself, which is not the text that names it. -/
  | status (s : PoolStatus)
  | list (items : List Value)
  | tuple (items : List Value)
  /-- A double-ended queue: a sequence that is neither a list nor a tuple. -/
  | queue (items : List Value)
  | dictionary (entries : List (Value × Value))
  /-- A read-only view of a dictionary: a mapping that is no dictionary. -/
  | view (entries : List (Value × Value))
deriving Inhabited

/-- The kinds of values. -/
inductive Kind where
  | null | bool | int | float | text | bytes | status | list | tuple | queue | dictionary | view
deriving DecidableEq, Repr

/-- The name of a kind in messages. -/
def Kind.name : Kind → Text
  | .null => "NoneType"
  | .bool => "bool"
  | .int => "int"
  | .float => "float"
  | .text => "str"
  | .bytes => "bytes"
  | .status => "PoolStatus"
  | .list => "list"
  | .tuple => "tuple"
  | .queue => "deque"
  | .dictionary => "dict"
  | .view => "mappingproxy"

/-- The name of a kind with that of the module that defines it, if that is not built in. -/
def Kind.fullName : Kind → Text
  | .status => "farmledger.state.records.PoolStatus"
  | .queue => "collections.deque"
  | kind => kind.name

/-- The kind of a value. -/
def Value.kind : Value → Kind
  | .null => .null
  | .bool _ => .bool
  | .int _ => .int
  | .float _ => .float
  | .text _ => .text
  | .bytes _ => .bytes
  | .status _ => .status
  | .list _ => .list
  | .tuple _ => .tuple
  | .queue _ => .queue
  | .dictionary _ => .dictionary
  | .view _ => .view

/-- A number as arithmetic sees it: an integer, or a rounded number. -/
inductive Number where
  | exact (n : Int)
  | rounded (x : Binary64)
deriving DecidableEq, Repr

namespace Number

/-- The place of a number on the line: first minus or plus one for the infinities and zero between them, then the
number in units of 2^-1074. What is not a number has no place. -/
def place? : Number → Option (Int × Int)
  | .exact n => some (0, n * Binary64.one)
  | .rounded (.finite negative units) => some (0, Binary64.signedUnits negative units)
  | .rounded (.infinite negative) => some (if negative then -1 else 1, 0)
  | .rounded .nan => none

/-- Equality by exact value. -/
def same (a b : Number) : Bool :=
  match a.place?, b.place? with
  | some p, some q => decide (p = q)
  | _, _ => false

/-- The strict order by exact value. -/
def below (a b : Number) : Bool :=
  match a.place?, b.place? with
  | some (a, m), some (b, n) => decide (a < b ∨ (a = b ∧ m < n))
  | _, _ => false

/-- The order by exact value. -/
def atMost (a b : Number) : Bool := a.below b || a.same b

/-- Integers are ordered as integers. -/
@[simp] theorem below_exact (m n : Int) : (exact m).below (.exact n) = decide (m < n) := by
  have scaled : m * Binary64.one < n * Binary64.one ↔ m < n := Int.mul_lt_mul_right (by decide +kernel)
  refine decide_eq_decide.mpr ⟨fun h => ?_, fun h => Or.inr ⟨rfl, scaled.mpr h⟩⟩
  rcases h with h | h
  · exact absurd h (Int.lt_irrefl 0)
  · exact scaled.mp h.2

/-- Integers are equal as integers. -/
@[simp] theorem same_exact (m n : Int) : (exact m).same (.exact n) = decide (m = n) := by
  have scaled : m * Binary64.one = n * Binary64.one ↔ m = n := Int.mul_eq_mul_right_iff (by decide +kernel)
  refine decide_eq_decide.mpr ⟨fun h => scaled.mp (congrArg Prod.snd h), fun h => ?_⟩
  rw [h]

/-- Whole numbers are compared as integers. -/
@[simp] theorem atMost_exact (m n : Int) : (exact m).atMost (.exact n) = decide (m ≤ n) := by
  simp only [atMost, below_exact, same_exact]
  rw [← Bool.decide_or]
  congr 1
  exact propext Int.le_iff_lt_or_eq.symm

end Number

namespace Number

/-- The number with the other sign. -/
def neg : Number → Number
  | .exact n => .exact (-n)
  | .rounded x => .rounded x.neg

/-- A number as a value. -/
def value : Number → Value
  | .exact n => .int n
  | .rounded x => .float x

end Number

namespace Value

mutual

/-- Whether a value can be a key: what can be changed cannot, nor can what shows or holds such a value. -/
def isKey : Value → Bool
  | .list _ | .queue _ | .dictionary _ | .view _ => false
  | .tuple items => areKeys items
  | _ => true
termination_by structural v => v

/-- Whether all items of a tuple can be keys. -/
def areKeys : List Value → Bool
  | [] => true
  | x :: rest => isKey x && areKeys rest
termination_by structural items => items

end

/-- The number that a value stands for in arithmetic; truth values count as one and zero. -/
def number? : Value → Option Number
  | .bool b => some (.exact (if b then 1 else 0))
  | .int n => some (.exact n)
  | .float x => some (.rounded x)
  | _ => none

mutual

/-- Whether two dictionary keys are one key: numbers by exact value, tuples item by item, other keys by identity. -/
def sameKey : Value → Value → Bool
  | .null, .null => true
  | .text t, .text u => decide (t = u)
  | .bytes b, .bytes c => decide (b = c)
  | .status s, .status r => decide (s = r)
  | .tuple xs, .tuple ys => sameKeys xs ys
  | a, b =>
    match a.number?, b.number? with
    | some m, some n => m.same n
    | _, _ => false
termination_by structural v => v

/-- Whether the items of two tuples are the same keys, one by one. -/
def sameKeys : List Value → List Value → Bool
  | [], [] => true
  | x :: xs, y :: ys => sameKey x y && sameKeys xs ys
  | _, _ => false
termination_by structural items => items

end

/-- Whether a value is the number one: the integer, the rounded number or the truth value. -/
def isOne (v : Value) : Bool :=
  match v.number? with
  | some n => n.same (.exact 1)
  | none => false

/-- The entries of a dictionary. -/
abbrev Entries := List (Value × Value)

/-- The entries of a mapping: a dictionary, or a view of one. -/
def mapping? : Value → Option Entries
  | .dictionary entries | .view entries => some entries
  | _ => none

/-- The items of a sequence that is neither a text nor bytes: a list, a tuple or a queue. -/
def sequence? : Value → Option (List Value)
  | .list items | .tuple items | .queue items => some items
  | _ => none

namespace Entries

/-- The value under a text. -/
def get? (entries : Entries) (name : Text) : Option Value :=
  (entries.find? fun entry => match entry.1 with
    | .text t => decide (t = name)
    | _ => false).map (·.2)

/-- The value under a text, or null. -/
def getD (entries : Entries) (name : Text) : Value := (entries.get? name).getD .null

/-- The entries with a value put under a key: a key that is there keeps its place and its form. -/
def set (entries : Entries) (key value : Value) : Entries :=
  match entries with
  | [] => [(key, value)]
  | (k, v) :: rest => if k.sameKey key then (k, value) :: rest else (k, v) :: set rest key value

/-- The entries of pairs written one after the other. -/
def ofPairs (pairs : List (Value × Value)) : Entries := pairs.foldl (fun entries pair => entries.set pair.1 pair.2) []

/-- The entries of the first dictionary, overwritten and extended by those of the second. -/
def merge (entries others : Entries) : Entries := others.foldl (fun entries pair => entries.set pair.1 pair.2) entries

/-- The keys in order. -/
def keys (entries : Entries) : List Value := entries.map (·.1)

end Entries

end Value

end YieldPool
