/-!
# Binary floating point numbers of 64 bits

Every finite number of the format is a whole multiple of the least positive one, 2^-1074, so a finite number is a sign
and a natural number of these units. Exact results are rounded by `nearest` to a significand of 53 bits, ties to the
even one, and a magnitude of 2^1024 or more becomes infinite.
-/

namespace YieldPool

/-- A binary floating point number; the magnitude of a finite one is counted in units of 2^-1074. -/
inductive Binary64 where
  | nan
  | infinite (negative : Bool)
  | finite (negative : Bool) (units : Nat)
deriving DecidableEq, Repr

namespace Binary64

/-- The number of units in one. -/
def one : Nat := Nat.pow 2 1074

/-- The least magnitude in units that is not finite. -/
def overflow : Nat := Nat.pow 2 2098

/-- The nearest whole number to a quotient, a half going to the even neighbour. -/
def roundDiv (num den : Nat) : Nat :=
  let quotient := num / den
  let twice := 2 * (num % den)
  if twice < den then quotient else if den < twice then quotient + 1 else quotient + quotient % 2

/-- The distance in units between neighbours around a magnitude: a significand has 53 bits. -/
def spacing (units : Nat) : Nat := Nat.pow 2 (Nat.log2 units - 52)

/-- The number of units nearest to a quotient that a significand of 53 bits can hold. -/
def nearestUnits (num den : Nat) : Nat :=
  let step := spacing (num / den)
  roundDiv num (den * step) * step

/-- The number nearest to a quotient of units. -/
def nearest (negative : Bool) (num den : Nat) : Binary64 :=
  let units := nearestUnits num den
  if units < overflow then .finite negative units else .infinite negative

/-- The number nearest to digits times a power of ten. Exponents far out of range are not computed. -/
def ofDecimal (negative : Bool) (digits : Nat) (exponent : Int) : Binary64 :=
  let magnitude := (Nat.toDigits 10 digits).length + exponent
  if digits = 0 ∨ magnitude < -400 then .finite negative 0
  else if 400 < magnitude then .infinite negative
  else nearest negative (digits * Nat.pow 10 exponent.toNat * one) (Nat.pow 10 (-exponent).toNat)

/-- The number nearest to an integer, or none where that is not finite. -/
def ofInt? (n : Int) : Option Binary64 :=
  let units := nearestUnits (n.natAbs * one) 1
  if units < overflow then some (.finite (decide (n < 0)) units) else none

/-- The signed count of units. -/
def signedUnits (negative : Bool) (units : Nat) : Int := if negative then -(units : Int) else units

/-- The rounded sum. Infinities of unlike sign have no sum, and zero is negative only as the sum of negative zeros. -/
def add : Binary64 → Binary64 → Binary64
  | .finite s m, .finite t n =>
    let sum := signedUnits s m + signedUnits t n
    nearest (decide (sum < 0) || (sum = 0 && s && t)) sum.natAbs 1
  | .infinite s, .infinite t => if s = t then .infinite s else .nan
  | .infinite s, .finite _ _ | .finite _ _, .infinite s => .infinite s
  | .nan, _ | _, .nan => .nan

/-- The number with the other sign. -/
def neg : Binary64 → Binary64
  | .nan => .nan
  | .infinite negative => .infinite (!negative)
  | .finite negative units => .finite (!negative) units

end Binary64

end YieldPool
