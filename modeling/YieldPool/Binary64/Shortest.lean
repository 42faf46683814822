import YieldPool.Binary64
import YieldPool.Text

/-!
# Shortest decimal text of a floating point number

The text of a finite number has the fewest significant digits, seventeen at most, that read back as the number, and of
these the digits nearest to it. Point and exponent are placed by the record `Layout`: `plain` writes magnitudes from
10^-4 up to 10^16 positionally and others with an exponent of at least two digits.
-/

namespace YieldPool.Binary64

/-- Significant digits and a power of ten. -/
structure Decimal where
  digits : Nat
  exponent : Int
deriving Repr

/-- The bounds in quarter units of the numbers that round to a magnitude; they belong to it where its significand is
even. -/
def roundingBounds (units : Nat) : Nat × Nat :=
  let step := spacing units
  (4 * units - (if units = Nat.pow 2 (Nat.log2 units) ∧ 1 < step then step else 2 * step), 4 * units + 2 * step)

/-- Whether `digits` times the quotient of `scale` and `unscale`, in quarter units, reads back as the magnitude. -/
def readsBack (units scale unscale digits : Nat) : Bool :=
  let (low, high) := roundingBounds units
  let value := digits * scale
  if units / spacing units % 2 = 0 then decide (low * unscale ≤ value ∧ value ≤ high * unscale)
  else decide (low * unscale < value ∧ value < high * unscale)

/-- The digits on the grid of a power of ten that read back as the magnitude: its neighbour below, its neighbour
above, or the nearer one of both, the even one where they are equally near. -/
def onGrid? (units : Nat) (exponent : Int) : Option Nat :=
  let scale := Nat.pow 10 exponent.toNat * (4 * one)
  let unscale := Nat.pow 10 (-exponent).toNat
  let value := 4 * units * unscale
  let below := value / scale
  let hits := (readsBack units scale unscale below, readsBack units scale unscale (below + 1))
  match hits with
  | (true, true) => some (roundDiv value scale)
  | (true, false) => some below
  | (false, true) => some (below + 1)
  | (false, false) => none

/-- The exponent of the first power of ten above a positive magnitude. -/
def decimalMagnitude (units : Nat) : Int :=
  ((Nat.toDigits 10 (units * Nat.pow 10 400 / one)).length : Int) - 400

/-- Divides by ten while the last digit is zero, at most a given number of times. -/
def dropZeros : Nat → Decimal → Decimal
  | 0, d => d
  | fuel + 1, d => if d.digits % 10 = 0 then dropZeros fuel ⟨d.digits / 10, d.exponent + 1⟩ else d

/-- The shortest digits that read back as a positive magnitude. -/
def shortest (units : Nat) : Decimal :=
  let magnitude := decimalMagnitude units
  let grids := (List.range 17).map fun k => magnitude - (k + 1 : Nat)
  match grids.findSome? fun exponent => (onGrid? units exponent).map fun digits => Decimal.mk digits exponent with
  | some d => dropZeros 20 d
  | none => ⟨0, 0⟩

/-- Where point and exponent stand. -/
structure Layout where
  /-- The least power of ten above the number for positional notation. -/
  leastPositional : Int
  /-- The greatest one. -/
  greatestPositional : Int
  /-- The least number of digits of an exponent. -/
  exponentWidth : Nat

/-- Positional from 10^-4 up to 10^16, and two digits of exponent. -/
def plain : Layout := ⟨-3, 16, 2⟩

/-- The text of significant digits with a power of ten. -/
def Layout.place (layout : Layout) (d : Decimal) : Text :=
  let digits := Text.ofNat d.digits
  let point := (digits.length : Int) + d.exponent
  let zeros (n : Nat) : Text := List.replicate n (CodePoint.ofChar '0')
  if layout.leastPositional ≤ point ∧ point ≤ layout.greatestPositional then
    if point ≤ 0 then "0." ++ zeros (-point).toNat ++ digits
    else if digits.length ≤ point.toNat then digits ++ zeros (point.toNat - digits.length) ++ ".0"
    else digits.take point.toNat ++ "." ++ digits.drop point.toNat
  else
    let exponent := point - 1
    let written := Text.ofNat exponent.natAbs
    let fraction : Text := if digits.length = 1 then [] else "." ++ digits.drop 1
    digits.take 1 ++ fraction ++ "e" ++ (if exponent < 0 then "-" else "+") ++
      zeros (layout.exponentWidth - written.length) ++ written

/-- The text of a number. -/
def text : Binary64 → Text
  | .nan => "nan"
  | .infinite negative => if negative then "-inf" else "inf"
  | .finite negative units =>
    let magnitude : Text := if units = 0 then "0.0" else plain.place (shortest units)
    if negative then "-" ++ magnitude else magnitude

end YieldPool.Binary64
