import YieldPool.Text

/-!
# Written integers

An integer is written in decimal digits of any script, with an optional sign before them, single underscores between
them and blanks around the whole. Leading zeros are allowed.

The digits are the code points of Unicode category Nd. They come in runs of ten, each run holding the digits from zero
to nine of one script in order. The blanks are the white space of Unicode: the code points of bidirectional class B, S
or WS and those of category Zs. They are what is stripped from the two ends of a setting, and, the four ASCII separators
apart, of a written number.
-/

namespace YieldPool

namespace CodePoint

/-- First and last code points of the runs of white space. -/
def blankRuns : List (Nat × Nat) := [
  (0x9, 0xD), (0x1C, 0x20), (0x85, 0x85), (0xA0, 0xA0), (0x1680, 0x1680), (0x2000, 0x200A), (0x2028, 0x2029),
  (0x202F, 0x202F), (0x205F, 0x205F), (0x3000, 0x3000)]

/-- White space, the ASCII separators 0x1C to 0x1F included. -/
def isBlank (c : CodePoint) : Bool := blankRuns.any fun run => decide (run.1 ≤ c.val ∧ c.val ≤ run.2)

/-- White space around a written number: among the ASCII code points the blank and 0x09 to 0x0D only. -/
def isNumeralBlank (c : CodePoint) : Bool :=
  if c.isAscii then decide (c.val = 0x20 ∨ (0x09 ≤ c.val ∧ c.val ≤ 0x0D)) else c.isBlank

example : blankRuns.foldl (fun count run => count + (run.2 + 1 - run.1)) 0 = 29 := by decide

/-- The zeros of the scripts. -/
def digitZeros : List Nat := [
  0x30, 0x660, 0x6F0, 0x7C0, 0x966, 0x9E6, 0xA66, 0xAE6, 0xB66, 0xBE6, 0xC66, 0xCE6, 0xD66, 0xDE6, 0xE50, 0xED0, 0xF20,
  0x1040, 0x1090, 0x17E0, 0x1810, 0x1946, 0x19D0, 0x1A80, 0x1A90, 0x1B50, 0x1BB0, 0x1C40, 0x1C50, 0xA620, 0xA8D0,
  0xA900, 0xA9D0, 0xA9F0, 0xAA50, 0xABF0, 0xFF10, 0x104A0, 0x10D30, 0x11066, 0x110F0, 0x11136, 0x111D0, 0x112F0,
  0x11450, 0x114D0, 0x11650, 0x116C0, 0x11730, 0x118E0, 0x11950, 0x11C50, 0x11D50, 0x11DA0, 0x16A60, 0x16AC0, 0x16B50,
  0x1D7CE, 0x1D7D8, 0x1D7E2, 0x1D7EC, 0x1D7F6, 0x1E140, 0x1E2F0, 0x1E950, 0x1FBF0]

/-- The value of a decimal digit of any script. -/
def digitValue? (c : CodePoint) : Option Nat :=
  (digitZeros.find? fun first => decide (first ≤ c.val ∧ c.val < first + 10)).map fun first => c.val - first

/-- The value of one of the ten ASCII digits. -/
def asciiDigitValue? (c : CodePoint) : Option Nat :=
  if 0x30 ≤ c.val ∧ c.val ≤ 0x39 then some (c.val - 0x30) else none

example : (("0123456789" : Text).map digitValue?) = (List.range 10).map some := by decide

end CodePoint

namespace Text

/-- The value of digits with single underscores between them, added to the digits read before. -/
def unsignedFrom? (value : Nat) : Text → Option Nat
  | [] => some value
  | c :: rest =>
    match c.digitValue? with
    | some digit => unsignedFrom? (10 * value + digit) rest
    | none =>
      if c = CodePoint.ofChar '_' then
        match rest with
        | d :: rest =>
          match d.digitValue? with
          | some digit => unsignedFrom? (10 * value + digit) rest
          | none => none
        | [] => none
      else none

/-- The value of one or more digits with single underscores between them. -/
def unsigned? : Text → Option Nat
  | [] => none
  | c :: rest =>
    match c.digitValue? with
    | some digit => unsignedFrom? digit rest
    | none => none

/-- The integer that a text writes. -/
def int? (t : Text) : Option Int :=
  match trim CodePoint.isNumeralBlank t with
  | [] => none
  | c :: rest =>
    if c = CodePoint.ofChar '-' then (unsigned? rest).map fun n => -(n : Int)
    else if c = CodePoint.ofChar '+' then (unsigned? rest).map Int.ofNat
    else (unsigned? (c :: rest)).map Int.ofNat

end Text

end YieldPool
