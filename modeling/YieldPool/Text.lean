import YieldPool.KeyOrder

/-!
# Texts

A text is a list of Unicode code points. A lone surrogate is a code point too, so a text can hold what no UTF-8
document can; `isWellFormed` tells those that hold none. Lengths count code points and the order of texts is that of
`KeyOrder` on lists of code points.
-/

namespace YieldPool

/-- A Unicode code point, surrogates included. -/
abbrev CodePoint := Fin 0x110000

namespace CodePoint

/-- The code point of a character. -/
def ofChar (c : Char) : CodePoint :=
  ⟨c.toNat, by
    have e : c.toNat = c.val.toNat := rfl
    rcases c.valid with h | h <;> omega⟩

/-- The code point with a number, and that of NUL for a number beyond the last one. -/
def ofNat (n : Nat) : CodePoint := if h : n < 0x110000 then ⟨n, h⟩ else ⟨0, by decide⟩

/-- Surrogates are code points reserved for encoding others in pairs. -/
def isSurrogate (c : CodePoint) : Bool := decide (0xD800 ≤ c.val ∧ c.val ≤ 0xDFFF)

/-- The code points below 128. -/
def isAscii (c : CodePoint) : Bool := decide (c.val < 0x80)

/-- The bytes of a code point in UTF-8: one below 0x80, two below 0x800, three below 0x10000 and four above. -/
def utf8 (c : CodePoint) : List UInt8 :=
  let n := c.val
  if n < 0x80 then [UInt8.ofNat n]
  else if n < 0x800 then [UInt8.ofNat (0xC0 + n / 0x40), UInt8.ofNat (0x80 + n % 0x40)]
  else if n < 0x10000 then
    [UInt8.ofNat (0xE0 + n / 0x1000), UInt8.ofNat (0x80 + n / 0x40 % 0x40), UInt8.ofNat (0x80 + n % 0x40)]
  else
    [UInt8.ofNat (0xF0 + n / 0x40000), UInt8.ofNat (0x80 + n / 0x1000 % 0x40), UInt8.ofNat (0x80 + n / 0x40 % 0x40),
      UInt8.ofNat (0x80 + n % 0x40)]

/-- A digit of a number in base sixteen, in lower case. -/
def hexDigit (n : Nat) : CodePoint := ofNat (if n < 10 then 0x30 + n else 0x57 + n)

end CodePoint

/-- A list of code points. -/
abbrev Text := List CodePoint

namespace Text

/-- The code points of a string. -/
def ofString (s : String) : Text := s.toList.map CodePoint.ofChar

instance : Coe String Text := ⟨ofString⟩

/-- The characters of a text as a string, with the replacement character for a lone surrogate. -/
def toString (t : Text) : String :=
  String.ofList (t.map fun c => if c.isSurrogate then '\uFFFD' else Char.ofNat c.val)

/-- A text without surrogates, one that a UTF-8 document can hold. -/
def isWellFormed (t : Text) : Bool := t.all fun c => !c.isSurrogate

/-- The bytes of a text in UTF-8. -/
def utf8 (t : Text) : List UInt8 := t.flatMap CodePoint.utf8

/-- The decimal digits of a natural number. -/
def ofNat (n : Nat) : Text := (Nat.toDigits 10 n).map CodePoint.ofChar

/-- The decimal digits of an integer, after a minus sign where it is negative. -/
def ofInt : Int → Text
  | .ofNat n => ofNat n
  | .negSucc n => "-" ++ ofNat (n + 1)

/-- The texts in a row with a separator between neighbours. -/
def joinWith (separator : Text) : List Text → Text
  | [] => []
  | [t] => t
  | t :: rest => t ++ separator ++ joinWith separator rest

/-- A number in base sixteen with leading zeros up to a width; digits beyond the width are dropped. -/
def hex (width n : Nat) : Text :=
  match width with
  | 0 => []
  | w + 1 => hex w (n / 16) ++ [CodePoint.hexDigit (n % 16)]

/-- The texts in their order. -/
def sort (texts : List Text) : List Text := KeyOrder.sortBy id texts

/-- A text without the code points of a class at its two ends. -/
def trim (blank : CodePoint → Bool) (t : Text) : Text :=
  ((t.dropWhile blank).reverse.dropWhile blank).reverse

end Text

end YieldPool
