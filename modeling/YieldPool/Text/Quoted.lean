import YieldPool.Text.Printable

/-!
# Quoted texts

The quoted form of a text, as messages show it: single quotes, or double quotes where the text holds a single quote
and no double one. The quote and the backslash are escaped by a backslash, tab, line feed and carriage return by their
letters, and every other code point that is not printable by its number in two, four or eight hexadecimal digits. The
quoted form of bytes has a `b` before it and shows the ASCII range only.
-/

namespace YieldPool.Text

/-- The quotation mark of a quoted form: the single quote, unless only the double one avoids an escape. -/
def quoteMark (t : Text) : CodePoint :=
  if t.contains (CodePoint.ofChar '\'') && !t.contains (CodePoint.ofChar '"') then CodePoint.ofChar '"'
  else CodePoint.ofChar '\''

/-- The escape that both quoted forms share: quotation mark, backslash, tab, line feed, carriage return. -/
def sharedEscape? (mark c : CodePoint) : Option Text :=
  if c = mark || c = CodePoint.ofChar '\\' then some [CodePoint.ofChar '\\', c]
  else if c = CodePoint.ofChar '\t' then some "\\t"
  else if c = CodePoint.ofChar '\n' then some "\\n"
  else if c = CodePoint.ofChar '\r' then some "\\r"
  else none

/-- A code point inside a quoted text. -/
def quoteCodePoint (mark c : CodePoint) : Text :=
  match sharedEscape? mark c with
  | some escape => escape
  | none =>
    if c.isPrintable then [c]
    else if c.val < 0x100 then "\\x" ++ hex 2 c.val
    else if c.val < 0x10000 then "\\u" ++ hex 4 c.val
    else "\\U" ++ hex 8 c.val

/-- A text in quotation marks. -/
def quoted (t : Text) : Text :=
  let mark := quoteMark t
  mark :: t.flatMap (quoteCodePoint mark) ++ [mark]

/-- A byte inside quoted bytes. -/
def quoteByte (mark : CodePoint) (b : UInt8) : Text :=
  let c := CodePoint.ofNat b.toNat
  match sharedEscape? mark c with
  | some escape => escape
  | none => if 0x20 ≤ b.toNat ∧ b.toNat < 0x7F then [c] else "\\x" ++ hex 2 b.toNat

/-- Bytes in quotation marks. -/
def quotedBytes (bytes : List UInt8) : Text :=
  let mark := quoteMark (bytes.map fun b => CodePoint.ofNat b.toNat)
  CodePoint.ofChar 'b' :: mark :: bytes.flatMap (quoteByte mark) ++ [mark]

/-- A list of quoted texts in square brackets. -/
def quotedList (texts : List Text) : Text := "[" ++ joinWith ", " (texts.map quoted) ++ "]"

end YieldPool.Text
