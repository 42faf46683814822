import YieldPool.Text.Numeral
import YieldPool.Value

/-!
# Reading JSON

A document is first split into tokens, then read from them. Beyond the standard, `NaN`, `Infinity` and `-Infinity` are
numbers, a lone surrogate may be escaped, and of two members with one name the later value takes the place of the
earlier. A number with a fraction or an exponent is read as a floating point number, any other as an integer. Arrays and
objects may be nested up to a depth; which fault of a text is reported, depth or form, is decided by what comes first.
-/

namespace YieldPool.Json

/-- Why a text cannot be read. -/
inductive Unreadable where
  /-- The text is no document. -/
  | malformed
  /-- Arrays and objects are nested too deeply. -/
  | tooDeep
deriving DecidableEq, Repr

/-- The units of a document: brackets, separators, and the values without parts. A last one stands for what is none of
them. -/
inductive Token where
  | openArray | closeArray | openObject | closeObject | comma | colon
  | atom (v : Value)
  | stray

/-- The value of a digit in base sixteen. -/
def hexValue? (c : CodePoint) : Option Nat :=
  if 0x30 ≤ c.val ∧ c.val ≤ 0x39 then some (c.val - 0x30)
  else if 0x41 ≤ c.val ∧ c.val ≤ 0x46 then some (c.val - 0x37)
  else if 0x61 ≤ c.val ∧ c.val ≤ 0x66 then some (c.val - 0x57)
  else none

/-- The number that four digits in base sixteen write. -/
def hex4? (a b c d : CodePoint) : Option Nat := do
  let a ← hexValue? a
  let b ← hexValue? b
  let c ← hexValue? c
  let d ← hexValue? d
  return ((a * 16 + b) * 16 + c) * 16 + d

/-- What an escape by a letter stands for. -/
def unescape? (c : CodePoint) : Option CodePoint :=
  if c = CodePoint.ofChar '"' || c = CodePoint.ofChar '\\' || c = CodePoint.ofChar '/' then some c
  else if c = CodePoint.ofChar 'b' then some (CodePoint.ofNat 0x08)
  else if c = CodePoint.ofChar 'f' then some (CodePoint.ofNat 0x0C)
  else if c = CodePoint.ofChar 'n' then some (CodePoint.ofNat 0x0A)
  else if c = CodePoint.ofChar 'r' then some (CodePoint.ofNat 0x0D)
  else if c = CodePoint.ofChar 't' then some (CodePoint.ofNat 0x09)
  else none

/-- A text from behind its opening quotation mark, and what follows the closing one. The text read so far is given
backwards, with an escaped high surrogate in front of it kept apart, since an escaped low one would join it. -/
def quotedRest? (done : Text) (high : Option CodePoint) : Text → Option (Text × Text)
  | [] => none
  | c :: rest =>
    let flushed := match high with
      | some h => h :: done
      | none => done
    if c = CodePoint.ofChar '"' then some (flushed.reverse, rest)
    else if c = CodePoint.ofChar '\\' then
      match rest with
      | [] => none
      | e :: rest =>
        if e = CodePoint.ofChar 'u' then
          match rest with
          | p :: q :: r :: s :: rest =>
            match hex4? p q r s, high with
            | none, _ => none
            | some n, some h =>
              if 0xDC00 ≤ n ∧ n ≤ 0xDFFF then
                quotedRest? (CodePoint.ofNat (0x10000 + (h.val - 0xD800) * 0x400 + (n - 0xDC00)) :: done) none rest
              else if 0xD800 ≤ n ∧ n ≤ 0xDBFF then quotedRest? flushed (some (CodePoint.ofNat n)) rest
              else quotedRest? (CodePoint.ofNat n :: flushed) none rest
            | some n, none =>
              if 0xD800 ≤ n ∧ n ≤ 0xDBFF then quotedRest? done (some (CodePoint.ofNat n)) rest
              else quotedRest? (CodePoint.ofNat n :: done) none rest
          | _ => none
        else
          match unescape? e with
          | some c => quotedRest? (c :: flushed) none rest
          | none => none
    else if c.val < 0x20 then none
    else quotedRest? (c :: flushed) none rest

/-- The ASCII digits at the front of a text, and the rest. -/
def digits (t : Text) : Text × Text := t.span fun c => c.asciiDigitValue?.isSome

/-- The number that ASCII digits write. -/
def digitsValue (ds : Text) : Nat := ds.foldl (fun n c => 10 * n + (c.asciiDigitValue?.getD 0)) 0

/-- A point with one or more digits after it, if that is at the front: the digits, and the rest. -/
def fraction? (t : Text) : Option (Text × Text) :=
  match t with
  | c :: rest =>
    if c = CodePoint.ofChar '.' && !(digits rest).1.isEmpty then some (digits rest) else none
  | [] => none

/-- An exponent at the front: its value, and the rest. -/
def exponent? (t : Text) : Option (Int × Text) :=
  match t with
  | c :: rest =>
    if c = CodePoint.ofChar 'e' || c = CodePoint.ofChar 'E' then
      let (negative, written) := match rest with
        | s :: more =>
          if s = CodePoint.ofChar '-' then (true, more)
          else if s = CodePoint.ofChar '+' then (false, more)
          else (false, rest)
        | [] => (false, rest)
      let (ds, rest) := digits written
      if ds.isEmpty then none
      else some (if negative then -(digitsValue ds : Int) else digitsValue ds, rest)
    else none
  | [] => none

/-- A number from behind its sign, and the rest. Its whole part is zero or starts with another digit. -/
def unsignedRest? (negative : Bool) (t : Text) : Option (Value × Text) :=
  let (whole, rest) := match digits t with
    | (c :: ds, rest) => if c = CodePoint.ofChar '0' then ([c], ds ++ rest) else (c :: ds, rest)
    | ([], rest) => ([], rest)
  if whole.isEmpty then none
  else
    let (places, rest, hasFraction) := match fraction? rest with
      | some (ds, rest) => (ds, rest, true)
      | none => ([], rest, false)
    let (power, rest, hasExponent) := match exponent? rest with
      | some (n, rest) => (n, rest, true)
      | none => (0, rest, false)
    if hasFraction || hasExponent then
      some (.float (Binary64.ofDecimal negative (digitsValue (whole ++ places)) (power - places.length)), rest)
    else some (.int (if negative then -(digitsValue whole : Int) else digitsValue whole), rest)

/-- The rest of a text behind a word at its front. -/
def behind? : Text → Text → Option Text
  | [], t => some t
  | w :: word, c :: t => if w = c then behind? word t else none
  | _ :: _, [] => none

/-- The words that are values. -/
def words : List (Text × Value) :=
  [("null", .null), ("true", .bool true), ("false", .bool false), ("NaN", .float .nan),
    ("Infinity", .float (.infinite false)), ("-Infinity", .float (.infinite true))]

/-- A value without parts at the front of a text, and the rest. -/
def atom? (t : Text) : Option (Value × Text) :=
  match words.findSome? fun word => (behind? word.1 t).map fun rest => (word.2, rest) with
  | some found => some found
  | none =>
    match t with
    | [] => none
    | c :: rest =>
      if c = CodePoint.ofChar '"' then (quotedRest? [] none rest).map fun (content, rest) => (.text content, rest)
      else if c = CodePoint.ofChar '-' then unsignedRest? true rest
      else unsignedRest? false t

/-- The token of a bracket or separator. -/
def punctuation? (c : CodePoint) : Option Token :=
  if c = CodePoint.ofChar '[' then some .openArray
  else if c = CodePoint.ofChar ']' then some .closeArray
  else if c = CodePoint.ofChar '\x7b' then some .openObject
  else if c = CodePoint.ofChar '\x7d' then some .closeObject
  else if c = CodePoint.ofChar ',' then some .comma
  else if c = CodePoint.ofChar ':' then some .colon
  else none

/-- The blanks of the standard: tab, line feed, carriage return and the blank. -/
def isBlank (c : CodePoint) : Bool := c.val = 0x20 || c.val = 0x09 || c.val = 0x0A || c.val = 0x0D

/-- The tokens of a text, which number at most `fuel`, behind those read before, which are given backwards. They end
with the first thing that is none. -/
def tokensFrom (fuel : Nat) (done : List Token) (t : Text) : List Token :=
  match fuel with
  | 0 => done.reverse
  | fuel + 1 =>
    match t.dropWhile isBlank with
    | [] => done.reverse
    | c :: rest =>
      match punctuation? c with
      | some token => tokensFrom fuel (token :: done) rest
      | none =>
        match atom? (c :: rest) with
        | some (v, rest) => tokensFrom fuel (.atom v :: done) rest
        | none => (.stray :: done).reverse

/-- The tokens of a text. Each takes at least one code point. -/
def tokens (t : Text) : List Token := tokensFrom (t.length + 1) [] t

/-- How deeply arrays and objects may be nested. -/
def deepest : Nat := 990

mutual

/-- A value at the front of the tokens, nested up to a depth, and the rest. -/
def value (fuel depth : Nat) (tokens : List Token) : Except Unreadable (Value × List Token) :=
  match fuel, depth, tokens with
  | 0, _, _ => .error .malformed
  | _ + 1, _, .atom v :: rest => .ok (v, rest)
  | _ + 1, 0, .openArray :: _ | _ + 1, 0, .openObject :: _ => .error .tooDeep
  | _ + 1, _ + 1, .openArray :: .closeArray :: rest => .ok (.list [], rest)
  | fuel + 1, depth + 1, .openArray :: rest => items fuel depth [] rest
  | _ + 1, _ + 1, .openObject :: .closeObject :: rest => .ok (.dictionary [], rest)
  | fuel + 1, depth + 1, .openObject :: rest => members fuel depth [] rest
  | _ + 1, _, _ => .error .malformed
termination_by structural fuel

/-- The items of an array up to its end, behind those read before, which are given backwards. -/
def items (fuel depth : Nat) (done : List Value) (tokens : List Token) : Except Unreadable (Value × List Token) :=
  match fuel with
  | 0 => .error .malformed
  | fuel + 1 =>
    match value fuel depth tokens with
    | .ok (v, .comma :: rest) => items fuel depth (v :: done) rest
    | .ok (v, .closeArray :: rest) => .ok (.list (v :: done).reverse, rest)
    | .ok _ => .error .malformed
    | .error e => .error e
termination_by structural fuel

/-- The members of an object up to its end, behind those read before, which are given backwards. -/
def members (fuel depth : Nat) (done : List (Value × Value)) (tokens : List Token) :
    Except Unreadable (Value × List Token) :=
  match fuel, tokens with
  | fuel + 1, .atom (.text name) :: .colon :: rest =>
    match value fuel depth rest with
    | .ok (v, .comma :: rest) => members fuel depth ((.text name, v) :: done) rest
    | .ok (v, .closeObject :: rest) =>
      .ok (.dictionary (Value.Entries.ofPairs ((.text name, v) :: done).reverse), rest)
    | .ok _ => .error .malformed
    | .error e => .error e
  | _, _ => .error .malformed
termination_by structural fuel

end

/-- The value that a text writes. Every step takes a token, so twice their number of steps is enough. -/
def read (t : Text) : Except Unreadable Value :=
  match value (2 * (tokens t).length + 1) deepest (tokens t) with
  | .ok (v, []) => .ok v
  | .ok _ => .error .malformed
  | .error e => .error e

end YieldPool.Json
