import YieldPool.Text
import YieldPool.Value

/-!
# JSON documents

The documents that are written: null, truth values, integers, texts, arrays, and objects with the members sorted by
name. `render` writes a document in a style; a style fixes the escapes, the separators and the line breaks.
-/

namespace YieldPool

/-- A document without floating point numbers. -/
inductive Json where
  | null
  | bool (b : Bool)
  | int (n : Int)
  | text (t : Text)
  | array (items : List Json)
  | object (members : List (Text × Json))
deriving Inhabited

namespace Json

/-- What holds of an array if it holds of its items, and of an object if it holds of what its members hold, holds of
every document. -/
@[elab_as_elim]
theorem induct {P : Json → Prop} (j : Json) (null : P .null) (bool : ∀ b, P (.bool b)) (int : ∀ n, P (.int n))
    (text : ∀ t, P (.text t)) (array : ∀ items, (∀ x ∈ items, P x) → P (.array items))
    (object : ∀ members, (∀ m ∈ members, P m.2) → P (.object members)) : P j :=
  @Json.rec P (fun items => ∀ x ∈ items, P x) (fun members => ∀ m ∈ members, P m.2) (fun m => P m.2)
    null bool int text array object
    nofun (fun _ _ first others => List.forall_mem_cons.mpr ⟨first, others⟩)
    nofun (fun _ _ first others => List.forall_mem_cons.mpr ⟨first, others⟩)
    (fun _ _ held => held) j

/-- An object with its members sorted by name. -/
def record (members : List (Text × Json)) : Json := .object (KeyOrder.sortBy Prod.fst members)

mutual

/-- A document as a value. -/
def toValue : Json → Value
  | .null => .null
  | .bool b => .bool b
  | .int n => .int n
  | .text t => .text t
  | .array items => .list (itemsToValues items)
  | .object members => .dictionary (membersToEntries members)
termination_by structural j => j

/-- The items of an array as values. -/
def itemsToValues : List Json → List Value
  | [] => []
  | x :: rest => x.toValue :: itemsToValues rest
termination_by structural items => items

/-- The members of an object as entries of a dictionary. -/
def membersToEntries : List (Text × Json) → List (Value × Value)
  | [] => []
  | (name, x) :: rest => (.text name, x.toValue) :: membersToEntries rest
termination_by structural members => members

end

/-- How documents are written. -/
structure Style where
  /-- A code point inside quotation marks. -/
  escape : CodePoint → Text
  /-- What stands between neighbours. -/
  comma : Text
  /-- What stands between a name and its value. -/
  colon : Text
  /-- What stands before each item of an array or object at a depth, and, at the depth outside, before its end. -/
  lineBreak : Nat → Text

/-- The escape that every style shares: quotation mark, backslash and the controls, five of which have a letter. -/
def sharedEscape? (c : CodePoint) : Option Text :=
  if c = CodePoint.ofChar '"' then some "\\\""
  else if c = CodePoint.ofChar '\\' then some "\\\\"
  else if c.val = 0x08 then some "\\b"
  else if c.val = 0x09 then some "\\t"
  else if c.val = 0x0A then some "\\n"
  else if c.val = 0x0C then some "\\f"
  else if c.val = 0x0D then some "\\r"
  else if c.val < 0x20 then some ("\\u" ++ Text.hex 4 c.val)
  else none

/-- Code points other than the shared ones stand as they are. -/
def escapeFew (c : CodePoint) : Text := (sharedEscape? c).getD [c]

/-- Code points beyond the printable ASCII ones are written by number, those above 0xFFFF as a pair of surrogates. -/
def escapeAll (c : CodePoint) : Text :=
  match sharedEscape? c with
  | some escape => escape
  | none =>
    if c.val < 0x7F then [c]
    else if c.val < 0x10000 then "\\u" ++ Text.hex 4 c.val
    else
      let n := c.val - 0x10000
      "\\u" ++ Text.hex 4 (0xD800 + n / 0x400) ++ "\\u" ++ Text.hex 4 (0xDC00 + n % 0x400)

namespace Style

/-- The style of digests: no blanks, few escapes. -/
def compact : Style := ⟨escapeFew, ",", ":", fun _ => []⟩

/-- One line in ASCII, a blank after each comma and colon. -/
def oneLine : Style := ⟨escapeAll, ", ", ": ", fun _ => []⟩

/-- ASCII with each item on a line of its own, two blanks further in than what holds it. -/
def indented : Style := ⟨escapeAll, ",", ": ", fun depth => "\n" ++ List.replicate (2 * depth) (CodePoint.ofChar ' ')⟩

/-- A text in quotation marks. -/
def quote (s : Style) (t : Text) : Text := "\"" ++ t.flatMap s.escape ++ "\""

/-- Written items between two brackets; brackets without items touch. -/
def enclose (s : Style) (depth : Nat) (left right : Text) (items : List Text) : Text :=
  if items.isEmpty then left ++ right
  else
    left ++ s.lineBreak (depth + 1) ++ Text.joinWith (s.comma ++ s.lineBreak (depth + 1)) items ++
      s.lineBreak depth ++ right

end Style

mutual

/-- The text of a document that stands at a depth. -/
def render (s : Style) (depth : Nat) : Json → Text
  | .null => "null"
  | .bool b => if b then "true" else "false"
  | .int n => Text.ofInt n
  | .text t => s.quote t
  | .array items => s.enclose depth "[" "]" (renderItems s (depth + 1) items)
  | .object members => s.enclose depth "\x7b" "\x7d" (renderMembers s (depth + 1) members)
termination_by structural j => j

/-- The texts of the items of an array. -/
def renderItems (s : Style) (depth : Nat) : List Json → List Text
  | [] => []
  | x :: rest => render s depth x :: renderItems s depth rest
termination_by structural items => items

/-- The texts of the members of an object. -/
def renderMembers (s : Style) (depth : Nat) : List (Text × Json) → List Text
  | [] => []
  | (name, x) :: rest => (s.quote name ++ s.colon ++ render s depth x) :: renderMembers s depth rest
termination_by structural members => members

end

/-- The document on one line in ASCII. -/
def toLine (j : Json) : Text := j.render .oneLine 0

/-- The document on several lines in ASCII. -/
def toLines (j : Json) : Text := j.render .indented 0

end Json

end YieldPool
