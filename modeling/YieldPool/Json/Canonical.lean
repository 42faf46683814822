import YieldPool.Failure
import YieldPool.Json

/-!
# Canonical JSON

A value made of null, truth values, integers, texts without surrogates, lists, tuples, and dictionaries with such texts
as keys has one canonical form: the compact document with members sorted by name, in UTF-8. Every other value is refused.
A refusal is looked for from the outside in and from left to right, a key before its value. A value of a kind that no
document has is refused only where nothing else is, when the document is written, and so in the order of the names.
-/

namespace YieldPool

/-- Why a value has no canonical form. -/
inductive CanonicalRefusal where
  | float
  | surrogate
  | keyNotText
  /-- No document holds a value of this kind. -/
  | unwritable (kind : Kind)
deriving DecidableEq, Repr

/-- The message of a value without canonical form. -/
def CanonicalRefusal.message : CanonicalRefusal → Text
  | .float => "floats are not allowed in canonical encoding"
  | .surrogate => "surrogate code points are not allowed in canonical encoding"
  | .keyNotText => "dict keys must be str for canonical encoding"
  | .unwritable kind => "Object of type " ++ kind.name ++ " is not JSON serializable"

/-- A member of an object with its document, or with what refuses it. -/
abbrev PendingMember := Text × Except CanonicalRefusal Json

/-- A member as it is written, or what refuses it. -/
def PendingMember.write (m : PendingMember) : Except CanonicalRefusal (Text × Json) := do
  let document ← m.2
  return (m.1, document)

namespace Value

mutual

/-- The first thing in a value that has no canonical form, other than a value of a kind that cannot be written. -/
def refusal? : Value → Option CanonicalRefusal
  | .float _ => some .float
  | .text t => if t.isWellFormed then none else some .surrogate
  | .list items | .tuple items => itemsRefusal? items
  | .dictionary entries => entriesRefusal? entries
  | _ => none
termination_by structural v => v

/-- The first such thing in a list or tuple. -/
def itemsRefusal? : List Value → Option CanonicalRefusal
  | [] => none
  | x :: rest => refusal? x <|> itemsRefusal? rest
termination_by structural items => items

/-- The first such thing in a dictionary, where each key must be a text. -/
def entriesRefusal? : List (Value × Value) → Option CanonicalRefusal
  | [] => none
  | (.text t, v) :: rest =>
    (if t.isWellFormed then none else some .surrogate) <|> refusal? v <|> entriesRefusal? rest
  | _ :: _ => some .keyNotText
termination_by structural entries => entries

end

mutual

/-- The document of a value. The members of an object are sorted before they are written, so it is their names that say
which of two refusals is met first. -/
def toJson : Value → Except CanonicalRefusal Json
  | .null => .ok .null
  | .bool b => .ok (.bool b)
  | .int n => .ok (.int n)
  | .float _ => .error .float
  | .text t => .ok (.text t)
  | .list items | .tuple items => do
    let documents ← itemsToJson items
    return .array documents
  | .dictionary entries => do
    let members ← entriesToJson entries
    let written ← (KeyOrder.sortBy Prod.fst members).mapM PendingMember.write
    return .object written
  | v => .error (.unwritable v.kind)
termination_by structural v => v

/-- The documents of the items of a list or tuple. -/
def itemsToJson : List Value → Except CanonicalRefusal (List Json)
  | [] => .ok []
  | x :: rest => do
    let document ← toJson x
    let documents ← itemsToJson rest
    return document :: documents
termination_by structural items => items

/-- The members that the entries of a dictionary become once they are written. -/
def entriesToJson : List (Value × Value) → Except CanonicalRefusal (List PendingMember)
  | [] => .ok []
  | (.text name, v) :: rest => do
    let members ← entriesToJson rest
    return (name, toJson v) :: members
  | _ :: _ => .error .keyNotText
termination_by structural entries => entries

end

/-- The document of a value that has a canonical form. -/
def canonical (v : Value) : Except CanonicalRefusal Json :=
  match v.refusal? with
  | some refusal => .error refusal
  | none => v.toJson

/-- The canonical form of a value. -/
def canonicalText (v : Value) : Except CanonicalRefusal Text := do
  let document ← v.canonical
  return document.render .compact 0

/-- The canonical form of a value in UTF-8. -/
def canonicalBytes (v : Value) : Except CanonicalRefusal (List UInt8) := do
  let text ← v.canonicalText
  return text.utf8

end Value

end YieldPool
