import YieldPool.Digest
import YieldPool.Proofs.Json.Alike
import YieldPool.Proofs.Json.Compact

/-!
# What is hashed determines what it was made of

The message of a digest is a label and a version, a zero byte, and the canonical form of a value. The label may hold
zero bytes, colons and whatever else a heading is made of; still, the last zero byte ends the heading, as no canonical
form holds one, and the last `v` before it ends the label, as no numeral holds one. So label, version and document are
determined by the message (`heading_append_inj`, `message_unambiguous`).
-/

namespace YieldPool.Digest

variable {l₁ l₂ : Text} {v₁ v₂ : Int}

/-- The heading of a digest names the project, the label and the version, and ends with a NUL. -/
theorem heading_append (label : Text) (version : Int) (t : Text) :
    heading label version ++ t =
      ("farmledger:" ++ label ++ ":" ++ CodePoint.ofChar 'v' :: Text.ofInt version) ++ 0 :: t := by
  have mark : (":v" : Text) = ":" ++ [CodePoint.ofChar 'v'] := by decide
  have zero : ("\x00" : Text) = [0] := by decide
  simp only [heading, headingOf, mark, zero, List.append_assoc, List.cons_append, List.nil_append]

/-- A heading is told apart from a text without zeros that follows it, and label and version from each other. -/
theorem heading_append_inj {t u : Text} (ht : 0 ∉ t) (hu : 0 ∉ u) (same : heading l₁ v₁ ++ t = heading l₂ v₂ ++ u) :
    l₁ = l₂ ∧ v₁ = v₂ ∧ t = u := by
  rw [heading_append, heading_append] at same
  obtain ⟨front, rest⟩ := append_cons_inj_of_last ht hu same
  have noMark : ∀ n, CodePoint.ofChar 'v' ∉ Text.ofInt n := by
    intro n member
    rcases Text.mem_ofInt member with digit | minus
    · cases digit
    · exact absurd minus (by decide)
  obtain ⟨label, version⟩ := append_cons_inj_of_last (noMark v₁) (noMark v₂) front
  exact ⟨List.append_cancel_left (List.append_cancel_right label), Text.ofInt_injective version, rest⟩

/-- A value is hashed under a label in ASCII exactly if it has a canonical form: the bytes are the heading and the
document, in UTF-8. -/
theorem message_eq_ok_iff {label : Text} {version : Int} {x : Value} {bytes : List UInt8} :
    message label version x = .ok bytes ↔ label.all CodePoint.isAscii = true ∧ x.refusal? = none ∧
      ∃ document, x.toJson = .ok document ∧ (heading label version ++ document.render .compact 0).utf8 = bytes := by
  simp only [message, compose, bind_eq_ok_iff, require_eq_ok_iff, exists_const, liftM, monadLift,
    MonadLift.monadLift, mapError_eq_ok_iff, Value.canonicalBytes_eq_ok_iff, pure, Except.pure, Except.ok.injEq,
    Text.utf8_append]
  constructor
  · rintro ⟨ascii, canonical, ⟨accepted, document, written, rfl⟩, rfl⟩
    exact ⟨ascii, accepted, document, written, rfl⟩
  · rintro ⟨ascii, accepted, document, written, rfl⟩
    exact ⟨ascii, _, ⟨accepted, document, written, rfl⟩, rfl⟩

/-- For all ASCII labels, versions, and values that have a canonical form there are messages to be hashed; and two of
them are the same exactly if labels and versions are the same and the values are alike, that is, the same up to the
order in which their dictionaries list their entries. A tuple is written as the list of its items and alike to it. -/
theorem message_unambiguous {x₁ x₂ : Value} (ascii₁ : l₁.all CodePoint.isAscii = true)
    (ascii₂ : l₂.all CodePoint.isAscii = true) (v₁ v₂ : Int) (accepted₁ : ∃ bytes, x₁.canonicalBytes = .ok bytes)
    (accepted₂ : ∃ bytes, x₂.canonicalBytes = .ok bytes) (distinct₁ : x₁.KeysDistinct) :
    ∃ m₁ m₂, message l₁ v₁ x₁ = .ok m₁ ∧ message l₂ v₂ x₂ = .ok m₂ ∧
      (m₁ = m₂ ↔ l₁ = l₂ ∧ v₁ = v₂ ∧ x₁.Alike x₂) := by
  obtain ⟨clean₁, j, document₁⟩ := Value.canonicalBytes_ok_iff.mp accepted₁
  obtain ⟨clean₂, k, document₂⟩ := Value.canonicalBytes_ok_iff.mp accepted₂
  refine ⟨_, _, message_eq_ok_iff.mpr ⟨ascii₁, clean₁, j, document₁, rfl⟩,
    message_eq_ok_iff.mpr ⟨ascii₂, clean₂, k, document₂, rfl⟩, ?_⟩
  rw [← Value.toJson_eq_iff_alike distinct₁ document₁ document₂]
  constructor
  · intro same
    obtain ⟨labels, versions, texts⟩ := heading_append_inj (Json.nul_notMem_render j 0) (Json.nul_notMem_render k 0)
      (Text.utf8_injective same)
    exact ⟨labels, versions, Json.render_injective texts⟩
  · rintro ⟨rfl, rfl, rfl⟩
    rfl

/-- A dictionary with two entries, the second a list of one item. -/
def listing (item : Value) : Value := .dictionary [(.text "b", .int 1), (.text "a", .list [item])]

/-- The same entries in the other order. -/
def reordered (item : Value) : Value := .dictionary [(.text "a", .list [item]), (.text "b", .int 1)]

/-- Entries in another order are hashed as the same bytes, and the number one as others than the truth value. -/
theorem message_unambiguous_listing :
    ∃ m same other, message "a:v1\x00" 2 (listing (.bool true)) = .ok m ∧
      message "a:v1\x00" 2 (reordered (.bool true)) = .ok same ∧
      message "a:v1\x00" 2 (reordered (.int 1)) = .ok other ∧ m = same ∧ m ≠ other := by
  have ascii : ("a:v1\x00" : Text).all CodePoint.isAscii = true := by decide
  have accepted : ∀ x : Value, x = .bool true ∨ x = .int 1 →
      (∃ bytes, (listing x).canonicalBytes = .ok bytes) ∧ ∃ bytes, (reordered x).canonicalBytes = .ok bytes := by
    rintro x (rfl | rfl) <;>
      exact ⟨Value.canonicalBytes_ok_iff.mpr ⟨rfl, _, rfl⟩, Value.canonicalBytes_ok_iff.mpr ⟨rfl, _, rfl⟩⟩
  have distinct : (listing (.bool true)).KeysDistinct := by
    refine ⟨List.nodup_cons.mpr ⟨?_, List.nodup_singleton _⟩, trivial, ⟨trivial, trivial⟩, trivial⟩
    rw [List.map_singleton, List.mem_singleton, Value.text.injEq]
    decide
  obtain ⟨m, same, first, second, equal⟩ := message_unambiguous ascii ascii 2 2 (accepted (.bool true) (Or.inl rfl)).1
    (accepted (.bool true) (Or.inl rfl)).2 distinct
  obtain ⟨m', other, first', third, differ⟩ := message_unambiguous ascii ascii 2 2
    (accepted (.bool true) (Or.inl rfl)).1 (accepted (.int 1) (Or.inr rfl)).2 distinct
  obtain rfl := Except.ok.inj (first.symm.trans first')
  have alike : (listing (.bool true)).Alike (reordered (.bool true)) :=
    .dictionary (.cons (.int 1) (.cons (.array rfl rfl (.cons (.bool true) .nil)) .nil)) (List.Perm.swap _ _ [])
  have written : (listing (.bool true)).toJson = .ok (.object [("a", .array [.bool true]), ("b", .int 1)]) := rfl
  have written' : (reordered (.int 1)).toJson = .ok (.object [("a", .array [.int 1]), ("b", .int 1)]) := rfl
  have unlike : ¬(listing (.bool true)).Alike (reordered (.int 1)) := by
    rw [← Value.toJson_eq_iff_alike distinct written written']
    intro document
    cases document
  exact ⟨m, same, other, first, second, third, equal.mpr ⟨rfl, rfl, alike⟩,
    fun equal => unlike (differ.mp equal).2.2⟩

end YieldPool.Digest
