import Mathlib.Data.List.Basic
import YieldPool.Text

/-!
# Texts that can be read back

A code is self-delimiting if the word for one thing, however it goes on, is never a word for another that goes on
(`SelfDelimiting`). A row of such words determines what they stand for. UTF-8 is a code of this kind, so a text is
determined by its bytes (`Text.utf8_injective`). Decimal numerals are not: only what follows tells where a numeral ends.
An integer is determined by its numeral if no digit follows (`Text.ofInt_append_inj`).
-/

namespace YieldPool

/-! ## Self-delimiting codes -/

/-- Two words that go on can only be the same if they stand for the same thing and go on in the same way. -/
def SelfDelimiting {α β : Type} (word : α → List β) : Prop :=
  ∀ a b x y, word a ++ x = word b ++ y → a = b ∧ x = y

namespace SelfDelimiting

variable {α β : Type} {word : α → List β}

/-- It is enough that the words stand for the same thing. -/
theorem of_eq (same : ∀ a b x y, word a ++ x = word b ++ y → a = b) : SelfDelimiting word := by
  intro a b x y h
  obtain rfl := same a b x y h
  exact ⟨rfl, List.append_cancel_left h⟩

/-- A row of words determines what they stand for. -/
theorem flatMap_inj (h : SelfDelimiting word) (ne : ∀ a, word a ≠ []) :
    ∀ {as bs : List α}, as.flatMap word = bs.flatMap word → as = bs
  | [], [], _ => rfl
  | [], b :: bs, same => absurd same.symm fun none => ne b (List.append_eq_nil_iff.mp none).1
  | a :: as, [], same => absurd same fun none => ne a (List.append_eq_nil_iff.mp none).1
  | a :: as, b :: bs, same => by
    obtain ⟨rfl, rest⟩ := h a b _ _ same
    rw [flatMap_inj h ne rest]

/-- A row of words up to an end that is no word determines what they stand for, and what follows. -/
theorem flatMap_append_inj (h : SelfDelimiting word) {stop : List β} (ends : ∀ a x y, word a ++ x ≠ stop ++ y) :
    ∀ {as bs : List α} {x y : List β},
      as.flatMap word ++ (stop ++ x) = bs.flatMap word ++ (stop ++ y) → as = bs ∧ x = y
  | [], [], _, _, same => ⟨rfl, List.append_cancel_left same⟩
  | [], b :: bs, x, y, same => by
    rw [List.flatMap_cons, List.append_assoc] at same
    exact absurd same.symm (ends b _ x)
  | a :: as, [], x, y, same => by
    rw [List.flatMap_cons, List.append_assoc] at same
    exact absurd same (ends a _ y)
  | a :: as, b :: bs, x, y, same => by
    rw [List.flatMap_cons, List.flatMap_cons, List.append_assoc, List.append_assoc] at same
    obtain ⟨rfl, rest⟩ := h a b _ _ same
    obtain ⟨rfl, follows⟩ := flatMap_append_inj h ends rest
    exact ⟨rfl, follows⟩

end SelfDelimiting

/-- Two lists in which an element stands for the last time agree before it and after it. -/
theorem append_cons_inj_of_last {α : Type} {a : α} {xs ys : List α} (hx : a ∉ xs) (hy : a ∉ ys) :
    ∀ {before earlier : List α}, before ++ a :: xs = earlier ++ a :: ys → before = earlier ∧ xs = ys
  | [], [], same => ⟨rfl, List.tail_eq_of_cons_eq same⟩
  | [], b :: earlier, same => by
    obtain ⟨-, rest⟩ := List.cons.inj same
    exact absurd (rest ▸ List.mem_append_right earlier List.mem_cons_self) hx
  | b :: before, [], same => by
    obtain ⟨-, rest⟩ := List.cons.inj same
    exact absurd (rest ▸ List.mem_append_right before List.mem_cons_self) hy
  | b :: before, c :: earlier, same => by
    obtain ⟨rfl, rest⟩ := List.cons.inj same
    obtain ⟨rfl, after⟩ := append_cons_inj_of_last hx hy rest
    exact ⟨rfl, after⟩

/-! ## UTF-8 -/

/-- A number becomes the same byte as another exactly if both leave the same rest. -/
theorem ofNat_eq_ofNat_iff {m n : Nat} : UInt8.ofNat m = UInt8.ofNat n ↔ m % 256 = n % 256 := by
  rw [← UInt8.toNat_inj, UInt8.toNat_ofNat', UInt8.toNat_ofNat']

namespace CodePoint

/-- A code point takes up one to four bytes. -/
theorem utf8_cases (c : CodePoint) :
    (c.val < 0x80 ∧ c.utf8 = [UInt8.ofNat c.val]) ∨
      (0x80 ≤ c.val ∧ c.val < 0x800 ∧
        c.utf8 = [UInt8.ofNat (0xC0 + c.val / 0x40), UInt8.ofNat (0x80 + c.val % 0x40)]) ∨
      (0x800 ≤ c.val ∧ c.val < 0x10000 ∧
        c.utf8 = [UInt8.ofNat (0xE0 + c.val / 0x1000), UInt8.ofNat (0x80 + c.val / 0x40 % 0x40),
          UInt8.ofNat (0x80 + c.val % 0x40)]) ∨
      (0x10000 ≤ c.val ∧
        c.utf8 = [UInt8.ofNat (0xF0 + c.val / 0x40000), UInt8.ofNat (0x80 + c.val / 0x1000 % 0x40),
          UInt8.ofNat (0x80 + c.val / 0x40 % 0x40), UInt8.ofNat (0x80 + c.val % 0x40)]) := by
  simp only [utf8]
  by_cases one : c.val < 0x80
  · exact Or.inl ⟨one, if_pos one⟩
  · by_cases two : c.val < 0x800
    · exact Or.inr (Or.inl ⟨Nat.le_of_not_lt one, two, by rw [if_neg one, if_pos two]⟩)
    · by_cases three : c.val < 0x10000
      · exact Or.inr (Or.inr (Or.inl ⟨Nat.le_of_not_lt two, three, by rw [if_neg one, if_neg two, if_pos three]⟩))
      · exact Or.inr (Or.inr (Or.inr ⟨Nat.le_of_not_lt three, by rw [if_neg one, if_neg two, if_neg three]⟩))

theorem utf8_ne_nil (c : CodePoint) : c.utf8 ≠ [] := by
  rcases c.utf8_cases with ⟨-, same⟩ | ⟨-, -, same⟩ | ⟨-, -, same⟩ | ⟨-, same⟩ <;> simp [same]

/-- No code point takes more than four bytes. -/
theorem length_utf8_le (c : CodePoint) : c.utf8.length ≤ 4 := by
  rcases c.utf8_cases with ⟨-, same⟩ | ⟨-, -, same⟩ | ⟨-, -, same⟩ | ⟨-, same⟩ <;> simp [same]

/-- The first byte tells how many there are, and together they tell the code point. -/
theorem selfDelimiting_utf8 : SelfDelimiting utf8 := by
  refine SelfDelimiting.of_eq fun c d x y same => Fin.ext ?_
  have bound := c.isLt
  have bound' := d.isLt
  rcases c.utf8_cases with ⟨above, word⟩ | ⟨below, above, word⟩ | ⟨below, above, word⟩ | ⟨below, word⟩ <;>
    rcases d.utf8_cases with ⟨above', word'⟩ | ⟨below', above', word'⟩ | ⟨below', above', word'⟩ | ⟨below', word'⟩ <;>
      rw [word, word'] at same <;>
      simp only [List.cons_append, List.nil_append, List.cons.injEq, ofNat_eq_ofNat_iff] at same <;> omega

end CodePoint

namespace Text

/-- A text is determined by its bytes. -/
theorem utf8_injective {t u : Text} (same : t.utf8 = u.utf8) : t = u :=
  CodePoint.selfDelimiting_utf8.flatMap_inj CodePoint.utf8_ne_nil same

/-- Texts take the bytes of each, one after the other. -/
theorem utf8_append (t u : Text) : (t ++ u).utf8 = t.utf8 ++ u.utf8 := List.flatMap_append

/-- A text takes up at most four bytes for each code point. -/
theorem length_utf8_le (t : Text) : t.utf8.length ≤ 4 * t.length := by
  induction t with
  | nil => exact Nat.le_refl 0
  | cons c t ih =>
    have first := c.length_utf8_le
    show (c.utf8 ++ Text.utf8 t).length ≤ 4 * (t.length + 1)
    rw [List.length_append]
    omega

end Text

/-! ## Numerals -/

namespace CodePoint

/-- The decimal digits. -/
def isDigit (c : CodePoint) : Bool := decide (0x30 ≤ c.val ∧ c.val ≤ 0x39)

/-- Different characters are different code points. -/
theorem ofChar_injective {c d : Char} (same : ofChar c = ofChar d) : c = d := by
  exact Char.toNat_inj.mp (Fin.mk.inj same)

/-- A digit stays a digit. -/
theorem isDigit_ofChar {c : Char} (digit : c.isDigit = true) : (ofChar c).isDigit = true := by
  rw [Char.isDigit, Bool.and_eq_true, decide_eq_true_eq, decide_eq_true_eq] at digit
  exact decide_eq_true ⟨digit.1, digit.2⟩

end CodePoint

namespace Text

/-- No digit comes first. -/
def NoDigitFirst (t : Text) : Prop := ∀ c ∈ t.head?, c.isDigit = false

/-- A number is written in digits. -/
theorem isDigit_of_mem_ofNat {n : Nat} {c : CodePoint} (member : c ∈ ofNat n) : c.isDigit = true := by
  obtain ⟨d, digit, rfl⟩ := List.mem_map.mp member
  exact CodePoint.isDigit_ofChar (Nat.isDigit_of_mem_toDigits (by decide) (by decide) digit)

theorem ofNat_ne_nil (n : Nat) : ofNat n ≠ [] := fun none => Nat.toDigits_ne_nil (List.map_eq_nil_iff.mp none)

theorem ofNat_injective {m n : Nat} (same : ofNat m = ofNat n) : m = n := by
  have digits : Nat.toDigits 10 m = Nat.toDigits 10 n :=
    List.map_injective_iff.mpr (fun _ _ => CodePoint.ofChar_injective) same
  have value := congrArg (fun digits => Nat.ofDigitChars 10 digits 0) digits
  simpa only [Nat.ofDigitChars_ten_toDigits] using value

/-- The digits of a numeral are those at the front of what is written. -/
theorem takeWhile_ofNat_append (n : Nat) {x : Text} (none : x.NoDigitFirst) :
    (ofNat n ++ x).takeWhile CodePoint.isDigit = ofNat n := by
  rw [List.takeWhile_append_of_pos fun c member => isDigit_of_mem_ofNat member]
  cases x with
  | nil => exact List.append_nil _
  | cons c x =>
    rw [List.takeWhile_cons_of_neg (by simp [none c rfl]), List.append_nil]

/-- A natural number is determined by its numeral if no digit follows. -/
theorem ofNat_append_inj {m n : Nat} {x y : Text} (hx : x.NoDigitFirst) (hy : y.NoDigitFirst)
    (same : ofNat m ++ x = ofNat n ++ y) : m = n ∧ x = y := by
  have digits := congrArg (List.takeWhile CodePoint.isDigit) same
  rw [takeWhile_ofNat_append m hx, takeWhile_ofNat_append n hy] at digits
  obtain rfl := ofNat_injective digits
  exact ⟨rfl, List.append_cancel_left same⟩

/-- No numeral of a natural number begins with a minus sign. -/
theorem ofNat_append_ne_minus (n : Nat) (x y : Text) : ofNat n ++ x ≠ CodePoint.ofChar '-' :: y := by
  intro same
  cases digits : ofNat n with
  | nil => exact ofNat_ne_nil n digits
  | cons c rest =>
    have digit : c.isDigit = true := isDigit_of_mem_ofNat (digits ▸ List.mem_cons_self)
    rw [digits, List.cons_append, List.cons.injEq] at same
    rw [same.1] at digit
    cases digit

/-- An integer is determined by its numeral if no digit follows. -/
theorem ofInt_append_inj {m n : Int} {x y : Text} (hx : x.NoDigitFirst) (hy : y.NoDigitFirst)
    (same : ofInt m ++ x = ofInt n ++ y) : m = n ∧ x = y := by
  cases m with
  | ofNat m =>
    cases n with
    | ofNat n =>
      obtain ⟨rfl, rest⟩ := ofNat_append_inj hx hy same
      exact ⟨rfl, rest⟩
    | negSucc n => exact absurd same (ofNat_append_ne_minus m x _)
  | negSucc m =>
    cases n with
    | ofNat n => exact absurd same.symm (ofNat_append_ne_minus n y _)
    | negSucc n =>
      obtain ⟨next, rest⟩ := ofNat_append_inj hx hy (List.tail_eq_of_cons_eq same)
      exact ⟨congrArg Int.negSucc (Nat.succ.inj next), rest⟩

theorem ofInt_injective {m n : Int} (same : ofInt m = ofInt n) : m = n := by
  have whole : ofInt m ++ [] = ofInt n ++ [] := congrArg (· ++ []) same
  exact (ofInt_append_inj (x := []) (y := []) nofun nofun whole).1

theorem ofInt_ne_nil : ∀ n : Int, ofInt n ≠ []
  | .ofNat n => ofNat_ne_nil n
  | .negSucc _ => List.cons_ne_nil _ _

/-- A numeral is made of digits and a minus sign. -/
theorem mem_ofInt {n : Int} {c : CodePoint} (member : c ∈ ofInt n) :
    c.isDigit = true ∨ c = CodePoint.ofChar '-' := by
  cases n with
  | ofNat n => exact Or.inl (isDigit_of_mem_ofNat member)
  | negSucc n =>
    rcases List.mem_cons.mp member with minus | digit
    · exact Or.inr minus
    · exact Or.inl (isDigit_of_mem_ofNat digit)

end Text

end YieldPool
