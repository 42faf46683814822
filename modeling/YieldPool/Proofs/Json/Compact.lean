import Mathlib.Algebra.Order.BigOperators.Group.List
import Mathlib.Algebra.Order.Ring.Nat
import YieldPool.Json
import YieldPool.Proofs.Text

/-!
# Compact documents can be read back

In the compact style a document is determined by its text, and by a longer text in which no digit follows it
(`Json.readBack_render`). Escaped code points, and texts in quotation marks, are told apart from whatever follows; the
first code point of a document tells what kind it is (`Shape`); and the rows of an array or object are told apart by the
commas between them and the bracket behind them. No control is written as it is, so a compact document holds no NUL
(`Json.nul_notMem_render`).
-/

namespace YieldPool.Json

/-! ## Escapes -/

/-- The code points that are not written as they are: controls, the quotation mark and the backslash. -/
def escaped : List CodePoint :=
  (List.range 0x20).map CodePoint.ofNat ++ [CodePoint.ofChar '"', CodePoint.ofChar '\\']

/-- Controls are not written as they are. -/
theorem mem_escaped_of_lt {c : CodePoint} (control : c.val < 0x20) : c ∈ escaped := by
  have same : CodePoint.ofNat c.val = c := dif_pos c.isLt
  exact List.mem_append_left _ (List.mem_map.mpr ⟨c.val, List.mem_range.mpr control, same⟩)

/-- A code point that need not be escaped is written as it is. -/
theorem escapeFew_of_notMem {c : CodePoint} (plain : c ∉ escaped) : escapeFew c = [c] := by
  have mark : c ≠ CodePoint.ofChar '"' ∧ c ≠ CodePoint.ofChar '\\' := by
    constructor <;> rintro rfl <;> exact plain (by decide)
  have printed : ¬c.val < 0x20 := fun control => plain (mem_escaped_of_lt control)
  rw [escapeFew, sharedEscape?, if_neg mark.1, if_neg mark.2, if_neg (by omega), if_neg (by omega), if_neg (by omega),
    if_neg (by omega), if_neg (by omega), if_neg printed]
  rfl

/-- An escape begins with a backslash, is short, and holds no NUL. The code points are too many to try, but not those
that are escaped. -/
theorem escapeFew_of_mem {c : CodePoint} (special : c ∈ escaped) :
    (escapeFew c).head? = some (CodePoint.ofChar '\\') ∧ (escapeFew c).length ≤ 6 ∧ 0 ∉ escapeFew c := by
  have all : (escaped.all fun c => decide ((escapeFew c).head? = some (CodePoint.ofChar '\\') ∧
    (escapeFew c).length ≤ 6 ∧ 0 ∉ escapeFew c)) = true := by decide +kernel
  exact of_decide_eq_true (List.all_eq_true.mp all c special)

/-- No escape is the beginning of another. -/
theorem escapes_apart {c d : CodePoint} (hc : c ∈ escaped) (hd : d ∈ escaped)
    (shorter : escapeFew c <+: escapeFew d) : c = d := by
  have all : (escaped.all fun c => escaped.all fun d =>
    decide ((escapeFew c).isPrefixOf (escapeFew d) = true → c = d)) = true := by decide +kernel
  exact of_decide_eq_true (List.all_eq_true.mp (List.all_eq_true.mp all c hc) d hd)
    (List.isPrefixOf_iff_prefix.mpr shorter)

/-- No code point is written in more than six. -/
theorem length_escapeFew_le (c : CodePoint) : (escapeFew c).length ≤ 6 := by
  by_cases special : c ∈ escaped
  · exact (escapeFew_of_mem special).2.1
  · rw [escapeFew_of_notMem special, List.length_singleton]
    omega

/-- No code point is written with a NUL. -/
theorem nul_notMem_escapeFew (c : CodePoint) : 0 ∉ escapeFew c := by
  by_cases special : c ∈ escaped
  · exact (escapeFew_of_mem special).2.2
  · rw [escapeFew_of_notMem special, List.mem_singleton]
    rintro rfl
    exact special (by decide)

/-- What is written for a code point begins with a backslash if it is an escape, and with the code point if not. -/
theorem head?_escapeFew (c : CodePoint) :
    (escapeFew c).head? = some (CodePoint.ofChar '\\') ∧ c ∈ escaped ∨ (escapeFew c).head? = some c ∧ c ∉ escaped := by
  by_cases special : c ∈ escaped
  · exact Or.inl ⟨(escapeFew_of_mem special).1, special⟩
  · exact Or.inr ⟨by rw [escapeFew_of_notMem special]; rfl, special⟩

/-- What is written for a code point is never taken for a closing quotation mark. -/
theorem escapeFew_append_ne_quote (c : CodePoint) (x y : Text) :
    escapeFew c ++ x ≠ [CodePoint.ofChar '"'] ++ y := by
  intro same
  have first := congrArg List.head? same
  rw [List.head?_append] at first
  rcases head?_escapeFew c with ⟨head, -⟩ | ⟨head, plain⟩
  · rw [head] at first
    cases first
  · rw [head] at first
    exact plain (Option.some.inj first ▸ by decide)

/-- What is written for a code point is told apart from whatever follows. -/
theorem selfDelimiting_escapeFew : SelfDelimiting escapeFew := by
  refine SelfDelimiting.of_eq fun c d x y same => ?_
  have backslash : CodePoint.ofChar '\\' ∈ escaped := by decide
  have first := congrArg List.head? same
  rw [List.head?_append, List.head?_append] at first
  rcases head?_escapeFew c with ⟨hc, special⟩ | ⟨hc, plain⟩ <;>
    rcases head?_escapeFew d with ⟨hd, special'⟩ | ⟨hd, plain'⟩ <;> rw [hc, hd] at first
  · have both := List.prefix_or_prefix_of_prefix (List.prefix_append _ x) (same ▸ List.prefix_append _ y)
    rcases both with shorter | longer
    · exact escapes_apart special special' shorter
    · exact (escapes_apart special' special longer).symm
  · exact absurd (Option.some.inj first ▸ backslash) plain'
  · exact absurd (Option.some.inj first ▸ backslash) plain
  · exact Option.some.inj first

/-! ## Texts in quotation marks -/

theorem quote_eq (t : Text) :
    Style.compact.quote t = CodePoint.ofChar '"' :: (t.flatMap escapeFew ++ [CodePoint.ofChar '"']) := rfl

/-- A text in quotation marks is told apart from whatever follows. -/
theorem selfDelimiting_quote : SelfDelimiting Style.compact.quote := by
  intro t u x y same
  rw [quote_eq, quote_eq, List.cons_append, List.cons_append, List.append_assoc, List.append_assoc] at same
  exact selfDelimiting_escapeFew.flatMap_append_inj escapeFew_append_ne_quote (List.tail_eq_of_cons_eq same)

/-- A text in quotation marks holds no NUL, whatever the text holds. -/
theorem nul_notMem_quote (t : Text) : 0 ∉ Style.compact.quote t := by
  have apart : (0 : CodePoint) ≠ CodePoint.ofChar '"' := by decide
  rw [quote_eq, List.mem_cons, List.mem_append, List.mem_singleton, List.mem_flatMap]
  rintro (mark | ⟨c, -, written⟩ | mark)
  · exact apart mark
  · exact nul_notMem_escapeFew c written
  · exact apart mark

/-- A text in quotation marks is at most six times as long, but for the marks. -/
theorem length_quote_le (t : Text) : (Style.compact.quote t).length ≤ 6 * t.length + 2 := by
  have body : (t.flatMap escapeFew).length ≤ 6 * t.length := by
    induction t with
    | nil => exact Nat.le_refl 0
    | cons c t ih =>
      have first := length_escapeFew_le c
      rw [List.flatMap_cons, List.length_append, List.length_cons]
      omega
  rw [quote_eq, List.length_cons, List.length_append, List.length_singleton]
  omega

/-! ## Rows -/

/-- Joined texts are the first, and each of the others after a separator. -/
theorem joinWith_cons (separator t : Text) (rest : List Text) :
    Text.joinWith separator (t :: rest) = t ++ rest.flatMap (separator ++ ·) := by
  induction rest generalizing t with
  | nil => exact (List.append_nil t).symm
  | cons u rest ih =>
    rw [Text.joinWith, ih, List.flatMap_cons, List.append_assoc, List.append_assoc]
    simp

/-- What is written for one thing is told apart from what follows if no digit does. -/
def ReadBack {α : Type} (word : α → Text) (a : α) : Prop :=
  ∀ b x y, x.NoDigitFirst → y.NoDigitFirst → word a ++ x = word b ++ y → a = b ∧ x = y

section Rows

variable {α : Type} {word : α → Text} {close : CodePoint}

/-- After a row comes a comma or the closing bracket, and no digit. -/
theorem noDigitFirst_rows (bracket : close.isDigit = false) (rows : List α) (x : Text) :
    Text.NoDigitFirst (rows.flatMap (fun a => [CodePoint.ofChar ','] ++ word a) ++ close :: x) := by
  intro c first
  cases rows with
  | nil =>
    obtain rfl := Option.some.inj first
    exact bracket
  | cons a rest =>
    obtain rfl := Option.some.inj first
    rfl

/-- Rows, each after a comma, are told apart from what follows the closing bracket. -/
theorem rows_append_inj (bracket : close.isDigit = false) (apart : close ≠ CodePoint.ofChar ',') :
    ∀ {as bs : List α} {x y : Text}, (∀ a ∈ as, ReadBack word a) →
      as.flatMap (fun a => [CodePoint.ofChar ','] ++ word a) ++ close :: x =
        bs.flatMap (fun a => [CodePoint.ofChar ','] ++ word a) ++ close :: y → as = bs ∧ x = y
  | [], [], _, _, _, same => ⟨rfl, List.tail_eq_of_cons_eq same⟩
  | [], _ :: _, _, _, _, same => absurd (List.cons.inj same).1 apart
  | _ :: _, [], _, _, _, same => absurd (List.cons.inj same).1.symm apart
  | a :: as, b :: bs, x, y, read, same => by
    obtain ⟨first, others⟩ := List.forall_mem_cons.mp read
    simp only [List.flatMap_cons, List.append_assoc, List.cons_append, List.nil_append, List.cons.injEq,
      true_and] at same
    obtain ⟨rfl, rest⟩ := first b _ _ (noDigitFirst_rows bracket as x) (noDigitFirst_rows bracket bs y) same
    obtain ⟨rfl, follows⟩ := rows_append_inj bracket apart others rest
    exact ⟨rfl, follows⟩

/-- Rows with commas between them are told apart from what follows the closing bracket, if none begins with it. -/
theorem joinWith_append_inj (bracket : close.isDigit = false) (apart : close ≠ CodePoint.ofChar ',')
    (opens : ∀ a x, (word a ++ x).head? ≠ some close) {as bs : List α} {x y : Text}
    (read : ∀ a ∈ as, ReadBack word a)
    (same : Text.joinWith "," (as.map word) ++ close :: x = Text.joinWith "," (bs.map word) ++ close :: y) :
    as = bs ∧ x = y := by
  have rows : ∀ (a : α) (rest : List α) (x : Text), Text.joinWith "," ((a :: rest).map word) ++ close :: x =
      word a ++ (rest.flatMap (fun a => [CodePoint.ofChar ','] ++ word a) ++ close :: x) := by
    intro a rest x
    rw [List.map_cons, joinWith_cons, List.append_assoc, List.flatMap_map]
    rfl
  cases as with
  | nil =>
    cases bs with
    | nil => exact ⟨rfl, List.tail_eq_of_cons_eq same⟩
    | cons b bs =>
      rw [rows] at same
      exact absurd (congrArg List.head? same).symm (opens b _)
  | cons a as =>
    cases bs with
    | nil =>
      rw [rows] at same
      exact absurd (congrArg List.head? same) (opens a _)
    | cons b bs =>
      rw [rows, rows] at same
      obtain ⟨first, others⟩ := List.forall_mem_cons.mp read
      obtain ⟨rfl, rest⟩ := first b _ _ (noDigitFirst_rows bracket as x) (noDigitFirst_rows bracket bs y) same
      obtain ⟨rfl, follows⟩ := rows_append_inj bracket apart others rest
      exact ⟨rfl, follows⟩

/-- What stands in joined texts stands in one of them or in the separator. -/
theorem mem_joinWith {separator : Text} {ts : List Text} {c : CodePoint} (member : c ∈ Text.joinWith separator ts) :
    c ∈ separator ∨ ∃ t ∈ ts, c ∈ t := by
  cases ts with
  | nil => cases member
  | cons t rest =>
    rw [joinWith_cons, List.mem_append, List.mem_flatMap] at member
    rcases member with first | ⟨u, among, written⟩
    · exact Or.inr ⟨t, List.mem_cons_self, first⟩
    · rcases List.mem_append.mp written with between | inside
      · exact Or.inl between
      · exact Or.inr ⟨u, List.mem_cons_of_mem t among, inside⟩

end Rows

/-! ## Documents -/

/-- Items are written one by one. -/
theorem renderItems_eq (s : Style) (depth : Nat) (items : List Json) :
    renderItems s depth items = items.map (render s depth) := by
  induction items with
  | nil => rfl
  | cons x rest ih => rw [renderItems, ih, List.map_cons]

/-- A member as it is written. -/
def renderMember (s : Style) (depth : Nat) (m : Text × Json) : Text := s.quote m.1 ++ s.colon ++ render s depth m.2

/-- Members are written one by one. -/
theorem renderMembers_eq (s : Style) (depth : Nat) (members : List (Text × Json)) :
    renderMembers s depth members = members.map (renderMember s depth) := by
  induction members with
  | nil => rfl
  | cons m rest ih =>
    obtain ⟨name, x⟩ := m
    rw [renderMembers, ih, List.map_cons]
    rfl

/-- In the compact style nothing but commas stands between two brackets and what they enclose. -/
theorem enclose_compact (depth : Nat) (left right : Text) (rows : List Text) :
    Style.compact.enclose depth left right rows = left ++ (Text.joinWith "," rows ++ right) := by
  cases rows with
  | nil => rfl
  | cons t rest => simp [Style.enclose, Style.compact, List.append_assoc]

/-- The kinds of documents. -/
inductive Shape where
  | null | bool | int | text | array | object
deriving DecidableEq

/-- The kind of a document. -/
def shape : Json → Shape
  | .null => .null
  | .bool _ => .bool
  | .int _ => .int
  | .text _ => .text
  | .array _ => .array
  | .object _ => .object

/-- The kind of the documents that begin with a code point. -/
def Shape.ofFirst? (c : CodePoint) : Option Shape :=
  if c = CodePoint.ofChar 'n' then some .null
  else if c = CodePoint.ofChar 't' ∨ c = CodePoint.ofChar 'f' then some .bool
  else if c = CodePoint.ofChar '"' then some .text
  else if c = CodePoint.ofChar '[' then some .array
  else if c = CodePoint.ofChar '\x7b' then some .object
  else if c.isDigit = true ∨ c = CodePoint.ofChar '-' then some .int
  else none

/-- A numeral is taken for an integer. -/
theorem Shape.ofFirst?_of_numeral {c : CodePoint} (numeral : c.isDigit = true ∨ c = CodePoint.ofChar '-') :
    Shape.ofFirst? c = some .int := by
  have apart : c ∉ [CodePoint.ofChar 'n', CodePoint.ofChar 't', CodePoint.ofChar 'f', CodePoint.ofChar '"',
      CodePoint.ofChar '[', CodePoint.ofChar '\x7b'] := by
    rcases numeral with digit | rfl
    · intro member
      have none : ([CodePoint.ofChar 'n', CodePoint.ofChar 't', CodePoint.ofChar 'f', CodePoint.ofChar '"',
        CodePoint.ofChar '[', CodePoint.ofChar '\x7b'].all fun c => !c.isDigit) = true := by decide
      have other := List.all_eq_true.mp none c member
      rw [digit] at other
      cases other
    · decide
  simp only [List.mem_cons, List.not_mem_nil, or_false, not_or] at apart
  obtain ⟨n, t, f, mark, bracket, brace⟩ := apart
  rw [Shape.ofFirst?, if_neg n, if_neg (not_or.mpr ⟨t, f⟩), if_neg mark, if_neg bracket, if_neg brace, if_pos numeral]

/-- The first code point of a document tells its kind. -/
theorem shape_of_first (depth : Nat) (j : Json) (x : Text) :
    ((render .compact depth j ++ x).head?).bind Shape.ofFirst? = some j.shape := by
  cases j with
  | null => rfl
  | bool b => cases b <;> rfl
  | int n =>
    rw [render]
    cases written : Text.ofInt n with
    | nil => exact absurd written (Text.ofInt_ne_nil n)
    | cons c rest => exact Shape.ofFirst?_of_numeral (Text.mem_ofInt (written ▸ List.mem_cons_self))
  | text t => rfl
  | array items =>
    rw [render, enclose_compact]
    rfl
  | object members =>
    rw [render, enclose_compact]
    rfl

/-- Documents whose texts begin alike are of one kind. -/
theorem shape_eq_of_append {d e : Nat} {j k : Json} {x y : Text}
    (same : render .compact d j ++ x = render .compact e k ++ y) : j.shape = k.shape := by
  have first := shape_of_first d j x
  rw [same, shape_of_first e k y] at first
  exact (Option.some.inj first).symm

/-- No document begins with a code point that begins no kind. -/
theorem head?_render_ne {c : CodePoint} (none : Shape.ofFirst? c = none) (depth : Nat) (j : Json) (x : Text) :
    (render .compact depth j ++ x).head? ≠ some c := by
  intro first
  have known := shape_of_first depth j x
  rw [first, Option.bind_some, none] at known
  cases known

/-- An array is written as its items, with commas between them, in square brackets. -/
theorem render_array_append (depth : Nat) (items : List Json) (x : Text) :
    render .compact depth (.array items) ++ x = CodePoint.ofChar '[' ::
      (Text.joinWith "," (items.map (render .compact (depth + 1))) ++ CodePoint.ofChar ']' :: x) := by
  rw [render, enclose_compact, renderItems_eq, List.append_assoc, List.append_assoc]
  rfl

/-- An object is written as its members, with commas between them, in curly brackets. -/
theorem render_object_append (depth : Nat) (members : List (Text × Json)) (x : Text) :
    render .compact depth (.object members) ++ x = CodePoint.ofChar '\x7b' ::
      (Text.joinWith "," (members.map (renderMember .compact (depth + 1))) ++ CodePoint.ofChar '\x7d' :: x) := by
  rw [render, enclose_compact, renderMembers_eq, List.append_assoc, List.append_assoc]
  rfl

/-- A member is told apart from what follows if its value is. -/
theorem readBack_renderMember {depth : Nat} {m : Text × Json} (read : ReadBack (render .compact depth) m.2) :
    ReadBack (renderMember .compact depth) m := by
  intro n x y hx hy same
  simp only [renderMember, List.append_assoc] at same
  obtain ⟨name, same⟩ := selfDelimiting_quote _ _ _ _ same
  obtain ⟨value, follows⟩ := read n.2 x y hx hy (List.append_cancel_left same)
  exact ⟨Prod.ext name value, follows⟩

/-- A document is told apart from what follows if no digit does. -/
theorem readBack_render (j : Json) (depth : Nat) : ReadBack (render .compact depth) j := by
  induction j using induct generalizing depth with
  | null =>
    intro k x y _ _ same
    cases k with
    | null => exact ⟨rfl, List.append_cancel_left same⟩
    | _ => cases shape_eq_of_append same
  | bool b =>
    intro k x y _ _ same
    cases k with
    | bool c =>
      cases b <;> cases c
      · exact ⟨rfl, List.append_cancel_left same⟩
      · exact absurd (List.cons.inj same).1 (by decide)
      · exact absurd (List.cons.inj same).1 (by decide)
      · exact ⟨rfl, List.append_cancel_left same⟩
    | _ => cases shape_eq_of_append same
  | int n =>
    intro k x y hx hy same
    cases k with
    | int m =>
      rw [render, render] at same
      obtain ⟨rfl, follows⟩ := Text.ofInt_append_inj hx hy same
      exact ⟨rfl, follows⟩
    | _ => cases shape_eq_of_append same
  | text t =>
    intro k x y _ _ same
    cases k with
    | text u =>
      rw [render, render] at same
      obtain ⟨rfl, follows⟩ := selfDelimiting_quote t u x y same
      exact ⟨rfl, follows⟩
    | _ => cases shape_eq_of_append same
  | array items ih =>
    intro k x y _ _ same
    cases k with
    | array others =>
      rw [render_array_append, render_array_append] at same
      obtain ⟨rfl, follows⟩ := joinWith_append_inj (by decide) (by decide) (head?_render_ne (by decide) (depth + 1))
        (fun j member => ih j member (depth + 1)) (List.tail_eq_of_cons_eq same)
      exact ⟨rfl, follows⟩
    | _ => cases shape_eq_of_append same
  | object members ih =>
    intro k x y _ _ same
    cases k with
    | object others =>
      rw [render_object_append, render_object_append] at same
      have opens : ∀ m x, (renderMember .compact (depth + 1) m ++ x).head? ≠ some (CodePoint.ofChar '\x7d') := by
        intro m x first
        cases first
      obtain ⟨rfl, follows⟩ := joinWith_append_inj (by decide) (by decide) opens
        (fun m member => readBack_renderMember (ih m member (depth + 1))) (List.tail_eq_of_cons_eq same)
      exact ⟨rfl, follows⟩
    | _ => cases shape_eq_of_append same

/-- A document is determined by its text. -/
theorem render_injective {depth : Nat} {j k : Json} (same : render .compact depth j = render .compact depth k) :
    j = k := by
  have whole : render .compact depth j ++ [] = render .compact depth k ++ [] := congrArg (· ++ []) same
  exact (readBack_render j depth k [] [] nofun nofun whole).1

/-- What is enclosed holds no NUL if neither the brackets nor the rows do. -/
theorem nul_notMem_enclose {left right : Text} (hl : 0 ∉ left) (hr : 0 ∉ right) {rows : List Text}
    (none : ∀ t ∈ rows, 0 ∉ t) (depth : Nat) : 0 ∉ Style.compact.enclose depth left right rows := by
  rw [enclose_compact, List.mem_append, List.mem_append]
  rintro (bracket | inside | bracket)
  · exact hl bracket
  · rcases mem_joinWith inside with comma | ⟨t, member, written⟩
    · exact absurd comma (by decide)
    · exact none t member written
  · exact hr bracket

/-- No document holds a NUL. -/
theorem nul_notMem_render (j : Json) (depth : Nat) : 0 ∉ render .compact depth j := by
  induction j using induct generalizing depth with
  | null =>
    rw [render]
    decide
  | bool b =>
    rw [render]
    cases b <;> decide
  | int n =>
    rw [render]
    intro member
    rcases Text.mem_ofInt member with digit | minus
    · cases digit
    · exact absurd minus (by decide)
  | text t =>
    rw [render]
    exact nul_notMem_quote t
  | array items ih =>
    rw [render, renderItems_eq]
    refine nul_notMem_enclose (by decide) (by decide) (List.forall_mem_map.mpr fun j member => ?_) depth
    exact ih j member (depth + 1)
  | object members ih =>
    rw [render, renderMembers_eq]
    refine nul_notMem_enclose (by decide) (by decide) (List.forall_mem_map.mpr fun m member => ?_) depth
    rw [renderMember, List.mem_append, List.mem_append]
    rintro ((name | colon) | value)
    · exact nul_notMem_quote m.1 name
    · exact absurd colon (by decide)
    · exact ih m member (depth + 1) value

/-! ## Lengths -/

/-- Commas make joined texts longer by at most one code point for each text. -/
theorem length_joinWith_le (ts : List Text) : (Text.joinWith "," ts).length ≤ (ts.map fun t => t.length + 1).sum := by
  cases ts with
  | nil => exact Nat.le_refl 0
  | cons t rest =>
    have commas : (rest.flatMap (("," : Text) ++ ·)).length = (rest.map fun t => t.length + 1).sum := by
      rw [List.length_flatMap]
      exact congrArg List.sum (List.map_congr_left fun u _ => by rw [List.length_append, Nat.add_comm]; rfl)
    rw [joinWith_cons, List.length_append, commas, List.map_cons, List.sum_cons]
    omega

/-- A document of texts under names is at most six times as long as these, but for marks, colons and commas. -/
theorem length_render_texts_le (depth : Nat) (members : List (Text × Text)) :
    (render .compact depth (.object (members.map fun m => (m.1, .text m.2)))).length ≤
      (members.map fun m => 6 * (m.1.length + m.2.length) + 6).sum + 2 := by
  have row : ∀ m ∈ members,
      (renderMember .compact (depth + 1) (m.1, .text m.2)).length + 1 ≤ 6 * (m.1.length + m.2.length) + 6 := by
    intro m _
    have name := length_quote_le m.1
    have text := length_quote_le m.2
    have colon : Style.compact.colon.length = 1 := rfl
    rw [renderMember, List.length_append, List.length_append, colon]
    dsimp only
    rw [render]
    omega
  have rows := length_joinWith_le ((members.map fun m => (m.1, Json.text m.2)).map (renderMember .compact (depth + 1)))
  rw [List.map_map, List.map_map] at rows
  have sum := Nat.le_trans rows (List.sum_le_sum row)
  rw [render, enclose_compact, renderMembers_eq, List.length_append, List.length_append, List.map_map]
  have brackets : ("\x7b" : Text).length = 1 ∧ ("\x7d" : Text).length = 1 := ⟨rfl, rfl⟩
  omega

end YieldPool.Json
