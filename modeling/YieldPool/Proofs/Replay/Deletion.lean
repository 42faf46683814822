import YieldPool.Proofs.Replay
import YieldPool.Proofs.Store.Restore

/-!
# Replays without the rejected transactions

Transactions are deleted from a document by marks, one for each transaction. What a document mints does not change, and
its requests are those that are left. A rejected request leaves the store as it was, so those that were accepted are
answered as before; nothing but the indices of their lines is different (`rejected_leave_no_trace`).
-/

namespace YieldPool

/-! ## Marks -/

section Marked

variable {α β : Type}

/-- The members of a list that are marked. -/
def marked : List Bool → List α → List α
  | mark :: marks, x :: xs => if mark then x :: marked marks xs else marked marks xs
  | _, _ => []

/-- Marked rows are made of the rows that are marked. -/
theorem marked_map (f : α → β) (marks : List Bool) (xs : List α) :
    marked marks (xs.map f) = (marked marks xs).map f := by
  induction xs generalizing marks with
  | nil => cases marks <;> rfl
  | cons x xs ih =>
    cases marks with
    | nil => rfl
    | cons mark marks => cases mark <;> simp [marked, ih]

/-- What holds of rows side by side holds of those that are marked. -/
theorem forall₂_marked {R : α → β → Prop} {xs : List α} {ys : List β} (h : List.Forall₂ R xs ys) (marks : List Bool) :
    List.Forall₂ R (marked marks xs) (marked marks ys) := by
  induction h generalizing marks with
  | nil => cases marks <;> exact .nil
  | cons first others ih =>
    cases marks with
    | nil => exact .nil
    | cons mark marks =>
      cases mark with
      | false => exact ih marks
      | true => exact .cons first (ih marks)

end Marked

namespace Value

/-- A value with those of its items that are marked. -/
def keep (marks : List Bool) : Value → Value
  | .list items => .list (marked marks items)
  | .tuple items => .tuple (marked marks items)
  | .queue items => .queue (marked marks items)
  | .dictionary entries => .dictionary (marked marks entries)
  | .view entries => .view (marked marks entries)
  | .text t => .text (marked marks t)
  | .bytes bs => .bytes (marked marks bs)
  | v => v

/-- The items of a value are those that are marked. -/
theorem items_keep {v : Value} {xs : List Value} (h : v.items = .ok xs) (marks : List Bool) :
    (v.keep marks).items = .ok (marked marks xs) := by
  cases v with
  | list items | tuple items | queue items | dictionary entries | view entries | text t | bytes bs =>
    cases h
    simp only [keep, items, Entries.keys, marked_map]
  | null | bool b | int n | float x | status s => cases h

/-- The entries of a dictionary with the value under a text changed. -/
def Entries.change (name : Text) (f : Value → Value) (entries : Entries) : Entries :=
  entries.map fun entry => match entry.1 with
    | .text t => (entry.1, if t = name then f entry.2 else entry.2)
    | _ => entry

/-- A change under a name is found there and nowhere else. -/
theorem Entries.get?_change (name : Text) (f : Value → Value) (entries : Entries) (other : Text) :
    (entries.change name f).get? other = (entries.get? other).map (if other = name then f else id) := by
  induction entries with
  | nil => rfl
  | cons entry rest ih =>
    obtain ⟨key, v⟩ := entry
    cases key with
    | text t =>
      have unfolded : change name f ((text t, v) :: rest) =
          (text t, if t = name then f v else v) :: change name f rest := rfl
      rw [unfolded, get?_cons_text, get?_cons_text, ih]
      by_cases same : t = other
      · subst same
        by_cases changed : t = name <;> simp [changed]
      · rw [if_neg same, if_neg same]
    | _ => exact ih

end Value

namespace Replay

/-- A document with those of its transactions that are marked. -/
def keep (marks : List Bool) : Value → Value
  | .dictionary entries => .dictionary (Value.Entries.change "transactions" (Value.keep marks) entries)
  | .view entries => .view (Value.Entries.change "transactions" (Value.keep marks) entries)
  | v => v

/-- A document stays a mapping, with its transactions thinned out. -/
theorem mapping?_keep {document : Value} {entries : Value.Entries} (mapping : document.mapping? = some entries)
    (marks : List Bool) :
    (keep marks document).mapping? = some (Value.Entries.change "transactions" (Value.keep marks) entries) := by
  cases document with
  | dictionary | view =>
    cases mapping
    rfl
  | _ => cases mapping

/-- The transactions of a thinned out document are those that are marked. -/
theorem transactionsOf_keep {document : Value} {transactions : List Value}
    (h : transactionsOf document = .ok transactions) (marks : List Bool) :
    transactionsOf (keep marks document) = .ok (marked marks transactions) := by
  obtain ⟨entries, mapping, listed⟩ := Store.listed_eq_ok_iff.mp h
  refine Store.listed_eq_ok_iff.mpr ⟨_, mapping?_keep mapping marks, ?_⟩
  rw [Value.Entries.get?_change, if_pos rfl]
  have kept := Value.items_keep listed marks
  cases found : Value.Entries.get? entries "transactions" with
  | some v => rwa [found] at kept
  | none =>
    rw [found] at kept
    cases marks <;> exact kept

/-- A thinned out document mints the same store. -/
theorem minted_keep {document : Value} {s : Store Ledger} (h : minted document = .ok s) (marks : List Bool) :
    minted (keep marks document) = .ok s := by
  obtain ⟨mints, listed, credited⟩ := minted_eq_ok_iff.mp h
  obtain ⟨entries, mapping, listed⟩ := Store.listed_eq_ok_iff.mp listed
  refine minted_eq_ok_iff.mpr ⟨mints, Store.listed_eq_ok_iff.mpr ⟨_, mapping?_keep mapping marks, ?_⟩, credited⟩
  rwa [Value.Entries.get?_change, if_neg (by decide), Option.map_id]

/-! ## Without the rejected ones -/

/-- Whether a request was accepted. -/
def isAccepted (result : TxResult) : Bool := !isRejected result

/-- Among what is accepted nothing is rejected. -/
theorem countP_isRejected_filter_isAccepted (results : List TxResult) :
    (results.filter isAccepted).countP isRejected = 0 := by
  refine List.countP_eq_zero.mpr fun result member => ?_
  simpa [isAccepted] using (List.mem_filter.mp member).2

variable {config : Config} {s t : Store Ledger} {requests : List Request} {results : List TxResult}

/-- The accepted requests are answered as before, and come to the same store. A rejection leaves the store, so what
comes after it is answered from the store before. -/
theorem Answered.accepted (h : Answered config s requests results t) :
    Answered config s (marked (results.map isAccepted) requests) (results.filter isAccepted) t := by
  induction h with
  | nil s => exact .nil s
  | @cons s next t r result requests results first others ih =>
    cases result with
    | accepted effects => exact .cons first ih
    | rejected code message =>
      obtain rfl := Transaction.store_of_rejected first
      exact ih

namespace Report

/-- An accepted result reports its effects. -/
theorem map_effect?_accepted (index : Nat) (effects : List Effect) :
    (ofResult index (.accepted effects)).map effect? = effects.map some := List.map_map

/-- An accepted result reports its effects and nothing else. -/
theorem filterMap_effect?_accepted (index : Nat) (effects : List Effect) :
    (ofResult index (.accepted effects)).filterMap effect? = effects :=
  List.filterMap_map.trans List.filterMap_some

/-- Without the rejected requests every line is about an effect, and the effects are the same in the same order. -/
theorem effects_ofResults_accepted (results : List TxResult) (i j : Nat) :
    (ofResults j (results.filter isAccepted)).map effect? = ((ofResults i results).filterMap effect?).map some := by
  induction results generalizing i j with
  | nil => rfl
  | cons result rest ih =>
    cases result with
    | accepted effects =>
      rw [List.filter_cons_of_pos rfl, ofResults, ofResults, List.map_append, List.filterMap_append, List.map_append,
        map_effect?_accepted, filterMap_effect?_accepted, ih (i + 1) (j + 1)]
    | rejected code message => exact ih (i + 1) j

end Report

/-- Rejected transactions leave no trace in a replay. Where nothing stops it, the number of rejections that is written
is that of the requests that were rejected, and the commitment, and the snapshot if wanted, are those of the store that
comes of crediting the mints and applying the requests one after the other. Without the rejected transactions nothing
stops the replay either: it writes the same snapshot and commitment and no rejection, and its other lines are about the
same effects in the same order. -/
theorem rejected_leave_no_trace (file : Option Value) (e : Environment) (showSnapshot : Bool)
    (document : Except Error Value) (written : List Text)
    (returned : perform file e showSnapshot document = (written, none)) :
    ∃ config content script results t commitment,
      Config.load file e = .ok config ∧ document = .ok content ∧ Script.IsOf config content script ∧
      minted content = .ok (Store.empty.run script.credits) ∧
      Answered config (Store.empty.run script.credits) script.requests results t ∧
      t = Store.empty.run (script.events config) ∧ t.commitment = .ok commitment ∧
      written = (Report.ofResults 0 results).map Report.line ++
        closing showSnapshot t commitment (results.countP isRejected) ∧
      perform file e showSnapshot (.ok (keep (results.map isAccepted) content)) =
        ((Report.ofResults 0 (results.filter isAccepted)).map Report.line ++ closing showSnapshot t commitment 0,
          none) ∧
      (Report.ofResults 0 (results.filter isAccepted)).map Report.effect? =
        ((Report.ofResults 0 results).filterMap Report.effect?).map some := by
  obtain ⟨config, loaded, content, rfl, played⟩ := perform_eq_iff.mp returned
  obtain ⟨s, credited, transactions, listed, p, ran, commitment, committed, rfl⟩ := lines_eq_iff.mp played
  obtain ⟨requests, requested, results, t, answered, rfl⟩ := steps_eq_iff.mp ran
  obtain ⟨entries, mints, folded⟩ := minted_eq_ok_iff.mp credited
  obtain ⟨credits, minting, rfl⟩ := run_of_mints folded
  have store : t = Store.empty.run (Script.events ⟨credits, requests⟩ config) := by
    rw [Script.events, Store.run, List.foldl_append]
    exact answered.run.symm
  have again : steps config ⟨Store.empty.run credits, []⟩ (marked (results.map isAccepted) transactions) =
      (⟨t, results.filter isAccepted⟩, none) :=
    steps_eq_iff.mpr ⟨_, forall₂_marked requested _, _, t, answered.accepted, rfl⟩
  refine ⟨config, content, ⟨credits, requests⟩, results, t, commitment, loaded, rfl,
    ⟨⟨entries, mints, minting⟩, ⟨transactions, listed, requested⟩⟩, credited, answered, store, committed, rfl, ?_,
    Report.effects_ofResults_accepted results 0 0⟩
  refine perform_eq_iff.mpr ⟨config, loaded, _, rfl, lines_eq_iff.mpr ⟨_, minted_keep credited _, _,
    transactionsOf_keep listed _, _, again, commitment, committed, ?_⟩⟩
  rw [Progress.rejected, countP_isRejected_filter_isAccepted]

/-- An operation on a pool that names neither module nor version. -/
def operation (action : Text) (fields : Value.Entries) : Value :=
  .dictionary ([(.text "action", .text action), (.text "pool_id", .text "p")] ++ fields)

/-- A transaction of a document. -/
def transaction (sender : Text) (now : Int) (operations : List Value) : Value :=
  .dictionary [(.text "sender", .text sender), (.text "now", .int now), (.text "ops", .list operations)]

/-- The staker takes four tokens back and then more than are left, in one transaction, and harvests in the next. -/
def overdrawn : Value :=
  .dictionary [
    (.text "mint", .list [.list [.text "o", .text "r", .int 1000], .list [.text "a", .text "s", .int 10]]),
    (.text "transactions", .list [
      transaction "o" 0 [operation "initialize_pool" (openingFor "s" "r"),
        operation "seed" [(.text "amount", .int 1000)]],
      transaction "a" 0 [operation "stake" [(.text "amount", .int 10)]],
      transaction "a" 25 [operation "unstake" [(.text "amount", .int 4)],
        operation "unstake" [(.text "amount", .int 7)]],
      transaction "a" 25 [operation "harvest" []]])]

/-- Which requests of a document are accepted. -/
def accepting (document : Value) : Except Error (List Bool) := do
  let s ← minted document
  let transactions ← transactionsOf document
  return (steps {} ⟨s, []⟩ transactions).1.results.map isAccepted

/-- A transaction that overdraws is rejected among four. Without it the document is replayed to the same commitment,
with the lines of the other three. -/
theorem rejected_leave_no_trace_overdrawn :
    ∃ written results t commitment,
      perform none {} true (.ok overdrawn) = (written, none) ∧ results.map isAccepted = [true, true, false, true] ∧
      t.commitment = .ok commitment ∧
      written = (Report.ofResults 0 results).map Report.line ++ closing true t commitment 1 ∧
      perform none {} true (.ok (keep [true, true, false, true] overdrawn)) =
        ((Report.ofResults 0 (results.filter isAccepted)).map Report.line ++ closing true t commitment 0, none) := by
  have unstopped : (perform none {} true (.ok overdrawn)).2.isNone = true := by decide +kernel
  rcases returned : perform none {} true (.ok overdrawn) with ⟨written, failure⟩
  rw [returned] at unstopped
  obtain rfl := Option.isNone_iff_eq_none.mp unstopped
  obtain ⟨config, content, script, results, t, commitment, loaded, same, asked, credited, answered, -, committed, lines,
    without, -⟩ := rejected_leave_no_trace none {} true (.ok overdrawn) written returned
  cases same
  have defaults : Config.load none {} = .ok {} := rfl
  obtain rfl := Except.ok.inj (defaults.symm.trans loaded)
  obtain ⟨transactions, listed, requested⟩ := asked.requests
  have ran : steps {} ⟨Store.empty.run script.credits, []⟩ transactions = (⟨t, results⟩, none) :=
    steps_eq_iff.mpr ⟨_, requested, results, t, answered, rfl⟩
  have marks : results.map isAccepted = [true, true, false, true] := by
    have evaluated : accepting overdrawn = .ok [true, true, false, true] := toOption_eq_some_iff.mp (by decide +kernel)
    simpa only [accepting, credited, listed, ran, bind, Except.bind, pure, Except.pure,
      Except.ok.injEq] using evaluated
  have one : results.countP isRejected = 1 := by
    have counted := congrArg (List.countP not) marks
    simpa [List.countP_map, Function.comp_def, isAccepted] using counted
  rw [marks] at without
  rw [one] at lines
  exact ⟨written, results, t, commitment, rfl, marks, committed, lines, without⟩

end Replay

end YieldPool
