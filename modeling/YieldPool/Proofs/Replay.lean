import YieldPool.Proofs.Record.Codec
import YieldPool.Proofs.Transaction.Run
import YieldPool.Replay

/-!
# What a replay comes to

A document asks for a script of credits and requests (`Script.IsOf`). Where nothing stops a replay, the credits have
been made to an empty store and the requests answered one after the other (`run_of_mints`, `steps_eq_iff`), and what is
written are the reports of the answers and then the closing lines (`perform_eq_iff`, `lines_eq_iff`).
-/

namespace YieldPool.Replay

/-! ## Scripts -/

/-- What a document asks for: credits, and after them requests. -/
structure Script where
  credits : List Event
  requests : List Request

/-- An entry of the mints asks for a credit: it has account, asset and amount in a row. -/
def Mints (entry : Value) (credit : Event) : Prop :=
  ∃ account asset amount n, entry.items = .ok [account, asset, amount] ∧ amount.toInt = .ok n ∧
    credit = .credit account.display asset.display n

/-- A document asks for a script, entry by entry and transaction by transaction. -/
structure Script.IsOf (config : Config) (document : Value) (script : Script) : Prop where
  credits : ∃ entries, Store.listed document "mint" = .ok entries ∧ List.Forall₂ Mints entries script.credits
  requests : ∃ transactions, transactionsOf document = .ok transactions ∧
    List.Forall₂ (fun v r => requestOf config v = .ok r) transactions script.requests

/-- The events of a script, one after the other. -/
def Script.events (script : Script) (config : Config) : List Event :=
  script.credits ++ script.requests.map (.request config 0)

/-- A mint that is not refused is a credit. -/
theorem after_of_mint {s t : Store Ledger} {entry : Value} (h : mint s entry = .ok t) :
    ∃ credit, Mints entry credit ∧ s.after credit = t := by
  simp only [mint, bind_eq_ok_iff, liftM, monadLift, MonadLift.monadLift, mapError_eq_ok_iff] at h
  obtain ⟨items, listed, h⟩ := h
  split at h
  · rename_i account asset amount
    simp only [bind_eq_ok_iff, mapError_eq_ok_iff] at h
    obtain ⟨n, read, credited⟩ := h
    refine ⟨_, ⟨account, asset, amount, n, listed, read, rfl⟩, ?_⟩
    simp only [Store.after, Store.afterCredit, credited]
  · cases h

/-- Mints that are not refused are credits, one after the other. -/
theorem run_of_mints {s t : Store Ledger} {entries : List Value} (h : entries.foldlM mint s = .ok t) :
    ∃ credits, List.Forall₂ Mints entries credits ∧ s.run credits = t := by
  induction entries generalizing s with
  | nil => exact ⟨[], .nil, Except.ok.inj h⟩
  | cons entry rest ih =>
    rw [List.foldlM_cons, bind_eq_ok_iff] at h
    obtain ⟨next, first, others⟩ := h
    obtain ⟨credit, minted, rfl⟩ := after_of_mint first
    obtain ⟨credits, all, rfl⟩ := ih others
    exact ⟨credit :: credits, .cons minted all, rfl⟩

/-- A document mints a store exactly if it lists entries that can be credited one after the other. -/
theorem minted_eq_ok_iff {document : Value} {s : Store Ledger} :
    minted document = .ok s ↔
      ∃ entries, Store.listed document "mint" = .ok entries ∧ entries.foldlM mint Store.empty = .ok s := by
  have same : minted document = Store.listed document "mint" >>= fun entries => entries.foldlM mint Store.empty :=
    (bind_assoc _ _ _).symm
  rw [same, bind_eq_ok_iff]

/-! ## Answers -/

/-- Requests are answered with results, one after the other. A transaction gives its time, so no clock is read. -/
inductive Answered (config : Config) : Store Ledger → List Request → List TxResult → Store Ledger → Prop
  | nil (s : Store Ledger) : Answered config s [] [] s
  | cons {s next t : Store Ledger} {r : Request} {result : TxResult} {requests : List Request} {results : List TxResult}
      (first : Transaction.apply config 0 r s = .ok (next, result)) (others : Answered config next requests results t) :
      Answered config s (r :: requests) (result :: results) t

variable {config : Config} {s t : Store Ledger} {requests : List Request} {results : List TxResult}

/-- Requests that are answered one after the other lead to the store that their events lead to. -/
theorem Answered.run (h : Answered config s requests results t) :
    s.run (requests.map (.request config 0)) = t := by
  induction h with
  | nil s => rfl
  | cons first others ih =>
    simpa only [List.map_cons, Store.run, List.foldl_cons, Store.after, Store.afterRequest, first] using ih

/-- A transaction is taken up exactly if it can be read and answered; its result is put behind the others. -/
theorem step_eq_ok_iff {p next : Progress} {v : Value} :
    step config p v = .ok next ↔
      ∃ r, requestOf config v = .ok r ∧ ∃ t result, Transaction.apply config 0 r p.store = .ok (t, result) ∧
        ⟨t, p.results ++ [result]⟩ = next := by
  simp only [step, bind_eq_ok_iff, Prod.exists, pure, Except.pure, Except.ok.injEq]

/-- Where nothing stops a replay, every transaction makes a request, and the requests are answered. -/
theorem steps_eq_iff {p q : Progress} {transactions : List Value} :
    steps config p transactions = (q, none) ↔
      ∃ requests, List.Forall₂ (fun v r => requestOf config v = .ok r) transactions requests ∧
        ∃ results t, Answered config p.store requests results t ∧ ⟨t, p.results ++ results⟩ = q := by
  induction transactions generalizing p with
  | nil =>
    constructor
    · intro h
      cases h
      exact ⟨[], .nil, [], q.store, .nil _, by rw [List.append_nil]⟩
    · rintro ⟨_, none, results, t, answered, rfl⟩
      cases none
      cases answered
      rw [steps, List.append_nil]
  | cons v rest ih =>
    rw [steps]
    constructor
    · intro h
      cases stepped : step config p v with
      | error e =>
        rw [stepped] at h
        cases h
      | ok next =>
        rw [stepped] at h
        obtain ⟨r, requested, t₁, result, applied, rfl⟩ := step_eq_ok_iff.mp stepped
        obtain ⟨requests, all, results, t, answered, rfl⟩ := ih.mp h
        exact ⟨r :: requests, .cons requested all, result :: results, t, .cons applied answered, by
          rw [List.append_assoc, List.singleton_append]⟩
    · rintro ⟨_, all, results, t, answered, rfl⟩
      cases all with
      | cons requested others =>
      cases answered with
      | cons first answered =>
      rw [step_eq_ok_iff.mpr ⟨_, requested, _, _, first, rfl⟩]
      refine ih.mpr ⟨_, others, _, t, answered, ?_⟩
      rw [List.append_assoc, List.singleton_append]

/-! ## What is written -/

/-- A line about a transaction: its index, and an effect or a rejection. -/
inductive Report where
  | effect (index : Nat) (e : Effect)
  | rejection (index : Nat) (code message : Text)

namespace Report

/-- How a line about the transaction with an index begins. -/
def heading (index : Nat) : Text := "[farm-replay] tx " ++ Text.ofNat index ++ ": "

/-- The line as it is written. -/
def line : Report → Text
  | .effect index e => heading index ++ e.toJson.toLine
  | .rejection index code message => heading index ++ "REJECTED (" ++ code ++ ") " ++ message

/-- The effect that a line is about. -/
def effect? : Report → Option Effect
  | .effect _ e => some e
  | .rejection .. => none

/-- The lines about the transaction with an index. -/
def ofResult (index : Nat) : TxResult → List Report
  | .accepted effects => effects.map (.effect index)
  | .rejected code message => [.rejection index code message]

/-- The lines about transactions of which the first has a given index. -/
def ofResults (index : Nat) : List TxResult → List Report
  | [] => []
  | result :: rest => ofResult index result ++ ofResults (index + 1) rest

/-- The lines of a result are those of its reports. -/
theorem map_line_ofResult (index : Nat) (result : TxResult) :
    (ofResult index result).map line = linesOf index result := by
  cases result with
  | accepted effects => simp only [ofResult, List.map_map, linesOf]; rfl
  | rejected code message => rfl

/-- The lines of all results are those of their reports. -/
theorem map_line_ofResults (index : Nat) (results : List TxResult) :
    (ofResults index results).map line = linesFrom index results := by
  induction results generalizing index with
  | nil => rfl
  | cons result rest ih => rw [ofResults, List.map_append, map_line_ofResult, ih, linesFrom]

end Report

/-- The lines after those about transactions: the snapshot if wanted, and the commitment with the number of
rejections. -/
def closing (showSnapshot : Bool) (s : Store Ledger) (commitment : Text) (rejections : Nat) : List Text :=
  (if showSnapshot then [s.snapshot.toLines] else []) ++
    ["[farm-replay] commitment=" ++ commitment ++ " rejected=" ++ Text.ofNat rejections]

/-- The last line states the commitment of the store, which it must have, and counts the rejections. -/
theorem closingLine_eq_ok_iff {p : Progress} {line : Text} :
    closingLine p = .ok line ↔
      ∃ commitment, p.store.commitment = .ok commitment ∧
        ("[farm-replay] commitment=" ++ commitment ++ " rejected=" ++ Text.ofNat p.rejected : Text) = line := by
  simp only [closingLine, bind_eq_ok_iff, pure, Except.pure, Except.ok.injEq]

/-- The lines of a replay are those of its reports, and the closing ones. -/
theorem lines_append_closing (showSnapshot : Bool) (p : Progress) (commitment : Text) :
    (if showSnapshot then p.lines ++ [p.store.snapshot.toLines] else p.lines) ++
        ["[farm-replay] commitment=" ++ commitment ++ " rejected=" ++ Text.ofNat p.rejected] =
      (Report.ofResults 0 p.results).map Report.line ++ closing showSnapshot p.store commitment p.rejected := by
  rw [Report.map_line_ofResults]
  cases showSnapshot with
  | false => rfl
  | true => exact List.append_assoc p.lines _ _

/-- A replay ends without a failure exactly if it mints a store, reads and answers every transaction, and the store has
a commitment; its lines are those of its reports and the closing ones. -/
theorem lines_eq_iff {showSnapshot : Bool} {document : Value} {written : List Text} :
    lines config showSnapshot document = (written, none) ↔
      ∃ s, minted document = .ok s ∧ ∃ transactions, transactionsOf document = .ok transactions ∧
        ∃ p, steps config ⟨s, []⟩ transactions = (p, none) ∧ ∃ commitment, p.store.commitment = .ok commitment ∧
          (Report.ofResults 0 p.results).map Report.line ++ closing showSnapshot p.store commitment p.rejected =
            written := by
  constructor
  · intro returned
    unfold lines at returned
    split at returned
    · cases returned
    · cases returned
    · rename_i s transactions store listed
      split at returned
      · cases returned
      · rename_i p ran
        dsimp only at returned
        split at returned
        · rename_i line closed
          obtain ⟨commitment, committed, rfl⟩ := closingLine_eq_ok_iff.mp closed
          refine ⟨s, store, transactions, listed, p, ran, commitment, committed, ?_⟩
          exact (lines_append_closing showSnapshot p commitment).symm.trans (Prod.mk.inj returned).1
        · cases returned
  · rintro ⟨s, store, transactions, listed, p, ran, commitment, committed, rfl⟩
    have closed := closingLine_eq_ok_iff.mpr ⟨commitment, committed, rfl⟩
    simp only [lines, store, listed, ran, closed, lines_append_closing]

/-- What stops a replay is the configuration, the text of the document, or the document itself. -/
theorem perform_eq_iff {file : Option Value} {e : Environment} {showSnapshot : Bool} {document : Except Error Value}
    {written : List Text} :
    perform file e showSnapshot document = (written, none) ↔
      ∃ config, Config.load file e = .ok config ∧ ∃ content, document = .ok content ∧
        lines config showSnapshot content = (written, none) := by
  unfold perform
  cases loaded : Config.load file e with
  | error refusal => simp
  | ok config =>
    cases document with
    | error refusal => simp
    | ok content => simp

end YieldPool.Replay
