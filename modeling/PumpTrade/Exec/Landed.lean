import PumpTrade.Exec.Collector
import PumpTrade.Swqos.PollSound

/-!
# Which errors tell of a landed transaction

`poll_any_transaction_confirmation` turns the error of a fetched transaction into a code and a text;
`is_landed_error` reads off the code and the text whether a transaction landed.

* `FailedOnChain`: the turn that ended the polling fetched a transaction with an error;
* `TransactionError.Recognised`: the errors whose code and text are read back;
* `poll_error_iff`: which errors polling returns for those;
* **`classifiesLanded_iff`**: the two sides agree where every fetched error is recognised.
-/

namespace PumpTrade

variable {texts : Texts} {signatures : List Signature} {rounds : List PollRound} {err : TransactionError}
  {logs : Option (List String)}

variable (signatures rounds) in
/-- The turn that ends the polling fetches a transaction with this error and these logs. -/
def FailedOnChain (err : TransactionError) (logs : Option (List String)) : Prop :=
  ∃ before round after statuses landed details, rounds = before ++ round :: after ∧
    StillPolling signatures before ∧ 9 ≤ before.length ∧ round.statuses = .ok statuses ∧
    firstConfirmed signatures statuses = none ∧ firstSeen signatures (before ++ [round]) = some landed ∧
    round.details landed = .ok (some details) ∧ details.err = some (.ok err) ∧ details.logMessages = logs

variable (texts signatures rounds) in
/-- An error of polling is taken for that of a landed transaction exactly where it was built from
one. -/
def ClassifiesLanded (waitConfirmation : Bool) : Prop :=
  ∀ e, pollAnyTransactionConfirmation texts signatures waitConfirmation rounds = .error e →
    (isLandedError e ↔ ∃ err logs, FailedOnChain signatures rounds err logs)

variable (texts) in
/-- The error of an instruction, other than the custom code 0, and other than the custom code 500
with a text or logs that speak of a timeout. -/
def TransactionError.Recognised (err : TransactionError) (logs : Option (List String)) : Prop :=
  match err with
  | .instructionError _ (.custom code) => code ≠ 0 ∧
    (code = 500 → containsText (texts.displayTransactionError err ++ " " ++
      texts.debugText (errorMessage (logs.getD []))) "timed out" = false)
  | .instructionError _ _ => True
  | .other _ => False

/-- **What is read back** of an error that was built from the chain's. -/
theorem isLandedError_landedError :
    isLandedError (.trade (landedError texts err logs)) ↔ err.Recognised texts logs := by
  cases err with
  | instructionError index error =>
    cases error with
    | custom code =>
      simp only [isLandedError, landedError, InstructionError.code, TransactionError.Recognised]
      by_cases hcode : code = 500
      · subst hcode
        simp
      · simp [hcode, UInt32.pos_iff_ne_zero]
    | _ => simp [isLandedError, landedError, InstructionError.code, TransactionError.Recognised]
  | other name => simp [isLandedError, landedError, TransactionError.Recognised]

/-! ## Polling -/

theorem FailedOnChain.ne_nil (h : FailedOnChain signatures rounds err logs) : signatures ≠ [] := by
  obtain ⟨before, round, after, statuses, landed, details, -, -, -, -, -, hseen, -⟩ := h
  obtain ⟨_, _, _, hshows⟩ := exists_shows hseen
  exact List.ne_nil_of_mem hshows.mem

theorem FailedOnChain.poll (texts : Texts) (h : FailedOnChain signatures rounds err logs) :
    pollAnyTransactionConfirmation texts signatures true rounds =
      .error (.trade (landedError texts err logs)) := by
  have hne := h.ne_nil
  obtain ⟨before, round, after, statuses, landed, details, rfl, hstill, hlate, hstatuses, hnone, hseen,
    hdetails, herr, rfl⟩ := h
  have hverdict : verdict texts landed details =
      .error (.trade (landedError texts err details.logMessages)) := by simp [verdict, herr]
  rw [← hverdict]
  exact poll_eq_of_decides hne hstill (.landed hstatuses hnone hlate hseen hdetails)

theorem exists_failedOnChain (hclient : ∀ round ∈ rounds, round.FromClient) {e : TradeError}
    {waitConfirmation : Bool}
    (h : pollAnyTransactionConfirmation texts signatures waitConfirmation rounds = .error (.trade e)) :
    ∃ err logs, FailedOnChain signatures rounds err logs := by
  have hne : signatures ≠ [] := by
    rintro rfl
    cases h
  have hwait : waitConfirmation = true := by
    obtain ⟨signature, rest, rfl⟩ := List.exists_cons_of_ne_nil hne
    cases waitConfirmation with
    | true => rfl
    | false => cases h
  subst hwait
  rcases poll_result texts hne rounds with
    ⟨-, htimeout⟩ | ⟨before, round, after, rfl, hstill, hdecides⟩
  · rw [htimeout] at h
    cases h
  · rw [h] at hdecides
    obtain ⟨statuses, landed, details, err, hstatuses, hnone, hlate, hseen, hdetails, herr, -⟩ :=
      hdecides.trade (hclient round (by simp))
    exact ⟨err, details.logMessages, before, round, after, statuses, landed, details, rfl, hstill, hlate,
      hstatuses, hnone, hseen, hdetails, herr, rfl⟩

/-- **Where the classification matches the poller**: without waiting always, and else where the
error that was fetched, if any, is recognised. -/
theorem classifiesLanded_iff (texts : Texts) (signatures : List Signature) (waitConfirmation : Bool)
    (rounds : List PollRound) (hclient : ∀ round ∈ rounds, round.FromClient) :
    ClassifiesLanded texts signatures rounds waitConfirmation ↔ (waitConfirmation = true →
      ∀ err logs, FailedOnChain signatures rounds err logs → err.Recognised texts logs) := by
  constructor
  · rintro h rfl err logs hfailed
    exact isLandedError_landedError.mp ((h _ (hfailed.poll texts)).mpr ⟨err, logs, hfailed⟩)
  · intro h e he
    constructor
    · intro hlanded
      cases e with
      | trade e => exact exists_failedOnChain hclient he
      | other message => cases hlanded
    · rintro ⟨err, logs, hfailed⟩
      obtain ⟨signature, rest, rfl⟩ := List.exists_cons_of_ne_nil hfailed.ne_nil
      cases waitConfirmation with
      | false => cases he
      | true =>
        obtain rfl := Except.error.inj ((hfailed.poll texts).symm.trans he)
        exact isLandedError_landedError.mpr (h rfl err logs hfailed)

/-! ### A custom code of zero -/

/-- The first transaction has failed on chain with this error. -/
def failedRound (err : TransactionError) : PollRound where
  statuses := .ok [some ⟨some err, some .confirmed⟩]
  details := fun _ => .ok (some ⟨some (.ok err), none⟩)

theorem failedRound_fromClient (err : TransactionError) : (failedRound err).FromClient where
  statuses := fun e h => by cases h
  details := fun signature details e h => by cases h; simp

theorem failedOnChain_failedRound (err : TransactionError) :
    FailedOnChain [⟨1⟩] (List.replicate 10 (failedRound err)) err none := by
  refine ⟨List.replicate 9 (failedRound err), failedRound err, [], _, _, _, rfl, ?_, le_rfl, rfl, rfl, rfl, rfl,
    rfl, rfl⟩
  refine stillPolling_of_length le_rfl fun round hround => ?_
  rw [List.eq_of_mem_replicate hround]
  exact ⟨_, rfl, rfl⟩

/-- A swap that exceeds its slippage is classified as it is polled: its custom code is not 0. -/
theorem classifiesLanded_slippage : ClassifiesLanded sampleTexts [⟨1⟩]
    (List.replicate 10 (failedRound (.instructionError 0 (.custom 6004)))) true := by
  have hclient : ∀ round ∈ List.replicate 10 (failedRound (.instructionError 0 (.custom 6004))),
      round.FromClient := fun _ hround => List.eq_of_mem_replicate hround ▸ failedRound_fromClient _
  refine (classifiesLanded_iff sampleTexts [⟨1⟩] true _ hclient).mpr fun _ err logs hfailed => ?_
  -- polling comes to one error only
  have hslippage := failedOnChain_failedRound (.instructionError 0 (.custom 6004))
  have hsame := Except.error.inj ((hfailed.poll sampleTexts).symm.trans (hslippage.poll sampleTexts))
  refine isLandedError_landedError.mp ?_
  rw [hsame]
  decide

/-- The system program's error for an account in use has the custom code 0. -/
theorem classifiesLanded_accountInUse :
    (∀ round ∈ List.replicate 10 (failedRound (.instructionError 0 (.custom 0))), round.FromClient) ∧
      ¬ ClassifiesLanded sampleTexts [⟨1⟩]
        (List.replicate 10 (failedRound (.instructionError 0 (.custom 0)))) true := by
  refine ⟨fun _ hround => List.eq_of_mem_replicate hround ▸ failedRound_fromClient _, fun h => ?_⟩
  have hfailed := failedOnChain_failedRound (.instructionError 0 (.custom 0))
  exact (isLandedError_landedError.mp ((h _ (hfailed.poll sampleTexts)).mpr ⟨_, _, hfailed⟩)).1 rfl

end PumpTrade
