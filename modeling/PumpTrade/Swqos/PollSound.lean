import PumpTrade.Swqos.PollRun

/-!
# What polling may conclude

* `ConfirmedBy`, `confirmedBy_of_poll`: what a success of polling rests on;
* **`poll_sound`**: a success is of a signature that was seen to succeed, a confirmed signature is
  returned in the turn that sees it, and a failure is that of a listed signature that landed;
* **`failureJustified_iff`**: which scripts make polling report a failure while another signature
  has an error-free status in the same answer.
-/

namespace PumpTrade

variable {texts : Texts} {signatures : List Signature} {rounds : List PollRound}

/-- The errors of the answer are those of the RPC client and of the conversion of what it
fetched. -/
structure PollRound.FromClient (round : PollRound) : Prop where
  statuses : ∀ e, round.statuses ≠ .error (.trade e)
  details : ∀ signature details e, round.details signature = .ok (some details) →
    details.err ≠ some (.error (.trade e))

/-- The answer has a status for the signature. -/
def PollRound.Shows (signatures : List Signature) (round : PollRound) (signature : Signature)
    (status : SignatureStatus) : Prop :=
  ∃ statuses, round.statuses = .ok statuses ∧ (signature, some status) ∈ signatures.zip statuses

theorem PollRound.Shows.mem {round : PollRound} {signature : Signature} {status : SignatureStatus}
    (h : round.Shows signatures signature status) : signature ∈ signatures := by
  obtain ⟨statuses, -, hmem⟩ := h
  exact (List.of_mem_zip hmem).1

theorem exists_shows {rounds : List PollRound} {signature : Signature}
    (h : firstSeen signatures rounds = some signature) :
    ∃ round ∈ rounds, ∃ status, round.Shows signatures signature status := by
  obtain ⟨round, hmem, statuses, hstatuses, status, hstatus⟩ := firstSeen_eq_some h
  exact ⟨round, hmem, status, statuses, hstatuses, hstatus⟩

theorem verdict_eq_ok {landed signature : Signature} {details : TransactionMeta} :
    verdict texts landed details = .ok signature ↔ landed = signature ∧ details.err = none := by
  unfold verdict
  cases details.err with
  | none => simp
  | some e => cases e <;> simp

theorem verdict_eq_trade {landed : Signature} {details : TransactionMeta} {e : TradeError}
    (hforeign : details.err ≠ some (.error (.trade e))) :
    verdict texts landed details = .error (.trade e) ↔
      ∃ err, details.err = some (.ok err) ∧ landedError texts err details.logMessages = e := by
  unfold verdict
  cases herr : details.err with
  | none => simp
  | some r =>
    cases r with
    | ok err => simp
    | error e' =>
      rw [herr] at hforeign
      simpa using hforeign

/-- A success is of a confirmed signature, or of one whose transaction has no error. -/
theorem Decides.ok {before : List PollRound} {round : PollRound} {signature : Signature}
    (h : Decides texts signatures before round (.ok signature)) :
    (∃ status, round.Shows signatures signature status ∧ status.Confirms) ∨
      (firstSeen signatures (before ++ [round]) = some signature ∧
        ∃ details, round.details signature = .ok (some details) ∧ details.err = none) := by
  generalize hr : (Except.ok signature : Except Error Signature) = r at h
  cases h with
  | failed => cases hr
  | confirmed hstatuses hfirst =>
    obtain rfl := Except.ok.inj hr
    obtain ⟨status, hmem, hconfirms⟩ := firstConfirmed_eq_some hfirst
    exact Or.inl ⟨status, ⟨_, hstatuses, hmem⟩, hconfirms⟩
  | landed hstatuses hnone hlate hseen hdetails =>
    obtain ⟨rfl, herr⟩ := verdict_eq_ok.mp hr.symm
    exact Or.inr ⟨hseen, _, hdetails, herr⟩

/-- A failure is of the signature that landed, and its transaction carries the error. -/
theorem Decides.trade {before : List PollRound} {round : PollRound} {e : TradeError}
    (hclient : round.FromClient) (h : Decides texts signatures before round (.error (.trade e))) :
    ∃ statuses signature details err, round.statuses = .ok statuses ∧
      firstConfirmed signatures statuses = none ∧ 9 ≤ before.length ∧
      firstSeen signatures (before ++ [round]) = some signature ∧
      round.details signature = .ok (some details) ∧ details.err = some (.ok err) ∧
      landedError texts err details.logMessages = e := by
  generalize hr : (Except.error (.trade e) : Except Error Signature) = r at h
  cases h with
  | failed hstatuses =>
    obtain rfl := Except.error.inj hr
    exact absurd hstatuses (hclient.statuses e)
  | confirmed => cases hr
  | landed hstatuses hnone hlate hseen hdetails =>
    obtain ⟨err, herr, he⟩ := (verdict_eq_trade (hclient.details _ _ e hdetails)).mp hr.symm
    exact ⟨_, _, _, err, hstatuses, hnone, hlate, hseen, hdetails, herr, he⟩

/-- The answers show that the signature has succeeded: by its status, or by the transaction itself. -/
def ConfirmedBy (rounds : List PollRound) (signatures : List Signature) (signature : Signature) : Prop :=
  (∃ round ∈ rounds, ∃ status, round.Shows signatures signature status ∧ status.Confirms) ∨
    ∃ round ∈ rounds, ∃ details, round.details signature = .ok (some details) ∧ details.err = none

/-- **What polling confirms** is a listed signature that has succeeded. -/
theorem confirmedBy_of_poll {signature : Signature}
    (h : pollAnyTransactionConfirmation texts signatures true rounds = .ok signature) :
    signature ∈ signatures ∧ ConfirmedBy rounds signatures signature := by
  have hne : signatures ≠ [] := by
    rintro rfl
    cases h
  rcases poll_result texts hne rounds with ⟨-, htimeout⟩ | ⟨before, round, after, hrounds, -, hdecides⟩
  · rw [htimeout] at h
    cases h
  · rw [h] at hdecides
    have hround : round ∈ rounds := by simp [hrounds]
    rcases hdecides.ok with ⟨status, hshows, hconfirms⟩ | ⟨hseen, details, hdetails, herr⟩
    · exact ⟨hshows.mem, Or.inl ⟨round, hround, status, hshows, hconfirms⟩⟩
    · obtain ⟨earlier, -, status, hshows⟩ := exists_shows hseen
      exact ⟨hshows.mem, Or.inr ⟨round, hround, details, hdetails, herr⟩⟩

/-- **Polling is sound and prefers success.** -/
theorem poll_sound (texts : Texts) (signatures : List Signature) (rounds : List PollRound)
    (hclient : ∀ round ∈ rounds, round.FromClient) :
    (∀ signature, pollAnyTransactionConfirmation texts signatures true rounds = .ok signature →
      signature ∈ signatures ∧
        ((∃ round ∈ rounds, ∃ status, round.Shows signatures signature status ∧ status.Confirms) ∨
          ∃ round ∈ rounds, ∃ details, round.details signature = .ok (some details) ∧ details.err = none)) ∧
    (∀ before round after statuses signature, StillPolling signatures before →
      round.statuses = .ok statuses → firstConfirmed signatures statuses = some signature →
      pollAnyTransactionConfirmation texts signatures true (before ++ round :: after) = .ok signature) ∧
    (∀ e, pollAnyTransactionConfirmation texts signatures true rounds = .error (.trade e) →
      ∃ before round after signature details err, rounds = before ++ round :: after ∧
        signature ∈ signatures ∧
        (∃ earlier ∈ before ++ [round], ∃ status, earlier.Shows signatures signature status) ∧
        round.details signature = .ok (some details) ∧ details.err = some (.ok err) ∧
        e = landedError texts err details.logMessages) ∧
    (signatures = [] → ∃ e, pollAnyTransactionConfirmation texts signatures true rounds = .error e) := by
  refine ⟨fun signature hok => ?_, fun before round after statuses signature hstill hstatuses hfirst => ?_,
    fun e herror => ?_, fun hnil => ?_⟩
  · have hne : signatures ≠ [] := by
      rintro rfl
      cases hok
    rcases poll_result texts hne rounds with
      ⟨-, htimeout⟩ | ⟨before, round, after, rfl, -, hdecides⟩
    · rw [htimeout] at hok
      cases hok
    · rw [hok] at hdecides
      have hround : round ∈ before ++ round :: after := by simp
      rcases hdecides.ok with ⟨status, hshows, hconfirms⟩ | ⟨hseen, details, hdetails, herr⟩
      · exact ⟨hshows.mem, Or.inl ⟨round, hround, status, hshows, hconfirms⟩⟩
      · obtain ⟨earlier, -, status, hshows⟩ := exists_shows hseen
        exact ⟨hshows.mem, Or.inr ⟨round, hround, details, hdetails, herr⟩⟩
  · have hne : signatures ≠ [] := by
      rintro rfl
      cases hfirst
    exact poll_eq_of_decides hne hstill (.confirmed hstatuses hfirst)
  · have hne : signatures ≠ [] := by
      rintro rfl
      cases herror
    rcases poll_result texts hne rounds with
      ⟨-, htimeout⟩ | ⟨before, round, after, rfl, -, hdecides⟩
    · rw [htimeout] at herror
      cases herror
    · rw [herror] at hdecides
      obtain ⟨-, signature, details, err, -, -, -, hseen, hdetails, herr, he⟩ :=
        hdecides.trade (hclient round (by simp))
      obtain ⟨earlier, hearlier, status, hshows⟩ := exists_shows hseen
      exact ⟨before, round, after, signature, details, err, rfl, hshows.mem,
        ⟨earlier, hearlier, status, hshows⟩, hdetails, herr, he.symm⟩
  · subst hnil
    exact ⟨_, rfl⟩

/-! ### Two services -/

/-- Packages that print one text. -/
def sampleTexts : Texts where
  displayTransactionError := fun _ => "Error processing Instruction 0"
  debugText := id

/-- The signatures of a trade that was sent through two services. -/
def sampleSignatures : List Signature := [⟨BitVec.ofNat 512 1⟩, ⟨BitVec.ofNat 512 2⟩]

/-- The transaction has failed on chain and is confirmed. -/
def failedStatus : SignatureStatus := ⟨some (.instructionError 0 (.custom 6002)), some .confirmed⟩

/-- The first transaction failed on chain, the second is confirmed. -/
def confirmedRound : PollRound where
  statuses := .ok [some failedStatus, some ⟨none, some .confirmed⟩]
  details := fun _ => .ok none

theorem confirmedRound_fromClient : confirmedRound.FromClient where
  statuses := fun e h => by cases h
  details := fun signature details e h => by cases h

theorem poll_sound_confirmed : pollAnyTransactionConfirmation sampleTexts sampleSignatures true
    [confirmedRound] = .ok ⟨BitVec.ofNat 512 2⟩ :=
  (poll_sound sampleTexts sampleSignatures [confirmedRound] fun round hround => by
    rw [List.mem_singleton.mp hround]
    exact confirmedRound_fromClient).2.1 [] confirmedRound [] _ _ (fun a r b h => by simp at h) rfl rfl

/-! ## Failures -/

variable (texts signatures rounds) in
/-- Where polling reports a failure on chain, no signature has an error-free status in that
answer. -/
def FailureJustified : Prop :=
  ∀ e, pollAnyTransactionConfirmation texts signatures true rounds = .error (.trade e) →
    ∃ before round after, rounds = before ++ round :: after ∧ StillPolling signatures before ∧
      Decides texts signatures before round (.error (.trade e)) ∧
      ∀ signature status, round.Shows signatures signature status → status.err ≠ none

variable (signatures rounds) in
/-- A failure of the signature that landed is fetched while another signature is still
succeeding. -/
def Misjudges : Prop :=
  ∃ before round after statuses landed details e, rounds = before ++ round :: after ∧
    StillPolling signatures before ∧ 9 ≤ before.length ∧
    round.statuses = .ok statuses ∧ firstConfirmed signatures statuses = none ∧
    firstSeen signatures (before ++ [round]) = some landed ∧
    round.details landed = .ok (some details) ∧ details.err = some (.ok e) ∧
    ∃ signature status, round.Shows signatures signature status ∧ status.err = none

theorem Misjudges.not_justified (h : Misjudges signatures rounds) :
    ¬ FailureJustified texts signatures rounds := by
  obtain ⟨before, round, after, statuses, landed, details, e, rfl, hstill, hlate, hstatuses, hnone, hseen,
    hdetails, herr, signature, status, hshows, hfree⟩ := h
  intro hjustified
  have hne : signatures ≠ [] := by
    rintro rfl
    exact absurd hshows.mem List.not_mem_nil
  have hdecides : Decides texts signatures before round _ := .landed hstatuses hnone hlate hseen hdetails
  have hverdict : verdict texts landed details =
      .error (.trade (landedError texts e details.logMessages)) := by simp [verdict, herr]
  rw [hverdict] at hdecides
  obtain ⟨before', round', after', hsplit, hstill', hdecides', hall⟩ :=
    hjustified _ (poll_eq_of_decides hne hstill hdecides)
  obtain ⟨-, rfl, -⟩ := decides_unique hstill hstill' hdecides hdecides' hsplit
  exact hall signature status hshows hfree

/-- **When a reported failure is final.** Polling never reports a failure while another signature is
succeeding, exactly where no error is fetched for the first signature seen in such a turn. -/
theorem failureJustified_iff (texts : Texts) (signatures : List Signature) (rounds : List PollRound)
    (hclient : ∀ round ∈ rounds, round.FromClient) :
    FailureJustified texts signatures rounds ↔ ¬ Misjudges signatures rounds := by
  refine ⟨fun hjustified hmisjudges => hmisjudges.not_justified hjustified, fun hnot e herror => ?_⟩
  have hne : signatures ≠ [] := by
    rintro rfl
    cases herror
  rcases poll_result texts hne rounds with
    ⟨-, htimeout⟩ | ⟨before, round, after, rfl, hstill, hdecides⟩
  · rw [htimeout] at herror
    cases herror
  · rw [herror] at hdecides
    obtain ⟨statuses, landed, details, err, hstatuses, hnone, hlate, hseen, hdetails, herr, -⟩ :=
      hdecides.trade (hclient round (by simp))
    refine ⟨before, round, after, rfl, hstill, hdecides, fun signature status hshows hfree => ?_⟩
    exact hnot ⟨before, round, after, statuses, landed, details, err, rfl, hstill, hlate, hstatuses, hnone,
      hseen, hdetails, herr, signature, status, hshows, hfree⟩

/-- The first nine turns end the polling only on a confirmation or an error of the node. -/
theorem stillPolling_of_length {rounds : List PollRound} (hlength : rounds.length ≤ 9)
    (h : ∀ round ∈ rounds, ∃ statuses, round.statuses = .ok statuses ∧
      firstConfirmed signatures statuses = none) : StillPolling signatures rounds := by
  rintro before round after rfl
  refine ⟨h round (by simp), fun hlate => ?_⟩
  simp at hlength
  omega

/-- The first transaction has failed on chain, the second is processed. -/
def processedRound : PollRound where
  statuses := .ok [some failedStatus, some ⟨none, some .processed⟩]
  details := fun _ => .ok (some ⟨some (.ok (.instructionError 0 (.custom 6002))), none⟩)

theorem processedRound_fromClient : processedRound.FromClient where
  statuses := fun e h => by cases h
  details := fun signature details e h => by cases h; simp

/-- Ten such answers, and polling reports the failure of the first transaction. -/
theorem failureJustified_processed :
    (∀ round ∈ List.replicate 10 processedRound, round.FromClient) ∧
      ¬ FailureJustified sampleTexts sampleSignatures (List.replicate 10 processedRound) := by
  refine ⟨fun round hround => List.eq_of_mem_replicate hround ▸ processedRound_fromClient, ?_⟩
  refine Misjudges.not_justified ⟨List.replicate 9 processedRound, processedRound, [], _, _, _, _, rfl, ?_,
    le_rfl, rfl, rfl, rfl, rfl, rfl, _, _, ⟨_, rfl, List.mem_cons_of_mem _ List.mem_cons_self⟩, rfl⟩
  refine stillPolling_of_length le_rfl fun round hround => ?_
  rw [List.eq_of_mem_replicate hround]
  exact ⟨_, rfl, rfl⟩

/-- A confirmation in the first answer leaves no failure to report. -/
theorem failureJustified_confirmed : FailureJustified sampleTexts sampleSignatures [confirmedRound] := by
  refine (failureJustified_iff sampleTexts sampleSignatures [confirmedRound] fun round hround => ?_).mpr ?_
  · rw [List.mem_singleton.mp hround]
    exact confirmedRound_fromClient
  · rintro ⟨before, round, after, -, -, -, -, hsplit, -, hlate, -⟩
    have hlength := congrArg List.length hsplit
    simp at hlength
    omega

end PumpTrade
