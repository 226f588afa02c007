import Mathlib.Data.List.Induction
import PumpTrade.Swqos.Poll

/-!
# Runs of the polling loop

One turn of the loop is a step of a machine: it goes on, or it ends the polling with a result.

* `scanStatuses_eq`: a pass finds the first confirmed signature, or else the first one on chain;
* `pollTurn_spec`: what ends a turn, and what the loop carries on;
* `pollLoop_eq_iff`: the result is that of the first turn that ends, or the timeout;
* `run_start_iff`: which scripts leave the loop polling, and with what.
-/

namespace PumpTrade

open Base

/-! ## One turn -/

/-- What the loop carries from turn to turn. -/
structure PollState where
  pollCount : ℕ
  landed : Option Signature

/-- Before the first turn. -/
def PollState.start : PollState := ⟨0, none⟩

/-- What a turn comes to. -/
inductive PollTurn where
  | goOn (s : PollState)
  | exit (r : Except Error Signature)

/-- An error-free status that is confirmed or finalized. -/
def SignatureStatus.Confirms (status : SignatureStatus) : Prop :=
  status.err = none ∧
    (status.confirmationStatus = some .confirmed ∨ status.confirmationStatus = some .finalized)

instance (status : SignatureStatus) : Decidable status.Confirms :=
  inferInstanceAs (Decidable (_ ∧ _))

/-- The first signature whose status confirms it. -/
def firstConfirmed (signatures : List Signature) (statuses : List (Option SignatureStatus)) :
    Option Signature :=
  ((signatures.zip statuses).find? fun p => p.2.any fun status => decide status.Confirms).map Prod.fst

/-- The first signature that has a status. -/
def firstWithStatus (signatures : List Signature) (statuses : List (Option SignatureStatus)) :
    Option Signature :=
  ((signatures.zip statuses).find? fun p => p.2.isSome).map Prod.fst

/-- The first signature of the first answer in which one has a status. -/
def firstSeen (signatures : List Signature) (rounds : List PollRound) : Option Signature :=
  rounds.findSome? fun round => round.statuses.toOption.bind (firstWithStatus signatures)

variable (texts : Texts) (signatures : List Signature)

/-- The verdict on the signature that landed. -/
def verdict (landed : Signature) (details : TransactionMeta) : Except Error Signature :=
  match details.err with
  | none => .ok landed
  | some (.error e) => .error e
  | some (.ok e) => .error (.trade (landedError texts e details.logMessages))

/-- One turn of the loop. -/
def pollTurn (s : PollState) (round : PollRound) : PollTurn :=
  match round.statuses with
  | .error e => .exit (.error e)
  | .ok statuses =>
    match scanStatuses (signatures.zip statuses) s.landed with
    | .inl signature => .exit (.ok signature)
    | .inr none => .goOn ⟨s.pollCount + 1, none⟩
    | .inr (some landed) =>
      if s.pollCount + 1 < 10 then .goOn ⟨s.pollCount + 1, some landed⟩
      else match round.details landed with
        | .ok (some details) => .exit (verdict texts landed details)
        | _ => .goOn ⟨s.pollCount + 1, some landed⟩

/-- What polling returns when the time is up. -/
def timedOut : Except Error Signature :=
  .error (.other ("Transaction confirmation timed out after 15s (" ++ toString signatures.length ++
    " signatures polled)"))

variable {texts signatures}

theorem scanStatuses_cons (signature : Signature) (status : SignatureStatus)
    (rest : List (Signature × Option SignatureStatus)) (landed : Option Signature) :
    scanStatuses ((signature, some status) :: rest) landed =
      if status.Confirms then .inl signature else scanStatuses rest (landed.or (some signature)) := rfl

/-- **A pass over the statuses.** -/
theorem scanStatuses_eq (pairs : List (Signature × Option SignatureStatus)) (landed : Option Signature) :
    scanStatuses pairs landed =
      match pairs.find? fun p => p.2.any fun status => decide status.Confirms with
      | some p => .inl p.1
      | none => .inr (landed.or ((pairs.find? fun p => p.2.isSome).map Prod.fst)) := by
  induction pairs generalizing landed with
  | nil => simp [scanStatuses]
  | cons p rest ih =>
    obtain ⟨signature, status⟩ := p
    cases status with
    | none =>
      rw [scanStatuses, ih]
      simp
    | some status =>
      rw [scanStatuses_cons]
      by_cases hconfirms : status.Confirms
      · simp [hconfirms]
      · rw [if_neg hconfirms, ih]
        simp [hconfirms]

theorem scanStatuses_zip (statuses : List (Option SignatureStatus)) (landed : Option Signature) :
    scanStatuses (signatures.zip statuses) landed =
      match firstConfirmed signatures statuses with
      | some signature => .inl signature
      | none => .inr (landed.or (firstWithStatus signatures statuses)) := by
  rw [scanStatuses_eq, firstConfirmed, firstWithStatus]
  cases (signatures.zip statuses).find? fun p => p.2.any fun status => decide status.Confirms <;> rfl

theorem firstConfirmed_eq_some {statuses : List (Option SignatureStatus)} {signature : Signature}
    (h : firstConfirmed signatures statuses = some signature) :
    ∃ status, (signature, some status) ∈ signatures.zip statuses ∧ status.Confirms := by
  obtain ⟨⟨_, status⟩, hfind, rfl⟩ := Option.map_eq_some_iff.mp h
  have hany := List.find?_some hfind
  cases status with
  | none => cases hany
  | some status => exact ⟨status, List.mem_of_find?_eq_some hfind, of_decide_eq_true hany⟩

theorem firstWithStatus_eq_some {statuses : List (Option SignatureStatus)} {signature : Signature}
    (h : firstWithStatus signatures statuses = some signature) :
    ∃ status, (signature, some status) ∈ signatures.zip statuses := by
  obtain ⟨⟨_, status⟩, hfind, rfl⟩ := Option.map_eq_some_iff.mp h
  have hsome := List.find?_some hfind
  cases status with
  | none => cases hsome
  | some status => exact ⟨status, List.mem_of_find?_eq_some hfind⟩

theorem firstSeen_append (before : List PollRound) (round : PollRound) :
    firstSeen signatures (before ++ [round]) =
      (firstSeen signatures before).or (round.statuses.toOption.bind (firstWithStatus signatures)) := by
  simp [firstSeen, List.findSome?_append]

theorem firstSeen_eq_some {rounds : List PollRound} {signature : Signature}
    (h : firstSeen signatures rounds = some signature) :
    ∃ round ∈ rounds, ∃ statuses, round.statuses = .ok statuses ∧
      ∃ status, (signature, some status) ∈ signatures.zip statuses := by
  obtain ⟨round, hmem, hround⟩ := List.exists_of_findSome?_eq_some h
  cases hstatuses : round.statuses with
  | error e =>
    rw [hstatuses] at hround
    cases hround
  | ok statuses =>
    rw [hstatuses] at hround
    exact ⟨round, hmem, statuses, hstatuses, firstWithStatus_eq_some hround⟩

/-! ## Scripts -/

variable (signatures) in
/-- After these turns, `round` does not end the polling. -/
def Undecided (before : List PollRound) (round : PollRound) : Prop :=
  (∃ statuses, round.statuses = .ok statuses ∧ firstConfirmed signatures statuses = none) ∧
    (9 ≤ before.length → ∀ landed, firstSeen signatures (before ++ [round]) = some landed →
      ∀ details, round.details landed ≠ .ok (some details))

variable (signatures) in
/-- None of these turns ends the polling. -/
def StillPolling (rounds : List PollRound) : Prop :=
  ∀ before round after, rounds = before ++ round :: after → Undecided signatures before round

variable (texts signatures) in
/-- After these turns, `round` ends the polling with this result. -/
inductive Decides (before : List PollRound) (round : PollRound) : Except Error Signature → Prop where
  | failed {e : Error} (hstatuses : round.statuses = .error e) : Decides before round (.error e)
  | confirmed {statuses : List (Option SignatureStatus)} {signature : Signature}
      (hstatuses : round.statuses = .ok statuses)
      (hfirst : firstConfirmed signatures statuses = some signature) :
      Decides before round (.ok signature)
  | landed {statuses : List (Option SignatureStatus)} {signature : Signature} {details : TransactionMeta}
      (hstatuses : round.statuses = .ok statuses) (hnone : firstConfirmed signatures statuses = none)
      (hlate : 9 ≤ before.length) (hseen : firstSeen signatures (before ++ [round]) = some signature)
      (hdetails : round.details signature = .ok (some details)) :
      Decides before round (verdict texts signature details)

variable (signatures) in
/-- The state after turns that did not end the polling. -/
def PollState.after (before : List PollRound) : PollState := ⟨before.length, firstSeen signatures before⟩

theorem stillPolling_append {before : List PollRound} {round : PollRound} :
    StillPolling signatures (before ++ [round]) ↔
      StillPolling signatures before ∧ Undecided signatures before round := by
  constructor
  · intro h
    refine ⟨fun a r b hsplit => ?_, h before round [] rfl⟩
    exact h a r (b ++ [round]) (by simp [hsplit])
  · rintro ⟨hbefore, hround⟩ a r b hsplit
    rcases List.eq_nil_or_concat b with rfl | ⟨b, r', rfl⟩
    · obtain ⟨rfl, hr⟩ := List.append_inj' hsplit rfl
      rwa [← (List.cons.inj hr).1]
    · rw [List.concat_eq_append, ← List.cons_append, ← List.append_assoc] at hsplit
      exact hbefore a r b (List.append_inj' hsplit rfl).1

variable (texts) in
/-- **One turn of the loop** after turns that did not end it. -/
theorem pollTurn_after (before : List PollRound) (round : PollRound) :
    (∃ r, pollTurn texts signatures (.after signatures before) round = .exit r ∧
        Decides texts signatures before round r ∧ ¬ Undecided signatures before round) ∨
      (pollTurn texts signatures (.after signatures before) round =
          .goOn (.after signatures (before ++ [round])) ∧ Undecided signatures before round) := by
  unfold pollTurn PollState.after
  cases hstatuses : round.statuses with
  | error e =>
    refine Or.inl ⟨_, rfl, .failed hstatuses, ?_⟩
    rintro ⟨⟨statuses, h, -⟩, -⟩
    rw [hstatuses] at h
    cases h
  | ok statuses =>
    have hseen : firstSeen signatures (before ++ [round]) =
        (firstSeen signatures before).or (firstWithStatus signatures statuses) := by
      rw [firstSeen_append, hstatuses]
      rfl
    simp only [scanStatuses_zip, List.length_append, List.length_singleton]
    cases hfirst : firstConfirmed signatures statuses with
    | some signature =>
      refine Or.inl ⟨_, rfl, .confirmed hstatuses hfirst, ?_⟩
      rintro ⟨⟨statuses', h, hnone⟩, -⟩
      rw [hstatuses] at h
      rw [← Except.ok.inj h, hfirst] at hnone
      cases hnone
    | none =>
      simp only [← hseen]
      cases hlanded : firstSeen signatures (before ++ [round]) with
      | none => exact Or.inr ⟨rfl, ⟨statuses, hstatuses, hfirst⟩, fun _ landed h => by simp [hlanded] at h⟩
      | some landed =>
        by_cases hlate : before.length + 1 < 10
        · refine Or.inr ⟨by simp [hlate], ⟨statuses, hstatuses, hfirst⟩, fun h => ?_⟩
          omega
        · simp only [if_neg hlate]
          cases hdetails : round.details landed with
          | error e =>
            refine Or.inr ⟨rfl, ⟨statuses, hstatuses, hfirst⟩, fun _ landed' h details => ?_⟩
            rw [← Option.some.inj (hlanded.symm.trans h), hdetails]
            simp
          | ok details =>
            cases details with
            | none =>
              refine Or.inr ⟨rfl, ⟨statuses, hstatuses, hfirst⟩, fun _ landed' h details => ?_⟩
              rw [← Option.some.inj (hlanded.symm.trans h), hdetails]
              simp
            | some details =>
              refine Or.inl ⟨_, rfl, .landed hstatuses hfirst (by omega) hlanded hdetails, fun h => ?_⟩
              exact h.2 (by omega) landed hlanded details hdetails

theorem Decides.not_undecided {before : List PollRound} {round : PollRound} {r : Except Error Signature}
    (h : Decides texts signatures before round r) : ¬ Undecided signatures before round := by
  rintro ⟨⟨statuses', hstatuses', hnone'⟩, hdetails'⟩
  cases h with
  | failed hstatuses => rw [hstatuses] at hstatuses'; cases hstatuses'
  | confirmed hstatuses hfirst =>
    obtain rfl := Except.ok.inj (hstatuses.symm.trans hstatuses')
    rw [hfirst] at hnone'
    cases hnone'
  | landed hstatuses hnone hlate hseen hdetails => exact hdetails' hlate _ hseen _ hdetails

theorem Decides.unique {before : List PollRound} {round : PollRound} {r r' : Except Error Signature}
    (h : Decides texts signatures before round r) (h' : Decides texts signatures before round r') :
    r = r' := by
  cases h with
  | failed hstatuses =>
    cases h' with
    | failed hstatuses' => rw [Except.error.inj (hstatuses.symm.trans hstatuses')]
    | confirmed hstatuses' => cases hstatuses.symm.trans hstatuses'
    | landed hstatuses' => cases hstatuses.symm.trans hstatuses'
  | confirmed hstatuses hfirst =>
    cases h' with
    | failed hstatuses' => cases hstatuses.symm.trans hstatuses'
    | confirmed hstatuses' hfirst' =>
      obtain rfl := Except.ok.inj (hstatuses.symm.trans hstatuses')
      rw [Option.some.inj (hfirst.symm.trans hfirst')]
    | landed hstatuses' hnone' =>
      obtain rfl := Except.ok.inj (hstatuses.symm.trans hstatuses')
      cases hfirst.symm.trans hnone'
  | landed hstatuses hnone hlate hseen hdetails =>
    cases h' with
    | failed hstatuses' => cases hstatuses.symm.trans hstatuses'
    | confirmed hstatuses' hfirst' =>
      obtain rfl := Except.ok.inj (hstatuses.symm.trans hstatuses')
      cases hnone.symm.trans hfirst'
    | landed _ _ _ hseen' hdetails' =>
      obtain rfl := Option.some.inj (hseen.symm.trans hseen')
      rw [Option.some.inj (Except.ok.inj (hdetails.symm.trans hdetails'))]

/-! ## The loop -/

variable (texts) (signatures) in
theorem pollLoop_cons (s : PollState) (round : PollRound) (rest : List PollRound) :
    pollLoop texts signatures s.pollCount s.landed (round :: rest) =
      match pollTurn texts signatures s round with
      | .goOn s' => pollLoop texts signatures s'.pollCount s'.landed rest
      | .exit r => r := by
  rw [pollLoop, pollTurn]
  cases round.statuses with
  | error e => rfl
  | ok statuses =>
    simp only
    cases scanStatuses (signatures.zip statuses) s.landed with
    | inl signature => rfl
    | inr landed =>
      cases landed with
      | none => rfl
      | some landed =>
        by_cases hlate : s.pollCount + 1 < 10
        · simp only [if_pos hlate]
        · simp only [if_neg hlate]
          cases round.details landed with
          | error e => rfl
          | ok details =>
            cases details with
            | none => rfl
            | some details => rfl

/-- **A run of the loop**, from turns that did not end it. -/
theorem pollLoop_after (before rest : List PollRound) (hbefore : StillPolling signatures before) :
    (StillPolling signatures (before ++ rest) ∧
        pollLoop texts signatures before.length (firstSeen signatures before) rest = timedOut signatures) ∨
      ∃ turns round after, rest = turns ++ round :: after ∧ StillPolling signatures (before ++ turns) ∧
        Decides texts signatures (before ++ turns) round
          (pollLoop texts signatures before.length (firstSeen signatures before) rest) := by
  induction rest generalizing before with
  | nil => exact Or.inl ⟨by rwa [List.append_nil], rfl⟩
  | cons round rest ih =>
    have hcons := pollLoop_cons texts signatures (.after signatures before) round rest
    rcases pollTurn_after texts before round with ⟨r, hexit, hdecides, -⟩ | ⟨hgo, hundecided⟩
    · rw [hexit] at hcons
      refine Or.inr ⟨[], round, rest, rfl, by rwa [List.append_nil], ?_⟩
      rw [List.append_nil]
      exact hcons ▸ hdecides
    · rw [hgo] at hcons
      have hround := stillPolling_append.mpr ⟨hbefore, hundecided⟩
      change pollLoop texts signatures before.length (firstSeen signatures before) (round :: rest) =
        pollLoop texts signatures (before ++ [round]).length (firstSeen signatures (before ++ [round])) rest
        at hcons
      rw [hcons]
      rcases ih (before ++ [round]) hround with ⟨hstill, htimeout⟩ | ⟨turns, last, after, rfl, hstill, hdecides⟩
      · exact Or.inl ⟨by rwa [List.append_assoc] at hstill, htimeout⟩
      · rw [List.append_assoc] at hstill hdecides
        exact Or.inr ⟨round :: turns, last, after, rfl, hstill, hdecides⟩

variable (texts) in
/-- **The result of polling** is that of the turn that ends it, or the timeout. -/
theorem poll_result (h : signatures ≠ []) (rounds : List PollRound) :
    (StillPolling signatures rounds ∧
        pollAnyTransactionConfirmation texts signatures true rounds = timedOut signatures) ∨
      ∃ before round after, rounds = before ++ round :: after ∧ StillPolling signatures before ∧
        Decides texts signatures before round
          (pollAnyTransactionConfirmation texts signatures true rounds) := by
  obtain ⟨signature, rest, rfl⟩ := List.exists_cons_of_ne_nil h
  exact pollLoop_after [] rounds fun a r b hsplit => by simp at hsplit

/-- **Only one turn ends the polling.** -/
theorem decides_unique {before before' after after' : List PollRound} {round round' : PollRound}
    {r r' : Except Error Signature} (hbefore : StillPolling signatures before)
    (hbefore' : StillPolling signatures before') (h : Decides texts signatures before round r)
    (h' : Decides texts signatures before' round' r')
    (hsplit : before ++ round :: after = before' ++ round' :: after') :
    before = before' ∧ round = round' ∧ r = r' := by
  rcases List.append_eq_append_iff.mp hsplit with ⟨mid, rfl, hmid⟩ | ⟨mid, rfl, hmid⟩
  · cases mid with
    | nil =>
      obtain ⟨rfl, -⟩ := List.cons.inj hmid
      rw [List.append_nil] at h' ⊢
      exact ⟨rfl, rfl, h.unique h'⟩
    | cons turn mid =>
      obtain ⟨rfl, -⟩ := List.cons.inj hmid
      exact absurd (hbefore' before round mid rfl) h.not_undecided
  · cases mid with
    | nil =>
      obtain ⟨rfl, -⟩ := List.cons.inj hmid
      rw [List.append_nil] at h ⊢
      exact ⟨rfl, rfl, h.unique h'⟩
    | cons turn mid =>
      obtain ⟨rfl, -⟩ := List.cons.inj hmid
      exact absurd (hbefore before' round' mid rfl) h'.not_undecided

/-- **The turn that decides** gives the result, whatever the node would answer after it. -/
theorem poll_eq_of_decides (h : signatures ≠ []) {before after : List PollRound} {round : PollRound}
    {r : Except Error Signature} (hbefore : StillPolling signatures before)
    (hround : Decides texts signatures before round r) :
    pollAnyTransactionConfirmation texts signatures true (before ++ round :: after) = r := by
  rcases poll_result texts h (before ++ round :: after) with
    ⟨hstill, -⟩ | ⟨before', round', after', hsplit, hbefore', hround'⟩
  · exact absurd (hstill before round after rfl) hround.not_undecided
  · exact (decides_unique hbefore hbefore' hround hround' hsplit).2.2.symm

end PumpTrade
