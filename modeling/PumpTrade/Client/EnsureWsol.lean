import Mathlib.Data.List.ReduceOption
import PumpTrade.Base.Retry
import PumpTrade.Client.Wallet

/-!
# The account of wrapped SOL at startup

`TradingClient::ensure_wsol_ata`, which `new` waits for and `from_infrastructure` leaves to a task of
its own. It asks the node for the account and tries three times to create it; an attempt ends at the
latest when its transaction times out.

* `ensureAttempts`: the loop, with all that the node answers during it;
* `EnsureNode.Evidence`: an attempt after which the account is known to exist;
* **`ensureWsolAta_beside`**: it returns exactly on evidence, and panics otherwise.
-/

namespace PumpTrade

open Base

/-- How sending a transaction within the time for it ends. -/
inductive SendAnswer where
  | confirmed (signature : Signature)
  | failed (e : Error)
  | timeout

/-- What the node answers: about the account at first, and in each attempt. -/
structure EnsureNode where
  accountKnown : Bool
  getLatestBlockhash : (attempt : ℕ) → Except Error Hash
  sendAndConfirmTransaction : (attempt : ℕ) → VersionedTransaction → SendAnswer
  /-- About the account, after the transaction of an attempt has failed. -/
  accountKnownAfter : (attempt : ℕ) → Bool

/-- The transactions that were sent, and how the call has ended. -/
structure Ensured where
  sent : List VersionedTransaction
  outcome : Outcome Unit

/-- The number of attempts. -/
def ensureMaxRetries : ℕ := 3

variable (D : Derivations) (sdk : Sdk) (displayPubkey : Pubkey → String) (payer : Keypair) (node : EnsureNode)

/-- One attempt: what it has sent, and its error where the loop goes on. -/
def ensureAttempt (instructions : List Instruction) (attempt : ℕ) :
    Outcome (Option VersionedTransaction × Option String) :=
  match node.getLatestBlockhash attempt with
  | .error e => .ret (none, some ("Failed to get blockhash: " ++ e.toText))
  | .ok recentBlockhash => do
    let tx ← signLegacy sdk payer instructions recentBlockhash
    match node.sendAndConfirmTransaction attempt tx with
    | .confirmed _ => .ret (some tx, none)
    | .failed e => .ret (some tx, if node.accountKnownAfter attempt then none else some e.toText)
    | .timeout => .ret (some tx, some "Transaction confirmation timeout (10s)")

/-- The attempts from one on: what they have sent, and the last error unless one of them has ended the
loop. -/
def ensureAttempts (instructions : List Instruction) : (remaining attempt : ℕ) → (lastError : Option String) →
    Outcome (List VersionedTransaction × Option String)
  | 0, _, lastError => .ret ([], lastError)
  | remaining + 1, attempt, _ => do
    let (tx, error) ← ensureAttempt sdk payer node instructions attempt
    match error with
    | none => .ret (tx.toList, none)
    | some e => do
      let (txs, lastError) ← ensureAttempts instructions remaining (attempt + 1) (some e)
      .ret (tx.toList ++ txs, lastError)

/-- Create the account of wrapped SOL unless the node knows it, in several attempts. It panics where
none succeeds. -/
def ensureWsolAta : Cached Ensured := do
  let wsolAta ← getAssociatedTokenAddressWithProgramIdFast D payer.pubkey wsolTokenAccount tokenProgram
  if node.accountKnown then return ⟨[], .ret ()⟩
  else do
    let createAtaIxs ← createWsolAta D payer.pubkey
    if createAtaIxs.isEmpty then return ⟨[], .ret ()⟩
    else do
      let (sent, lastError) ← Prog.lift (ensureAttempts sdk payer node createAtaIxs ensureMaxRetries 1 none)
      match lastError with
      | none => return ⟨sent, .ret ()⟩
      | some err => return ⟨sent, .panic ("❌ WSOL ATA creation failed and account does not exist: " ++
          displayPubkey wsolAta ++ ". Error: " ++ err)⟩

/-! ## The loop -/

section Attempts

variable {sdk payer node} {instructions : List Instruction}

/-- The answer shows that the account exists: the transaction is confirmed, or it has failed and the node
knows the account nevertheless. -/
def SendAnswer.Shows (accountKnown : Bool) : SendAnswer → Prop
  | confirmed _ => True
  | failed _ => accountKnown = true
  | timeout => False

instance (accountKnown : Bool) : DecidablePred (SendAnswer.Shows accountKnown)
  | .confirmed _ => isTrue trivial
  | .failed _ => inferInstanceAs (Decidable (accountKnown = true))
  | .timeout => isFalse id

/-- The error that an answer without evidence leaves. -/
def SendAnswer.error : SendAnswer → String
  | failed e => e.toText
  | _ => "Transaction confirmation timeout (10s)"

variable (sdk payer node instructions) in
/-- The transaction of an attempt. -/
def ensureTransaction? (attempt : ℕ) : Option VersionedTransaction :=
  match node.getLatestBlockhash attempt with
  | .error _ => none
  | .ok recentBlockhash => some (signed sdk payer instructions recentBlockhash none)

variable (sdk payer node instructions) in
/-- The error of an attempt, unless its transaction was answered with evidence. -/
def ensureError? (attempt : ℕ) : Option String :=
  match node.getLatestBlockhash attempt with
  | .error e => some ("Failed to get blockhash: " ++ e.toText)
  | .ok recentBlockhash =>
    let answer := node.sendAndConfirmTransaction attempt (signed sdk payer instructions recentBlockhash none)
    if answer.Shows (node.accountKnownAfter attempt) then none else some answer.error

/-- **One attempt** sends its transaction, and ends the loop on evidence. -/
theorem ensureAttempt_eq (hfew : sdk.CompilesFew) (h : Sendable payer.pubkey instructions) (attempt : ℕ) :
    ensureAttempt sdk payer node instructions attempt =
      .ret (ensureTransaction? sdk payer node instructions attempt,
        ensureError? sdk payer node instructions attempt) := by
  unfold ensureAttempt ensureTransaction? ensureError?
  cases node.getLatestBlockhash attempt with
  | error e => rfl
  | ok recentBlockhash =>
    simp only [signLegacy_eq hfew h recentBlockhash, Outcome.ret_bind]
    cases node.sendAndConfirmTransaction attempt (signed sdk payer instructions recentBlockhash none) with
    | confirmed signature => rfl
    | failed e => rfl
    | timeout => rfl

variable (sdk payer node instructions) in
/-- The transaction and the error of an attempt. -/
def ensureTry (attempt : ℕ) : Option VersionedTransaction × Option String :=
  (ensureTransaction? sdk payer node instructions attempt, ensureError? sdk payer node instructions attempt)

/-- **The attempts** are a bounded retry. -/
theorem ensureAttempts_eq (hfew : sdk.CompilesFew) (h : Sendable payer.pubkey instructions)
    (remaining attempt : ℕ) (lastError : Option String) :
    ensureAttempts sdk payer node instructions remaining attempt lastError =
      let run := retryUpTo (ensureTry sdk payer node instructions) remaining attempt lastError
      .ret (run.1.reduceOption, run.2) := by
  induction remaining generalizing attempt lastError with
  | zero => rfl
  | succ remaining ih =>
    rw [ensureAttempts, ensureAttempt_eq hfew h, Outcome.ret_bind, retryUpTo, ensureTry]
    cases ensureTransaction? sdk payer node instructions attempt <;>
      cases ensureError? sdk payer node instructions attempt <;> simp [ih, List.reduceOption]

end Attempts

/-! ## The whole call -/

/-- The instructions of each attempt. -/
def createAtaIxs (wsolAta : Pubkey) : List Instruction :=
  [createAssociatedTokenAccount payer.pubkey wsolAta payer.pubkey wsolTokenAccount tokenProgram]

/-- The node has confirmed the transaction of an attempt, or knows the account after it has failed. -/
def EnsureNode.Evidence (wsolAta : Pubkey) (attempt : ℕ) : Prop :=
  ∃ tx, ensureTransaction? sdk payer node (createAtaIxs payer wsolAta) attempt = some tx ∧
    (node.sendAndConfirmTransaction attempt tx).Shows (node.accountKnownAfter attempt)

/-- What the call comes to, for the account that it asks about. -/
structure Ensured.Justified (wsolAta : Pubkey) (e : Ensured) : Prop where
  /-- It returns exactly if the node knows the account, or an attempt shows that it exists. -/
  returns_iff : e.outcome = .ret () ↔
    node.accountKnown ∨ ∃ k < ensureMaxRetries, node.Evidence sdk payer wsolAta (k + 1)
  /-- Otherwise it panics with the error of the last attempt. -/
  panics : ∀ msg, e.outcome = .panic msg → ∃ err,
    ensureError? sdk payer node (createAtaIxs payer wsolAta) ensureMaxRetries = some err ∧
    msg = "❌ WSOL ATA creation failed and account does not exist: " ++ displayPubkey wsolAta ++ ". Error: " ++ err
  /-- Nothing is sent where the account is known, and one transaction in each attempt elsewhere. -/
  sent_length : e.sent.length ≤ if node.accountKnown then 0 else ensureMaxRetries
  /-- Nothing is sent after evidence. -/
  stops : ∀ k < ensureMaxRetries, node.Evidence sdk payer wsolAta (k + 1) → e.sent.length ≤ k + 1
  /-- Each transaction creates the account, and has the signatures that it needs. -/
  sent_eq : ∀ tx ∈ e.sent, tx.FullySigned sdk ∧ tx.message.body.instructions = createAtaIxs payer wsolAta

section Whole

variable {D sdk displayPubkey payer node}

theorem transaction_of_ensure {wsolAta : Pubkey} {attempt : ℕ} {tx : VersionedTransaction}
    (h : ensureTransaction? sdk payer node (createAtaIxs payer wsolAta) attempt = some tx) :
    tx.FullySigned sdk ∧ tx.message.body.instructions = createAtaIxs payer wsolAta := by
  unfold ensureTransaction? at h
  split at h
  · cases h
  · obtain rfl := Option.some.inj h
    exact ⟨signed_fullySigned (sendable_createWsol wsolAta).signed, rfl⟩

/-- An attempt has no error exactly if its transaction was answered with evidence. -/
theorem ensureError?_eq_none {wsolAta : Pubkey} {attempt : ℕ} :
    ensureError? sdk payer node (createAtaIxs payer wsolAta) attempt = none ↔
      node.Evidence sdk payer wsolAta attempt := by
  unfold EnsureNode.Evidence ensureError? ensureTransaction?
  cases node.getLatestBlockhash attempt with
  | error e => simp
  | ok recentBlockhash => simp

/-- How the call ends after the attempts. -/
def ensureOutcome (displayPubkey : Pubkey → String) (wsolAta : Pubkey) : Option String → Outcome Unit
  | none => .ret ()
  | some err => .panic ("❌ WSOL ATA creation failed and account does not exist: " ++
      displayPubkey wsolAta ++ ". Error: " ++ err)

/-- **The attempts** are justified. -/
theorem justified_of_attempts (hknown : node.accountKnown = false) (wsolAta : Pubkey) :
    let run := retryUpTo (ensureTry sdk payer node (createAtaIxs payer wsolAta)) ensureMaxRetries 1 none
    Ensured.Justified sdk displayPubkey payer node wsolAta
      ⟨run.1.reduceOption, ensureOutcome displayPubkey wsolAta run.2⟩ := by
  intro run
  have hrun : run = retryUpTo (ensureTry sdk payer node (createAtaIxs payer wsolAta)) ensureMaxRetries 1 none := rfl
  obtain ⟨n, hn, htrace, hfirst, -⟩ :=
    retry_trace (ensureTry sdk payer node (createAtaIxs payer wsolAta)) ensureMaxRetries 1 none
  rw [← hrun] at htrace
  have hnone : run.2 = none ↔ ∃ k < ensureMaxRetries, node.Evidence sdk payer wsolAta (k + 1) := by
    rw [hrun, retry_eq_none_iff]
    simp only [ensureMaxRetries, ensureTry, ensureError?_eq_none, Nat.add_comm 1]
    simp
  have hlength : run.1.reduceOption.length ≤ n := by
    refine (List.reduceOption_length_le run.1).trans (le_of_eq ?_)
    rw [htrace, List.length_map, List.length_range]
  refine ⟨?_, ?_, ?_, ?_, ?_⟩
  · rw [hknown, ← hnone]
    cases run.2 <;> simp [ensureOutcome]
  · intro msg hmsg
    cases herror : run.2 with
    | none =>
      rw [herror] at hmsg
      cases hmsg
    | some err =>
      rw [herror] at hmsg
      exact ⟨err, retry_eq_some (hrun ▸ herror), (Outcome.panic.inj hmsg).symm⟩
  · rw [hknown, if_neg Bool.false_ne_true]
    exact hlength.trans hn
  · intro k hk hevidence
    refine hlength.trans (Nat.le_of_not_lt fun hlt => ?_)
    have hlast : k + 1 = n := hfirst k (by omega) (by
      rw [Nat.add_comm]
      exact ensureError?_eq_none.mpr hevidence)
    omega
  · intro tx htx
    rw [List.reduceOption_mem_iff, htrace] at htx
    obtain ⟨i, -, hi⟩ := List.mem_map.mp htx
    exact transaction_of_ensure hi

/-- **However the other calls interleave**, the call has asked about the payer's account of wrapped SOL
and ends justified. -/
theorem ensureWsolAta_yields (hD : Derives D) (hfew : sdk.CompilesFew) :
    (ensureWsolAta D sdk displayPubkey payer node).Yields (Coherent D) fun e => ∃ wsolAta,
      ataAddress D payer.pubkey wsolTokenAccount tokenProgram false = .ret wsolAta ∧
      e.Justified sdk displayPubkey payer node wsolAta := by
  refine (ata_yields hD _ _ _ _).bind fun wsolAta hata => ?_
  cases hknown : node.accountKnown with
  | true =>
    refine Prog.yields_ret ⟨wsolAta, hata, ?_, nofun, Nat.zero_le _, fun _ _ _ => Nat.zero_le _, nofun⟩
    simp [hknown]
  | false =>
    refine (createWsol_yields hD payer.pubkey false).bind ?_
    rintro _ ⟨account, haccount, rfl⟩
    obtain rfl : wsolAta = account := Outcome.ret.inj (hata.symm.trans haccount)
    show Prog.Yields _ _ (Prog.lift
      (ensureAttempts sdk payer node (createAtaIxs payer wsolAta) ensureMaxRetries 1 none) >>= _)
    have hsendable : Sendable payer.pubkey (createAtaIxs payer wsolAta) := sendable_createWsol wsolAta
    rw [ensureAttempts_eq hfew hsendable, Prog.lift_ret, Prog.ret_bind]
    have hjustified : Ensured.Justified sdk displayPubkey payer node wsolAta _ := justified_of_attempts hknown wsolAta
    cases herror : (retryUpTo (ensureTry sdk payer node (createAtaIxs payer wsolAta)) ensureMaxRetries 1 none).2 with
    | none =>
      rw [herror] at hjustified
      exact Prog.yields_ret ⟨wsolAta, hata, hjustified⟩
    | some err =>
      rw [herror] at hjustified
      exact Prog.yields_ret ⟨wsolAta, hata, hjustified⟩

/-- **The account of wrapped SOL at startup.** Beside any other calls, from a reached state: once it has
ended the call has asked about the payer's account, and it returns exactly if the node knows the
account, has confirmed a transaction that creates it or knows it after such a transaction has failed.
It sends three of them at most, none after that; otherwise it panics with the last error. -/
theorem ensureWsolAta_beside (hD : Derives D) (hfew : sdk.CompilesFew) {g : Globals} (hg : Reached D g)
    (others : ℕ → SharedCall) {acts : List ℕ} {t : Threads ℕ Globals (Option Ensured)}
    (hrun : run Threads.step
      ⟨(ensureWsolAta D sdk displayPubkey payer node).beside fun i => (others i).prog D, g⟩ acts = some t)
    {o : Outcome (Option Ensured)} (hended : t.Ended 0 o) :
    ∃ e, o = .ret (some e) ∧ ∃ wsolAta, ataAddress D payer.pubkey wsolTokenAccount tokenProgram false = .ret wsolAta ∧
      e.Justified sdk displayPubkey payer node wsolAta :=
  (ensureWsolAta_yields hD hfew).beside (fun i => (others i).keeps) hg.coherent hrun hended

/-- A node that names no blockhash at first, is too slow then, and refuses the third transaction because
the second one has landed after all. -/
def sampleEnsureNode : EnsureNode where
  accountKnown := false
  getLatestBlockhash attempt := if attempt = 1 then .error (.other "") else .ok ⟨5⟩
  sendAndConfirmTransaction attempt _ := if attempt = 2 then .timeout else .failed (.other "")
  accountKnownAfter attempt := attempt = 3

theorem ensureWsolAta_beside_slow : ∃ t e,
    run Threads.step ⟨(ensureWsolAta sampleDerivations sampleSdk (fun _ => "") ⟨⟨1⟩⟩ sampleEnsureNode).beside
      fun i => (sampleStartup i).prog sampleDerivations, .initial⟩ [0, 1, 0, 0, 1, 0, 0] = some t ∧
    t.Ended 0 (.ret (some e)) ∧ e.sent.length = 2 ∧ ∃ wsolAta,
      e.Justified sampleSdk (fun _ => "") ⟨⟨1⟩⟩ sampleEnsureNode wsolAta := by
  obtain ⟨t, e, ht, hended, hsent⟩ : ∃ t e,
      run Threads.step ⟨(ensureWsolAta sampleDerivations sampleSdk (fun _ => "") ⟨⟨1⟩⟩ sampleEnsureNode).beside
        fun i => (sampleStartup i).prog sampleDerivations, .initial⟩ [0, 1, 0, 0, 1, 0, 0] = some t ∧
      t.Ended 0 (.ret (some e)) ∧ e.sent.length = 2 := ⟨_, _, rfl, rfl, rfl⟩
  obtain ⟨e', hsame, wsolAta, -, hjustified⟩ := ensureWsolAta_beside PumpSwap.derives_sample
    sampleSdk_compilesFew (reached_initial sampleDerivations) sampleStartup ht hended
  obtain rfl := Option.some.inj (Outcome.ret.inj hsame)
  exact ⟨t, e, ht, hended, hsent, wsolAta, hjustified⟩

end Whole

end PumpTrade
