import PumpTrade.Base.Retry
import PumpTrade.Swqos.Client
import PumpTrade.Swqos.PollSound

/-!
# Sending several transactions

The `send_transactions` of each client under `swqos/`. Thirteen clients send one transaction after
another and stop at the first failure. Jito and bloXroute send all in one request, and read its body for
their log only.

* `Provider.sendTransactions`, `Provider.bundles`;
* `sendTransaction_confirms`: what a client that waits has confirmed;
* `sendTransactions_of_not_bundles`, `sendTransactions_of_bundles`: what the two kinds of calls come to;
* **`sendTransactions_confirmed_iff`**: which clients that wait return without an error only after each
  transaction is confirmed.
-/

namespace PumpTrade

open Base

/-! ## The calls -/

/-- `to_base64_string`: an error is unwrapped. The encoding is part of the request. -/
def toBase64String (sdk : ClientSdk) (transaction : VersionedTransaction) : Outcome (List UInt8) :=
  match sdk.serialize transaction with
  | .ok bytes => .ret bytes
  | .error e => .panic ("called `Result::unwrap()` on an `Err` value: " ++ e.toText)

/-- The entries of a bundle of Jito. -/
def toBase64Strings (sdk : ClientSdk) : List VersionedTransaction → Outcome (List (List UInt8))
  | [] => .ret []
  | transaction :: transactions => do
    let first ← toBase64String sdk transaction
    let rest ← toBase64Strings sdk transactions
    return first :: rest

/-- The entries of a batch of bloXroute. -/
def serializeAll (sdk : ClientSdk) : List VersionedTransaction → Except Error (List (List UInt8))
  | [] => .ok []
  | transaction :: transactions => do
    let first ← sdk.serialize transaction
    let rest ← serializeAll sdk transactions
    return first :: rest

namespace Provider

/-- `nets n` is what the network answers to the request number `n`. -/
def sendTransactions (sdk : ClientSdk) (p : Provider) (nets : ℕ → Net) (tradeType : TradeType)
    (transactions : List VersionedTransaction) (waitConfirmation : Bool) : Outcome (Except Error Unit) :=
  match p.swqosType with
  | .jito => do
    let _ ← toBase64Strings sdk transactions
    return submitText (nets 0).http
  | .bloxroute => .ret do
    let _ ← serializeAll sdk transactions
    submitText (nets 0).http
  | _ => .ret (tryEach
      (fun n transaction => p.sendTransaction sdk (nets n) tradeType transaction waitConfirmation) 0 transactions)

/-- The client sends all transactions in one request. -/
def bundles (p : Provider) : Prop := p.swqosType = .jito ∨ p.swqosType = .bloxroute

instance (p : Provider) : Decidable p.bundles := inferInstanceAs (Decidable (_ ∨ _))

end Provider

/-! ## What the calls come to -/

section SendAll

variable {sdk : ClientSdk} {p : Provider} {nets : ℕ → Net} {tradeType : TradeType}
  {transactions : List VersionedTransaction} {waitConfirmation : Bool}

/-- Every transaction can be serialized. -/
def AllSerialize (sdk : ClientSdk) (transactions : List VersionedTransaction) : Prop :=
  ∀ transaction ∈ transactions, ∃ bytes, sdk.serialize transaction = .ok bytes

theorem allSerialize_cons {transaction : VersionedTransaction} :
    AllSerialize sdk (transaction :: transactions) ↔
      (∃ bytes, sdk.serialize transaction = .ok bytes) ∧ AllSerialize sdk transactions :=
  List.forall_mem_cons

theorem exists_toBase64Strings : (∃ entries, toBase64Strings sdk transactions = .ret entries) ↔
    AllSerialize sdk transactions := by
  induction transactions with
  | nil => simp [toBase64Strings, AllSerialize]
  | cons transaction transactions ih =>
    rw [allSerialize_cons, ← ih]
    constructor
    · rintro ⟨entries, h⟩
      obtain ⟨first, hfirst, h⟩ := Outcome.bind_eq_ret.mp h
      obtain ⟨rest, hrest, -⟩ := Outcome.bind_eq_ret.mp h
      refine ⟨?_, rest, hrest⟩
      unfold toBase64String at hfirst
      split at hfirst
      · exact ⟨_, ‹_›⟩
      · cases hfirst
    · rintro ⟨⟨bytes, hbytes⟩, rest, hrest⟩
      refine ⟨bytes :: rest, Outcome.bind_eq_ret.mpr ⟨bytes, ?_, Outcome.bind_eq_ret.mpr ⟨rest, hrest, rfl⟩⟩⟩
      rw [toBase64String, hbytes]

theorem exists_serializeAll : (∃ entries, serializeAll sdk transactions = .ok entries) ↔
    AllSerialize sdk transactions := by
  induction transactions with
  | nil => simp [serializeAll, AllSerialize]
  | cons transaction transactions ih =>
    rw [allSerialize_cons, ← ih, serializeAll]
    cases sdk.serialize transaction with
    | error e => simp [bind, Except.bind]
    | ok bytes =>
      cases serializeAll sdk transactions with
      | error e => simp [bind, Except.bind]
      | ok rest => simp [bind, Except.bind, pure, Except.pure]

namespace Provider

/-- **A client that waits** succeeds only once the node shows that what it sent has succeeded. -/
theorem sendTransaction_confirms {net : Net} {transaction : VersionedTransaction}
    (h : p.sendTransaction sdk net tradeType transaction true = .ok ()) :
    ConfirmedBy net.rounds [p.pollSignature net transaction] (p.pollSignature net transaction) := by
  unfold sendTransaction at h
  cases hserialize : p.serialize sdk transaction with
  | error e => simp [hserialize, bind, Except.bind] at h
  | ok u =>
    cases hsubmit : submit sdk net p.swqosType with
    | error e => simp [hserialize, hsubmit, bind, Except.bind] at h
    | ok u =>
      cases hpoll : pollTransactionConfirmation sdk.toTexts (p.pollSignature net transaction) true net.rounds with
      | error e => simp [hserialize, hsubmit, hpoll, bind, Except.bind] at h
      | ok signature =>
        obtain ⟨hmem, hconfirmed⟩ := confirmedBy_of_poll hpoll
        rwa [List.mem_singleton.mp hmem] at hconfirmed

theorem sendTransactions_of_not_bundles (h : ¬ p.bundles) (sdk : ClientSdk) (nets : ℕ → Net)
    (tradeType : TradeType) (transactions : List VersionedTransaction) (waitConfirmation : Bool) :
    p.sendTransactions sdk nets tradeType transactions waitConfirmation = .ret (tryEach
      (fun n transaction => p.sendTransaction sdk (nets n) tradeType transaction waitConfirmation) 0
      transactions) := by
  obtain ⟨hjito, hbloxroute⟩ := not_or.mp h
  unfold sendTransactions
  split
  · exact absurd ‹_› hjito
  · exact absurd ‹_› hbloxroute
  · rfl

/-- **A client that sends one request** succeeds where all transactions are serialized and the request
is answered. -/
theorem sendTransactions_of_bundles (h : p.bundles) :
    p.sendTransactions sdk nets tradeType transactions waitConfirmation = .ret (.ok ()) ↔
      AllSerialize sdk transactions ∧ submitText (nets 0).http = .ok () := by
  rcases h with h | h
  · rw [sendTransactions, h, ← exists_toBase64Strings]
    constructor
    · intro hsent
      obtain ⟨entries, hentries, hsubmit⟩ := Outcome.bind_eq_ret.mp hsent
      exact ⟨⟨entries, hentries⟩, Outcome.ret.inj hsubmit⟩
    · rintro ⟨⟨entries, hentries⟩, hsubmit⟩
      exact Outcome.bind_eq_ret.mpr ⟨entries, hentries, congrArg Outcome.ret hsubmit⟩
  · rw [sendTransactions, h, ← exists_serializeAll]
    cases hentries : serializeAll sdk transactions with
    | error e => simp [bind, Except.bind]
    | ok entries => simp [bind, Except.bind]

/-- What the node answers where nothing is known of any transaction. -/
def silentNet : Net where
  http := .answer 200 (.ok "")
  rpc := .error (.other "")
  quic := ⟨.ok (), .ok (), .ok ()⟩
  rounds := []

/-- **Which clients wait for each transaction.** A client that waits for confirmation, given several
transactions, returns without an error only once each of them has succeeded: all clients but the two
that send one request, unless these have nothing to send. The others fail with the error of the first
transaction that does, those before it having succeeded. -/
theorem sendTransactions_confirmed_iff (sdk : ClientSdk) (p : Provider) (tradeType : TradeType)
    (transactions : List VersionedTransaction) :
    ((∀ nets, p.sendTransactions sdk nets tradeType transactions true = .ret (.ok ()) →
      ∀ i transaction, transactions[i]? = some transaction →
        ConfirmedBy (nets i).rounds [p.pollSignature (nets i) transaction]
          (p.pollSignature (nets i) transaction)) ↔
      ¬ (p.bundles ∧ transactions ≠ [] ∧ AllSerialize sdk transactions)) ∧
    (¬ p.bundles → ∀ nets e, p.sendTransactions sdk nets tradeType transactions true = .ret (.error e) →
      ∃ i transaction, transactions[i]? = some transaction ∧
        p.sendTransaction sdk (nets i) tradeType transaction true = .error e ∧
        ∀ j earlier, j < i → transactions[j]? = some earlier →
          ConfirmedBy (nets j).rounds [p.pollSignature (nets j) earlier] (p.pollSignature (nets j) earlier)) := by
  refine ⟨⟨?_, ?_⟩, ?_⟩
  · rintro hall ⟨hbundles, hne, hserialize⟩
    have hsent : p.sendTransactions sdk (fun _ => silentNet) tradeType transactions true = .ret (.ok ()) :=
      (sendTransactions_of_bundles hbundles).mpr ⟨hserialize, rfl⟩
    obtain ⟨transaction, rest, rfl⟩ := List.exists_cons_of_ne_nil hne
    rcases hall _ hsent 0 transaction rfl with ⟨round, hround, -⟩ | ⟨round, hround, -⟩
    · cases hround
    · cases hround
  · intro hnot nets hsent i transaction hi
    by_cases hbundles : p.bundles
    · have hserialize := ((sendTransactions_of_bundles hbundles).mp hsent).1
      have hne : transactions ≠ [] := by
        rintro rfl
        cases hi
      exact absurd ⟨hbundles, hne, hserialize⟩ hnot
    · rw [sendTransactions_of_not_bundles hbundles] at hsent
      have hi := tryEach_eq_ok.mp (Outcome.ret.inj hsent) i transaction hi
      rw [Nat.zero_add] at hi
      exact sendTransaction_confirms hi
  · intro hbundles nets e hsent
    rw [sendTransactions_of_not_bundles hbundles] at hsent
    obtain ⟨i, transaction, hi, hfail, hbefore⟩ := tryEach_eq_error.mp (Outcome.ret.inj hsent)
    rw [Nat.zero_add] at hfail
    refine ⟨i, transaction, hi, hfail, fun j earlier hj hearlier => ?_⟩
    have hok := hbefore j earlier hj hearlier
    rw [Nat.zero_add] at hok
    exact sendTransaction_confirms hok

/-- A package that serializes every transaction. -/
def plainSdk : ClientSdk where
  displayTransactionError _ := ""
  debugText text := text
  parseJson _ := none
  displayStatus := toString
  serialize _ := .ok []
  sha256 _ := []

/-- A bundle of Jito is answered while its one transaction is unknown to the node; the default client
would wait for it. -/
theorem sendTransactions_confirmed_jito :
    let transaction : VersionedTransaction := ⟨[⟨1⟩], .legacy ⟨default, [], default⟩⟩
    let Waits (t : SwqosType) : Prop :=
      ∀ nets, (⟨t, "", false⟩ : Provider).sendTransactions plainSdk nets .buy [transaction] true = .ret (.ok ()) →
        ∀ i tx, [transaction][i]? = some tx → ConfirmedBy (nets i).rounds
          [(⟨t, "", false⟩ : Provider).pollSignature (nets i) tx] ((⟨t, "", false⟩ : Provider).pollSignature (nets i) tx)
    ¬ Waits .jito ∧ Waits .default := by
  intro transaction Waits
  constructor
  · intro hall
    have hnot := (sendTransactions_confirmed_iff plainSdk ⟨.jito, "", false⟩ .buy [transaction]).1.mp hall
    exact hnot ⟨Or.inl rfl, List.cons_ne_nil _ _, fun _ _ => ⟨[], rfl⟩⟩
  · refine (sendTransactions_confirmed_iff plainSdk ⟨.default, "", false⟩ .buy [transaction]).1.mpr ?_
    rintro ⟨hbundles, -, -⟩
    exact absurd hbundles (by decide)

end Provider

end SendAll

end PumpTrade
