import Mathlib.Tactic.Tauto
import PumpTrade.Swqos.Client

/-!
# Accepted transactions

A service accepts a transaction by its answer: a status of success, and a body that is not a
JSON-RPC error. Against this stands what a client makes of the answer.

* `Accepts`: the service has accepted;
* `Misreads`: the client takes an answer that is none for one, by the kind of client and the answer;
* **`submit_misreads`**: submitting succeeds without acceptance exactly then.
-/

namespace PumpTrade

open Base

/-- The body is a JSON-RPC error: an object with a field `error`. -/
def isRpcError (sdk : ClientSdk) (text : String) : Bool :=
  ((sdk.parseJson text).bind (Json.get "error")).isSome

/-- The answer accepts the transaction. -/
def HttpReply.Accepts (sdk : ClientSdk) : HttpReply → Prop
  | answer status (.ok text) => isSuccess status = true ∧ isRpcError sdk text = false
  | _ => False

/-- The service has accepted the transaction. A QUIC service does not answer: `delivered` says which
writes to its connection count as accepted, if any. -/
def Accepts (sdk : ClientSdk) (delivered : QuicAnswers → Prop) (net : Net) : SwqosType → Prop
  | .soyas | .speedlanding => delivered net.quic
  | .default => ∃ signature, net.rpc = .ok signature
  | _ => net.http.Accepts sdk

/-- A write to a QUIC connection went through, at the second attempt at the latest. -/
def QuicAnswers.Written (quic : QuicAnswers) : Prop :=
  quic.first = .ok () ∨ quic.reconnect = .ok () ∧ quic.second = .ok ()

/-- The body that a client drops is not that of an acceptance. -/
def DropsError (sdk : ClientSdk) : Except Error String → Prop
  | .ok text => isRpcError sdk text = true
  | .error _ => True

/-- The client takes what came back for an acceptance. The clients that only log the body do so with
every readable answer, those that look at the status with every body. -/
def Misreads (sdk : ClientSdk) (delivered : QuicAnswers → Prop) (net : Net) : SwqosType → Prop
  | .blockRazor | .astralane => ∃ status body, net.http = .answer status body ∧
      isSuccess status = true ∧ DropsError sdk body
  | .soyas | .speedlanding => net.quic.Written ∧ ¬ delivered net.quic
  | .helius | .default => False
  | _ => ∃ status text, net.http = .answer status (.ok text) ∧
      (isSuccess status = false ∨ isRpcError sdk text = true)

section Submit

variable {sdk : ClientSdk} {delivered : QuicAnswers → Prop} {net : Net}

theorem submitText_eq_ok (reply : HttpReply) :
    submitText reply = .ok () ↔ ∃ status text, reply = .answer status (.ok text) := by
  match reply with
  | .sendError e => simp [submitText]
  | .answer status (.error e) => simp [submitText]
  | .answer status (.ok text) => simp [submitText]

theorem submitStatus_eq_ok (name : String) (reply : HttpReply) :
    submitStatus sdk name reply = .ok () ↔
      ∃ status body, reply = .answer status body ∧ isSuccess status = true := by
  match reply with
  | .sendError e => simp [submitStatus]
  | .answer status body => cases h : isSuccess status <;> simp [submitStatus, h]

theorem submitHelius_eq_ok (reply : HttpReply) :
    submitHelius sdk reply = .ok () ↔ reply.Accepts sdk := by
  match reply with
  | .sendError e => simp [submitHelius, HttpReply.Accepts]
  | .answer status (.error e) => simp [submitHelius, HttpReply.Accepts]
  | .answer status (.ok text) =>
    simp only [submitHelius, HttpReply.Accepts, isRpcError]
    by_cases h : isSuccess status = true
    · rw [if_pos h]
      cases (sdk.parseJson text).bind (Json.get "error") <;> simp [h]
    · rw [if_neg h]
      simp [h]

theorem submitQuic_eq_ok (quic : QuicAnswers) : submitQuic quic = .ok () ↔ quic.Written := by
  obtain ⟨first, reconnect, second⟩ := quic
  match first, reconnect with
  | .ok (), _ => simp [submitQuic, QuicAnswers.Written]
  | .error e, .ok () => simp [submitQuic, QuicAnswers.Written, bind, Except.bind]
  | .error e, .error e' => simp [submitQuic, QuicAnswers.Written, bind, Except.bind]

theorem text_misread (reply : HttpReply) : submitText reply = .ok () ∧ ¬ reply.Accepts sdk ↔
    ∃ status text, reply = .answer status (.ok text) ∧
      (isSuccess status = false ∨ isRpcError sdk text = true) := by
  rw [submitText_eq_ok]
  constructor
  · rintro ⟨⟨status, text, rfl⟩, hnot⟩
    refine ⟨status, text, rfl, ?_⟩
    cases hstatus : isSuccess status with
    | false => exact Or.inl rfl
    | true => exact Or.inr (by simpa [HttpReply.Accepts, hstatus] using hnot)
  · rintro ⟨status, text, rfl, hbad⟩
    exact ⟨⟨status, text, rfl⟩, fun ⟨hstatus, hbody⟩ => by simp [hstatus, hbody] at hbad⟩

theorem status_misread (name : String) (reply : HttpReply) :
    submitStatus sdk name reply = .ok () ∧ ¬ reply.Accepts sdk ↔
      ∃ status body, reply = .answer status body ∧ isSuccess status = true ∧ DropsError sdk body := by
  rw [submitStatus_eq_ok]
  constructor
  · rintro ⟨⟨status, body, rfl, hstatus⟩, hnot⟩
    refine ⟨status, body, rfl, hstatus, ?_⟩
    cases body with
    | error e => trivial
    | ok text => simpa [HttpReply.Accepts, hstatus, DropsError] using hnot
  · rintro ⟨status, body, rfl, hstatus, hdrop⟩
    refine ⟨⟨status, body, rfl, hstatus⟩, fun haccepts => ?_⟩
    cases body with
    | error e => exact haccepts
    | ok text =>
      have hbody : isRpcError sdk text = true := hdrop
      rw [haccepts.2] at hbody
      cases hbody

/-- **Success without acceptance** is a misread answer. -/
theorem submit_misreads (t : SwqosType) :
    submit sdk net t = .ok () ∧ ¬ Accepts sdk delivered net t ↔ Misreads sdk delivered net t := by
  cases t with
  | blockRazor => exact status_misread "BlockRazor" net.http
  | astralane => exact status_misread "Astralane" net.http
  | helius =>
    change submitHelius sdk net.http = .ok () ∧ ¬ net.http.Accepts sdk ↔ False
    rw [submitHelius_eq_ok]
    exact and_not_self_iff _
  | soyas => exact and_congr_left' (submitQuic_eq_ok net.quic)
  | speedlanding => exact and_congr_left' (submitQuic_eq_ok net.quic)
  | default =>
    change (net.rpc.map fun _ => ()) = .ok () ∧ ¬ (∃ signature, net.rpc = .ok signature) ↔ False
    cases net.rpc <;> simp [Except.map]
  | _ => exact text_misread net.http

end Submit

/-! ## The clients -/

/-- The transaction is serialized, where the client does so itself. -/
def Serializes (sdk : ClientSdk) (t : SwqosType) (transaction : VersionedTransaction) : Prop :=
  t = .default ∨ ∃ bytes, sdk.serialize transaction = .ok bytes

namespace Provider

variable {sdk : ClientSdk}

theorem serialize_eq_ok (p : Provider) (transaction : VersionedTransaction) :
    p.serialize sdk transaction = .ok () ↔ Serializes sdk p.swqosType transaction := by
  unfold serialize Serializes
  cases p.swqosType <;> cases sdk.serialize transaction <;> simp

/-- Without waiting for confirmation, a client succeeds only where its service accepts, except for
the answers that it misreads. -/
theorem sendTransaction_accepts (delivered : QuicAnswers → Prop) (p : Provider) (net : Net)
    (tradeType : TradeType) (transaction : VersionedTransaction) :
    (p.sendTransaction sdk net tradeType transaction false = .ok () → Accepts sdk delivered net p.swqosType) ↔
      ¬ (Serializes sdk p.swqosType transaction ∧ Misreads sdk delivered net p.swqosType) := by
  rw [sendTransaction_now, serialize_eq_ok, ← submit_misreads p.swqosType]
  tauto

end Provider

end PumpTrade
