import PumpTrade.Chain.Transaction
import PumpTrade.Swqos.Poll
import PumpTrade.Swqos.Tip

/-!
# The service clients

The `send_transaction` of each client under `swqos/`, on whatever the network answers to the one
transaction sent. Nine clients read the body of an answer for their log only; Astralane and
BlockRazor look at the status alone, Helius at the status and the body; Soyas and Speedlanding write
to a QUIC connection, which does not answer; the default client calls its RPC node.

* `SwqosClient`: a client as the trading code sees it;
* `Provider`, `Provider.client`: the clients of the repository;
* `sendTransaction_now`: without waiting for confirmation, submitting decides.
-/

namespace PumpTrade

open Base

/-- A JSON value. -/
inductive Json where
  | null
  | bool (b : Bool)
  | num (literal : String)
  | str (s : String)
  | arr (items : List Json)
  | obj (fields : List (String × Json))
  deriving Repr

/-- The field of an object. -/
def Json.get (key : String) : Json → Option Json
  | obj fields => fields.lookup key
  | _ => none

/-- The text of a JSON string. -/
def Json.asStr : Json → Option String
  | str s => some s
  | _ => none

/-- What a request over HTTP comes to: it fails, or it is answered with a status and a body, whose
reading may fail. -/
inductive HttpReply where
  | sendError (e : Error)
  | answer (status : ℕ) (body : Except Error String)

/-- The outcomes of writing to a QUIC connection, of reconnecting and of writing again. -/
structure QuicAnswers where
  first : Except Error Unit
  reconnect : Except Error Unit
  second : Except Error Unit

/-- What the network answers to one call of `send_transaction`. -/
structure Net where
  http : HttpReply
  rpc : Except Error Signature
  quic : QuicAnswers
  rounds : List PollRound

/-- The functions of other packages that the clients call. -/
structure ClientSdk extends Texts where
  parseJson : String → Option Json
  displayStatus : ℕ → String
  serialize : VersionedTransaction → Except Error (List UInt8)
  sha256 : List UInt8 → List UInt8

/-- A client, as the trading code sees it. The tip account is drawn at random. -/
structure SwqosClient where
  swqosType : SwqosType
  minTipSol : F64
  getTipAccount : (draw : ℕ) → Except Error String
  sendTransaction : Net → TradeType → VersionedTransaction → (waitConfirmation : Bool) → Except Error Unit

/-- A status of the class 2xx. -/
def isSuccess (status : ℕ) : Bool := decide (200 ≤ status ∧ status < 300)

/-! ## Submitting -/

/-- The body is read, and parsed for the log only. -/
def submitText : HttpReply → Except Error Unit
  | .sendError e => .error e
  | .answer _ (.error e) => .error e
  | .answer _ (.ok _) => .ok ()

/-- The status is checked; the body is read and dropped. -/
def submitStatus (sdk : ClientSdk) (name : String) : HttpReply → Except Error Unit
  | .sendError e => .error e
  | .answer status _ =>
    if isSuccess status then .ok ()
    else .error (.other (name ++ " sendTransaction failed: " ++ sdk.displayStatus status))

/-- The text of a JSON-RPC error. -/
def errorText (error : Json) : String := ((error.get "message").bind Json.asStr).getD "unknown"

/-- The status is checked, and a body that is an error fails. -/
def submitHelius (sdk : ClientSdk) : HttpReply → Except Error Unit
  | .sendError e => .error e
  | .answer _ (.error e) => .error e
  | .answer status (.ok text) =>
    if isSuccess status then
      match (sdk.parseJson text).bind (Json.get "error") with
      | some error => .error (.other ("Helius Sender error: " ++ errorText error))
      | none => .ok ()
    else .error (.other ("Helius Sender failed: status=" ++ sdk.displayStatus status ++ " body=" ++ text))

/-- A failed write is repeated once, after reconnecting. -/
def submitQuic (quic : QuicAnswers) : Except Error Unit :=
  match quic.first with
  | .ok () => .ok ()
  | .error _ => do
    quic.reconnect
    quic.second

/-- Hand a serialized transaction to the service. -/
def submit (sdk : ClientSdk) (net : Net) : SwqosType → Except Error Unit
  | .jito | .nextBlock | .zeroSlot | .temporal | .bloxroute | .node1 | .flashBlock | .stellium
  | .lightspeed => submitText net.http
  | .blockRazor => submitStatus sdk "BlockRazor" net.http
  | .astralane => submitStatus sdk "Astralane" net.http
  | .helius => submitHelius sdk net.http
  | .soyas | .speedlanding => submitQuic net.quic
  | .default => net.rpc.map fun _ => ()

/-! ## The special API key of Temporal -/

/-- How the key begins. -/
def specialApiKeyPrefix : String := "298b5025"

/-- How the key ends. -/
def specialApiKeySuffix : String := "a055323"

/-- The hash of the key. -/
def specialApiKeyHash : String := "e7be933c8058aebcb4d08a6120fb4dfd2ead568d42527a3fc2b60a703f25e48d"

/-- Whom the tips of the key go to. -/
def temporalCommunityTipAddress : String := "mwGELGMgGGrNL1UibNCQeJHDE7qdPptWRYB6noUHmTj"

/-- The hash of a text, two digits for each byte. -/
def fastSha256Hex (sdk : ClientSdk) (input : String) : String :=
  String.ofList ((sdk.sha256 input.toUTF8.toList).flatMap fun byte =>
    [Nat.digitChar (byte.toNat / 16), Nat.digitChar (byte.toNat % 16)])

/-- The key whose tips go to the community. It is known by its two ends, which do not overlap, and by its
hash. -/
def isSpecialApiKey (sdk : ClientSdk) (apiKey : String) : Bool :=
  decide (specialApiKeyPrefix.utf8ByteSize + specialApiKeySuffix.utf8ByteSize ≤ apiKey.utf8ByteSize) &&
  (specialApiKeyPrefix.toList.isPrefixOf apiKey.toList && specialApiKeySuffix.toList.isSuffixOf apiKey.toList) &&
  decide (fastSha256Hex sdk apiKey = specialApiKeyHash)

/-! ## The clients -/

/-- A client of the repository: its service, the token that it keeps, and for Helius whether it sends
through its own service only. -/
structure Provider where
  swqosType : SwqosType
  authToken : String
  swqosOnly : Bool
  deriving DecidableEq, Repr

namespace Provider

/-- The signature whose confirmation is polled: the transaction's own, or the one the RPC node
returns. -/
def pollSignature (p : Provider) (net : Net) (transaction : VersionedTransaction) : Signature :=
  match p.swqosType, net.rpc with
  | .default, .ok signature => signature
  | _, _ => transaction.signatures.head?.getD default

/-- The transaction is serialized before it is submitted; the RPC package does so itself. -/
def serialize (sdk : ClientSdk) (p : Provider) (transaction : VersionedTransaction) : Except Error Unit :=
  match p.swqosType, sdk.serialize transaction with
  | .default, _ => .ok ()
  | _, .ok _ => .ok ()
  | .astralane, .error e => .error (.other ("Astralane binary serialize failed: " ++ e.toText))
  | _, .error e => .error e

/-- Serialize, submit, and poll for the confirmation where that is waited for. -/
def sendTransaction (sdk : ClientSdk) (p : Provider) (net : Net) (_tradeType : TradeType)
    (transaction : VersionedTransaction) (waitConfirmation : Bool) : Except Error Unit := do
  p.serialize sdk transaction
  submit sdk net p.swqosType
  let _ ← pollTransactionConfirmation sdk.toTexts (p.pollSignature net transaction) waitConfirmation
    net.rounds
  .ok ()

/-- The smallest tip of the client, in SOL. -/
def minTip (p : Provider) : F64 :=
  if p.swqosType = .helius ∧ p.swqosOnly then minTipHeliusSwqosOnly else minTipSol p.swqosType

/-- A client of Temporal with the special key. -/
def paysCommunity (sdk : ClientSdk) (p : Provider) : Prop :=
  p.swqosType = .temporal ∧ isSpecialApiKey sdk p.authToken = true

instance (sdk : ClientSdk) (p : Provider) : Decidable (p.paysCommunity sdk) :=
  inferInstanceAs (Decidable (_ ∧ _))

/-- The tip account of the community for the special key, and otherwise one drawn from those of the
service; the default client has the empty text. -/
def getTipAccount (sdk : ClientSdk) (p : Provider) (draw : ℕ) : Except Error String :=
  if p.paysCommunity sdk then .ok temporalCommunityTipAddress
  else .ok ((tipAccounts p.swqosType).getD (draw % (tipAccounts p.swqosType).length) "")

theorem exists_getTipAccount (sdk : ClientSdk) (p : Provider) (draw : ℕ) :
    ∃ tipAccount, p.getTipAccount sdk draw = .ok tipAccount := by
  unfold getTipAccount
  split_ifs
  · exact ⟨_, rfl⟩
  · exact ⟨_, rfl⟩

/-- The tip account of a service is one of its own, or that of the community. -/
theorem getTipAccount_cases {sdk : ClientSdk} {p : Provider} (h : p.swqosType ≠ .default) {draw : ℕ}
    {tipAccount : String} (htip : p.getTipAccount sdk draw = .ok tipAccount) :
    (p.paysCommunity sdk ∧ tipAccount = temporalCommunityTipAddress) ∨
      (¬ p.paysCommunity sdk ∧ tipAccount ∈ tipAccounts p.swqosType) := by
  unfold getTipAccount at htip
  split_ifs at htip with hspecial
  · exact Or.inl ⟨hspecial, (Except.ok.inj htip).symm⟩
  · have hpos : 0 < (tipAccounts p.swqosType).length := List.length_pos_iff.mpr (tipAccounts_ne_nil h)
    have hlt := Nat.mod_lt draw hpos
    obtain rfl := Except.ok.inj htip
    rw [← List.getElem_eq_getD (h := hlt)]
    exact Or.inr ⟨hspecial, List.getElem_mem hlt⟩

/-- The client of the trading code. -/
def client (sdk : ClientSdk) (p : Provider) : SwqosClient where
  swqosType := p.swqosType
  minTipSol := p.minTip
  getTipAccount := p.getTipAccount sdk
  sendTransaction := p.sendTransaction sdk

/-- Without waiting for confirmation a client succeeds when it has submitted the transaction. -/
theorem sendTransaction_now (sdk : ClientSdk) (p : Provider) (net : Net) (tradeType : TradeType)
    (transaction : VersionedTransaction) :
    p.sendTransaction sdk net tradeType transaction false = .ok () ↔
      p.serialize sdk transaction = .ok () ∧ submit sdk net p.swqosType = .ok () := by
  unfold sendTransaction
  cases p.serialize sdk transaction with
  | error e => simp [bind, Except.bind]
  | ok u =>
    cases submit sdk net p.swqosType with
    | error e => simp [bind, Except.bind]
    | ok u => simp [bind, Except.bind]

end Provider

end PumpTrade
