import PumpTrade.Base.F64
import PumpTrade.Base.Outcome
import PumpTrade.Chain.Transaction
import PumpTrade.Swqos.Error

/-!
# Building a transaction

`trading/common/transaction_builder.rs` with `nonce_manager.rs`, `compute_budget_manager.rs`, the
pooled message builder and the middleware manager. A missing nonce field, a missing blockhash and a
message that does not compile are panics; a failing middleware is an error.

* `buildTransaction`: the whole of it;
* `lifetime`: the nonce advance and the blockhash that the arguments give, where they give them;
* `buildTransaction_eq_ok`: what a transaction that is built contains;
* `buildTransaction_returns_iff`: when building does not panic.
-/

namespace PumpTrade

open Base

/-- The functions of other packages that the trading code calls. -/
structure Sdk where
  /-- `sol_str_to_lamports` of a tip displayed as text. -/
  solToLamports : F64 → Option UInt64
  /-- The message of these instructions, for this payer, compiles. -/
  compiles : Pubkey → List Instruction → Option AddressLookupTableAccount → Bool
  /-- The signature of a serialized message. -/
  signMessage : Keypair → VersionedMessage → Signature
  /-- `Pubkey::from_str`. -/
  parsePubkey : String → Option Pubkey

/-- A middleware, by what it makes of protocol instructions and of full instructions. -/
structure InstructionMiddleware where
  processProtocolInstructions : List Instruction → (protocolName : String) → (isBuy : Bool) →
    Except Error (List Instruction)
  processFullInstructions : List Instruction → (protocolName : String) → (isBuy : Bool) →
    Except Error (List Instruction)

/-- A list of middlewares. -/
structure MiddlewareManager where
  middlewares : List InstructionMiddleware

/-- One middleware after the other, until one fails or leaves no instructions. -/
def applyMiddlewares (process : InstructionMiddleware → List Instruction → Except Error (List Instruction)) :
    List InstructionMiddleware → List Instruction → Except Error (List Instruction)
  | [], instructions => .ok instructions
  | m :: ms, instructions =>
    match process m instructions with
    | .error e => .error e
    | .ok [] => .ok []
    | .ok processed => applyMiddlewares process ms processed

namespace MiddlewareManager

/-- All middlewares, on the instructions of a transaction. -/
def applyMiddlewaresProcessFullInstructions (mm : MiddlewareManager) (instructions : List Instruction)
    (protocolName : String) (isBuy : Bool) : Except Error (List Instruction) :=
  applyMiddlewares (fun m is => m.processFullInstructions is protocolName isBuy) mm.middlewares instructions

/-- All middlewares, on the instructions of a protocol. -/
def applyMiddlewaresProcessProtocolInstructions (mm : MiddlewareManager)
    (instructions : List Instruction) (protocolName : String) (isBuy : Bool) :
    Except Error (List Instruction) :=
  applyMiddlewares (fun m is => m.processProtocolInstructions is protocolName isBuy) mm.middlewares
    instructions

end MiddlewareManager

/-- `Option::unwrap`. -/
def unwrap {α : Type} (x : Option α) : Outcome α :=
  Outcome.ofOption "called `Option::unwrap()` on a `None` value" x

/-- Push the nonce advance where a durable nonce is given. -/
def addNonceInstruction (instructions : List Instruction) (payer : Keypair)
    (durableNonce : Option DurableNonceInfo) : Outcome (List Instruction) :=
  match durableNonce with
  | some durableNonce => do
    let nonceAccount ← unwrap durableNonce.nonceAccount
    .ret (instructions ++ [advanceNonceAccount nonceAccount payer.pubkey])
  | none => .ret instructions

/-- The hash of the durable nonce where one is given, else the recent blockhash. -/
def getTransactionBlockhash (recentBlockhash : Option Hash) (durableNonce : Option DurableNonceInfo) :
    Outcome Hash :=
  match durableNonce with
  | some durableNonce => unwrap durableNonce.currentNonce
  | none => unwrap recentBlockhash

/-- The compute budget instructions, each left out where its value is zero. -/
def computeBudgetInstructions (unitPrice : UInt64) (unitLimit : UInt32) : List Instruction :=
  (if 0 < unitPrice then [setComputeUnitPrice unitPrice] else []) ++
  if 0 < unitLimit then [setComputeUnitLimit unitLimit] else []

variable (sdk : Sdk)

/-- The message: of version 0 with a lookup table, legacy without. -/
def buildZeroAlloc (payer : Pubkey) (instructions : List Instruction)
    (lookupTable : Option AddressLookupTableAccount) (recentBlockhash : Hash) : Outcome VersionedMessage :=
  match lookupTable with
  | some table =>
    if sdk.compiles payer instructions lookupTable then
      .ret (.v0 { payer, instructions, recentBlockhash } table)
    else .panic "v0 message compile failed"
  | none =>
    if sdk.compiles payer instructions lookupTable then
      .ret (.legacy { payer, instructions, recentBlockhash })
    else .panic "overflow when compiling message keys"

/-- The instructions after the middlewares. -/
def fullInstructions (middlewareManager : Option MiddlewareManager) (instructions : List Instruction)
    (protocolName : String) (isBuy : Bool) : Except Error (List Instruction) :=
  match middlewareManager with
  | some mm => mm.applyMiddlewaresProcessFullInstructions instructions protocolName isBuy
  | none => .ok instructions

/-- The signed transaction of what the middlewares leave. -/
def buildVersionedTransaction (payer : Keypair) (instructions : List Instruction)
    (lookupTable : Option AddressLookupTableAccount) (blockhash : Hash)
    (middlewareManager : Option MiddlewareManager) (protocolName : String) (isBuy : Bool) :
    Outcome (Except Error VersionedTransaction) :=
  match fullInstructions middlewareManager instructions protocolName isBuy with
  | .error e => .ret (.error e)
  | .ok full => do
    let message ← buildZeroAlloc sdk payer.pubkey full lookupTable blockhash
    .ret (.ok { signatures := [sdk.signMessage payer message], message })

/-- The instructions that follow the nonce advance: tip, compute budget, business. -/
def bodyInstructions (payer : Keypair) (unitLimit : UInt32) (unitPrice : UInt64)
    (businessInstructions : List Instruction) (withTip : Bool) (tipAccount : Pubkey) (tipAmount : F64) :
    List Instruction :=
  (if withTip ∧ F64.zero.lt tipAmount then
    [transfer payer.pubkey tipAccount ((sdk.solToLamports tipAmount).getD 0)]
  else []) ++ computeBudgetInstructions unitPrice unitLimit ++ businessInstructions

/-- The nonce advance, the tip, the compute budget and the business instructions as one transaction. -/
def buildTransaction (payer : Keypair) (unitLimit : UInt32) (unitPrice : UInt64)
    (businessInstructions : List Instruction) (lookupTable : Option AddressLookupTableAccount)
    (recentBlockhash : Option Hash) (middlewareManager : Option MiddlewareManager) (protocolName : String)
    (isBuy withTip : Bool) (tipAccount : Pubkey) (tipAmount : F64)
    (durableNonce : Option DurableNonceInfo) : Outcome (Except Error VersionedTransaction) := do
  let nonceInstructions ← addNonceInstruction [] payer durableNonce
  let instructions := nonceInstructions ++
    bodyInstructions sdk payer unitLimit unitPrice businessInstructions withTip tipAccount tipAmount
  let blockhash ← getTransactionBlockhash recentBlockhash durableNonce
  buildVersionedTransaction sdk payer instructions lookupTable blockhash middlewareManager protocolName isBuy

/-! ## What is built -/

/-- The instructions that advance the nonce, and the blockhash, where the arguments give both. -/
def lifetime (payer : Keypair) (recentBlockhash : Option Hash) (durableNonce : Option DurableNonceInfo) :
    Option (List Instruction × Hash) :=
  match durableNonce with
  | some ⟨some nonceAccount, some hash⟩ => some ([advanceNonceAccount nonceAccount payer.pubkey], hash)
  | some _ => none
  | none => recentBlockhash.map fun hash => ([], hash)

/-- The message that is compiled. -/
def versionedMessage (body : MessageBody) : Option AddressLookupTableAccount → VersionedMessage
  | some table => .v0 body table
  | none => .legacy body

/-- The transaction of a message, signed. -/
def signed (payer : Keypair) (instructions : List Instruction) (recentBlockhash : Hash)
    (table : Option AddressLookupTableAccount) : VersionedTransaction :=
  let message := versionedMessage { payer := payer.pubkey, instructions, recentBlockhash } table
  { signatures := [sdk.signMessage payer message], message }

@[simp] theorem versionedMessage_body (body : MessageBody) (table : Option AddressLookupTableAccount) :
    (versionedMessage body table).body = body := by
  cases table <;> rfl

theorem buildZeroAlloc_eq (payer : Pubkey) (instructions : List Instruction)
    (table : Option AddressLookupTableAccount) (recentBlockhash : Hash)
    (h : sdk.compiles payer instructions table) :
    buildZeroAlloc sdk payer instructions table recentBlockhash =
      .ret (versionedMessage { payer, instructions, recentBlockhash } table) := by
  cases table <;> exact if_pos h

theorem buildZeroAlloc_ne_ret (payer : Pubkey) (instructions : List Instruction)
    (table : Option AddressLookupTableAccount) (recentBlockhash : Hash)
    (h : ¬ sdk.compiles payer instructions table) (message : VersionedMessage) :
    buildZeroAlloc sdk payer instructions table recentBlockhash ≠ .ret message := by
  cases table <;> simp [buildZeroAlloc, h]

section Build

variable {sdk} {payer : Keypair} {unitLimit : UInt32} {unitPrice : UInt64}
  {businessInstructions : List Instruction} {table : Option AddressLookupTableAccount}
  {recentBlockhash : Option Hash} {mm : Option MiddlewareManager} {protocolName : String}
  {isBuy withTip : Bool} {tipAccount : Pubkey} {tipAmount : F64} {durableNonce : Option DurableNonceInfo}

theorem buildVersionedTransaction_eq_ok {instructions : List Instruction} {blockhash : Hash}
    {tx : VersionedTransaction} :
    buildVersionedTransaction sdk payer instructions table blockhash mm protocolName isBuy = .ret (.ok tx) ↔
      ∃ full, fullInstructions mm instructions protocolName isBuy = .ok full ∧
        sdk.compiles payer.pubkey full table ∧ tx = signed sdk payer full blockhash table := by
  unfold buildVersionedTransaction
  cases fullInstructions mm instructions protocolName isBuy with
  | error e => simp
  | ok full =>
    by_cases hc : sdk.compiles payer.pubkey full table
    · simp only [buildZeroAlloc_eq sdk _ _ _ _ hc, Outcome.ret_bind, Outcome.ret.injEq, Except.ok.injEq,
        exists_eq_left', hc, true_and]
      exact eq_comm
    · simp [Outcome.bind_eq_ret, buildZeroAlloc_ne_ret sdk _ _ _ _ hc, hc]

theorem buildVersionedTransaction_eq_error {instructions : List Instruction} {blockhash : Hash} {e : Error} :
    buildVersionedTransaction sdk payer instructions table blockhash mm protocolName isBuy = .ret (.error e) ↔
      fullInstructions mm instructions protocolName isBuy = .error e := by
  unfold buildVersionedTransaction
  cases fullInstructions mm instructions protocolName isBuy with
  | error e' => simp
  | ok full => simp [Outcome.bind_eq_ret]

theorem buildVersionedTransaction_returns {instructions : List Instruction} {blockhash : Hash} :
    (∃ r, buildVersionedTransaction sdk payer instructions table blockhash mm protocolName isBuy = .ret r) ↔
      ∀ full, fullInstructions mm instructions protocolName isBuy = .ok full →
        sdk.compiles payer.pubkey full table := by
  unfold buildVersionedTransaction
  cases fullInstructions mm instructions protocolName isBuy with
  | error e => simp
  | ok full =>
    by_cases hc : sdk.compiles payer.pubkey full table
    · simp [buildZeroAlloc_eq sdk _ _ _ _ hc, hc]
    · simp [Outcome.bind_eq_ret, buildZeroAlloc_ne_ret sdk _ _ _ _ hc, hc]

theorem buildTransaction_ne_ret (h : lifetime payer recentBlockhash durableNonce = none)
    (r : Except Error VersionedTransaction) :
    buildTransaction sdk payer unitLimit unitPrice businessInstructions table recentBlockhash mm
      protocolName isBuy withTip tipAccount tipAmount durableNonce ≠ .ret r := by
  match durableNonce, recentBlockhash, h with
  | some ⟨none, _⟩, _, _ => exact nofun
  | some ⟨some _, none⟩, _, _ => exact nofun
  | none, none, _ => exact nofun

/-- Where the lifetime is given, the message is built from it and the other instructions. -/
theorem buildTransaction_eq {nonceInstructions : List Instruction} {blockhash : Hash}
    (h : lifetime payer recentBlockhash durableNonce = some (nonceInstructions, blockhash)) :
    buildTransaction sdk payer unitLimit unitPrice businessInstructions table recentBlockhash mm
      protocolName isBuy withTip tipAccount tipAmount durableNonce =
    buildVersionedTransaction sdk payer (nonceInstructions ++ bodyInstructions sdk payer unitLimit unitPrice
      businessInstructions withTip tipAccount tipAmount) table blockhash mm protocolName isBuy := by
  match durableNonce, recentBlockhash, h with
  | some ⟨some _, some _⟩, _, rfl => rfl
  | none, some _, rfl => rfl

/-- **What is built**: the message of the lifetime and the instructions, after the middlewares. -/
theorem buildTransaction_eq_ok {tx : VersionedTransaction} :
    buildTransaction sdk payer unitLimit unitPrice businessInstructions table recentBlockhash mm
      protocolName isBuy withTip tipAccount tipAmount durableNonce = .ret (.ok tx) ↔
    ∃ nonceInstructions blockhash full,
      lifetime payer recentBlockhash durableNonce = some (nonceInstructions, blockhash) ∧
      fullInstructions mm (nonceInstructions ++ bodyInstructions sdk payer unitLimit unitPrice
        businessInstructions withTip tipAccount tipAmount) protocolName isBuy = .ok full ∧
      sdk.compiles payer.pubkey full table ∧ tx = signed sdk payer full blockhash table := by
  cases h : lifetime payer recentBlockhash durableNonce with
  | none =>
    constructor
    · exact fun hr => absurd hr (buildTransaction_ne_ret h _)
    · rintro ⟨_, _, _, h', -⟩
      cases h'
  | some p =>
    obtain ⟨nonceInstructions, blockhash⟩ := p
    rw [buildTransaction_eq h, buildVersionedTransaction_eq_ok]
    constructor
    · rintro ⟨full, hfull⟩
      exact ⟨_, _, full, rfl, hfull⟩
    · rintro ⟨_, _, full, h', hfull⟩
      obtain ⟨rfl, rfl⟩ := Prod.mk.inj (Option.some.inj h')
      exact ⟨full, hfull⟩

theorem buildTransaction_eq_error {e : Error} :
    buildTransaction sdk payer unitLimit unitPrice businessInstructions table recentBlockhash mm
      protocolName isBuy withTip tipAccount tipAmount durableNonce = .ret (.error e) ↔
    ∃ nonceInstructions blockhash,
      lifetime payer recentBlockhash durableNonce = some (nonceInstructions, blockhash) ∧
      fullInstructions mm (nonceInstructions ++ bodyInstructions sdk payer unitLimit unitPrice
        businessInstructions withTip tipAccount tipAmount) protocolName isBuy = .error e := by
  cases h : lifetime payer recentBlockhash durableNonce with
  | none => simp [buildTransaction_ne_ret h]
  | some p =>
    obtain ⟨nonceInstructions, blockhash⟩ := p
    rw [buildTransaction_eq h, buildVersionedTransaction_eq_error]
    simp

/-- **When building does not panic**: the lifetime is given, and what the middlewares leave
compiles. -/
theorem buildTransaction_returns_iff :
    (∃ r, buildTransaction sdk payer unitLimit unitPrice businessInstructions table recentBlockhash mm
      protocolName isBuy withTip tipAccount tipAmount durableNonce = .ret r) ↔
    ∃ nonceInstructions blockhash,
      lifetime payer recentBlockhash durableNonce = some (nonceInstructions, blockhash) ∧
      ∀ full, fullInstructions mm (nonceInstructions ++ bodyInstructions sdk payer unitLimit unitPrice
        businessInstructions withTip tipAccount tipAmount) protocolName isBuy = .ok full →
          sdk.compiles payer.pubkey full table := by
  cases h : lifetime payer recentBlockhash durableNonce with
  | none =>
    constructor
    · rintro ⟨r, hr⟩
      exact absurd hr (buildTransaction_ne_ret h r)
    · rintro ⟨_, _, h', -⟩
      cases h'
  | some p =>
    obtain ⟨nonceInstructions, blockhash⟩ := p
    rw [buildTransaction_eq h, buildVersionedTransaction_returns]
    constructor
    · exact fun hfull => ⟨_, _, rfl, hfull⟩
    · rintro ⟨_, _, h', hfull⟩
      obtain ⟨rfl, rfl⟩ := Prod.mk.inj (Option.some.inj h')
      exact hfull

end Build

end PumpTrade
