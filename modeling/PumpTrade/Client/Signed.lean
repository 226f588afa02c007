import PumpTrade.Client.Middleware
import PumpTrade.Instr.Signers

/-!
# Signatures of a trade

`build_versioned_transaction` signs with the payer alone, whatever the instructions are. A cluster
wants a signature for each account that a message names as a signer.

* `MessageBody.requiredSigners`, `FullySigned`: the signatures that a transaction needs;
* `InstructionMiddleware.KeepsSigner`: a middleware that asks for no other signature;
* **`trades_fullySigned`**: each transaction of a trade has the signatures that it needs.
-/

namespace PumpTrade

open Base

/-- The accounts that sign a message: the payer first, then the others that its instructions name. -/
def MessageBody.requiredSigners (body : MessageBody) : List Pubkey :=
  body.payer :: ((body.instructions.flatMap Instruction.signers).filter (· ≠ body.payer)).dedup

/-- A transaction has one signature for each account that signs its message, in their order. -/
def VersionedTransaction.FullySigned (sdk : Sdk) (transaction : VersionedTransaction) : Prop :=
  transaction.signatures =
    transaction.message.body.requiredSigners.map fun key => sdk.signMessage ⟨key⟩ transaction.message

/-- Given instructions for one signer, the middleware returns such instructions. -/
structure InstructionMiddleware.KeepsSigner (payer : Pubkey) (m : InstructionMiddleware) : Prop where
  protocol : ∀ protocolName isBuy is js, SignedBy payer is →
    m.processProtocolInstructions is protocolName isBuy = .ok js → SignedBy payer js
  full : ∀ protocolName isBuy is js, SignedBy payer is →
    m.processFullInstructions is protocolName isBuy = .ok js → SignedBy payer js

theorem loggingMiddleware_keepsSigner (payer : Pubkey) : loggingMiddleware.KeepsSigner payer where
  protocol _ _ is js his hjs := by
    obtain rfl : is = js := Except.ok.inj hjs
    exact his
  full _ _ is js his hjs := by
    obtain rfl : is = js := Except.ok.inj hjs
    exact his

/-- All middlewares of a manager, if there is one, keep the signer. -/
def KeepSigner (payer : Pubkey) (mm : Option MiddlewareManager) : Prop :=
  ∀ manager, mm = some manager → ∀ m ∈ manager.middlewares, m.KeepsSigner payer

section Messages

variable {sdk : Sdk} {payer : Keypair} {instructions : List Instruction}

theorem requiredSigners_of_signedBy {recentBlockhash : Hash} (h : SignedBy payer.pubkey instructions) :
    MessageBody.requiredSigners ⟨payer.pubkey, instructions, recentBlockhash⟩ = [payer.pubkey] := by
  have hothers : (instructions.flatMap Instruction.signers).filter (· ≠ payer.pubkey) = [] := by
    refine List.filter_eq_nil_iff.mpr fun signer hsigner => ?_
    obtain ⟨instruction, hinstruction, hsigner⟩ := List.mem_flatMap.mp hsigner
    simp [h instruction hinstruction signer hsigner]
  show payer.pubkey :: ((instructions.flatMap Instruction.signers).filter (· ≠ payer.pubkey)).dedup = _
  rw [hothers]
  rfl

/-- **A transaction of instructions for the payer alone has the signatures that it needs.** -/
theorem signed_fullySigned {blockhash : Hash} {table : Option AddressLookupTableAccount}
    (h : SignedBy payer.pubkey instructions) :
    (signed sdk payer instructions blockhash table).FullySigned sdk := by
  unfold VersionedTransaction.FullySigned signed
  simp only [versionedMessage_body, requiredSigners_of_signedBy h]
  rfl

end Messages

/-! ## The instructions around a trade -/

section Around

variable {sdk : Sdk} {payer : Keypair} {instructions nonceInstructions full : List Instruction}
  {mm : Option MiddlewareManager} {protocolName : String} {isBuy : Bool}

theorem signedBy_lifetime {recentBlockhash : Option Hash} {durableNonce : Option DurableNonceInfo} {hash : Hash}
    (h : lifetime payer recentBlockhash durableNonce = some (nonceInstructions, hash)) :
    SignedBy payer.pubkey nonceInstructions := by
  unfold lifetime at h
  split at h
  · obtain ⟨rfl, -⟩ := Prod.mk.inj (Option.some.inj h)
    simp [signers_advanceNonce]
  · cases h
  · obtain ⟨hash', -, h⟩ := Option.map_eq_some_iff.mp h
    obtain ⟨rfl, -⟩ := Prod.mk.inj h
    exact signedBy_nil

theorem signedBy_bodyInstructions (h : SignedBy payer.pubkey instructions) (unitLimit : UInt32)
    (unitPrice : UInt64) (withTip : Bool) (tipAccount : Pubkey) (tipAmount : F64) :
    SignedBy payer.pubkey
      (bodyInstructions sdk payer unitLimit unitPrice instructions withTip tipAccount tipAmount) := by
  unfold bodyInstructions
  rw [signedBy_append, signedBy_append]
  refine ⟨⟨?_, signedBy_computeBudget _ _ _⟩, h⟩
  split_ifs
  · simp [signers_transfer]
  · exact signedBy_nil

theorem signedBy_fullInstructions (hkeep : KeepSigner payer.pubkey mm) (h : SignedBy payer.pubkey instructions)
    (hfull : fullInstructions mm instructions protocolName isBuy = .ok full) :
    SignedBy payer.pubkey full := by
  cases mm with
  | none =>
    obtain rfl := Except.ok.inj hfull
    exact h
  | some manager =>
    exact applyMiddlewares_keeps (fun m hm => (hkeep manager rfl m hm).full protocolName isBuy) h hfull

theorem signedBy_protocolInstructions (hkeep : KeepSigner payer.pubkey mm)
    (h : SignedBy payer.pubkey instructions)
    (hfull : protocolInstructions mm instructions protocolName isBuy = .ok full) :
    SignedBy payer.pubkey full := by
  cases mm with
  | none =>
    obtain rfl := Except.ok.inj hfull
    exact h
  | some manager =>
    exact applyMiddlewares_keeps (fun m hm => (hkeep manager rfl m hm).protocol protocolName isBuy) h hfull

/-- **Every transaction of a swap has its signatures**, where its instructions ask for the payer's
only: the one that is simulated, and those of all tasks. -/
theorem builds_fullySigned {params : SwapParams} {world : World} {transaction : VersionedTransaction}
    (hkeep : KeepSigner params.payer.pubkey params.middlewareManager)
    (h : SignedBy params.payer.pubkey instructions)
    (hbuilds : params.Builds sdk world protocolName instructions transaction) : transaction.FullySigned sdk := by
  obtain ⟨body, hbody, nonceInstructions, blockhash, full, hlife, hfull, -, rfl⟩ :=
    SwapParams.builds_iff_signed.mp hbuilds
  have hsigned : SignedBy params.payer.pubkey body := by
    unfold SwapParams.bodies at hbody
    cases hsimulate : params.simulate with
    | true =>
      rw [hsimulate, if_pos rfl] at hbody
      obtain ⟨fees, -, rfl⟩ := List.mem_map.mp hbody
      exact signedBy_bodyInstructions h _ _ _ _ _
    | false =>
      rw [hsimulate, if_neg Bool.false_ne_true] at hbody
      obtain ⟨task, -, rfl⟩ := List.mem_map.mp hbody
      exact signedBy_bodyInstructions h _ _ _ _ _
  exact signed_fullySigned
    (signedBy_fullInstructions hkeep (signedBy_append.mpr ⟨signedBy_lifetime hlife, hsigned⟩) hfull)

end Around

/-! ## Trades -/

namespace TradingClient

variable {D : Derivations} {checks : Bool} {solStrToLamports : String → Option UInt64} {client : TradingClient}
  {g : Globals}

theorem signedBy_buyInstructions (hg : Reached D g) {params : TradeBuyParams} {built : List Instruction}
    (h : ((client.buyInstructions D checks solStrToLamports params).run g).1 = .ret (.ok built)) :
    SignedBy client.payer.pubkey built := by
  have hreturns : (client.buyInstructions D checks solStrToLamports params).Returns (Coherent D)
      (BuiltFor client.payer.pubkey) := by
    unfold buyInstructions
    split
    · exact Prog.returns_ret trivial
    · cases params.dexType with
      | pumpFun => exact PumpFun.signedBy_buy (client.buyInstructionParams params)
      | pumpSwap => exact PumpSwap.signedBy_buy (client.buyInstructionParams params)
  exact hreturns.run hg.coherent h

theorem signedBy_sellInstructions (hg : Reached D g) {params : TradeSellParams} {built : List Instruction}
    (h : ((client.sellInstructions D checks solStrToLamports params).run g).1 = .ret (.ok built)) :
    SignedBy client.payer.pubkey built := by
  have hreturns : (client.sellInstructions D checks solStrToLamports params).Returns (Coherent D)
      (BuiltFor client.payer.pubkey) := by
    unfold sellInstructions
    split
    · exact Prog.returns_ret trivial
    · cases params.dexType with
      | pumpFun => exact PumpFun.signedBy_sell (client.sellInstructionParams params)
      | pumpSwap => exact PumpSwap.signedBy_sell (client.sellInstructionParams params)
  exact hreturns.run hg.coherent h

/-- **Each transaction of a trade has the signatures that it needs.** Whatever the caches hold in the
state that calls have led to, and whatever fees, tips and nonces the world of the trade comes to, a
buy and a sale build transactions whose only signer is the payer, who has signed them. -/
theorem trades_fullySigned (hg : Reached D g) (hkeep : KeepSigner client.payer.pubkey client.middlewareManager)
    (sdk : Sdk) (world : World) (protocolName : String) (transaction : VersionedTransaction) :
    (∀ (params : TradeBuyParams) (instructions : List Instruction),
      (GenericTradeExecutor.given protocolName
        ((client.buyInstructions D checks solStrToLamports params).run g).1).Submits
          (client.buySwapParams params) instructions →
      (client.buySwapParams params).Builds sdk world protocolName instructions transaction →
        transaction.FullySigned sdk) ∧
    ∀ (params : TradeSellParams) (instructions : List Instruction),
      (GenericTradeExecutor.given protocolName
        ((client.sellInstructions D checks solStrToLamports params).run g).1).Submits
          (client.sellSwapParams params) instructions →
      (client.sellSwapParams params).Builds sdk world protocolName instructions transaction →
        transaction.FullySigned sdk := by
  constructor
  · intro params instructions hsubmits hbuilds
    obtain ⟨built, hbuilt, -, hprotocol⟩ := GenericTradeExecutor.submits_iff.mp hsubmits
    have hsigned : SignedBy client.payer.pubkey built := signedBy_buyInstructions hg hbuilt
    exact builds_fullySigned hkeep (signedBy_protocolInstructions hkeep hsigned hprotocol) hbuilds
  · intro params instructions hsubmits hbuilds
    obtain ⟨built, hbuilt, -, hprotocol⟩ := GenericTradeExecutor.submits_iff.mp hsubmits
    have hsigned : SignedBy client.payer.pubkey built := signedBy_sellInstructions hg hbuilt
    exact builds_fullySigned hkeep (signedBy_protocolInstructions hkeep hsigned hprotocol) hbuilds

/-- A buy of a new coin that is simulated. -/
def sampleSimulatedBuy : TradeBuyParams :=
  { sampleBuyParams .sol PumpFun.sampleCurve with recentBlockhash := some ⟨5⟩, simulate := true }

/-- Its transaction names the payer as a signer three times, who creates the account of the coin and
pays for both, and has one signature. -/
theorem trades_fullySigned_buy : ∃ built transaction,
    (((sampleClient true).buyInstructions sampleDerivations true (fun _ => some 10000000)
      sampleSimulatedBuy).run (.withRents 2039280)).1 = .ret (.ok built) ∧
    (built.flatMap Instruction.signers).length = 3 ∧
    ((sampleClient true).buySwapParams sampleSimulatedBuy).Builds sampleSdk
      (sampleWorld fun _ _ => sampleNet 200 "") "PumpFun" built transaction ∧
    transaction.signatures.length = 1 ∧ transaction.FullySigned sampleSdk := by
  obtain ⟨built, hbuilt, hne, hsigners⟩ : ∃ built, (((sampleClient true).buyInstructions sampleDerivations true
      (fun _ => some 10000000) sampleSimulatedBuy).run (.withRents 2039280)).1 = .ret (.ok built) ∧ built ≠ [] ∧
      (built.flatMap Instruction.signers).length = 3 := ⟨_, rfl, List.cons_ne_nil _ _, rfl⟩
  have hsubmits : (GenericTradeExecutor.given "PumpFun" (((sampleClient true).buyInstructions sampleDerivations true
      (fun _ => some 10000000) sampleSimulatedBuy).run (.withRents 2039280)).1).Submits
        ((sampleClient true).buySwapParams sampleSimulatedBuy) built :=
    GenericTradeExecutor.submits_iff.mpr ⟨built, hbuilt, hne, rfl⟩
  have hbuilds : ((sampleClient true).buySwapParams sampleSimulatedBuy).Builds sampleSdk
      (sampleWorld fun _ _ => sampleNet 200 "") "PumpFun" built _ :=
    ⟨⟨200000, 100000, ⟨0x3f50624dd2f1a9fc⟩⟩, rfl, rfl⟩
  have hkeep : KeepSigner (sampleClient true).payer.pubkey (sampleClient true).middlewareManager := nofun
  refine ⟨built, _, hbuilt, hsigners, hbuilds, rfl, ?_⟩
  exact (trades_fullySigned (reached_withRents sampleDerivations 2039280) hkeep sampleSdk
    (sampleWorld fun _ _ => sampleNet 200 "") "PumpFun" _).1 sampleSimulatedBuy built hsubmits hbuilds

end TradingClient

end PumpTrade
