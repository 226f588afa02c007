import PumpTrade.Exec.Swap
import PumpTrade.Instr.PumpFun
import PumpTrade.Instr.PumpSwap

/-!
# The trading client

`TradingClient::buy` and `TradingClient::sell` of `lib.rs` with `TradeFactory`: the checks of the
parameters, the builder of the protocol, and the swap. The strategy of the fees is read from the
world of the swap.

* `checkTrade`: the checks that both trades make;
* `TradingClient.buyInstructions`, `TradingClient.sellInstructions`: a trade up to its instructions;
* `TradingClient.buy`, `TradingClient.sell`: the whole;
* **`buy_of_instructions`**, **`sell_of_instructions`**: what a trade comes to is decided by its
  instructions.
-/

namespace PumpTrade

open Base

/-- A token that is money for a trade. -/
inductive TradeTokenType where
  | sol | wsol | usd1 | usdc
  deriving DecidableEq, Repr

/-- The mint of a type of token. -/
def TradeTokenType.mint : TradeTokenType → Pubkey
  | sol => solTokenAccount
  | wsol => wsolTokenAccount
  | usdc => usdcTokenAccount
  | usd1 => usd1TokenAccount

/-- The protocol of a trade. -/
inductive DexType where
  | pumpFun | pumpSwap
  deriving DecidableEq, Repr

/-- The parameters of a buy. -/
structure TradeBuyParams where
  dexType : DexType
  inputTokenType : TradeTokenType
  mint : Pubkey
  inputTokenAmount : UInt64
  slippageBasisPoints : Option UInt64
  recentBlockhash : Option Hash
  extensionParams : DexParamEnum
  addressLookupTableAccount : Option AddressLookupTableAccount
  waitTransactionConfirmed : Bool
  createInputTokenAta : Bool
  closeInputTokenAta : Bool
  createMintAta : Bool
  durableNonce : Option DurableNonceInfo
  fixedOutputTokenAmount : Option UInt64
  simulate : Bool
  useExactSolAmount : Option Bool

/-- The parameters of a sale. -/
structure TradeSellParams where
  dexType : DexType
  outputTokenType : TradeTokenType
  mint : Pubkey
  inputTokenAmount : UInt64
  slippageBasisPoints : Option UInt64
  recentBlockhash : Option Hash
  withTip : Bool
  extensionParams : DexParamEnum
  addressLookupTableAccount : Option AddressLookupTableAccount
  waitTransactionConfirmed : Bool
  createOutputTokenAta : Bool
  closeOutputTokenAta : Bool
  closeMintTokenAta : Bool
  durableNonce : Option DurableNonceInfo
  fixedOutputTokenAmount : Option UInt64
  simulate : Bool

/-- The node and the services of a wallet. -/
structure TradingInfrastructure where
  rpc : RpcNode
  swqosClients : List SwqosClient

/-- A client; its settings for logs and CPU cores change no result. -/
structure TradingClient where
  payer : Keypair
  infrastructure : TradingInfrastructure
  middlewareManager : Option MiddlewareManager
  useSeedOptimize : Bool
  checkMinTip : Bool

/-- The result of a trade. -/
structure PumpTradeResult where
  success : Bool
  signatures : List Signature
  error : Option TradeError
  deriving DecidableEq, Repr

/-- The result of a trade, with its error as a `TradeError`. -/
def SwapResult.toTrade (result : SwapResult) : PumpTradeResult :=
  ⟨result.success, result.signatures, result.error.map TradeError.ofError⟩

/-- The parameters are those of the protocol. -/
def validateProtocolParams : DexType → DexParamEnum → Bool
  | .pumpFun, .pumpFun _ => true
  | .pumpSwap, .pumpSwap _ => true
  | _, _ => false

/-- The checks of a trade: of the token that the caller names, and of the parameters of the
protocol. -/
def checkTrade (unsupported : String) (tokenType : TradeTokenType) (dexType : DexType)
    (protocolParams : DexParamEnum) : Except Error Unit :=
  if tokenType = .usd1 then .error (.other unsupported)
  else if validateProtocolParams dexType protocolParams then .ok ()
  else .error (.other "Invalid protocol params for Trade")

/-! ## Builders of a protocol -/

/-- The name and the builders of the executor of a protocol. -/
structure TradeExecutor where
  protocolName : String
  buildBuyInstructions : InstructionParams → Cached (Except Error (List Instruction))
  buildSellInstructions : InstructionParams → Cached (Except Error (List Instruction))

/-- The executor with what its builders make of the parameters in a state of the caches. -/
def TradeExecutor.generic (executor : TradeExecutor) (params : InstructionParams) (g : Globals) :
    GenericTradeExecutor where
  instructionBuilder :=
    { buildBuyInstructions := fun _ => ((executor.buildBuyInstructions params).run g).1
      buildSellInstructions := fun _ => ((executor.buildSellInstructions params).run g).1 }
  protocolName := executor.protocolName

/-- An executor whose builder has come to `built`. -/
def GenericTradeExecutor.given (protocolName : String) (built : Outcome (Except Error (List Instruction))) :
    GenericTradeExecutor where
  instructionBuilder := ⟨fun _ => built, fun _ => built⟩
  protocolName := protocolName

section Given

variable (params : SwapParams) (sdk : Sdk) (texts : Texts) (world : World)
  (schedule : (n : ℕ) → List (Action n))

theorem swap_eq_given (executor : GenericTradeExecutor) {built : Outcome (Except Error (List Instruction))}
    (h : (if params.isBuy then executor.instructionBuilder.buildBuyInstructions params
      else executor.instructionBuilder.buildSellInstructions params) = built) :
    executor.swap params sdk texts world schedule =
      (GenericTradeExecutor.given executor.protocolName built).swap params sdk texts world schedule := by
  have hfinal : executor.finalInstructions params =
      (GenericTradeExecutor.given executor.protocolName built).finalInstructions params := by
    unfold GenericTradeExecutor.finalInstructions
    cases hbuy : params.isBuy with
    | true =>
      have hbuilt : executor.instructionBuilder.buildBuyInstructions params = built := by simpa [hbuy] using h
      simp [GenericTradeExecutor.given, hbuilt]
    | false =>
      have hbuilt : executor.instructionBuilder.buildSellInstructions params = built := by simpa [hbuy] using h
      simp [GenericTradeExecutor.given, hbuilt]
  unfold GenericTradeExecutor.swap
  rw [hfinal]
  rfl

theorem swap_given_error (protocolName : String) (e : Error) :
    (GenericTradeExecutor.given protocolName (.ret (.error e))).swap params sdk texts world schedule =
      some (.error e) := by
  have hfinal : (GenericTradeExecutor.given protocolName (.ret (.error e))).finalInstructions params =
      .ret (.error e) := by
    unfold GenericTradeExecutor.finalInstructions
    simp [GenericTradeExecutor.given]
    rfl
  unfold GenericTradeExecutor.swap
  rw [hfinal]

end Given

variable (D : Derivations) (checks : Bool) (solStrToLamports : String → Option UInt64)

/-- `TradeFactory::create_executor`. -/
def createExecutor : DexType → TradeExecutor
  | .pumpFun =>
    ⟨"PumpFun", PumpFun.buildBuyInstructions D checks solStrToLamports, PumpFun.buildSellInstructions D checks⟩
  | .pumpSwap => ⟨"PumpSwap", PumpSwap.buildBuyInstructions D checks, PumpSwap.buildSellInstructions D checks⟩

namespace TradingClient

variable (client : TradingClient)

/-! ## Buying -/

section Buy

variable (params : TradeBuyParams)

/-- What the builder reads of the `SwapParams` of a buy. -/
def buyInstructionParams : InstructionParams where
  payer := client.payer
  inputMint := params.inputTokenType.mint
  outputMint := params.mint
  inputAmount := some params.inputTokenAmount
  slippageBasisPoints := params.slippageBasisPoints
  protocolParams := params.extensionParams
  openSeedOptimize := client.useSeedOptimize
  createInputMintAta := params.createInputTokenAta
  closeInputMintAta := params.closeInputTokenAta
  createOutputMintAta := params.createMintAta
  closeOutputMintAta := false
  fixedOutputAmount := params.fixedOutputTokenAmount
  useExactSolAmount := params.useExactSolAmount

/-- What the swap reads of the `SwapParams` of a buy. -/
def buySwapParams : SwapParams where
  rpc := some client.infrastructure.rpc
  payer := client.payer
  tradeType := .buy
  addressLookupTableAccount := params.addressLookupTableAccount
  recentBlockhash := params.recentBlockhash
  waitTransactionConfirmed := params.waitTransactionConfirmed
  swqosClients := client.infrastructure.swqosClients
  middlewareManager := client.middlewareManager
  durableNonce := params.durableNonce
  withTip := true
  simulate := params.simulate
  checkMinTip := client.checkMinTip

/-- The checks before a buy. -/
def checkBuy : Except Error Unit :=
  checkTrade "Current version only supports SOL, WSOL, and USDC input for PumpFun/PumpSwap" params.inputTokenType
    params.dexType params.extensionParams

/-- A buy up to its instructions. -/
def buyInstructions : Cached (Except Error (List Instruction)) :=
  match checkBuy params with
  | .error e => return .error e
  | .ok () =>
    (createExecutor D checks solStrToLamports params.dexType).buildBuyInstructions
      (client.buyInstructionParams params)

/-- A buy along a schedule, with the instructions built in the state `g` of the caches. -/
def buy (g : Globals) (sdk : Sdk) (texts : Texts) (world : World) (schedule : (n : ℕ) → List (Action n)) :
    Option (Except Error PumpTradeResult) :=
  match checkBuy params with
  | .error e => some (.error e)
  | .ok () =>
    let executor := createExecutor D checks solStrToLamports params.dexType
    ((executor.generic (client.buyInstructionParams params) g).swap (client.buySwapParams params) sdk texts world
      schedule).map (Except.map SwapResult.toTrade)

end Buy

/-! ## Selling -/

section Sell

variable (params : TradeSellParams)

/-- What the builder reads of the `SwapParams` of a sale. -/
def sellInstructionParams : InstructionParams where
  payer := client.payer
  inputMint := params.mint
  outputMint := params.outputTokenType.mint
  inputAmount := some params.inputTokenAmount
  slippageBasisPoints := params.slippageBasisPoints
  protocolParams := params.extensionParams
  openSeedOptimize := client.useSeedOptimize
  createInputMintAta := false
  closeInputMintAta := params.closeMintTokenAta
  createOutputMintAta := params.createOutputTokenAta
  closeOutputMintAta := params.closeOutputTokenAta
  fixedOutputAmount := params.fixedOutputTokenAmount
  useExactSolAmount := none

/-- What the swap reads of the `SwapParams` of a sale. -/
def sellSwapParams : SwapParams where
  rpc := some client.infrastructure.rpc
  payer := client.payer
  tradeType := .sell
  addressLookupTableAccount := params.addressLookupTableAccount
  recentBlockhash := params.recentBlockhash
  waitTransactionConfirmed := params.waitTransactionConfirmed
  swqosClients := client.infrastructure.swqosClients
  middlewareManager := client.middlewareManager
  durableNonce := params.durableNonce
  withTip := params.withTip
  simulate := params.simulate
  checkMinTip := client.checkMinTip

/-- The checks before a sale. -/
def checkSell : Except Error Unit :=
  checkTrade "Current version only supports SOL, WSOL, and USDC output for PumpFun/PumpSwap"
    params.outputTokenType params.dexType params.extensionParams

/-- A sale up to its instructions. -/
def sellInstructions : Cached (Except Error (List Instruction)) :=
  match checkSell params with
  | .error e => return .error e
  | .ok () =>
    (createExecutor D checks solStrToLamports params.dexType).buildSellInstructions
      (client.sellInstructionParams params)

/-- A sale along a schedule, with the instructions built in the state `g` of the caches. -/
def sell (g : Globals) (sdk : Sdk) (texts : Texts) (world : World) (schedule : (n : ℕ) → List (Action n)) :
    Option (Except Error PumpTradeResult) :=
  match checkSell params with
  | .error e => some (.error e)
  | .ok () =>
    let executor := createExecutor D checks solStrToLamports params.dexType
    ((executor.generic (client.sellInstructionParams params) g).swap (client.sellSwapParams params) sdk texts
      world schedule).map (Except.map SwapResult.toTrade)

end Sell

/-! ## A trade and its instructions -/

variable {D} {checks} {solStrToLamports} {client} (g : Globals) (sdk : Sdk) (texts : Texts) (world : World)
  (schedule : (n : ℕ) → List (Action n))

/-- **A buy** is the swap of what its instructions come to. -/
theorem buy_of_instructions (params : TradeBuyParams) :
    client.buy D checks solStrToLamports params g sdk texts world schedule =
      ((GenericTradeExecutor.given (createExecutor D checks solStrToLamports params.dexType).protocolName
        ((client.buyInstructions D checks solStrToLamports params).run g).1).swap (client.buySwapParams params)
          sdk texts world schedule).map (Except.map SwapResult.toTrade) := by
  unfold buy buyInstructions
  cases checkBuy params with
  | error e => simp [swap_given_error, Except.map]
  | ok u => exact congrArg (Option.map (Except.map SwapResult.toTrade)) (swap_eq_given _ _ _ _ _ _ rfl)

/-- **A sale** is the swap of what its instructions come to. -/
theorem sell_of_instructions (params : TradeSellParams) :
    client.sell D checks solStrToLamports params g sdk texts world schedule =
      ((GenericTradeExecutor.given (createExecutor D checks solStrToLamports params.dexType).protocolName
        ((client.sellInstructions D checks solStrToLamports params).run g).1).swap (client.sellSwapParams params)
          sdk texts world schedule).map (Except.map SwapResult.toTrade) := by
  unfold sell sellInstructions
  cases checkSell params with
  | error e => simp [swap_given_error, Except.map]
  | ok u => exact congrArg (Option.map (Except.map SwapResult.toTrade)) (swap_eq_given _ _ _ _ _ _ rfl)

theorem buy_of_error {params : TradeBuyParams} {e : Error}
    (h : ((client.buyInstructions D checks solStrToLamports params).run g).1 = .ret (.error e)) :
    client.buy D checks solStrToLamports params g sdk texts world schedule = some (.error e) := by
  rw [buy_of_instructions, h, swap_given_error]
  rfl

theorem sell_of_error {params : TradeSellParams} {e : Error}
    (h : ((client.sellInstructions D checks solStrToLamports params).run g).1 = .ret (.error e)) :
    client.sell D checks solStrToLamports params g sdk texts world schedule = some (.error e) := by
  rw [sell_of_instructions, h, swap_given_error]
  rfl

end TradingClient

end PumpTrade
