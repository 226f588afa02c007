import PumpTrade.Exec.Parallel

/-!
# Swaps

`GenericTradeExecutor::swap` of `trading/core/executor.rs`: the instructions of the protocol, the
middlewares over them, and then a simulation, or the submission and where wanted the confirmation.

* `finalInstructions`: the instructions that are handed on;
* `simulateTransaction`, `confirm`: the two ends besides submitting;
* `swap`: the whole, along a schedule of the tasks.
-/

namespace PumpTrade

open Base

/-- The RPC node as a swap uses it: the error that a simulation reports, as text, and the rounds of
polls. -/
structure RpcNode where
  simulate : VersionedTransaction → Except Error (Option String)
  rounds : List PollRound

/-- The parameters of a swap. Those that only the instruction builder reads are part of what it
builds. -/
structure SwapParams where
  rpc : Option RpcNode
  payer : Keypair
  tradeType : TradeType
  addressLookupTableAccount : Option AddressLookupTableAccount
  recentBlockhash : Option Hash
  waitTransactionConfirmed : Bool
  swqosClients : List SwqosClient
  middlewareManager : Option MiddlewareManager
  durableNonce : Option DurableNonceInfo
  withTip : Bool
  simulate : Bool
  checkMinTip : Bool

/-- What builds the instructions of a protocol. -/
structure InstructionBuilder where
  buildBuyInstructions : SwapParams → Outcome (Except Error (List Instruction))
  buildSellInstructions : SwapParams → Outcome (Except Error (List Instruction))

/-- A protocol with its name. -/
structure GenericTradeExecutor where
  instructionBuilder : InstructionBuilder
  protocolName : String

namespace SwapParams

variable (params : SwapParams)

/-- The trade is a buy, also one that creates the coin. -/
def isBuy : Bool := decide (params.tradeType = .buy) || decide (params.tradeType = .createAndBuy)

/-- A buy always pays tips. -/
def tips : Bool := if params.isBuy then true else params.withTip

/-- The arguments with which a swap submits. -/
def tradeArgs (protocolName : String) (instructions : List Instruction) : TradeArgs where
  swqosClients := params.swqosClients
  payer := params.payer
  instructions := instructions
  addressLookupTableAccount := params.addressLookupTableAccount
  recentBlockhash := params.recentBlockhash
  durableNonce := params.durableNonce
  middlewareManager := params.middlewareManager
  protocolName := protocolName
  isBuy := params.isBuy
  -- confirmation comes after submitting, in the swap itself
  waitTransactionConfirmed := false
  withTip := params.tips
  checkMinTip := params.checkMinTip

end SwapParams

/-- `InstructionProcessor::preprocess`. -/
def preprocess (instructions : List Instruction) : Except Error Unit :=
  if instructions.isEmpty then .error (.other "Instructions empty") else .ok ()

/-- The instructions after the middlewares for the instructions of a protocol. -/
def protocolInstructions (middlewareManager : Option MiddlewareManager) (instructions : List Instruction)
    (protocolName : String) (isBuy : Bool) : Except Error (List Instruction) :=
  match middlewareManager with
  | some mm => mm.applyMiddlewaresProcessProtocolInstructions instructions protocolName isBuy
  | none => .ok instructions

/-- The first strategy of the default service. -/
def defaultFees (hash : HashOrder) (strategies : StrategyMap) (isBuy : Bool) : Option GasFeeStrategyValue :=
  ((getStrategies hash strategies (if isBuy then .buy else .sell)).find? fun config =>
    config.1 = .default).map fun config => config.2.2

/-- Build one transaction without a tip and let the node simulate it. -/
def simulateTransaction (sdk : Sdk) (params : SwapParams) (protocolName : String) (world : World)
    (instructions : List Instruction) : Outcome (Except Error SwapResult) :=
  match params.rpc with
  | none => .ret (.error (.other "RPC client is required for simulation"))
  | some rpc =>
    match defaultFees (world.hash 0) (world.strategies 0) params.isBuy with
    | none => .ret (.error (.other "No default gas fee strategy found"))
    | some fees => do
      let built ← buildTransaction sdk params.payer fees.cuLimit fees.cuPrice instructions
        params.addressLookupTableAccount params.recentBlockhash params.middlewareManager protocolName
        params.isBuy false default (if params.tips then fees.tip else F64.zero) params.durableNonce
      .ret do
        let transaction ← built
        let error ← rpc.simulate transaction
        match transaction.signatures.head? with
        | none => .error (.other "Transaction has no signatures")
        | some signature => match error with
          | some text => .ok ⟨false, [signature], some (.other text)⟩
          | none => .ok ⟨true, [signature], none⟩

/-- The result after polling for the confirmation of any of the signatures. Errors keep their text
only. -/
def confirm (texts : Texts) (rpc : Option RpcNode) (result : Except Error SwapResult) : SwapResult :=
  let submitted : SwapResult := match result with
    | .ok r => { r with error := r.error.map fun e => .other e.toText }
    | .error e => ⟨false, [], some (.other e.toText)⟩
  match rpc with
  | none => submitted
  | some rpc =>
    if submitted.signatures.isEmpty then submitted
    else match pollAnyTransactionConfirmation texts submitted.signatures true rpc.rounds with
      | .ok _ => ⟨true, submitted.signatures, none⟩
      | .error e => ⟨false, submitted.signatures, some e⟩

namespace GenericTradeExecutor

variable (executor : GenericTradeExecutor) (params : SwapParams)

/-- The instructions of the protocol, checked and after the middlewares. -/
def finalInstructions : Outcome (Except Error (List Instruction)) := do
  let built ← if params.isBuy then executor.instructionBuilder.buildBuyInstructions params
    else executor.instructionBuilder.buildSellInstructions params
  .ret do
    let instructions ← built
    preprocess instructions
    protocolInstructions params.middlewareManager instructions executor.protocolName params.isBuy

/-- A swap along a schedule; `none` where it panics or the schedule ends before the swap returns. -/
def swap (sdk : Sdk) (texts : Texts) (world : World) (schedule : (n : ℕ) → List (Action n)) :
    Option (Except Error SwapResult) :=
  match executor.finalInstructions params with
  | .panic _ => none
  | .ret (.error e) => some (.error e)
  | .ret (.ok instructions) =>
    if params.simulate then (simulateTransaction sdk params executor.protocolName world instructions).value?
    else do
      let result ← executeParallel sdk (params.tradeArgs executor.protocolName instructions) world schedule
      if params.waitTransactionConfirmed then some (.ok (confirm texts params.rpc result)) else some result

variable {executor params}

theorem swap_eq_executeParallel (sdk : Sdk) (texts : Texts) (world : World)
    (schedule : (n : ℕ) → List (Action n)) {instructions : List Instruction}
    (hinstructions : executor.finalInstructions params = .ret (.ok instructions))
    (hsimulate : params.simulate = false) (hwait : params.waitTransactionConfirmed = false) :
    executor.swap params sdk texts world schedule =
      executeParallel sdk (params.tradeArgs executor.protocolName instructions) world schedule := by
  simp [swap, hinstructions, hsimulate, hwait]

end GenericTradeExecutor

end PumpTrade
