import PumpTrade.Client.Named
import PumpTrade.Exec.Simulate

/-!
# Chains of middlewares

`MiddlewareManager` and the logging middleware of `trading/middleware/`. A middleware that returns
what it is given can still matter: the chain stops after it where there is nothing to process.

* `applyMiddlewares_keeps`: what each middleware keeps, the chain keeps;
* `Preserve`: managers whose middlewares all leave something of the instructions as it is;
* `applyMiddlewares_insert_iff`: when a middleware that changes nothing can be put into a chain;
* **`trades_with_logging`**: when logging leaves every trade as it is.
-/

namespace PumpTrade

open Base

/-- The middleware that writes instructions to the log. -/
def loggingMiddleware : InstructionMiddleware where
  processProtocolInstructions instructions _ _ := .ok instructions
  processFullInstructions instructions _ _ := .ok instructions

namespace MiddlewareManager

/-- No middlewares. -/
def new : MiddlewareManager := ⟨[]⟩

/-- Add a middleware after the others. -/
def addMiddleware (mm : MiddlewareManager) (middleware : InstructionMiddleware) : MiddlewareManager :=
  ⟨mm.middlewares ++ [middleware]⟩

/-- The middlewares that are recommended. -/
def withCommonMiddlewares : MiddlewareManager := new.addMiddleware loggingMiddleware

end MiddlewareManager

/-! ## Chains -/

section Chains

variable {process : InstructionMiddleware → List Instruction → Except Error (List Instruction)}
  {m : InstructionMiddleware} {before after middlewares : List InstructionMiddleware}

theorem applyMiddlewares_keeps {P : List Instruction → Prop}
    (h : ∀ m ∈ middlewares, ∀ is js, P is → process m is = .ok js → P js) {is js : List Instruction}
    (his : P is) (hjs : applyMiddlewares process middlewares is = .ok js) : P js := by
  induction middlewares generalizing is with
  | nil =>
    obtain rfl := Except.ok.inj hjs
    exact his
  | cons m middlewares ih =>
    have hrest : ∀ m ∈ middlewares, ∀ is js, P is → process m is = .ok js → P js :=
      fun m hm => h m (List.mem_cons_of_mem _ hm)
    cases hm : process m is with
    | error e => simp [applyMiddlewares, hm] at hjs
    | ok processed =>
      have hprocessed : P processed := h m List.mem_cons_self is processed his hm
      by_cases hnil : processed = []
      · subst hnil
        simp only [applyMiddlewares, hm] at hjs
        obtain rfl := Except.ok.inj hjs
        exact hprocessed
      · rw [applyMiddlewares_cons hm hnil] at hjs
        exact ih hrest hprocessed hjs

/-- In front of a chain that has something to process, or after a middleware, what changes nothing
does not matter. -/
theorem applyMiddlewares_insert (hm : ∀ is, process m is = .ok is) {is : List Instruction}
    (h : is ≠ [] ∨ before ≠ []) :
    applyMiddlewares process (before ++ m :: after) is = applyMiddlewares process (before ++ after) is := by
  induction before generalizing is with
  | nil => exact applyMiddlewares_cons (hm is) (h.resolve_right (by simp))
  | cons first before ih =>
    cases hfirst : process first is with
    | error e => simp only [List.cons_append, applyMiddlewares, hfirst]
    | ok processed =>
      by_cases hnil : processed = []
      · subst hnil
        simp only [List.cons_append, applyMiddlewares, hfirst]
      · rw [List.cons_append, List.cons_append, applyMiddlewares_cons hfirst hnil,
          applyMiddlewares_cons hfirst hnil]
        exact ih (Or.inl hnil)

/-- **When a middleware that changes nothing can be put into a chain**: anywhere but before a chain
that makes something of nothing or fails on it. -/
theorem applyMiddlewares_insert_iff (hm : ∀ is, process m is = .ok is) :
    (∀ is, applyMiddlewares process (before ++ m :: after) is = applyMiddlewares process (before ++ after) is) ↔
      (before = [] → applyMiddlewares process after [] = .ok []) := by
  have hnothing : applyMiddlewares process (m :: after) [] = .ok [] := by simp only [applyMiddlewares, hm]
  constructor
  · rintro h rfl
    rw [← hnothing]
    exact (h []).symm
  · intro h is
    by_cases hbefore : before = []
    · by_cases his : is = []
      · subst hbefore his
        exact hnothing.trans (h rfl).symm
      · exact applyMiddlewares_insert hm (Or.inl his)
    · exact applyMiddlewares_insert hm (Or.inr hbefore)

end Chains

/-! ## What managers leave as it is -/

section Preserve

variable {β : Type} {f : List Instruction → β}

/-- What the middleware returns agrees in `f` with what it is given. -/
structure InstructionMiddleware.Preserves (f : List Instruction → β) (m : InstructionMiddleware) : Prop where
  protocol : ∀ protocolName isBuy is js,
    m.processProtocolInstructions is protocolName isBuy = .ok js → f js = f is
  full : ∀ protocolName isBuy is js,
    m.processFullInstructions is protocolName isBuy = .ok js → f js = f is

theorem loggingMiddleware_preserves : loggingMiddleware.Preserves f where
  protocol _ _ _ _ hjs := congrArg f (Except.ok.inj hjs).symm
  full _ _ _ _ hjs := congrArg f (Except.ok.inj hjs).symm

/-- All middlewares of a manager, if there is one, leave `f` as it is. -/
def Preserve (f : List Instruction → β) (mm : Option MiddlewareManager) : Prop :=
  ∀ manager, mm = some manager → ∀ m ∈ manager.middlewares, m.Preserves f

variable {mm : Option MiddlewareManager} {instructions processed : List Instruction} {protocolName : String}
  {isBuy : Bool}

theorem Preserve.fullInstructions (h : Preserve f mm)
    (hfull : fullInstructions mm instructions protocolName isBuy = .ok processed) :
    f processed = f instructions := by
  cases mm with
  | none => rw [← Except.ok.inj hfull]
  | some manager =>
    exact applyMiddlewares_keeps (P := fun js => f js = f instructions)
      (fun m hm is js his hjs => ((h manager rfl m hm).full protocolName isBuy is js hjs).trans his) rfl hfull

theorem Preserve.protocolInstructions (h : Preserve f mm)
    (hprotocol : protocolInstructions mm instructions protocolName isBuy = .ok processed) :
    f processed = f instructions := by
  cases mm with
  | none => rw [← Except.ok.inj hprotocol]
  | some manager =>
    exact applyMiddlewares_keeps (P := fun js => f js = f instructions)
      (fun m hm is js his hjs => ((h manager rfl m hm).protocol protocolName isBuy is js hjs).trans his) rfl
      hprotocol

end Preserve

/-! ## Managers that do the same -/

section Same

variable {mm mm' : Option MiddlewareManager} {protocolName : String}

/-- A transaction depends on its middlewares by what they make of full instructions. -/
theorem buildTransaction_congr {isBuy : Bool}
    (h : ∀ is, fullInstructions mm is protocolName isBuy = fullInstructions mm' is protocolName isBuy) (sdk : Sdk)
    (payer : Keypair) (unitLimit : UInt32) (unitPrice : UInt64) (businessInstructions : List Instruction)
    (table : Option AddressLookupTableAccount) (recentBlockhash : Option Hash) (withTip : Bool)
    (tipAccount : Pubkey) (tipAmount : F64) (durableNonce : Option DurableNonceInfo) :
    buildTransaction sdk payer unitLimit unitPrice businessInstructions table recentBlockhash mm protocolName
        isBuy withTip tipAccount tipAmount durableNonce =
      buildTransaction sdk payer unitLimit unitPrice businessInstructions table recentBlockhash mm' protocolName
        isBuy withTip tipAccount tipAmount durableNonce := by
  unfold buildTransaction buildVersionedTransaction
  simp only [h]

/-- The arguments of a trade through other middlewares. -/
def TradeArgs.through (args : TradeArgs) (mm : Option MiddlewareManager) : TradeArgs :=
  { args with middlewareManager := mm }

/-- The parameters of a swap through other middlewares. -/
def SwapParams.through (params : SwapParams) (mm : Option MiddlewareManager) : SwapParams :=
  { params with middlewareManager := mm }

theorem executeParallel_congr {args : TradeArgs}
    (h : ∀ is, fullInstructions mm is args.protocolName args.isBuy =
      fullInstructions mm' is args.protocolName args.isBuy) (sdk : Sdk) (world : World)
    (schedule : (n : ℕ) → List (Action n)) :
    executeParallel sdk (args.through mm) world schedule =
      executeParallel sdk (args.through mm') world schedule := by
  have hresults : taskResults sdk (args.through mm) = taskResults sdk (args.through mm') := by
    funext tasks i
    have hbuild : (tasks.get i).build sdk (args.through mm) = (tasks.get i).build sdk (args.through mm') :=
      buildTransaction_congr h _ _ _ _ _ _ _ _ _ _ _
    show ((tasks.get i).report sdk (args.through mm)).value? =
      ((tasks.get i).report sdk (args.through mm')).value?
    unfold Task.report
    rw [hbuild]
    rfl
  have hlaunch : (args.through mm).launch sdk world = (args.through mm').launch sdk world := rfl
  unfold executeParallel runTasks
  rw [hlaunch, hresults]
  rfl

theorem simulateTransaction_congr {params : SwapParams}
    (h : ∀ is, fullInstructions mm is protocolName params.isBuy =
      fullInstructions mm' is protocolName params.isBuy) (sdk : Sdk) (world : World)
    (instructions : List Instruction) :
    simulateTransaction sdk (params.through mm) protocolName world instructions =
      simulateTransaction sdk (params.through mm') protocolName world instructions := by
  cases hrpc : params.rpc with
  | none => simp [simulateTransaction, SwapParams.through, hrpc]
  | some rpc =>
    have hrpcs : ∀ manager, (params.through manager).rpc = some rpc := fun _ => hrpc
    cases hfees : defaultFees (world.hash 0) (world.strategies 0) params.isBuy with
    | none => rw [simulateTransaction_noFees (hrpcs mm) hfees, simulateTransaction_noFees (hrpcs mm') hfees]
    | some fees =>
      have hbuild : (params.through mm).simulationBuild sdk protocolName fees instructions =
          (params.through mm').simulationBuild sdk protocolName fees instructions :=
        buildTransaction_congr h _ _ _ _ _ _ _ _ _ _ _
      rw [simulateTransaction_eq (hrpcs mm) hfees, simulateTransaction_eq (hrpcs mm') hfees, hbuild]

/-- The instructions that are handed on depend on the middlewares by what they make of some
instructions; a swap without any is an error before that. -/
theorem finalInstructions_congr {params : SwapParams}
    (h : ∀ is, is ≠ [] → protocolInstructions mm is protocolName params.isBuy =
      protocolInstructions mm' is protocolName params.isBuy)
    (built : Outcome (Except Error (List Instruction))) :
    (GenericTradeExecutor.given protocolName built).finalInstructions (params.through mm) =
      (GenericTradeExecutor.given protocolName built).finalInstructions (params.through mm') := by
  have hbuy : ∀ manager, (params.through manager).isBuy = params.isBuy := fun _ => rfl
  have hchecked : ∀ manager, (GenericTradeExecutor.given protocolName built).finalInstructions
      (params.through manager) = built >>= fun built => .ret (built >>= fun instructions =>
        preprocess instructions >>= fun _ =>
          protocolInstructions manager instructions protocolName params.isBuy) := by
    intro manager
    unfold GenericTradeExecutor.finalInstructions
    simp only [GenericTradeExecutor.given, hbuy, ite_self]
    rfl
  rw [hchecked, hchecked]
  cases built with
  | panic msg => rfl
  | ret built =>
    cases built with
    | error e => rfl
    | ok instructions =>
      cases instructions with
      | nil => rfl
      | cons instruction instructions =>
        exact congrArg Outcome.ret (h (instruction :: instructions) (List.cons_ne_nil _ _))

/-- **A swap depends on its middlewares by what they make of instructions.** -/
theorem swap_congr (params : SwapParams)
    (hprotocol : ∀ is, is ≠ [] → protocolInstructions mm is protocolName params.isBuy =
      protocolInstructions mm' is protocolName params.isBuy)
    (hfull : ∀ is, fullInstructions mm is protocolName params.isBuy =
      fullInstructions mm' is protocolName params.isBuy)
    (built : Outcome (Except Error (List Instruction))) (sdk : Sdk) (texts : Texts) (world : World)
    (schedule : (n : ℕ) → List (Action n)) :
    (GenericTradeExecutor.given protocolName built).swap (params.through mm) sdk texts world schedule =
      (GenericTradeExecutor.given protocolName built).swap (params.through mm') sdk texts world schedule := by
  unfold GenericTradeExecutor.swap
  rw [finalInstructions_congr hprotocol]
  cases (GenericTradeExecutor.given protocolName built).finalInstructions (params.through mm') with
  | panic msg => rfl
  | ret final =>
    cases final with
    | error e => rfl
    | ok instructions =>
      have hsimulate := simulateTransaction_congr hfull sdk world instructions
      have hcall : executeParallel sdk ((params.tradeArgs protocolName instructions).through mm) world schedule =
          executeParallel sdk ((params.tradeArgs protocolName instructions).through mm') world schedule :=
        executeParallel_congr hfull sdk world schedule
      show (if params.simulate then
          (simulateTransaction sdk (params.through mm) protocolName world instructions).value?
        else executeParallel sdk ((params.tradeArgs protocolName instructions).through mm) world schedule >>= _) = _
      rw [hsimulate, hcall]
      rfl

end Same

/-! ## Trades -/

/-- A client with the RPC node as its only service. -/
def sampleRpcClient : TradingClient :=
  { sampleClient true with
    infrastructure := ⟨⟨fun _ => .ok none, []⟩, [Provider.client sampleClientSdk ⟨.default, "", false⟩]⟩ }

/-- A middleware that adds a note to the transactions that have instructions. -/
def notingMiddleware : InstructionMiddleware where
  processProtocolInstructions instructions _ _ := .ok instructions
  processFullInstructions instructions _ _ := match instructions with
    | [] => .ok []
    | first :: rest => .ok (first :: rest ++ [⟨⟨11⟩, [], [1]⟩])

/-- A buy of a new coin with a blockhash. -/
def sampleRecentBuy : TradeBuyParams :=
  { sampleBuyParams .sol PumpFun.sampleCurve with recentBlockhash := some ⟨5⟩ }

namespace TradingClient

/-- The client with these middlewares. -/
def withMiddlewares (client : TradingClient) (middlewares : List InstructionMiddleware) : TradingClient :=
  { client with middlewareManager := some ⟨middlewares⟩ }

variable {D : Derivations} {checks : Bool} {solStrToLamports : String → Option UInt64}
  {before after : List InstructionMiddleware}

/-- **Logging leaves every trade as it is**, along every schedule, wherever it stands among other
middlewares. At the head of the list this is for middlewares that leave nothing where they are given no full
instructions, so that they neither make some nor fail. -/
theorem trades_with_logging (client : TradingClient)
    (h : before = [] → ∀ protocolName isBuy,
      applyMiddlewares (fun m is => m.processFullInstructions is protocolName isBuy) after [] = .ok [])
    (g : Globals) (sdk : Sdk) (texts : Texts) (world : World) (schedule : (n : ℕ) → List (Action n)) :
    (∀ params : TradeBuyParams,
      (client.withMiddlewares (before ++ loggingMiddleware :: after)).buy D checks solStrToLamports params g sdk
          texts world schedule =
        (client.withMiddlewares (before ++ after)).buy D checks solStrToLamports params g sdk texts world
          schedule) ∧
    ∀ params : TradeSellParams,
      (client.withMiddlewares (before ++ loggingMiddleware :: after)).sell D checks solStrToLamports params g sdk
          texts world schedule =
        (client.withMiddlewares (before ++ after)).sell D checks solStrToLamports params g sdk texts world
          schedule := by
  have hprotocol : ∀ protocolName isBuy is, is ≠ [] →
      protocolInstructions (some ⟨before ++ loggingMiddleware :: after⟩) is protocolName isBuy =
        protocolInstructions (some ⟨before ++ after⟩) is protocolName isBuy :=
    fun _ _ is his => applyMiddlewares_insert (fun _ => rfl) (Or.inl his)
  have hfull : ∀ protocolName isBuy is,
      fullInstructions (some ⟨before ++ loggingMiddleware :: after⟩) is protocolName isBuy =
        fullInstructions (some ⟨before ++ after⟩) is protocolName isBuy :=
    fun protocolName isBuy => (applyMiddlewares_insert_iff fun _ => rfl).mpr fun hnil => h hnil protocolName isBuy
  constructor
  · intro params
    rw [buy_of_instructions, buy_of_instructions]
    exact congrArg _ (swap_congr (client.buySwapParams params) (hprotocol _ _) (hfull _ _) _ sdk texts world
      schedule)
  · intro params
    rw [sell_of_instructions, sell_of_instructions]
    exact congrArg _ (swap_congr (client.sellSwapParams params) (hprotocol _ _) (hfull _ _) _ sdk texts world
      schedule)

/-- The one task reports, and then the waiter returns. -/
def sampleSoleSchedule : (n : ℕ) → List (Action n)
  | 1 => [.task 0, .task 0, .task 0, .waiter false, .waiter false, .waiter false]
  | _ => []

/-- A buy through the common middlewares and one that adds a note: the transaction is sent with its six
instructions, as it is without logging. -/
theorem trades_with_logging_common :
    (sampleRpcClient.withMiddlewares (MiddlewareManager.withCommonMiddlewares.middlewares ++
          [notingMiddleware])).buy sampleDerivations true (fun _ => some 10000000) sampleRecentBuy
        (.withRents 2039280) sampleSdk sampleClientSdk.toTexts (sampleWorld fun _ _ => sampleNet 200 "")
        sampleSoleSchedule = some (.ok ⟨true, [⟨6⟩], none⟩) := by
  have hnothing : ([] : List InstructionMiddleware) = [] → ∀ (protocolName : String) (isBuy : Bool),
      applyMiddlewares (fun m is => m.processFullInstructions is protocolName isBuy) [notingMiddleware] [] =
        .ok [] := fun _ _ _ => rfl
  calc _ = (sampleRpcClient.withMiddlewares [notingMiddleware]).buy sampleDerivations true
        (fun _ => some 10000000) sampleRecentBuy (.withRents 2039280) sampleSdk sampleClientSdk.toTexts
        (sampleWorld fun _ _ => sampleNet 200 "") sampleSoleSchedule :=
      (trades_with_logging sampleRpcClient hnothing _ _ _ _ _).1 sampleRecentBuy
    _ = some (.ok ⟨true, [⟨6⟩], none⟩) := by decide +kernel

end TradingClient

end PumpTrade
