import PumpTrade.Exec.Dropped
import PumpTrade.Fee.ReadOut

/-!
# Simulations

What a simulated swap says about the swap itself. The fees of a simulation are the first of the
default service, and its transaction has no tip, as one that goes out through that service.

* `filter_getStrategies`: the strategies of a service, whatever the order of the services;
* `defaultTask`: the default service gets a task with these fees;
* **`simulation_iff`**: a simulation is of the transaction that this task builds, also where the
  submission would be rejected.
-/

namespace PumpTrade

open Base

/-! ## The fees of a service -/

section Fees

variable {hash : HashOrder} {m : StrategyMap} {tradeType : TradeType}

theorem flatMap_ite {α β : Type} [DecidableEq α] (f : α → List β) (a : α) {items : List α}
    (hnodup : items.Nodup) :
    (items.flatMap fun item => if item = a then f item else []) = if a ∈ items then f a else [] := by
  induction items with
  | nil => rfl
  | cons item items ih =>
    obtain ⟨hitem, hnodup⟩ := List.nodup_cons.mp hnodup
    rw [List.flatMap_cons, ih hnodup]
    by_cases ha : item = a
    · subst ha
      simp [hitem]
    · have hne : ¬ a = item := fun h => ha h.symm
      simp [ha, hne]

/-- The strategies of a service come in the order of their types, whatever the order of the
services. -/
theorem filter_getStrategies (swqosType : SwqosType) :
    ((getStrategies hash m tradeType).filter fun config => config.1 = swqosType) =
      (m.block tradeType swqosType).map fun e => (swqosType, e) := by
  have hblock : ∀ sw, ((m.block tradeType sw).map fun e => (sw, e)).filter
      (fun config : SwqosType × GasFeeStrategyType × GasFeeStrategyValue => config.1 = swqosType) =
        if sw = swqosType then (m.block tradeType sw).map fun e => (sw, e) else [] := by
    intro sw
    rw [List.filter_map]
    by_cases hsw : sw = swqosType
    · subst hsw
      simp [Function.comp_def]
    · simp [Function.comp_def, hsw]
  have hnodup : (strategyTypes hash m tradeType).Nodup := strategyTypes_nodup
  show ((strategyTypes hash m tradeType).flatMap _).filter _ = _
  rw [List.filter_flatMap]
  simp only [hblock]
  rw [flatMap_ite (fun sw => (m.block tradeType sw).map fun e => (sw, e)) swqosType hnodup]
  split_ifs with hmem
  · rfl
  · have hnone : m.block tradeType swqosType = [] := by
      refine List.eq_nil_iff_forall_not_mem.mpr fun e he => hmem ?_
      refine List.mem_filter.mpr ⟨hash.perm.mem_iff.mpr (SwqosType.mem_values _), ?_⟩
      exact hasType_iff.mpr ⟨e.1, by rw [mem_block.mp he]; rfl⟩
    rw [hnone]
    rfl

theorem defaultFees_eq (isBuy : Bool) :
    defaultFees hash m isBuy = (m.block (if isBuy then .buy else .sell) .default).head?.map Prod.snd := by
  unfold defaultFees
  rw [← List.head?_filter, filter_getStrategies, List.head?_map, Option.map_map]
  rfl

end Fees

/-! ## The task of the default service -/

section Task

variable {sdk : Sdk} {args : TradeArgs} {world : World} {client : SwqosClient}

/-- The default service is used by every trade, and its fees are not checked for a tip. -/
theorem clientConfigs_default (hdefault : client.swqosType = .default) (hash : HashOrder) (m : StrategyMap) :
    args.clientConfigs hash m client =
      (m.block args.tradeType .default).map fun e => ({ client, fees := e.2 } : TaskConfig) := by
  have huses : args.uses client = true := by simp [TradeArgs.uses, hdefault]
  have hcheck : args.checkTip client = false := by simp [TradeArgs.checkTip, hdefault]
  unfold TradeArgs.clientConfigs
  rw [if_pos huses, hdefault, filter_getStrategies]
  simp [hcheck, List.map_map, Function.comp_def]

theorem exists_task {configs : List TaskConfig} {config : TaskConfig} {k : ℕ}
    (hspawned : (TradeArgs.spawn sdk world k configs).2 = none) (hconfig : config ∈ configs) :
    ∃ task ∈ (TradeArgs.spawn sdk world k configs).1, task.client = config.client ∧ task.fees = config.fees := by
  have hlength := spawn_length (Prod.ext rfl hspawned : TradeArgs.spawn sdk world k configs = (_, none))
  have hall := (spawn_configs sdk world k configs).eq_of_length (by rw [List.length_map, hlength])
  rw [← hall] at hconfig
  obtain ⟨task, htask, rfl⟩ := List.mem_map.mp hconfig
  exact ⟨task, htask, rfl, rfl⟩

/-- The strategies are the same for each client of a call. -/
def World.Steady (world : World) : Prop := ∀ i, world.strategies i = world.strategies 0

/-- **The default service gets a task** with the fees of a simulation. -/
theorem defaultTask (hsteady : world.Steady) (hclient : client ∈ args.swqosClients)
    (hdefault : client.swqosType = .default) (hspawned : (args.launch sdk world).2 = none)
    {fees : GasFeeStrategyValue}
    (hfees : defaultFees (world.hash 0) (world.strategies 0) args.isBuy = some fees) :
    ∃ task ∈ (args.launch sdk world).1, task.client = client ∧ task.fees = fees := by
  obtain ⟨i, hi⟩ := List.mem_iff_getElem?.mp hclient
  rw [defaultFees_eq, Option.map_eq_some_iff] at hfees
  obtain ⟨e, he, rfl⟩ := hfees
  have hconfig : (⟨client, e.2⟩ : TaskConfig) ∈ args.taskConfigs world := by
    refine List.mem_flatMap.mpr ⟨(client, i), List.mk_mem_zipIdx_iff_getElem?.mpr hi, ?_⟩
    show _ ∈ args.clientConfigs (world.hash i) (world.strategies i) client
    rw [clientConfigs_default hdefault, hsteady i]
    exact List.mem_map.mpr ⟨e, List.mem_of_mem_head? he, rfl⟩
  have hlaunch : args.launch sdk world = TradeArgs.spawn sdk world 0 (args.taskConfigs world) := by
    rcases hprep : args.prepare world with e | configs
    · rw [TradeArgs.launch, hprep] at hspawned
      cases hspawned
    · rw [TradeArgs.launch, hprep, (prepare_eq_ok hprep).1]
  rw [hlaunch] at hspawned ⊢
  exact exists_task hspawned hconfig

/-- There is a task for the default service with the fees of a simulation, which is spawned unless the
submission is rejected. -/
theorem exists_defaultTask (hsteady : world.Steady) (hclient : client ∈ args.swqosClients)
    (hdefault : client.swqosType = .default) {fees : GasFeeStrategyValue}
    (hfees : defaultFees (world.hash 0) (world.strategies 0) args.isBuy = some fees) :
    ∃ task : Task, task.client = client ∧ task.fees = fees ∧
      (¬ args.Rejected world → task ∈ (args.launch sdk world).1) := by
  by_cases hrejected : args.Rejected world
  · exact ⟨⟨client, fees, default, world.net 0⟩, rfl, rfl, absurd hrejected⟩
  · have hspawned : (args.launch sdk world).2 = none :=
      Option.eq_none_iff_forall_ne_some.mpr fun e he => hrejected (launch_error_iff.mp ⟨e, he⟩)
    obtain ⟨task, htask, hclient, hfees⟩ := defaultTask hsteady hclient hdefault hspawned hfees
    exact ⟨task, hclient, hfees, fun _ => htask⟩

/-- A transaction without a tip does not depend on the account and the amount of one. -/
theorem buildTransaction_untipped (payer : Keypair) (unitLimit : UInt32) (unitPrice : UInt64)
    (businessInstructions : List Instruction) (table : Option AddressLookupTableAccount)
    (recentBlockhash : Option Hash) (mm : Option MiddlewareManager) (protocolName : String) (isBuy : Bool)
    (durableNonce : Option DurableNonceInfo) (tipAccount tipAccount' : Pubkey) (tipAmount tipAmount' : F64) :
    buildTransaction sdk payer unitLimit unitPrice businessInstructions table recentBlockhash mm protocolName
        isBuy false tipAccount tipAmount durableNonce =
      buildTransaction sdk payer unitLimit unitPrice businessInstructions table recentBlockhash mm protocolName
        isBuy false tipAccount' tipAmount' durableNonce := by
  have hbody : bodyInstructions sdk payer unitLimit unitPrice businessInstructions false tipAccount tipAmount =
      bodyInstructions sdk payer unitLimit unitPrice businessInstructions false tipAccount' tipAmount' := by
    simp [bodyInstructions]
  unfold buildTransaction
  rw [hbody]

end Task

/-! ## The transaction that is simulated -/

/-- What a node makes of a transaction. -/
def RpcNode.simulated (rpc : RpcNode) (built : Except Error VersionedTransaction) :
    Except Error SwapResult := do
  let transaction ← built
  let error ← rpc.simulate transaction
  match transaction.signatures.head? with
  | none => .error (.other "Transaction has no signatures")
  | some signature => match error with
    | some text => .ok ⟨false, [signature], some (.other text)⟩
    | none => .ok ⟨true, [signature], none⟩

section Simulation

variable {executor : GenericTradeExecutor} {sdk : Sdk} {texts : Texts} {world : World} {params : SwapParams}
  {protocolName : String} {rpc : RpcNode} {instructions : List Instruction}

/-- With a node and fees, a simulation is of the transaction that is built with these fees. -/
theorem simulateTransaction_eq {fees : GasFeeStrategyValue} (hrpc : params.rpc = some rpc)
    (hfees : defaultFees (world.hash 0) (world.strategies 0) params.isBuy = some fees) :
    simulateTransaction sdk params protocolName world instructions =
      params.simulationBuild sdk protocolName fees instructions >>= fun built => .ret (rpc.simulated built) := by
  unfold simulateTransaction
  simp only [hrpc, hfees]
  rfl

theorem simulateTransaction_noFees (hrpc : params.rpc = some rpc)
    (hfees : defaultFees (world.hash 0) (world.strategies 0) params.isBuy = none) :
    simulateTransaction sdk params protocolName world instructions =
      .ret (.error (.other "No default gas fee strategy found")) := by
  unfold simulateTransaction
  simp only [hrpc, hfees]

/-- A simulation that returns a result has a node, and fees for the default service. -/
theorem simulateTransaction_returns {result : SwapResult}
    (h : simulateTransaction sdk params protocolName world instructions = .ret (.ok result)) :
    ∃ rpc fees, params.rpc = some rpc ∧
      defaultFees (world.hash 0) (world.strategies 0) params.isBuy = some fees := by
  cases hrpc : params.rpc with
  | none =>
    unfold simulateTransaction at h
    rw [hrpc] at h
    cases h
  | some rpc =>
    cases hfees : defaultFees (world.hash 0) (world.strategies 0) params.isBuy with
    | none => cases (simulateTransaction_noFees hrpc hfees).symm.trans h
    | some fees => exact ⟨rpc, fees, rfl, rfl⟩

/-- The task of the default service with the fees of a simulation builds what is simulated. -/
theorem simulationBuild_eq {task : Task} (hdefault : task.client.swqosType = .default) :
    params.simulationBuild sdk protocolName task.fees instructions =
      task.build sdk (params.tradeArgs protocolName instructions) := by
  have hnotip : decide (task.client.swqosType ≠ .default) = false := by simp [hdefault]
  unfold SwapParams.simulationBuild Task.build
  rw [hnotip]
  exact buildTransaction_untipped _ _ _ _ _ _ _ _ _ _ _ _ _ _

theorem simulated_eq_ok {built : Except Error VersionedTransaction} {result : SwapResult} :
    rpc.simulated built = .ok result ↔ ∃ transaction, built = .ok transaction ∧
      rpc.simulated (.ok transaction) = .ok result := by
  cases built with
  | error e =>
    constructor
    · intro h
      cases h
    · rintro ⟨transaction, h, -⟩
      cases h
  | ok transaction => simp

/-- **A simulation is of the transaction that the swap sends through the default service.** With a default
service, and strategies that nobody changes meanwhile, the swap that is simulated returns a result exactly
where there is a node and the task for that service, with the first of its fees, builds a transaction of
which the node reports this result. The swap that is not simulated spawns that task, unless it is rejected
before it spawns all. -/
theorem simulation_iff {client : SwqosClient} (hsimulate : params.simulate = true) (hsteady : world.Steady)
    (hclient : client ∈ params.swqosClients) (hdefault : client.swqosType = .default)
    (hsubmits : executor.Submits params instructions) (schedule : (n : ℕ) → List (Action n))
    (result : SwapResult) :
    executor.swap params sdk texts world schedule = some (.ok result) ↔
      ∃ rpc task transaction, params.rpc = some rpc ∧ task.client = client ∧
        defaultFees (world.hash 0) (world.strategies 0) params.isBuy = some task.fees ∧
        (¬ (params.tradeArgs executor.protocolName instructions).Rejected world →
          task ∈ ((params.tradeArgs executor.protocolName instructions).launch sdk world).1) ∧
        task.build sdk (params.tradeArgs executor.protocolName instructions) = .ret (.ok transaction) ∧
        rpc.simulated (.ok transaction) = .ok result := by
  have hswap : executor.swap params sdk texts world schedule =
      (simulateTransaction sdk params executor.protocolName world instructions).value? := by
    have hfinal : executor.finalInstructions params = .ret (.ok instructions) := hsubmits
    simp [GenericTradeExecutor.swap, hfinal, hsimulate]
  rw [hswap, Outcome.value?_eq_some]
  have hbuild : ∀ task : Task, task.client = client →
      params.simulationBuild sdk executor.protocolName task.fees instructions =
        task.build sdk (params.tradeArgs executor.protocolName instructions) :=
    fun task h => simulationBuild_eq (by rw [h, hdefault])
  constructor
  · intro hresult
    obtain ⟨rpc, fees, hrpc, hfees⟩ := simulateTransaction_returns hresult
    rw [simulateTransaction_eq hrpc hfees, Outcome.bind_eq_ret] at hresult
    obtain ⟨built, hbuilt, hsimulated⟩ := hresult
    obtain ⟨transaction, rfl, hreports⟩ := simulated_eq_ok.mp (Outcome.ret.inj hsimulated)
    obtain ⟨task, htask, rfl, hspawned⟩ : ∃ task : Task, task.client = client ∧ task.fees = fees ∧
        (¬ (params.tradeArgs executor.protocolName instructions).Rejected world →
          task ∈ ((params.tradeArgs executor.protocolName instructions).launch sdk world).1) :=
      exists_defaultTask hsteady hclient hdefault hfees
    exact ⟨rpc, task, transaction, hrpc, htask, hfees, hspawned, hbuild task htask ▸ hbuilt, hreports⟩
  · rintro ⟨rpc, task, transaction, hrpc, htask, hfees, -, hbuilt, hreports⟩
    rw [simulateTransaction_eq hrpc hfees, hbuild task htask, hbuilt]
    exact congrArg Outcome.ret hreports

/-- A sale of which the node says that it would fail: the task for the RPC node is spawned and builds the
transaction that the node has refused. -/
theorem simulation_iff_refused :
    let world := sampleWorld fun _ _ => sampleNet 200 ""
    let rpc : RpcNode := ⟨fun _ => .ok (some "AccountNotFound"), []⟩
    let params := { sampleParams sampleArgs.swqosClients with rpc := some rpc, simulate := true }
    sampleExecutor.swap params sampleSdk sampleClientSdk.toTexts world (fun _ => []) =
        some (.ok ⟨false, [⟨3⟩], some (.other "AccountNotFound")⟩) ∧
      ∃ task ∈ ((params.tradeArgs sampleExecutor.protocolName sampleArgs.instructions).launch sampleSdk world).1,
        task.client = Provider.client sampleClientSdk ⟨.default, "", false⟩ ∧ ∃ transaction,
        task.build sampleSdk (params.tradeArgs sampleExecutor.protocolName sampleArgs.instructions) =
          .ret (.ok transaction) ∧
        rpc.simulated (.ok transaction) = .ok ⟨false, [⟨3⟩], some (.other "AccountNotFound")⟩ := by
  intro world rpc params
  have hclient : Provider.client sampleClientSdk ⟨.default, "", false⟩ ∈ params.swqosClients :=
    List.mem_cons_of_mem _ List.mem_cons_self
  have hspawned : ((params.tradeArgs sampleExecutor.protocolName sampleArgs.instructions).launch sampleSdk
      world).2 = none := by decide +kernel
  have hsubmits : sampleExecutor.Submits params sampleArgs.instructions := rfl
  have hswap : sampleExecutor.swap params sampleSdk sampleClientSdk.toTexts world (fun _ => []) =
      some (.ok ⟨false, [⟨3⟩], some (.other "AccountNotFound")⟩) := by decide +kernel
  obtain ⟨rpc', task, transaction, hrpc, htask, -, hmem, hbuilt, hreports⟩ :=
    (simulation_iff rfl (fun _ => rfl) hclient rfl hsubmits _ _).mp hswap
  obtain rfl := Option.some.inj hrpc
  refine ⟨hswap, task, hmem fun hrejected => ?_, htask, transaction, hbuilt, hreports⟩
  obtain ⟨e, he⟩ := launch_error_iff.mpr hrejected
  cases hspawned.symm.trans he

end Simulation

end PumpTrade
