import PumpTrade.Client.Middleware
import PumpTrade.Instr.Lamports
import PumpTrade.Swqos.Config

/-!
# Payments of a trade

Where the lamports of a trade go, for a wallet whose services are started from configurations: to its
own account of wrapped SOL, and as a tip to the service that a transaction is sent through.

* `TradingInfrastructure.new`: the services of a wallet;
* `Task.tips`, `Task.transfers_build`: the tip of a task, and all that its transaction transfers;
* `Task.TipFor`: a tip is meant for the service of the task, or for the community that Temporal tips for one
  key, and is one of its strategies;
* `SwapParams.Pays`: what a transaction of a swap pays beside its instructions;
* **`trades_payments`**: a trade pays nobody but the wallet itself and its services.
-/

namespace PumpTrade

open Base

/-- The infrastructure once the rents have been fetched: the node, and the clients of the
configurations. -/
def TradingInfrastructure.new (connector : SwqosConfig.Connector) (clientSdk : ClientSdk) (rpc : RpcNode)
    (swqosConfigs : List SwqosConfig) : Outcome TradingInfrastructure := do
  let swqosClients ← newSwqosClients connector swqosConfigs
  .ret ⟨rpc, swqosClients.map (Provider.client clientSdk)⟩

/-- A client of the infrastructure is started from one of the configurations. -/
theorem TradingInfrastructure.client_started {connector : SwqosConfig.Connector} {clientSdk : ClientSdk}
    {rpc : RpcNode} {configs : List SwqosConfig} {infrastructure : TradingInfrastructure}
    (h : TradingInfrastructure.new connector clientSdk rpc configs = .ret infrastructure) {client : SwqosClient}
    (hclient : client ∈ infrastructure.swqosClients) : ∃ config ∈ configs, ∃ provider,
      config.started connector = some provider ∧ client = provider.client clientSdk := by
  obtain ⟨providers, hproviders, hnew⟩ := Outcome.bind_eq_ret.mp h
  obtain rfl := Outcome.ret.inj hnew
  obtain ⟨provider, hprovider, rfl⟩ := List.mem_map.mp hclient
  rw [(newSwqosClients_eq.mp hproviders).2] at hprovider
  obtain ⟨config, hconfig, hstarted⟩ := List.mem_filterMap.mp hprovider
  exact ⟨config, hconfig, provider, hstarted, rfl⟩

/-! ## What a transaction transfers -/

section Transfers

variable (payer account : Pubkey) (lamports : UInt64)

theorem transfers_transfer : transfers [transfer payer account lamports] = [(account, lamports.toNat)] := by
  have hamount : ofLeBytes (leBytes lamports.toNat 8) = lamports.toNat := ofLeBytes_u64 lamports
  show [(account, ofLeBytes ((leBytes lamports.toNat 8).take 8))] = _
  rw [List.take_of_length_le (by simp), hamount]

theorem transfers_advanceNonce : transfers [advanceNonceAccount account payer] = [] := rfl

theorem transfers_computeBudget (unitPrice : UInt64) (unitLimit : UInt32) :
    transfers (computeBudgetInstructions unitPrice unitLimit) = [] := by
  have hprice : (setComputeUnitPrice unitPrice).transfer? = none := rfl
  have hlimit : (setComputeUnitLimit unitLimit).transfer? = none := rfl
  unfold computeBudgetInstructions
  split_ifs <;> simp [transfers, hprice, hlimit]

theorem transfers_lifetime {payer : Keypair} {recentBlockhash : Option Hash}
    {durableNonce : Option DurableNonceInfo} {nonceInstructions : List Instruction} {hash : Hash}
    (h : lifetime payer recentBlockhash durableNonce = some (nonceInstructions, hash)) :
    transfers nonceInstructions = [] := by
  unfold lifetime at h
  split at h
  · obtain ⟨rfl, -⟩ := Prod.mk.inj (Option.some.inj h)
    exact transfers_advanceNonce _ _
  · cases h
  · obtain ⟨hash', -, h⟩ := Option.map_eq_some_iff.mp h
    obtain ⟨rfl, -⟩ := Prod.mk.inj h
    rfl

theorem transfers_bodyInstructions (sdk : Sdk) (payer : Keypair) (unitLimit : UInt32) (unitPrice : UInt64)
    (businessInstructions : List Instruction) (withTip : Bool) (tipAccount : Pubkey) (tipAmount : F64) :
    transfers (bodyInstructions sdk payer unitLimit unitPrice businessInstructions withTip tipAccount tipAmount) =
      (if withTip ∧ F64.zero.lt tipAmount then
        [(tipAccount, ((sdk.solToLamports tipAmount).getD 0).toNat)] else []) ++
      transfers businessInstructions := by
  rw [bodyInstructions, transfers_append, transfers_append, transfers_computeBudget, List.append_nil]
  split_ifs
  · rw [transfers_transfer]
  · rfl

end Transfers

/-! ## Tips -/

namespace Task

variable (sdk : Sdk) (args : TradeArgs) (task : Task)

/-- The tip of a task, where it pays one: the account that it is for, and the lamports. -/
def tips : List (Pubkey × ℕ) :=
  if args.withTip ∧ task.client.swqosType ≠ .default ∧ F64.zero.lt task.fees.tip then
    [(task.tipAccount, ((sdk.solToLamports task.fees.tip).getD 0).toNat)]
  else []

/-- The tip of a task is for a tip account of its service, or for the community where Temporal is
configured with the special key; it is what one of the strategies for the service says, and where that is
checked not less than the service takes. -/
structure TipFor (world : World) (clientSdk : ClientSdk) (config : SwqosConfig) (provider : Provider)
    (tip : Pubkey × ℕ) : Prop where
  service : config.swqosType ≠ .default
  account : ∃ text, tip.1 = (sdk.parsePubkey text).getD default ∧
    ((config.PaysCommunity clientSdk ∧ text = temporalCommunityTipAddress) ∨
      (¬ config.PaysCommunity clientSdk ∧ text ∈ tipAccounts config.swqosType))
  lamports : tip.2 = ((sdk.solToLamports task.fees.tip).getD 0).toNat
  strategy : ∃ i strategyType, world.strategies i (config.swqosType, args.tradeType, strategyType) = some task.fees
  minTip : args.checkMinTip = true → provider.minTip.le task.fees.tip = true

variable {sdk args task}

/-- **What the transaction of a task transfers**: the tip, and what the instructions do. -/
theorem transfers_build (hkeep : Preserve transfers args.middlewareManager) {transaction : VersionedTransaction}
    (h : task.build sdk args = .ret (.ok transaction)) :
    transfers transaction.message.body.instructions = task.tips sdk args ++ transfers args.instructions := by
  obtain ⟨nonceInstructions, blockhash, full, hlife, hfull, -, rfl⟩ := build_eq_ok.mp h
  have hinstructions : (signed sdk args.payer full blockhash
      args.addressLookupTableAccount).message.body.instructions = full := by simp [signed]
  have hzero : F64.zero.lt F64.zero = false := by decide
  have htips : (if decide (task.client.swqosType ≠ .default) = true ∧
      F64.zero.lt (if args.withTip then task.fees.tip else F64.zero) = true then
        [(task.tipAccount, ((sdk.solToLamports (if args.withTip then task.fees.tip else F64.zero)).getD 0).toNat)]
      else []) = task.tips sdk args := by
    unfold tips
    cases args.withTip <;> simp [hzero]
  rw [hinstructions, hkeep.fullInstructions hfull, transfers_append, transfers_lifetime hlife, List.nil_append,
    Task.body, transfers_bodyInstructions, htips]

end Task

section Launch

variable {sdk : Sdk} {args : TradeArgs} {world : World} {task : Task}

theorem spawn_tipAccount {k : ℕ} {configs : List TaskConfig}
    (htask : task ∈ (TradeArgs.spawn sdk world k configs).1) :
    ∃ draw text, task.client.getTipAccount draw = .ok text ∧
      task.tipAccount = (sdk.parsePubkey text).getD default := by
  induction configs generalizing k with
  | nil => cases htask
  | cons config configs ih =>
    unfold TradeArgs.spawn at htask
    cases hc : config.client.getTipAccount (world.draw k) with
    | error e =>
      rw [hc] at htask
      cases htask
    | ok text =>
      rw [hc] at htask
      rcases List.mem_cons.mp htask with rfl | htask
      · exact ⟨world.draw k, text, hc, rfl⟩
      · exact ih htask

/-- The fees of a configuration are a strategy for the service of its client, and pass the check against
its smallest tip. -/
theorem taskConfigs_fees {config : TaskConfig} (h : config ∈ args.taskConfigs world) :
    (∃ i strategyType, world.strategies i (config.client.swqosType, args.tradeType, strategyType) =
      some config.fees) ∧
    (args.checkTip config.client = true → config.client.minTipSol.le config.fees.tip = true) := by
  obtain ⟨⟨client, i⟩, -, hconfig⟩ := List.mem_flatMap.mp h
  have hclient : config.client = client := clientConfigs_client hconfig
  simp only [TradeArgs.clientConfigs] at hconfig
  by_cases huses : args.uses client = true
  · rw [if_pos huses] at hconfig
    obtain ⟨⟨swqosType, strategyType, fees⟩, hmem, rfl⟩ := List.mem_map.mp hconfig
    obtain ⟨hmem, htip⟩ := List.mem_filter.mp hmem
    obtain ⟨hmem, htype⟩ := List.mem_filter.mp hmem
    obtain rfl : swqosType = client.swqosType := of_decide_eq_true htype
    refine ⟨⟨i, strategyType, mem_getStrategies.mp hmem⟩, fun hcheck => ?_⟩
    rw [if_pos hcheck] at htip
    exact htip
  · rw [if_neg huses] at hconfig
    cases hconfig

/-- A spawned task has a client of the trade, and fees and a tip account that are found for it. -/
theorem launch_fees (htask : task ∈ (args.launch sdk world).1) :
    (∃ draw text, task.client.getTipAccount draw = .ok text ∧
      task.tipAccount = (sdk.parsePubkey text).getD default) ∧
    (∃ i strategyType, world.strategies i (task.client.swqosType, args.tradeType, strategyType) =
      some task.fees) ∧
    (args.checkTip task.client = true → task.client.minTipSol.le task.fees.tip = true) := by
  rcases launch_cases sdk args world with h | ⟨configs, hprep, h⟩
  · rw [h] at htask
    cases htask
  · rw [h] at htask
    have hmem : (⟨task.client, task.fees⟩ : TaskConfig) ∈ configs :=
      (spawn_configs sdk world 0 configs).subset
        (List.mem_map_of_mem (f := fun t => (⟨t.client, t.fees⟩ : TaskConfig)) htask)
    rw [(prepare_eq_ok hprep).1] at hmem
    exact ⟨spawn_tipAccount htask, taskConfigs_fees hmem⟩

/-- **The tip of a spawned task** is meant for its service. -/
theorem tipFor_of_launch {config : SwqosConfig} {provider : Provider} {clientSdk : ClientSdk}
    {connector : SwqosConfig.Connector} (hstarted : config.started connector = some provider)
    (hclient : task.client = provider.client clientSdk) (htask : task ∈ (args.launch sdk world).1)
    {tip : Pubkey × ℕ} (htip : tip ∈ task.tips sdk args) :
    task.TipFor sdk args world clientSdk config provider tip := by
  have htype : task.client.swqosType = config.swqosType := by
    rw [hclient]
    exact (SwqosConfig.started_swqosType hstarted).1
  obtain ⟨⟨draw, text, hdraw, haccount⟩, hfees, hmin⟩ := launch_fees htask
  unfold Task.tips at htip
  by_cases hpays : args.withTip = true ∧ task.client.swqosType ≠ .default ∧ F64.zero.lt task.fees.tip = true
  swap
  · rw [if_neg hpays] at htip
    cases htip
  rw [if_pos hpays] at htip
  obtain rfl := List.mem_singleton.mp htip
  obtain ⟨hwith, hdefault, -⟩ := hpays
  have hprovider : provider.swqosType = config.swqosType := (SwqosConfig.started_swqosType hstarted).1
  refine ⟨htype ▸ hdefault, ⟨text, haccount, ?_⟩, rfl, htype ▸ hfees, fun hcheck => ?_⟩
  · have hgiven : provider.getTipAccount clientSdk draw = .ok text := by
      rw [hclient] at hdraw
      exact hdraw
    rw [← SwqosConfig.started_paysCommunity clientSdk hstarted, ← hprovider]
    exact Provider.getTipAccount_cases (hprovider ▸ htype ▸ hdefault) hgiven
  · have hchecked : args.checkTip task.client = true := by simp [TradeArgs.checkTip, hwith, hcheck, hdefault]
    have hle := hmin hchecked
    rw [hclient] at hle
    exact hle

end Launch

/-! ## Swaps -/

/-- The transaction pays a tip at most to a service that is started from the configurations, through which
it is sent, and transfers `moved` besides. One that is only simulated pays no tip. -/
def SwapParams.Pays (sdk : Sdk) (world : World) (connector : SwqosConfig.Connector) (clientSdk : ClientSdk)
    (configs : List SwqosConfig) (params : SwapParams) (protocolName : String) (instructions : List Instruction)
    (transaction : VersionedTransaction) (moved : List (Pubkey × ℕ)) : Prop :=
  let args := params.tradeArgs protocolName instructions
  if params.simulate then transfers transaction.message.body.instructions = moved
  else ∃ task ∈ (args.launch sdk world).1, task.build sdk args = .ret (.ok transaction) ∧
    ∃ config ∈ configs, ∃ provider, config.started connector = some provider ∧
      task.client = provider.client clientSdk ∧
      transfers transaction.message.body.instructions = task.tips sdk args ++ moved ∧
      ∀ tip ∈ task.tips sdk args, task.TipFor sdk args world clientSdk config provider tip

section Swaps

variable {sdk : Sdk} {world : World} {connector : SwqosConfig.Connector} {clientSdk : ClientSdk} {rpc : RpcNode}
  {configs : List SwqosConfig} {infrastructure : TradingInfrastructure} {params : SwapParams}
  {protocolName : String} {instructions : List Instruction} {transaction : VersionedTransaction}

/-- **The payments of a swap**, beside those of its instructions. -/
theorem pays_of_builds (hstart : TradingInfrastructure.new connector clientSdk rpc configs = .ret infrastructure)
    (hclients : params.swqosClients = infrastructure.swqosClients)
    (hkeep : Preserve transfers params.middlewareManager)
    (hbuilds : params.Builds sdk world protocolName instructions transaction) :
    params.Pays sdk world connector clientSdk configs protocolName instructions transaction
      (transfers instructions) := by
  unfold SwapParams.Builds at hbuilds
  unfold SwapParams.Pays
  cases hsimulate : params.simulate with
  | true =>
    rw [hsimulate, if_pos rfl] at hbuilds
    obtain ⟨fees, -, hbuild⟩ := hbuilds
    obtain ⟨nonceInstructions, blockhash, full, hlife, hfull, -, rfl⟩ := buildTransaction_eq_ok.mp hbuild
    rw [if_pos rfl, signed, versionedMessage_body, hkeep.fullInstructions hfull, transfers_append,
      transfers_lifetime hlife, transfers_bodyInstructions]
    simp
  | false =>
    rw [hsimulate, if_neg Bool.false_ne_true] at hbuilds
    obtain ⟨task, htask, hbuild⟩ := hbuilds
    have hmem : task.client ∈ infrastructure.swqosClients := by
      rw [← hclients]
      exact launch_client htask
    obtain ⟨config, hconfig, provider, hstarted, hclient⟩ := TradingInfrastructure.client_started hstart hmem
    rw [if_neg Bool.false_ne_true]
    refine ⟨task, htask, hbuild, config, hconfig, provider, hstarted, hclient, ?_, fun tip htip => ?_⟩
    · exact Task.transfers_build hkeep hbuild
    · exact tipFor_of_launch hstarted hclient htask htip

end Swaps

/-! ## Trades -/

namespace TradingClient

variable {D : Derivations} {checks : Bool} {solStrToLamports : String → Option UInt64} {client : TradingClient}
  {g : Globals} {connector : SwqosConfig.Connector} {clientSdk : ClientSdk} {rpc : RpcNode}
  {configs : List SwqosConfig}

theorem moves_buyInstructions (params : TradeBuyParams) :
    (client.buyInstructions D checks solStrToLamports params).Returns (Coherent D)
      (BuiltMoves ((client.buyInstructionParams params).buyMoves D)) := by
  unfold buyInstructions
  split
  · exact Prog.returns_ret trivial
  · cases params.dexType with
    | pumpFun => exact PumpFun.moves_buy
    | pumpSwap => exact PumpSwap.moves_buy

theorem moves_sellInstructions (params : TradeSellParams) :
    (client.sellInstructions D checks solStrToLamports params).Returns (Coherent D) (BuiltMoves ∅) := by
  unfold sellInstructions
  split
  · exact Prog.returns_ret trivial
  · cases params.dexType with
    | pumpFun => exact PumpFun.moves_sell
    | pumpSwap => exact PumpSwap.moves_sell

/-- **A trade pays nobody but the wallet itself and the services.** Each transaction that a buy builds,
whatever the caches hold, the services and the strategies are, transfers lamports to the wallet's own account
of wrapped SOL at most, and a tip to the service through which it is sent, which is one of the configured
services and not on the blacklist; Temporal lets one key tip the community instead. The transactions of a sale
transfer nothing but the tip. -/
theorem trades_payments (hg : Reached D g)
    (hstart : TradingInfrastructure.new connector clientSdk rpc configs = .ret client.infrastructure)
    (hkeep : Preserve transfers client.middlewareManager) (sdk : Sdk) (world : World) (protocolName : String)
    (transaction : VersionedTransaction) :
    (∀ (params : TradeBuyParams) (instructions : List Instruction),
      (GenericTradeExecutor.given protocolName
        ((client.buyInstructions D checks solStrToLamports params).run g).1).Submits
          (client.buySwapParams params) instructions →
      (client.buySwapParams params).Builds sdk world protocolName instructions transaction →
        ∃ moved, MovesTo ((client.buyInstructionParams params).buyMoves D) moved ∧
          (client.buySwapParams params).Pays sdk world connector clientSdk configs protocolName instructions
            transaction moved) ∧
    ∀ (params : TradeSellParams) (instructions : List Instruction),
      (GenericTradeExecutor.given protocolName
        ((client.sellInstructions D checks solStrToLamports params).run g).1).Submits
          (client.sellSwapParams params) instructions →
      (client.sellSwapParams params).Builds sdk world protocolName instructions transaction →
        (client.sellSwapParams params).Pays sdk world connector clientSdk configs protocolName instructions
          transaction [] := by
  constructor
  · intro params instructions hsubmits hbuilds
    obtain ⟨built, hbuilt, -, hprotocol⟩ := GenericTradeExecutor.submits_iff.mp hsubmits
    have hmoves : MovesTo _ (transfers built) := (moves_buyInstructions params).run hg.coherent hbuilt
    rw [← hkeep.protocolInstructions hprotocol] at hmoves
    exact ⟨_, hmoves, pays_of_builds hstart rfl hkeep hbuilds⟩
  · intro params instructions hsubmits hbuilds
    obtain ⟨built, hbuilt, -, hprotocol⟩ := GenericTradeExecutor.submits_iff.mp hsubmits
    have hmoves : MovesTo ∅ (transfers built) := (moves_sellInstructions params).run hg.coherent hbuilt
    rw [← hkeep.protocolInstructions hprotocol, movesTo_empty] at hmoves
    rw [← hmoves]
    exact pays_of_builds hstart rfl hkeep hbuilds

/-- Two configured services, of which one is on the blacklist. -/
def sampleConfigs : List SwqosConfig := [.nextBlock "" .frankfurt none, .jito "" .frankfurt none]

/-- A network on which every QUIC service can be connected to. -/
def sampleConnector : SwqosConfig.Connector := ⟨fun _ _ _ => .ret (.ok ())⟩

/-- A client with Jito as its only service. -/
def sampleJitoClient : TradingClient :=
  { sampleClient true with
    infrastructure := ⟨⟨fun _ => .ok none, []⟩, [Provider.client sampleClientSdk ⟨.jito, "", false⟩]⟩ }

/-- A buy of a new coin with a blockhash pays the tip of Jito and nothing else. -/
theorem trades_payments_buy : ∃ built transaction,
    (sampleJitoClient.buySwapParams sampleRecentBuy).Pays sampleSdk (sampleWorld fun _ _ => sampleNet 200 "")
      sampleConnector sampleClientSdk sampleConfigs "PumpFun" built transaction [] ∧
    transfers transaction.message.body.instructions =
      [(⟨0x78521cb179cebb8589b556a2d5ec94d2498682fdf9bb2af5ad64e491cc4153da⟩, 1000000)] := by
  let world := sampleWorld fun _ _ => sampleNet 200 ""
  obtain ⟨built, hbuilt, hne, hmoves⟩ : ∃ built, ((sampleJitoClient.buyInstructions sampleDerivations true
      (fun _ => some 10000000) sampleRecentBuy).run (.withRents 2039280)).1 = .ret (.ok built) ∧ built ≠ [] ∧
      transfers built = [] := ⟨_, rfl, List.cons_ne_nil _ _, rfl⟩
  let args := (sampleJitoClient.buySwapParams sampleRecentBuy).tradeArgs "PumpFun"
  have hlaunched : ((args []).launch sampleSdk world).1.map (·.tips sampleSdk (args [])) =
      [[(⟨0x78521cb179cebb8589b556a2d5ec94d2498682fdf9bb2af5ad64e491cc4153da⟩, 1000000)]] := by decide
  obtain ⟨task, htask, htips⟩ := List.map_eq_singleton_iff.mp hlaunched
  have hlaunch : ∀ world, (args built).launch sampleSdk world = (args []).launch sampleSdk world := fun _ => rfl
  obtain ⟨transaction, hbuild⟩ : ∃ transaction, task.build sampleSdk ((sampleJitoClient.buySwapParams
      sampleRecentBuy).tradeArgs "PumpFun" built) = .ret (.ok transaction) :=
    ⟨_, Task.build_eq_ok.mpr ⟨[], ⟨5⟩, _, rfl, rfl, rfl, rfl⟩⟩
  have hsubmits : (GenericTradeExecutor.given "PumpFun" ((sampleJitoClient.buyInstructions sampleDerivations true
      (fun _ => some 10000000) sampleRecentBuy).run (.withRents 2039280)).1).Submits
        (sampleJitoClient.buySwapParams sampleRecentBuy) built :=
    GenericTradeExecutor.submits_iff.mpr ⟨built, hbuilt, hne, rfl⟩
  have hspawned : task ∈ ((args built).launch sampleSdk world).1 := by
    rw [hlaunch, htask]
    exact List.mem_singleton_self task
  have hstart : TradingInfrastructure.new sampleConnector sampleClientSdk ⟨fun _ => .ok none, []⟩ sampleConfigs =
      .ret sampleJitoClient.infrastructure := rfl
  have hkeep : Preserve transfers sampleJitoClient.middlewareManager := nofun
  have htransfers := Task.transfers_build hkeep hbuild
  obtain ⟨moved, hmoved, hpays⟩ := (trades_payments (reached_withRents sampleDerivations 2039280) hstart hkeep
    sampleSdk world "PumpFun" transaction).1 sampleRecentBuy built hsubmits ⟨task, hspawned, hbuild⟩
  obtain rfl := movesTo_empty.mp hmoved
  refine ⟨built, transaction, hpays, ?_⟩
  rw [htransfers, show task.tips sampleSdk (args built) = _ from htips]
  exact congrArg (_ ++ ·) hmoves

end TradingClient

end PumpTrade
