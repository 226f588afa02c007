import PumpTrade.Exec.Build
import PumpTrade.Exec.Tasks
import PumpTrade.Fee.Model
import PumpTrade.Swqos.Client

/-!
# Submitting through all services

`execute_parallel` of `trading/core/async_executor.rs`: one task for each client and each fee
strategy of its service, run beside the waiter.

* `TradeArgs`, `World`: the arguments, and what the call reads outside of them;
* `taskConfigs`, `prepare`, `launch`: the tasks that are spawned, and the errors before that;
* `Task.build`, `Task.report`: what a task builds and submits;
* `executeParallel`: the call, along a schedule of the tasks and the waiter.
-/

namespace PumpTrade

open Base

/-- The arguments of a trade. The shared fee strategy is part of the `World`. -/
structure TradeArgs where
  swqosClients : List SwqosClient
  payer : Keypair
  instructions : List Instruction
  addressLookupTableAccount : Option AddressLookupTableAccount
  recentBlockhash : Option Hash
  durableNonce : Option DurableNonceInfo
  middlewareManager : Option MiddlewareManager
  protocolName : String
  isBuy : Bool
  waitTransactionConfirmed : Bool
  withTip : Bool
  checkMinTip : Bool

/-- What a call reads outside of its arguments: the fee strategies and the order of the hash set as
they are found for each client, and for each task the draw of its tip account and the answers of the
network to the transaction it sends. -/
structure World where
  strategies : ℕ → StrategyMap
  hash : ℕ → HashOrder
  draw : ℕ → ℕ
  net : ℕ → VersionedTransaction → Net

/-- A client and the fees to send with. -/
structure TaskConfig where
  client : SwqosClient
  fees : GasFeeStrategyValue

/-- A spawned task. -/
structure Task where
  client : SwqosClient
  fees : GasFeeStrategyValue
  tipAccount : Pubkey
  net : VersionedTransaction → Net

namespace TradeArgs

variable (args : TradeArgs)

/-- The type under which the strategies of the trade are stored. -/
def tradeType : TradeType := if args.isBuy then .buy else .sell

/-- The client takes part in the trade. -/
def uses (client : SwqosClient) : Bool := args.withTip || decide (client.swqosType = .default)

/-- The fees are checked against the smallest tip of the client. -/
def checkTip (client : SwqosClient) : Bool :=
  args.withTip && decide (client.swqosType ≠ .default) && args.checkMinTip

/-- The fees to send with through one client, of the strategies found for it. -/
def clientConfigs (hash : HashOrder) (strategies : StrategyMap) (client : SwqosClient) : List TaskConfig :=
  if args.uses client then
    (((getStrategies hash strategies args.tradeType).filter fun config => config.1 = client.swqosType).filter
      fun config => if args.checkTip client then client.minTipSol.le config.2.2.tip else true).map
        fun config => { client, fees := config.2.2 }
  else []

/-- The clients of the trade, each with its strategies, in order. -/
def taskConfigs (world : World) : List TaskConfig :=
  args.swqosClients.zipIdx.flatMap fun (client, i) =>
    args.clientConfigs (world.hash i) (world.strategies i) client

/-- The checks before anything is spawned. -/
def prepare (world : World) : Except Error (List TaskConfig) :=
  if args.swqosClients.isEmpty then .error (.other "swqos_clients is empty")
  else if !args.withTip && !args.swqosClients.any fun client => client.swqosType = .default then
    .error (.other "No Rpc Default Swqos configured.")
  else if (args.taskConfigs world).isEmpty then .error (.other "No available gas fee strategy configs")
  else if args.isBuy && decide (1 < (args.taskConfigs world).length) && args.durableNonce.isNone then
    .error (.other "Multiple swqos transactions require durable_nonce to be set.")
  else .ok (args.taskConfigs world)

variable (sdk : Sdk)

/-- The spawn loop from the task with index `k` on. A client without a tip account ends it with an
error; the tasks before it are running already. -/
def spawn (world : World) : (k : ℕ) → List TaskConfig → List Task × Option Error
  | _, [] => ([], none)
  | k, config :: configs =>
    match config.client.getTipAccount (world.draw k) with
    | .error e => ([], some e)
    | .ok tipAccount =>
      let (tasks, error) := spawn world (k + 1) configs
      ({ client := config.client
         fees := config.fees
         tipAccount := (sdk.parsePubkey tipAccount).getD default
         net := world.net k } :: tasks, error)

/-- The tasks that are spawned, and the error with which the call returns before it waits for
them. -/
def launch (world : World) : List Task × Option Error :=
  match args.prepare world with
  | .error e => ([], some e)
  | .ok configs => spawn sdk world 0 configs

/-- There is nothing to send through or with, a buy would send several transactions without a durable
nonce, or a client has no tip account to give. -/
def Rejected (world : World) : Prop :=
  args.swqosClients = [] ∨
  (args.withTip = false ∧ ∀ client ∈ args.swqosClients, client.swqosType ≠ .default) ∨
  args.taskConfigs world = [] ∨
  (args.isBuy = true ∧ 1 < (args.taskConfigs world).length ∧ args.durableNonce = none) ∨
  ∃ k, ∃ config : TaskConfig, ∃ e, (args.taskConfigs world)[k]? = some config ∧
    config.client.getTipAccount (world.draw k) = .error e

end TradeArgs

namespace Task

variable (sdk : Sdk) (args : TradeArgs) (task : Task)

/-- The instructions of the transaction that follow the nonce advance. -/
def body : List Instruction :=
  bodyInstructions sdk args.payer task.fees.cuLimit task.fees.cuPrice args.instructions
    (decide (task.client.swqosType ≠ .default)) task.tipAccount
    (if args.withTip then task.fees.tip else F64.zero)

/-- The transaction of a task. -/
def build : Outcome (Except Error VersionedTransaction) :=
  buildTransaction sdk args.payer task.fees.cuLimit task.fees.cuPrice args.instructions
    args.addressLookupTableAccount args.recentBlockhash args.middlewareManager args.protocolName args.isBuy
    (decide (task.client.swqosType ≠ .default)) task.tipAccount
    (if args.withTip then task.fees.tip else F64.zero) args.durableNonce

/-- Send the transaction through the client of the task. -/
def send (transaction : VersionedTransaction) : Except Error Unit :=
  task.client.sendTransaction (task.net transaction) args.tradeType transaction args.waitTransactionConfirmed

/-- What is submitted after sending. -/
def sent (transaction : VersionedTransaction) : TaskResult where
  success := match task.send args transaction with
    | .ok () => true
    | .error _ => false
  signature := transaction.signatures.head?.getD default
  error := match task.send args transaction with
    | .ok () => none
    | .error e => some e
  swqosType := task.client.swqosType
  landedOnChain := match task.send args transaction with
    | .ok () => true
    | .error e => isLandedError e

/-- What is submitted where the transaction cannot be built. -/
def notBuilt (e : Error) : TaskResult where
  success := false
  signature := default
  error := some e
  swqosType := task.client.swqosType
  landedOnChain := false

/-- What a task submits, where it does not panic. -/
def report : Outcome TaskResult := do
  match ← task.build sdk args with
  | .error e => .ret (task.notBuilt e)
  | .ok transaction => .ret (task.sent args transaction)

variable {sdk args task}

theorem build_eq_ok {transaction : VersionedTransaction} :
    task.build sdk args = .ret (.ok transaction) ↔ ∃ nonceInstructions blockhash full,
      lifetime args.payer args.recentBlockhash args.durableNonce = some (nonceInstructions, blockhash) ∧
      fullInstructions args.middlewareManager (nonceInstructions ++ task.body sdk args) args.protocolName
        args.isBuy = .ok full ∧
      sdk.compiles args.payer.pubkey full args.addressLookupTableAccount ∧
      transaction = signed sdk args.payer full blockhash args.addressLookupTableAccount :=
  buildTransaction_eq_ok

theorem report_eq_ret {result : TaskResult} : task.report sdk args = .ret result ↔
    (∃ e, task.build sdk args = .ret (.error e) ∧ result = task.notBuilt e) ∨
    ∃ transaction, task.build sdk args = .ret (.ok transaction) ∧ result = task.sent args transaction := by
  unfold report
  rw [Outcome.bind_eq_ret]
  constructor
  · rintro ⟨r, hr, hresult⟩
    cases r with
    | error e => exact Or.inl ⟨e, hr, (Outcome.ret.inj hresult).symm⟩
    | ok transaction => exact Or.inr ⟨transaction, hr, (Outcome.ret.inj hresult).symm⟩
  · rintro (⟨e, he, rfl⟩ | ⟨transaction, htx, rfl⟩)
    · exact ⟨_, he, rfl⟩
    · exact ⟨_, htx, rfl⟩

end Task

/-! ## The call -/

section Call

variable (sdk : Sdk) (args : TradeArgs)

/-- What the tasks submit. -/
def taskResults (tasks : List Task) (i : Fin tasks.length) : Option TaskResult :=
  ((tasks.get i).report sdk args).value?

/-- The tasks and a waiter, run along a schedule. -/
def runTasks {W : Type} (op : W → Option (WaiterOp W)) (waiter : W) (tasks : List Task)
    (acts : List (Action tasks.length)) : Option (Sys tasks.length W) :=
  match ResultCollector.new tasks.length with
  | .panic _ => none
  | .ret collector => run (Sys.step (taskResults sdk args tasks) op) (Sys.start _ collector waiter) acts

/-- What is returned where no task has submitted in time. -/
def noResult : SwapResult := ⟨false, [], some (.other "No SWQOS result within 30s")⟩

/-- The call along a schedule; `none` where the schedule ends before the call returns. -/
def executeParallel (world : World) (schedule : (n : ℕ) → List (Action n)) :
    Option (Except Error SwapResult) :=
  match args.launch sdk world with
  | (_, some e) => some (.error e)
  | (tasks, none) =>
    if args.waitTransactionConfirmed then do
      let s ← runTasks sdk args SuccessWaiter.op .loadSuccess tasks (schedule _)
      match s.waiter with
      | .returned (some result) => some (.ok result)
      | .returned none => some (.error (.other "All transactions failed"))
      | _ => none
    else do
      let s ← runTasks sdk args AllWaiter.op .loadCompleted tasks (schedule _)
      match s.waiter with
      | .returned _ result => some (.ok (result.getD noResult))
      | _ => none

end Call

theorem executeParallel_eq_ok {sdk : Sdk} {args : TradeArgs} {world : World}
    {schedule : (n : ℕ) → List (Action n)} {swap : SwapResult}
    (hwait : args.waitTransactionConfirmed = false) :
    executeParallel sdk args world schedule = some (.ok swap) ↔
      (args.launch sdk world).2 = none ∧ ∃ s timedOut result,
        runTasks sdk args AllWaiter.op .loadCompleted (args.launch sdk world).1 (schedule _) = some s ∧
          s.waiter = .returned timedOut result ∧ swap = result.getD noResult := by
  unfold executeParallel
  rcases args.launch sdk world with ⟨tasks, _ | e⟩
  · simp only [hwait, Bool.false_eq_true, if_false, true_and]
    constructor
    · intro h
      obtain ⟨s, hrun, hs⟩ := Option.bind_eq_some_iff.mp h
      split at hs
      · next timedOut result hret =>
        exact ⟨s, timedOut, result, hrun, hret, (Except.ok.inj (Option.some.inj hs)).symm⟩
      · cases hs
    · rintro ⟨s, timedOut, result, hrun, hret, rfl⟩
      exact Option.bind_eq_some_iff.mpr ⟨s, hrun, by simp only [hret]⟩
  · simp

/-! ## What is spawned -/

section Launch

variable {sdk : Sdk} {args : TradeArgs} {world : World}

theorem prepare_eq_ok {configs : List TaskConfig} (h : args.prepare world = .ok configs) :
    configs = args.taskConfigs world ∧ configs ≠ [] ∧
      (args.isBuy = true → 1 < configs.length → args.durableNonce.isSome) := by
  unfold TradeArgs.prepare at h
  split_ifs at h with h1 h2 h3 h4
  obtain rfl := Except.ok.inj h
  refine ⟨rfl, fun hnil => h3 (by rw [hnil]; rfl), fun hbuy hlen => ?_⟩
  cases hnonce : args.durableNonce with
  | none => exact absurd (by simp [hbuy, hlen, hnonce]) h4
  | some nonce => rfl

variable (sdk world) in
theorem spawn_configs (k : ℕ) (configs : List TaskConfig) :
    ((TradeArgs.spawn sdk world k configs).1.map fun t => (⟨t.client, t.fees⟩ : TaskConfig)) <+: configs := by
  induction configs generalizing k with
  | nil => exact List.nil_prefix
  | cons config configs ih =>
    unfold TradeArgs.spawn
    cases config.client.getTipAccount (world.draw k) with
    | error e => exact List.nil_prefix
    | ok tipAccount => exact List.cons_prefix_cons.mpr ⟨rfl, ih (k + 1)⟩

theorem spawn_length {k : ℕ} {configs : List TaskConfig} {tasks : List Task}
    (h : TradeArgs.spawn sdk world k configs = (tasks, none)) : tasks.length = configs.length := by
  induction configs generalizing k tasks with
  | nil =>
    obtain ⟨rfl, -⟩ := Prod.mk.inj h
    rfl
  | cons config configs ih =>
    unfold TradeArgs.spawn at h
    cases hc : config.client.getTipAccount (world.draw k) with
    | error e =>
      rw [hc] at h
      cases (Prod.mk.inj h).2
    | ok tipAccount =>
      rw [hc] at h
      obtain ⟨rfl, hnone⟩ := Prod.mk.inj h
      exact congrArg (· + 1) (ih (Prod.ext rfl hnone))

variable (sdk args world) in
/-- Either nothing is spawned, or the checks have passed and the loop has run. -/
theorem launch_cases : (args.launch sdk world).1 = [] ∨
    ∃ configs, args.prepare world = .ok configs ∧
      args.launch sdk world = TradeArgs.spawn sdk world 0 configs := by
  unfold TradeArgs.launch
  cases args.prepare world with
  | error e => exact Or.inl rfl
  | ok configs => exact Or.inr ⟨configs, rfl, rfl⟩

/-- **The guard**: a buy spawns more than one task only with a durable nonce. -/
theorem launch_buy_nonce (hlen : 2 ≤ (args.launch sdk world).1.length) (hbuy : args.isBuy = true) :
    args.durableNonce.isSome := by
  rcases launch_cases sdk args world with h | ⟨configs, hprep, h⟩
  · rw [h] at hlen
    exact absurd hlen (by decide)
  · have hpre := (spawn_configs sdk world 0 configs).length_le
    rw [List.length_map, ← h] at hpre
    exact (prepare_eq_ok hprep).2.2 hbuy (by omega)

theorem clientConfigs_client {hash : HashOrder} {strategies : StrategyMap} {client : SwqosClient}
    {config : TaskConfig} (h : config ∈ args.clientConfigs hash strategies client) :
    config.client = client := by
  unfold TradeArgs.clientConfigs at h
  by_cases huses : args.uses client = true
  · rw [if_pos huses] at h
    obtain ⟨_, -, rfl⟩ := List.mem_map.mp h
    rfl
  · rw [if_neg huses] at h
    cases h

theorem taskConfigs_client {config : TaskConfig} (h : config ∈ args.taskConfigs world) :
    config.client ∈ args.swqosClients := by
  obtain ⟨⟨client, i⟩, hclient, hconfig⟩ := List.mem_flatMap.mp h
  rw [clientConfigs_client hconfig, (List.mem_zipIdx hclient).2.2]
  exact List.getElem_mem _

theorem launch_client {task : Task} (htask : task ∈ (args.launch sdk world).1) :
    task.client ∈ args.swqosClients := by
  rcases launch_cases sdk args world with h | ⟨configs, hprep, h⟩
  · rw [h] at htask
    cases htask
  · have hmem : (⟨task.client, task.fees⟩ : TaskConfig) ∈ configs := by
      refine (spawn_configs sdk world 0 configs).subset ?_
      rw [← h]
      exact List.mem_map_of_mem htask
    rw [(prepare_eq_ok hprep).1] at hmem
    exact taskConfigs_client hmem

/-- Each task has the answers of the network to the request of its own index. -/
theorem spawn_net {k : ℕ} {configs : List TaskConfig} {task : Task}
    (htask : task ∈ (TradeArgs.spawn sdk world k configs).1) : ∃ j, task.net = world.net j := by
  induction configs generalizing k with
  | nil => cases htask
  | cons config configs ih =>
    unfold TradeArgs.spawn at htask
    cases hc : config.client.getTipAccount (world.draw k) with
    | error e =>
      rw [hc] at htask
      cases htask
    | ok tipAccount =>
      rw [hc] at htask
      rcases List.mem_cons.mp htask with rfl | htask
      · exact ⟨k, rfl⟩
      · exact ih htask

theorem launch_net {task : Task} (htask : task ∈ (args.launch sdk world).1) :
    ∃ j, task.net = world.net j := by
  rcases launch_cases sdk args world with h | ⟨configs, -, h⟩
  · rw [h] at htask
    cases htask
  · rw [h] at htask
    exact spawn_net htask

theorem spawn_complete (k : ℕ) {configs : List TaskConfig}
    (htip : ∀ config ∈ configs, ∀ draw, ∃ tipAccount, config.client.getTipAccount draw = .ok tipAccount) :
    (TradeArgs.spawn sdk world k configs).2 = none := by
  induction configs generalizing k with
  | nil => rfl
  | cons config configs ih =>
    obtain ⟨tipAccount, h⟩ := htip config List.mem_cons_self (world.draw k)
    unfold TradeArgs.spawn
    rw [h]
    exact ih (k + 1) fun config hconfig => htip config (List.mem_cons_of_mem _ hconfig)

theorem launch_complete
    (htip : ∀ client ∈ args.swqosClients, ∀ draw, ∃ tipAccount, client.getTipAccount draw = .ok tipAccount) :
    (args.launch sdk world).1 = [] ∨ (args.launch sdk world).2 = none := by
  rcases launch_cases sdk args world with h | ⟨configs, hprep, h⟩
  · exact Or.inl h
  · rw [h]
    refine Or.inr (spawn_complete 0 fun config hconfig => htip _ ?_)
    rw [(prepare_eq_ok hprep).1] at hconfig
    exact taskConfigs_client hconfig

theorem spawn_error_iff {k : ℕ} {configs : List TaskConfig} :
    (∃ e, (TradeArgs.spawn sdk world k configs).2 = some e) ↔
      ∃ j, ∃ config : TaskConfig, ∃ e, configs[j]? = some config ∧
        config.client.getTipAccount (world.draw (k + j)) = .error e := by
  induction configs generalizing k with
  | nil => simp [TradeArgs.spawn]
  | cons config configs ih =>
    cases htip : config.client.getTipAccount (world.draw k) with
    | error e => exact iff_of_true ⟨e, by simp [TradeArgs.spawn, htip]⟩ ⟨0, config, e, rfl, htip⟩
    | ok tipAccount =>
      have hspawn : (TradeArgs.spawn sdk world k (config :: configs)).2 =
          (TradeArgs.spawn sdk world (k + 1) configs).2 := by simp only [TradeArgs.spawn, htip]
      rw [hspawn, ih]
      constructor
      · rintro ⟨j, config', e, hj, he⟩
        exact ⟨j + 1, config', e, hj, by rwa [Nat.add_right_comm] at he⟩
      · rintro ⟨j, config', e, hj, he⟩
        cases j with
        | zero =>
          obtain rfl := Option.some.inj hj
          cases htip.symm.trans he
        | succ j => exact ⟨j, config', e, hj, by rwa [Nat.add_right_comm]⟩

/-- **When a call is an error before it waits for its tasks.** -/
theorem launch_error_iff : (∃ e, (args.launch sdk world).2 = some e) ↔ args.Rejected world := by
  have hspawn : (∃ e, (TradeArgs.spawn sdk world 0 (args.taskConfigs world)).2 = some e) ↔ _ := spawn_error_iff
  simp only [Nat.zero_add] at hspawn
  unfold TradeArgs.Rejected TradeArgs.launch TradeArgs.prepare
  rw [← hspawn]
  split_ifs with h1 h2 h3 h4
  · exact iff_of_true ⟨_, rfl⟩ (Or.inl (List.isEmpty_iff.mp h1))
  · have hdefault : args.withTip = false ∧ ∀ client ∈ args.swqosClients, client.swqosType ≠ .default := by
      simpa using h2
    exact iff_of_true ⟨_, rfl⟩ (Or.inr (Or.inl hdefault))
  · exact iff_of_true ⟨_, rfl⟩ (Or.inr (Or.inr (Or.inl (List.isEmpty_iff.mp h3))))
  · have hmultiple : args.isBuy = true ∧ 1 < (args.taskConfigs world).length ∧ args.durableNonce = none := by
      simpa [and_assoc] using h4
    exact iff_of_true ⟨_, rfl⟩ (Or.inr (Or.inr (Or.inr (Or.inl hmultiple))))
  · have hclients : args.swqosClients ≠ [] := by simpa using h1
    have hconfigs : args.taskConfigs world ≠ [] := by simpa using h3
    have hdefault : ¬ (args.withTip = false ∧ ∀ client ∈ args.swqosClients, client.swqosType ≠ .default) := by
      simpa using h2
    have hmultiple : ¬ (args.isBuy = true ∧ 1 < (args.taskConfigs world).length ∧ args.durableNonce = none) := by
      simpa [and_assoc] using h4
    simp only [hclients, hconfigs, hdefault, hmultiple, false_or]

theorem launch_length_pos {tasks : List Task} (h : args.launch sdk world = (tasks, none)) :
    0 < tasks.length := by
  unfold TradeArgs.launch at h
  cases hprep : args.prepare world with
  | error e =>
    rw [hprep] at h
    cases (Prod.mk.inj h).2
  | ok configs =>
    rw [hprep] at h
    rw [spawn_length h]
    exact List.length_pos_iff.mpr (prepare_eq_ok hprep).2.1

end Launch

/-! ## A small trade -/

/-- Packages that sign a message with the number of its instructions and know the key of one tip
account. -/
def sampleSdk : Sdk where
  solToLamports tip := if tip = ⟨0x3f50624dd2f1a9fc⟩ then some 1000000 else none
  compiles _ _ _ := true
  signMessage _ message := ⟨BitVec.ofNat 512 message.body.instructions.length⟩
  parsePubkey text := if text = "96gYZGLnJYVFmbjzopPSU6QiEV5fGqZNyN9nmNhvrZU5" then
      some ⟨0x78521cb179cebb8589b556a2d5ec94d2498682fdf9bb2af5ad64e491cc4153da⟩
    else none

/-- Packages that read one text as JSON. -/
def sampleClientSdk : ClientSdk where
  displayTransactionError _ := ""
  debugText text := text
  parseJson text := if text = "\x7b\"error\":\x7b\"code\":-32000\x7d\x7d" then
      some (.obj [("error", .obj [("code", .num "-32000")])])
    else none
  displayStatus := toString
  serialize _ := .ok []
  sha256 _ := []

/-- A network on which every request is answered with `status` and `body`. -/
def sampleNet (status : ℕ) (body : String) : Net where
  http := .answer status (.ok body)
  rpc := .ok default
  quic := ⟨.ok (), .ok (), .ok ()⟩
  rounds := []

/-- A sell with a tip through Jito and the RPC node, with neither a blockhash nor a nonce. -/
def sampleArgs : TradeArgs where
  swqosClients :=
    [Provider.client sampleClientSdk ⟨.jito, "", false⟩, Provider.client sampleClientSdk ⟨.default, "", false⟩]
  payer := ⟨⟨7⟩⟩
  instructions := [⟨⟨9⟩, [], [1]⟩]
  addressLookupTableAccount := none
  recentBlockhash := none
  durableNonce := none
  middlewareManager := none
  protocolName := "PumpFun"
  isBuy := false
  waitTransactionConfirmed := false
  withTip := true
  checkMinTip := false

/-- One strategy for each service, for buys and for sells. -/
def sampleWorld (net : ℕ → VersionedTransaction → Net) : World where
  strategies _ key := if key.2.2 = .normal then some ⟨200000, 100000, ⟨0x3f50624dd2f1a9fc⟩⟩ else none
  hash _ := .declared
  draw _ := 0
  net

end PumpTrade
