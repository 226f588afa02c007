import PumpTrade.Exec.Swap
import PumpTrade.Exec.Triple
import PumpTrade.Swqos.Accept

/-!
# The success flag

Whether the flag that a trade returns without waiting for confirmation means that a service has
accepted a transaction.

* `exists_flag`, `flag_succeeds`: the flag can be true exactly where a task succeeds;
* `Task.Accepted`, `Task.Misread`: what the services answered to the tasks;
* **`flag_accepted_iff`**: the flag means acceptance where a service has accepted or no answer is
  misread.
-/

namespace PumpTrade

open Base

/-! ## The flag and the tasks -/

theorem Sys.exists_returned {n : ℕ} (results : Fin n → Option TaskResult) {collector : ResultCollector}
    (hnew : ResultCollector.new n = .ret collector) {i : Fin n} {result : TaskResult}
    (hresult : results i = some result) :
    ∃ acts s, run (step results AllWaiter.op) (start n collector .loadCompleted) acts = some s ∧
      s.waiter = .returned true (Drained.of [result]).finish := by
  obtain ⟨q, hq, hcollector⟩ := Outcome.bind_eq_ret.mp hnew
  obtain ⟨hn, hcap, hitems⟩ := ArrayQueue.new_eq_ret.mp hq
  obtain rfl := Outcome.ret.inj hcollector
  obtain ⟨q₁, hpush, -, hitems₁⟩ := ArrayQueue.exists_push (q := q) (by rw [hitems, hcap]; exact hn) result
  rw [hitems, List.nil_append] at hitems₁
  obtain ⟨q₂, hpop, hitems₂⟩ := ArrayQueue.exists_pop hitems₁
  have hpop₂ : q₂.pop = none := ArrayQueue.pop_eq_none.mpr hitems₂
  refine ⟨[.task i, .waiter false, .waiter true, .waiter false, .waiter false],
    Option.map_eq_some_iff.mp ?_⟩
  simp only [run, step, hresult, start, taskStep, ResultCollector.submitPush, hpush, AllWaiter.op,
    Option.bind_some, Option.map_some, waiterStep, if_pos hn, if_true, hpop, hpop₂]
  rfl

section Flag

variable {sdk : Sdk} {args : TradeArgs} {world : World}

/-- **The flag is true only where a task succeeds.** -/
theorem flag_succeeds (hwait : args.waitTransactionConfirmed = false)
    {schedule : (n : ℕ) → List (Action n)} {swap : SwapResult}
    (hcall : executeParallel sdk args world schedule = some (.ok swap)) (hflag : swap.success = true) :
    ∃ task ∈ (args.launch sdk world).1, task.Succeeds sdk args := by
  obtain ⟨-, s, timedOut, result, hrun, hret, rfl⟩ := (executeParallel_eq_ok hwait).mp hcall
  obtain ⟨collector, hnew, hsys⟩ := runTasks_eq_some.mp hrun
  have hresult := Sys.returned_taken hnew hsys hret
  rw [Drained.finish_of] at hresult
  split_ifs at hresult
  · rw [hresult] at hflag
    cases hflag
  · rw [hresult] at hflag
    obtain ⟨t, ht, hsuccess⟩ := (Drained.of_spec _).2.1.mp hflag
    obtain ⟨i, -, hi⟩ := List.mem_filterMap.mp (List.mem_of_mem_take ht)
    exact ⟨_, List.get_mem _ i, (Task.report_spec (Outcome.value?_eq_some.mp hi)).1.mp hsuccess⟩

/-- **Where a task succeeds the flag can be true.** -/
theorem exists_flag (hwait : args.waitTransactionConfirmed = false)
    (hlaunch : (args.launch sdk world).2 = none) {task : Task} (htask : task ∈ (args.launch sdk world).1)
    (hsucceeds : task.Succeeds sdk args) :
    ∃ schedule swap, executeParallel sdk args world schedule = some (.ok swap) ∧ swap.success = true := by
  obtain ⟨transaction, hbuild, -⟩ := id hsucceeds
  have hreport : task.report sdk args = .ret (task.sent args transaction) :=
    Task.report_eq_ret.mpr (Or.inr ⟨transaction, hbuild, rfl⟩)
  have hflag := (Task.report_spec hreport).1.mpr hsucceeds
  obtain ⟨i, rfl⟩ := List.get_of_mem htask
  obtain ⟨collector, hnew⟩ := ResultCollector.exists_new (Fin.pos i)
  obtain ⟨acts, s, hrun, hret⟩ := Sys.exists_returned (taskResults sdk args _) hnew
    (Outcome.value?_eq_some.mpr hreport)
  refine ⟨fun n => if h : n = (args.launch sdk world).1.length then h ▸ acts else [], _,
    (executeParallel_eq_ok hwait).mpr ⟨hlaunch, s, true, _, ?_, hret, rfl⟩, ?_⟩
  · rw [dif_pos rfl]
    exact runTasks_eq_some.mpr ⟨collector, hnew, hrun⟩
  · simpa [Drained.finish_of] using (Drained.of_spec _).2.1.mpr ⟨_, List.mem_singleton_self _, hflag⟩

end Flag

/-! ## The flag and the services -/

namespace Task

variable (sdk : Sdk) (csdk : ClientSdk) (delivered : QuicAnswers → Prop) (args : TradeArgs) (task : Task)

/-- The task builds the transaction, and its client can send it. -/
def Sends (transaction : VersionedTransaction) : Prop :=
  task.build sdk args = .ret (.ok transaction) ∧ Serializes csdk task.client.swqosType transaction

/-- The service of the task accepts its transaction. -/
def Accepted : Prop := ∃ transaction, task.Sends sdk csdk args transaction ∧
  Accepts csdk delivered (task.net transaction) task.client.swqosType

/-- The client of the task misreads the answer to its transaction. -/
def Misread : Prop := ∃ transaction, task.Sends sdk csdk args transaction ∧
  Misreads csdk delivered (task.net transaction) task.client.swqosType

variable {sdk csdk delivered args task}

/-- A task of a client of the repository succeeds when it has submitted its transaction. -/
theorem succeeds_iff (hwait : args.waitTransactionConfirmed = false) {p : Provider}
    (hclient : task.client = p.client csdk) : task.Succeeds sdk args ↔
      ∃ transaction, task.Sends sdk csdk args transaction ∧
        submit csdk (task.net transaction) task.client.swqosType = .ok () := by
  have hsend : ∀ transaction, task.send args transaction = .ok () ↔
      Serializes csdk task.client.swqosType transaction ∧
        submit csdk (task.net transaction) task.client.swqosType = .ok () := fun transaction => by
    rw [send, hwait, hclient]
    change p.sendTransaction csdk _ args.tradeType transaction false = .ok () ↔ _
    rw [Provider.sendTransaction_now, Provider.serialize_eq_ok]
    rfl
  constructor
  · rintro ⟨transaction, hbuild, hok⟩
    obtain ⟨hserializes, hsubmit⟩ := (hsend transaction).mp hok
    exact ⟨transaction, ⟨hbuild, hserializes⟩, hsubmit⟩
  · rintro ⟨transaction, ⟨hbuild, hserializes⟩, hsubmit⟩
    exact ⟨transaction, hbuild, (hsend transaction).mpr ⟨hserializes, hsubmit⟩⟩

theorem Succeeds.accepted_or_misread (hwait : args.waitTransactionConfirmed = false) {p : Provider}
    (hclient : task.client = p.client csdk) (h : task.Succeeds sdk args) :
    task.Accepted sdk csdk delivered args ∨ task.Misread sdk csdk delivered args := by
  obtain ⟨transaction, hsends, hsubmit⟩ := (succeeds_iff hwait hclient).mp h
  by_cases haccepts : Accepts csdk delivered (task.net transaction) task.client.swqosType
  · exact Or.inl ⟨transaction, hsends, haccepts⟩
  · exact Or.inr ⟨transaction, hsends, (submit_misreads _).mp ⟨hsubmit, haccepts⟩⟩

theorem Misread.succeeds (hwait : args.waitTransactionConfirmed = false) {p : Provider}
    (hclient : task.client = p.client csdk) (h : task.Misread sdk csdk delivered args) :
    task.Succeeds sdk args := by
  obtain ⟨transaction, hsends, hmisreads⟩ := h
  exact (succeeds_iff hwait hclient).mpr ⟨transaction, hsends, ((submit_misreads _).mpr hmisreads).1⟩

end Task

section Verdict

variable (sdk : Sdk) (csdk : ClientSdk) (delivered : QuicAnswers → Prop) (args : TradeArgs) (world : World)

/-- A service accepts a transaction of the trade. -/
def SomeAccepted : Prop := ∃ task ∈ (args.launch sdk world).1, task.Accepted sdk csdk delivered args

/-- No client misreads what its service answers to a transaction of the trade. -/
def NoneMisread : Prop := ∀ task ∈ (args.launch sdk world).1, ¬ task.Misread sdk csdk delivered args

/-- Along every schedule, the call returns a true flag only where a service accepts. -/
def FlagSound (call : ((n : ℕ) → List (Action n)) → Option (Except Error SwapResult)) : Prop :=
  ∀ schedule swap, call schedule = some (.ok swap) → swap.success = true →
    SomeAccepted sdk csdk delivered args world

variable {sdk csdk delivered args world}

theorem executeParallel_flagSound_iff {providers : List Provider}
    (hclients : args.swqosClients = providers.map (Provider.client csdk))
    (hwait : args.waitTransactionConfirmed = false) :
    FlagSound sdk csdk delivered args world (executeParallel sdk args world) ↔
      SomeAccepted sdk csdk delivered args world ∨ NoneMisread sdk csdk delivered args world := by
  have hprovider : ∀ task ∈ (args.launch sdk world).1, ∃ p : Provider, task.client = p.client csdk :=
    fun task htask => by
      have hmem := launch_client htask
      rw [hclients] at hmem
      obtain ⟨p, -, hp⟩ := List.mem_map.mp hmem
      exact ⟨p, hp.symm⟩
  constructor
  · intro hsound
    refine or_iff_not_imp_right.mpr fun hnone => ?_
    obtain ⟨task, htask, hmisread⟩ : ∃ task ∈ (args.launch sdk world).1,
        task.Misread sdk csdk delivered args := by
      simpa [NoneMisread] using hnone
    obtain ⟨p, hp⟩ := hprovider task htask
    have hlaunch : (args.launch sdk world).2 = none := by
      refine (launch_complete fun client hclient draw => ?_).resolve_left (List.ne_nil_of_mem htask)
      rw [hclients] at hclient
      obtain ⟨p, -, rfl⟩ := List.mem_map.mp hclient
      exact p.exists_getTipAccount csdk draw
    obtain ⟨schedule, swap, hcall, hflag⟩ := exists_flag hwait hlaunch htask (hmisread.succeeds hwait hp)
    exact hsound schedule swap hcall hflag
  · intro h schedule swap hcall hflag
    obtain ⟨task, htask, hsucceeds⟩ := flag_succeeds hwait hcall hflag
    obtain ⟨p, hp⟩ := hprovider task htask
    rcases h with haccepted | hnone
    · exact haccepted
    · exact ⟨task, htask, (hsucceeds.accepted_or_misread hwait hp).resolve_right (hnone task htask)⟩

end Verdict

/-- **The verdict.** For the clients of the repository and every answer of their services: a client
succeeds only where its service accepts, unless it misreads the answer; the flag of a submission,
and of a swap that neither simulates nor confirms, means acceptance along every schedule exactly if
a service accepts or no client misreads its answer. -/
theorem flag_accepted_iff (sdk : Sdk) (csdk : ClientSdk) (delivered : QuicAnswers → Prop)
    (providers : List Provider) (world : World) :
    (∀ (p : Provider) (net : Net) (tradeType : TradeType) (transaction : VersionedTransaction),
      (p.sendTransaction csdk net tradeType transaction false = .ok () →
        Accepts csdk delivered net p.swqosType) ↔
      ¬ (Serializes csdk p.swqosType transaction ∧ Misreads csdk delivered net p.swqosType)) ∧
    (∀ args : TradeArgs, args.swqosClients = providers.map (Provider.client csdk) →
      args.waitTransactionConfirmed = false →
      (FlagSound sdk csdk delivered args world (executeParallel sdk args world) ↔
        SomeAccepted sdk csdk delivered args world ∨ NoneMisread sdk csdk delivered args world)) ∧
    ∀ (executor : GenericTradeExecutor) (params : SwapParams) (instructions : List Instruction),
      params.swqosClients = providers.map (Provider.client csdk) → params.simulate = false →
      params.waitTransactionConfirmed = false →
      executor.finalInstructions params = .ret (.ok instructions) →
      (FlagSound sdk csdk delivered (params.tradeArgs executor.protocolName instructions) world
          (executor.swap params sdk csdk.toTexts world) ↔
        SomeAccepted sdk csdk delivered (params.tradeArgs executor.protocolName instructions) world ∨
          NoneMisread sdk csdk delivered (params.tradeArgs executor.protocolName instructions) world) := by
  refine ⟨fun p net tradeType transaction => p.sendTransaction_accepts delivered net tradeType transaction,
    fun args hclients hwait => executeParallel_flagSound_iff hclients hwait, ?_⟩
  intro executor params instructions hclients hsimulate hwait hinstructions
  have hswap : executor.swap params sdk csdk.toTexts world =
      executeParallel sdk (params.tradeArgs executor.protocolName instructions) world :=
    funext fun schedule => GenericTradeExecutor.swap_eq_executeParallel sdk csdk.toTexts world schedule
      hinstructions hsimulate hwait
  rw [hswap]
  exact executeParallel_flagSound_iff hclients rfl

/-- Jito and the RPC node accept: the flag means it, for the submission and for a swap that
submits. -/
theorem flag_accepted_iff_accepting :
    let world := sampleWorld fun _ _ => sampleNet 200 ""
    let args := { sampleArgs with recentBlockhash := some ⟨5⟩ }
    let executor : GenericTradeExecutor :=
      ⟨⟨fun _ => .ret (.ok args.instructions), fun _ => .ret (.ok args.instructions)⟩, "PumpFun"⟩
    let params : SwapParams :=
      { rpc := none, payer := args.payer, tradeType := .sell, addressLookupTableAccount := none,
        recentBlockhash := some ⟨5⟩, waitTransactionConfirmed := false, swqosClients := args.swqosClients,
        middlewareManager := none, durableNonce := none, withTip := true, simulate := false,
        checkMinTip := false }
    FlagSound sampleSdk sampleClientSdk (fun _ => False) args world (executeParallel sampleSdk args world) ∧
      FlagSound sampleSdk sampleClientSdk (fun _ => False) args world
        (executor.swap params sampleSdk sampleClientSdk.toTexts world) := by
  intro world args executor params
  have hnone : NoneMisread sampleSdk sampleClientSdk (fun _ => False) args world := by
    rintro task htask ⟨transaction, -, hmisreads⟩
    obtain ⟨k, hnet⟩ := launch_net htask
    rw [hnet] at hmisreads
    have hclient : task.client ∈ args.swqosClients := launch_client htask
    rcases List.mem_cons.mp hclient with h | h
    · rw [h] at hmisreads
      obtain ⟨status, text, hanswer, hbad⟩ := hmisreads
      obtain ⟨rfl, rfl⟩ : 200 = status ∧ "" = text := by simpa [world, sampleWorld, sampleNet] using hanswer
      exact absurd hbad (by decide)
    · rw [List.mem_singleton.mp h] at hmisreads
      exact hmisreads
  obtain ⟨-, hcall, hswap⟩ := flag_accepted_iff sampleSdk sampleClientSdk (fun _ => False)
    [⟨.jito, "", false⟩, ⟨.default, "", false⟩] world
  exact ⟨(hcall args rfl rfl).mpr (Or.inr hnone),
    (hswap executor params args.instructions rfl rfl rfl rfl).mpr (Or.inr hnone)⟩

/-- Jito answers with status 500 and a JSON-RPC error, the RPC node refuses: the flag is true, and
no service has accepted. -/
theorem rejected_flag_true :
    let args := { sampleArgs with recentBlockhash := some ⟨5⟩ }
    let refusing : Net := { sampleNet 500 "\x7b\"error\":\x7b\"code\":-32000\x7d\x7d" with
      rpc := .error (.other "Transaction simulation failed") }
    let world := sampleWorld fun _ _ => refusing
    args.swqosClients = [Provider.client sampleClientSdk ⟨.jito, "", false⟩,
      Provider.client sampleClientSdk ⟨.default, "", false⟩] ∧ args.waitTransactionConfirmed = false ∧
    executeParallel sampleSdk args world (sampleSchedule 0 1) =
      some (.ok ⟨true, [⟨4⟩, ⟨3⟩], some (.other "Transaction simulation failed")⟩) ∧
    ¬ SomeAccepted sampleSdk sampleClientSdk (fun _ => True) args world ∧
    ¬ FlagSound sampleSdk sampleClientSdk (fun _ => True) args world
      (executeParallel sampleSdk args world) := by
  intro args refusing world
  have hcall : executeParallel sampleSdk args world (sampleSchedule 0 1) =
      some (.ok ⟨true, [⟨4⟩, ⟨3⟩], some (.other "Transaction simulation failed")⟩) := by decide +kernel
  have hnone : ¬ SomeAccepted sampleSdk sampleClientSdk (fun _ => True) args world := by
    rintro ⟨task, htask, transaction, -, haccepts⟩
    obtain ⟨k, hnet⟩ := launch_net htask
    rw [hnet] at haccepts
    have hclient : task.client ∈ args.swqosClients := launch_client htask
    rcases List.mem_cons.mp hclient with h | h
    · rw [h] at haccepts
      exact absurd haccepts.1 (by decide)
    · rw [List.mem_singleton.mp h] at haccepts
      obtain ⟨signature, hsignature⟩ := haccepts
      cases hsignature
  exact ⟨rfl, rfl, hcall, hnone, fun hsound => hnone (hsound _ _ hcall rfl)⟩

end PumpTrade
