import PumpTrade.Exec.Agree
import PumpTrade.Exec.Report
import PumpTrade.Exec.Triple
import PumpTrade.Swqos.PollSound

/-!
# Swaps that wait for confirmation

A swap that waits submits through its tasks, collects their signatures, and polls for any of them.

* `Origin`: where a signature of the collected result comes from;
* `submitted_origin`: each signature that is polled for is one of a task;
* **`confirmed_iff`**: the swap succeeds exactly where polling confirms what was submitted;
* **`confirmed_sound`**: a success is of a transaction that a task has built.
-/

namespace PumpTrade

open Base

section Submitted

variable {sdk : Sdk} {args : TradeArgs} {world : World} {schedule : (n : ℕ) → List (Action n)}

/-- The signature of a task: that of the transaction it has built, or a default where it built
none. -/
def Task.Origin (sdk : Sdk) (args : TradeArgs) (task : Task) (signature : Signature) : Prop :=
  (∃ transaction, task.build sdk args = .ret (.ok transaction) ∧ transaction.signatures = [signature]) ∨
    (∃ e, task.build sdk args = .ret (.error e)) ∧ signature = default

theorem Task.origin_of_report {task : Task} {result : TaskResult} (h : task.report sdk args = .ret result) :
    task.Origin sdk args result.signature := by
  rcases Task.report_eq_ret.mp h with ⟨e, hbuild, rfl⟩ | ⟨transaction, hbuild, rfl⟩
  · exact Or.inr ⟨⟨e, hbuild⟩, rfl⟩
  · obtain ⟨_, _, _, -, -, -, rfl⟩ := Task.build_eq_ok.mp hbuild
    exact Or.inl ⟨_, hbuild, rfl⟩

theorem mem_taken {n : ℕ} {W : Type} {results : Fin n → Option TaskResult} {s : Sys n W} {result : TaskResult}
    (h : result ∈ s.taken results) : ∃ i, results i = some result := by
  obtain ⟨i, -, hi⟩ := List.mem_filterMap.mp (List.mem_of_mem_take h)
  exact ⟨i, hi⟩

/-- What a call returns: nothing in time, or what it makes of the results of some tasks. -/
theorem executeParallel_drained (hwait : args.waitTransactionConfirmed = false) {result : SwapResult}
    (h : executeParallel sdk args world schedule = some (.ok result)) :
    ∃ taken : List TaskResult,
      (∀ t ∈ taken, ∃ task ∈ (args.launch sdk world).1, task.report sdk args = .ret t) ∧
      result = (Drained.of taken).finish.getD noResult := by
  obtain ⟨-, s, timedOut, drained, hrun, hret, rfl⟩ := (executeParallel_eq_ok hwait).mp h
  obtain ⟨collector, hnew, hrun⟩ := runTasks_eq_some.mp hrun
  refine ⟨s.taken (taskResults sdk args (args.launch sdk world).1), fun t ht => ?_, ?_⟩
  · obtain ⟨i, hi⟩ := mem_taken ht
    exact ⟨_, List.get_mem _ i, Outcome.value?_eq_some.mp hi⟩
  · rw [Sys.returned_taken hnew hrun hret]

/-- **Each signature of a call is one of a task.** -/
theorem submitted_origin (hwait : args.waitTransactionConfirmed = false) {result : SwapResult}
    (h : executeParallel sdk args world schedule = some (.ok result)) :
    ∀ signature ∈ result.signatures, ∃ task ∈ (args.launch sdk world).1, task.Origin sdk args signature := by
  obtain ⟨taken, htaken, rfl⟩ := executeParallel_drained hwait h
  intro signature hsignature
  rw [Drained.finish_of] at hsignature
  split_ifs at hsignature with hnil
  · cases hsignature
  · obtain ⟨t, ht, rfl⟩ := List.mem_map.mp hsignature
    obtain ⟨task, htask, hreport⟩ := htaken t ht
    exact ⟨task, htask, Task.origin_of_report hreport⟩

theorem signatures_ne_nil (hwait : args.waitTransactionConfirmed = false) {result : SwapResult}
    (h : executeParallel sdk args world schedule = some (.ok result)) (hsuccess : result.success = true) :
    result.signatures ≠ [] := by
  obtain ⟨taken, -, rfl⟩ := executeParallel_drained hwait h
  rw [Drained.finish_of] at hsuccess ⊢
  split_ifs at hsuccess ⊢ with hnil
  · cases hsuccess
  · simpa using hnil

end Submitted

/-! ## Confirming -/

/-- The node shows that the signature has succeeded. -/
def RpcNode.Confirms (rpc : RpcNode) (signatures : List Signature) (signature : Signature) : Prop :=
  ConfirmedBy rpc.rounds signatures signature

section Confirm

variable {executor : GenericTradeExecutor} {sdk : Sdk} {texts : Texts} {world : World} {params : SwapParams}
  {schedule : (n : ℕ) → List (Action n)} {rpc : RpcNode} {result : SwapResult}

theorem confirm_some {submitted : SwapResult} (hne : submitted.signatures ≠ []) :
    confirm texts (some rpc) (.ok submitted) =
      match pollAnyTransactionConfirmation texts submitted.signatures true rpc.rounds with
      | .ok _ => ⟨true, submitted.signatures, none⟩
      | .error e => ⟨false, submitted.signatures, some e⟩ := by
  have hempty : submitted.signatures.isEmpty = false := by simpa using hne
  unfold confirm
  simp only [hempty]
  rfl

theorem confirm_none {submitted : SwapResult} (hnil : submitted.signatures = []) :
    (confirm texts (some rpc) (.ok submitted)).success = submitted.success := by
  simp [confirm, hnil]

theorem swap_waiting (hsimulate : params.simulate = false) (hwait : params.waitTransactionConfirmed = true) :
    executor.swap params sdk texts world schedule = some (.ok result) ↔
      ∃ instructions submitted, executor.Submits params instructions ∧
        executeParallel sdk (params.tradeArgs executor.protocolName instructions) world schedule =
          some submitted ∧ result = confirm texts params.rpc submitted := by
  constructor
  · intro h
    obtain ⟨instructions, hsubmits⟩ := GenericTradeExecutor.exists_submits h
    have hfinal : executor.finalInstructions params = .ret (.ok instructions) := hsubmits
    simp only [GenericTradeExecutor.swap, hfinal, hsimulate, hwait, Bool.false_eq_true, if_false, if_true] at h
    obtain ⟨submitted, hsubmitted, hresult⟩ := Option.bind_eq_some_iff.mp h
    exact ⟨instructions, submitted, hsubmits, hsubmitted, (Except.ok.inj (Option.some.inj hresult)).symm⟩
  · rintro ⟨instructions, submitted, hsubmits, hsubmitted, rfl⟩
    have hfinal : executor.finalInstructions params = .ret (.ok instructions) := hsubmits
    simp [GenericTradeExecutor.swap, hfinal, hsimulate, hwait, hsubmitted]

/-- **When a swap that waits succeeds**: exactly where it has submitted signatures, and polling
confirms one of them. What the tasks themselves have reported does not matter. -/
theorem confirmed_iff (hsimulate : params.simulate = false) (hwait : params.waitTransactionConfirmed = true)
    (hrpc : params.rpc = some rpc) :
    (executor.swap params sdk texts world schedule = some (.ok result) ∧ result.success = true) ↔
      ∃ instructions submitted signature, executor.Submits params instructions ∧
        executeParallel sdk (params.tradeArgs executor.protocolName instructions) world schedule =
          some (.ok submitted) ∧
        pollAnyTransactionConfirmation texts submitted.signatures true rpc.rounds = .ok signature ∧
        result = ⟨true, submitted.signatures, none⟩ := by
  rw [swap_waiting hsimulate hwait, hrpc]
  constructor
  · rintro ⟨⟨instructions, submitted, hsubmits, hsubmitted, rfl⟩, hsuccess⟩
    cases submitted with
    | error e => cases hsuccess
    | ok submitted =>
      by_cases hnil : submitted.signatures = []
      · rw [confirm_none hnil] at hsuccess
        exact absurd hnil (signatures_ne_nil rfl hsubmitted hsuccess)
      · rw [confirm_some hnil] at hsuccess ⊢
        cases hpoll : pollAnyTransactionConfirmation texts submitted.signatures true rpc.rounds with
        | error e =>
          rw [hpoll] at hsuccess
          cases hsuccess
        | ok signature => exact ⟨instructions, submitted, signature, hsubmits, hsubmitted, hpoll, rfl⟩
  · rintro ⟨instructions, submitted, signature, hsubmits, hsubmitted, hpoll, rfl⟩
    have hne : submitted.signatures ≠ [] := by
      intro hnil
      rw [hnil] at hpoll
      cases hpoll
    refine ⟨⟨instructions, .ok submitted, hsubmits, hsubmitted, ?_⟩, rfl⟩
    rw [confirm_some hne, hpoll]

/-- The second of two signatures is confirmed. -/
def secondConfirmed : PollRound where
  statuses := .ok [none, some ⟨none, some .confirmed⟩]
  details := fun _ => .ok none

/-- **A confirmed success is real.** A swap that waits for confirmation and succeeds has no error,
and the node has shown that one of the returned signatures succeeded, which is the signature of a
transaction that one of its tasks built, or the default of a task that built none. -/
theorem confirmed_sound (hsimulate : params.simulate = false) (hwait : params.waitTransactionConfirmed = true)
    (hrpc : params.rpc = some rpc) (h : executor.swap params sdk texts world schedule = some (.ok result))
    (hsuccess : result.success = true) : result.error = none ∧
      ∃ signature ∈ result.signatures, rpc.Confirms result.signatures signature ∧
        ∃ instructions, executor.Submits params instructions ∧
          ∃ task ∈ ((params.tradeArgs executor.protocolName instructions).launch sdk world).1,
            task.Origin sdk (params.tradeArgs executor.protocolName instructions) signature := by
  obtain ⟨instructions, submitted, signature, hsubmits, hsubmitted, hpoll, rfl⟩ :=
    (confirmed_iff hsimulate hwait hrpc).mp ⟨h, hsuccess⟩
  obtain ⟨hmem, hconfirms⟩ := confirmedBy_of_poll hpoll
  exact ⟨rfl, signature, hmem, hconfirms, instructions, hsubmits, submitted_origin rfl hsubmitted signature hmem⟩

/-- The second of two transactions is confirmed, though both services have refused them. -/
theorem confirmed_sound_refused :
    let rpc : RpcNode := ⟨fun _ => .ok none, [secondConfirmed]⟩
    let params := { sampleParams sampleArgs.swqosClients with rpc := some rpc }
    let world := sampleWorld fun _ _ => sampleNet 500 ""
    let result : SwapResult := ⟨true, [⟨4⟩, ⟨3⟩], none⟩
    sampleExecutor.swap params sampleSdk sampleClientSdk.toTexts world (sampleSchedule 0 1) = some (.ok result) ∧
      ∃ signature ∈ result.signatures, rpc.Confirms result.signatures signature := by
  intro rpc params world result
  have hswap : sampleExecutor.swap params sampleSdk sampleClientSdk.toTexts world (sampleSchedule 0 1) =
      some (.ok result) := by decide +kernel
  obtain ⟨-, signature, hmem, hconfirms, -⟩ := confirmed_sound rfl rfl rfl hswap rfl
  exact ⟨hswap, signature, hmem, hconfirms⟩

end Confirm

end PumpTrade
