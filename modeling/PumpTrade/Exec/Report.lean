import Mathlib.Algebra.Order.BigOperators.Group.Finset
import PumpTrade.Exec.Parallel

/-!
# Every task reports

A task that panics never submits, and the counter then stays below the number of tasks.

* `Sys.exists_tasksDone`: from every state the tasks can be run until none of them can take a step;
* `Sys.complete_iff`: where the tasks are done, all have reported exactly if none panics;
* **`everyTaskReports_iff`**: the arguments with which every spawned task reports once, in every
  run.
-/

namespace PumpTrade

open Base

/-- The steps that a task has left. -/
def TaskPc.stepsLeft : TaskPc → ℕ
  | running => 3
  | pushed => 2
  | flagged => 1
  | reported => 0

namespace Sys

variable {n : ℕ} {W : Type} {results : Fin n → Option TaskResult} {op : W → Option (WaiterOp W)}

/-- The steps that the tasks have left. -/
def stepsLeft (s : Sys n W) : ℕ := ∑ i, (s.pc i).stepsLeft

theorem taskStep_pc {s s' : Sys n W} {i : Fin n} {result : TaskResult}
    (h : s.taskStep i result = some s') :
    ∃ p : TaskPc, s'.pc = Function.update s.pc i p ∧ p.stepsLeft < (s.pc i).stepsLeft := by
  rcases taskStep_cases h with ⟨hpc, rfl⟩ | ⟨hpc, rfl⟩ | ⟨hpc, rfl⟩
  · exact ⟨.pushed, rfl, by rw [hpc]; decide⟩
  · exact ⟨.flagged, rfl, by rw [hpc]; decide⟩
  · exact ⟨.reported, rfl, by rw [hpc]; decide⟩

theorem step_stepsLeft {s s' : Sys n W} {i : Fin n} (h : s.step results op (.task i) = some s') :
    s'.stepsLeft < s.stepsLeft := by
  obtain ⟨result, -, htask⟩ := Option.bind_eq_some_iff.mp h
  obtain ⟨p, hpc, hlt⟩ := taskStep_pc htask
  refine Finset.sum_lt_sum (fun j _ => ?_) ⟨i, Finset.mem_univ i, ?_⟩
  · rw [hpc]
    by_cases hj : j = i
    · subst hj
      rw [Function.update_self]
      exact hlt.le
    · rw [Function.update_of_ne hj]
  · rwa [hpc, Function.update_self]

/-- The tasks can be run until they are done, whatever the waiter has done before. -/
theorem exists_tasksDone (results : Fin n → Option TaskResult) (op : W → Option (WaiterOp W))
    (s : Sys n W) : ∃ acts t, run (step results op) s acts = some t ∧ t.TasksDone results op := by
  obtain ⟨is, t, hrun, hstuck⟩ := exists_run_stuck (fun s i => step results op s (.task i)) stepsLeft
    (fun _ _ _ h => step_stepsLeft h) s
  exact ⟨is.map .task, t, (run_map Action.task (fun _ _ => rfl) s is).trans hrun, hstuck⟩

/-- Each task has pushed its result once, and the counter counts all of them. -/
def Complete (s : Sys n W) : Prop :=
  s.pushed.Perm (List.finRange n) ∧ s.collector.completedCount = s.collector.totalTasks

theorem complete_iff {s : Sys n W} (h : Inv results s) (hdone : s.TasksDone results op) :
    s.Complete ↔ ∀ i, (results i).isSome := by
  constructor
  · exact fun hcomplete i => h.hasResult i (hcomplete.1.mem_iff.mpr (List.mem_finRange i))
  · intro hall
    have hreported : ∀ i, s.pc i = .reported := fun i => tasksDone_iff.mp hdone i (hall i)
    have huniv : s.reported = Finset.univ := Finset.filter_true_of_mem fun i _ => hreported i
    refine ⟨h.pushed_perm fun i => by simp [hreported i], ?_⟩
    rw [h.count, h.totalTasks, huniv, Finset.card_univ, Fintype.card_fin]

end Sys

/-! ## The tasks of a trade -/

namespace TradeArgs

variable (args : TradeArgs)

/-- The trade has a blockhash: both fields of its durable nonce, or without one a recent
blockhash. -/
def HasLifetime : Prop :=
  match args.durableNonce with
  | some nonce => nonce.nonceAccount.isSome ∧ nonce.currentNonce.isSome
  | none => args.recentBlockhash.isSome

/-- The instructions that advance the nonce. -/
def nonceInstructions : List Instruction :=
  match args.durableNonce with
  | some ⟨some nonceAccount, _⟩ => [advanceNonceAccount nonceAccount args.payer.pubkey]
  | _ => []

theorem hasLifetime_iff : args.HasLifetime ↔
    ∃ blockhash, lifetime args.payer args.recentBlockhash args.durableNonce =
      some (args.nonceInstructions, blockhash) := by
  unfold HasLifetime nonceInstructions lifetime
  match args.durableNonce with
  | some ⟨some nonceAccount, some hash⟩ => simp
  | some ⟨some nonceAccount, none⟩ => simp
  | some ⟨none, currentNonce⟩ => simp
  | none => simp [Option.isSome_iff_exists]

theorem eq_nonceInstructions {instructions : List Instruction} {blockhash : Hash}
    (h : lifetime args.payer args.recentBlockhash args.durableNonce = some (instructions, blockhash)) :
    instructions = args.nonceInstructions := by
  unfold nonceInstructions
  unfold lifetime at h
  match hn : args.durableNonce, h with
  | some ⟨some nonceAccount, some hash⟩, h => exact (Prod.mk.inj (Option.some.inj h)).1.symm
  | none, h =>
    obtain ⟨hash, -, heq⟩ := Option.map_eq_some_iff.mp h
    exact (Prod.mk.inj heq).1.symm

end TradeArgs

section Reports

variable (sdk : Sdk) (args : TradeArgs)

/-- What the middlewares leave of the task's instructions compiles. -/
def Task.Compiles (task : Task) : Prop :=
  ∀ full, fullInstructions args.middlewareManager (args.nonceInstructions ++ task.body sdk args)
    args.protocolName args.isBuy = .ok full →
      sdk.compiles args.payer.pubkey full args.addressLookupTableAccount

/-- In every run beside the waiter, the tasks can be run to the end from wherever they are, and
where they have come to their end each of them has reported once. -/
def EveryTaskReports {W : Type} (op : W → Option (WaiterOp W)) (waiter : W) (tasks : List Task) : Prop :=
  ∀ acts s, runTasks sdk args op waiter tasks acts = some s →
    (∃ more t, run (Sys.step (taskResults sdk args tasks) op) s more = some t ∧
      t.TasksDone (taskResults sdk args tasks) op) ∧
    (s.TasksDone (taskResults sdk args tasks) op → s.Complete)

variable {sdk args}

theorem runTasks_eq_some {W : Type} {op : W → Option (WaiterOp W)} {waiter : W} {tasks : List Task}
    {acts : List (Action tasks.length)} {s : Sys tasks.length W} :
    runTasks sdk args op waiter tasks acts = some s ↔
      ∃ collector, ResultCollector.new tasks.length = .ret collector ∧
        run (Sys.step (taskResults sdk args tasks) op) (Sys.start _ collector waiter) acts = some s := by
  unfold runTasks
  cases ResultCollector.new tasks.length with
  | panic msg => simp
  | ret collector => simp

theorem runTasks_inv {W : Type} {op : W → Option (WaiterOp W)} {waiter : W} {tasks : List Task}
    {acts : List (Action tasks.length)} {s : Sys tasks.length W}
    (h : runTasks sdk args op waiter tasks acts = some s) : Sys.Inv (taskResults sdk args tasks) s := by
  obtain ⟨collector, hnew, hrun⟩ := runTasks_eq_some.mp h
  exact Sys.run_inv (Sys.start_inv hnew waiter) hrun

theorem Task.report_isSome_iff {task : Task} : ((task.report sdk args).value?).isSome ↔
    args.HasLifetime ∧ task.Compiles sdk args := by
  have hreturns : ((task.report sdk args).value?).isSome ↔ ∃ r, task.build sdk args = .ret r := by
    unfold Task.report
    cases task.build sdk args with
    | panic msg => simp
    | ret r => cases r <;> simp
  rw [hreturns]
  constructor
  · rintro ⟨r, hr⟩
    obtain ⟨nonceInstructions, blockhash, hlife, hcompiles⟩ := buildTransaction_returns_iff.mp ⟨r, hr⟩
    obtain rfl := args.eq_nonceInstructions hlife
    exact ⟨args.hasLifetime_iff.mpr ⟨blockhash, hlife⟩, hcompiles⟩
  · rintro ⟨hlife, hcompiles⟩
    obtain ⟨blockhash, hlife⟩ := args.hasLifetime_iff.mp hlife
    exact buildTransaction_returns_iff.mpr ⟨args.nonceInstructions, blockhash, hlife, hcompiles⟩

/-- Every task reports in every run exactly if each has a result: a run to the end of the tasks
shows it. -/
theorem everyTaskReports_iff_results {W : Type} {op : W → Option (WaiterOp W)} {waiter : W}
    {tasks : List Task} (hpos : 0 < tasks.length) : EveryTaskReports sdk args op waiter tasks ↔
      ∀ i, (taskResults sdk args tasks i).isSome := by
  constructor
  · intro h
    obtain ⟨collector, hnew⟩ := ResultCollector.exists_new hpos
    obtain ⟨acts, s, hrun, hdone⟩ := Sys.exists_tasksDone (taskResults sdk args tasks) op
      (Sys.start _ collector waiter)
    have htasks : runTasks sdk args op waiter tasks acts = some s :=
      runTasks_eq_some.mpr ⟨collector, hnew, hrun⟩
    exact (Sys.complete_iff (runTasks_inv htasks) hdone).mp ((h acts s htasks).2 hdone)
  · intro hall acts s hrun
    exact ⟨Sys.exists_tasksDone _ op s, fun hdone => (Sys.complete_iff (runTasks_inv hrun) hdone).mpr hall⟩

/-- **Every spawned task reports.** Where the call waits for its tasks, each of them submits its
result once in every run, and the counter reaches the number of tasks, exactly if the trade has a
blockhash and the instructions of every task, after the middlewares, compile. -/
theorem everyTaskReports_iff {W : Type} (sdk : Sdk) (args : TradeArgs) (world : World)
    (op : W → Option (WaiterOp W)) (waiter : W) (tasks : List Task)
    (hlaunch : args.launch sdk world = (tasks, none)) :
    EveryTaskReports sdk args op waiter tasks ↔
      args.HasLifetime ∧ ∀ task ∈ tasks, task.Compiles sdk args := by
  have hpos := launch_length_pos hlaunch
  rw [everyTaskReports_iff_results hpos]
  constructor
  · intro h
    refine ⟨(Task.report_isSome_iff.mp (h ⟨0, hpos⟩)).1, fun task htask => ?_⟩
    obtain ⟨i, rfl⟩ := List.get_of_mem htask
    exact (Task.report_isSome_iff.mp (h i)).2
  · exact fun h i => Task.report_isSome_iff.mpr ⟨h.1, h.2 _ (List.get_mem tasks i)⟩

/-- With a recent blockhash the task of a sell without a tip reports. -/
theorem everyTaskReports_iff_sell :
    let args := { sampleArgs with withTip := false, recentBlockhash := some ⟨5⟩ }
    let world := sampleWorld fun _ _ => sampleNet 200 ""
    (args.launch sampleSdk world).1.length = 1 ∧
      EveryTaskReports sampleSdk args AllWaiter.op .loadCompleted (args.launch sampleSdk world).1 := by
  intro args world
  have hlen : (args.launch sampleSdk world).1.length = 1 := by decide
  have hnone : (args.launch sampleSdk world).2 = none := by decide
  have hlaunch : args.launch sampleSdk world = ((args.launch sampleSdk world).1, none) := by
    rw [← hnone]
  refine ⟨hlen, (everyTaskReports_iff sampleSdk args world AllWaiter.op .loadCompleted _ hlaunch).mpr ?_⟩
  exact ⟨rfl, fun _ _ _ _ => rfl⟩

/-- Without any blockhash, as a request has it by default, the task of a sell never reports: the
caller waits for the timeout and is told that nothing came back. -/
theorem sell_without_blockhash :
    let args := { sampleArgs with withTip := false }
    let world := sampleWorld fun _ _ => sampleNet 200 ""
    args.recentBlockhash = none ∧ args.durableNonce = none ∧
      (args.launch sampleSdk world).1.length = 1 ∧ (args.launch sampleSdk world).2 = none ∧
      ¬ EveryTaskReports sampleSdk args AllWaiter.op .loadCompleted (args.launch sampleSdk world).1 ∧
      executeParallel sampleSdk args world (fun _ => [.waiter false, .waiter true, .waiter false]) =
        some (.ok noResult) := by
  intro args world
  have hlen : (args.launch sampleSdk world).1.length = 1 := by decide
  refine ⟨rfl, rfl, hlen, by decide, fun hall => ?_, by decide⟩
  have hpos : 0 < (args.launch sampleSdk world).1.length := by rw [hlen]; exact Nat.one_pos
  have hreport := (everyTaskReports_iff_results hpos).mp hall ⟨0, hpos⟩
  have hlife : args.HasLifetime := (Task.report_isSome_iff.mp hreport).1
  cases hlife

end Reports

end PumpTrade
