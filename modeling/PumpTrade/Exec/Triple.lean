import PumpTrade.Exec.Report
import PumpTrade.Exec.Wait

/-!
# The result of a trade

What the call returns without waiting for confirmation, against its documentation: whether a
transaction succeeded, the signatures of all submitted transactions in the order of the services,
and the last error where all failed.

* `completionOrder`, `Sys.run_pushed`: the order in which the tasks push, read off the schedule;
* `Documented`: the documented result for the outcomes of the tasks;
* **`documented_iff`**: when the returned result is the documented one.
-/

namespace PumpTrade

open Base

/-! ## The order of completion -/

section Order

variable {n : ℕ}

/-- The tasks after one more action, each where it first acts. -/
def pushOrder (order : List (Fin n)) : Action n → List (Fin n)
  | .task i => if i ∈ order then order else order ++ [i]
  | .waiter _ => order

/-- The tasks in the order of their first actions. -/
def completionOrder (acts : List (Action n)) : List (Fin n) := acts.foldl pushOrder []

variable {W : Type} {results : Fin n → Option TaskResult} {op : W → Option (WaiterOp W)}

theorem Sys.step_pushed {s s' : Sys n W} {a : Action n} (h : Inv results s)
    (hstep : s.step results op a = some s') : s'.pushed = pushOrder s.pushed a := by
  cases a with
  | task i =>
    obtain ⟨result, -, htask⟩ := Option.bind_eq_some_iff.mp hstep
    have hmem := h.mem_pushed i
    rcases taskStep_cases htask with ⟨hpc, rfl⟩ | ⟨hpc, rfl⟩ | ⟨hpc, rfl⟩
    · exact (if_neg fun hi => hmem.mp hi hpc).symm
    · exact (if_pos (hmem.mpr (by simp [hpc]))).symm
    · exact (if_pos (hmem.mpr (by simp [hpc]))).symm
  | waiter elapsed =>
    obtain ⟨o, -, rfl⟩ := Option.map_eq_some_iff.mp hstep
    rcases waiterStep_cases s elapsed o with ⟨w, hw⟩ | ⟨k, result, rest, -, -, hw⟩
    · rw [hw]
      rfl
    · rw [hw]
      rfl

theorem Sys.run_pushed {s s' : Sys n W} {acts : List (Action n)} (h : Inv results s)
    (hrun : run (step results op) s acts = some s') : s'.pushed = acts.foldl pushOrder s.pushed := by
  induction acts generalizing s with
  | nil => rw [← Option.some.inj hrun]; rfl
  | cons a acts ih =>
    obtain ⟨t, ha, hrun⟩ := run_cons_eq_some.mp hrun
    rw [ih (step_inv h ha) hrun, step_pushed h ha]
    rfl

end Order

/-! ## What the tasks come to -/

namespace Task

variable (sdk : Sdk) (args : TradeArgs) (task : Task)

/-- The task builds its transaction. -/
def Builds : Prop := ∃ transaction, task.build sdk args = .ret (.ok transaction)

/-- The task builds its transaction, and sending it succeeds. -/
def Succeeds : Prop :=
  ∃ transaction, task.build sdk args = .ret (.ok transaction) ∧ task.send args transaction = .ok ()

/-- The signature of the transaction that is handed to the client. -/
def sentSignature : Option Signature :=
  match task.build sdk args with
  | .ret (.ok transaction) => some (transaction.signatures.head?.getD default)
  | _ => none

variable {sdk args task}

theorem sentSignature_isSome : (task.sentSignature sdk args).isSome ↔ task.Builds sdk args := by
  unfold sentSignature Builds
  split
  · next transaction h => simp [h]
  · next h => simpa using fun transaction => h transaction

theorem report_spec {result : TaskResult} (h : task.report sdk args = .ret result) :
    (result.success = true ↔ task.Succeeds sdk args) ∧
      (result.error.isSome ↔ ¬ task.Succeeds sdk args) ∧
      ∀ signature, task.sentSignature sdk args = some signature → result.signature = signature := by
  rcases report_eq_ret.mp h with ⟨e, he, rfl⟩ | ⟨transaction, htx, rfl⟩
  · have hfails : ¬ task.Succeeds sdk args := by
      rintro ⟨transaction, hbuild, -⟩
      rw [he] at hbuild
      cases hbuild
    refine ⟨⟨nofun, fun hs => absurd hs hfails⟩, ⟨fun _ => hfails, fun _ => rfl⟩, fun signature hs => ?_⟩
    rw [sentSignature, he] at hs
    cases hs
  · have hsends : task.Succeeds sdk args ↔ task.send args transaction = .ok () := by
      constructor
      · rintro ⟨transaction', hbuild, hsend⟩
        rw [htx] at hbuild
        obtain rfl := Except.ok.inj (Outcome.ret.inj hbuild)
        exact hsend
      · exact fun hsend => ⟨transaction, htx, hsend⟩
    rw [hsends]
    refine ⟨?_, ?_, fun signature hs => ?_⟩
    · unfold sent
      cases task.send args transaction <;> simp
    · unfold sent
      cases task.send args transaction <;> simp
    · rw [sentSignature, htx] at hs
      exact Option.some.inj hs

end Task

/-- The documented result: success when a task succeeded, the signatures of the transactions that
were handed to the clients in the order of the tasks, an error only when all tasks failed. -/
structure Documented (sdk : Sdk) (args : TradeArgs) (tasks : List Task) (result : SwapResult) : Prop where
  success : result.success = true ↔ ∃ task ∈ tasks, task.Succeeds sdk args
  signatures : result.signatures = tasks.filterMap (Task.sentSignature sdk args)
  error : result.error.isSome → ∀ task ∈ tasks, ¬ task.Succeeds sdk args

section Returned

variable {sdk : Sdk} {args : TradeArgs} {tasks : List Task} {acts : List (Action tasks.length)}
  {s : Sys tasks.length AllWaiter} {result : Option SwapResult}

/-- What is returned by the counter: what `get_first` makes of the reports, in the order of
completion. -/
theorem runTasks_returned (hrun : runTasks sdk args AllWaiter.op .loadCompleted tasks acts = some s)
    (hret : s.waiter = .returned false result) :
    ∃ r : Fin tasks.length → TaskResult, (∀ i, (tasks.get i).report sdk args = .ret (r i)) ∧
      (completionOrder acts).Perm (List.finRange tasks.length) ∧
      result = (Drained.of ((completionOrder acts).map r)).finish := by
  obtain ⟨collector, hnew, hsys⟩ := runTasks_eq_some.mp hrun
  obtain ⟨-, hperm, hsome, hresult⟩ := Sys.returned_counted hnew hsys hret
  have horder : s.pushed = completionOrder acts := Sys.run_pushed (Sys.start_inv hnew _) hsys
  choose r hr using fun i => Option.isSome_iff_exists.mp (hsome i)
  refine ⟨r, fun i => Outcome.value?_eq_some.mp (hr i), horder ▸ hperm, ?_⟩
  rw [hresult, ← horder, ← pushedResults_eq r s]
  exact congrArg (fun results => (Drained.of (s.pushedResults results)).finish) (funext hr)

/-- Some report in the order of completion is as some task is, whatever the order. -/
theorem exists_completed_iff {order : List (Fin tasks.length)} {r : Fin tasks.length → TaskResult}
    (hperm : order.Perm (List.finRange tasks.length)) (p : TaskResult → Prop) (q : Task → Prop)
    (hpq : ∀ i, p (r i) ↔ q (tasks.get i)) : (∃ t ∈ order.map r, p t) ↔ ∃ task ∈ tasks, q task := by
  constructor
  · rintro ⟨t, ht, hp⟩
    obtain ⟨i, -, rfl⟩ := List.mem_map.mp ht
    exact ⟨_, List.get_mem tasks i, (hpq i).mp hp⟩
  · rintro ⟨task, htask, hq⟩
    obtain ⟨i, rfl⟩ := List.get_of_mem htask
    exact ⟨r i, List.mem_map_of_mem (hperm.mem_iff.mpr (List.mem_finRange i)), (hpq i).mpr hq⟩

/-- The documented signatures: where all transactions are built, the completion order has to give
the same signatures as the order of the tasks. -/
theorem signatures_iff {order : List (Fin tasks.length)} {r : Fin tasks.length → TaskResult}
    (hr : ∀ i, (tasks.get i).report sdk args = .ret (r i)) (hperm : order.Perm (List.finRange tasks.length)) :
    (order.map r).map TaskResult.signature = tasks.filterMap (Task.sentSignature sdk args) ↔
      (∀ task ∈ tasks, task.Builds sdk args) ∧
        order.map (fun i => (tasks.get i).sentSignature sdk args) =
          tasks.map (Task.sentSignature sdk args) := by
  have hall : (∀ task ∈ tasks, task.Builds sdk args) →
      ((tasks.filterMap (Task.sentSignature sdk args)).map some = tasks.map (Task.sentSignature sdk args) ∧
        ((order.map r).map TaskResult.signature).map some =
          order.map fun i => (tasks.get i).sentSignature sdk args) := fun hbuilds => by
    have hsome : ∀ task ∈ tasks, (task.sentSignature sdk args).isSome := fun task htask =>
      Task.sentSignature_isSome.mpr (hbuilds task htask)
    constructor
    · rw [List.map_filterMap_some_eq_filter_map_isSome, List.filter_eq_self]
      simpa using hsome
    · rw [List.map_map, List.map_map]
      refine List.map_congr_left fun i _ => ?_
      obtain ⟨signature, hs⟩ := Option.isSome_iff_exists.mp (hsome _ (List.get_mem tasks i))
      change some (r i).signature = _
      rw [hs, (Task.report_spec (hr i)).2.2 signature hs]
  constructor
  · intro heq
    have hlen : (tasks.filterMap (Task.sentSignature sdk args)).length = tasks.length := by
      rw [← heq, List.length_map, List.length_map, hperm.length_eq, List.length_finRange]
    have hbuilds : ∀ task ∈ tasks, task.Builds sdk args := fun task htask =>
      Task.sentSignature_isSome.mp (List.filterMap_length_eq_length.mp hlen task htask)
    refine ⟨hbuilds, ?_⟩
    rw [← (hall hbuilds).2, heq, (hall hbuilds).1]
  · rintro ⟨hbuilds, heq⟩
    refine List.map_injective_iff.mpr (Option.some_injective Signature) ?_
    rw [(hall hbuilds).1, (hall hbuilds).2, heq]

/-- **The documented result.** Where the call returns because all tasks have reported, its result is
the documented one exactly if every transaction is built, the tasks complete in an order that lists
the signatures like the order of the tasks, and sending succeeds for all tasks or for none. -/
theorem documented_iff (world : World) (schedule : (n : ℕ) → List (Action n))
    (hwait : args.waitTransactionConfirmed = false) (hlaunch : args.launch sdk world = (tasks, none))
    (hrun : runTasks sdk args AllWaiter.op .loadCompleted tasks (schedule tasks.length) = some s)
    (hret : s.waiter = .returned false result) :
    ∃ swap, executeParallel sdk args world schedule = some (.ok swap) ∧
      (Documented sdk args tasks swap ↔
        (∀ task ∈ tasks, task.Builds sdk args) ∧
        (completionOrder (schedule tasks.length)).map (fun i => (tasks.get i).sentSignature sdk args) =
          tasks.map (Task.sentSignature sdk args) ∧
        ((∀ task ∈ tasks, task.Succeeds sdk args) ∨ ∀ task ∈ tasks, ¬ task.Succeeds sdk args)) := by
  obtain ⟨r, hr, hperm, hresult⟩ := runTasks_returned hrun hret
  have hne : (completionOrder (schedule tasks.length)).map r ≠ [] := by
    rw [Ne, List.map_eq_nil_iff]
    intro hnil
    have hlen := hperm.length_eq
    rw [hnil, List.length_finRange] at hlen
    exact absurd hlen (launch_length_pos hlaunch).ne
  obtain ⟨-, hsuccess, herror⟩ := Drained.of_spec ((completionOrder (schedule tasks.length)).map r)
  rw [Drained.finish_of, if_neg hne] at hresult
  refine ⟨result.getD noResult, ?_, ?_⟩
  · rw [executeParallel_eq_ok hwait, hlaunch]
    exact ⟨rfl, s, false, result, hrun, hret, rfl⟩
  rw [exists_completed_iff hperm (fun t => t.success = true) _ fun i => (Task.report_spec (hr i)).1] at hsuccess
  rw [exists_completed_iff hperm (fun t => t.error.isSome = true) (fun task => ¬ task.Succeeds sdk args)
    fun i => (Task.report_spec (hr i)).2.1] at herror
  rw [hresult]
  constructor
  · rintro ⟨-, hsig, herr⟩
    obtain ⟨hbuilds, horder⟩ := (signatures_iff hr hperm).mp hsig
    refine ⟨hbuilds, horder, ?_⟩
    by_cases hfail : ∃ task ∈ tasks, ¬ task.Succeeds sdk args
    · exact Or.inr (herr (herror.mpr hfail))
    · exact Or.inl fun task htask => not_not.mp fun hnot => hfail ⟨task, htask, hnot⟩
  · rintro ⟨hbuilds, horder, hsends⟩
    refine ⟨hsuccess, (signatures_iff hr hperm).mpr ⟨hbuilds, horder⟩, fun herr => ?_⟩
    rcases hsends with hsucceed | hfail
    · obtain ⟨task, htask, hnot⟩ := herror.mp herr
      exact absurd (hsucceed task htask) hnot
    · exact hfail

end Returned

/-- Two tasks that report, the one with index `first` before the other, and a waiter that returns
after them. -/
def sampleSchedule (first second : Fin 2) : (n : ℕ) → List (Action n)
  | 2 => [.task first, .task first, .task first, .task second, .task second, .task second,
      .waiter false, .waiter false, .waiter false, .waiter false]
  | _ => []

/-- Two accepted transactions, reported in order: the documented result. -/
theorem documented_iff_in_order :
    let args := { sampleArgs with recentBlockhash := some ⟨5⟩ }
    let world := sampleWorld fun _ _ => sampleNet 200 ""
    ∃ swap, executeParallel sampleSdk args world (sampleSchedule 0 1) = some (.ok swap) ∧
      Documented sampleSdk args (args.launch sampleSdk world).1 swap := by
  intro args world
  have hnone : (args.launch sampleSdk world).2 = none := by decide
  have hlaunch : args.launch sampleSdk world = ((args.launch sampleSdk world).1, none) := by
    rw [← hnone]
  have hwaiter : (runTasks sampleSdk args AllWaiter.op .loadCompleted (args.launch sampleSdk world).1
      (sampleSchedule 0 1 _)).map Sys.waiter = some (.returned false (some ⟨true, [⟨4⟩, ⟨3⟩], none⟩)) := by
    decide +kernel
  obtain ⟨s, hrun, hret⟩ := Option.map_eq_some_iff.mp hwaiter
  obtain ⟨swap, hswap, hdoc⟩ := documented_iff world (sampleSchedule 0 1) rfl hlaunch hrun hret
  have hreports : ∀ task ∈ (args.launch sampleSdk world).1,
      ((task.report sampleSdk args).value?.map TaskResult.success) = some true := by
    decide +kernel
  have hsucceeds : ∀ task ∈ (args.launch sampleSdk world).1, task.Succeeds sampleSdk args := by
    intro task htask
    obtain ⟨result, hresult, hsuccess⟩ := Option.map_eq_some_iff.mp (hreports task htask)
    exact (Task.report_spec (Outcome.value?_eq_some.mp hresult)).1.mp hsuccess
  refine ⟨swap, hswap, hdoc.mpr ⟨fun task htask => ?_, by decide +kernel, Or.inl hsucceeds⟩⟩
  obtain ⟨transaction, hbuild, -⟩ := hsucceeds task htask
  exact ⟨transaction, hbuild⟩

/-- Jito cannot be reached and the RPC node, done first, takes its transaction: the result comes
with an error though a transaction succeeded, and lists the signature of the RPC node's transaction
first. -/
theorem one_success_not_documented :
    let args := { sampleArgs with recentBlockhash := some ⟨5⟩ }
    let unreachable : HttpReply := .sendError (.other "connection refused")
    let world := sampleWorld fun _ _ => { sampleNet 200 "" with http := unreachable }
    args.waitTransactionConfirmed = false ∧ (args.launch sampleSdk world).2 = none ∧
    executeParallel sampleSdk args world (sampleSchedule 1 0) =
      some (.ok ⟨true, [⟨3⟩, ⟨4⟩], some (.other "connection refused")⟩) ∧
    ¬ Documented sampleSdk args (args.launch sampleSdk world).1
      ⟨true, [⟨3⟩, ⟨4⟩], some (.other "connection refused")⟩ := by
  intro args unreachable world
  refine ⟨rfl, by decide, by decide +kernel, fun hdoc => ?_⟩
  obtain ⟨task, htask, hsucceeds⟩ := hdoc.success.mp rfl
  exact hdoc.error rfl task htask hsucceeds

end PumpTrade
