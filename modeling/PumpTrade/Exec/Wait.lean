import PumpTrade.Exec.Tasks

/-!
# Waiting for all tasks

What `wait_for_all_submitted` returns, for any number of tasks and any interleaving of their
submissions with its loads and pops.

* `Drained.of`: the local variables of the draining loop after a list of results;
* `Sys.AllInv`: at every moment the waiter has drained the results popped so far;
* `Sys.returned_counted`, `Sys.returned_taken`: what was returned, by the counter and however the
  loop ended;
* **`waitForAllSubmitted_exact`**: nothing is lost and nothing is returned twice.
-/

namespace PumpTrade

open Base

namespace Drained

/-- The local variables after a list of results. -/
def of (l : List TaskResult) : Drained := l.foldl add empty

theorem of_append (l : List TaskResult) (result : TaskResult) : of (l ++ [result]) = (of l).add result := by
  simp [of]

theorem of_spec (l : List TaskResult) : (of l).signatures = l.map TaskResult.signature ∧
    ((of l).hasSuccess = true ↔ ∃ r ∈ l, r.success = true) ∧
    ((of l).lastError.isSome ↔ ∃ r ∈ l, r.error.isSome) := by
  induction l using List.reverseRecOn with
  | nil => simp [of, empty]
  | append_singleton l result ih =>
    obtain ⟨h1, h2, h3⟩ := ih
    rw [of_append]
    refine ⟨by simp [add, h1], ?_, ?_⟩
    · simp only [add, List.mem_append, List.mem_singleton, or_and_right, exists_or, exists_eq_left, ← h2]
      cases result.success <;> simp
    · simp only [add, List.mem_append, List.mem_singleton, or_and_right, exists_or, exists_eq_left, ← h3]
      cases h : result.error <;> simp

theorem finish_of (l : List TaskResult) : (of l).finish =
    if l = [] then none
    else some ⟨(of l).hasSuccess, l.map TaskResult.signature, (of l).lastError⟩ := by
  have h := (of_spec l).1
  unfold finish
  rw [h]
  cases l <;> simp

end Drained

namespace Sys

variable {n : ℕ} {results : Fin n → Option TaskResult}

/-- The results popped so far. -/
def taken {W : Type} (results : Fin n → Option TaskResult) (s : Sys n W) : List TaskResult :=
  (s.pushedResults results).take s.popped

/-- The invariant of the waiter. -/
def AllInv (results : Fin n → Option TaskResult) (s : Sys n AllWaiter) : Prop :=
  match s.waiter with
  | .loadCompleted => s.popped = 0
  | .readClock => s.popped = 0
  | .draining timedOut d => d = Drained.of (s.taken results) ∧ (timedOut = false → ∀ i, s.pc i = .reported)
  | .returned timedOut result => result = (Drained.of (s.taken results)).finish ∧
      (timedOut = false → (∀ i, s.pc i = .reported) ∧ s.popped = (s.pushedResults results).length)

/-- A task's step leaves the waiter and what was popped, and is not made by a task that has
reported. -/
theorem taskStep_frame {W : Type} {s s' : Sys n W} {i : Fin n} {result : TaskResult}
    (h : s.taskStep i result = some s') : s.pc i ≠ .reported ∧ s'.waiter = s.waiter ∧
      s'.popped = s.popped ∧ ∃ more, s'.pushed = s.pushed ++ more := by
  rcases taskStep_cases h with ⟨hpc, rfl⟩ | ⟨hpc, rfl⟩ | ⟨hpc, rfl⟩
  · exact ⟨by simp [hpc], rfl, rfl, [i], rfl⟩
  · exact ⟨by simp [hpc], rfl, rfl, [], (List.append_nil _).symm⟩
  · exact ⟨by simp [hpc], rfl, rfl, [], (List.append_nil _).symm⟩

theorem taken_append {W : Type} {s s' : Sys n W} (h : Inv results s) (hpop : s'.popped = s.popped)
    {more : List (Fin n)} (hpush : s'.pushed = s.pushed ++ more) : s'.taken results = s.taken results := by
  unfold taken pushedResults
  rw [hpush, hpop, List.filterMap_append]
  exact List.take_append_of_le_length h.popped_le

theorem taskStep_allInv {s s' : Sys n AllWaiter} {i : Fin n} {result : TaskResult} (h : Inv results s)
    (hI : AllInv results s) (hstep : s.taskStep i result = some s') : AllInv results s' := by
  obtain ⟨hpc, hwaiter, hpop, more, hpush⟩ := taskStep_frame hstep
  have htaken := taken_append h hpop hpush
  unfold AllInv at hI ⊢
  rw [hwaiter, htaken, hpop]
  cases hw : s.waiter with
  | loadCompleted => rwa [hw] at hI
  | readClock => rwa [hw] at hI
  | draining timedOut d =>
    rw [hw] at hI
    exact ⟨hI.1, fun ht => absurd (hI.2 ht i) hpc⟩
  | returned timedOut result =>
    rw [hw] at hI
    exact ⟨hI.1, fun ht => absurd ((hI.2 ht).1 i) hpc⟩

theorem waiterStep_allInv {s : Sys n AllWaiter} (h : Inv results s) (hI : AllInv results s)
    (elapsed : Bool) {o : WaiterOp AllWaiter} (ho : AllWaiter.op s.waiter = some o) :
    AllInv results (s.waiterStep elapsed o) := by
  have hnone : s.popped = 0 → Drained.empty = Drained.of (s.taken results) := fun h0 => by
    simp [taken, h0, Drained.of]
  unfold AllInv at hI
  cases hw : s.waiter with
  | loadCompleted =>
    rw [hw] at hI ho
    obtain rfl := Option.some.inj ho
    by_cases hlt : s.collector.completedCount < s.collector.totalTasks
    · simpa [waiterStep, AllInv, hlt] using hI
    · have hfull : n ≤ s.collector.completedCount := by
        have := h.totalTasks
        omega
      simp only [waiterStep, AllInv, if_neg hlt]
      exact ⟨hnone hI, fun _ => h.all_reported hfull⟩
  | readClock =>
    rw [hw] at hI ho
    obtain rfl := Option.some.inj ho
    cases elapsed with
    | false => simpa [waiterStep, AllInv] using hI
    | true => exact ⟨hnone hI, fun ht => Bool.noConfusion ht⟩
  | draining timedOut d =>
    rw [hw] at hI ho
    obtain rfl := Option.some.inj ho
    cases hpop : s.collector.results.pop with
    | none =>
      simp only [waiterStep, hpop, AllInv]
      exact ⟨congrArg Drained.finish hI.1, fun ht => ⟨hI.2 ht, h.of_pop_eq_none hpop⟩⟩
    | some p =>
      obtain ⟨-, hnext, -⟩ := h.of_pop hpop
      simp only [waiterStep, hpop, AllInv]
      refine ⟨?_, hI.2⟩
      change d.add p.1 = Drained.of ((s.pushedResults results).take (s.popped + 1))
      rw [hnext, Drained.of_append, ← taken, ← hI.1]
  | returned timedOut result =>
    rw [hw] at ho
    cases ho

/-- **Every step** keeps both invariants. -/
theorem step_allInv {s s' : Sys n AllWaiter} {a : Action n} (h : Inv results s ∧ AllInv results s)
    (hstep : s.step results AllWaiter.op a = some s') : Inv results s' ∧ AllInv results s' := by
  refine ⟨step_inv h.1 hstep, ?_⟩
  cases a with
  | task i =>
    obtain ⟨result, -, htask⟩ := Option.bind_eq_some_iff.mp hstep
    exact taskStep_allInv h.1 h.2 htask
  | waiter elapsed =>
    obtain ⟨o, ho, rfl⟩ := Option.map_eq_some_iff.mp hstep
    exact waiterStep_allInv h.1 h.2 elapsed ho

theorem run_allInv {collector : ResultCollector} (hnew : ResultCollector.new n = .ret collector)
    {acts : List (Action n)} {s : Sys n AllWaiter}
    (hrun : run (step results AllWaiter.op) (start n collector .loadCompleted) acts = some s) :
    Inv results s ∧ AllInv results s := by
  have hstart : AllInv results (start n collector .loadCompleted) := Eq.refl (0 : ℕ)
  exact Base.run_inv (I := fun s => Inv results s ∧ AllInv results s)
    (fun _ _ _ hI hstep => step_allInv hI hstep) ⟨start_inv hnew _, hstart⟩ hrun

/-- **By the counter**: every task has reported, and the waiter returns what `get_first` makes of
all results in the order they were pushed. -/
theorem returned_counted {collector : ResultCollector} (hnew : ResultCollector.new n = .ret collector)
    {acts : List (Action n)} {s : Sys n AllWaiter} {result : Option SwapResult}
    (hrun : run (step results AllWaiter.op) (start n collector .loadCompleted) acts = some s)
    (hret : s.waiter = .returned false result) :
    (∀ i, s.pc i = .reported) ∧ s.pushed.Perm (List.finRange n) ∧ (∀ i, (results i).isSome) ∧
      result = (Drained.of (s.pushedResults results)).finish := by
  obtain ⟨h, hI⟩ := run_allInv hnew hrun
  unfold AllInv at hI
  rw [hret] at hI
  obtain ⟨hresult, hcount⟩ := hI
  obtain ⟨hall, hpopped⟩ := hcount rfl
  have hperm := h.pushed_perm fun i => by simp [hall i]
  refine ⟨hall, hperm, fun i => h.hasResult i (hperm.mem_iff.mpr (List.mem_finRange i)), ?_⟩
  rwa [taken, hpopped, List.take_length] at hresult

/-- **However it ends**: what `get_first` makes of the results that were popped. -/
theorem returned_taken {collector : ResultCollector} (hnew : ResultCollector.new n = .ret collector)
    {acts : List (Action n)} {s : Sys n AllWaiter} {timedOut : Bool} {result : Option SwapResult}
    (hrun : run (step results AllWaiter.op) (start n collector .loadCompleted) acts = some s)
    (hret : s.waiter = .returned timedOut result) : result = (Drained.of (s.taken results)).finish := by
  obtain ⟨-, hI⟩ := run_allInv hnew hrun
  unfold AllInv at hI
  rw [hret] at hI
  exact hI.1

end Sys

/-! ## Tasks that all report -/

section Exact

variable {n : ℕ} (r : Fin n → TaskResult)

theorem pushedResults_eq (s : Sys n AllWaiter) :
    s.pushedResults (fun i => some (r i)) = s.pushed.map r := by
  unfold Sys.pushedResults
  rw [← List.filterMap_eq_map]
  rfl

/-- The signatures returned, none where nothing is returned. -/
def returnedSignatures (result : Option SwapResult) : List Signature :=
  (result.map SwapResult.signatures).getD []

theorem returnedSignatures_finish (l : List TaskResult) :
    returnedSignatures (Drained.of l).finish = l.map TaskResult.signature := by
  rw [Drained.finish_of]
  cases l <;> simp [returnedSignatures]

/-- **The collector loses and duplicates nothing.** For any number of tasks, any results and any
interleaving: where the waiting loop ends by the counter, what is returned has exactly the submitted
signatures, succeeds when a task did and has an error when a task had one; where it ends by the
timeout, it has the signatures of different tasks that have pushed. -/
theorem waitForAllSubmitted_exact (collector : ResultCollector)
    (hnew : ResultCollector.new n = .ret collector) (acts : List (Action n)) (s : Sys n AllWaiter)
    (hrun : run (Sys.step (fun i => some (r i)) AllWaiter.op) (Sys.start n collector .loadCompleted) acts =
      some s) :
    (∀ result, s.waiter = .returned false result → ∃ swap, result = some swap ∧
      swap.signatures.Perm ((List.finRange n).map fun i => (r i).signature) ∧
      (swap.success = true ↔ ∃ i, (r i).success = true) ∧
      (swap.error.isSome ↔ ∃ i, (r i).error.isSome)) ∧
    (∀ result, s.waiter = .returned true result → ∃ chosen : List (Fin n), chosen.Nodup ∧
      (∀ i ∈ chosen, s.pc i ≠ .running) ∧
      returnedSignatures result = chosen.map fun i => (r i).signature) := by
  constructor
  · intro result hret
    obtain ⟨-, hperm, -, hresult⟩ := Sys.returned_counted hnew hrun hret
    rw [pushedResults_eq, Drained.finish_of] at hresult
    obtain ⟨q, hq, -⟩ := Outcome.bind_eq_ret.mp hnew
    have hn := (ArrayQueue.new_eq_ret.mp hq).1
    have hne : s.pushed.map r ≠ [] := by
      have hmem : (⟨0, hn⟩ : Fin n) ∈ s.pushed := hperm.mem_iff.mpr (List.mem_finRange _)
      exact List.ne_nil_of_mem (List.mem_map_of_mem hmem)
    have hmem : ∀ p : TaskResult → Prop, (∃ t ∈ s.pushed.map r, p t) ↔ ∃ i, p (r i) := fun p => by
      simp [hperm.mem_iff]
    obtain ⟨-, hsuccess, herror⟩ := Drained.of_spec (s.pushed.map r)
    rw [if_neg hne] at hresult
    refine ⟨_, hresult, ?_, ?_, ?_⟩
    · rw [List.map_map]
      exact hperm.map _
    · exact hsuccess.trans (hmem fun t => t.success = true)
    · exact herror.trans (hmem fun t => t.error.isSome = true)
  · intro result hret
    obtain ⟨h, -⟩ := Sys.run_allInv hnew hrun
    have hresult := Sys.returned_taken hnew hrun hret
    refine ⟨s.pushed.take s.popped, h.nodup.sublist (List.take_sublist _ _), fun i hi => ?_, ?_⟩
    · exact (h.mem_pushed i).mp (List.mem_of_mem_take hi)
    · rw [hresult, returnedSignatures_finish, Sys.taken, pushedResults_eq, ← List.map_take, List.map_map]
      rfl

end Exact

theorem waitForAllSubmitted_exact_two :
    let r : Fin 2 → TaskResult := fun i =>
      ⟨i == 0, ⟨i.val⟩, if i = 0 then none else some (.other "refused"), .jito, i == 0⟩
    ∃ collector s, ResultCollector.new 2 = .ret collector ∧
      run (Sys.step (fun i => some (r i)) AllWaiter.op) (Sys.start 2 collector .loadCompleted)
        [.task 1, .task 0, .task 0, .task 0, .waiter false, .waiter false, .task 1, .task 1,
          .waiter false, .waiter false, .waiter false, .waiter false] = some s ∧
      s.waiter = .returned false (some ⟨true, [⟨1⟩, ⟨0⟩], some (.other "refused")⟩) ∧
      ([⟨1⟩, ⟨0⟩] : List Signature).Perm ((List.finRange 2).map fun i => (r i).signature) := by
  intro r
  refine ⟨_, _, rfl, rfl, rfl, ?_⟩
  obtain ⟨swap, hswap, hperm, -⟩ := (waitForAllSubmitted_exact r _ rfl
    [.task 1, .task 0, .task 0, .task 0, .waiter false, .waiter false, .task 1, .task 1,
      .waiter false, .waiter false, .waiter false, .waiter false] _ rfl).1 _ rfl
  obtain rfl := Option.some.inj hswap
  exact hperm

end PumpTrade
