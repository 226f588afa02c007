import Mathlib.Data.Fintype.Card
import Mathlib.Data.List.FinRange
import PumpTrade.Exec.Collector

/-!
# What the tasks leave in the collector

Facts about the tasks and the queue that hold at every moment, whatever the waiter does.

* `Sys.taskStep_cases`, `Sys.waiterStep_cases`: what a step of a task and of the waiter may do;
* `Sys.Inv`: the queue holds the results pushed and not yet popped, in order, and the counter counts
  the tasks that have reported;
* **`Sys.step_inv`**, **`Sys.run_inv`**: every step, and so every run, keeps it;
* `Sys.Inv.all_reported`: a full counter means that every task has reported;
* `Sys.tasksDone_iff`: the tasks are done when all that do not panic have reported.
-/

namespace PumpTrade.Sys

open Base

variable {n : ℕ} {W : Type} {results : Fin n → Option TaskResult} {op : W → Option (WaiterOp W)}

/-- The results pushed so far, in order. -/
def pushedResults (results : Fin n → Option TaskResult) (s : Sys n W) : List TaskResult :=
  s.pushed.filterMap results

/-- The tasks that have reported. -/
def reported (s : Sys n W) : Finset (Fin n) := Finset.univ.filter fun i => s.pc i = .reported

/-- The invariant of the tasks and the queue. -/
structure Inv (results : Fin n → Option TaskResult) (s : Sys n W) : Prop where
  capacity : s.collector.results.capacity = n
  totalTasks : s.collector.totalTasks = n
  nodup : s.pushed.Nodup
  mem_pushed : ∀ i, i ∈ s.pushed ↔ s.pc i ≠ .running
  hasResult : ∀ i ∈ s.pushed, (results i).isSome
  queue : s.collector.results.items = (s.pushedResults results).drop s.popped
  popped_le : s.popped ≤ (s.pushedResults results).length
  count : s.collector.completedCount = s.reported.card

theorem start_inv {collector : ResultCollector} (h : ResultCollector.new n = .ret collector) (waiter : W) :
    Inv results (start n collector waiter) := by
  obtain ⟨q, hq, hc⟩ := Outcome.bind_eq_ret.mp h
  obtain ⟨-, hcap, hitems⟩ := ArrayQueue.new_eq_ret.mp hq
  obtain rfl := Outcome.ret.inj hc
  refine ⟨hcap, rfl, List.nodup_nil, ?_, ?_, ?_, ?_, ?_⟩
  · simp [start]
  · simp [start]
  · simpa [start, pushedResults] using hitems
  · simp [start]
  · simp [start, reported]

theorem Inv.room {s : Sys n W} (h : Inv results s) {i : Fin n} (hi : s.pc i = .running) :
    s.collector.results.items.length < s.collector.results.capacity := by
  have hnot : i ∉ s.pushed := fun hmem => (h.mem_pushed i).mp hmem hi
  have hlen : (i :: s.pushed).length ≤ Fintype.card (Fin n) :=
    (List.nodup_cons.mpr ⟨hnot, h.nodup⟩).length_le_card
  rw [List.length_cons, Fintype.card_fin] at hlen
  have hres : (s.pushedResults results).length ≤ s.pushed.length := List.length_filterMap_le _ _
  rw [h.queue, h.capacity, List.length_drop]
  omega

/-- A task that moves on, not to `reported`, does not change who has reported. -/
theorem reported_update {s s' : Sys n W} {i : Fin n} {p : TaskPc} (hi : s.pc i ≠ .reported)
    (hp : p ≠ .reported) (hpc : s'.pc = Function.update s.pc i p) : s'.reported = s.reported := by
  ext j
  simp only [reported, Finset.mem_filter, Finset.mem_univ, true_and, hpc]
  by_cases hj : j = i
  · subst hj
    simp [hp, hi]
  · rw [Function.update_of_ne hj]

theorem reported_count {s s' : Sys n W} {i : Fin n} (hi : s.pc i ≠ .reported)
    (hpc : s'.pc = Function.update s.pc i .reported) : s'.reported.card = s.reported.card + 1 := by
  have hins : s'.reported = insert i s.reported := by
    ext j
    simp only [reported, Finset.mem_filter, Finset.mem_univ, true_and, Finset.mem_insert, hpc]
    by_cases hj : j = i
    · subst hj
      simp
    · simp [hj]
  rw [hins, Finset.card_insert_of_notMem]
  simpa [reported] using hi

theorem mem_pushed_update {s : Sys n W} (h : Inv results s) {i : Fin n} {p : TaskPc}
    (hi : s.pc i ≠ .running) (hp : p ≠ .running) (j : Fin n) :
    j ∈ s.pushed ↔ Function.update s.pc i p j ≠ .running := by
  by_cases hj : j = i
  · subst hj
    rw [Function.update_self, h.mem_pushed]
    exact ⟨fun _ => hp, fun _ => hi⟩
  · rw [Function.update_of_ne hj, h.mem_pushed]

/-- **A task's step**: it pushes its result, sets a flag or counts. -/
theorem taskStep_cases {s s' : Sys n W} {i : Fin n} {result : TaskResult}
    (h : s.taskStep i result = some s') :
    (s.pc i = .running ∧ s' = { s with
      collector := s.collector.submitPush result
      pc := Function.update s.pc i .pushed
      pushed := s.pushed ++ [i] }) ∨
    (s.pc i = .pushed ∧ s' = { s with
      collector := s.collector.submitFlag result
      pc := Function.update s.pc i .flagged }) ∨
    (s.pc i = .flagged ∧ s' = { s with
      collector := s.collector.submitCount
      pc := Function.update s.pc i .reported }) := by
  unfold taskStep at h
  split at h
  · next hpc => exact Or.inl ⟨hpc, (Option.some.inj h).symm⟩
  · next hpc => exact Or.inr (Or.inl ⟨hpc, (Option.some.inj h).symm⟩)
  · next hpc => exact Or.inr (Or.inr ⟨hpc, (Option.some.inj h).symm⟩)
  · cases h

/-- **A task's step** keeps the invariant. -/
theorem taskStep_inv {s s' : Sys n W} {i : Fin n} {result : TaskResult} (h : Inv results s)
    (hresult : results i = some result) (hstep : s.taskStep i result = some s') : Inv results s' := by
  rcases taskStep_cases hstep with ⟨hpc, rfl⟩ | ⟨hpc, rfl⟩ | ⟨hpc, rfl⟩
  · have hnot : i ∉ s.pushed := fun hmem => (h.mem_pushed i).mp hmem hpc
    obtain ⟨q, hq, hcap, hitems⟩ := ArrayQueue.exists_push (h.room hpc) result
    have hpush : s.collector.submitPush result = { s.collector with results := q } := by
      rw [ResultCollector.submitPush, hq]
    have hresults : (s.pushed ++ [i]).filterMap results = s.pushedResults results ++ [result] := by
      rw [List.filterMap_append, List.filterMap_cons_some hresult]
      rfl
    refine ⟨?_, ?_, ?_, ?_, ?_, ?_, ?_, ?_⟩
    · rw [hpush]
      exact hcap.trans h.capacity
    · rw [ResultCollector.submitPush_totalTasks]
      exact h.totalTasks
    · exact List.nodup_append.mpr ⟨h.nodup, List.nodup_singleton i, fun a ha b hb => by
        rw [List.mem_singleton.mp hb]
        rintro rfl
        exact hnot ha⟩
    · intro j
      by_cases hj : j = i
      · subst hj; simp
      · simp [hj, h.mem_pushed]
    · intro j hj
      rcases List.mem_append.mp hj with hj | hj
      · exact h.hasResult j hj
      · rw [List.mem_singleton.mp hj, hresult]
        rfl
    · rw [hpush]
      change q.items = ((s.pushed ++ [i]).filterMap results).drop s.popped
      rw [hresults, hitems, h.queue, List.drop_append_of_le_length h.popped_le]
    · change s.popped ≤ ((s.pushed ++ [i]).filterMap results).length
      rw [hresults, List.length_append]
      exact h.popped_le.trans (Nat.le_add_right _ _)
    · rw [ResultCollector.submitPush_completedCount, h.count]
      exact congrArg _ (reported_update (by simp [hpc]) (by simp) rfl).symm
  · refine ⟨?_, ?_, h.nodup, ?_, h.hasResult, ?_, h.popped_le, ?_⟩
    · rw [ResultCollector.submitFlag_results]
      exact h.capacity
    · rw [ResultCollector.submitFlag_totalTasks]
      exact h.totalTasks
    · exact mem_pushed_update h (by simp [hpc]) (by simp)
    · rw [ResultCollector.submitFlag_results]
      exact h.queue
    · rw [ResultCollector.submitFlag_completedCount, h.count]
      exact congrArg _ (reported_update (by simp [hpc]) (by simp) rfl).symm
  · refine ⟨h.capacity, h.totalTasks, h.nodup, ?_, h.hasResult, h.queue, h.popped_le, ?_⟩
    · exact mem_pushed_update h (by simp [hpc]) (by simp)
    · rw [reported_count (s := s) (by simp [hpc]) rfl, ← h.count]
      rfl

/-- What a step of the waiter may change: nothing but itself, or it pops the first result. -/
theorem waiterStep_cases (s : Sys n W) (elapsed : Bool) (o : WaiterOp W) :
    (∃ w, s.waiterStep elapsed o = { s with waiter := w }) ∨
    ∃ k result rest, o = .pop k ∧ s.collector.results.pop = some (result, rest) ∧
      s.waiterStep elapsed o = { s with
        collector := { s.collector with results := rest }
        waiter := k (some result)
        popped := s.popped + 1 } := by
  cases o with
  | pop k =>
    cases hpop : s.collector.results.pop with
    | none => exact Or.inl ⟨k none, by simp [waiterStep, hpop]⟩
    | some p => exact Or.inr ⟨k, p.1, p.2, rfl, rfl, by simp [waiterStep, hpop]⟩
  | _ => exact Or.inl ⟨_, rfl⟩

theorem Inv.of_pop {s : Sys n W} (h : Inv results s) {result : TaskResult} {rest : ArrayQueue TaskResult}
    (hpop : s.collector.results.pop = some (result, rest)) :
    s.popped < (s.pushedResults results).length ∧
      (s.pushedResults results).take (s.popped + 1) = (s.pushedResults results).take s.popped ++ [result] ∧
      rest.items = (s.pushedResults results).drop (s.popped + 1) := by
  obtain ⟨hitems, -⟩ := ArrayQueue.pop_eq_some hpop
  have hdrop := h.queue
  rw [hitems] at hdrop
  have hlt : s.popped < (s.pushedResults results).length := by
    by_contra hle
    rw [List.drop_eq_nil_of_le (not_lt.mp hle)] at hdrop
    cases hdrop
  rw [List.drop_eq_getElem_cons hlt] at hdrop
  obtain ⟨hhead, htail⟩ := List.cons.inj hdrop
  exact ⟨hlt, by rw [List.take_succ_eq_append_getElem hlt, ← hhead], htail⟩

/-- An empty queue: every pushed result was popped. -/
theorem Inv.of_pop_eq_none {s : Sys n W} (h : Inv results s) (hpop : s.collector.results.pop = none) :
    s.popped = (s.pushedResults results).length := by
  have hempty := ArrayQueue.pop_eq_none.mp hpop
  rw [h.queue, List.drop_eq_nil_iff] at hempty
  exact le_antisymm h.popped_le hempty

/-- **A waiter's step** keeps the invariant. -/
theorem waiterStep_inv {s : Sys n W} (h : Inv results s) (elapsed : Bool) (o : WaiterOp W) :
    Inv results (s.waiterStep elapsed o) := by
  rcases waiterStep_cases s elapsed o with ⟨w, hw⟩ | ⟨k, result, rest, -, hpop, hw⟩
  · rw [hw]
    exact ⟨h.capacity, h.totalTasks, h.nodup, h.mem_pushed, h.hasResult, h.queue, h.popped_le, h.count⟩
  · rw [hw]
    obtain ⟨-, hcap⟩ := ArrayQueue.pop_eq_some hpop
    obtain ⟨hlt, -, htail⟩ := h.of_pop hpop
    exact ⟨hcap.trans h.capacity, h.totalTasks, h.nodup, h.mem_pushed, h.hasResult, htail, hlt, h.count⟩

/-- **Every step** keeps the invariant. -/
theorem step_inv {s s' : Sys n W} {a : Action n} (h : Inv results s) (hstep : s.step results op a = some s') :
    Inv results s' := by
  cases a with
  | task i =>
    obtain ⟨result, hresult, htask⟩ := Option.bind_eq_some_iff.mp hstep
    exact taskStep_inv h hresult htask
  | waiter elapsed =>
    obtain ⟨o, -, rfl⟩ := Option.map_eq_some_iff.mp hstep
    exact waiterStep_inv h elapsed o

theorem run_inv {s s' : Sys n W} {acts : List (Action n)} (h : Inv results s)
    (hrun : run (step results op) s acts = some s') : Inv results s' :=
  Base.run_inv (fun _ _ _ hI hstep => step_inv hI hstep) h hrun

/-! ## Tasks that have reported -/

/-- A full counter: every task has reported. -/
theorem Inv.all_reported {s : Sys n W} (h : Inv results s) (hcount : n ≤ s.collector.completedCount)
    (i : Fin n) : s.pc i = .reported := by
  rw [h.count] at hcount
  have huniv : s.reported = Finset.univ := Finset.eq_univ_of_card _
    (le_antisymm (Finset.card_le_univ _) (by rwa [Fintype.card_fin]))
  have hi : i ∈ s.reported := huniv ▸ Finset.mem_univ i
  exact (Finset.mem_filter.mp hi).2

theorem Inv.pushed_perm {s : Sys n W} (h : Inv results s) (hall : ∀ i, s.pc i ≠ .running) :
    s.pushed.Perm (List.finRange n) :=
  (List.perm_ext_iff_of_nodup h.nodup (List.nodup_finRange n)).mpr fun i =>
    ⟨fun _ => List.mem_finRange i, fun _ => (h.mem_pushed i).mpr (hall i)⟩

theorem tasksDone_iff {s : Sys n W} :
    s.TasksDone results op ↔ ∀ i, (results i).isSome → s.pc i = .reported := by
  refine forall_congr' fun i => ?_
  change (results i).bind (fun result => s.taskStep i result) = none ↔ _
  cases results i with
  | none => simp
  | some result =>
    simp only [Option.bind_some, Option.isSome_some, true_imp_iff, taskStep]
    cases s.pc i <;> simp

end PumpTrade.Sys
