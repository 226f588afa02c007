import PumpTrade.Exec.Report
import PumpTrade.Exec.Success

/-!
# The verdict that all transactions failed

`execute_parallel` reports "All transactions failed" where the success wait returns nothing. The
wait drains the queue before it gives a verdict from the counter, so that it returns nothing at its
deadline only, whatever the tasks have done by then.

* `Sys.Move.returned_none_iff`: the wait returns nothing where it finds its time elapsed;
* `Sys.exists_load`, `Sys.exists_count`: the last load of the counter before the clock is read, and
  the step that counts the last result;
* `Sys.CountedSinceLoad`, `Sys.allFailed_iff`: at a deadline all tasks have failed where all their
  results are failures and the last of them was counted after that load;
* **`allFailed_true_iff`**: the verdict is true in every state of a run exactly where each of its
  deadlines is one of these.
-/

namespace PumpTrade

open Base

namespace Sys

variable {n : ℕ} {results : Fin n → Option TaskResult}

/-- Every task has reported, and none a success. -/
def AllFailed {W : Type} (results : Fin n → Option TaskResult) (s : Sys n W) : Prop :=
  ∀ i, s.pc i = .reported ∧ ∃ t, results i = some t ∧ t.success = false

/-- Where the wait has returned nothing, all tasks have failed. -/
def VerdictTrue (results : Fin n → Option TaskResult) (s : Sys n SuccessWaiter) : Prop :=
  s.waiter = .returned none → AllFailed results s

/-- The result of each task is a failure. -/
def AllFail (results : Fin n → Option TaskResult) : Prop := ∀ i, ∃ t, results i = some t ∧ t.success = false

/-- The step finds the deadline to have passed. -/
def AtDeadline (s : Sys n SuccessWaiter) (a : Action n) : Prop := a = .waiter true ∧ s.waiter = .readClock

/-- The run loads the counter, and after that the tasks alone take steps, one of which counts the last
result. -/
def CountedSinceLoad (results : Fin n → Option TaskResult) (s : Sys n SuccessWaiter) (acts : List (Action n)) :
    Prop :=
  ∃ load elapsed before i after sLoad sCount,
    acts = load ++ .waiter elapsed :: (before ++ .task i :: after) ∧
    run (step results SuccessWaiter.op) s load = some sLoad ∧ sLoad.waiter = .loadCompleted ∧
    (∀ a ∈ before ++ after, ∃ j, a = .task j) ∧
    run (step results SuccessWaiter.op) s (load ++ .waiter elapsed :: before) = some sCount ∧
    sCount.pc i = .flagged ∧ sCount.collector.completedCount + 1 = n

/-- Each deadline of the run comes where all results are failures and the last one was counted after
the counter was last loaded. -/
def DeadlinesLate (results : Fin n → Option TaskResult) (s : Sys n SuccessWaiter) (acts : List (Action n)) :
    Prop :=
  ∀ before a after t, acts = before ++ a :: after → run (step results SuccessWaiter.op) s before = some t →
    t.AtDeadline a → AllFail results ∧ CountedSinceLoad results s before

/-- **Nothing is returned only at the deadline**: no drain ends without a result. -/
theorem Move.returned_none_iff {s s' : Sys n SuccessWaiter} {elapsed : Bool} (hmove : Move results s elapsed s') :
    s'.waiter = .returned none ↔ elapsed = true ∧ s.waiter = .readClock := by
  cases hmove with
  | @look w hs hw hclock =>
    refine iff_of_false (fun hret => ?_) fun hdeadline => ?_
    · change w = .returned none at hret
      rw [hret] at hw
      exact hw
    · exact Bool.noConfusion ((hclock hdeadline.2).symm.trans hdeadline.1)
  | giveUp hs helapsed => exact iff_of_true rfl ⟨helapsed, hs⟩
  | @start k hs hclock hk => cases k <;> simp [Drain.waiter, hclock]
  | @pop k d result rest hs hk hpop => cases k <;> simp [Drain.waiter, hs]
  | @finish k d r hs hpop hsignatures hverdict => cases k <;> simp [Drain.waiter, hs]

/-- **A step keeps the verdict true** unless it finds the deadline to have passed too early. -/
theorem step_verdictTrue {s s' : Sys n SuccessWaiter} {a : Action n} (h : WaitInv results s)
    (hs : VerdictTrue results s) (hstep : s.step results SuccessWaiter.op a = some s') :
    VerdictTrue results s' ↔ (s.AtDeadline a → AllFailed results s) := by
  cases a with
  | task i =>
    obtain ⟨result, -, htask⟩ := Option.bind_eq_some_iff.mp hstep
    obtain ⟨hpc, hwaiter, -⟩ := taskStep_frame htask
    refine iff_of_true (fun hret => ?_) fun hdeadline => nomatch hdeadline.1
    rw [hwaiter] at hret
    exact absurd (hs hret i).1 hpc
  | waiter elapsed =>
    obtain ⟨o, ho, rfl⟩ := Option.map_eq_some_iff.mp hstep
    have hpc : (s.waiterStep elapsed o).pc = s.pc := by
      rcases waiterStep_cases s elapsed o with ⟨w, hw⟩ | ⟨k, result, rest, -, -, hw⟩ <;> rw [hw]
    have hall : AllFailed results (s.waiterStep elapsed o) ↔ AllFailed results s := by
      unfold AllFailed
      rw [hpc]
    unfold VerdictTrue AtDeadline
    rw [(h.waiterStep_move elapsed ho).returned_none_iff, hall]
    simp

/-! ## Between the last load and the deadline -/

theorem readClock_of_step {s s' : Sys n SuccessWaiter} {elapsed : Bool}
    (hstep : s.step results SuccessWaiter.op (.waiter elapsed) = some s') (hs' : s'.waiter = .readClock) :
    s.waiter = .loadCompleted ∧ s'.collector.completedCount < s'.collector.totalTasks := by
  obtain ⟨o, ho, rfl⟩ := Option.map_eq_some_iff.mp hstep
  cases hw : s.waiter with
  | loadCompleted =>
    rw [hw] at ho
    obtain rfl := Option.some.inj ho
    refine ⟨rfl, ?_⟩
    simp only [waiterStep] at hs' ⊢
    split at hs'
    · cases hs'
    · next hfull => exact Nat.not_le.mp hfull
  | loadSuccess | loadLandedFailed | readClock =>
    rw [hw] at ho
    obtain rfl := Option.some.inj ho
    simp only [waiterStep] at hs'
    split at hs' <;> cases hs'
  | drainSuccess d | drainLanded d | drainCompleted d =>
    rw [hw] at ho
    obtain rfl := Option.some.inj ho
    cases hpop : s.collector.results.pop with
    | some p => simp [waiterStep, hpop] at hs'
    | none =>
      simp only [waiterStep, hpop] at hs'
      first | cases hs' | (split at hs' <;> cases hs')
  | returned r =>
    rw [hw] at ho
    cases ho

/-- **The last load of the counter** before the clock is read: it finds the counter not full, and from
it on the tasks alone take steps. -/
theorem exists_load {s t : Sys n SuccessWaiter} {acts : List (Action n)} (hs : s.waiter ≠ .readClock)
    (hrun : run (step results SuccessWaiter.op) s acts = some t) (ht : t.waiter = .readClock) :
    ∃ load elapsed between sLoad sLoaded, acts = load ++ .waiter elapsed :: between ∧
      run (step results SuccessWaiter.op) s load = some sLoad ∧ sLoad.waiter = .loadCompleted ∧
      sLoad.step results SuccessWaiter.op (.waiter elapsed) = some sLoaded ∧
      sLoaded.collector.completedCount < sLoaded.collector.totalTasks ∧
      (∀ a ∈ between, ∃ j, a = .task j) ∧ run (step results SuccessWaiter.op) sLoaded between = some t := by
  induction acts using List.reverseRecOn generalizing t with
  | nil =>
    obtain rfl := Option.some.inj hrun
    exact absurd ht hs
  | append_singleton acts a ih =>
    obtain ⟨u, hu, hstep⟩ := run_concat_eq_some.mp hrun
    cases a with
    | waiter elapsed =>
      obtain ⟨hload, hcount⟩ := readClock_of_step hstep ht
      exact ⟨acts, elapsed, [], u, t, rfl, hu, hload, hstep, hcount, by simp, rfl⟩
    | task j =>
      obtain ⟨result, -, htask⟩ := Option.bind_eq_some_iff.mp hstep
      have hclock : u.waiter = .readClock := (taskStep_frame htask).2.1 ▸ ht
      obtain ⟨load, elapsed, between, sLoad, sLoaded, rfl, hload, hsLoad, hloaded, hcount, htasks, hbetween⟩ :=
        ih hu hclock
      refine ⟨load, elapsed, between ++ [.task j], sLoad, sLoaded, by simp, hload, hsLoad, hloaded, hcount, ?_, ?_⟩
      · simpa [or_imp, forall_and] using htasks
      · exact run_concat_eq_some.mpr ⟨u, hbetween, hstep⟩

theorem taskStep_count {W : Type} {s s' : Sys n W} {i : Fin n} {result : TaskResult}
    (h : s.taskStep i result = some s') :
    s'.collector.completedCount = s.collector.completedCount ∨
      (s.pc i = .flagged ∧ s'.collector.completedCount = s.collector.completedCount + 1) := by
  rcases taskStep_cases h with ⟨-, rfl⟩ | ⟨-, rfl⟩ | ⟨hpc, rfl⟩
  · exact Or.inl (ResultCollector.submitPush_completedCount _ _)
  · exact Or.inl (ResultCollector.submitFlag_completedCount _ _)
  · exact Or.inr ⟨hpc, rfl⟩

/-- **The step that fills the counter**, in a run of the tasks alone. -/
theorem exists_count {s t : Sys n SuccessWaiter} {acts : List (Action n)} (htasks : ∀ a ∈ acts, ∃ j, a = .task j)
    (hrun : run (step results SuccessWaiter.op) s acts = some t) (hs : s.collector.completedCount < n)
    (ht : n ≤ t.collector.completedCount) :
    ∃ before i after sCount, acts = before ++ .task i :: after ∧
      run (step results SuccessWaiter.op) s before = some sCount ∧ sCount.pc i = .flagged ∧
      sCount.collector.completedCount + 1 = n := by
  induction acts generalizing s with
  | nil =>
    obtain rfl := Option.some.inj hrun
    omega
  | cons a acts ih =>
    obtain ⟨s', hstep, hrest⟩ := run_cons_eq_some.mp hrun
    obtain ⟨i, rfl⟩ := htasks a List.mem_cons_self
    by_cases hs' : s'.collector.completedCount < n
    · obtain ⟨before, j, after, sCount, rfl, hbefore, hcount⟩ :=
        ih (fun b hb => htasks b (List.mem_cons_of_mem _ hb)) hrest hs'
      exact ⟨.task i :: before, j, after, sCount, rfl, run_cons_eq_some.mpr ⟨s', hstep, hbefore⟩, hcount⟩
    · obtain ⟨result, -, htask⟩ := Option.bind_eq_some_iff.mp hstep
      rcases taskStep_count htask with hsame | ⟨hpc, hcount⟩
      · omega
      · exact ⟨[], i, acts, s, rfl, rfl, hpc, by omega⟩

theorem run_count_le {s t : Sys n SuccessWaiter} {acts : List (Action n)}
    (hrun : run (step results SuccessWaiter.op) s acts = some t) :
    s.collector.completedCount ≤ t.collector.completedCount := by
  refine run_rel (step results SuccessWaiter.op) (I := fun _ => True)
    (R := fun s t => s.collector.completedCount ≤ t.collector.completedCount) (fun _ => le_rfl)
    (fun _ _ _ => le_trans) (fun s a s' _ hstep => ⟨trivial, ?_⟩) trivial hrun
  cases a with
  | task i =>
    obtain ⟨result, -, htask⟩ := Option.bind_eq_some_iff.mp hstep
    rcases taskStep_count htask with hsame | ⟨-, hcount⟩ <;> omega
  | waiter elapsed =>
    obtain ⟨o, -, rfl⟩ := Option.map_eq_some_iff.mp hstep
    rcases waiterStep_cases s elapsed o with ⟨w, hw⟩ | ⟨k, result, rest, -, -, hw⟩ <;> rw [hw]

/-- **When all tasks have failed at a deadline**: their results are failures, and the last of them was
counted after the counter was last loaded. -/
theorem allFailed_iff {s t : Sys n SuccessWaiter} {acts : List (Action n)} (hI : WaitInv results s)
    (hs : s.waiter ≠ .readClock) (hrun : run (step results SuccessWaiter.op) s acts = some t)
    (ht : t.waiter = .readClock) :
    AllFailed results t ↔ AllFail results ∧ CountedSinceLoad results s acts := by
  have hinv : ∀ {u : Sys n SuccessWaiter} {as}, run (step results SuccessWaiter.op) s as = some u → Inv results u :=
    fun h => run_inv hI.inv h
  constructor
  · intro hall
    obtain ⟨load, elapsed, between, sLoad, sLoaded, rfl, hload, hsLoad, hloaded, hcount, htasks, hbetween⟩ :=
      exists_load hs hrun ht
    have hrunLoaded : run (step results SuccessWaiter.op) s (load ++ [.waiter elapsed]) = some sLoaded :=
      run_concat_eq_some.mpr ⟨sLoad, hload, hloaded⟩
    rw [(hinv hrunLoaded).totalTasks] at hcount
    have hfull : n ≤ t.collector.completedCount := by
      have huniv : t.reported = Finset.univ := Finset.filter_true_of_mem fun i _ => (hall i).1
      rw [(hinv hrun).count, huniv, Finset.card_univ, Fintype.card_fin]
    obtain ⟨before, i, after, sCount, rfl, hbefore, hpc, hlast⟩ := exists_count htasks hbetween hcount hfull
    refine ⟨fun i => (hall i).2, load, elapsed, before, i, after, sLoad, sCount, rfl, hload, hsLoad, ?_, ?_, hpc,
      hlast⟩
    · intro a ha
      exact htasks a (by simp only [List.mem_append, List.mem_cons] at ha ⊢; tauto)
    · rw [show load ++ .waiter elapsed :: before = load ++ [.waiter elapsed] ++ before by simp]
      exact run_append_of hrunLoaded hbefore
  · rintro ⟨hfail, load, elapsed, before, i, after, sLoad, sCount, rfl, -, -, -, hcount, hpc, hlast⟩ j
    rw [show load ++ .waiter elapsed :: (before ++ .task i :: after) =
      (load ++ .waiter elapsed :: before) ++ .task i :: after by simp, run_append, hcount, Option.bind_some] at hrun
    obtain ⟨u, hstep, hafter⟩ := run_cons_eq_some.mp hrun
    have hle := run_count_le hafter
    obtain ⟨result, -, htask⟩ := Option.bind_eq_some_iff.mp hstep
    have hfull : n ≤ u.collector.completedCount := by
      rcases taskStep_cases htask with ⟨hrunning, -⟩ | ⟨hpushed, -⟩ | ⟨-, rfl⟩
      · cases hpc.symm.trans hrunning
      · cases hpc.symm.trans hpushed
      · exact hlast.ge
    have hinvT : Inv results t := run_inv (hinv hcount) (run_cons_eq_some.mpr ⟨u, hstep, hafter⟩)
    exact ⟨hinvT.all_reported (hfull.trans hle) j, hfail j⟩

/-- **The verdict along a run.** -/
theorem always_verdictTrue_iff {s : Sys n SuccessWaiter} (hI : WaitInv results s) (hs : s.waiter ≠ .readClock)
    (htrue : VerdictTrue results s) (acts : List (Action n)) :
    Always (step results SuccessWaiter.op) (VerdictTrue results) s acts ↔ DeadlinesLate results s acts := by
  rw [always_iff (I := WaitInv results) (fun _ _ _ h hstep => step_waitInv h hstep)
    (fun _ _ _ h hs hstep => step_verdictTrue h hs hstep) acts hI htrue, meets_iff_split]
  constructor
  · intro h before a after t hacts hbefore hdeadline
    obtain ⟨t', ht'⟩ : ∃ t', step results SuccessWaiter.op t a = some t' := by
      rw [hdeadline.1]
      exact ⟨_, Option.map_eq_some_iff.mpr ⟨_, by rw [hdeadline.2]; rfl, rfl⟩⟩
    exact (allFailed_iff hI hs hbefore hdeadline.2).mp (h before a after t t' hacts hbefore ht' hdeadline)
  · intro h before a after t t' hacts hbefore _ hdeadline
    exact (allFailed_iff hI hs hbefore hdeadline.2).mpr (h before a after t hacts hbefore hdeadline)

end Sys

/-! ## The call -/

/-- The error of the verdict. -/
def allTransactionsFailed : Error := .other "All transactions failed"

variable {sdk : Sdk} {args : TradeArgs} {world : World} {tasks : List Task}

/-- A call that waits and has spawned its tasks gives the verdict where the wait returns nothing. -/
theorem executeParallel_allFailed (hwait : args.waitTransactionConfirmed = true)
    (hlaunch : args.launch sdk world = (tasks, none)) (schedule : (n : ℕ) → List (Action n)) :
    executeParallel sdk args world schedule = some (.error allTransactionsFailed) ↔
      ∃ s, runTasks sdk args SuccessWaiter.op .loadSuccess tasks (schedule tasks.length) = some s ∧
        s.waiter = .returned none := by
  unfold executeParallel
  rw [hlaunch]
  simp only [hwait, if_true]
  constructor
  · intro h
    obtain ⟨s, hrun, hs⟩ := Option.bind_eq_some_iff.mp h
    refine ⟨s, hrun, ?_⟩
    split at hs
    · cases hs
    · assumption
    · cases hs
  · rintro ⟨s, hrun, hret⟩
    refine Option.bind_eq_some_iff.mpr ⟨s, hrun, ?_⟩
    simp only [hret]
    rfl

/-- **When the verdict is true.** The call gives it where its wait returns nothing, and there all
tasks have failed, in every state of a run, exactly where the run has no deadline, or one that comes
with all results failures and the last of them counted since the waiter last loaded the counter. -/
theorem allFailed_true_iff (hwait : args.waitTransactionConfirmed = true)
    (hlaunch : args.launch sdk world = (tasks, none)) :
    ∃ collector, ResultCollector.new tasks.length = .ret collector ∧
      (∀ schedule, executeParallel sdk args world schedule = some (.error allTransactionsFailed) ↔
        ∃ s, run (Sys.step (taskResults sdk args tasks) SuccessWaiter.op) (Sys.start _ collector .loadSuccess)
          (schedule tasks.length) = some s ∧ s.waiter = .returned none) ∧
      ∀ acts, Always (Sys.step (taskResults sdk args tasks) SuccessWaiter.op)
          (Sys.VerdictTrue (taskResults sdk args tasks)) (Sys.start _ collector .loadSuccess) acts ↔
        Sys.DeadlinesLate (taskResults sdk args tasks) (Sys.start _ collector .loadSuccess) acts := by
  obtain ⟨collector, hnew⟩ := ResultCollector.exists_new (launch_length_pos hlaunch)
  refine ⟨collector, hnew, fun schedule => ?_, fun acts => ?_⟩
  · rw [executeParallel_allFailed hwait hlaunch]
    refine exists_congr fun s => and_congr_left fun _ => ?_
    simp only [runTasks, hnew]
  · exact Sys.always_verdictTrue_iff (Sys.start_waitInv hnew) SuccessWaiter.noConfusion
      (fun hret => by cases hret) acts

/-! ### A deadline before the tasks -/

/-- The sell of the small trade, waiting for its confirmation. -/
def waitingArgs : TradeArgs := { sampleArgs with recentBlockhash := some ⟨5⟩, waitTransactionConfirmed := true }

/-- Its tasks. -/
def waitingTasks : List Task := (waitingArgs.launch sampleSdk (sampleWorld fun _ _ => sampleNet 200 "")).1

/-- The wait looks twice, and the second time its deadline has passed. -/
def deadlineSchedule (n : ℕ) : List (Action n) :=
  [.waiter false, .waiter false, .waiter false, .waiter false, .waiter false, .waiter false, .waiter false,
    .waiter true]

theorem waitingArgs_launch :
    waitingArgs.launch sampleSdk (sampleWorld fun _ _ => sampleNet 200 "") = (waitingTasks, none) := by
  have h : (waitingArgs.launch sampleSdk (sampleWorld fun _ _ => sampleNet 200 "")).2 = none := by
    decide +kernel
  exact Prod.ext rfl h

/-- The verdict is not true where the deadline passes before the tasks have reported, and true along
all that a waiter does which never finds it passed. -/
theorem allFailed_true_iff_waiting :
    ∃ collector, ResultCollector.new waitingTasks.length = .ret collector ∧
      ¬ Always (Sys.step (taskResults sampleSdk waitingArgs waitingTasks) SuccessWaiter.op)
          (Sys.VerdictTrue (taskResults sampleSdk waitingArgs waitingTasks))
          (Sys.start _ collector .loadSuccess) (deadlineSchedule _) ∧
      Always (Sys.step (taskResults sampleSdk waitingArgs waitingTasks) SuccessWaiter.op)
          (Sys.VerdictTrue (taskResults sampleSdk waitingArgs waitingTasks))
          (Sys.start _ collector .loadSuccess) (List.replicate 8 (.waiter false)) := by
  obtain ⟨collector, hnew, hcall, htrue⟩ := allFailed_true_iff rfl waitingArgs_launch
  refine ⟨collector, hnew, fun halways => ?_, (htrue _).mpr fun before a after t hacts _ hdeadline => ?_⟩
  · have herror : executeParallel sampleSdk waitingArgs (sampleWorld fun _ _ => sampleNet 200 "") deadlineSchedule =
        some (.error allTransactionsFailed) := by decide +kernel
    obtain ⟨s, hrun, hret⟩ := (hcall deadlineSchedule).mp herror
    have hschedule : deadlineSchedule waitingTasks.length = List.replicate 7 (.waiter false) ++ [.waiter true] := rfl
    rw [hschedule] at halways hrun
    obtain ⟨t, hbefore, hstep⟩ := run_concat_eq_some.mp hrun
    obtain ⟨o, ho, rfl⟩ := Option.map_eq_some_iff.mp hstep
    have hwait := Sys.run_waitInv hnew hbefore
    have hdeadline := (hwait.waiterStep_move true ho).returned_none_iff.mp hret
    obtain ⟨-, load, elapsed, before, i, after, -, -, hacts, -⟩ :=
      (htrue _).mp halways _ _ [] t rfl hbefore ⟨rfl, hdeadline.2⟩
    have hmem : Action.task i ∈ List.replicate 7 (.waiter false) := by
      rw [hacts]
      simp
    cases List.eq_of_mem_replicate hmem
  · have hmem : a ∈ List.replicate 8 (.waiter false) := by
      rw [hacts]
      exact List.mem_append_right _ List.mem_cons_self
    rw [List.eq_of_mem_replicate hmem] at hdeadline
    exact nomatch hdeadline.1

/-- Neither task has reported, and the call says that all transactions failed. -/
theorem allFailed_too_early :
    executeParallel sampleSdk waitingArgs (sampleWorld fun _ _ => sampleNet 200 "") deadlineSchedule =
      some (.error allTransactionsFailed) ∧
    ∃ s, runTasks sampleSdk waitingArgs SuccessWaiter.op .loadSuccess waitingTasks (deadlineSchedule _) = some s ∧
      (∀ i, s.pc i = .running) ∧ ¬ Sys.VerdictTrue (taskResults sampleSdk waitingArgs waitingTasks) s := by
  have hcall : executeParallel sampleSdk waitingArgs (sampleWorld fun _ _ => sampleNet 200 "") deadlineSchedule =
      some (.error allTransactionsFailed) := by decide +kernel
  have hpcs : (runTasks sampleSdk waitingArgs SuccessWaiter.op .loadSuccess waitingTasks
      (deadlineSchedule _)).all (fun s => decide (∀ i, s.pc i = .running)) = true := by decide +kernel
  obtain ⟨s, hrun, hret⟩ := (executeParallel_allFailed rfl waitingArgs_launch _).mp hcall
  rw [hrun, Option.all_some, decide_eq_true_eq] at hpcs
  have hn : 0 < waitingTasks.length := launch_length_pos waitingArgs_launch
  refine ⟨hcall, s, hrun, hpcs, fun htrue => ?_⟩
  have hreported := (htrue hret ⟨0, hn⟩).1
  rw [hpcs] at hreported
  cases hreported

end PumpTrade
