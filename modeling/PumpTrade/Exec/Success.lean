import PumpTrade.Exec.Wait

/-!
# Waiting for a success

What `wait_for_success` returns, for any number of tasks and any interleaving of their submissions
with its loads and pops. It drains the queue after reading one of two flags, or the counter.

* `Sys.FlagInv`: a flag is up only after a result that raises it was pushed;
* `Sys.SuccessInv`: at every moment the waiter has drained the results popped so far, and outside of
  a drain none;
* `Sys.Move`: what a step of the waiter can do, from which its invariants follow;
* `Sys.Contradicts`: the waiter returns, or is about to return, a failure with a successful result;
* **`waitForSuccess_consistent_iff`**: it does so exactly where the drain after a landed failure
  pops a success.
-/

namespace PumpTrade

open Base

/-- The local variables of the landed drain after a list of results. -/
def Drained.ofLanded (l : List TaskResult) : Drained := l.foldl addLanded empty

theorem Drained.ofLanded_append (l : List TaskResult) (result : TaskResult) :
    ofLanded (l ++ [result]) = (ofLanded l).addLanded result := by
  simp [ofLanded]

theorem Drained.ofLanded_signatures (l : List TaskResult) :
    (ofLanded l).signatures = l.map TaskResult.signature := by
  induction l using List.reverseRecOn with
  | nil => rfl
  | append_singleton l result ih => rw [ofLanded_append, addLanded, ih, List.map_append, List.map_singleton]

/-- The waiter is not draining, and has not returned. -/
def SuccessWaiter.Idle : SuccessWaiter → Prop
  | .loadSuccess | .loadLandedFailed | .loadCompleted | .readClock => True
  | _ => False

/-- The three drains, by what was read before. -/
inductive Drain where
  | success | landed | completed

namespace Drain

/-- The waiter in a drain. -/
def waiter : Drain → Drained → SuccessWaiter
  | success => .drainSuccess
  | landed => .drainLanded
  | completed => .drainCompleted

/-- The local variables of the drain after a list of results. -/
def of : Drain → List TaskResult → Drained
  | landed => Drained.ofLanded
  | _ => Drained.of

/-- What was read before the drain, and holds from then on. -/
def Justified {n : ℕ} (s : Sys n SuccessWaiter) : Drain → Prop
  | success => s.collector.successFlag = true
  | landed => s.collector.landedFailedFlag = true
  | completed => ∀ i, s.pc i = .reported

/-- The verdict on the results that were taken. -/
def Verdict (taken : List TaskResult) (hasSuccess : Bool) : Drain → Prop
  | success => hasSuccess = true ∧ ∃ t ∈ taken, t.success = true
  | landed => hasSuccess = false
  | completed => hasSuccess = true ↔ ∃ t ∈ taken, t.success = true

theorem of_nil (k : Drain) : k.of [] = Drained.empty := by
  cases k <;> rfl

theorem of_append (k : Drain) (l : List TaskResult) (result : TaskResult) :
    k.of (l ++ [result]) = match k with
      | landed => (k.of l).addLanded result
      | _ => (k.of l).add result := by
  cases k <;> simp [of, Drained.of_append, Drained.ofLanded_append]

theorem of_signatures (k : Drain) (l : List TaskResult) : (k.of l).signatures = l.map TaskResult.signature := by
  cases k with
  | landed => exact Drained.ofLanded_signatures l
  | success | completed => exact (Drained.of_spec l).1

end Drain

namespace Sys

variable {n : ℕ} {results : Fin n → Option TaskResult}

/-- A flag is up only after a result that raises it was pushed. -/
structure FlagInv {W : Type} (results : Fin n → Option TaskResult) (s : Sys n W) : Prop where
  success : s.collector.successFlag = true → ∃ t ∈ s.pushedResults results, t.success = true
  landedFailed : s.collector.landedFailedFlag = true →
    ∃ t ∈ s.pushedResults results, t.success = false ∧ t.landedOnChain = true

/-- The invariant of the waiter. -/
def SuccessInv (results : Fin n → Option TaskResult) (s : Sys n SuccessWaiter) : Prop :=
  match s.waiter with
  | .loadSuccess => s.popped = 0
  | .drainSuccess d => d = Drained.of (s.taken results) ∧ s.collector.successFlag = true
  | .loadLandedFailed => s.popped = 0
  | .drainLanded d => d = Drained.ofLanded (s.taken results) ∧ s.collector.landedFailedFlag = true
  | .loadCompleted => s.popped = 0
  | .drainCompleted d => d = Drained.of (s.taken results) ∧ ∀ i, s.pc i = .reported
  | .readClock => s.popped = 0
  | .returned none => s.popped = 0
  | .returned (some r) => r.signatures = (s.taken results).map TaskResult.signature ∧
      (r.success = true → ∃ t ∈ s.taken results, t.success = true)

/-- What holds in every state. -/
structure WaitInv (results : Fin n → Option TaskResult) (s : Sys n SuccessWaiter) : Prop where
  inv : Inv results s
  flags : FlagInv results s
  waiter : SuccessInv results s

/-! ## The flags -/

theorem taskStep_pushed {W : Type} {s s' : Sys n W} {i : Fin n} {result : TaskResult}
    (h : s.taskStep i result = some s') {t : TaskResult} (ht : t ∈ s.pushedResults results) :
    t ∈ s'.pushedResults results := by
  obtain ⟨-, -, -, more, hpush⟩ := taskStep_frame h
  rw [pushedResults, hpush, List.filterMap_append]
  exact List.mem_append_left _ ht

theorem taskStep_flags {W : Type} {s s' : Sys n W} {i : Fin n} {result : TaskResult} (h : Inv results s)
    (hf : FlagInv results s) (hresult : results i = some result) (hstep : s.taskStep i result = some s') :
    FlagInv results s' := by
  have hkeep : ∀ {t}, t ∈ s.pushedResults results → t ∈ s'.pushedResults results := taskStep_pushed hstep
  rcases taskStep_cases hstep with ⟨hpc, rfl⟩ | ⟨hpc, rfl⟩ | ⟨hpc, rfl⟩
  · have hflags : (s.collector.submitPush result).successFlag = s.collector.successFlag ∧
        (s.collector.submitPush result).landedFailedFlag = s.collector.landedFailedFlag := by
      unfold ResultCollector.submitPush
      split <;> exact ⟨rfl, rfl⟩
    constructor
    · intro hup
      obtain ⟨t, ht, hsuccess⟩ := hf.success (hflags.1 ▸ hup)
      exact ⟨t, hkeep ht, hsuccess⟩
    · intro hup
      obtain ⟨t, ht, hlanded⟩ := hf.landedFailed (hflags.2 ▸ hup)
      exact ⟨t, hkeep ht, hlanded⟩
  · have hmem : result ∈ s.pushedResults results :=
      List.mem_filterMap.mpr ⟨i, (h.mem_pushed i).mpr (by simp [hpc]), hresult⟩
    constructor
    · intro hup
      by_cases hsuccess : result.success = true
      · exact ⟨result, hmem, hsuccess⟩
      · refine hf.success ?_
        rw [← hup]
        simp only [ResultCollector.submitFlag, if_neg hsuccess]
        split_ifs <;> rfl
    · intro hup
      by_cases hlanded : result.success = false ∧ result.landedOnChain = true
      · exact ⟨result, hmem, hlanded⟩
      · refine hf.landedFailed ?_
        rw [← hup]
        simp only [ResultCollector.submitFlag]
        split_ifs with hsuccess hl
        · rfl
        · exact absurd ⟨Bool.eq_false_iff.mpr hsuccess, hl⟩ hlanded
        · rfl
  · exact ⟨hf.success, hf.landedFailed⟩

theorem waiterStep_flags {W : Type} {s : Sys n W} (hf : FlagInv results s) (elapsed : Bool) (o : WaiterOp W) :
    FlagInv results (s.waiterStep elapsed o) := by
  rcases waiterStep_cases s elapsed o with ⟨w, hw⟩ | ⟨k, result, rest, -, -, hw⟩
  · rw [hw]
    exact ⟨hf.success, hf.landedFailed⟩
  · rw [hw]
    exact ⟨hf.success, hf.landedFailed⟩

theorem taskStep_flags_up {W : Type} {s s' : Sys n W} {i : Fin n} {result : TaskResult}
    (h : s.taskStep i result = some s') :
    (s.collector.successFlag = true → s'.collector.successFlag = true) ∧
      (s.collector.landedFailedFlag = true → s'.collector.landedFailedFlag = true) := by
  rcases taskStep_cases h with ⟨-, rfl⟩ | ⟨-, rfl⟩ | ⟨-, rfl⟩
  · simp only [ResultCollector.submitPush]
    split <;> exact ⟨id, id⟩
  · simp only [ResultCollector.submitFlag]
    split_ifs
    · exact ⟨fun _ => rfl, id⟩
    · exact ⟨id, fun _ => rfl⟩
    · exact ⟨id, id⟩
  · exact ⟨id, id⟩

/-! ## The waiter -/

theorem taskStep_successInv {s s' : Sys n SuccessWaiter} {i : Fin n} {result : TaskResult} (h : Inv results s)
    (hI : SuccessInv results s) (hstep : s.taskStep i result = some s') : SuccessInv results s' := by
  obtain ⟨hpc, hwaiter, hpop, more, hpush⟩ := taskStep_frame hstep
  have htaken := taken_append h hpop hpush
  obtain ⟨hsuccess, hlanded⟩ := taskStep_flags_up hstep
  unfold SuccessInv at hI ⊢
  rw [hwaiter, htaken, hpop]
  cases hw : s.waiter with
  | drainSuccess d =>
    rw [hw] at hI
    exact ⟨hI.1, hsuccess hI.2⟩
  | drainLanded d =>
    rw [hw] at hI
    exact ⟨hI.1, hlanded hI.2⟩
  | drainCompleted d =>
    rw [hw] at hI
    exact absurd (hI.2 i) hpc
  | returned result =>
    rw [hw] at hI
    cases result <;> exact hI
  | _ => rwa [hw] at hI

theorem taken_eq_nil {W : Type} {s : Sys n W} (h : s.popped = 0) : s.taken results = [] := by
  rw [taken, h, List.take_zero]

theorem Inv.taken_pop {W : Type} {s : Sys n W} (h : Inv results s) {result : TaskResult}
    {rest : ArrayQueue TaskResult} (hpop : s.collector.results.pop = some (result, rest)) :
    (s.pushedResults results).take (s.popped + 1) = s.taken results ++ [result] :=
  (h.of_pop hpop).2.1

theorem Inv.taken_eq_all {W : Type} {s : Sys n W} (h : Inv results s) (hpop : s.collector.results.pop = none) :
    s.taken results = s.pushedResults results := by
  rw [taken, h.of_pop_eq_none hpop, List.take_length]

/-- Where all tasks have reported, and there are some, something was pushed. -/
theorem Inv.pushedResults_ne_nil {W : Type} {s : Sys n W} (h : Inv results s)
    (hall : ∀ i, s.pc i = .reported) : s.pushedResults results ≠ [] := by
  have hn : 0 < n := h.capacity ▸ s.collector.results.capacity_pos
  have hmem : (⟨0, hn⟩ : Fin n) ∈ s.pushed := (h.mem_pushed _).mpr (by simp [hall])
  obtain ⟨t, ht⟩ := Option.isSome_iff_exists.mp (h.hasResult _ hmem)
  exact List.ne_nil_of_mem (List.mem_filterMap.mpr ⟨_, hmem, ht⟩)

/-- In a drain the local variables are those of the results taken, and what was read before still
holds. -/
theorem WaitInv.drain {s : Sys n SuccessWaiter} (h : WaitInv results s) {k : Drain} {d : Drained}
    (hw : s.waiter = k.waiter d) : d = k.of (s.taken results) ∧ k.Justified s := by
  have hI := h.waiter
  unfold SuccessInv at hI
  rw [hw] at hI
  cases k <;> exact hI

/-- Where a drain finds the queue empty it has taken something: what was read before tells of a
result. -/
theorem WaitInv.signatures_ne_nil {s : Sys n SuccessWaiter} (h : WaitInv results s) {k : Drain} {d : Drained}
    (hw : s.waiter = k.waiter d) (hpop : s.collector.results.pop = none) : d.signatures ≠ [] := by
  obtain ⟨rfl, hk⟩ := h.drain hw
  have hne : s.taken results ≠ [] := by
    rw [h.inv.taken_eq_all hpop]
    cases k with
    | success =>
      obtain ⟨t, ht, -⟩ := h.flags.success hk
      exact List.ne_nil_of_mem ht
    | landed =>
      obtain ⟨t, ht, -⟩ := h.flags.landedFailed hk
      exact List.ne_nil_of_mem ht
    | completed => exact h.inv.pushedResults_ne_nil hk
  rwa [k.of_signatures, Ne, List.map_eq_nil_iff]

/-! ### What the waiter does next -/

/-- What the waiter can do next where the invariants hold: no drain ends without a result. -/
inductive Move (results : Fin n → Option TaskResult) (s : Sys n SuccessWaiter) (elapsed : Bool) :
    Sys n SuccessWaiter → Prop
  | look {w : SuccessWaiter} (hs : s.waiter.Idle) (hw : w.Idle) (hclock : s.waiter = .readClock → elapsed = false) :
      Move results s elapsed { s with waiter := w }
  | giveUp (hs : s.waiter = .readClock) (helapsed : elapsed = true) :
      Move results s elapsed { s with waiter := .returned none }
  | start {k : Drain} (hs : s.waiter.Idle) (hclock : s.waiter ≠ .readClock) (hk : k.Justified s) :
      Move results s elapsed { s with waiter := k.waiter Drained.empty }
  | pop {k : Drain} {d : Drained} {result : TaskResult} {rest : ArrayQueue TaskResult}
      (hs : s.waiter = k.waiter d) (hk : k.Justified s) (hpop : s.collector.results.pop = some (result, rest)) :
      Move results s elapsed { s with
        collector := { s.collector with results := rest }
        waiter := k.waiter (k.of (s.taken results ++ [result]))
        popped := s.popped + 1 }
  | finish {k : Drain} {d : Drained} {r : SwapResult} (hs : s.waiter = k.waiter d)
      (hpop : s.collector.results.pop = none) (hsignatures : r.signatures = (s.taken results).map TaskResult.signature)
      (hverdict : k.Verdict (s.taken results) r.success) :
      Move results s elapsed { s with waiter := .returned (some r) }

theorem WaitInv.popped_eq_zero {s : Sys n SuccessWaiter} (h : WaitInv results s) (hs : s.waiter.Idle) :
    s.popped = 0 := by
  have hI := h.waiter
  unfold SuccessInv at hI
  cases hw : s.waiter <;> rw [hw] at hI hs <;> first | exact hI | exact hs.elim

theorem WaitInv.drain_move {s : Sys n SuccessWaiter} (h : WaitInv results s) {k : Drain} {d : Drained}
    (hw : s.waiter = k.waiter d) (elapsed : Bool) {o : WaiterOp SuccessWaiter}
    (ho : SuccessWaiter.op s.waiter = some o) : Move results s elapsed (s.waiterStep elapsed o) := by
  obtain ⟨rfl, hk⟩ := h.drain hw
  rw [hw] at ho
  cases hpop : s.collector.results.pop with
  | some p =>
    have hnext := k.of_append (s.taken results) p.1
    cases k <;> obtain rfl := Option.some.inj ho <;> simp only [waiterStep, hpop, ← hnext]
    · exact .pop (k := .success) hw hk hpop
    · exact .pop (k := .landed) hw hk hpop
    · exact .pop (k := .completed) hw hk hpop
  | none =>
    have hne := h.signatures_ne_nil hw hpop
    have hsignatures := k.of_signatures (s.taken results)
    cases k with
    | success =>
      obtain rfl := Option.some.inj ho
      obtain ⟨t, ht, hsuccess⟩ := h.flags.success hk
      rw [← h.inv.taken_eq_all hpop] at ht
      have hhas := (Drained.of_spec (s.taken results)).2.1.mpr ⟨t, ht, hsuccess⟩
      simp only [waiterStep, hpop]
      rw [if_pos ⟨hhas, hne⟩]
      exact .finish (k := .success) hw hpop hsignatures ⟨rfl, t, ht, hsuccess⟩
    | landed =>
      obtain rfl := Option.some.inj ho
      simp only [waiterStep, hpop, if_pos hne]
      exact .finish (k := .landed) hw hpop hsignatures rfl
    | completed =>
      obtain rfl := Option.some.inj ho
      simp only [waiterStep, hpop, Drained.finish, if_pos hne]
      exact .finish (k := .completed) hw hpop hsignatures (Drained.of_spec (s.taken results)).2.1

/-- **Every step of the waiter** is one of these. -/
theorem WaitInv.waiterStep_move {s : Sys n SuccessWaiter} (h : WaitInv results s) (elapsed : Bool)
    {o : WaiterOp SuccessWaiter} (ho : SuccessWaiter.op s.waiter = some o) :
    Move results s elapsed (s.waiterStep elapsed o) := by
  have hidle : ∀ {w : SuccessWaiter}, s.waiter = w → w.Idle → s.waiter.Idle := fun hw hidle => hw ▸ hidle
  cases hw : s.waiter with
  | loadSuccess =>
    rw [hw] at ho
    obtain rfl := Option.some.inj ho
    by_cases hflag : s.collector.successFlag = true
    · simp only [waiterStep, hflag, if_true]
      exact .start (k := .success) (hidle hw trivial) (by simp [hw]) hflag
    · simp only [waiterStep, if_neg hflag]
      exact .look (hidle hw trivial) trivial (by simp [hw])
  | loadLandedFailed =>
    rw [hw] at ho
    obtain rfl := Option.some.inj ho
    by_cases hflag : s.collector.landedFailedFlag = true
    · simp only [waiterStep, hflag, if_true]
      exact .start (k := .landed) (hidle hw trivial) (by simp [hw]) hflag
    · simp only [waiterStep, if_neg hflag]
      exact .look (hidle hw trivial) trivial (by simp [hw])
  | loadCompleted =>
    rw [hw] at ho
    obtain rfl := Option.some.inj ho
    by_cases hfull : s.collector.totalTasks ≤ s.collector.completedCount
    · simp only [waiterStep, if_pos hfull]
      exact .start (k := .completed) (hidle hw trivial) (by simp [hw])
        (h.inv.all_reported (by rwa [h.inv.totalTasks] at hfull))
    · simp only [waiterStep, if_neg hfull]
      exact .look (hidle hw trivial) trivial (by simp [hw])
  | readClock =>
    rw [hw] at ho
    obtain rfl := Option.some.inj ho
    cases elapsed with
    | true => exact .giveUp hw rfl
    | false => exact .look (hidle hw trivial) trivial fun _ => rfl
  | drainSuccess d => exact h.drain_move (k := .success) hw elapsed ho
  | drainLanded d => exact h.drain_move (k := .landed) hw elapsed ho
  | drainCompleted d => exact h.drain_move (k := .completed) hw elapsed ho
  | returned r =>
    rw [hw] at ho
    cases ho

theorem Move.successInv {s s' : Sys n SuccessWaiter} {elapsed : Bool} (h : WaitInv results s)
    (hmove : Move results s elapsed s') : SuccessInv results s' := by
  cases hmove with
  | @look w hs hw hclock =>
    have hpopped := h.popped_eq_zero hs
    cases w <;> first | exact hpopped | exact hw.elim
  | giveUp hs helapsed => exact h.popped_eq_zero (by rw [hs]; trivial)
  | @start k hs hclock hk =>
    have hnil : Drained.empty = k.of (s.taken results) := by
      rw [taken_eq_nil (h.popped_eq_zero hs), k.of_nil]
    cases k <;> exact ⟨hnil, hk⟩
  | @pop k d result rest hs hk hpop =>
    have htaken := h.inv.taken_pop hpop
    cases k <;> exact ⟨congrArg _ htaken.symm, hk⟩
  | @finish k d r hs hpop hsignatures hverdict =>
    refine ⟨hsignatures, fun hsuccess => ?_⟩
    cases k with
    | success => exact hverdict.2
    | landed => exact absurd (hsuccess.symm.trans hverdict) (by decide)
    | completed => exact hverdict.mp hsuccess

/-- **Every step** keeps the invariants. -/
theorem step_waitInv {s s' : Sys n SuccessWaiter} {a : Action n} (h : WaitInv results s)
    (hstep : s.step results SuccessWaiter.op a = some s') : WaitInv results s' := by
  have hinv := step_inv h.inv hstep
  cases a with
  | task i =>
    obtain ⟨result, hresult, htask⟩ := Option.bind_eq_some_iff.mp hstep
    exact ⟨hinv, taskStep_flags h.inv h.flags hresult htask, taskStep_successInv h.inv h.waiter htask⟩
  | waiter elapsed =>
    obtain ⟨o, ho, rfl⟩ := Option.map_eq_some_iff.mp hstep
    exact ⟨hinv, waiterStep_flags h.flags elapsed o, (h.waiterStep_move elapsed ho).successInv h⟩

theorem start_waitInv {collector : ResultCollector} (hnew : ResultCollector.new n = .ret collector) :
    WaitInv results (start n collector .loadSuccess) := by
  refine ⟨start_inv hnew _, ?_, Eq.refl (0 : ℕ)⟩
  obtain ⟨q, -, hc⟩ := Outcome.bind_eq_ret.mp hnew
  obtain rfl := Outcome.ret.inj hc
  exact ⟨fun h => Bool.noConfusion h, fun h => Bool.noConfusion h⟩

/-! ## Contradictions -/

/-- The waiter has popped a success in the drain after a landed failure, or has returned a failure
with a successful result. -/
def Contradicts (results : Fin n → Option TaskResult) (s : Sys n SuccessWaiter) : Prop :=
  match s.waiter with
  | .drainLanded _ => ∃ t ∈ s.taken results, t.success = true
  | .returned (some r) => r.success = false ∧ ∃ t ∈ s.taken results, t.success = true
  | _ => False

/-- The step pops a successful result in the drain after a landed failure. -/
def PopsSuccessLanded (s : Sys n SuccessWaiter) (a : Action n) : Prop :=
  ∃ elapsed d result rest, a = .waiter elapsed ∧ s.waiter = .drainLanded d ∧
    s.collector.results.pop = some (result, rest) ∧ result.success = true

/-- There is no contradiction outside of the landed drain and before the return. -/
theorem not_contradicts_or_pops {s : Sys n SuccessWaiter} (hdrain : ∀ d, s.waiter ≠ .drainLanded d)
    (hret : ∀ r, s.waiter ≠ .returned r) (a : Action n) :
    ¬ (Contradicts results s ∨ PopsSuccessLanded s a) := by
  rintro (hc | ⟨_, d, _, _, -, hw, -⟩)
  · unfold Contradicts at hc
    split at hc
    · next d hw => exact hdrain d hw
    · next r hw => exact hret _ hw
    · exact hc
  · exact hdrain d hw

theorem not_contradicts_of_idle {s : Sys n SuccessWaiter} (hs : s.waiter.Idle) (a : Action n) :
    ¬ (Contradicts results s ∨ PopsSuccessLanded s a) :=
  not_contradicts_or_pops (fun d hw => by simp [hw, SuccessWaiter.Idle] at hs)
    (fun r hw => by simp [hw, SuccessWaiter.Idle] at hs) a

theorem taskStep_contradicts {s s' : Sys n SuccessWaiter} {i : Fin n} {result : TaskResult} (h : Inv results s)
    (hstep : s.taskStep i result = some s') : Contradicts results s' ↔ Contradicts results s := by
  obtain ⟨-, hwaiter, hpop, more, hpush⟩ := taskStep_frame hstep
  unfold Contradicts
  rw [hwaiter, taken_append h hpop hpush]

/-- A pop in the landed drain brings a contradiction about where it takes a success. -/
theorem WaitInv.popLanded_contradicts {s : Sys n SuccessWaiter} (h : WaitInv results s) {d : Drained}
    (hs : s.waiter = .drainLanded d) {result : TaskResult} {rest : ArrayQueue TaskResult}
    (hpop : s.collector.results.pop = some (result, rest)) (elapsed : Bool) :
    (∃ t ∈ (s.pushedResults results).take (s.popped + 1), t.success = true) ↔
      Contradicts results s ∨ PopsSuccessLanded s (.waiter elapsed) := by
  have hbefore : Contradicts results s ↔ ∃ t ∈ s.taken results, t.success = true := by
    simp only [Contradicts, hs]
  have hpops : PopsSuccessLanded s (.waiter elapsed) ↔ result.success = true := by
    constructor
    · rintro ⟨_, _, _, _, -, -, hsome, hsuccess⟩
      obtain ⟨rfl, -⟩ := Prod.mk.inj (Option.some.inj (hpop.symm.trans hsome))
      exact hsuccess
    · exact fun hsuccess => ⟨elapsed, d, result, rest, rfl, hs, hpop, hsuccess⟩
  rw [hbefore, hpops, h.inv.taken_pop hpop]
  simp [or_and_right, exists_or]

/-- **The waiter brings a contradiction about exactly where it pops a success in the landed
drain.** -/
theorem Move.contradicts {s s' : Sys n SuccessWaiter} {elapsed : Bool} (h : WaitInv results s)
    (hmove : Move results s elapsed s') :
    Contradicts results s' ↔ Contradicts results s ∨ PopsSuccessLanded s (.waiter elapsed) := by
  cases hmove with
  | @look w hs hw hclock =>
    refine iff_of_false (fun hc => ?_) (not_contradicts_of_idle hs _)
    exact not_contradicts_of_idle (s := { s with waiter := w }) hw (.waiter elapsed) (Or.inl hc)
  | giveUp hs helapsed =>
    exact iff_of_false id (not_contradicts_of_idle (by rw [hs]; trivial) _)
  | @start k hs hclock hk =>
    refine iff_of_false (fun hc => ?_) (not_contradicts_of_idle hs _)
    cases k with
    | landed =>
      obtain ⟨t, ht, -⟩ := hc
      change t ∈ s.taken results at ht
      rw [taken_eq_nil (h.popped_eq_zero hs)] at ht
      cases ht
    | success | completed => exact hc
  | @pop k d result rest hs hk hpop =>
    cases k with
    | landed => exact h.popLanded_contradicts hs hpop elapsed
    | success | completed =>
      exact iff_of_false id (not_contradicts_or_pops (by simp [hs, Drain.waiter]) (by simp [hs, Drain.waiter]) _)
  | @finish k d r hs hpop hsignatures hverdict =>
    cases k with
    | landed =>
      have hno : ¬ PopsSuccessLanded s (.waiter elapsed) := by
        rintro ⟨_, _, _, _, -, -, hsome, -⟩
        rw [hpop] at hsome
        cases hsome
      rw [or_iff_left hno]
      simp only [Contradicts, hs, Drain.waiter]
      exact and_iff_right hverdict
    | success =>
      refine iff_of_false (fun hc => ?_)
        (not_contradicts_or_pops (by simp [hs, Drain.waiter]) (by simp [hs, Drain.waiter]) _)
      exact Bool.noConfusion (hc.1.symm.trans hverdict.1)
    | completed =>
      refine iff_of_false (fun hc => ?_)
        (not_contradicts_or_pops (by simp [hs, Drain.waiter]) (by simp [hs, Drain.waiter]) _)
      exact Bool.noConfusion (hc.1.symm.trans (hverdict.mpr hc.2))

/-- **A step brings a contradiction about exactly where it pops a success in the landed drain**, and
takes none back. -/
theorem step_contradicts {s s' : Sys n SuccessWaiter} {a : Action n} (h : WaitInv results s)
    (hstep : s.step results SuccessWaiter.op a = some s') :
    Contradicts results s' ↔ Contradicts results s ∨ PopsSuccessLanded s a := by
  cases a with
  | task i =>
    obtain ⟨result, -, htask⟩ := Option.bind_eq_some_iff.mp hstep
    have hno : ¬ PopsSuccessLanded s (.task i) := by
      rintro ⟨_, _, _, _, htask, -⟩
      cases htask
    rw [taskStep_contradicts h.inv htask, or_iff_left hno]
  | waiter elapsed =>
    obtain ⟨o, ho, rfl⟩ := Option.map_eq_some_iff.mp hstep
    exact (h.waiterStep_move elapsed ho).contradicts h

/-! ## What is returned -/

/-- The signatures returned are those of the results popped, and a success is returned exactly where
one of these results is one. -/
def Consistent (results : Fin n → Option TaskResult) (s : Sys n SuccessWaiter) (r : SwapResult) : Prop :=
  r.signatures = (s.taken results).map TaskResult.signature ∧
    (r.success = true ↔ ∃ t ∈ s.taken results, t.success = true)

theorem WaitInv.consistent_iff {s : Sys n SuccessWaiter} (h : WaitInv results s) {r : SwapResult}
    (hret : s.waiter = .returned (some r)) : Consistent results s r ↔ ¬ Contradicts results s := by
  have hI := h.waiter
  unfold SuccessInv at hI
  rw [hret] at hI
  obtain ⟨hsignatures, hsuccess⟩ := hI
  unfold Consistent Contradicts
  rw [hret, and_iff_right hsignatures]
  constructor
  · rintro hiff ⟨hfalse, hex⟩
    exact Bool.noConfusion (hfalse.symm.trans (hiff.mpr hex))
  · intro hnot
    refine ⟨hsuccess, fun hex => ?_⟩
    by_contra hfalse
    exact hnot ⟨Bool.eq_false_iff.mpr hfalse, hex⟩

theorem exists_drainLanded {s : Sys n SuccessWaiter} (h : WaitInv results s) {d : Drained}
    (hw : s.waiter = .drainLanded d) : ∃ acts s' r, run (step results SuccessWaiter.op) s acts = some s' ∧
      s'.waiter = .returned (some r) ∧ r.success = false ∧ s'.taken results = s.pushedResults results := by
  generalize hk : s.collector.results.items.length = k
  induction k generalizing s d with
  | zero =>
    have hpop : s.collector.results.pop = none := ArrayQueue.pop_eq_none.mpr (List.length_eq_zero_iff.mp hk)
    have hne := h.signatures_ne_nil (k := .landed) hw hpop
    have hstep : step results SuccessWaiter.op s (.waiter false) =
        some { s with waiter := .returned (some ⟨false, d.signatures, d.lastError⟩) } := by
      simp [step, hw, SuccessWaiter.op, waiterStep, hpop, hne]
    exact ⟨[.waiter false], _, _, run_cons hstep [], rfl, rfl, h.inv.taken_eq_all hpop⟩
  | succ k ih =>
    obtain ⟨a, rest, hitems⟩ := List.exists_cons_of_length_eq_add_one hk
    obtain ⟨q, hpop, hq⟩ := ArrayQueue.exists_pop hitems
    have hstep : step results SuccessWaiter.op s (.waiter false) =
        some { s with
          collector := { s.collector with results := q }
          waiter := .drainLanded (d.addLanded a)
          popped := s.popped + 1 } := by
      simp [step, hw, SuccessWaiter.op, waiterStep, hpop]
    have hlength : q.items.length = k := by
      rw [hitems, List.length_cons] at hk
      rw [hq]
      omega
    obtain ⟨acts, s', r, hrun, hret, hfalse, htaken⟩ := ih (step_waitInv h hstep) rfl hlength
    exact ⟨.waiter false :: acts, s', r, (run_cons hstep acts).trans hrun, hret, hfalse, htaken⟩

section Run

variable {collector : ResultCollector} (hnew : ResultCollector.new n = .ret collector)
include hnew

theorem run_waitInv {acts : List (Action n)} {s : Sys n SuccessWaiter}
    (hrun : run (step results SuccessWaiter.op) (start n collector .loadSuccess) acts = some s) :
    WaitInv results s :=
  Base.run_inv (fun _ _ _ h hstep => step_waitInv h hstep) (start_waitInv hnew) hrun

/-- **A run ends without a contradiction exactly where none of its steps pops a success in the
landed drain.** -/
theorem not_contradicts_iff {acts : List (Action n)} {s : Sys n SuccessWaiter}
    (hrun : run (step results SuccessWaiter.op) (start n collector .loadSuccess) acts = some s) :
    ¬ Contradicts results s ↔
      Meets (step results SuccessWaiter.op) (fun s a => ¬ PopsSuccessLanded s a)
        (start n collector .loadSuccess) acts := by
  have hinv : ∀ s a s', WaitInv results s → step results SuccessWaiter.op s a = some s' → WaitInv results s' :=
    fun _ _ _ h hstep => step_waitInv h hstep
  rw [← always_iff (P := fun s => ¬ Contradicts results s) hinv (fun s a s' h hno hstep => ?_) acts
    (start_waitInv hnew) id]
  · constructor
    · refine always_of_last (P := fun s => ¬ Contradicts results s) hinv (fun s a s' h hstep hno hc => ?_)
        (start_waitInv hnew) hrun
      exact hno ((step_contradicts h hstep).mpr (Or.inl hc))
    · exact fun hal => hal.last hrun
  · rw [step_contradicts h hstep, or_iff_right hno]

/-- **The bad interleaving**: the waiter finds no success, a task fails on chain, the waiter finds
that, and another task pushes a success before the queue is drained. -/
theorem exists_contradiction {i j : Fin n} {a b : TaskResult} (hi : results i = some a) (hj : results j = some b)
    (ha : a.success = true) (hb : b.success = false) (hlanded : b.landedOnChain = true) :
    ∃ acts s r, run (step results SuccessWaiter.op) (start n collector .loadSuccess) acts = some s ∧
      s.waiter = .returned (some r) ∧ ¬ Consistent results s r := by
  have hne : i ≠ j := by
    rintro rfl
    obtain rfl := Option.some.inj (hi.symm.trans hj)
    exact Bool.noConfusion (ha.symm.trans hb)
  have hflag : collector.successFlag = false := by
    obtain ⟨q, -, hc⟩ := Outcome.bind_eq_ret.mp hnew
    rw [← Outcome.ret.inj hc]
  let afterFlag : Sys n SuccessWaiter :=
    { collector := (collector.submitPush b).submitFlag b
      pc := Function.update (Function.update (fun _ => .running) j .pushed) j .flagged
      waiter := .loadLandedFailed
      pushed := [j]
      popped := 0 }
  have hup : afterFlag.collector.landedFailedFlag = true := by
    simp [afterFlag, ResultCollector.submitFlag, hb, hlanded]
  have hpc : afterFlag.pc i = .running := by simp [afterFlag, hne]
  let draining : Sys n SuccessWaiter :=
    { afterFlag with
      collector := afterFlag.collector.submitPush a
      pc := Function.update afterFlag.pc i .pushed
      waiter := .drainLanded Drained.empty
      pushed := [j, i] }
  have hfailed : run (step results SuccessWaiter.op) (start n collector .loadSuccess)
      [.waiter false, .task j, .task j] = some afterFlag := by
    simp [run, step, start, SuccessWaiter.op, waiterStep, taskStep, hflag, hj, afterFlag]
  have hpushed : run (step results SuccessWaiter.op) afterFlag [.waiter false, .task i] = some draining := by
    have hw : step results SuccessWaiter.op afterFlag (.waiter false) =
        some { afterFlag with waiter := .drainLanded Drained.empty } := by
      simp only [step, afterFlag, SuccessWaiter.op, Option.map_some, waiterStep]
      rw [if_pos hup]
    have ht : step results SuccessWaiter.op { afterFlag with waiter := .drainLanded Drained.empty } (.task i) =
        some draining := by
      simp only [step, hi, Option.bind_some, taskStep, hpc]
      rfl
    rw [run_cons hw, run_cons ht, run_nil]
  have hrun := run_append_of hfailed hpushed
  obtain ⟨acts, s, r, hdrain, hret, hfalse, htaken⟩ := exists_drainLanded (run_waitInv hnew hrun) rfl
  refine ⟨_, s, r, run_append_of hrun hdrain, hret, fun hconsistent => ?_⟩
  have hmem : a ∈ s.taken results := by
    rw [htaken]
    exact List.mem_filterMap.mpr ⟨i, by simp [draining], hi⟩
  exact Bool.noConfusion (hfalse.symm.trans (hconsistent.2.mpr ⟨a, hmem, ha⟩))

/-- **When the success wait is consistent with what it collected.** A run returns what it should
exactly where none of its steps pops a successful result in the drain after a landed failure. All
runs of some results do exactly where these are not both a success and a landed failure. -/
theorem waitForSuccess_consistent_iff :
    (∀ acts s r, run (step results SuccessWaiter.op) (start n collector .loadSuccess) acts = some s →
      s.waiter = .returned (some r) →
        (Consistent results s r ↔
          Meets (step results SuccessWaiter.op) (fun s a => ¬ PopsSuccessLanded s a)
            (start n collector .loadSuccess) acts)) ∧
    ((∀ acts s r, run (step results SuccessWaiter.op) (start n collector .loadSuccess) acts = some s →
      s.waiter = .returned (some r) → Consistent results s r) ↔
        ∀ i j a b, results i = some a → results j = some b → a.success = true → b.success = false →
          b.landedOnChain = false) := by
  have hrunIff : ∀ acts s r, run (step results SuccessWaiter.op) (start n collector .loadSuccess) acts = some s →
      s.waiter = .returned (some r) → (Consistent results s r ↔
        Meets (step results SuccessWaiter.op) (fun s a => ¬ PopsSuccessLanded s a)
          (start n collector .loadSuccess) acts) := fun acts s r hrun hret =>
    ((run_waitInv hnew hrun).consistent_iff hret).trans (not_contradicts_iff hnew hrun)
  refine ⟨hrunIff, fun hall i j a b hi hj ha hb => ?_, fun hno acts s r hrun hret => ?_⟩
  · by_contra hlanded
    obtain ⟨acts, s, r, hrun, hret, hnot⟩ :=
      exists_contradiction hnew hi hj ha hb (Bool.not_eq_false _ ▸ hlanded)
    exact hnot (hall acts s r hrun hret)
  · refine (hrunIff acts s r hrun hret).mpr (meets_of_inv (I := WaitInv results)
      (fun _ _ _ h hstep => step_waitInv h hstep) (fun s a s' h _ => ?_) acts (start_waitInv hnew))
    rintro ⟨elapsed, d, result, rest, -, hw, hpop, hsuccess⟩
    obtain ⟨b, hb, hfailed, hlanded⟩ := h.flags.landedFailed (h.drain (k := .landed) hw).2
    obtain ⟨j, -, hj⟩ := List.mem_filterMap.mp hb
    have hmem : result ∈ s.pushedResults results :=
      List.mem_of_mem_take (h.inv.taken_pop hpop ▸ List.mem_append_right _ (List.mem_singleton.mpr rfl))
    obtain ⟨i, -, hi⟩ := List.mem_filterMap.mp hmem
    exact Bool.noConfusion ((hno i j result b hi hj hsuccess hfailed).symm.trans hlanded)

end Run

/-! ### Two tasks -/

/-- The first transaction is confirmed, the second one fails with this error, as its task reports it. -/
def mixedResults (error : Error) (i : Fin 2) : Option TaskResult :=
  if i = 0 then some ⟨true, ⟨1⟩, none, .jito, true⟩
  else some ⟨false, ⟨2⟩, some error, .default, isLandedError error⟩

/-- A failure that did not land cannot lead the waiter astray. -/
theorem waitForSuccess_consistent_refused : ∃ collector, ResultCollector.new 2 = .ret collector ∧
    ∀ acts s r, run (step (mixedResults (.other "connection refused")) SuccessWaiter.op)
      (start 2 collector .loadSuccess) acts = some s → s.waiter = .returned (some r) →
        Consistent (mixedResults (.other "connection refused")) s r := by
  refine ⟨_, rfl, (@waitForSuccess_consistent_iff 2 (mixedResults (.other "connection refused")) _ rfl).2.mpr ?_⟩
  intro i j a b _ hj _ hfailed
  unfold mixedResults at hj
  split_ifs at hj
  · obtain rfl := Option.some.inj hj
    contradiction
  · rw [← Option.some.inj hj]
    rfl

/-- The error of a swap that exceeds its slippage. -/
def sampleSlippage : Error :=
  .trade ⟨6004, "Error processing Instruction 3: custom program error: 0x1774 Slippage exceeded", some 3⟩

/-- A failure on chain, and a success that is pushed after the waiter has looked for one: the waiter
returns a failure with the signature of the successful transaction. -/
theorem waitForSuccess_inconsistent : ∃ collector s r, ResultCollector.new 2 = .ret collector ∧
    run (step (mixedResults sampleSlippage) SuccessWaiter.op) (start 2 collector .loadSuccess)
      [.waiter false, .task 1, .task 1, .waiter false, .task 0, .waiter false, .waiter false, .waiter false] =
        some s ∧
    s.waiter = .returned (some r) ∧ r.success = false ∧ r.signatures = [⟨2⟩, ⟨1⟩] ∧
    ¬ Consistent (mixedResults sampleSlippage) s r := by
  refine ⟨_, _, _, rfl, rfl, rfl, rfl, rfl, fun h => ?_⟩
  exact Bool.noConfusion (h.2.mpr ⟨⟨true, ⟨1⟩, none, .jito, true⟩, List.mem_cons_of_mem _ List.mem_cons_self, rfl⟩)

end Sys

end PumpTrade
