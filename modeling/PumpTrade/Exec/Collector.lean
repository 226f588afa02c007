import Mathlib.Logic.Function.Basic
import PumpTrade.Base.ArrayQueue
import PumpTrade.Base.Run
import PumpTrade.Chain.Key
import PumpTrade.Swqos.Error
import PumpTrade.Swqos.Types

/-!
# The result collector

`ResultCollector` of `trading/core/async_executor.rs` as a machine. Each task submits its result in
three atomic steps, while one waiter loads the flags and the counter and pops results.

* `ResultCollector.submitPush`, `submitFlag`, `submitCount`: the steps of `submit`;
* `AllWaiter`, `SuccessWaiter`: `wait_for_all_submitted` and `wait_for_success`, one atomic
  operation at a time;
* `Sys.step`: any interleaving of the tasks and the waiter. A task that panics never submits.
-/

namespace PumpTrade

open Base

/-- What a task reports. -/
structure TaskResult where
  success : Bool
  signature : Signature
  error : Option Error
  swqosType : SwqosType
  landedOnChain : Bool
  deriving DecidableEq, Repr

/-- The error tells that the transaction landed and failed on chain. Errors that are not a
`TradeError` are taken not to have landed, whether or not their text speaks of a timeout. -/
def isLandedError : Error → Bool
  | .trade e => if e.code = 500 ∧ containsText e.message "timed out" then false else decide (0 < e.code)
  | .other _ => false

/-- The shared state of the tasks and the waiter. -/
structure ResultCollector where
  results : ArrayQueue TaskResult
  successFlag : Bool
  landedFailedFlag : Bool
  completedCount : ℕ
  totalTasks : ℕ

namespace ResultCollector

/-- An empty queue for the results, both flags down. -/
def new (capacity : ℕ) : Outcome ResultCollector := do
  let results ← ArrayQueue.new TaskResult capacity
  .ret { results, successFlag := false, landedFailedFlag := false, completedCount := 0,
         totalTasks := capacity }

theorem exists_new {n : ℕ} (hn : 0 < n) : ∃ collector, new n = .ret collector :=
  ⟨_, by rw [new, ArrayQueue.new, dif_pos hn]; rfl⟩

variable (c : ResultCollector) (result : TaskResult)

/-- `submit`, first step; a result that does not fit is dropped. -/
def submitPush : ResultCollector :=
  match c.results.push result with
  | .ok results => { c with results }
  | .error _ => c

/-- `submit`, second step. -/
def submitFlag : ResultCollector :=
  if result.success then { c with successFlag := true }
  else if result.landedOnChain then { c with landedFailedFlag := true }
  else c

/-- `submit`, third step. -/
def submitCount : ResultCollector := { c with completedCount := c.completedCount + 1 }

@[simp] theorem submitFlag_results : (c.submitFlag result).results = c.results := by
  unfold submitFlag
  split_ifs <;> rfl

@[simp] theorem submitFlag_completedCount :
    (c.submitFlag result).completedCount = c.completedCount := by
  unfold submitFlag
  split_ifs <;> rfl

@[simp] theorem submitFlag_totalTasks : (c.submitFlag result).totalTasks = c.totalTasks := by
  unfold submitFlag
  split_ifs <;> rfl

@[simp] theorem submitPush_completedCount :
    (c.submitPush result).completedCount = c.completedCount := by
  unfold submitPush
  split <;> rfl

@[simp] theorem submitPush_totalTasks : (c.submitPush result).totalTasks = c.totalTasks := by
  unfold submitPush
  split <;> rfl

end ResultCollector

/-! ## The waiters -/

/-- The result of a trade: success, the signatures, the last error. -/
structure SwapResult where
  success : Bool
  signatures : List Signature
  error : Option Error
  deriving DecidableEq, Repr

/-- What a waiter does next, and how it goes on. -/
inductive WaiterOp (W : Type) where
  | loadSuccess (k : Bool → W)
  | loadLandedFailed (k : Bool → W)
  | loadCompleted (k : (completed totalTasks : ℕ) → W)
  | readClock (k : (elapsed : Bool) → W)
  | pop (k : Option TaskResult → W)

/-- The local variables of a loop that pops the results. -/
structure Drained where
  signatures : List Signature
  hasSuccess : Bool
  lastError : Option Error
  deriving DecidableEq, Repr

namespace Drained

/-- Before the first result. -/
def empty : Drained := ⟨[], false, none⟩

/-- One turn of the loop of `get_first`. -/
def add (d : Drained) (result : TaskResult) : Drained where
  signatures := d.signatures ++ [result.signature]
  hasSuccess := if result.success then true else d.hasSuccess
  lastError := if result.error.isSome then result.error else d.lastError

/-- One turn of the loop that looks for the error of the transaction that landed. -/
def addLanded (d : Drained) (result : TaskResult) : Drained where
  signatures := d.signatures ++ [result.signature]
  hasSuccess := d.hasSuccess
  lastError := if result.landedOnChain ∧ result.error.isSome then result.error else d.lastError

/-- What `get_first` returns. -/
def finish (d : Drained) : Option SwapResult :=
  if d.signatures ≠ [] then some ⟨d.hasSuccess, d.signatures, d.lastError⟩ else none

end Drained

/-- `wait_for_all_submitted`. `timedOut` records how its loop ended. -/
inductive AllWaiter where
  | loadCompleted
  | readClock
  | draining (timedOut : Bool) (d : Drained)
  | returned (timedOut : Bool) (result : Option SwapResult)
  deriving DecidableEq, Repr

/-- The next operation of the waiter for all results. -/
def AllWaiter.op : AllWaiter → Option (WaiterOp AllWaiter)
  | .loadCompleted => some (.loadCompleted fun completed totalTasks =>
      if completed < totalTasks then .readClock else .draining false Drained.empty)
  | .readClock => some (.readClock fun elapsed =>
      if elapsed then .draining true Drained.empty else .loadCompleted)
  | .draining timedOut d => some (.pop fun
      | some result => .draining timedOut (d.add result)
      | none => .returned timedOut d.finish)
  | .returned _ _ => none

/-- `wait_for_success`. -/
inductive SuccessWaiter where
  | loadSuccess
  | drainSuccess (d : Drained)
  | loadLandedFailed
  | drainLanded (d : Drained)
  | loadCompleted
  | drainCompleted (d : Drained)
  | readClock
  | returned (result : Option SwapResult)
  deriving DecidableEq, Repr

/-- The next operation of the waiter for a success. -/
def SuccessWaiter.op : SuccessWaiter → Option (WaiterOp SuccessWaiter)
  | .loadSuccess => some (.loadSuccess fun flag =>
      if flag then .drainSuccess Drained.empty else .loadLandedFailed)
  | .drainSuccess d => some (.pop fun
      | some result => .drainSuccess (d.add result)
      -- results popped without a success among them are gone
      | none => if d.hasSuccess ∧ d.signatures ≠ [] then .returned (some ⟨true, d.signatures, none⟩)
          else .loadLandedFailed)
  | .loadLandedFailed => some (.loadLandedFailed fun flag =>
      if flag then .drainLanded Drained.empty else .loadCompleted)
  | .drainLanded d => some (.pop fun
      | some result => .drainLanded (d.addLanded result)
      | none => if d.signatures ≠ [] then .returned (some ⟨false, d.signatures, d.lastError⟩)
          else .loadCompleted)
  | .loadCompleted => some (.loadCompleted fun completed totalTasks =>
      if totalTasks ≤ completed then .drainCompleted Drained.empty else .readClock)
  | .drainCompleted d => some (.pop fun
      | some result => .drainCompleted (d.add result)
      | none => .returned d.finish)
  | .readClock => some (.readClock fun elapsed => if elapsed then .returned none else .loadSuccess)
  | .returned _ => none

/-! ## Tasks and waiter together -/

/-- How far a task is in reporting. -/
inductive TaskPc where
  | running | pushed | flagged | reported
  deriving DecidableEq, Repr

/-- The state of `n` tasks and a waiter. `pushed` and `popped` record in which order results were
pushed and how many were popped. -/
structure Sys (n : ℕ) (W : Type) where
  collector : ResultCollector
  pc : Fin n → TaskPc
  waiter : W
  pushed : List (Fin n)
  popped : ℕ

/-- A step of a task, or of the waiter with what it reads off its clock. -/
inductive Action (n : ℕ) where
  | task (i : Fin n)
  | waiter (elapsed : Bool)
  deriving DecidableEq, Repr

namespace Sys

variable {n : ℕ} {W : Type} (results : Fin n → Option TaskResult) (op : W → Option (WaiterOp W))

/-- All tasks running, the waiter at its start. -/
def start (n : ℕ) (collector : ResultCollector) (waiter : W) : Sys n W :=
  { collector, pc := fun _ => .running, waiter, pushed := [], popped := 0 }

/-- The next step of task `i`. -/
def taskStep (s : Sys n W) (i : Fin n) (result : TaskResult) : Option (Sys n W) :=
  match s.pc i with
  | .running => some { s with
      collector := s.collector.submitPush result
      pc := Function.update s.pc i .pushed
      pushed := s.pushed ++ [i] }
  | .pushed => some { s with
      collector := s.collector.submitFlag result
      pc := Function.update s.pc i .flagged }
  | .flagged => some { s with
      collector := s.collector.submitCount
      pc := Function.update s.pc i .reported }
  | .reported => none

/-- The next step of the waiter. -/
def waiterStep (s : Sys n W) (elapsed : Bool) : WaiterOp W → Sys n W
  | .loadSuccess k => { s with waiter := k s.collector.successFlag }
  | .loadLandedFailed k => { s with waiter := k s.collector.landedFailedFlag }
  | .loadCompleted k => { s with waiter := k s.collector.completedCount s.collector.totalTasks }
  | .readClock k => { s with waiter := k elapsed }
  | .pop k =>
    match s.collector.results.pop with
    | none => { s with waiter := k none }
    | some (result, rest) => { s with
        collector := { s.collector with results := rest }
        waiter := k (some result)
        popped := s.popped + 1 }

/-- A step of a task or of the waiter. -/
def step (s : Sys n W) : Action n → Option (Sys n W)
  | .task i => (results i).bind fun result => s.taskStep i result
  | .waiter elapsed => (op s.waiter).map fun o => s.waiterStep elapsed o

/-- No task can take a step. -/
def TasksDone (s : Sys n W) : Prop := ∀ i, s.step results op (.task i) = none

end Sys

end PumpTrade
