import PumpTrade.Base.ArrayQueue
import PumpTrade.Base.Logged
import PumpTrade.Swqos.Error

/-!
# Batches of requests

`SyscallBatchProcessor` of `perf/syscall_bypass.rs`, with `submit_batch_io` and the worker that
`start_batch_processing` spawns. Any number of callers put requests into one queue, and any number of
workers take them out in batches and hand them, by kind, to the batch operations.

* `SyscallBatching.new`, `SyscallBatchProcessor.submitRequest`;
* `SyscallBatching.next`: the atomic operations of a caller or a worker, with what they come to;
* `SyscallBatching.Move`, `next_move`: all that an operation can do;
* `performedOf_perm`, `requestsOf_performedOf`: what grouping a batch drops, and what it keeps.
-/

namespace PumpTrade

open Base

/-! ## Requests -/

/-- A request for a system call. -/
inductive SyscallRequest where
  | write (fd : Int32) (data : List UInt8)
  | read (fd : Int32) (size : UInt64)
  | send (socket : Int32) (data : List UInt8)
  | recv (socket : Int32) (size : UInt64)
  | getTime
  | memAlloc (size : UInt64)
  | memFree (ptr : UInt64)
  deriving DecidableEq, Repr

/-- The batch operations, in the order in which a batch comes to them. -/
inductive IoKind where
  | write
  | read
  | network
  deriving DecidableEq, Repr

/-- The batch operation for a request. The other kinds are dropped when a batch is grouped. -/
def SyscallRequest.kind? : SyscallRequest → Option IoKind
  | write _ _ => some .write
  | read _ _ => some .read
  | send _ _ => some .network
  | recv _ _ | getTime | memAlloc _ | memFree _ => none

/-- The requests of a batch that go to one of the batch operations. -/
def requestsOf (kind : IoKind) (batch : List SyscallRequest) : List SyscallRequest :=
  batch.filter fun request => request.kind? = some kind

/-! ## The processor -/

/-- The requests that wait, and the number of batches. -/
structure SyscallBatchProcessor where
  pendingCalls : ArrayQueue SyscallRequest
  batchStats : UInt64

namespace SyscallBatchProcessor

/-- A queue of ten batches. -/
def new (batchSize : UInt64) : Outcome SyscallBatchProcessor := do
  let pendingCalls ← ArrayQueue.new SyscallRequest (batchSize * 10).toNat
  return { pendingCalls, batchStats := 0 }

/-- Queue a request. -/
def submitRequest (p : SyscallBatchProcessor) (request : SyscallRequest) :
    Except Error SyscallBatchProcessor :=
  match p.pendingCalls.push request with
  | .ok pendingCalls => .ok { p with pendingCalls }
  | .error _ => .error (.other "Batch queue full")

end SyscallBatchProcessor

/-- What a manager has for its batches: the switch, the processor, and two of the counters. -/
structure SyscallBatching where
  enableBatchProcessing : Bool
  batchProcessor : SyscallBatchProcessor
  syscallsBypassed : UInt64
  syscallsBatched : UInt64

/-- A manager with an empty queue. -/
def SyscallBatching.new (enableBatchProcessing : Bool) (batchSize : UInt64) : Outcome SyscallBatching := do
  let batchProcessor ← SyscallBatchProcessor.new batchSize
  return { enableBatchProcessing, batchProcessor, syscallsBypassed := 0, syscallsBatched := 0 }

/-! ## Callers and workers -/

/-- A call of `submit_batch_io` that has returned: how many of the operations the queue took, and what
was returned. -/
structure BatchAnswer where
  operations : List SyscallRequest
  submitted : ℕ
  result : Except Error Unit

/-- Where a party is: in `submit_batch_io`, or in `execute_batch` and what the worker does after it. -/
inductive BatchPoint where
  | ready
  | submitting (operations : List SyscallRequest) (submitted : ℕ)
  | collecting (batch : List SyscallRequest)
  | popping (batch : List SyscallRequest)
  | operating (kind : IoKind) (batch : List SyscallRequest)
  | counting (batch : List SyscallRequest)
  | tallying (processed : ℕ)

namespace BatchPoint

/-- Behind the loop of `execute_batch`. -/
def leave (batch : List SyscallRequest) : BatchPoint := if batch = [] then ready else operating .write batch

/-- The head of the loop of `execute_batch`. -/
def collect (batch : List SyscallRequest) : BatchPoint :=
  if batch.length < 100 then collecting batch else leave batch

end BatchPoint

/-- What a party does: call `submit_batch_io`, begin a round of the worker, or take the next atomic
operation of the call that it is in. -/
inductive BatchAct where
  | submitBatchIo (operations : List SyscallRequest)
  | tick
  | next

/-- What is seen of a step. -/
inductive BatchEvent where
  | queued (request : SyscallRequest)
  | answered (answer : BatchAnswer)
  | collected (request : SyscallRequest)
  | performed (requests : List SyscallRequest)
  | executed (batch : List SyscallRequest)
  | tallied (processed : ℕ)

/-- A batch operation is called where the batch has requests for it. -/
def BatchEvent.operation (kind : IoKind) (batch : List SyscallRequest) : List BatchEvent :=
  if requestsOf kind batch = [] then [] else [.performed (requestsOf kind batch)]

open BatchPoint BatchEvent in
/-- What an action does at a point of the code. -/
def SyscallBatching.next (m : SyscallBatching) :
    BatchPoint → BatchAct → Option (SyscallBatching × BatchPoint × List BatchEvent)
  | .ready, .submitBatchIo operations =>
    if m.enableBatchProcessing then some (m, .submitting operations 0, [])
    else some (m, .ready, [.answered ⟨operations, 0, .error (.other "Batch processing disabled")⟩])
  | .ready, .tick => some (m, collect [], [])
  | .submitting operations submitted, .next =>
    match operations[submitted]? with
    | some op =>
      match m.batchProcessor.submitRequest op with
      | .ok batchProcessor =>
        some ({ m with batchProcessor }, .submitting operations (submitted + 1), [.queued op])
      | .error e => some (m, .ready, [.answered ⟨operations, submitted, .error e⟩])
    | none =>
      some ({ m with syscallsBatched := m.syscallsBatched + 1 }, .ready,
        [.answered ⟨operations, submitted, .ok ()⟩])
  | .collecting batch, .next =>
    if m.batchProcessor.pendingCalls.items = [] then some (m, leave batch, [])
    else some (m, .popping batch, [])
  | .popping batch, .next =>
    match m.batchProcessor.pendingCalls.pop with
    -- another worker was faster
    | none => some (m, collect batch, [])
    | some (request, pendingCalls) =>
      some ({ m with batchProcessor := { m.batchProcessor with pendingCalls } }, collect (batch ++ [request]),
        [.collected request])
  | .operating .write batch, .next => some (m, .operating .read batch, operation .write batch)
  | .operating .read batch, .next => some (m, .operating .network batch, operation .read batch)
  | .operating .network batch, .next => some (m, .counting batch, operation .network batch)
  | .counting batch, .next =>
    some
      ({ m with batchProcessor := { m.batchProcessor with batchStats := m.batchProcessor.batchStats + 1 } },
        .tallying batch.length, [.executed batch])
  | .tallying processed, .next =>
    some ({ m with syscallsBypassed := m.syscallsBypassed + UInt64.ofNat processed }, .ready,
      [.tallied processed])
  | _, _ => none

/-! ## What an operation can do -/

namespace SyscallBatching

/-- The requests that wait in the queue. -/
def pending (m : SyscallBatching) : List SyscallRequest := m.batchProcessor.pendingCalls.items

open BatchPoint BatchEvent

/-- One case for each outcome of `next`. -/
inductive Move (m : SyscallBatching) :
    BatchPoint → SyscallBatching → BatchPoint → List BatchEvent → Prop where
  | disabled (operations : List SyscallRequest) (h : m.enableBatchProcessing = false) :
    Move m .ready m .ready [.answered ⟨operations, 0, .error (.other "Batch processing disabled")⟩]
  | submit (operations : List SyscallRequest) (h : m.enableBatchProcessing = true) :
    Move m .ready m (.submitting operations 0) []
  | tick : Move m .ready m (.collecting []) []
  | push (operations : List SyscallRequest) (submitted : ℕ) (op : SyscallRequest)
    (pendingCalls : ArrayQueue SyscallRequest)
    (hop : operations[submitted]? = some op) (hitems : pendingCalls.items = m.pending ++ [op]) :
    Move m (.submitting operations submitted)
      { m with batchProcessor := { m.batchProcessor with pendingCalls } }
      (.submitting operations (submitted + 1)) [.queued op]
  | full (operations : List SyscallRequest) (submitted : ℕ) (h : submitted < operations.length)
    (hfull : m.batchProcessor.pendingCalls.capacity ≤ m.pending.length) :
    Move m (.submitting operations submitted) m .ready
      [.answered ⟨operations, submitted, .error (.other "Batch queue full")⟩]
  | submitted (operations : List SyscallRequest) (submitted : ℕ) (h : operations.length ≤ submitted) :
    Move m (.submitting operations submitted) { m with syscallsBatched := m.syscallsBatched + 1 } .ready
      [.answered ⟨operations, submitted, .ok ()⟩]
  | empty (batch : List SyscallRequest) (h : m.pending = []) : Move m (.collecting batch) m (leave batch) []
  | found (batch : List SyscallRequest) (h : m.pending ≠ []) : Move m (.collecting batch) m (.popping batch) []
  | beaten (batch : List SyscallRequest) (h : m.pending = []) : Move m (.popping batch) m (collect batch) []
  | pop (batch : List SyscallRequest) (request : SyscallRequest) (pendingCalls : ArrayQueue SyscallRequest)
    (hitems : m.pending = request :: pendingCalls.items) :
    Move m (.popping batch) { m with batchProcessor := { m.batchProcessor with pendingCalls } }
      (collect (batch ++ [request])) [.collected request]
  | write (batch : List SyscallRequest) :
    Move m (.operating .write batch) m (.operating .read batch) (operation .write batch)
  | read (batch : List SyscallRequest) :
    Move m (.operating .read batch) m (.operating .network batch) (operation .read batch)
  | network (batch : List SyscallRequest) :
    Move m (.operating .network batch) m (.counting batch) (operation .network batch)
  | count (batch : List SyscallRequest) :
    Move m (.counting batch)
      { m with batchProcessor := { m.batchProcessor with batchStats := m.batchProcessor.batchStats + 1 } }
      (.tallying batch.length) [.executed batch]
  | tally (processed : ℕ) :
    Move m (.tallying processed) { m with syscallsBypassed := m.syscallsBypassed + UInt64.ofNat processed }
      .ready [.tallied processed]

theorem next_move {m m' : SyscallBatching} {point point' : BatchPoint} {a : BatchAct}
    {events : List BatchEvent} (h : m.next point a = some (m', point', events)) :
    Move m point m' point' events := by
  cases point with
  | ready =>
    cases a with
    | submitBatchIo operations =>
      simp only [next] at h
      split_ifs at h with henabled
      · cases h; exact .submit operations henabled
      · cases h; exact .disabled operations (Bool.eq_false_iff.mpr henabled)
    | tick => cases h; exact .tick
    | next => cases h
  | submitting operations submitted =>
    cases a with
    | submitBatchIo _ => cases h
    | tick => cases h
    | next =>
      simp only [next, SyscallBatchProcessor.submitRequest] at h
      split at h
      · next op hop =>
        by_cases hroom : m.pending.length < m.batchProcessor.pendingCalls.capacity
        · obtain ⟨pendingCalls, hpush, -, hitems⟩ := ArrayQueue.exists_push hroom op
          rw [hpush] at h
          cases h
          exact .push operations submitted op pendingCalls hop hitems
        · rw [show m.batchProcessor.pendingCalls.push op = .error op from dif_neg hroom] at h
          cases h
          exact .full operations submitted (List.getElem?_eq_some_iff.mp hop).1 (Nat.not_lt.mp hroom)
      · next hop =>
        cases h
        exact .submitted operations submitted (List.getElem?_eq_none_iff.mp hop)
  | collecting batch =>
    cases a with
    | submitBatchIo _ => cases h
    | tick => cases h
    | next =>
      simp only [next] at h
      split_ifs at h with hempty
      · cases h; exact .empty batch hempty
      · cases h; exact .found batch hempty
  | popping batch =>
    cases a with
    | submitBatchIo _ => cases h
    | tick => cases h
    | next =>
      simp only [next] at h
      split at h
      · next hpop => cases h; exact .beaten batch (ArrayQueue.pop_eq_none.mp hpop)
      · next request pendingCalls hpop =>
        cases h
        exact .pop batch request pendingCalls (ArrayQueue.pop_eq_some hpop).1
  | operating kind batch =>
    cases a with
    | submitBatchIo _ => cases kind <;> cases h
    | tick => cases kind <;> cases h
    | next =>
      cases kind with
      | write => cases h; exact .write batch
      | read => cases h; exact .read batch
      | network => cases h; exact .network batch
  | counting batch =>
    cases a with
    | submitBatchIo _ => cases h
    | tick => cases h
    | next => cases h; exact .count batch
  | tallying processed =>
    cases a with
    | submitBatchIo _ => cases h
    | tick => cases h
    | next => cases h; exact .tally processed

end SyscallBatching

/-! ## Grouping -/

/-- What the batch operations are handed of one batch. -/
def performedOf (batch : List SyscallRequest) : List SyscallRequest :=
  requestsOf .write batch ++ requestsOf .read batch ++ requestsOf .network batch

theorem performedOf_perm (batch : List SyscallRequest) :
    (performedOf batch).Perm (batch.filter (·.kind?.isSome)) := by
  induction batch with
  | nil => exact .nil
  | cons request batch ih =>
    have hcons : ∀ kind, request.kind? = some kind → ∀ other, requestsOf other (request :: batch) =
        if other = kind then request :: requestsOf other batch else requestsOf other batch := by
      intro kind hkind other
      rw [requestsOf, List.filter_cons, hkind]
      simp [requestsOf, eq_comm]
    cases hkind : request.kind? with
    | none =>
      have hnone : ∀ kind, requestsOf kind (request :: batch) = requestsOf kind batch := fun kind =>
        List.filter_cons_of_neg (by simp [hkind])
      rw [performedOf, hnone, hnone, hnone, List.filter_cons_of_neg (by simp [hkind])]
      exact ih
    | some kind =>
      rw [performedOf, hcons kind hkind, hcons kind hkind, hcons kind hkind,
        List.filter_cons_of_pos (by simp [hkind])]
      -- the request stands first among those of its kind
      cases kind with
      | write => exact ih.cons request
      | read => exact ((List.perm_middle.append_right _).trans (.of_eq (List.cons_append ..))).trans (ih.cons request)
      | network => exact List.perm_middle.trans (ih.cons request)

theorem requestsOf_performedOf (kind : IoKind) (batch : List SyscallRequest) :
    requestsOf kind (performedOf batch) = requestsOf kind batch := by
  have hself : requestsOf kind (requestsOf kind batch) = requestsOf kind batch := by simp [requestsOf]
  have hother : ∀ other, other ≠ kind → requestsOf kind (requestsOf other batch) = [] := by
    intro other hne
    simp only [requestsOf, List.filter_filter, List.filter_eq_nil_iff, Bool.and_eq_true, decide_eq_true_eq]
    rintro request - ⟨hkind, hkind'⟩
    exact hne (Option.some.inj (hkind'.symm.trans hkind))
  have happend : ∀ xs ys, requestsOf kind (xs ++ ys) = requestsOf kind xs ++ requestsOf kind ys := fun xs ys =>
    List.filter_append xs ys
  rw [performedOf, happend, happend]
  cases kind with
  | write => rw [hself, hother .read (by decide), hother .network (by decide), List.append_nil, List.append_nil]
  | read => rw [hself, hother .write (by decide), hother .network (by decide), List.append_nil, List.nil_append]
  | network => rw [hself, hother .write (by decide), hother .read (by decide)]; rfl

end PumpTrade
