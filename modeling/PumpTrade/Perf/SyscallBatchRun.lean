import Mathlib.Algebra.Order.Ring.Nat
import PumpTrade.Perf.SyscallBatch

/-!
# Batches in every interleaving

What the callers and the workers of `perf/syscall_bypass.rs` come to together.

* `Traffic`: what holds of the queue and the counters and all events; `Party`: what holds of a party
  and its own events;
* `Balanced`, **`next_keeps`**: every operation keeps both;
* `SyscallBatching.exists_drained`: a worker alone empties the queue;
* **`batches_conserved`**: no request that the queue took is lost, taken twice, or taken before one
  that came earlier.
-/

namespace PumpTrade

open Base

/-! ## What the events amount to -/

namespace BatchEvent

/-- The request that the queue took. -/
def queuedRequests : BatchEvent → List SyscallRequest
  | queued request => [request]
  | _ => []

/-- The call of `submit_batch_io` that returned. -/
def answers : BatchEvent → List BatchAnswer
  | answered answer => [answer]
  | _ => []

/-- The request that was taken out of the queue. -/
def collectedRequests : BatchEvent → List SyscallRequest
  | collected request => [request]
  | _ => []

/-- The requests that a batch operation was handed. -/
def performedRequests : BatchEvent → List SyscallRequest
  | performed requests => requests
  | _ => []

/-- The batch that was executed. -/
def batches : BatchEvent → List (List SyscallRequest)
  | executed batch => [batch]
  | _ => []

/-- The number that was added to `syscalls_bypassed`. -/
def tallies : BatchEvent → List ℕ
  | tallied processed => [processed]
  | _ => []

end BatchEvent

open BatchEvent BatchPoint
open scoped List

namespace BatchPoint

/-- What the queue took in the call that the party is in. -/
def queued : BatchPoint → List SyscallRequest
  | submitting operations submitted => operations.take submitted
  | _ => []

/-- What the party has taken out of the queue for a batch that is not executed yet. -/
def collected : BatchPoint → List SyscallRequest
  | collecting batch | popping batch | operating _ batch | counting batch => batch
  | _ => []

/-- What the batch operations were handed of that batch. -/
def performed : BatchPoint → List SyscallRequest
  | operating .read batch => requestsOf .write batch
  | operating .network batch => requestsOf .write batch ++ requestsOf .read batch
  | counting batch => performedOf batch
  | _ => []

/-- The size of the batch that is executed and not counted yet. -/
def untallied : BatchPoint → List ℕ
  | tallying processed => [processed]
  | _ => []

/-- The queue takes requests where the switch is on only. A batch under way is not empty once it is
collected, and never above 100. -/
inductive Valid (enabled : Bool) : BatchPoint → Prop where
  | ready : Valid enabled .ready
  | submitting {operations : List SyscallRequest} {submitted : ℕ} (h : enabled = true)
    (h' : submitted ≤ operations.length) : Valid enabled (.submitting operations submitted)
  | collecting {batch : List SyscallRequest} (h : batch.length < 100) : Valid enabled (.collecting batch)
  | popping {batch : List SyscallRequest} (h : batch.length < 100) : Valid enabled (.popping batch)
  | operating {kind : IoKind} {batch : List SyscallRequest} (h : batch ≠ []) (h' : batch.length ≤ 100) :
    Valid enabled (.operating kind batch)
  | counting {batch : List SyscallRequest} (h : batch ≠ []) (h' : batch.length ≤ 100) :
    Valid enabled (.counting batch)
  | tallying {processed : ℕ} : Valid enabled (.tallying processed)

variable {enabled : Bool} {batch : List SyscallRequest}

theorem valid_leave (h : batch.length ≤ 100) : (leave batch).Valid enabled := by
  unfold leave
  split_ifs with hempty
  · exact .ready
  · exact .operating hempty h

theorem valid_collect (h : batch.length ≤ 100) : (collect batch).Valid enabled := by
  unfold collect
  split_ifs with hlt
  · exact .collecting hlt
  · exact valid_leave h

theorem leave_eq (batch : List SyscallRequest) : (leave batch).collected = batch ∧ (leave batch).queued = [] ∧
    (leave batch).performed = [] ∧ (leave batch).untallied = [] := by
  unfold leave
  split_ifs with hempty
  · exact ⟨hempty.symm, rfl, rfl, rfl⟩
  · exact ⟨rfl, rfl, rfl, rfl⟩

theorem collect_eq (batch : List SyscallRequest) : (collect batch).collected = batch ∧
    (collect batch).queued = [] ∧ (collect batch).performed = [] ∧ (collect batch).untallied = [] := by
  unfold collect
  split_ifs with hlt
  · exact ⟨rfl, rfl, rfl, rfl⟩
  · exact leave_eq batch

end BatchPoint

/-- A call of `submit_batch_io` succeeds where the queue took all operations, and fails at the first
that it did not take, or at once where the switch is off. -/
inductive BatchAnswer.Correct (enabled : Bool) : BatchAnswer → Prop where
  | accepted (operations : List SyscallRequest) (h : enabled = true) :
    Correct enabled ⟨operations, operations.length, .ok ()⟩
  | full (operations : List SyscallRequest) (submitted : ℕ) (h : enabled = true)
    (hlt : submitted < operations.length) :
    Correct enabled ⟨operations, submitted, .error (.other "Batch queue full")⟩
  | disabled (operations : List SyscallRequest) (h : enabled = false) :
    Correct enabled ⟨operations, 0, .error (.other "Batch processing disabled")⟩

/-- What the queue took in a call that has returned. -/
def BatchAnswer.queued (x : BatchAnswer) : List SyscallRequest := x.operations.take x.submitted

/-- What holds of the queue and the counters, after all events. -/
structure Traffic (enabled : Bool) (m : SyscallBatching) (all : List BatchEvent) : Prop where
  enabled_eq : m.enableBatchProcessing = enabled
  fifo : all.flatMap queuedRequests = all.flatMap collectedRequests ++ m.pending
  batchStats_eq : m.batchProcessor.batchStats = UInt64.ofNat (all.flatMap batches).length
  bypassed_eq : m.syscallsBypassed = UInt64.ofNat (all.flatMap tallies).sum
  batched_eq : m.syscallsBatched = UInt64.ofNat ((all.flatMap answers).filter (·.result.isOk)).length

/-- What holds of a party, after its own events. -/
structure Party (enabled : Bool) (point : BatchPoint) (own : List BatchEvent) : Prop where
  valid : point.Valid enabled
  queued_eq : own.flatMap queuedRequests = (own.flatMap answers).flatMap BatchAnswer.queued ++ point.queued
  answers_correct : ∀ x ∈ own.flatMap answers, x.Correct enabled
  collected_eq : own.flatMap collectedRequests = (own.flatMap batches).flatten ++ point.collected
  batches_sized : ∀ batch ∈ own.flatMap batches, batch ≠ [] ∧ batch.length ≤ 100
  performed_eq : own.flatMap performedRequests = (own.flatMap batches).flatMap performedOf ++ point.performed
  tallies_eq : (own.flatMap batches).map List.length = own.flatMap tallies ++ point.untallied

/-! ## Every operation keeps them -/

section Keeps

variable {enabled : Bool} {m m' : SyscallBatching} {point point' : BatchPoint} {all own new : List BatchEvent}

theorem flatMap_operation {β : Type} {f : BatchEvent → List β} (hf : ∀ requests, f (.performed requests) = [])
    (kind : IoKind) (batch : List SyscallRequest) : (operation kind batch).flatMap f = [] := by
  unfold operation
  split_ifs with hnone
  · rfl
  · rw [List.flatMap_singleton, hf]

theorem performed_operation (kind : IoKind) (batch : List SyscallRequest) :
    (operation kind batch).flatMap performedRequests = requestsOf kind batch := by
  unfold operation
  split_ifs with hnone
  · exact hnone.symm
  · exact List.flatMap_singleton _ _

theorem Traffic.quiet (h : Traffic enabled m all) (hqueued : new.flatMap queuedRequests = [])
    (hcollected : new.flatMap collectedRequests = []) (hbatches : new.flatMap batches = [])
    (htallies : new.flatMap tallies = []) (hanswers : (new.flatMap answers).filter (·.result.isOk) = []) :
    Traffic enabled m (all ++ new) where
  enabled_eq := h.enabled_eq
  fifo := by
    rw [List.flatMap_append, List.flatMap_append, hqueued, hcollected, List.append_nil, List.append_nil]
    exact h.fifo
  batchStats_eq := by
    rw [List.flatMap_append, hbatches, List.append_nil]
    exact h.batchStats_eq
  bypassed_eq := by
    rw [List.flatMap_append, htallies, List.append_nil]
    exact h.bypassed_eq
  batched_eq := by
    rw [List.flatMap_append, List.filter_append, hanswers, List.append_nil]
    exact h.batched_eq

theorem Traffic.operation (h : Traffic enabled m all) (kind : IoKind) (batch : List SyscallRequest) :
    Traffic enabled m (all ++ operation kind batch) := by
  refine h.quiet ?_ ?_ ?_ ?_ ?_
  · exact flatMap_operation (fun _ => rfl) kind batch
  · exact flatMap_operation (fun _ => rfl) kind batch
  · exact flatMap_operation (fun _ => rfl) kind batch
  · exact flatMap_operation (fun _ => rfl) kind batch
  · rw [flatMap_operation (fun _ => rfl) kind batch]
    rfl

theorem Traffic.move (h : Traffic enabled m all) (hmove : m.Move point m' point' new) :
    Traffic enabled m' (all ++ new) := by
  cases hmove with
  | disabled operations _ => exact h.quiet rfl rfl rfl rfl rfl
  | submit operations _ => exact h.quiet rfl rfl rfl rfl rfl
  | tick => exact h.quiet rfl rfl rfl rfl rfl
  | push operations submitted op pendingCalls hop hitems =>
    have hfifo : m.pending ++ [op] = pendingCalls.items := hitems.symm
    constructor
    · exact h.enabled_eq
    · simp [queuedRequests, collectedRequests, h.fifo, SyscallBatching.pending, ← hfifo]
    · simpa [batches] using h.batchStats_eq
    · simpa [tallies] using h.bypassed_eq
    · simpa [answers] using h.batched_eq
  | full operations submitted _ _ => exact h.quiet rfl rfl rfl rfl rfl
  | submitted operations submitted _ =>
    constructor
    · exact h.enabled_eq
    · simpa [queuedRequests, collectedRequests, SyscallBatching.pending] using h.fifo
    · simpa [batches] using h.batchStats_eq
    · simpa [tallies] using h.bypassed_eq
    · simp [answers, h.batched_eq, Except.isOk, Except.toBool, UInt64.ofNat_add]
  | empty batch _ => exact h.quiet rfl rfl rfl rfl rfl
  | found batch _ => exact h.quiet rfl rfl rfl rfl rfl
  | beaten batch _ => exact h.quiet rfl rfl rfl rfl rfl
  | pop batch request pendingCalls hitems =>
    constructor
    · exact h.enabled_eq
    · have hfifo := h.fifo
      rw [hitems] at hfifo
      simp [queuedRequests, collectedRequests, hfifo, SyscallBatching.pending]
    · simpa [batches] using h.batchStats_eq
    · simpa [tallies] using h.bypassed_eq
    · simpa [answers] using h.batched_eq
  | write batch => exact h.operation .write batch
  | read batch => exact h.operation .read batch
  | network batch => exact h.operation .network batch
  | count batch =>
    constructor
    · exact h.enabled_eq
    · simpa [queuedRequests, collectedRequests, SyscallBatching.pending] using h.fifo
    · simp [batches, h.batchStats_eq, UInt64.ofNat_add]
    · simpa [tallies] using h.bypassed_eq
    · simpa [answers] using h.batched_eq
  | tally processed =>
    constructor
    · exact h.enabled_eq
    · simpa [queuedRequests, collectedRequests, SyscallBatching.pending] using h.fifo
    · simpa [batches] using h.batchStats_eq
    · simp [tallies, h.bypassed_eq, UInt64.ofNat_add]
    · simpa [answers] using h.batched_eq

theorem append_balance {β : Type} {as bs xs ys cs ds : List β} (h : as = bs ++ xs) (h' : xs ++ cs = ds ++ ys) :
    as ++ cs = bs ++ ds ++ ys := by
  rw [h, List.append_assoc, h', List.append_assoc]

/-- What a party has before a move and what the move adds is what the move completes and what the
party has after it. -/
structure Balanced (enabled : Bool) (point : BatchPoint) (new : List BatchEvent) (point' : BatchPoint) : Prop where
  valid : point'.Valid enabled
  queued : point.queued ++ new.flatMap queuedRequests =
    (new.flatMap answers).flatMap BatchAnswer.queued ++ point'.queued
  correct : ∀ x ∈ new.flatMap answers, x.Correct enabled
  collected : point.collected ++ new.flatMap collectedRequests = (new.flatMap batches).flatten ++ point'.collected
  sized : ∀ batch ∈ new.flatMap batches, batch ≠ [] ∧ batch.length ≤ 100
  performed : point.performed ++ new.flatMap performedRequests =
    (new.flatMap batches).flatMap performedOf ++ point'.performed
  tallies : point.untallied ++ (new.flatMap batches).map List.length = new.flatMap tallies ++ point'.untallied

theorem Party.append (h : Party enabled point own) (hnew : Balanced enabled point new point') :
    Party enabled point' (own ++ new) where
  valid := hnew.valid
  queued_eq := by
    rw [List.flatMap_append, List.flatMap_append, List.flatMap_append]
    exact append_balance h.queued_eq hnew.queued
  answers_correct := by
    rw [List.flatMap_append, List.forall_mem_append]
    exact ⟨h.answers_correct, hnew.correct⟩
  collected_eq := by
    rw [List.flatMap_append, List.flatMap_append, List.flatten_append]
    exact append_balance h.collected_eq hnew.collected
  batches_sized := by
    rw [List.flatMap_append, List.forall_mem_append]
    exact ⟨h.batches_sized, hnew.sized⟩
  performed_eq := by
    rw [List.flatMap_append, List.flatMap_append, List.flatMap_append]
    exact append_balance h.performed_eq hnew.performed
  tallies_eq := by
    rw [List.flatMap_append, List.flatMap_append, List.map_append]
    rw [h.tallies_eq, List.append_assoc, hnew.tallies, List.append_assoc]

theorem Balanced.silent (hvalid : point'.Valid enabled) (hqueued : point'.queued = point.queued)
    (hcollected : point'.collected = point.collected) (hperformed : point'.performed = point.performed)
    (huntallied : point'.untallied = point.untallied) : Balanced enabled point [] point' where
  valid := hvalid
  queued := (List.append_nil _).trans hqueued.symm
  correct := by simp
  collected := (List.append_nil _).trans hcollected.symm
  sized := by simp
  performed := (List.append_nil _).trans hperformed.symm
  tallies := (List.append_nil _).trans huntallied.symm

theorem Balanced.answer {x : BatchAnswer} (hx : x.Correct enabled) (hqueued : x.queued = point.queued)
    (hcollected : point.collected = []) (hperformed : point.performed = []) (huntallied : point.untallied = []) :
    Balanced enabled point [.answered x] .ready where
  valid := .ready
  queued := by
    rw [← hqueued]
    simp [queuedRequests, answers, BatchPoint.queued]
  correct := by simpa [answers] using hx
  collected := by rw [hcollected]; rfl
  sized := by simp [batches]
  performed := by rw [hperformed]; rfl
  tallies := by rw [huntallied]; rfl

theorem Balanced.operation {kind : IoKind} {batch : List SyscallRequest} (hvalid : point'.Valid enabled)
    (hqueued : point.queued = [] ∧ point'.queued = []) (hcollected : point'.collected = point.collected)
    (hperformed : point'.performed = point.performed ++ requestsOf kind batch)
    (huntallied : point.untallied = [] ∧ point'.untallied = []) :
    Balanced enabled point (BatchEvent.operation kind batch) point' where
  valid := hvalid
  queued := by
    rw [flatMap_operation fun _ => rfl, flatMap_operation fun _ => rfl, hqueued.1, hqueued.2]
    rfl
  correct := by
    rw [flatMap_operation fun _ => rfl]
    simp
  collected := by
    rw [flatMap_operation fun _ => rfl, flatMap_operation fun _ => rfl, hcollected]
    exact List.append_nil _
  sized := by
    rw [flatMap_operation fun _ => rfl]
    simp
  performed := by
    rw [performed_operation, flatMap_operation fun _ => rfl, hperformed]
    rfl
  tallies := by
    rw [flatMap_operation fun _ => rfl, flatMap_operation fun _ => rfl, huntallied.1, huntallied.2]
    rfl

theorem move_balanced (henabled : m.enableBatchProcessing = enabled) (hvalid : point.Valid enabled)
    (hmove : m.Move point m' point' new) : Balanced enabled point new point' := by
  cases hmove with
  | disabled operations h => exact .answer (.disabled operations (henabled ▸ h)) rfl rfl rfl rfl
  | submit operations h => exact .silent (.submitting (henabled ▸ h) (Nat.zero_le _)) rfl rfl rfl rfl
  | tick => exact .silent (.collecting (by decide)) rfl rfl rfl rfl
  | push operations submitted op pendingCalls hop hitems =>
    cases hvalid with | submitting he _ =>
    have hlt := (List.getElem?_eq_some_iff.mp hop).1
    constructor
    · exact .submitting he hlt
    · show operations.take submitted ++ [op] = operations.take (submitted + 1)
      rw [List.take_add_one, hop]
      rfl
    · simp [answers]
    · rfl
    · simp [batches]
    · rfl
    · rfl
  | full operations submitted h _ =>
    cases hvalid with | submitting he _ =>
    exact .answer (.full operations submitted he h) rfl rfl rfl rfl
  | submitted operations submitted h =>
    cases hvalid with | submitting he hle =>
    obtain rfl := Nat.le_antisymm hle h
    exact .answer (.accepted operations he) rfl rfl rfl rfl
  | empty batch _ =>
    cases hvalid with | collecting hlt =>
    obtain ⟨hcollected, hqueued, hperformed, huntallied⟩ := leave_eq batch
    exact .silent (valid_leave hlt.le) hqueued hcollected hperformed huntallied
  | found batch _ =>
    cases hvalid with | collecting hlt =>
    exact .silent (.popping hlt) rfl rfl rfl rfl
  | beaten batch _ =>
    cases hvalid with | popping hlt =>
    obtain ⟨hcollected, hqueued, hperformed, huntallied⟩ := collect_eq batch
    exact .silent (valid_collect hlt.le) hqueued hcollected hperformed huntallied
  | pop batch request pendingCalls hitems =>
    cases hvalid with | popping hlt =>
    obtain ⟨hcollected, hqueued, hperformed, huntallied⟩ := collect_eq (batch ++ [request])
    constructor
    · exact valid_collect (by rw [List.length_append]; exact hlt)
    · rw [hqueued]; rfl
    · simp [answers]
    · rw [hcollected]; rfl
    · simp [batches]
    · rw [hperformed]; rfl
    · rw [huntallied]; rfl
  | write batch =>
    cases hvalid with | operating hne hle =>
    exact .operation (.operating hne hle) ⟨rfl, rfl⟩ rfl rfl ⟨rfl, rfl⟩
  | read batch =>
    cases hvalid with | operating hne hle =>
    exact .operation (.operating hne hle) ⟨rfl, rfl⟩ rfl rfl ⟨rfl, rfl⟩
  | network batch =>
    cases hvalid with | operating hne hle =>
    exact .operation (.counting hne hle) ⟨rfl, rfl⟩ rfl rfl ⟨rfl, rfl⟩
  | count batch =>
    cases hvalid with | counting hne hle =>
    constructor
    · exact .tallying
    · rfl
    · simp [answers]
    · simp [BatchPoint.collected, collectedRequests, batches]
    · simpa [batches] using ⟨hne, hle⟩
    · simp [BatchPoint.performed, performedRequests, batches]
    · rfl
  | tally processed =>
    constructor
    · exact .ready
    · rfl
    · simp [answers]
    · rfl
    · simp [batches]
    · rfl
    · rfl

/-- **Every operation keeps** what holds of the queue and the counters, and of the party that takes
it. -/
theorem next_keeps {a : BatchAct} (hall : Traffic enabled m all) (hown : Party enabled point own)
    (h : m.next point a = some (m', point', new)) :
    Traffic enabled m' (all ++ new) ∧ Party enabled point' (own ++ new) := by
  have hmove := SyscallBatching.next_move h
  exact ⟨hall.move hmove, hown.append (move_balanced hall.enabled_eq hown.valid hmove)⟩

end Keeps

/-! ## Runs -/

/-- The callers and the workers of a manager. -/
abbrev BatchSys (ι : Type) := Logged ι SyscallBatching BatchPoint BatchEvent

/-- No call is under way. -/
def BatchSys.AtRest {ι : Type} (s : BatchSys ι) : Prop := ∀ i, s.point i = .ready

/-- What the requests that were taken out of the queue came to: each is in one batch, those of the
first three kinds were handed to the batch operations once, and all count as bypassed. A worker keeps
the order within a kind. -/
structure BatchSys.Settled {ι : Type} [DecidableEq ι] (s : BatchSys ι) : Prop where
  batches : (s.events.flatMap collectedRequests).Perm (s.events.flatMap batches).flatten
  performed : (s.events.flatMap performedRequests).Perm
    ((s.events.flatMap collectedRequests).filter (·.kind?.isSome))
  bypassed_eq : s.shared.syscallsBypassed = UInt64.ofNat (s.events.flatMap collectedRequests).length
  ordered : ∀ i kind, requestsOf kind ((entriesOf i s.log).flatMap performedRequests) =
    requestsOf kind ((entriesOf i s.log).flatMap collectedRequests)

section Runs

variable {ι : Type} [DecidableEq ι] {enabled : Bool} {t : BatchSys ι}

theorem settled_of_atRest (htraffic : Traffic enabled t.shared t.events)
    (hparty : ∀ i, Party enabled (t.point i) (entriesOf i t.log)) (hrest : t.AtRest) : t.Settled := by
  have hcollected : ∀ i, (entriesOf i t.log).flatMap collectedRequests =
      ((entriesOf i t.log).flatMap batches).flatten := by
    intro i
    have h := (hparty i).collected_eq
    rw [hrest i] at h
    exact h.trans (List.append_nil _)
  have hperformed : ∀ i, (entriesOf i t.log).flatMap performedRequests =
      ((entriesOf i t.log).flatMap batches).flatMap performedOf := by
    intro i
    have h := (hparty i).performed_eq
    rw [hrest i] at h
    exact h.trans (List.append_nil _)
  have htallies : ∀ i, (entriesOf i t.log).flatMap tallies =
      ((entriesOf i t.log).flatMap batches).map List.length := by
    intro i
    have h := (hparty i).tallies_eq
    rw [hrest i] at h
    exact (h.trans (List.append_nil _)).symm
  have hbatches : (t.events.flatMap collectedRequests).Perm (t.events.flatMap batches).flatten := by
    rw [List.flatten_eq_flatMap, List.flatMap_assoc]
    refine perm_flatMap_of_entriesOf fun i => .of_eq ?_
    rw [hcollected, List.flatten_eq_flatMap, List.flatMap_assoc]
  constructor
  · exact hbatches
  · calc t.events.flatMap performedRequests
        ~ t.events.flatMap fun e => e.batches.flatMap performedOf :=
          perm_flatMap_of_entriesOf fun i => .of_eq (by rw [hperformed, List.flatMap_assoc])
      _ = (t.events.flatMap batches).flatMap performedOf := List.flatMap_assoc.symm
      _ ~ (t.events.flatMap batches).flatMap (List.filter (·.kind?.isSome)) :=
          List.Perm.flatMap_left _ fun batch _ => performedOf_perm batch
      _ = (t.events.flatMap batches).flatten.filter (·.kind?.isSome) := by
          rw [List.flatten_eq_flatMap, List.filter_flatMap]; rfl
      _ ~ (t.events.flatMap collectedRequests).filter (·.kind?.isSome) := hbatches.symm.filter _
  · have hperm : (t.events.flatMap tallies).Perm (t.events.flatMap fun e => e.batches.map List.length) :=
      perm_flatMap_of_entriesOf fun i => .of_eq (by rw [htallies, List.map_flatMap])
    rw [htraffic.bypassed_eq, hperm.sum_nat, ← List.map_flatMap, ← List.length_flatten, hbatches.length_eq]
  · intro i kind
    rw [hperformed, hcollected, requestsOf, requestsOf, List.filter_flatMap, List.flatten_eq_flatMap,
      List.filter_flatMap]
    exact List.flatMap_congr fun batch _ => requestsOf_performedOf kind batch

end Runs

/-! ## A worker alone -/

namespace SyscallBatching

/-- The queue and the worker, with what the worker has logged. -/
abbrev Worker := SyscallBatching × BatchPoint × List BatchEvent

/-- The loop of `execute_batch`, begun with some requests collected: it collects more as long as there
are requests and room. -/
theorem collect_drains (m : SyscallBatching) (batch : List SyscallRequest) (own : List BatchEvent)
    (hle : batch.length ≤ 100) : ∃ acts m' batch' new,
      run (Logged.alone next) (m, collect batch, own) acts = some (m', leave batch', own ++ new) ∧
        new.flatMap queuedRequests = [] ∧ batch.length ≤ batch'.length ∧
        m'.pending.length + batch'.length = m.pending.length + batch.length ∧
        (batch.length < 100 → m.pending ≠ [] → batch.length < batch'.length) := by
  induction hn : m.pending generalizing m batch own with
  | nil =>
    by_cases hlt : batch.length < 100
    · refine ⟨[.next], m, batch, [], ?_, rfl, le_rfl, by rw [hn], fun _ h => absurd rfl h⟩
      have hempty : m.batchProcessor.pendingCalls.items = [] := hn
      simp [collect, hlt, Logged.alone, next, hempty, run]
    · refine ⟨[], m, batch, [], ?_, rfl, le_rfl, by rw [hn], fun h => absurd h hlt⟩
      simp [collect, hlt, run]
  | cons request rest ih =>
    by_cases hlt : batch.length < 100
    · obtain ⟨pendingCalls, hpop, hitems⟩ := ArrayQueue.exists_pop hn
      have hsome : m.batchProcessor.pendingCalls.items ≠ [] := fun h => by
        rw [pending, h] at hn
        cases hn
      let m₁ : SyscallBatching := { m with batchProcessor := { m.batchProcessor with pendingCalls } }
      obtain ⟨acts, m', batch', new, hrun, hqueued, hlen, hsum, -⟩ :=
        ih m₁ (batch ++ [request]) (own ++ [.collected request])
          (by rw [List.length_append]; exact hlt) hitems
      rw [List.length_append, List.length_singleton] at hlen hsum
      refine ⟨.next :: .next :: acts, m', batch', .collected request :: new, ?_, ?_, by omega, ?_,
        fun _ _ => hlen⟩
      · rw [collect, if_pos hlt]
        have hfound : Logged.alone next (m, .collecting batch, own) .next = some (m, .popping batch, own) := by
          simp [Logged.alone, next, hsome]
        have htake : Logged.alone next (m, .popping batch, own) .next =
            some (m₁, collect (batch ++ [request]), own ++ [.collected request]) := by
          simp [Logged.alone, next, hpop, m₁]
        rw [run_cons hfound, run_cons htake, hrun, List.append_assoc]
        rfl
      · rw [List.flatMap_cons, hqueued]
        rfl
      · rw [hsum, List.length_cons]
        omega
    · refine ⟨[], m, batch, [], ?_, rfl, le_rfl, by rw [hn], fun h => absurd h hlt⟩
      simp [collect, hlt, run]

/-- The rest of a round: the worker executes the batch and counts it. -/
theorem exists_executed (m : SyscallBatching) {batch : List SyscallRequest} (own : List BatchEvent)
    (hne : batch ≠ []) : ∃ acts m' new,
      run (Logged.alone next) (m, leave batch, own) acts = some (m', .ready, own ++ new) ∧
        new.flatMap queuedRequests = [] ∧ m'.pending = m.pending := by
  let m' : SyscallBatching :=
    { m with
      batchProcessor := { m.batchProcessor with batchStats := m.batchProcessor.batchStats + 1 }
      syscallsBypassed := m.syscallsBypassed + UInt64.ofNat batch.length }
  let new := operation .write batch ++ operation .read batch ++ operation .network batch ++
    [.executed batch, .tallied batch.length]
  refine ⟨[.next, .next, .next, .next, .next], m', new, ?_, ?_, rfl⟩
  · rw [leave, if_neg hne]
    simp [run, Logged.alone, next, m', new]
  · have hnone : ∀ kind, (operation kind batch).flatMap queuedRequests = [] := fun kind =>
      flatMap_operation (fun _ => rfl) kind batch
    simp only [new, List.flatMap_append, hnone]
    rfl

/-- **A worker alone empties the queue**, round after round. -/
theorem exists_drained (m : SyscallBatching) (own : List BatchEvent) : ∃ acts m' new,
    run (Logged.alone next) (m, .ready, own) acts = some (m', .ready, own ++ new) ∧
      new.flatMap queuedRequests = [] ∧ m'.pending = [] := by
  by_cases hempty : m.pending = []
  · exact ⟨[], m, [], by rw [List.append_nil]; rfl, rfl, hempty⟩
  · obtain ⟨acts₁, m₁, batch, new₁, hrun₁, hqueued₁, -, hsum, hmore⟩ :=
      collect_drains m [] own (Nat.zero_le _)
    have hlen : 0 < batch.length := hmore (by decide) hempty
    obtain ⟨acts₂, m₂, new₂, hrun₂, hqueued₂, hpending⟩ :=
      exists_executed m₁ (own ++ new₁) (List.ne_nil_of_length_pos hlen)
    have hless : m₂.pending.length < m.pending.length := by
      rw [hpending]
      simp only [List.length_nil, Nat.add_zero] at hsum
      omega
    obtain ⟨acts₃, m₃, new₃, hrun₃, hqueued₃, hdone⟩ := exists_drained m₂ (own ++ new₁ ++ new₂)
    refine ⟨.tick :: (acts₁ ++ (acts₂ ++ acts₃)), m₃, new₁ ++ new₂ ++ new₃, ?_, ?_, hdone⟩
    · have htick : Logged.alone next (m, .ready, own) .tick = some (m, collect [], own) := by
        simp [Logged.alone, next]
      rw [run_cons htick, run_append_of hrun₁ (run_append_of hrun₂ hrun₃), List.append_assoc, List.append_assoc,
        List.append_assoc]
    · rw [List.flatMap_append, List.flatMap_append, hqueued₁, hqueued₂, hqueued₃]
      rfl
termination_by m.pending.length

end SyscallBatching

/-! ## Every interleaving -/

section Interleavings

variable {ι : Type} [DecidableEq ι] {enabled : Bool} {s t : BatchSys ι}

/-- What holds of the queue and the counters and of every party. -/
structure BatchSys.Conserved (enabled : Bool) (s : BatchSys ι) : Prop where
  traffic : Traffic enabled s.shared s.events
  party : ∀ i, Party enabled (s.point i) (entriesOf i s.log)

theorem conserved_initial {batchSize : UInt64} {m : SyscallBatching}
    (h : SyscallBatching.new enabled batchSize = .ret m) :
    BatchSys.Conserved enabled (Logged.initial m .ready : BatchSys ι) := by
  obtain ⟨p, hp, h⟩ := Outcome.bind_eq_ret.mp h
  obtain ⟨q, hq, hp⟩ := Outcome.bind_eq_ret.mp hp
  cases h
  cases hp
  obtain ⟨-, -, hitems⟩ := ArrayQueue.new_eq_ret.mp hq
  constructor
  · exact ⟨rfl, hitems.symm, rfl, rfl, rfl⟩
  · exact fun _ => ⟨.ready, rfl, by simp [Logged.initial], rfl, by simp [Logged.initial], rfl, rfl⟩

theorem BatchSys.Conserved.run {acts : List (ι × BatchAct)} (h : s.Conserved enabled)
    (hrun : Base.run (Logged.step SyscallBatching.next) s acts = some t) : t.Conserved enabled := by
  have hkeeps := Logged.run_keeps (G := Traffic enabled) (L := Party enabled)
    (fun _ _ _ _ _ _ _ _ hall hown hnext => next_keeps hall hown hnext) h.traffic h.party hrun
  exact ⟨hkeeps.1, hkeeps.2⟩

/-- A worker that acts while no call is under way can execute all that waits. -/
theorem BatchSys.Conserved.exists_executed (h : t.Conserved enabled) (hrest : t.AtRest) (i : ι) :
    ∃ (acts : List BatchAct) (u : BatchSys ι),
      Base.run (Logged.step SyscallBatching.next) t (acts.map (Prod.mk i)) = some u ∧ u.AtRest ∧
        (t.events.flatMap queuedRequests).Perm (u.events.flatMap batches).flatten := by
  obtain ⟨acts, m', new, halone, hqueued, hempty⟩ := SyscallBatching.exists_drained t.shared []
  rw [← hrest i] at halone
  obtain ⟨_, hnew, hrun⟩ := Logged.run_alone halone
  obtain rfl := List.append_cancel_left hnew
  have hatRest : ∀ j, Function.update t.point i (t.point i) j = .ready := by
    rw [Function.update_eq_self]
    exact hrest
  have hu := h.run hrun
  refine ⟨acts, _, hrun, hatRest, ?_⟩
  have hevents : ((t.log ++ new.map (Prod.mk i)).map Prod.snd).flatMap queuedRequests =
      t.events.flatMap queuedRequests := by
    have hsame : (new.map (Prod.mk i)).map Prod.snd = new := by
      rw [List.map_map]
      exact List.map_id new
    rw [List.map_append, hsame, List.flatMap_append, hqueued, List.append_nil]
    rfl
  have hfifo := hu.traffic.fifo
  rw [hempty, List.append_nil] at hfifo
  rw [← hevents]
  exact (List.Perm.of_eq hfifo).trans (settled_of_atRest hu.traffic hu.party hatRest).batches

/-- **No request is lost, taken twice or overtaken**, whatever the callers and the workers do. Once no
call is under way, what was taken out of the queue is executed, and any worker can execute the rest. -/
theorem batches_conserved {batchSize : UInt64} {m : SyscallBatching} {acts : List (ι × BatchAct)}
    (hnew : SyscallBatching.new enabled batchSize = .ret m)
    (hrun : run (Logged.step SyscallBatching.next) (Logged.initial m .ready) acts = some t) :
    t.Conserved enabled ∧ (t.AtRest → t.Settled ∧ ∀ i, ∃ (acts' : List BatchAct) (u : BatchSys ι),
      run (Logged.step SyscallBatching.next) t (acts'.map (Prod.mk i)) = some u ∧ u.AtRest ∧
        (t.events.flatMap queuedRequests).Perm (u.events.flatMap batches).flatten) := by
  have ht := (conserved_initial hnew).run hrun
  exact ⟨ht, fun hrest => ⟨settled_of_atRest ht.traffic ht.party hrest, ht.exists_executed hrest⟩⟩

end Interleavings

/-- A manager with a queue for ten requests. -/
def sampleBatching : SyscallBatching where
  enableBatchProcessing := true
  batchProcessor := { pendingCalls := ⟨10, [], by decide, by decide⟩, batchStats := 0 }
  syscallsBypassed := 0
  syscallsBatched := 0

/-- A caller queues a read, a clock reading and a write, the last while a worker collects. -/
def sampleBatchActs : List (Bool × BatchAct) :=
  [(true, .submitBatchIo [.read 3 64, .getTime, .write 4 [7]]), (true, .next), (true, .next), (false, .tick),
    (false, .next), (false, .next), (true, .next), (false, .next), (false, .next), (false, .next), (false, .next),
    (true, .next), (false, .next), (false, .next), (false, .next), (false, .next), (false, .next), (false, .next)]

/-- The write goes before the read, and the clock is not read. -/
theorem batches_conserved_reordered : ∃ t : BatchSys Bool,
    run (Logged.step SyscallBatching.next) (Logged.initial sampleBatching .ready) sampleBatchActs = some t ∧
      t.events.flatMap performedRequests = [.write 4 [7], .read 3 64] ∧ t.shared.syscallsBypassed = 3 ∧
        t.Conserved true := by
  have hmap : (run (Logged.step SyscallBatching.next) (Logged.initial sampleBatching .ready) sampleBatchActs).map
      (fun t => (t.events.flatMap performedRequests, t.shared.syscallsBypassed)) =
      some ([.write 4 [7], .read 3 64], 3) := by decide
  obtain ⟨t, hrun, ht⟩ := Option.map_eq_some_iff.mp hmap
  obtain ⟨hperformed, hbypassed⟩ := Prod.mk.inj ht
  have hnew : SyscallBatching.new true 1 = .ret sampleBatching := rfl
  exact ⟨t, hrun, hperformed, hbypassed, (batches_conserved hnew hrun).1⟩

end PumpTrade
