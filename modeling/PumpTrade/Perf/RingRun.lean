import PumpTrade.Perf.RingBuffer

/-!
# The ring buffer as a queue

Runs of one producer and one consumer of a `CacheOptimizedRingBuffer`, in which the accesses of both
come in any order.

* `IsQueue`: what a bounded queue of items does;
* `Inv`: what each thread knows between two of its accesses; `inv_step`: every access keeps it;
* **`ring_isQueue`**: every run is that of a queue.
-/

namespace PumpTrade

open Base CacheOptimizedRingBuffer

namespace RingSys

variable {α : Type}

/-- Neither thread is in a call. -/
def Quiescent (s : RingSys α) : Prop := s.pusher = .idle ∧ s.popper = .idle

/-- The slots from the tail on that hold an item which was not popped yet. -/
def unreadSlots (s : RingSys α) : List ℕ :=
  (List.range s.count).map fun i => (s.ring.index s.ring.consumerTail + i) % s.ring.capacity.toNat

/-- The accesses of a push that is not interrupted do what `tryPush` does. -/
def PushesAlone (s : RingSys α) (item : α) : Prop :=
  ((s.ring.tryPush item).1 = false ∧ run step s [.pushLoadHead item, .pushLoadTail] = some s) ∨
    ((s.ring.tryPush item).1 = true ∧
      run step s [.pushLoadHead item, .pushLoadTail, .pushWrite, .pushStore] =
        some { s with ring := (s.ring.tryPush item).2, pushed := s.pushed ++ [item] })

/-- The accesses of a pop that is not interrupted do what `tryPop` does. -/
def PopsAlone (s : RingSys α) : Prop :=
  (s.ring.tryPop.1 = none ∧ run step s [.popLoadTail, .popLoadHead] = some s) ∨
    ∃ item, s.ring.tryPop.1 = some item ∧
      run step s [.popLoadTail, .popLoadHead, .popRead, .popStore] =
        some { s with ring := s.ring.tryPop.2, popped := s.popped ++ [item] }

/-- What was popped, and then what the slots hold, is what was pushed; one slot is never used, and
the slot that a push is about to write holds no item. Between calls the answers are those of a
queue, and calls one after the other are `tryPush` and `tryPop`. -/
structure IsQueue (s : RingSys α) : Prop where
  fifo : s.popped ++ s.unreadSlots.map s.ring.buffer = s.pushed
  count_le : s.count ≤ s.ring.capacity.toNat - 1
  notMem : ∀ item currentHead, s.pusher = .checked item currentHead →
    s.ring.index currentHead < s.ring.capacity.toNat ∧ s.ring.index currentHead ∉ s.unreadSlots
  tryPush_iff : s.Quiescent → ∀ item, (s.ring.tryPush item).1 = false ↔ s.count = s.ring.capacity.toNat - 1
  tryPop_iff : s.Quiescent → (s.ring.tryPop.1 = none ↔ s.count = 0)
  len_eq : s.Quiescent → s.ring.len = s.count
  isEmpty_iff : s.Quiescent → (s.ring.isEmpty = true ↔ s.count = 0)
  push : s.Quiescent → ∀ item, s.PushesAlone item
  pop : s.Quiescent → s.PopsAlone

/-! ## Calls without interruption -/

theorem run_push {s : RingSys α} (h : s.pusher = .idle) (item : α) : s.PushesAlone item := by
  by_cases hfull : s.ring.isFull s.ring.producerHead s.ring.consumerTail
  · refine Or.inl ⟨by simp [tryPush, hfull], ?_⟩
    simp only [run, step, h, Option.bind_some, if_pos hfull]
    rw [← h]
  · refine Or.inr ⟨by simp [tryPush, hfull], ?_⟩
    simp only [run, step, h, Option.bind_some, if_neg hfull, tryPush]

theorem run_pop {s : RingSys α} (h : s.popper = .idle) : s.PopsAlone := by
  by_cases hempty : s.ring.consumerTail = s.ring.producerHead
  · refine Or.inl ⟨by simp [tryPop, hempty], ?_⟩
    simp only [run, step, h, Option.bind_some, if_pos hempty]
    rw [← h]
  · refine Or.inr ⟨s.ring.buffer (s.ring.index s.ring.consumerTail), by simp [tryPop, hempty], ?_⟩
    simp only [run, step, h, Option.bind_some, if_neg hempty, tryPop]

/-! ## What the threads know -/

/-- The producer knows the head, from its test on that there is room, and from its write on what the
slot holds. -/
def PushInv (k : ℕ) (s : RingSys α) : Prop :=
  match s.pusher with
  | .idle => True
  | .loadedHead _ currentHead => currentHead = s.ring.producerHead
  | .checked _ currentHead => currentHead = s.ring.producerHead ∧ s.count + 1 < 2 ^ k
  | .written item currentHead =>
    currentHead = s.ring.producerHead ∧ s.count + 1 < 2 ^ k ∧ s.ring.buffer (s.pushed.length % 2 ^ k) = item

/-- The consumer knows the tail, from its test on that there is an item, and from its read on
which. -/
def PopInv (k : ℕ) (s : RingSys α) : Prop :=
  match s.popper with
  | .idle => True
  | .loadedTail currentTail => currentTail = s.ring.consumerTail
  | .checked currentTail => currentTail = s.ring.consumerTail ∧ 0 < s.count
  | .read currentTail item =>
    currentTail = s.ring.consumerTail ∧ 0 < s.count ∧ s.ring.buffer (s.popped.length % 2 ^ k) = item

/-- The counters count what was pushed and popped, and the items in between are in their slots. -/
structure Inv (k : ℕ) (s : RingSys α) : Prop where
  bounds : s.ring.Bounds k s.pushed.length s.popped.length
  fifo : s.popped ++ window s.ring.buffer (2 ^ k) s.popped.length s.count = s.pushed
  push : s.PushInv k
  pop : s.PopInv k

variable {k : ℕ} {s s' : RingSys α}

theorem inv_initial {ring : CacheOptimizedRingBuffer α} (h : ring.Bounds k 0 0) : (initial ring).Inv k where
  bounds := h
  fifo := rfl
  push := trivial
  pop := trivial

theorem Inv.length_pushed (h : s.Inv k) : s.pushed.length = s.popped.length + s.count :=
  (Nat.add_sub_cancel' h.bounds.le).symm

theorem Inv.count_lt (h : s.Inv k) : s.count < 2 ^ k := by
  have hroom := h.bounds.room
  have hlength := h.length_pushed
  omega

theorem Inv.index_tail (h : s.Inv k) : s.ring.index s.ring.consumerTail = s.popped.length % 2 ^ k := by
  rw [h.bounds.consumerTail, h.bounds.index_ofNat]

theorem Inv.index_head (h : s.Inv k) : s.ring.index s.ring.producerHead = s.pushed.length % 2 ^ k := by
  rw [h.bounds.producerHead, h.bounds.index_ofNat]

theorem Inv.head_ne (h : s.Inv k) {i : ℕ} (hi : i < s.count) :
    (s.popped.length + i) % 2 ^ k ≠ s.pushed.length % 2 ^ k := by
  rw [h.length_pushed]
  exact add_mod_ne (hi.trans h.count_lt) h.count_lt (Nat.ne_of_lt hi) _

theorem PushInv.of_le (h : s.PushInv k) (hpusher : s'.pusher = s.pusher)
    (hhead : s'.ring.producerHead = s.ring.producerHead) (hbuffer : s'.ring.buffer = s.ring.buffer)
    (hpushed : s'.pushed = s.pushed) (hcount : s'.count ≤ s.count) : s'.PushInv k := by
  unfold PushInv at h ⊢
  rw [hpusher, hhead, hbuffer, hpushed]
  cases hp : s.pusher with
  | idle => trivial
  | loadedHead item currentHead => simpa only [hp] using h
  | checked item currentHead =>
    simp only [hp] at h ⊢
    exact ⟨h.1, lt_of_le_of_lt (Nat.succ_le_succ hcount) h.2⟩
  | written item currentHead =>
    simp only [hp] at h ⊢
    exact ⟨h.1, lt_of_le_of_lt (Nat.succ_le_succ hcount) h.2.1, h.2.2⟩

/-- What the consumer knows stays true while the producer adds items and leaves the first one in its
slot. -/
theorem PopInv.of_le (h : s.PopInv k) (hpopper : s'.popper = s.popper)
    (htail : s'.ring.consumerTail = s.ring.consumerTail) (hpopped : s'.popped = s.popped)
    (hcount : s.count ≤ s'.count)
    (hslot : 0 < s.count → s'.ring.buffer (s.popped.length % 2 ^ k) = s.ring.buffer (s.popped.length % 2 ^ k)) :
    s'.PopInv k := by
  unfold PopInv at h ⊢
  rw [hpopper, htail, hpopped]
  cases hp : s.popper with
  | idle => trivial
  | loadedTail currentTail => simpa only [hp] using h
  | checked currentTail =>
    simp only [hp] at h ⊢
    exact ⟨h.1, lt_of_lt_of_le h.2 hcount⟩
  | read currentTail item =>
    simp only [hp] at h ⊢
    exact ⟨h.1, lt_of_lt_of_le h.2.1 hcount, (hslot h.2.1).trans h.2.2⟩

/-! ## The steps of a push -/

theorem inv_pushLoadHead {item : α} (h : s.Inv k) (hstep : s.step (.pushLoadHead item) = some s') :
    s'.Inv k := by
  simp only [step] at hstep
  split at hstep
  · cases hstep
    exact ⟨h.bounds, h.fifo, rfl, h.pop⟩
  · cases hstep

/-- The tail that the producer tests may move on before it writes, but only away from the head. -/
theorem inv_pushLoadTail (h : s.Inv k) (hstep : s.step .pushLoadTail = some s') : s'.Inv k := by
  simp only [step] at hstep
  split at hstep
  case h_1 item currentHead hpusher =>
    have hpush := h.push
    simp only [PushInv, hpusher] at hpush
    subst hpush
    split_ifs at hstep with hfull
    · cases hstep
      exact ⟨h.bounds, h.fifo, trivial, h.pop⟩
    · cases hstep
      have hroom : s.count + 1 < 2 ^ k := by
        rw [h.bounds.producerHead, h.bounds.consumerTail, h.bounds.isFull_iff] at hfull
        exact Nat.lt_of_le_of_ne h.count_lt hfull
      exact ⟨h.bounds, h.fifo, ⟨rfl, hroom⟩, h.pop⟩
  case h_2 => cases hstep

theorem inv_pushWrite (h : s.Inv k) (hstep : s.step .pushWrite = some s') : s'.Inv k := by
  simp only [step] at hstep
  split at hstep
  case h_1 item currentHead hpusher =>
    cases hstep
    have hpush := h.push
    simp only [PushInv, hpusher] at hpush
    obtain ⟨rfl, hroom⟩ := hpush
    have hother : ∀ i < s.count,
        (s.ring.writeSlot (s.ring.index s.ring.producerHead) item).buffer ((s.popped.length + i) % 2 ^ k) =
          s.ring.buffer ((s.popped.length + i) % 2 ^ k) := fun i hi => by
      rw [h.index_head]
      exact Function.update_of_ne (h.head_ne hi) item s.ring.buffer
    constructor
    · exact { h.bounds with }
    · exact (congrArg _ (window_congr hother)).trans h.fifo
    · refine ⟨rfl, hroom, ?_⟩
      rw [h.index_head]
      exact Function.update_self _ item s.ring.buffer
    · exact h.pop.of_le rfl rfl rfl le_rfl (hother 0)
  case h_2 => cases hstep

theorem inv_pushStore (h : s.Inv k) (hstep : s.step .pushStore = some s') : s'.Inv k := by
  simp only [step] at hstep
  split at hstep
  case h_1 item currentHead hpusher =>
    cases hstep
    have hpush := h.push
    simp only [PushInv, hpusher] at hpush
    obtain ⟨rfl, hroom, hitem⟩ := hpush
    have hlength := h.length_pushed
    have hlength' : (s.pushed ++ [item]).length = s.popped.length + (s.count + 1) := by
      rw [List.length_append, List.length_singleton, hlength, Nat.add_assoc]
    have hcount : (s.pushed ++ [item]).length - s.popped.length = s.count + 1 := by
      rw [hlength', Nat.add_sub_cancel_left]
    constructor
    · refine { h.bounds with producerHead := ?_, le := ?_, room := ?_ }
      · rw [List.length_append, UInt64.ofNat_add, ← h.bounds.producerHead]
        rfl
      · rw [List.length_append]
        exact Nat.le_add_right_of_le h.bounds.le
      · change (s.pushed ++ [item]).length < s.popped.length + 2 ^ k
        omega
    · change s.popped ++ window s.ring.buffer (2 ^ k) s.popped.length
        ((s.pushed ++ [item]).length - s.popped.length) = s.pushed ++ [item]
      rw [hcount, window_add, ← List.append_assoc, h.fifo, ← hlength, ← hitem]
      rfl
    · trivial
    · exact h.pop.of_le rfl rfl rfl (le_of_le_of_eq (Nat.le_succ _) hcount.symm) fun _ => rfl
  case h_2 => cases hstep

/-! ## The steps of a pop -/

theorem inv_popLoadTail (h : s.Inv k) (hstep : s.step .popLoadTail = some s') : s'.Inv k := by
  simp only [step] at hstep
  split at hstep
  · cases hstep
    exact ⟨h.bounds, h.fifo, h.push, rfl⟩
  · cases hstep

/-- The head that the consumer tests may move on before it reads, but only away from the tail. -/
theorem inv_popLoadHead (h : s.Inv k) (hstep : s.step .popLoadHead = some s') : s'.Inv k := by
  simp only [step] at hstep
  split at hstep
  case h_1 currentTail hpopper =>
    have hpop := h.pop
    simp only [PopInv, hpopper] at hpop
    subst hpop
    split_ifs at hstep with hempty
    · cases hstep
      exact ⟨h.bounds, h.fifo, h.push, trivial⟩
    · cases hstep
      have hitem : 0 < s.count := by
        rw [h.bounds.producerHead, h.bounds.consumerTail, h.bounds.tail_eq_head_iff] at hempty
        exact Nat.pos_of_ne_zero hempty
      exact ⟨h.bounds, h.fifo, h.push, rfl, hitem⟩
  case h_2 => cases hstep

theorem inv_popRead (h : s.Inv k) (hstep : s.step .popRead = some s') : s'.Inv k := by
  simp only [step] at hstep
  split at hstep
  case h_1 currentTail hpopper =>
    cases hstep
    have hpop := h.pop
    simp only [PopInv, hpopper] at hpop
    obtain ⟨rfl, hitem⟩ := hpop
    exact ⟨h.bounds, h.fifo, h.push, rfl, hitem, (congrArg s.ring.buffer h.index_tail).symm⟩
  case h_2 => cases hstep

theorem inv_popStore (h : s.Inv k) (hstep : s.step .popStore = some s') : s'.Inv k := by
  simp only [step] at hstep
  split at hstep
  case h_1 currentTail item hpopper =>
    cases hstep
    have hpop := h.pop
    simp only [PopInv, hpopper] at hpop
    obtain ⟨rfl, hpos, hitem⟩ := hpop
    obtain ⟨n, hn⟩ := Nat.exists_eq_succ_of_ne_zero (Nat.ne_of_gt hpos)
    have hlength := h.length_pushed
    have hlength' : (s.popped ++ [item]).length = s.popped.length + 1 := by
      rw [List.length_append, List.length_singleton]
    have hcount : s.pushed.length - (s.popped ++ [item]).length = n := by
      omega
    constructor
    · refine { h.bounds with consumerTail := ?_, le := ?_, room := ?_ }
      · rw [hlength', UInt64.ofNat_add, ← h.bounds.consumerTail]
        rfl
      · change (s.popped ++ [item]).length ≤ s.pushed.length
        omega
      · have hroom := h.bounds.room
        change s.pushed.length < (s.popped ++ [item]).length + 2 ^ k
        omega
    · change (s.popped ++ [item]) ++ window s.ring.buffer (2 ^ k) (s.popped ++ [item]).length
        (s.pushed.length - (s.popped ++ [item]).length) = s.pushed
      have hfifo := h.fifo
      rw [hn, window_succ, hitem] at hfifo
      rw [hcount, hlength', List.append_assoc]
      exact hfifo
    · refine h.push.of_le rfl rfl rfl rfl ?_
      change s.pushed.length - (s.popped ++ [item]).length ≤ s.count
      omega
    · trivial
  case h_2 => cases hstep

/-- **Every access keeps the invariant.** -/
theorem inv_step {a : RingAct α} (h : s.Inv k) (hstep : s.step a = some s') : s'.Inv k := by
  cases a with
  | pushLoadHead item => exact inv_pushLoadHead h hstep
  | pushLoadTail => exact inv_pushLoadTail h hstep
  | pushWrite => exact inv_pushWrite h hstep
  | pushStore => exact inv_pushStore h hstep
  | popLoadTail => exact inv_popLoadTail h hstep
  | popLoadHead => exact inv_popLoadHead h hstep
  | popRead => exact inv_popRead h hstep
  | popStore => exact inv_popStore h hstep

/-! ## Runs -/

theorem Inv.unreadSlots_eq (h : s.Inv k) :
    s.unreadSlots = (List.range s.count).map fun i => (s.popped.length + i) % 2 ^ k := by
  rw [unreadSlots, h.index_tail, h.bounds.capacity]
  simp only [Nat.mod_add_mod]

/-- **What the threads know makes the buffer a queue.** -/
theorem Inv.isQueue (h : s.Inv k) : s.IsQueue := by
  have hcount : s.count = 2 ^ k - 1 ↔ s.pushed.length - s.popped.length + 1 = 2 ^ k := by
    have hlt := h.count_lt
    change s.count = 2 ^ k - 1 ↔ s.count + 1 = 2 ^ k
    omega
  constructor
  · rw [h.unreadSlots_eq, List.map_map]
    exact h.fifo
  · rw [h.bounds.capacity]
    exact Nat.le_sub_one_of_lt h.count_lt
  · intro item currentHead hpusher
    have hpush := h.push
    simp only [PushInv, hpusher] at hpush
    obtain ⟨rfl, -⟩ := hpush
    rw [h.index_head, h.bounds.capacity, h.unreadSlots_eq]
    refine ⟨Nat.mod_lt _ (Nat.two_pow_pos k), fun hmem => ?_⟩
    obtain ⟨i, hi, heq⟩ := List.mem_map.mp hmem
    exact h.head_ne (List.mem_range.mp hi) heq
  · intro _ item
    rw [h.bounds.capacity, hcount]
    exact h.bounds.tryPush_iff item
  · exact fun _ => h.bounds.tryPop_iff
  · exact fun _ => h.bounds.len_eq
  · exact fun _ => h.bounds.isEmpty_iff
  · exact fun hquiescent => run_push hquiescent.1
  · exact fun hquiescent => run_pop hquiescent.2

/-- **Main result.** In every run of one producer and one consumer of a buffer that `new` accepts,
with their accesses in any order and the counters wrapping as often as they do, the buffer is a
bounded queue. -/
theorem ring_isQueue [Inhabited α] {capacity : UInt64} {ring : CacheOptimizedRingBuffer α}
    (hnew : new capacity = .ok ring) (acts : List (RingAct α)) (hrun : run step (initial ring) acts = some s) :
    s.ring.capacity = capacity ∧ s.IsQueue := by
  obtain ⟨k, hcapacity, hbounds⟩ := bounds_new hnew
  have h : s.Inv k := run_inv (fun _ _ _ => inv_step) (inv_initial hbounds) hrun
  exact ⟨UInt64.toNat_inj.mp (h.bounds.capacity.trans hcapacity.symm), h.isQueue⟩

/-- A push that waits between its test and its write while the consumer pops. -/
def popInPush : List (RingAct ℕ) :=
  [.pushLoadHead 7, .pushLoadTail, .pushWrite, .pushStore, .pushLoadHead 8, .pushLoadTail, .popLoadTail,
    .popLoadHead, .popRead, .pushWrite, .popStore, .pushStore]

theorem ring_isQueue_popInPush :
    ∃ ring, new 4 = .ok ring ∧ ∃ s, run step (initial ring) popInPush = some s ∧ s.pushed = [7, 8] ∧
      s.popped = [7] ∧ s.ring.capacity = 4 ∧ s.IsQueue :=
  ⟨_, rfl, _, rfl, rfl, rfl, ring_isQueue rfl popInPush rfl⟩

end RingSys

end PumpTrade
