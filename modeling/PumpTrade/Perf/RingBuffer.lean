import Mathlib.Algebra.Order.Ring.Nat
import PumpTrade.Base.Ring
import PumpTrade.Base.Run
import PumpTrade.Swqos.Error

/-!
# The ring buffer of one producer and one consumer

`CacheOptimizedRingBuffer` of `perf/hardware_optimizations.rs`. Both counters run freely and wrap at
2^64; a slot is found by the low bits of a counter, and one slot is never used.

* `tryPush`, `tryPop`, `len`, `isEmpty`;
* `RingSys.step`: the accesses of a push and of a pop, in any order;
* `Bounds`: both counters count, up to whole turns; `isFull_iff`, `tail_eq_head_iff`: what the tests
  of the counters tell.
-/

namespace PumpTrade

open Base

/-! ## The buffer -/

/-- `usize::is_power_of_two`. -/
def isPowerOfTwo (n : UInt64) : Prop := ∃ k < 64, n.toNat = 2 ^ k

instance (n : UInt64) : Decidable (isPowerOfTwo n) := inferInstanceAs (Decidable (∃ k < 64, _))

/-- The slots and the two counters. -/
structure CacheOptimizedRingBuffer (α : Type) where
  buffer : ℕ → α
  producerHead : UInt64
  consumerTail : UInt64
  capacity : UInt64
  mask : UInt64

namespace CacheOptimizedRingBuffer

variable {α : Type}

/-- An empty buffer, of a power of two. -/
def new [Inhabited α] (capacity : UInt64) : Except Error (CacheOptimizedRingBuffer α) :=
  if ¬ isPowerOfTwo capacity then .error (.other "Capacity must be a power of 2")
  else .ok
    { buffer := fun _ => default
      producerHead := 0
      consumerTail := 0
      capacity
      mask := capacity - 1 }

variable (s : CacheOptimizedRingBuffer α)

/-- The slot of a counter. -/
def index (counter : UInt64) : ℕ := (counter &&& s.mask).toNat

/-- `ptr.write`. -/
def writeSlot (i : ℕ) (item : α) : CacheOptimizedRingBuffer α :=
  { s with buffer := Function.update s.buffer i item }

/-- The test of a push: the slot before the tail is not used. -/
def isFull (head tail : UInt64) : Prop := (head + 1) &&& s.mask = tail &&& s.mask

instance (head tail : UInt64) : Decidable (s.isFull head tail) := inferInstanceAs (Decidable (_ = _))

/-- Push an item unless the buffer is full. -/
def tryPush (item : α) : Bool × CacheOptimizedRingBuffer α :=
  let currentHead := s.producerHead
  let currentTail := s.consumerTail
  if s.isFull currentHead currentTail then (false, s)
  else (true, { s.writeSlot (s.index currentHead) item with producerHead := currentHead + 1 })

/-- Pop the first item. -/
def tryPop : Option α × CacheOptimizedRingBuffer α :=
  let currentTail := s.consumerTail
  let currentHead := s.producerHead
  if currentTail = currentHead then (none, s)
  else (some (s.buffer (s.index currentTail)), { s with consumerTail := currentTail + 1 })

/-- The number of items. -/
def len : ℕ := ((s.producerHead + s.capacity - s.consumerTail) &&& s.mask).toNat

/-- The counters are equal. -/
def isEmpty : Bool := s.producerHead = s.consumerTail

end CacheOptimizedRingBuffer

/-! ## The steps of both threads -/

/-- Where the producer is in a push. -/
inductive Pusher (α : Type) where
  | idle
  | loadedHead (item : α) (currentHead : UInt64)
  | checked (item : α) (currentHead : UInt64)
  | written (item : α) (currentHead : UInt64)

/-- Where the consumer is in a pop. -/
inductive Popper (α : Type) where
  | idle
  | loadedTail (currentTail : UInt64)
  | checked (currentTail : UInt64)
  | read (currentTail : UInt64) (item : α)

/-- The buffer and both threads, with the items whose push and whose pop has ended. -/
structure RingSys (α : Type) where
  ring : CacheOptimizedRingBuffer α
  pusher : Pusher α
  popper : Popper α
  pushed : List α
  popped : List α

/-- An access of one of the threads. -/
inductive RingAct (α : Type) where
  | pushLoadHead (item : α)
  | pushLoadTail
  | pushWrite
  | pushStore
  | popLoadTail
  | popLoadHead
  | popRead
  | popStore

namespace RingSys

variable {α : Type}

/-- Both threads are outside of a call. -/
def initial (ring : CacheOptimizedRingBuffer α) : RingSys α := ⟨ring, .idle, .idle, [], []⟩

/-- One access of the producer or of the consumer. -/
def step (s : RingSys α) : RingAct α → Option (RingSys α)
  | .pushLoadHead item =>
    match s.pusher with
    | .idle => some { s with pusher := .loadedHead item s.ring.producerHead }
    | _ => none
  | .pushLoadTail =>
    match s.pusher with
    | .loadedHead item currentHead =>
      if s.ring.isFull currentHead s.ring.consumerTail then some { s with pusher := .idle }
      else some { s with pusher := .checked item currentHead }
    | _ => none
  | .pushWrite =>
    match s.pusher with
    | .checked item currentHead =>
      some { s with
        ring := s.ring.writeSlot (s.ring.index currentHead) item
        pusher := .written item currentHead }
    | _ => none
  | .pushStore =>
    match s.pusher with
    | .written item currentHead =>
      some { s with
        ring := { s.ring with producerHead := currentHead + 1 }
        pusher := .idle
        pushed := s.pushed ++ [item] }
    | _ => none
  | .popLoadTail =>
    match s.popper with
    | .idle => some { s with popper := .loadedTail s.ring.consumerTail }
    | _ => none
  | .popLoadHead =>
    match s.popper with
    | .loadedTail currentTail =>
      if currentTail = s.ring.producerHead then some { s with popper := .idle }
      else some { s with popper := .checked currentTail }
    | _ => none
  | .popRead =>
    match s.popper with
    | .checked currentTail =>
      some { s with popper := .read currentTail (s.ring.buffer (s.ring.index currentTail)) }
    | _ => none
  | .popStore =>
    match s.popper with
    | .read currentTail item =>
      some { s with
        ring := { s.ring with consumerTail := currentTail + 1 }
        popper := .idle
        popped := s.popped ++ [item] }
    | _ => none

/-- The number of items that were pushed and not popped. -/
def count (s : RingSys α) : ℕ := s.pushed.length - s.popped.length

end RingSys

/-! ## Counters -/

namespace CacheOptimizedRingBuffer

variable {α : Type}

/-- The counters have come to `head` and `tail`, and the buffer of `2 ^ k` slots has one free at
least. -/
structure Bounds (k head tail : ℕ) (s : CacheOptimizedRingBuffer α) : Prop where
  lt : k < 64
  capacity : s.capacity.toNat = 2 ^ k
  mask : s.mask.toNat = 2 ^ k - 1
  producerHead : s.producerHead = UInt64.ofNat head
  consumerTail : s.consumerTail = UInt64.ofNat tail
  le : tail ≤ head
  room : head < tail + 2 ^ k

variable {k head tail : ℕ} {s : CacheOptimizedRingBuffer α}

theorem bounds_new [Inhabited α] {capacity : UInt64} (h : new capacity = .ok s) :
    ∃ k, capacity.toNat = 2 ^ k ∧ s.Bounds k 0 0 := by
  unfold new at h
  split_ifs at h with hpower
  obtain rfl := Except.ok.inj h
  obtain ⟨k, hk, hcapacity⟩ := hpower
  have hpos := Nat.two_pow_pos k
  refine ⟨k, hcapacity, hk, hcapacity, ?_, rfl, rfl, le_rfl, by omega⟩
  have hone : (1 : UInt64) ≤ capacity := by
    rw [UInt64.le_iff_toNat_le, hcapacity]
    exact hpos
  change (capacity - 1).toNat = 2 ^ k - 1
  rw [UInt64.toNat_sub_of_le _ _ hone, hcapacity]
  rfl

/-- The low bits of a wrapped counter are those of the number it counts to. -/
theorem Bounds.index_ofNat (h : s.Bounds k head tail) (n : ℕ) : s.index (UInt64.ofNat n) = n % 2 ^ k := by
  rw [index, UInt64.toNat_and, h.mask, Nat.and_two_pow_sub_one_eq_mod, UInt64.toNat_ofNat']
  exact Nat.mod_mod_of_dvd n (Nat.pow_dvd_pow 2 (Nat.le_of_lt h.lt))

/-- **The test of a push** finds the buffer full when all slots but one hold an item. -/
theorem Bounds.isFull_iff (h : s.Bounds k head tail) :
    s.isFull (UInt64.ofNat head) (UInt64.ofNat tail) ↔ head - tail + 1 = 2 ^ k := by
  have hindex : s.isFull (UInt64.ofNat head) (UInt64.ofNat tail) ↔ (head + 1) % 2 ^ k = tail % 2 ^ k := by
    rw [← h.index_ofNat, ← h.index_ofNat, index, index, UInt64.toNat_inj, UInt64.ofNat_add]
    rfl
  obtain ⟨n, rfl⟩ := Nat.exists_eq_add_of_le h.le
  have hroom := h.room
  rw [hindex, Nat.add_sub_cancel_left, Nat.add_assoc]
  constructor
  · intro hmod
    by_contra hne
    exact add_mod_ne (show n + 1 < 2 ^ k by omega) (Nat.two_pow_pos k) (Nat.succ_ne_zero n) tail hmod
  · intro hfull
    rw [hfull, Nat.add_mod_right]

/-- **The test of a pop** finds the buffer empty when no slot holds an item. -/
theorem Bounds.tail_eq_head_iff (h : s.Bounds k head tail) :
    UInt64.ofNat tail = UInt64.ofNat head ↔ head - tail = 0 := by
  have hpow := Nat.pow_lt_pow_right (show 1 < 2 by decide) h.lt
  obtain ⟨n, rfl⟩ := Nat.exists_eq_add_of_le h.le
  have hroom := h.room
  rw [← UInt64.toNat_inj, UInt64.toNat_ofNat', UInt64.toNat_ofNat', Nat.add_sub_cancel_left]
  constructor
  · intro hmod
    by_contra hne
    exact add_mod_ne (Nat.two_pow_pos 64) (show n < 2 ^ 64 by omega) (Ne.symm hne) tail hmod
  · rintro rfl
    rfl

theorem Bounds.len_eq (h : s.Bounds k head tail) : s.len = head - tail := by
  have hpow := Nat.pow_lt_pow_right (show 1 < 2 by decide) h.lt
  obtain ⟨n, rfl⟩ := Nat.exists_eq_add_of_le h.le
  have hroom := h.room
  have hdiff : s.producerHead + s.capacity - s.consumerTail = UInt64.ofNat (n + 2 ^ k) := by
    have hcapacity : s.capacity = UInt64.ofNat (2 ^ k) := by
      rw [← h.capacity, UInt64.ofNat_toNat]
    rw [h.producerHead, h.consumerTail, hcapacity, ← UInt64.ofNat_add, Nat.add_assoc, UInt64.ofNat_add]
    rw [UInt64.sub_eq_iff_eq_add, UInt64.add_comm]
  rw [len, hdiff, ← index, h.index_ofNat, Nat.add_mod_right, Nat.add_sub_cancel_left,
    Nat.mod_eq_of_lt (by omega)]

theorem Bounds.isEmpty_iff (h : s.Bounds k head tail) : s.isEmpty = true ↔ head - tail = 0 := by
  rw [isEmpty, decide_eq_true_iff, h.producerHead, h.consumerTail, eq_comm, h.tail_eq_head_iff]

theorem Bounds.tryPush_iff (h : s.Bounds k head tail) (item : α) :
    (s.tryPush item).1 = false ↔ head - tail + 1 = 2 ^ k := by
  rw [← h.isFull_iff, tryPush, h.producerHead, h.consumerTail]
  by_cases hfull : s.isFull (UInt64.ofNat head) (UInt64.ofNat tail)
  · simp [hfull]
  · simp [hfull]

theorem Bounds.tryPop_iff (h : s.Bounds k head tail) : s.tryPop.1 = none ↔ head - tail = 0 := by
  rw [← h.tail_eq_head_iff, tryPop, h.producerHead, h.consumerTail]
  by_cases hempty : UInt64.ofNat tail = UInt64.ofNat head
  · simp [hempty]
  · simp [hempty]

end CacheOptimizedRingBuffer

end PumpTrade
