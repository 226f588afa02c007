import Mathlib.Algebra.Order.Floor.Div
import PumpTrade.Base.Ring
import PumpTrade.Perf.Memcpy
import PumpTrade.Swqos.Error

/-!
# The mapped buffer

`MemoryMappedBuffer` of `perf/zero_copy_io.rs`: a queue of bytes in a mapped region, with one writer
and one reader. The copies are those of `memcpy_simd_optimized`, which may move bytes beyond the
data; the region and the memory of the caller are blocks of their own. The mapping is made of whole
pages, and an access behind it is a fault that ends the process; the block of the caller is long
enough for every copy.

* `writeData`, `readData`, `availableData`, `availableSpace`;
* `MemoryMappedBuffer.stored`: the bytes from the read position on;
* `WithinMapping`, **`writeData_eq_none_iff`**, **`readData_eq_none_iff`**: when a call does not end in
  a fault;
* **`stored_written_iff`**: when a write appends its data to the stored bytes and changes no
  other;
* `stored_advanced`: a read takes bytes off the front.
-/

namespace PumpTrade

open Base SimdMemoryOps

/-! ## The buffer -/

/-- The mapped region, and the memory of the caller. -/
inductive Place where
  | mmap
  | caller
  deriving DecidableEq, Repr

/-- Both positions are inside the region. The mapping is of `mapped` bytes; of `mmap` only these
exist. -/
@[ext]
structure MemoryMappedBuffer where
  size : ℕ
  mapped : ℕ
  mmap : ℕ → UInt8
  readPos : ℕ
  writePos : ℕ
  size_le_mapped : size ≤ mapped
  readPos_lt : readPos < size
  writePos_lt : writePos < size

namespace MemoryMappedBuffer

/-- An anonymous mapping of at least one byte, in whole pages. -/
def new (pageSize size : ℕ) (hpage : 0 < pageSize) (h : 0 < size) : MemoryMappedBuffer where
  size := size
  mapped := pageSize * (size ⌈/⌉ pageSize)
  mmap := fun _ => 0
  size_le_mapped := le_smul_ceilDiv hpage
  readPos := 0
  writePos := 0
  readPos_lt := h
  writePos_lt := h

variable (s : MemoryMappedBuffer)

theorem size_pos : 0 < s.size := Nat.lt_of_le_of_lt (Nat.zero_le _) s.readPos_lt

/-- The memory beside a block of the caller. -/
def memory (caller : ℕ → UInt8) : Memory Place := fun q =>
  match q.block with
  | .mmap => s.mmap q.offset
  | .caller => caller q.offset

/-- The copies of a write, from the start of the caller's block. -/
def writeCopies (avx512f : Bool) (dataLen : ℕ) (m : Machine Place) : Machine Place :=
  let writePtr : Ptr Place := ⟨.mmap, s.writePos⟩
  let data : Ptr Place := ⟨.caller, 0⟩
  if s.writePos + dataLen ≤ s.size then memcpySimdOptimized avx512f writePtr data dataLen m
  else
    let firstPart := s.size - s.writePos
    let secondPart := dataLen - firstPart
    let m := memcpySimdOptimized avx512f writePtr data firstPart m
    memcpySimdOptimized avx512f ⟨.mmap, 0⟩ (data.add firstPart) secondPart m

/-- `write_data`, of `dataLen` bytes at the start of a block of the caller; `none` for a fault. -/
def writeData (avx512f : Bool) (caller : ℕ → UInt8) (dataLen : ℕ) : Option (Except Error ℕ × MemoryMappedBuffer) :=
  let availableSpace :=
    if s.readPos ≤ s.writePos then s.size - (s.writePos - s.readPos) - 1 else s.readPos - s.writePos - 1
  if availableSpace < dataLen then some (.error (.other "Insufficient buffer space"), s)
  else
    let m := s.writeCopies avx512f dataLen (.start (s.memory caller))
    if m.Exceeds .mmap s.mapped then none
    else some (.ok dataLen,
      { s with
        mmap := fun i => m.mem ⟨.mmap, i⟩
        writePos := (s.writePos + dataLen) % s.size
        writePos_lt := Nat.mod_lt _ s.size_pos })

/-- The number of stored bytes, as the positions tell. -/
def availableData : ℕ :=
  if s.readPos ≤ s.writePos then s.writePos - s.readPos else s.size - (s.readPos - s.writePos)

/-- The room for a write; one byte stays free. -/
def availableSpace : ℕ := s.size - s.availableData - 1

/-- The copies of a read, to the start of the caller's block. -/
def readCopies (avx512f : Bool) (readLen : ℕ) (m : Machine Place) : Machine Place :=
  let readPtr : Ptr Place := ⟨.mmap, s.readPos⟩
  let buffer : Ptr Place := ⟨.caller, 0⟩
  if s.readPos + readLen ≤ s.size then memcpySimdOptimized avx512f buffer readPtr readLen m
  else
    let firstPart := s.size - s.readPos
    let secondPart := readLen - firstPart
    let m := memcpySimdOptimized avx512f buffer readPtr firstPart m
    memcpySimdOptimized avx512f (buffer.add firstPart) ⟨.mmap, 0⟩ secondPart m

/-- `read_data`, to a buffer of `bufferLen` bytes at the start of a block of the caller: the number
of bytes, the block afterwards, and the new state; `none` for a fault. -/
def readData (avx512f : Bool) (caller : ℕ → UInt8) (bufferLen : ℕ) :
    Option ((ℕ × (ℕ → UInt8)) × MemoryMappedBuffer) :=
  let availableData :=
    if s.readPos ≤ s.writePos then s.writePos - s.readPos else s.size - (s.readPos - s.writePos)
  if availableData = 0 then some ((0, caller), s)
  else
    let readLen := min bufferLen availableData
    let m := s.readCopies avx512f readLen (.start (s.memory caller))
    if m.Exceeds .mmap s.mapped then none
    else some ((readLen, fun i => m.mem ⟨.caller, i⟩),
      { s with
        mmap := fun i => m.mem ⟨.mmap, i⟩
        readPos := (s.readPos + readLen) % s.size
        readPos_lt := Nat.mod_lt _ s.size_pos })

/-! ## What is stored -/

/-- The bytes from the read position to the write position, around the region. -/
def stored : List UInt8 := window s.mmap s.size s.readPos s.availableData

theorem availableData_lt : s.availableData < s.size := by
  have := s.readPos_lt
  have := s.writePos_lt
  unfold availableData
  split_ifs <;> omega

theorem writePos_eq : s.writePos = (s.readPos + s.availableData) % s.size := by
  have := s.readPos_lt
  have := s.writePos_lt
  unfold availableData
  split_ifs with h
  · rw [show s.readPos + (s.writePos - s.readPos) = s.writePos by omega, Nat.mod_eq_of_lt s.writePos_lt]
  · rw [show s.readPos + (s.size - (s.readPos - s.writePos)) = s.writePos + s.size by omega,
      Nat.add_mod_right, Nat.mod_eq_of_lt s.writePos_lt]

theorem availableData_eq {n : ℕ} (hn : n < s.size) (h : s.writePos = (s.readPos + n) % s.size) :
    s.availableData = n := by
  by_contra hne
  exact add_mod_ne s.availableData_lt hn hne s.readPos (s.writePos_eq.symm.trans h)

/-- The stored bytes go on to the write position, or to it in the next turn. -/
theorem positions : (s.readPos ≤ s.writePos ∧ s.readPos + s.availableData = s.writePos) ∨
    (s.writePos < s.readPos ∧ s.readPos + s.availableData = s.writePos + s.size) := by
  have := s.readPos_lt
  unfold availableData
  split_ifs with h
  · exact Or.inl ⟨h, by omega⟩
  · exact Or.inr ⟨by omega, by omega⟩

theorem availableSpace_eq : (if s.readPos ≤ s.writePos then s.size - (s.writePos - s.readPos) - 1
    else s.readPos - s.writePos - 1) = s.availableSpace := by
  have := s.readPos_lt
  have := s.writePos_lt
  unfold availableSpace availableData
  split_ifs <;> omega

theorem data_add_space : s.availableData + s.availableSpace = s.size - 1 := by
  have := s.availableData_lt
  unfold availableSpace
  omega

@[simp] theorem length_stored : s.stored.length = s.availableData := length_window _ _ _ _

/-! ## Faults -/

/-- The copies of `len` bytes from a position on stay within the mapping. -/
def WithinMapping (pos len : ℕ) : Prop :=
  if pos + len ≤ s.size then pos + copied len ≤ s.mapped
  else pos + copied (s.size - pos) ≤ s.mapped ∧ copied (len - (s.size - pos)) ≤ s.mapped

instance (pos len : ℕ) : Decidable (s.WithinMapping pos len) :=
  inferInstanceAs (Decidable (if pos + len ≤ s.size then pos + copied len ≤ s.mapped
    else pos + copied (s.size - pos) ≤ s.mapped ∧ copied (len - (s.size - pos)) ≤ s.mapped))

section Faults

variable {s} {pos len : ℕ} {m : Machine Place}

theorem withinMapping_zero (h : pos < s.size) : s.WithinMapping pos 0 := by
  have hmapped := s.size_le_mapped
  unfold WithinMapping
  rw [if_pos (by omega)]
  exact h.le.trans hmapped

/-- A copy between the region and the caller, from a position that is mapped. -/
theorem exceeds_copy_iff {m' : Machine Place} {dst src : Ptr Place} {n : ℕ} (h : Machine.Copies dst src n m m')
    (hpos : pos ≤ s.mapped) (hblocks : dst = ⟨.mmap, pos⟩ ∧ src.block = .caller ∨
      dst.block = .caller ∧ src = ⟨.mmap, pos⟩) :
    m'.Exceeds .mmap s.mapped ↔ m.Exceeds .mmap s.mapped ∨ s.mapped < pos + n := by
  rw [h.exceeds_iff]
  rcases hblocks with ⟨rfl, hsrc⟩ | ⟨hdst, rfl⟩
  · simp only [hsrc, reduceCtorEq, false_and, false_or, true_and]
    exact or_congr_right (and_iff_right_of_imp fun hlt => by omega)
  · simp only [hdst, reduceCtorEq, false_and, or_false, true_and]
    exact or_congr_right (and_iff_right_of_imp fun hlt => by omega)

variable (avx512f : Bool) (caller : ℕ → UInt8)

theorem exceeds_writeCopies_iff (dataLen : ℕ) :
    (s.writeCopies avx512f dataLen (.start (s.memory caller))).Exceeds .mmap s.mapped ↔
      ¬ s.WithinMapping s.writePos dataLen := by
  have hmapped := s.size_le_mapped
  have hw := s.writePos_lt
  unfold writeCopies WithinMapping
  split_ifs with hle
  · rw [exceeds_copy_iff (memcpySimdOptimized_copies _ _ _ _ _) (by omega) (Or.inl ⟨rfl, rfl⟩),
      or_iff_right (Machine.not_exceeds_start _), Nat.not_le]
  · rw [exceeds_copy_iff (memcpySimdOptimized_copies _ _ _ _ _) (Nat.zero_le _) (Or.inl ⟨rfl, rfl⟩),
      exceeds_copy_iff (memcpySimdOptimized_copies _ _ _ _ _) (by omega) (Or.inl ⟨rfl, rfl⟩),
      or_iff_right (Machine.not_exceeds_start _), not_and_or, Nat.not_le, Nat.not_le, Nat.zero_add]

theorem exceeds_readCopies_iff (readLen : ℕ) :
    (s.readCopies avx512f readLen (.start (s.memory caller))).Exceeds .mmap s.mapped ↔
      ¬ s.WithinMapping s.readPos readLen := by
  have hmapped := s.size_le_mapped
  have hr := s.readPos_lt
  unfold readCopies WithinMapping
  split_ifs with hle
  · rw [exceeds_copy_iff (memcpySimdOptimized_copies _ _ _ _ _) (by omega) (Or.inr ⟨rfl, rfl⟩),
      or_iff_right (Machine.not_exceeds_start _), Nat.not_le]
  · rw [exceeds_copy_iff (memcpySimdOptimized_copies _ _ _ _ _) (Nat.zero_le _) (Or.inr ⟨rfl, rfl⟩),
      exceeds_copy_iff (memcpySimdOptimized_copies _ _ _ _ _) (by omega) (Or.inr ⟨rfl, rfl⟩),
      or_iff_right (Machine.not_exceeds_start _), not_and_or, Nat.not_le, Nat.not_le, Nat.zero_add]

end Faults

/-! ## Writes -/

/-- Where the last copy of a write ends. -/
def endPos (dataLen : ℕ) : ℕ :=
  if s.writePos + dataLen ≤ s.size then s.writePos + dataLen else s.writePos + dataLen - s.size

/-- How many bytes the last copy of a write moves beyond the data. -/
def excess (dataLen : ℕ) : ℕ :=
  if s.writePos + dataLen ≤ s.size then copied dataLen - dataLen else copied (s.endPos dataLen) - s.endPos dataLen

/-- The byte that should be at a place behind the read position once the data is written. -/
def expected (caller : ℕ → UInt8) (i : ℕ) : UInt8 :=
  if i < s.availableData then s.mmap ((s.readPos + i) % s.size) else caller (i - s.availableData)

variable {s} (avx512f : Bool) (caller : ℕ → UInt8) {dataLen : ℕ}

theorem mem_writeCopies_of_le (h : s.writePos + dataLen ≤ s.size) (p : ℕ) :
    (s.writeCopies avx512f dataLen (.start (s.memory caller))).mem ⟨.mmap, p⟩ =
      if s.writePos ≤ p ∧ p < s.writePos + copied dataLen then caller (p - s.writePos) else s.mmap p := by
  unfold writeCopies
  simp only [if_pos h]
  rw [mem_memcpySimdOptimized avx512f Place.noConfusion, Memory.copy_same]
  refine if_congr Iff.rfl ?_ rfl
  change caller (0 + (p - s.writePos)) = caller (p - s.writePos)
  rw [Nat.zero_add]

/-- What a write that wraps leaves in the region: the second copy comes last. -/
theorem mem_writeCopies_of_lt (h : s.size < s.writePos + dataLen) (p : ℕ) :
    (s.writeCopies avx512f dataLen (.start (s.memory caller))).mem ⟨.mmap, p⟩ =
      if p < copied (s.writePos + dataLen - s.size) then caller (s.size - s.writePos + p)
      else if s.writePos ≤ p ∧ p < s.writePos + copied (s.size - s.writePos) then caller (p - s.writePos)
      else s.mmap p := by
  have hsecond : dataLen - (s.size - s.writePos) = s.writePos + dataLen - s.size := by
    have := s.writePos_lt
    omega
  unfold writeCopies
  simp only [if_neg (Nat.not_le.mpr h), hsecond]
  rw [mem_memcpySimdOptimized avx512f Place.noConfusion, Memory.copy_same,
    mem_memcpySimdOptimized avx512f Place.noConfusion]
  refine if_congr (by omega) ?_ ?_
  · rw [Memory.copy_other Place.noConfusion]
    change caller (0 + (s.size - s.writePos) + (p - 0)) = _
    rw [Nat.zero_add, Nat.sub_zero]
  · rw [Memory.copy_same]
    refine if_congr Iff.rfl ?_ rfl
    change caller (0 + (p - s.writePos)) = caller (p - s.writePos)
    rw [Nat.zero_add]

theorem add_mod_cases {r i size : ℕ} (hr : r < size) (hi : i < size) :
    ((r + i) % size = r + i ∧ r + i < size) ∨ ((r + i) % size + size = r + i ∧ size ≤ r + i) := by
  by_cases h : r + i < size
  · exact Or.inl ⟨Nat.mod_eq_of_lt h, h⟩
  · refine Or.inr ⟨?_, Nat.not_lt.mp h⟩
    rw [Nat.mod_eq_sub_mod (Nat.not_lt.mp h), Nat.mod_eq_of_lt (by omega)]
    omega

/-- **A cell after a write** holds what it should, or what the last copy moved beyond the data. -/
theorem mem_writeCopies {i : ℕ} (hspace : dataLen ≤ s.availableSpace) (hi : i < s.availableData + dataLen) :
    (s.writeCopies avx512f dataLen (.start (s.memory caller))).mem ⟨.mmap, (s.readPos + i) % s.size⟩ =
      if s.endPos dataLen ≤ (s.readPos + i) % s.size ∧
          (s.readPos + i) % s.size < s.endPos dataLen + s.excess dataLen then
        caller (dataLen + ((s.readPos + i) % s.size - s.endPos dataLen))
      else s.expected caller i := by
  have hr := s.readPos_lt
  have hw := s.writePos_lt
  have hdata : s.availableData + dataLen ≤ s.size - 1 := by
    have := s.data_add_space
    omega
  have hn : (s.readPos ≤ s.writePos ∧ s.readPos + s.availableData = s.writePos) ∨
      (s.writePos < s.readPos ∧ s.readPos + s.availableData = s.writePos + s.size) := s.positions
  have hp := add_mod_cases hr (show i < s.size by omega)
  have hcopied := le_copied dataLen
  unfold expected
  generalize (s.readPos + i) % s.size = p at hp ⊢
  by_cases hle : s.writePos + dataLen ≤ s.size
  · rw [mem_writeCopies_of_le avx512f caller hle, endPos, excess, if_pos hle, if_pos hle]
    by_cases hover : s.writePos + dataLen ≤ p ∧ p < s.writePos + dataLen + (copied dataLen - dataLen)
    · rw [if_pos hover, if_pos (by omega)]
      congr 1
      omega
    · rw [if_neg hover]
      by_cases hold : i < s.availableData
      · rw [if_pos hold, if_neg (by omega)]
      · rw [if_neg hold, if_pos (by omega)]
        congr 1
        omega
  · have hlt := Nat.not_le.mp hle
    have hcopied₁ := le_copied (s.size - s.writePos)
    have hcopied₂ := le_copied (s.writePos + dataLen - s.size)
    have hend : s.endPos dataLen = s.writePos + dataLen - s.size := if_neg hle
    rw [mem_writeCopies_of_lt avx512f caller hlt, excess, if_neg hle, hend]
    by_cases hover : s.writePos + dataLen - s.size ≤ p ∧ p < s.writePos + dataLen - s.size +
        (copied (s.writePos + dataLen - s.size) - (s.writePos + dataLen - s.size))
    · rw [if_pos hover, if_pos (by omega)]
      congr 1
      omega
    · rw [if_neg hover]
      by_cases hold : i < s.availableData
      · rw [if_pos hold, if_neg (by omega), if_neg (by omega)]
      · rw [if_neg hold]
        by_cases hsecond : p < copied (s.writePos + dataLen - s.size)
        · rw [if_pos hsecond]
          congr 1
          omega
        · rw [if_neg hsecond, if_pos (by omega)]
          congr 1
          omega

variable (s dataLen) in
/-- A write is clean when each byte that its last copy moves beyond the data into the region lands
behind the bytes that are stored then, or is the byte that should be there. -/
def Clean : Prop :=
  ∀ j < s.excess dataLen, s.endPos dataLen + j < s.size → s.size ≤ s.availableData + dataLen + j →
    s.expected caller (s.availableData + dataLen + j - s.size) = caller (dataLen + j)

instance : Decidable (s.Clean caller dataLen) :=
  inferInstanceAs (Decidable (∀ j < s.excess dataLen, _))

theorem endPos_cases (s : MemoryMappedBuffer) (dataLen : ℕ) :
    (s.writePos + dataLen ≤ s.size ∧ s.endPos dataLen = s.writePos + dataLen) ∨
      (s.size < s.writePos + dataLen ∧ s.endPos dataLen + s.size = s.writePos + dataLen) := by
  unfold endPos
  split_ifs with h
  · exact Or.inl ⟨h, rfl⟩
  · exact Or.inr ⟨by omega, by omega⟩

theorem stored_append (dataLen : ℕ) : s.stored ++ (List.range dataLen).map caller =
    (List.range (s.availableData + dataLen)).map (s.expected caller) := by
  rw [List.range_add, List.map_append, List.map_map]
  congr 1
  · exact List.map_congr_left fun i hi => (if_pos (List.mem_range.mp hi)).symm
  · refine List.map_congr_left fun i _ => ?_
    rw [Function.comp_apply, expected, if_neg (by omega), Nat.add_sub_cancel_left]

theorem writeData_error (h : s.availableSpace < dataLen) :
    s.writeData avx512f caller dataLen = some (.error (.other "Insufficient buffer space"), s) := by
  unfold writeData
  rw [s.availableSpace_eq]
  exact if_pos h

variable (s dataLen) in
/-- The state after a write that is accepted. -/
def written : MemoryMappedBuffer :=
  { s with
    mmap := fun i => (s.writeCopies avx512f dataLen (.start (s.memory caller))).mem ⟨.mmap, i⟩
    writePos := (s.writePos + dataLen) % s.size
    writePos_lt := Nat.mod_lt _ s.size_pos }

theorem writeData_of_le (h : dataLen ≤ s.availableSpace) : s.writeData avx512f caller dataLen =
    if s.WithinMapping s.writePos dataLen then some (.ok dataLen, s.written avx512f caller dataLen) else none := by
  unfold writeData
  simp only [s.availableSpace_eq, if_neg (Nat.not_lt.mpr h), exceeds_writeCopies_iff, ite_not]
  rfl

/-- **When a write ends in a fault.** -/
theorem writeData_eq_none_iff : s.writeData avx512f caller dataLen = none ↔
    dataLen ≤ s.availableSpace ∧ ¬ s.WithinMapping s.writePos dataLen := by
  by_cases h : dataLen ≤ s.availableSpace
  · simp [writeData_of_le avx512f caller h, h]
  · simp [writeData_error avx512f caller (Nat.not_le.mp h), h]

/-- Five bytes that fit before the end of a page are moved as eight, which do not. -/
example : ¬ (new 4096 4096 (by decide) (by decide)).WithinMapping 4090 5 := by decide +kernel

theorem availableData_written (h : dataLen ≤ s.availableSpace) :
    (s.written avx512f caller dataLen).availableData = s.availableData + dataLen := by
  have hspace := s.data_add_space
  have hpos := s.size_pos
  refine availableData_eq _ ?_ ?_
  · change s.availableData + dataLen < s.size
    omega
  · change (s.writePos + dataLen) % s.size = (s.readPos + (s.availableData + dataLen)) % s.size
    rw [s.writePos_eq, Nat.mod_add_mod, Nat.add_assoc]

/-- **When a write appends its data** to the stored bytes and leaves these alone. -/
theorem stored_written_iff (h : dataLen ≤ s.availableSpace) :
    (s.written avx512f caller dataLen).stored = s.stored ++ (List.range dataLen).map caller ↔
      s.Clean caller dataLen := by
  have hr := s.readPos_lt
  have hspace := s.data_add_space
  have hpositions := s.positions
  have hend := endPos_cases s dataLen
  rw [stored, availableData_written avx512f caller h, written, stored_append, window, List.map_inj_left]
  constructor
  · intro hall j hj hinside hstored
    have hi : s.availableData + dataLen + j - s.size < s.availableData + dataLen := by omega
    have hcell := hall _ (List.mem_range.mpr hi)
    have hplace : (s.readPos + (s.availableData + dataLen + j - s.size)) % s.size = s.endPos dataLen + j := by
      have := add_mod_cases hr (show s.availableData + dataLen + j - s.size < s.size by omega)
      omega
    simp only at hcell
    rw [mem_writeCopies avx512f caller h hi, hplace, if_pos ⟨Nat.le_add_right _ _, by omega⟩,
      Nat.add_sub_cancel_left] at hcell
    exact hcell.symm
  · intro hclean i hi
    have hi := List.mem_range.mp hi
    have hplace := add_mod_cases hr (show i < s.size by omega)
    simp only
    rw [mem_writeCopies avx512f caller h hi]
    split_ifs with hover
    · have hbyte := hclean ((s.readPos + i) % s.size - s.endPos dataLen) (by omega) (by omega) (by omega)
      rw [show s.availableData + dataLen + ((s.readPos + i) % s.size - s.endPos dataLen) - s.size = i by omega]
        at hbyte
      exact hbyte.symm
    · rfl

/-! ## Reads -/

variable {readLen : ℕ} (s)

theorem mem_readCopies_mmap (p : ℕ) :
    (s.readCopies avx512f readLen (.start (s.memory caller))).mem ⟨.mmap, p⟩ = s.mmap p := by
  unfold readCopies
  split_ifs
  · rw [mem_memcpySimdOptimized avx512f Place.noConfusion, Memory.copy_other Place.noConfusion]
    rfl
  · rw [mem_memcpySimdOptimized avx512f Place.noConfusion, Memory.copy_other Place.noConfusion,
      mem_memcpySimdOptimized avx512f Place.noConfusion, Memory.copy_other Place.noConfusion]
    rfl

/-- The caller gets the bytes from the read position on: what the first copy moves beyond its part
is overwritten by the second. -/
theorem mem_readCopies_caller {i : ℕ} (h : readLen ≤ s.availableData) (hi : i < readLen) :
    (s.readCopies avx512f readLen (.start (s.memory caller))).mem ⟨.caller, i⟩ =
      s.mmap ((s.readPos + i) % s.size) := by
  have hr := s.readPos_lt
  have hlt := s.availableData_lt
  have hplace := add_mod_cases hr (show i < s.size by omega)
  unfold readCopies
  by_cases hle : s.readPos + readLen ≤ s.size
  · have hcopied := le_copied readLen
    simp only [if_pos hle]
    rw [mem_memcpySimdOptimized avx512f Place.noConfusion, Memory.copy_same, if_pos (by omega)]
    change s.mmap (s.readPos + (i - 0)) = _
    congr 1
    omega
  · have hcopied₁ := le_copied (s.size - s.readPos)
    have hcopied₂ := le_copied (readLen - (s.size - s.readPos))
    have hbuffer : Ptr.add ⟨Place.caller, 0⟩ (s.size - s.readPos) = ⟨Place.caller, s.size - s.readPos⟩ := by
      rw [Ptr.add, Nat.zero_add]
    simp only [if_neg hle]
    rw [mem_memcpySimdOptimized avx512f Place.noConfusion, hbuffer, Memory.copy_same]
    by_cases hsecond : s.size - s.readPos ≤ i
    · rw [if_pos (by omega), mem_memcpySimdOptimized avx512f Place.noConfusion,
        Memory.copy_other Place.noConfusion]
      change s.mmap (0 + (i - (s.size - s.readPos))) = _
      congr 1
      omega
    · rw [if_neg (by omega), mem_memcpySimdOptimized avx512f Place.noConfusion, Memory.copy_same,
        if_pos (by omega)]
      change s.mmap (s.readPos + (i - 0)) = _
      congr 1
      omega

/-- The state after a read: only the read position has changed. -/
def advanced (readLen : ℕ) : MemoryMappedBuffer :=
  { s with
    readPos := (s.readPos + readLen) % s.size
    readPos_lt := Nat.mod_lt _ s.size_pos }

/-- **What a read returns**: as many of the stored bytes as there are and the buffer takes, at the start
of the caller's block. -/
theorem readData_eq (bufferLen : ℕ) {readLen : ℕ} (hlen : min bufferLen s.availableData = readLen) :
    ∃ block, s.readData avx512f caller bufferLen =
        (if s.WithinMapping s.readPos readLen then some ((readLen, block), s.advanced readLen) else none) ∧
      (List.range readLen).map block = s.stored.take readLen := by
  have hle : readLen ≤ s.availableData := hlen ▸ Nat.min_le_right _ _
  have hread : s.readData avx512f caller bufferLen =
      if s.availableData = 0 then some ((0, caller), s)
      else if (s.readCopies avx512f readLen (.start (s.memory caller))).Exceeds .mmap s.mapped then none
      else some ((readLen, fun i => (s.readCopies avx512f readLen (.start (s.memory caller))).mem ⟨.caller, i⟩),
        { s with
          mmap := fun i => (s.readCopies avx512f readLen (.start (s.memory caller))).mem ⟨.mmap, i⟩
          readPos := (s.readPos + readLen) % s.size
          readPos_lt := Nat.mod_lt _ s.size_pos }) := by
    rw [← hlen]
    rfl
  rw [hread, stored, take_window hle]
  by_cases hempty : s.availableData = 0
  · obtain rfl : readLen = 0 := by omega
    have hsame : s.advanced 0 = s :=
      MemoryMappedBuffer.ext rfl rfl rfl (Nat.mod_eq_of_lt s.readPos_lt) rfl
    refine ⟨caller, ?_, rfl⟩
    rw [if_pos hempty, if_pos (withinMapping_zero s.readPos_lt), hsame]
  · have hregion : (fun i => (s.readCopies avx512f readLen (.start (s.memory caller))).mem ⟨.mmap, i⟩) = s.mmap :=
      funext fun p => s.mem_readCopies_mmap avx512f caller p
    simp only [if_neg hempty, exceeds_readCopies_iff, ite_not, hregion]
    refine ⟨_, rfl, List.map_congr_left fun i hi => ?_⟩
    exact s.mem_readCopies_caller avx512f caller hle (List.mem_range.mp hi)

/-- **When a read ends in a fault.** -/
theorem readData_eq_none_iff (bufferLen : ℕ) : s.readData avx512f caller bufferLen = none ↔
    ¬ s.WithinMapping s.readPos (min bufferLen s.availableData) := by
  obtain ⟨block, hread, -⟩ := s.readData_eq avx512f caller bufferLen rfl
  rw [hread]
  simp

theorem availableData_advanced {readLen : ℕ} (h : readLen ≤ s.availableData) :
    (s.advanced readLen).availableData = s.availableData - readLen := by
  have hlt := s.availableData_lt
  refine availableData_eq _ ?_ ?_
  · change s.availableData - readLen < s.size
    omega
  · change s.writePos = ((s.readPos + readLen) % s.size + (s.availableData - readLen)) % s.size
    rw [s.writePos_eq, Nat.mod_add_mod, Nat.add_assoc, Nat.add_sub_cancel' h]

/-- **A read takes bytes off the front** of the stored ones. -/
theorem stored_advanced {readLen : ℕ} (h : readLen ≤ s.availableData) :
    (s.advanced readLen).stored = s.stored.drop readLen := by
  rw [stored, availableData_advanced s h, stored, drop_window h]
  exact window_mod _ _ _ _

end MemoryMappedBuffer

end PumpTrade
