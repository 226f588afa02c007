import PumpTrade.Base.Bitmap
import PumpTrade.Base.Memory
import PumpTrade.Base.Outcome
import PumpTrade.Base.Ring
import PumpTrade.Swqos.Error

/-!
# The pool of shared blocks

`SharedMemoryPool` of `perf/zero_copy_io.rs`. A bitmap tells which blocks of a mapped region are
free.

* `new`, `allocateBlock`, `deallocateBlock`, `availableBlocks`;
* `PoolSys.step`: the atomic operations of any number of calls, in any order;
* `WellFormed`: the bitmap has a bit for each block and no other, and `wellFormed_new`;
* **`allocateBlock_eq_none_iff`**: a call that runs alone finds a block where one is free.
-/

namespace PumpTrade

open Base Bitmap

/-! ## The pool -/

/-- A block, as the pool hands it out. -/
structure ZeroCopyBlock where
  ptr : Ptr Unit
  size : ℕ
  poolId : UInt32
  blockIndex : ℕ
  deriving DecidableEq, Repr

/-- A region of equal blocks, with a bit for each that is free. -/
structure SharedMemoryPool where
  memoryRegion : Ptr Unit
  regionLen : ℕ
  freeBlocks : List (BitVec 64)
  blockSize : ℕ
  totalBlocks : ℕ
  allocatorHead : ℕ
  poolId : UInt32
  deriving DecidableEq

namespace SharedMemoryPool

/-- The next multiple of a cache line, with the overflow of a release build. -/
def alignedBlockSize (blockSize : UInt64) : UInt64 := (blockSize + 63) &&& ~~~63

/-- All blocks of a word are free; the last word may not have 64 of them. -/
def initialBits (totalBlocks i : ℕ) : BitVec 64 :=
  if i = (totalBlocks + 63) / 64 - 1 ∧ totalBlocks % 64 ≠ 0 then mask 64 (totalBlocks % 64) - 1
  else BitVec.allOnes 64

/-- The region is what `map_anon` maps for a length. -/
def new (mapAnon : ℕ → Except Error (Ptr Unit)) (poolId : UInt32) (totalSize blockSize : UInt64) :
    Outcome (Except Error SharedMemoryPool) :=
  let alignedBlockSize := alignedBlockSize blockSize
  if alignedBlockSize = 0 then .panic "attempt to divide by zero"
  else
    let totalBlocks := (totalSize / alignedBlockSize).toNat
    match mapAnon (totalBlocks * alignedBlockSize.toNat) with
    | .error _ => .ret (.error (.other "Failed to create memory mapped region"))
    | .ok memoryRegion =>
      .ret (.ok
        { memoryRegion
          regionLen := totalBlocks * alignedBlockSize.toNat
          freeBlocks := (List.range ((totalBlocks + 63) / 64)).map (initialBits totalBlocks)
          blockSize := alignedBlockSize.toNat
          totalBlocks
          allocatorHead := 0
          poolId })

variable (s : SharedMemoryPool)

/-- The block with an index. -/
def block (blockIndex : ℕ) : ZeroCopyBlock where
  ptr := s.memoryRegion.add (blockIndex * s.blockSize)
  size := s.blockSize
  poolId := s.poolId
  blockIndex := blockIndex

/-- The block of the lowest bit of a word. A bit beyond the blocks is set again, and the search goes
on after the word. -/
def lowestFree (bitmapIndex : ℕ) : Option ℕ :=
  (firstSet s.freeBlocks bitmapIndex).filter fun blockIndex => blockIndex < s.totalBlocks

/-- The search goes around the words from the one of the head on, from attempt `attempt` on. -/
def search (startIndex attempt : ℕ) : Option ℕ :=
  ((List.range s.freeBlocks.length).drop attempt).findSome? fun attempt =>
    s.lowestFree ((startIndex + attempt) % s.freeBlocks.length)

/-- Claim the block that was found. -/
def claim : Option ℕ → Option ZeroCopyBlock × SharedMemoryPool
  | none => (none, s)
  | some blockIndex =>
    (some (s.block blockIndex),
      { s with freeBlocks := clearBit s.freeBlocks blockIndex, allocatorHead := (blockIndex + 1) * 64 })

/-- A call that no other one runs into. -/
def allocateBlock : Option ZeroCopyBlock × SharedMemoryPool := s.claim (s.search (s.allocatorHead / 64) 0)

/-- Set the bit of a block of the pool. -/
def deallocateBlock (block : ZeroCopyBlock) : SharedMemoryPool :=
  if block.poolId ≠ s.poolId then s
  else if block.blockIndex / 64 < s.freeBlocks.length then
    { s with freeBlocks := setBit s.freeBlocks block.blockIndex }
  else s

/-- The number of bits that are set. -/
def availableBlocks : ℕ := ones s.freeBlocks

end SharedMemoryPool

/-! ## The atomic operations -/

/-- The next atomic operation of a call of `allocate_block`, or what the last call returned. -/
inductive AllocateCall where
  | ready
  | load (startIndex attempt : ℕ)
  | compareExchange (startIndex attempt : ℕ) (current : BitVec 64)
  | fetchOr (startIndex attempt bitPos : ℕ)
  | storeHead (blockIndex : ℕ)
  | returned (result : Option ZeroCopyBlock)
  deriving DecidableEq

namespace AllocateCall

/-- The thread is not in a call. -/
def idle : AllocateCall → Bool
  | ready | returned _ => true
  | _ => false

/-- The head of the loop over the words. -/
def visit (pool : SharedMemoryPool) (startIndex attempt : ℕ) : AllocateCall :=
  if attempt < pool.freeBlocks.length then load startIndex attempt else returned none

/-- The head of the loop over one word. -/
def retry (pool : SharedMemoryPool) (startIndex attempt : ℕ) (current : BitVec 64) : AllocateCall :=
  if current ≠ 0#64 then compareExchange startIndex attempt current else visit pool startIndex (attempt + 1)

end AllocateCall

/-- The pool and the calls of all threads, with the blocks whose bits were cleared and not set again
since, and the blocks that calls returned and no one gave back. -/
structure PoolSys (ι : Type) where
  pool : SharedMemoryPool
  call : ι → AllocateCall
  claimed : List ℕ
  live : List ZeroCopyBlock

/-- An atomic operation. A weak exchange may fail on the value that it expects. -/
inductive PoolAct where
  | allocate
  | load
  | compareExchange (spurious : Bool)
  | fetchOr
  | storeHead
  | deallocate (block : ZeroCopyBlock)

namespace PoolSys

open AllocateCall

variable {ι : Type} [DecidableEq ι]

/-- Every thread is outside of a call. -/
def initial (pool : SharedMemoryPool) : PoolSys ι := ⟨pool, fun _ => .ready, [], []⟩

/-- Thread `i` goes on with its call. -/
def setCall (s : PoolSys ι) (i : ι) (call : AllocateCall) : PoolSys ι :=
  { s with call := Function.update s.call i call }

@[simp] theorem call_setCall_self (s : PoolSys ι) (i : ι) (call : AllocateCall) :
    (s.setCall i call).call i = call := by
  simp only [setCall, Function.update_self]

/-- Thread `i` takes an atomic operation. It gives back a block that a call returned and no one gave
back yet. -/
def step (s : PoolSys ι) : ι × PoolAct → Option (PoolSys ι)
  | (i, .allocate) =>
    if (s.call i).idle then some (s.setCall i (visit s.pool (s.pool.allocatorHead / 64) 0)) else none
  | (i, .load) =>
    match s.call i with
    | .load startIndex attempt =>
      let bitmapIndex := (startIndex + attempt) % s.pool.freeBlocks.length
      some (s.setCall i (retry s.pool startIndex attempt (word s.pool.freeBlocks bitmapIndex)))
    | _ => none
  | (i, .compareExchange spurious) =>
    match s.call i with
    | .compareExchange startIndex attempt current =>
      let bitmapIndex := (startIndex + attempt) % s.pool.freeBlocks.length
      let found := word s.pool.freeBlocks bitmapIndex
      if found = current ∧ spurious = false then
        let bitPos := current.ctz.toNat
        let blockIndex := bitmapIndex * 64 + bitPos
        some
          { pool :=
              { s.pool with
                freeBlocks := s.pool.freeBlocks.set bitmapIndex (current &&& ~~~mask 64 bitPos) }
            call := Function.update s.call i
              (if s.pool.totalBlocks ≤ blockIndex then .fetchOr startIndex attempt bitPos
              else .storeHead blockIndex)
            claimed := blockIndex :: s.claimed
            live := s.live }
      else some (s.setCall i (retry s.pool startIndex attempt found))
    | _ => none
  | (i, .fetchOr) =>
    match s.call i with
    | .fetchOr startIndex attempt bitPos =>
      let bitmapIndex := (startIndex + attempt) % s.pool.freeBlocks.length
      let bits := word s.pool.freeBlocks bitmapIndex ||| mask 64 bitPos
      some
        { pool := { s.pool with freeBlocks := s.pool.freeBlocks.set bitmapIndex bits }
          call := Function.update s.call i (visit s.pool startIndex (attempt + 1))
          claimed := s.claimed.erase (bitmapIndex * 64 + bitPos)
          live := s.live }
    | _ => none
  | (i, .storeHead) =>
    match s.call i with
    | .storeHead blockIndex =>
      some
        { pool := { s.pool with allocatorHead := (blockIndex + 1) * 64 }
          call := Function.update s.call i (.returned (some (s.pool.block blockIndex)))
          claimed := s.claimed
          live := s.pool.block blockIndex :: s.live }
    | _ => none
  | (i, .deallocate block) =>
    if (s.call i).idle ∧ block ∈ s.live then
      some
        { pool := s.pool.deallocateBlock block
          call := s.call
          claimed := s.claimed.erase block.blockIndex
          live := s.live.erase block }
    else none

end PoolSys

/-! ## Well-formed pools -/

namespace SharedMemoryPool

/-- The bitmap has a bit for each block and no other; the blocks make up the region, and no number
is too large for a word. -/
structure WellFormed (s : SharedMemoryPool) : Prop where
  length_eq : s.freeBlocks.length = (s.totalBlocks + 63) / 64
  bit_lt : ∀ b, bit s.freeBlocks b = true → b < s.totalBlocks
  regionLen_eq : s.regionLen = s.totalBlocks * s.blockSize
  regionLen_lt : s.regionLen < 2 ^ 64
  totalBlocks_lt : s.totalBlocks * 64 < 2 ^ 64
  head_le : s.allocatorHead ≤ s.totalBlocks * 64

variable {s : SharedMemoryPool}

theorem alignedBlockSize_ge {blockSize : UInt64} (h : alignedBlockSize blockSize ≠ 0) :
    64 ≤ (alignedBlockSize blockSize).toNat := by
  have hround : (alignedBlockSize blockSize).toNat = (blockSize + 63).toNat / 64 * 64 :=
    toNat_and_not_low (k := 6) (blockSize + 63).toBitVec
  have hne : (alignedBlockSize blockSize).toNat ≠ 0 := fun h0 => h (UInt64.toNat_inj.mp h0)
  omega

theorem getLsbD_initialBits {totalBlocks i p : ℕ} (hp : p < 64) (hi : i < (totalBlocks + 63) / 64) :
    (initialBits totalBlocks i).getLsbD p = decide (i * 64 + p < totalBlocks) := by
  unfold initialBits
  split_ifs with hlast
  · have hv : totalBlocks % 64 < 64 := Nat.mod_lt _ (by decide)
    have hmask : (mask 64 (totalBlocks % 64)).toNat = 2 ^ (totalBlocks % 64) := by
      rw [mask, ← BitVec.twoPow_eq, BitVec.toNat_twoPow, Nat.mod_eq_of_lt (Nat.pow_lt_pow_right (by decide) hv)]
    have hone : (1 : BitVec 64) ≤ mask 64 (totalBlocks % 64) := by
      rw [BitVec.le_def, hmask]
      exact Nat.two_pow_pos _
    rw [← BitVec.testBit_toNat, BitVec.toNat_sub_of_le hone, hmask]
    rw [show (1 : BitVec 64).toNat = 1 from rfl, Nat.testBit_two_pow_sub_one, decide_eq_decide]
    omega
  · rw [BitVec.getLsbD_allOnes, decide_eq_true hp, eq_comm, decide_eq_true_iff]
    omega

/-- In the bitmap of a new pool the bits of all blocks are set, and no other. -/
theorem bit_initial (totalBlocks b : ℕ) :
    bit ((List.range ((totalBlocks + 63) / 64)).map (initialBits totalBlocks)) b = decide (b < totalBlocks) := by
  by_cases hb : b / 64 < (totalBlocks + 63) / 64
  · have hword : word ((List.range ((totalBlocks + 63) / 64)).map (initialBits totalBlocks)) (b / 64) =
        initialBits totalBlocks (b / 64) := by
      rw [word, List.getD_eq_getElem?_getD, List.getElem?_map, List.getElem?_range hb]
      rfl
    rw [bit, hword, getLsbD_initialBits (Nat.mod_lt b (by decide)) hb, Nat.div_add_mod']
  · have hnone : bit ((List.range ((totalBlocks + 63) / 64)).map (initialBits totalBlocks)) b = false := by
      rw [Bool.eq_false_iff]
      intro hbit
      have hlt := lt_of_bit hbit
      rw [List.length_map, List.length_range] at hlt
      exact hb ((Nat.div_lt_iff_lt_mul (by decide)).mpr hlt)
    rw [hnone, eq_comm, decide_eq_false_iff_not]
    omega

theorem wellFormed_new {mapAnon : ℕ → Except Error (Ptr Unit)} {poolId : UInt32} {totalSize blockSize : UInt64}
    (h : new mapAnon poolId totalSize blockSize = .ret (.ok s)) :
    s.WellFormed ∧ ∀ b, bit s.freeBlocks b = decide (b < s.totalBlocks) := by
  simp only [new] at h
  split_ifs at h with haligned
  · split at h
    · cases h
    · cases h
      have hge := alignedBlockSize_ge haligned
      have hdiv : (totalSize / alignedBlockSize blockSize).toNat =
          totalSize.toNat / (alignedBlockSize blockSize).toNat := UInt64.toNat_div _ _
      have hsize := UInt64.toNat_lt totalSize
      have hmul := Nat.div_mul_le_self totalSize.toNat (alignedBlockSize blockSize).toNat
      refine ⟨?_, bit_initial _⟩
      constructor
      · rw [List.length_map, List.length_range]
      · exact fun b hb => by simpa only [bit_initial, decide_eq_true_iff] using hb
      · rfl
      · exact lt_of_le_of_lt (hdiv ▸ hmul) hsize
      · calc (totalSize / alignedBlockSize blockSize).toNat * 64
            ≤ totalSize.toNat / (alignedBlockSize blockSize).toNat * (alignedBlockSize blockSize).toNat := by
              rw [hdiv]
              exact Nat.mul_le_mul_left _ hge
          _ ≤ totalSize.toNat := hmul
          _ < 2 ^ 64 := hsize
      · exact Nat.zero_le _

theorem WellFormed.availableBlocks_add (h : s.WellFormed) :
    s.availableBlocks + ((Finset.range s.totalBlocks).filter fun b => ¬ bit s.freeBlocks b = true).card =
      s.totalBlocks :=
  ones_add_card (by decide) h.bit_lt

theorem WellFormed.availableBlocks_eq_zero_iff (h : s.WellFormed) :
    s.availableBlocks = 0 ↔ ∀ b, bit s.freeBlocks b = false := by
  have hfilter :
      ((Finset.range s.totalBlocks).filter fun b => ¬ bit s.freeBlocks b = true).card = s.totalBlocks ↔
      ∀ b ∈ Finset.range s.totalBlocks, ¬ bit s.freeBlocks b = true := by
    rw [← Finset.card_filter_eq_iff, Finset.card_range]
  have hadd := h.availableBlocks_add
  have hzero : s.availableBlocks = 0 ↔
      ((Finset.range s.totalBlocks).filter fun b => ¬ bit s.freeBlocks b = true).card = s.totalBlocks := by
    omega
  rw [hzero, hfilter]
  constructor
  · intro hall b
    rw [Bool.eq_false_iff]
    exact fun hb => hall b (Finset.mem_range.mpr (h.bit_lt b hb)) hb
  · exact fun hall b _ => by rw [hall b]; decide

/-! ## The search -/

theorem WellFormed.lowestFree_eq (h : s.WellFormed) (i : ℕ) : s.lowestFree i = firstSet s.freeBlocks i := by
  unfold lowestFree
  cases hfirst : firstSet s.freeBlocks i with
  | none => rfl
  | some b => simp [h.bit_lt b (bit_of_firstSet hfirst)]

theorem search_of_lt {attempt : ℕ} (hattempt : attempt < s.freeBlocks.length) (startIndex : ℕ) :
    s.search startIndex attempt =
      (s.lowestFree ((startIndex + attempt) % s.freeBlocks.length)).or (s.search startIndex (attempt + 1)) := by
  have hrange : attempt < (List.range s.freeBlocks.length).length := by
    rwa [List.length_range]
  rw [search, List.drop_eq_getElem_cons hrange, List.getElem_range, List.findSome?_cons]
  cases s.lowestFree ((startIndex + attempt) % s.freeBlocks.length) <;> rfl

theorem search_of_le {attempt : ℕ} (hattempt : s.freeBlocks.length ≤ attempt) (startIndex : ℕ) :
    s.search startIndex attempt = none := by
  rw [search, List.drop_eq_nil_of_le (by rwa [List.length_range])]
  rfl

/-- **The search comes to every word**, whatever word it starts at. -/
theorem WellFormed.search_eq_none_iff (h : s.WellFormed) (startIndex : ℕ) :
    s.search startIndex 0 = none ↔ ∀ b, bit s.freeBlocks b = false := by
  rw [search, List.drop_zero, List.findSome?_eq_none_iff]
  simp only [h.lowestFree_eq, List.mem_range]
  constructor
  · intro hnone b
    rw [Bool.eq_false_iff]
    intro hbit
    obtain ⟨attempt, hattempt, hindex⟩ :=
      exists_add_mod_eq ((Nat.div_lt_iff_lt_mul (by decide)).mpr (lt_of_bit hbit)) startIndex
    have hword := firstSet_eq_none_iff.mp (hnone attempt hattempt) (b % 64) (Nat.mod_lt b (by decide))
    rw [hindex, Nat.div_add_mod', hbit] at hword
    cases hword
  · exact fun hnone attempt _ => firstSet_eq_none_iff.mpr fun p _ => hnone _

theorem bit_of_search {startIndex attempt b : ℕ} (h : s.search startIndex attempt = some b) :
    bit s.freeBlocks b = true := by
  obtain ⟨attempt', -, hlowest⟩ := List.exists_of_findSome?_eq_some h
  exact bit_of_firstSet (Option.filter_eq_some_iff.mp hlowest).1

/-- **A call that runs alone** returns no block exactly where no block is free. -/
theorem WellFormed.allocateBlock_eq_none_iff (h : s.WellFormed) :
    s.allocateBlock.1 = none ↔ s.availableBlocks = 0 := by
  rw [h.availableBlocks_eq_zero_iff, ← h.search_eq_none_iff (s.allocatorHead / 64), allocateBlock]
  cases s.search (s.allocatorHead / 64) 0 with
  | none => simp [claim]
  | some b => simp [claim]

end SharedMemoryPool

end PumpTrade
