import PumpTrade.Perf.Memcpy
import PumpTrade.Perf.SharedPoolRun

/-!
# The bytes of a block

`ZeroCopyBlock::write_bytes` and `read_bytes` of `perf/zero_copy_io.rs`, for blocks that calls hold
while others allocate, give back and write. A copy moves the length of the data rounded up to a size
class, and that still ends inside the block: blocks are whole cache lines.

* `writeBytes`, `readBytes`, `BlockSys.step`: the pool and the memory together;
* `memcpySimdOptimized_delivers`: what a copy does even where its source runs into its destination;
* **`blocks_isolated`**: what is written to a block is read from it until it is given back or written
  again.
-/

namespace PumpTrade

open Base

/-! ## Copies -/

namespace SimdMemoryOps

variable {β : Type} [DecidableEq β] {dst src : Ptr β} {len : ℕ} (m : Machine β)

open Machine (Delivers delivers_move delivers_chunks delivers_zero)

theorem memcpySmall_delivers (hpos : 0 < len) (hle : len ≤ 8) (total : ℕ) :
    Delivers dst src (copied len) total m (memcpySmall dst src len m) := by
  unfold memcpySmall
  split
  · exact delivers_move 1 _ dst src m
  · exact delivers_move 2 _ dst src m
  · exact (delivers_move 2 _ dst src m).trans (delivers_move 1 _ _ _ _)
  · exact delivers_move 4 _ dst src m
  · next h₁ h₂ h₃ h₄ =>
    have hfive : ¬ len ≤ 4 := by
      have : len ≠ 1 ∧ len ≠ 2 ∧ len ≠ 3 ∧ len ≠ 4 := ⟨h₁, h₂, h₃, h₄⟩
      omega
    simp only [if_neg (Nat.not_lt.mpr hle)]
    rw [copied, if_neg hfive, if_pos hle]
    exact delivers_move 8 _ dst src m

theorem memcpyAvx2_delivers (hpos : 0 < len) (hle : len ≤ 64) (total : ℕ) :
    Delivers dst src ((len + 31) / 32 * 32) total m (memcpyAvx2 dst src len m) := by
  unfold memcpyAvx2
  by_cases hlong : 32 < len
  · simp only [if_pos hlong, if_pos (show len - 32 ≤ 32 by omega)]
    rw [show (len + 31) / 32 * 32 = 32 + 32 by omega]
    exact (delivers_move 32 _ dst src m).trans (delivers_move 32 _ _ _ _)
  · simp only [if_neg hlong]
    rw [show (len + 31) / 32 * 32 = 32 by omega]
    exact delivers_move 32 _ dst src m

theorem memcpyAvx_delivers (hle : len ≤ 32) (total : ℕ) :
    Delivers dst src 32 total m (memcpyAvx dst src len m) := by
  rw [memcpyAvx, if_pos hle]
  exact delivers_move 32 _ dst src m

theorem memcpyAvx512OrFallback_delivers (avx512f : Bool) (total : ℕ) :
    Delivers dst src ((len + 31) / 32 * 32) total m (memcpyAvx512OrFallback avx512f dst src len m) := by
  unfold memcpyAvx512OrFallback
  cases avx512f with
  | true =>
    have hchunks := delivers_chunks dst src (fun offset len m => delivers_move 64 len _ _ m) (len / 64) 0 total m
    rw [Ptr.add_zero, Ptr.add_zero] at hchunks
    simp only [if_true]
    by_cases hrest : 0 < len % 64
    · rw [if_pos hrest, show (len + 31) / 32 * 32 = len / 64 * 64 + (len % 64 + 31) / 32 * 32 by omega]
      exact hchunks.trans (memcpyAvx2_delivers _ hrest (by omega) _)
    · rw [if_neg hrest, show (len + 31) / 32 * 32 = len / 64 * 64 by omega]
      exact hchunks
  | false =>
    have hchunks := delivers_chunks dst src
      (fun offset total m => memcpyAvx2_delivers m (by decide : 0 < 32) (by decide) total) (len / 32) 0 total m
    rw [Ptr.add_zero, Ptr.add_zero] at hchunks
    simp only [Bool.false_eq_true, if_false]
    by_cases hrest : 0 < len % 32
    · rw [if_pos hrest, show (len + 31) / 32 * 32 = len / 32 * 32 + 32 by omega]
      exact hchunks.trans (memcpyAvx_delivers _ (by omega) _)
    · rw [if_neg hrest, show (len + 31) / 32 * 32 = len / 32 * 32 by omega]
      exact hchunks

/-- **What a copy delivers**, wherever the bytes are that it moves too much. -/
theorem memcpySimdOptimized_delivers (avx512f : Bool) (dst src : Ptr β) (len : ℕ) (m : Machine β) :
    Delivers dst src (copied len) len m (memcpySimdOptimized avx512f dst src len m) := by
  unfold memcpySimdOptimized
  split_ifs with hzero hsmall hsse havx havx2
  · subst hzero
    exact delivers_zero dst src _ m
  · exact memcpySmall_delivers m (Nat.pos_of_ne_zero hzero) hsmall _
  all_goals rw [copied, if_neg (by omega), if_neg hsmall]
  · rw [if_pos hsse, memcpySse, if_pos hsse]
    exact delivers_move 16 _ dst src m
  all_goals rw [if_neg hsse]
  · rw [show (len + 31) / 32 * 32 = 32 by omega]
    exact memcpyAvx_delivers m havx _
  · exact memcpyAvx2_delivers m (by omega) havx2 _
  · exact memcpyAvx512OrFallback_delivers m avx512f _

theorem copied_le {size : ℕ} (hlines : 64 ∣ size) (hlen : len ≤ size) : copied len ≤ size := by
  unfold copied
  split_ifs <;> omega

end SimdMemoryOps

/-! ## Blocks -/

namespace ZeroCopyBlock

variable (avx512f : Bool) (block : ZeroCopyBlock) (mem : Memory Unit)

/-- Copy `len` bytes from `data` on into the block, unless they are too many. -/
def writeBytes (data : Ptr Unit) (len : ℕ) : Except Error Unit × Memory Unit :=
  if block.size < len then (.error (.other "Data too large for block"), mem)
  else (.ok (), (SimdMemoryOps.memcpySimdOptimized avx512f block.ptr data len (.start mem)).mem)

/-- The first bytes of a block. -/
def readBytes (len : ℕ) : Except Error (List UInt8) :=
  if block.size < len then .error (.other "Read length exceeds block size") else .ok (mem.load block.ptr len)

variable {avx512f block mem}

/-- **A write stays inside its block**, although it moves more than the data. -/
theorem writeBytes_frame (hlines : 64 ∣ block.size) {data q : Ptr Unit} {len : ℕ}
    (hq : ¬ q.Within block.ptr block.size) : (block.writeBytes avx512f mem data len).2 q = mem q := by
  unfold writeBytes
  split_ifs with hlen
  · rfl
  · refine (SimdMemoryOps.memcpySimdOptimized_delivers avx512f block.ptr data len (.start mem)).frame q ?_
    rintro ⟨hblock, hle, hlt⟩
    have hcopied := SimdMemoryOps.copied_le hlines (Nat.not_lt.mp hlen)
    exact hq ⟨hblock, hle, by omega⟩

theorem writeBytes_written {data : Ptr Unit} {len : ℕ} (hapart : Ptr.Apart block.ptr data len)
    (hlen : len ≤ block.size) {i : ℕ} (hi : i < len) :
    (block.writeBytes avx512f mem data len).2 (block.ptr.add i) = mem (data.add i) := by
  rw [writeBytes, if_neg (Nat.not_lt.mpr hlen)]
  exact (SimdMemoryOps.memcpySimdOptimized_delivers avx512f block.ptr data len (.start mem)).written hapart i
    (lt_of_lt_of_le hi (SimdMemoryOps.le_copied len)) hi

end ZeroCopyBlock

/-! ## The pool and the memory -/

/-- The pool with all calls, and the memory. -/
structure BlockSys (ι : Type) where
  sys : PoolSys ι
  mem : Memory Unit

/-- An atomic operation of the pool, a write to a block that a call returned, or a write of the rest of
the program. -/
inductive BlockAct where
  | pool (act : PoolAct)
  | write (block : ZeroCopyBlock) (data : Ptr Unit) (len : ℕ)
  | elsewhere (q : Ptr Unit) (byte : UInt8)

/-- The operation gives this block back, or writes to it. -/
def BlockAct.Touches (block : ZeroCopyBlock) : BlockAct → Prop
  | pool act => act = .deallocate block
  | write block' _ _ => block' = block
  | elsewhere _ _ => False

namespace BlockSys

open SharedMemoryPool

variable {ι : Type} [DecidableEq ι] (avx512f : Bool)

/-- A new pool in a memory. -/
def initial (pool : SharedMemoryPool) (mem : Memory Unit) : BlockSys ι := ⟨.initial pool, mem⟩

/-- A write borrows its block, so that the data is none of it; the rest of the program writes outside
the region. -/
def step (s : BlockSys ι) : ι × BlockAct → Option (BlockSys ι)
  | (i, .pool act) => (s.sys.step (i, act)).map fun sys => { s with sys }
  | (_, .write block data len) =>
    if block ∈ s.sys.live ∧ Ptr.Apart block.ptr data len then
      some { s with mem := (block.writeBytes avx512f s.mem data len).2 }
    else none
  | (_, .elsewhere q byte) =>
    if q.Within s.sys.pool.memoryRegion s.sys.pool.regionLen then none
    else some { s with mem := Function.update s.mem q byte }

/-- The pool is sound, and its blocks are whole cache lines. -/
structure Inv (s : BlockSys ι) : Prop where
  pool : s.sys.Inv
  lines : 64 ∣ s.sys.pool.blockSize

variable {avx512f} {s s' : BlockSys ι} {block : ZeroCopyBlock}

theorem blockSize_step {t t' : PoolSys ι} {i : ι} {act : PoolAct} (h : t.Inv)
    (hstep : t.step (i, act) = some t') : t'.pool.blockSize = t.pool.blockSize := by
  cases PoolSys.step_moved h hstep with
  | allocate | load | retry | claim | storeHead => rfl
  | deallocate hblock =>
    show (t.pool.deallocateBlock _).blockSize = _
    unfold deallocateBlock
    split_ifs <;> rfl

theorem lines_new {mapAnon : ℕ → Except Error (Ptr Unit)} {poolId : UInt32} {totalSize blockSize : UInt64}
    {pool : SharedMemoryPool} (h : new mapAnon poolId totalSize blockSize = .ret (.ok pool)) :
    64 ∣ pool.blockSize := by
  simp only [new] at h
  split_ifs at h
  split at h
  · cases h
  · cases h
    have hround : (alignedBlockSize blockSize).toNat = (blockSize + 63).toNat / 64 * 64 :=
      Bitmap.toNat_and_not_low (k := 6) (blockSize + 63).toBitVec
    exact ⟨_, hround.trans (Nat.mul_comm _ _)⟩

theorem inv_step {a : ι × BlockAct} (h : s.Inv) (hstep : step avx512f s a = some s') : s'.Inv := by
  obtain ⟨i, a⟩ := a
  cases a with
  | pool act =>
    obtain ⟨sys, hsys, rfl⟩ := Option.map_eq_some_iff.mp hstep
    exact ⟨PoolSys.inv_step h.pool hsys, blockSize_step h.pool hsys ▸ h.lines⟩
  | write block data len =>
    simp only [step] at hstep
    split_ifs at hstep
    cases hstep
    exact ⟨h.pool, h.lines⟩
  | elsewhere q byte =>
    simp only [step] at hstep
    split_ifs at hstep
    cases hstep
    exact ⟨h.pool, h.lines⟩

omit [DecidableEq ι] in
theorem Inv.lines_of_live (h : s.Inv) (hblock : block ∈ s.sys.live) : 64 ∣ block.size := by
  rw [(h.pool.blockIndex_lt hblock).2]
  exact h.lines

theorem live_step {a : ι × BlockAct} (h : s.Inv) (hblock : block ∈ s.sys.live) (ha : ¬ a.2.Touches block)
    (hstep : step avx512f s a = some s') : block ∈ s'.sys.live := by
  obtain ⟨i, a⟩ := a
  cases a with
  | pool act =>
    obtain ⟨sys, hsys, rfl⟩ := Option.map_eq_some_iff.mp hstep
    cases PoolSys.step_moved h.pool hsys with
    | allocate | load | retry | claim => exact hblock
    | storeHead => exact List.mem_cons_of_mem _ hblock
    | @deallocate block' _ =>
      refine (List.mem_erase_of_ne fun heq => ha ?_).mpr hblock
      rw [heq]
      rfl
  | write block' data len =>
    simp only [step] at hstep
    split_ifs at hstep
    cases hstep
    exact hblock
  | elsewhere q byte =>
    simp only [step] at hstep
    split_ifs at hstep
    cases hstep
    exact hblock

/-- **The frame of a block.** An operation that does not touch a live block leaves its bytes as they
are. -/
theorem frame_step {a : ι × BlockAct} (h : s.Inv) (hblock : block ∈ s.sys.live) (ha : ¬ a.2.Touches block)
    (hstep : step avx512f s a = some s') {n : ℕ} (hn : n < block.size) :
    s'.mem (block.ptr.add n) = s.mem (block.ptr.add n) := by
  obtain ⟨i, a⟩ := a
  cases a with
  | pool act =>
    obtain ⟨sys, -, rfl⟩ := Option.map_eq_some_iff.mp hstep
    rfl
  | write block' data len =>
    simp only [step] at hstep
    split_ifs at hstep with hwrite
    cases hstep
    refine ZeroCopyBlock.writeBytes_frame (h.lines_of_live hwrite.1) ?_
    obtain ⟨-, heq⟩ := h.pool.blockIndex_lt hblock
    obtain ⟨-, heq'⟩ := h.pool.blockIndex_lt hwrite.1
    have hne : block'.blockIndex ≠ block.blockIndex := by
      intro hindex
      rw [hindex, ← heq] at heq'
      exact ha heq'
    rw [heq] at hn ⊢
    rw [heq']
    exact (SharedMemoryPool.apart_block hne).not_within hn
  | elsewhere q byte =>
    simp only [step] at hstep
    split_ifs at hstep with hregion
    cases hstep
    refine Function.update_of_ne (fun heq => hregion ?_) _ _
    rw [← heq]
    exact h.pool.sound.inside block hblock n hn

/-- **The frame of a block, over a run.** -/
theorem frame_run {acts : List (ι × BlockAct)} (h : s.Inv) (hblock : block ∈ s.sys.live)
    (hacts : ∀ a ∈ acts, ¬ a.2.Touches block) (hrun : run (step avx512f) s acts = some s') :
    block ∈ s'.sys.live ∧ ∀ n < block.size, s'.mem (block.ptr.add n) = s.mem (block.ptr.add n) := by
  induction acts generalizing s with
  | nil =>
    obtain rfl := Option.some.inj hrun
    exact ⟨hblock, fun _ _ => rfl⟩
  | cons a acts ih =>
    obtain ⟨t, hstep, hrest⟩ := run_cons_eq_some.mp hrun
    obtain ⟨ha, hacts⟩ := List.forall_mem_cons.mp hacts
    obtain ⟨hlive, hbytes⟩ := ih (inv_step h hstep) (live_step h hblock ha hstep) hacts hrest
    exact ⟨hlive, fun n hn => (hbytes n hn).trans (frame_step h hblock ha hstep hn)⟩

/-- **Blocks are isolated.** Calls allocate, give back and write to blocks of a pool that `new` makes,
in any order of their operations. From a write that has succeeded on, whatever the others do, a block
that is neither given back nor written again is live and is read as the data of that write, although a
copy moves more bytes than the data has. -/
theorem blocks_isolated {mapAnon : ℕ → Except Error (Ptr Unit)} {poolId : UInt32} {totalSize blockSize : UInt64}
    {pool : SharedMemoryPool} (hnew : new mapAnon poolId totalSize blockSize = .ret (.ok pool)) (mem : Memory Unit)
    {before later : List (ι × BlockAct)} {i : ι} {data : Ptr Unit} {len : ℕ} {t : BlockSys ι}
    (hrun : run (step avx512f) (initial pool mem) before = some s) (hlen : len ≤ block.size)
    (hlater : ∀ a ∈ later, ¬ a.2.Touches block)
    (hrest : run (step avx512f) s ((i, .write block data len) :: later) = some t) :
    block ∈ t.sys.live ∧ ∀ n ≤ len, block.readBytes t.mem n = .ok (s.mem.load data n) := by
  obtain ⟨hwellFormed, hfree⟩ := wellFormed_new hnew
  have hinitial : (initial pool mem : BlockSys ι).Inv :=
    ⟨PoolSys.inv_initial hwellFormed hfree, lines_new hnew⟩
  have h : s.Inv := run_inv (fun _ _ _ => inv_step) hinitial hrun
  obtain ⟨s', hwrite, hrest⟩ := run_cons_eq_some.mp hrest
  have h' : s'.Inv := inv_step h hwrite
  simp only [step] at hwrite
  split_ifs at hwrite with hguard
  cases hwrite
  obtain ⟨hlive, hbytes⟩ := frame_run h' hguard.1 hlater hrest
  refine ⟨hlive, fun n hn => ?_⟩
  rw [ZeroCopyBlock.readBytes, if_neg (by omega)]
  refine congrArg Except.ok (List.map_congr_left fun k hk => ?_)
  have hk : k < n := List.mem_range.mp hk
  rw [hbytes k (by omega)]
  exact ZeroCopyBlock.writeBytes_written hguard.2 hlen (by omega)

/-- Two threads take the blocks of a pool. -/
def takeBlocks : List (Bool × BlockAct) := PoolSys.bothBlocks.map (Prod.map id .pool)

/-- Five bytes go to the first block, and eight are moved; then the second block is filled from a place
before it whose last bytes are its own. -/
def writeBlocks (first second : ZeroCopyBlock) : List (Bool × BlockAct) :=
  [(true, .write first ⟨(), 7⟩ 5), (false, .write second ⟨(), 4200⟩ 20), (false, .elsewhere ⟨(), 9⟩ 255)]

theorem blocks_isolated_five : ∃ pool, new (fun _ => .ok ⟨(), 4096⟩) 1 300 100 = .ret (.ok pool) ∧ ∃ s t,
    run (step true) (initial pool fun q => UInt8.ofNat q.offset) takeBlocks = some s ∧
    run (step true) s (writeBlocks (pool.block 0) (pool.block 1)) = some t ∧
    (pool.block 0).readBytes t.mem 5 = .ok [7, 8, 9, 10, 11] := by
  let pool : SharedMemoryPool :=
    { memoryRegion := ⟨(), 4096⟩
      regionLen := 256
      freeBlocks := [3]
      blockSize := 128
      totalBlocks := 2
      allocatorHead := 0
      poolId := 1 }
  have hnew : new (fun _ => .ok ⟨(), 4096⟩) 1 300 100 = .ret (.ok pool) := by decide +kernel
  have hruns : (run (step true) (initial pool fun q => UInt8.ofNat q.offset)
      (takeBlocks ++ writeBlocks (pool.block 0) (pool.block 1))).isSome := by decide +kernel
  have hdata : (run (step true) (initial pool fun q => UInt8.ofNat q.offset) takeBlocks).map
      (fun s => s.mem.load ⟨(), 7⟩ 5) = some [7, 8, 9, 10, 11] := by decide +kernel
  obtain ⟨s, hs, hdata⟩ := Option.map_eq_some_iff.mp hdata
  obtain ⟨t, ht⟩ := Option.isSome_iff_exists.mp hruns
  rw [run_append, hs, Option.bind_some] at ht
  have huntouched : ∀ a ∈ (writeBlocks (pool.block 0) (pool.block 1)).tail, ¬ a.2.Touches (pool.block 0) := by
    simp [writeBlocks, BlockAct.Touches, SharedMemoryPool.block]
  have hread := (blocks_isolated hnew _ hs (by decide) huntouched ht).2 5 (Nat.le_refl 5)
  exact ⟨pool, hnew, s, t, hs, ht, hread.trans (congrArg Except.ok hdata)⟩

end BlockSys

end PumpTrade
