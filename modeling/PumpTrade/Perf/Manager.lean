import PumpTrade.Base.Run
import PumpTrade.Perf.SharedPoolRun

/-!
# The manager of the pools

`ZeroCopyMemoryManager` of `perf/zero_copy_io.rs`: three pools of blocks of one size each, from which
a request takes a block by its size, and to which a block goes back by the number of its pool. One
call comes after another; each is what `PoolSys.alone_eq` says of a call that runs alone. The mapped
buffers and the channels of the manager have no part in this.

* `new`, `allocate`, `deallocate`;
* `Lent`: a block that the manager handed out and that did not come back;
* `Lent.givesBack`: giving it back frees the block and no other;
* `Blocks.step`: the calls on one manager, in any order;
* **`Blocks.blocks_sound_iff`**: every block is as large as was asked for exactly where each request above
  the largest class finds its pool empty.
-/

namespace PumpTrade

open Base Bitmap

/-- The pools, and the counters that the calls write. -/
structure ZeroCopyMemoryManager where
  sharedPools : Vector SharedMemoryPool 3
  blocksAllocated : UInt64
  blocksFreed : UInt64
  deriving DecidableEq

namespace ZeroCopyMemoryManager

/-- `mapAnon` is what is mapped for a pool and a length, `others` says whether the mapped buffers and
the channels are created. -/
def new (mapAnon : UInt32 → ℕ → Except Error (Ptr Unit)) (others : Except Error Unit) :
    Outcome (Except Error ZeroCopyMemoryManager) := ExceptT.run do
  let small ← ExceptT.mk (SharedMemoryPool.new (mapAnon 0) 0 (1024 * 1024 * 1024) (64 * 1024))
  let medium ← ExceptT.mk (SharedMemoryPool.new (mapAnon 1) 1 (4 * 1024 * 1024 * 1024) (1024 * 1024))
  let large ← ExceptT.mk (SharedMemoryPool.new (mapAnon 2) 2 (8 * 1024 * 1024 * 1024) (16 * 1024 * 1024))
  let () ← ExceptT.mk (Outcome.ret others)
  return { sharedPools := #v[small, medium, large], blocksAllocated := 0, blocksFreed := 0 }

variable (m : ZeroCopyMemoryManager)

/-- The pool for a size. -/
def poolIndex (size : UInt64) : Fin 3 :=
  if size ≤ 64 * 1024 then 0
  else if size ≤ 1024 * 1024 then 1
  else 2

/-- The pool of class `i`. -/
def pool (i : Fin 3) : SharedMemoryPool := m.sharedPools[i]

/-- The pools after a call on one of them. -/
def setPool (i : Fin 3) (pool : SharedMemoryPool) : Vector SharedMemoryPool 3 := m.sharedPools.set i pool

/-- A block of the smallest class that holds the size, the largest class for all sizes above. -/
def allocate (size : UInt64) : Option ZeroCopyBlock × ZeroCopyMemoryManager :=
  let i := poolIndex size
  match (m.pool i).allocateBlock with
  | (some block, pool) =>
    (some block, { m with sharedPools := m.setPool i pool, blocksAllocated := m.blocksAllocated + 1 })
  | (none, pool) => (none, { m with sharedPools := m.setPool i pool })

/-- Give a block back to the pool that it names. -/
def deallocate (block : ZeroCopyBlock) : ZeroCopyMemoryManager :=
  if h : block.poolId.toNat < 3 then
    let i : Fin 3 := ⟨block.poolId.toNat, h⟩
    { m with
      sharedPools := m.setPool i ((m.pool i).deallocateBlock block)
      blocksFreed := m.blocksFreed + 1 }
  else m

/-! ## The pools -/

/-- The size of the blocks of a pool. -/
def classSize : Fin 3 → ℕ
  | 0 => 64 * 1024
  | 1 => 1024 * 1024
  | 2 => 16 * 1024 * 1024

/-- What holds of pool `i` between the calls. -/
structure Serves (i : Fin 3) (pool : SharedMemoryPool) : Prop where
  wellFormed : pool.WellFormed
  poolId_eq : pool.poolId.toNat = i
  blockSize_eq : pool.blockSize = classSize i

theorem le_classSize_iff (size : UInt64) :
    size.toNat ≤ classSize (poolIndex size) ↔ size.toNat ≤ 16 * 1024 * 1024 := by
  unfold poolIndex
  split_ifs with hsmall hmedium
  · have hle : size.toNat ≤ 65536 := UInt64.le_iff_toNat_le.mp hsmall
    exact iff_of_true hle (by omega)
  · have hle : size.toNat ≤ 1048576 := UInt64.le_iff_toNat_le.mp hmedium
    exact iff_of_true hle (by omega)
  · exact Iff.rfl

theorem poolIndex_of_lt {size : UInt64} (h : 16 * 1024 * 1024 < size.toNat) : poolIndex size = 2 := by
  have hmedium : ¬ size ≤ 1024 * 1024 := fun hle => by
    have hle : size.toNat ≤ 1048576 := UInt64.le_iff_toNat_le.mp hle
    omega
  have hsmall : ¬ size ≤ 64 * 1024 := fun hle => by
    have hle : size.toNat ≤ 65536 := UInt64.le_iff_toNat_le.mp hle
    omega
  rw [poolIndex, if_neg hsmall, if_neg hmedium]

theorem serves_new {mapAnon : ℕ → Except Error (Ptr Unit)} {poolId : UInt32} {totalSize blockSize : UInt64}
    {pool : SharedMemoryPool} {i : Fin 3}
    (h : SharedMemoryPool.new mapAnon poolId totalSize blockSize = .ret (.ok pool)) (hid : poolId.toNat = i)
    (hsize : (SharedMemoryPool.alignedBlockSize blockSize).toNat = classSize i) : Serves i pool := by
  have hwellFormed := (SharedMemoryPool.wellFormed_new h).1
  simp only [SharedMemoryPool.new] at h
  split_ifs at h with hzero
  split at h
  · cases h
  · cases h
    exact ⟨hwellFormed, hid, hsize⟩

theorem serves_pool_new {mapAnon : UInt32 → ℕ → Except Error (Ptr Unit)} {others : Except Error Unit}
    {m : ZeroCopyMemoryManager} (h : new mapAnon others = .ret (.ok m)) (i : Fin 3) :
    Serves i (m.pool i) := by
  obtain ⟨small, hsmall, h⟩ := Outcome.run_bind_eq_ok.mp h
  obtain ⟨medium, hmedium, h⟩ := Outcome.run_bind_eq_ok.mp h
  obtain ⟨large, hlarge, h⟩ := Outcome.run_bind_eq_ok.mp h
  obtain ⟨-, -, h⟩ := Outcome.run_bind_eq_ok.mp h
  cases h
  rw [ExceptT.run_mk] at hsmall hmedium hlarge
  have hserves₀ : Serves 0 small := serves_new hsmall rfl (by decide)
  have hserves₁ : Serves 1 medium := serves_new hmedium rfl (by decide)
  have hserves₂ : Serves 2 large := serves_new hlarge rfl (by decide)
  match i with
  | 0 => exact hserves₀
  | 1 => exact hserves₁
  | 2 => exact hserves₂

namespace Serves

variable {i : Fin 3} {pool : SharedMemoryPool} {b : ℕ}

theorem take (h : Serves i pool) (hb : b < pool.totalBlocks) :
    Serves i { pool with freeBlocks := clearBit pool.freeBlocks b, allocatorHead := (b + 1) * 64 } :=
  ⟨(h.wellFormed.clearBit hb).storeHead hb, h.poolId_eq, h.blockSize_eq⟩

theorem giveBack (h : Serves i pool) (hb : b < pool.totalBlocks) :
    Serves i { pool with freeBlocks := setBit pool.freeBlocks b } :=
  ⟨h.wellFormed.setBit hb, h.poolId_eq, h.blockSize_eq⟩

theorem allocateBlock_cases (h : Serves i pool) :
    (pool.availableBlocks = 0 ∧ pool.allocateBlock = (none, pool)) ∨
      ∃ b, bit pool.freeBlocks b = true ∧ pool.allocateBlock = (some (pool.block b),
        { pool with freeBlocks := clearBit pool.freeBlocks b, allocatorHead := (b + 1) * 64 }) := by
  cases hsearch : pool.search (pool.allocatorHead / 64) 0 with
  | none =>
    have heq : pool.allocateBlock = (none, pool) := by
      rw [SharedMemoryPool.allocateBlock, hsearch, SharedMemoryPool.claim]
    exact Or.inl ⟨h.wellFormed.allocateBlock_eq_none_iff.mp (by rw [heq]), heq⟩
  | some b =>
    refine Or.inr ⟨b, SharedMemoryPool.bit_of_search hsearch, ?_⟩
    rw [SharedMemoryPool.allocateBlock, hsearch, SharedMemoryPool.claim]

end Serves

/-! ## Blocks that are out -/

variable {m m' : ZeroCopyMemoryManager} {i j : Fin 3} {b c : ℕ} {block : ZeroCopyBlock}

theorem pool_setPool (m : ZeroCopyMemoryManager) (i j : Fin 3) (pool : SharedMemoryPool)
    (allocated freed : UInt64) :
    ({ sharedPools := m.setPool i pool, blocksAllocated := allocated, blocksFreed := freed } :
      ZeroCopyMemoryManager).pool j = if i = j then pool else m.pool j := by
  simp only [ZeroCopyMemoryManager.pool, setPool, Fin.getElem_fin, Vector.getElem_set, Fin.val_inj]

/-- Block `b` of pool `i` is free. -/
def Available (m : ZeroCopyMemoryManager) (i : Fin 3) (b : ℕ) : Prop := bit (m.pool i).freeBlocks b = true

/-- Pool `i` has another bitmap and head, and the other pools are what they were. -/
def Remaps (m m' : ZeroCopyMemoryManager) (i : Fin 3) (freeBlocks : List (BitVec 64))
    (allocatorHead : ℕ) : Prop :=
  ∀ j, m'.pool j = if i = j then { m.pool i with freeBlocks, allocatorHead } else m.pool j

namespace Remaps

variable {freeBlocks : List (BitVec 64)} {allocatorHead : ℕ}

theorem block_eq (h : m.Remaps m' i freeBlocks allocatorHead) (j : Fin 3) :
    (m'.pool j).block = (m.pool j).block := by
  rw [h]
  split_ifs with hj
  · rw [← hj]
    rfl
  · rfl

theorem totalBlocks_eq (h : m.Remaps m' i freeBlocks allocatorHead) (j : Fin 3) :
    (m'.pool j).totalBlocks = (m.pool j).totalBlocks := by
  rw [h]
  split_ifs with hj
  · rw [← hj]
  · rfl

theorem serves (h : m.Remaps m' i freeBlocks allocatorHead) (hm : ∀ j, Serves j (m.pool j))
    (hi : Serves i { m.pool i with freeBlocks, allocatorHead }) (j : Fin 3) : Serves j (m'.pool j) := by
  rw [h]
  split_ifs with hj
  · exact hj ▸ hi
  · exact hm j

theorem available_iff (h : m.Remaps m' i freeBlocks allocatorHead) (j : Fin 3) (c : ℕ) :
    m'.Available j c ↔ if i = j then bit freeBlocks c = true else m.Available j c := by
  unfold Available
  rw [h]
  split_ifs <;> rfl

theorem available_take (hm : Serves i (m.pool i)) (hb : b < (m.pool i).totalBlocks)
    (h : m.Remaps m' i (clearBit (m.pool i).freeBlocks b) allocatorHead) (j : Fin 3) (c : ℕ) :
    m'.Available j c ↔ m.Available j c ∧ ¬ (i = j ∧ b = c) := by
  rw [h.available_iff, bit_clearBit (hm.wellFormed.lt_bits hb)]
  split_ifs with hj
  · subst hj
    simp [Available, and_comm]
  · simp [hj]

theorem available_giveBack (hm : Serves i (m.pool i)) (hb : b < (m.pool i).totalBlocks)
    (h : m.Remaps m' i (setBit (m.pool i).freeBlocks b) allocatorHead) (j : Fin 3) (c : ℕ) :
    m'.Available j c ↔ m.Available j c ∨ (i = j ∧ b = c) := by
  rw [h.available_iff, bit_setBit (hm.wellFormed.lt_bits hb)]
  split_ifs with hj
  · subst hj
    simp [Available, or_comm]
  · simp [hj]

end Remaps

/-- A block of pool `i` that is not free. -/
structure Lent (m : ZeroCopyMemoryManager) (i : Fin 3) (block : ZeroCopyBlock) : Prop where
  block_eq : block = (m.pool i).block block.blockIndex
  blockIndex_lt : block.blockIndex < (m.pool i).totalBlocks
  taken : ¬ m.Available i block.blockIndex

/-- Giving the block back makes it available in its pool, and no other block of any pool. -/
def GivesBack (m : ZeroCopyMemoryManager) (block : ZeroCopyBlock) : Prop :=
  ∃ i : Fin 3, block.poolId.toNat = i ∧ m.Lent i block ∧
    ∀ j c, (m.deallocate block).Available j c ↔ m.Available j c ∨ (i = j ∧ block.blockIndex = c)

theorem Lent.poolId_eq (h : m.Lent i block) (hm : Serves i (m.pool i)) : block.poolId.toNat = i := by
  rw [h.block_eq]
  exact hm.poolId_eq

/-- **What a deallocation does.** -/
theorem Lent.remaps_deallocate (h : m.Lent i block) (hm : Serves i (m.pool i)) :
    m.Remaps (m.deallocate block) i (setBit (m.pool i).freeBlocks block.blockIndex)
      (m.pool i).allocatorHead := by
  intro j
  have hid := h.poolId_eq hm
  have hback := hm.wellFormed.deallocateBlock_block h.blockIndex_lt
  rw [← h.block_eq] at hback
  have hlt : block.poolId.toNat < 3 := hid ▸ i.isLt
  have hi : (⟨block.poolId.toNat, hlt⟩ : Fin 3) = i := Fin.ext hid
  simp only [deallocate, dif_pos hlt, hi, pool_setPool, hback]

/-- **Giving a block back** makes it available, and no other. -/
theorem Lent.givesBack (h : m.Lent i block) (hm : Serves i (m.pool i)) : m.GivesBack block :=
  ⟨i, h.poolId_eq hm, h, Remaps.available_giveBack hm h.blockIndex_lt (h.remaps_deallocate hm)⟩

theorem Lent.mono {freeBlocks : List (BitVec 64)} {allocatorHead : ℕ} (h : m.Lent j block)
    (hm' : m.Remaps m' i freeBlocks allocatorHead)
    (hfree : m'.Available j block.blockIndex → m.Available j block.blockIndex) : m'.Lent j block where
  block_eq := hm'.block_eq j ▸ h.block_eq
  blockIndex_lt := hm'.totalBlocks_eq j ▸ h.blockIndex_lt
  taken := fun hav => h.taken (hfree hav)

end ZeroCopyMemoryManager

/-! ## Runs -/

/-- A manager, and the blocks that are out, each with the size that was asked for. -/
structure Blocks where
  manager : ZeroCopyMemoryManager
  live : List (UInt64 × ZeroCopyBlock)

/-- A call of the manager. -/
inductive ManagerCall where
  | allocate (size : UInt64)
  | deallocate (lent : UInt64 × ZeroCopyBlock)

namespace Blocks

open ZeroCopyMemoryManager

/-- No block is out. -/
def initial (manager : ZeroCopyMemoryManager) : Blocks := ⟨manager, []⟩

/-- One call. What is given back is a block that is out. -/
def step (s : Blocks) : ManagerCall → Option Blocks
  | .allocate size =>
    match s.manager.allocate size with
    | (some block, manager) => some ⟨manager, (size, block) :: s.live⟩
    | (none, manager) => some ⟨manager, s.live⟩
  | .deallocate lent =>
    if lent ∈ s.live then some ⟨s.manager.deallocate lent.2, s.live.erase lent⟩ else none

/-- Each block that is out is as large as was asked for, and giving it back makes it available and
no other. -/
structure Sound (s : Blocks) : Prop where
  large : ∀ lent ∈ s.live, lent.1.toNat ≤ lent.2.size
  givesBack : ∀ lent ∈ s.live, s.manager.GivesBack lent.2

/-- A size above the largest class finds no block of that class. -/
def Served (s : Blocks) : ManagerCall → Prop
  | .allocate size => size.toNat ≤ 16 * 1024 * 1024 ∨ (s.manager.pool 2).availableBlocks = 0
  | .deallocate _ => True

/-- The pools serve their classes, and the blocks that are out are different blocks of them. -/
structure Inv (s : Blocks) : Prop where
  serves : ∀ i, Serves i (s.manager.pool i)
  lent : ∀ lent ∈ s.live, ∃ i, s.manager.Lent i lent.2
  distinct : (s.live.map Prod.snd).Nodup

variable {s s' : Blocks} {size : UInt64} {lent : UInt64 × ZeroCopyBlock}

theorem Inv.sound_iff (h : s.Inv) : s.Sound ↔ ∀ lent ∈ s.live, lent.1.toNat ≤ lent.2.size := by
  refine ⟨Sound.large, fun hlarge => ⟨hlarge, fun lent hlent => ?_⟩⟩
  obtain ⟨i, hi⟩ := h.lent lent hlent
  exact hi.givesBack (h.serves i)

/-- What a call does. -/
inductive Moved (s : Blocks) : ManagerCall → Blocks → Prop where
  | refuse {size : UInt64} {manager : ZeroCopyMemoryManager}
    (hzero : (s.manager.pool (poolIndex size)).availableBlocks = 0)
    (hsame : ∀ j, manager.pool j = s.manager.pool j) : Moved s (.allocate size) ⟨manager, s.live⟩
  | take {size : UInt64} {manager : ZeroCopyMemoryManager} {b : ℕ}
    (havailable : s.manager.Available (poolIndex size) b)
    (htaken : s.manager.Remaps manager (poolIndex size)
      (clearBit (s.manager.pool (poolIndex size)).freeBlocks b) ((b + 1) * 64)) :
    Moved s (.allocate size) ⟨manager, (size, (s.manager.pool (poolIndex size)).block b) :: s.live⟩
  | giveBack {lent : UInt64 × ZeroCopyBlock} (hlent : lent ∈ s.live) :
    Moved s (.deallocate lent) ⟨s.manager.deallocate lent.2, s.live.erase lent⟩

theorem moved_of_step {a : ManagerCall} (h : s.Inv) (hstep : s.step a = some s') : s.Moved a s' := by
  cases a with
  | allocate size =>
    rcases (h.serves (poolIndex size)).allocateBlock_cases with ⟨hzero, heq⟩ | ⟨b, hb, heq⟩
    · simp only [step, allocate, heq] at hstep
      cases hstep
      refine .refuse hzero fun j => ?_
      rw [pool_setPool]
      split_ifs with hj
      · rw [hj]
      · rfl
    · simp only [step, allocate, heq] at hstep
      cases hstep
      exact .take hb fun j => pool_setPool _ _ _ _ _ _
  | deallocate lent =>
    obtain ⟨hlent, hstep⟩ := Option.ite_none_right_eq_some.mp hstep
    cases hstep
    exact .giveBack hlent

theorem Inv.not_mem_of_available (h : s.Inv) {i : Fin 3} {b : ℕ} (hb : s.manager.Available i b) :
    (s.manager.pool i).block b ∉ s.live.map Prod.snd := by
  intro hmem
  obtain ⟨lent, hlent, heq⟩ := List.mem_map.mp hmem
  obtain ⟨j, hj⟩ := h.lent lent hlent
  have hid := hj.poolId_eq (h.serves j)
  rw [heq] at hid
  have hij : i = j := Fin.ext ((h.serves i).poolId_eq.symm.trans hid)
  have htaken := hj.taken
  rw [heq, ← hij] at htaken
  exact htaken hb

/-- A free block is taken: the blocks that are out stay out, and it is one of them. -/
theorem Inv.take (h : s.Inv) {manager : ZeroCopyMemoryManager} {i : Fin 3} {b : ℕ}
    (hb : s.manager.Available i b)
    (htaken : s.manager.Remaps manager i (clearBit (s.manager.pool i).freeBlocks b) ((b + 1) * 64)) :
    Inv ⟨manager, (size, (s.manager.pool i).block b) :: s.live⟩ := by
  have hserves := h.serves i
  have hlt := hserves.wellFormed.bit_lt b hb
  have hfree := Remaps.available_take hserves hlt htaken
  constructor
  · exact htaken.serves h.serves (hserves.take hlt)
  · refine List.forall_mem_cons.mpr ⟨⟨i, ?_⟩, fun lent hlent => ?_⟩
    · exact
        { block_eq := by rw [htaken.block_eq]; rfl
          blockIndex_lt := by rw [htaken.totalBlocks_eq]; exact hlt
          taken := fun hav => ((hfree i b).mp hav).2 ⟨rfl, rfl⟩ }
    · obtain ⟨j, hj⟩ := h.lent lent hlent
      exact ⟨j, hj.mono htaken fun hav => ((hfree j _).mp hav).1⟩
  · exact List.nodup_cons.mpr ⟨h.not_mem_of_available hb, h.distinct⟩

/-- A block is given back: the others stay out. -/
theorem Inv.giveBack (h : s.Inv) (hlent : lent ∈ s.live) :
    Inv ⟨s.manager.deallocate lent.2, s.live.erase lent⟩ := by
  obtain ⟨i, hi⟩ := h.lent lent hlent
  have hserves := h.serves i
  have hback := hi.remaps_deallocate hserves
  constructor
  · exact hback.serves h.serves (hserves.giveBack hi.blockIndex_lt)
  · intro other hother
    have hnodup : s.live.Nodup := h.distinct.of_map
    obtain ⟨hne, hmem⟩ := hnodup.mem_erase_iff.mp hother
    obtain ⟨j, hj⟩ := h.lent other hmem
    refine ⟨j, hj.mono hback fun hav => ?_⟩
    rcases (Remaps.available_giveBack hserves hi.blockIndex_lt hback j _).mp hav with hav | ⟨rfl, hindex⟩
    · exact hav
    · have hblock : other.2 = lent.2 := by rw [hj.block_eq, hi.block_eq, hindex]
      exact absurd (List.inj_on_of_nodup_map h.distinct hmem hlent hblock) hne
  · exact h.distinct.sublist (List.erase_sublist.map Prod.snd)

theorem Inv.step {a : ManagerCall} (h : s.Inv) (hstep : s.step a = some s') : s'.Inv := by
  cases moved_of_step h hstep with
  | refuse hzero hsame =>
    refine ⟨fun i => hsame i ▸ h.serves i, fun lent hlent => ?_, h.distinct⟩
    obtain ⟨i, hi⟩ := h.lent lent hlent
    refine ⟨i, ?_, ?_, ?_⟩
    · rw [hsame]
      exact hi.block_eq
    · rw [hsame]
      exact hi.blockIndex_lt
    · unfold Available
      rw [hsame]
      exact hi.taken
  | take hb htaken => exact h.take hb htaken
  | giveBack hlent => exact h.giveBack hlent

/-- **One call** keeps the blocks as large as was asked for exactly where it is served. -/
theorem sound_step_iff {a : ManagerCall} (h : s.Inv) (hs : s.Sound) (hstep : s.step a = some s') :
    s'.Sound ↔ s.Served a := by
  rw [(h.step hstep).sound_iff]
  cases moved_of_step h hstep with
  | @refuse size manager hzero hsame =>
    refine iff_of_true hs.large ?_
    by_cases hle : size.toNat ≤ 16 * 1024 * 1024
    · exact Or.inl hle
    · rw [poolIndex_of_lt (Nat.lt_of_not_le hle)] at hzero
      exact Or.inr hzero
  | @take size manager b havailable htaken =>
    have hsize : ((s.manager.pool (poolIndex size)).block b).size = classSize (poolIndex size) :=
      (h.serves (poolIndex size)).blockSize_eq
    have hfound : ¬ size.toNat ≤ 16 * 1024 * 1024 → (s.manager.pool 2).availableBlocks ≠ 0 := by
      intro hlt hzero
      rw [poolIndex_of_lt (Nat.lt_of_not_le hlt)] at havailable
      have hnone := (h.serves 2).wellFormed.availableBlocks_eq_zero_iff.mp hzero b
      exact absurd (havailable.symm.trans hnone) (by decide)
    rw [List.forall_mem_cons, and_iff_left hs.large, hsize, le_classSize_iff]
    refine ⟨Or.inl, fun hserved => ?_⟩
    by_contra hlt
    exact hfound hlt (hserved.resolve_left hlt)
  | @giveBack lent hlent =>
    exact iff_of_true (fun other hother => hs.large other (List.mem_of_mem_erase hother)) trivial

theorem inv_initial {mapAnon : UInt32 → ℕ → Except Error (Ptr Unit)} {others : Except Error Unit}
    {manager : ZeroCopyMemoryManager} (h : new mapAnon others = .ret (.ok manager)) :
    (initial manager).Inv where
  serves := serves_pool_new h
  lent := nofun
  distinct := List.nodup_nil

/-- **Main result.** For a manager that `new` makes, a run is sound exactly where each size above
the largest class finds no block. -/
theorem blocks_sound_iff {mapAnon : UInt32 → ℕ → Except Error (Ptr Unit)} {others : Except Error Unit}
    {manager : ZeroCopyMemoryManager} (hnew : new mapAnon others = .ret (.ok manager))
    (calls : List ManagerCall) :
    Always step Sound (initial manager) calls ↔ Meets step Served (initial manager) calls :=
  always_iff (fun _ _ _ => Inv.step) (fun _ _ _ => sound_step_iff) calls (inv_initial hnew)
    ⟨nofun, nofun⟩

/-- The pools are mapped one after another. -/
def mapAnonApart (poolId : UInt32) (_ : ℕ) : Except Error (Ptr Unit) := .ok ⟨(), (poolId.toNat + 1) * 2 ^ 40⟩

/-- A small request and one for a whole block of the largest class. -/
theorem blocks_sound_iff_two : ∃ manager, new mapAnonApart (.ok ()) = .ret (.ok manager) ∧
    Always step Sound (initial manager) [.allocate 100, .allocate 0x1000000] := by
  have hnew : ∃ manager, new mapAnonApart (.ok ()) = .ret (.ok manager) := ⟨_, rfl⟩
  obtain ⟨manager, hnew⟩ := hnew
  refine ⟨manager, hnew, (blocks_sound_iff hnew _).mpr fun s _ => ⟨Or.inl (by decide), fun s' _ => ?_⟩⟩
  exact ⟨Or.inl (by decide), trivial⟩

/-- A request for one byte more than the blocks of the largest class have gets one of them. -/
theorem allocate_above_classes : ∃ manager, new mapAnonApart (.ok ()) = .ret (.ok manager) ∧
    (∃ s, run step (initial manager) [.allocate 0x1000001] = some s ∧
      s.live.map (fun lent => (lent.1, lent.2.size)) = [(0x1000001, 0x1000000)]) ∧
    ¬ Always step Sound (initial manager) [.allocate 0x1000001] := by
  have hnew : ∃ manager, new mapAnonApart (.ok ()) = .ret (.ok manager) ∧
      (run step (initial manager) [.allocate 0x1000001]).map
        (fun s => s.live.map fun lent => (lent.1, lent.2.size)) = some [(0x1000001, 0x1000000)] :=
    ⟨_, rfl, by decide +kernel⟩
  obtain ⟨manager, hnew, hmap⟩ := hnew
  obtain ⟨s, hrun, hlive⟩ := Option.map_eq_some_iff.mp hmap
  refine ⟨manager, hnew, ⟨s, hrun, hlive⟩, fun hal => ?_⟩
  have hlarge := (hal.last hrun).large
  have hsizes : ∀ sizes ∈ s.live.map (fun lent => (lent.1, lent.2.size)), sizes.1.toNat ≤ sizes.2 :=
    List.forall_mem_map.mpr hlarge
  rw [hlive] at hsizes
  exact absurd (hsizes _ List.mem_cons_self) (by decide)

end Blocks

end PumpTrade
