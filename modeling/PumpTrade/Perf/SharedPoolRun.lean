import PumpTrade.Base.Ownership
import PumpTrade.Base.Run
import PumpTrade.Perf.SharedPool

/-!
# Runs of the pool of shared blocks

Any number of threads allocate blocks and give them back, and their atomic operations come in any
order.

* `Sound`: the live blocks are apart and inside the region, and no block is lost;
* `step_moved`: what one step can do;
* `Inv`, `inv_step`: the bits that are not set are those of the claimed blocks, each of which has
  one owner;
* `Alone`: a call that runs alone, with `alone_eq` and `exists_alone`: it ends as `allocateBlock`
  does;
* **`pool_sound`**: every run is sound, and a call that runs alone fails exactly where no block is
  free.
-/

namespace PumpTrade

open Base Bitmap SharedMemoryPool AllocateCall

namespace AllocateCall

/-- The block whose bit the call cleared. -/
def holding : AllocateCall → Option ℕ
  | storeHead blockIndex => some blockIndex
  | _ => none

/-- What holds of a call between its operations: the word it visits exists, and the bit it clears is
that of a block. -/
def Inv (pool : SharedMemoryPool) : AllocateCall → Prop
  | load _ attempt => attempt < pool.freeBlocks.length
  | compareExchange _ attempt current => attempt < pool.freeBlocks.length ∧ current ≠ 0#64
  | fetchOr _ _ _ => False
  | _ => True

variable (pool : SharedMemoryPool) (startIndex attempt : ℕ)

@[simp] theorem holding_visit : (visit pool startIndex attempt).holding = none := by
  unfold visit
  split_ifs <;> rfl

@[simp] theorem holding_retry (current : BitVec 64) :
    (retry pool startIndex attempt current).holding = none := by
  unfold retry
  split_ifs
  · rfl
  · exact holding_visit pool startIndex (attempt + 1)

theorem inv_visit : (visit pool startIndex attempt).Inv pool := by
  unfold visit
  split_ifs with h
  · exact h
  · trivial

theorem inv_retry {attempt : ℕ} (h : attempt < pool.freeBlocks.length) (current : BitVec 64) :
    (retry pool startIndex attempt current).Inv pool := by
  unfold retry
  split_ifs with hcurrent
  · exact ⟨h, hcurrent⟩
  · exact inv_visit pool startIndex (attempt + 1)

theorem holding_of_idle {call : AllocateCall} (h : call.idle = true) : call.holding = none := by
  cases call with
  | ready => rfl
  | returned result => rfl
  | _ => cases h

end AllocateCall

namespace SharedMemoryPool

variable {pool : SharedMemoryPool} {b i j n : ℕ}

theorem WellFormed.lt_bits (h : pool.WellFormed) (hb : b < pool.totalBlocks) :
    b < pool.freeBlocks.length * 64 := by
  rw [h.length_eq]
  omega

theorem WellFormed.clearBit (h : pool.WellFormed) (hb : b < pool.totalBlocks) :
    { pool with freeBlocks := Bitmap.clearBit pool.freeBlocks b }.WellFormed where
  length_eq := (length_clearBit _ b).trans h.length_eq
  bit_lt := fun c hc => by
    rw [bit_clearBit (h.lt_bits hb), Bool.and_eq_true] at hc
    exact h.bit_lt c hc.2
  regionLen_eq := h.regionLen_eq
  regionLen_lt := h.regionLen_lt
  totalBlocks_lt := h.totalBlocks_lt
  head_le := h.head_le

theorem WellFormed.setBit (h : pool.WellFormed) (hb : b < pool.totalBlocks) :
    { pool with freeBlocks := Bitmap.setBit pool.freeBlocks b }.WellFormed where
  length_eq := (length_setBit _ b).trans h.length_eq
  bit_lt := fun c hc => by
    rw [bit_setBit (h.lt_bits hb), Bool.or_eq_true, decide_eq_true_iff] at hc
    rcases hc with rfl | hc
    · exact hb
    · exact h.bit_lt c hc
  regionLen_eq := h.regionLen_eq
  regionLen_lt := h.regionLen_lt
  totalBlocks_lt := h.totalBlocks_lt
  head_le := h.head_le

theorem WellFormed.storeHead (h : pool.WellFormed) (hb : b < pool.totalBlocks) :
    { pool with allocatorHead := (b + 1) * 64 }.WellFormed where
  length_eq := h.length_eq
  bit_lt := h.bit_lt
  regionLen_eq := h.regionLen_eq
  regionLen_lt := h.regionLen_lt
  totalBlocks_lt := h.totalBlocks_lt
  head_le := Nat.mul_le_mul_right 64 (Nat.succ_le_of_lt hb)

theorem WellFormed.deallocateBlock_block (h : pool.WellFormed) (hb : b < pool.totalBlocks) :
    pool.deallocateBlock (pool.block b) = { pool with freeBlocks := Bitmap.setBit pool.freeBlocks b } := by
  have hword : b / 64 < pool.freeBlocks.length := (Nat.div_lt_iff_lt_mul (by decide)).mpr (h.lt_bits hb)
  simp [deallocateBlock, block, hword]

theorem apart_block (h : i ≠ j) : (pool.block i).ptr.Apart (pool.block j).ptr (pool.block i).size := by
  intro _
  rcases Nat.lt_or_gt_of_ne h with hlt | hlt
  · have hmul := Nat.mul_le_mul_right pool.blockSize (Nat.succ_le_of_lt hlt)
    rw [Nat.succ_mul] at hmul
    exact Or.inl (by simp only [block, Ptr.offset_add]; omega)
  · have hmul := Nat.mul_le_mul_right pool.blockSize (Nat.succ_le_of_lt hlt)
    rw [Nat.succ_mul] at hmul
    exact Or.inr (by simp only [block, Ptr.offset_add]; omega)

theorem WellFormed.within_block (h : pool.WellFormed) (hi : i < pool.totalBlocks)
    (hn : n < (pool.block i).size) :
    ((pool.block i).ptr.add n).Within pool.memoryRegion pool.regionLen := by
  have hmul := Nat.mul_le_mul_right pool.blockSize (Nat.succ_le_of_lt hi)
  rw [Nat.succ_mul, ← h.regionLen_eq] at hmul
  have hn : n < pool.blockSize := hn
  simp only [block, Ptr.add_add]
  exact Ptr.within_add (by omega)

end SharedMemoryPool

/-- The operations of a call after its first. -/
def PoolAct.inCall : PoolAct → Bool
  | load | compareExchange _ | fetchOr | storeHead => true
  | allocate | deallocate _ => false

namespace PoolSys

variable {ι : Type}

/-- The live blocks are apart and inside the region. Each block whose bit is cleared is live or held
by one call, and with the blocks that are free they are all; no number is too large for a word. -/
structure Sound (s : PoolSys ι) : Prop where
  distinct : s.live.Pairwise fun a b => a.blockIndex ≠ b.blockIndex
  apart : s.live.Pairwise fun a b => a.ptr.Apart b.ptr a.size
  inside : ∀ block ∈ s.live, ∀ n < block.size, (block.ptr.add n).Within s.pool.memoryRegion s.pool.regionLen
  claimed_nodup : s.claimed.Nodup
  claimed_iff : ∀ b, b ∈ s.claimed ↔ b ∈ s.live.map (·.blockIndex) ∨ ∃ i, (s.call i).holding = some b
  available : s.pool.availableBlocks + s.claimed.length = s.pool.totalBlocks
  fits : s.pool.regionLen < 2 ^ 64 ∧ s.pool.allocatorHead < 2 ^ 64

/-- The bits that are not set are those of the claimed blocks, and each of these has one owner. -/
structure Inv (s : PoolSys ι) : Prop where
  wellFormed : s.pool.WellFormed
  mem_claimed : ∀ b, b ∈ s.claimed ↔ b < s.pool.totalBlocks ∧ bit s.pool.freeBlocks b = false
  owned : Owned s.claimed (fun i => (s.call i).holding) (s.live.map (·.blockIndex))
  live_eq : s.live = (s.live.map (·.blockIndex)).map s.pool.block
  call : ∀ i, (s.call i).Inv s.pool

variable {s s' : PoolSys ι} {i : ι}

theorem inv_initial {pool : SharedMemoryPool} (h : pool.WellFormed)
    (hfree : ∀ b, bit pool.freeBlocks b = decide (b < pool.totalBlocks)) : (initial (ι := ι) pool).Inv where
  wellFormed := h
  mem_claimed := fun b => by simp [initial, hfree]
  owned := owned_nil
  live_eq := rfl
  call := fun _ => trivial

theorem Inv.available (h : s.Inv) : s.pool.availableBlocks + s.claimed.length = s.pool.totalBlocks := by
  have hclaimed : (Finset.range s.pool.totalBlocks).filter (fun b => ¬ bit s.pool.freeBlocks b = true) =
      s.claimed.toFinset := by
    ext b
    rw [Finset.mem_filter, Finset.mem_range, List.mem_toFinset, h.mem_claimed, Bool.not_eq_true]
  rw [← List.toFinset_card_of_nodup h.owned.claimed_nodup, ← hclaimed]
  exact h.wellFormed.availableBlocks_add

theorem Inv.blockIndex_lt (h : s.Inv) {block : ZeroCopyBlock} (hblock : block ∈ s.live) :
    block.blockIndex < s.pool.totalBlocks ∧ block = s.pool.block block.blockIndex := by
  have hclaimed := (h.owned.mem_claimed block.blockIndex).mpr (Or.inl (List.mem_map_of_mem hblock))
  refine ⟨((h.mem_claimed _).mp hclaimed).1, ?_⟩
  rw [h.live_eq] at hblock
  obtain ⟨b, -, rfl⟩ := List.mem_map.mp hblock
  rfl

theorem Inv.sound (h : s.Inv) : s.Sound := by
  have hdistinct : s.live.Pairwise fun a b => a.blockIndex ≠ b.blockIndex :=
    List.pairwise_map.mp h.owned.handed_nodup
  constructor
  · exact hdistinct
  · refine hdistinct.imp_of_mem fun {a b} ha hb hne => ?_
    rw [(h.blockIndex_lt ha).2, (h.blockIndex_lt hb).2]
    exact apart_block hne
  · intro block hblock n hn
    obtain ⟨hlt, heq⟩ := h.blockIndex_lt hblock
    rw [heq] at hn ⊢
    exact h.wellFormed.within_block hlt hn
  · exact h.owned.claimed_nodup
  · exact h.owned.mem_claimed
  · exact h.available
  · exact ⟨h.wellFormed.regionLen_lt, lt_of_le_of_lt h.wellFormed.head_le h.wellFormed.totalBlocks_lt⟩

/-! ## Steps -/

section Steps

variable [DecidableEq ι]

theorem holding_update (call : ι → AllocateCall) (i : ι) (c : AllocateCall) :
    (fun j => (Function.update call i c j).holding) =
      Function.update (fun j => (call j).holding) i c.holding := by
  funext j
  by_cases hj : j = i
  · subst hj
    rw [Function.update_self, Function.update_self]
  · rw [Function.update_of_ne hj, Function.update_of_ne hj]

theorem Inv.call_update (h : s.Inv) {pool : SharedMemoryPool} {c : AllocateCall}
    (hlength : pool.freeBlocks.length = s.pool.freeBlocks.length) (hc : c.Inv pool) (j : ι) :
    (Function.update s.call i c j).Inv pool := by
  by_cases hj : j = i
  · subst hj
    rwa [Function.update_self]
  · rw [Function.update_of_ne hj]
    have hcall := h.call j
    unfold AllocateCall.Inv at hcall ⊢
    rwa [hlength]

theorem Inv.setCall (h : s.Inv) {c : AllocateCall} (hi : (s.call i).holding = none) (hc : c.holding = none)
    (hinv : c.Inv s.pool) : (s.setCall i c).Inv where
  wellFormed := h.wellFormed
  mem_claimed := h.mem_claimed
  owned := by
    have hsame : Function.update (fun j => (s.call j).holding) i none = fun j => (s.call j).holding := by
      rw [← hi, Function.update_eq_self]
    rw [PoolSys.setCall, holding_update, hc, hsame]
    exact h.owned
  live_eq := h.live_eq
  call := h.call_update rfl hinv

theorem Inv.claim (h : s.Inv) {bitmapIndex : ℕ} (hi : (s.call i).holding = none)
    (hne : word s.pool.freeBlocks bitmapIndex ≠ 0#64) :
    let bits := word s.pool.freeBlocks bitmapIndex
    let blockIndex := bitmapIndex * 64 + bits.ctz.toNat
    Inv
      { pool :=
          { s.pool with
            freeBlocks := s.pool.freeBlocks.set bitmapIndex (bits &&& ~~~mask 64 bits.ctz.toNat) }
        call := Function.update s.call i (.storeHead blockIndex)
        claimed := blockIndex :: s.claimed
        live := s.live } := by
  intro bits blockIndex
  have hbit : bit s.pool.freeBlocks blockIndex = true := bit_firstSet hne
  have hlt := h.wellFormed.bit_lt _ hbit
  have hfresh : blockIndex ∉ s.claimed := fun hmem => by
    rw [h.mem_claimed, hbit] at hmem
    exact absurd hmem.2 (by decide)
  rw [← clearBit_of_place (ctz_toNat_lt hne)]
  constructor
  · exact h.wellFormed.clearBit hlt
  · intro c
    rw [List.mem_cons, h.mem_claimed, bit_clearBit (h.wellFormed.lt_bits hlt)]
    by_cases hc : blockIndex = c
    · subst hc
      simp [hlt]
    · simp [hc, Ne.symm hc]
  · rw [holding_update]
    exact h.owned.claim hi hfresh
  · exact h.live_eq
  · exact h.call_update (length_clearBit _ _) trivial

omit [DecidableEq ι] in
theorem Inv.giveBack (h : s.Inv) {block : ZeroCopyBlock} (hblock : block ∈ s.live) :
    Inv
      { pool := s.pool.deallocateBlock block
        call := s.call
        claimed := s.claimed.erase block.blockIndex
        live := s.live.erase block } := by
  obtain ⟨hlt, heq⟩ := h.blockIndex_lt hblock
  have hpool := h.wellFormed.deallocateBlock_block hlt
  have hinj : Function.Injective s.pool.block := fun b c hbc => congrArg ZeroCopyBlock.blockIndex hbc
  have hlive : s.live.erase block =
      ((s.live.map (·.blockIndex)).erase block.blockIndex).map s.pool.block := by
    rw [List.map_erase hinj, ← heq, ← h.live_eq]
  have hindices : (s.live.erase block).map (·.blockIndex) =
      (s.live.map (·.blockIndex)).erase block.blockIndex := by
    rw [hlive, List.map_map]
    exact List.map_id _
  rw [← heq] at hpool
  rw [hpool]
  constructor
  · exact h.wellFormed.setBit hlt
  · intro c
    rw [h.owned.claimed_nodup.mem_erase_iff, h.mem_claimed, bit_setBit (h.wellFormed.lt_bits hlt)]
    by_cases hc : block.blockIndex = c
    · simp [hc]
    · simp [hc, Ne.symm hc]
  · change Owned _ _ ((s.live.erase block).map (·.blockIndex))
    rw [hindices]
    exact h.owned.giveBack (List.mem_map_of_mem hblock)
  · change s.live.erase block = ((s.live.erase block).map (·.blockIndex)).map s.pool.block
    rw [hindices, hlive]
  · intro j
    have hcall := h.call j
    unfold AllocateCall.Inv at hcall ⊢
    rwa [length_setBit]

theorem Inv.handOut (h : s.Inv) {blockIndex : ℕ} (hcall : s.call i = .storeHead blockIndex) :
    Inv
      { pool := { s.pool with allocatorHead := (blockIndex + 1) * 64 }
        call := Function.update s.call i (.returned (some (s.pool.block blockIndex)))
        claimed := s.claimed
        live := s.pool.block blockIndex :: s.live } := by
  have hholding : (s.call i).holding = some blockIndex := by rw [hcall]; rfl
  have hlt := ((h.mem_claimed _).mp ((h.owned.mem_claimed _).mpr (Or.inr ⟨i, hholding⟩))).1
  constructor
  · exact h.wellFormed.storeHead hlt
  · exact h.mem_claimed
  · rw [holding_update]
    exact h.owned.handOut hholding
  · exact congrArg (s.pool.block blockIndex :: ·) h.live_eq
  · exact h.call_update rfl trivial

/-- What a step of thread `i` does. A bit that was cleared is not set again: it is that of a
block. -/
inductive Moved (s : PoolSys ι) (i : ι) : PoolAct → PoolSys ι → Prop where
  | allocate (hidle : (s.call i).idle = true) :
    Moved s i .allocate (s.setCall i (visit s.pool (s.pool.allocatorHead / 64) 0))
  | load {startIndex attempt : ℕ} (hcall : s.call i = .load startIndex attempt) :
    Moved s i .load (s.setCall i (retry s.pool startIndex attempt
      (word s.pool.freeBlocks ((startIndex + attempt) % s.pool.freeBlocks.length))))
  | retry {startIndex attempt : ℕ} {current : BitVec 64} (spurious : Bool)
    (hcall : s.call i = .compareExchange startIndex attempt current) :
    Moved s i (.compareExchange spurious) (s.setCall i (retry s.pool startIndex attempt
      (word s.pool.freeBlocks ((startIndex + attempt) % s.pool.freeBlocks.length))))
  | claim {startIndex attempt bitmapIndex : ℕ} {bits : BitVec 64} (spurious : Bool)
    (hcall : s.call i = .compareExchange startIndex attempt bits)
    (hindex : bitmapIndex = (startIndex + attempt) % s.pool.freeBlocks.length)
    (hbits : bits = word s.pool.freeBlocks bitmapIndex) (hne : bits ≠ 0#64) :
    Moved s i (.compareExchange spurious)
      { pool :=
          { s.pool with
            freeBlocks := s.pool.freeBlocks.set bitmapIndex (bits &&& ~~~mask 64 bits.ctz.toNat) }
        call := Function.update s.call i (.storeHead (bitmapIndex * 64 + bits.ctz.toNat))
        claimed := (bitmapIndex * 64 + bits.ctz.toNat) :: s.claimed
        live := s.live }
  | storeHead {blockIndex : ℕ} (hcall : s.call i = .storeHead blockIndex) :
    Moved s i .storeHead
      { pool := { s.pool with allocatorHead := (blockIndex + 1) * 64 }
        call := Function.update s.call i (.returned (some (s.pool.block blockIndex)))
        claimed := s.claimed
        live := s.pool.block blockIndex :: s.live }
  | deallocate {block : ZeroCopyBlock} (hblock : block ∈ s.live) :
    Moved s i (.deallocate block)
      { pool := s.pool.deallocateBlock block
        call := s.call
        claimed := s.claimed.erase block.blockIndex
        live := s.live.erase block }

theorem step_moved {a : PoolAct} (h : s.Inv) (hstep : s.step (i, a) = some s') : s.Moved i a s' := by
  have hinv := h.call i
  cases a with
  | allocate =>
    simp only [step] at hstep
    split_ifs at hstep with hidle
    cases hstep
    exact .allocate hidle
  | load =>
    simp only [step] at hstep
    split at hstep
    case h_1 startIndex attempt hcall =>
      cases hstep
      exact .load hcall
    case h_2 => cases hstep
  | compareExchange spurious =>
    simp only [step] at hstep
    split at hstep
    case h_1 startIndex attempt current hcall =>
      rw [hcall] at hinv
      split_ifs at hstep with hfound hbeyond
      · obtain ⟨rfl, -⟩ := hfound
        exact absurd (h.wellFormed.bit_lt _ (bit_firstSet hinv.2)) (Nat.not_lt.mpr hbeyond)
      · cases hstep
        exact .claim spurious hcall rfl hfound.1.symm hinv.2
      · cases hstep
        exact .retry spurious hcall
    case h_2 => cases hstep
  | fetchOr =>
    simp only [step] at hstep
    split at hstep
    case h_1 startIndex attempt bitPos hcall =>
      rw [hcall] at hinv
      exact hinv.elim
    case h_2 => cases hstep
  | storeHead =>
    simp only [step] at hstep
    split at hstep
    case h_1 blockIndex hcall =>
      cases hstep
      exact .storeHead hcall
    case h_2 => cases hstep
  | deallocate block =>
    simp only [step] at hstep
    split_ifs at hstep with hlive
    cases hstep
    exact .deallocate hlive.2

/-- **Every atomic operation keeps the invariant.** -/
theorem inv_step {a : ι × PoolAct} (h : s.Inv) (hstep : s.step a = some s') : s'.Inv := by
  obtain ⟨i, a⟩ := a
  have hinv := h.call i
  cases step_moved h hstep with
  | allocate hidle => exact h.setCall (holding_of_idle hidle) (holding_visit _ _ _) (inv_visit _ _ _)
  | load hcall =>
    rw [hcall] at hinv
    exact h.setCall (by rw [hcall]; rfl) (holding_retry _ _ _ _) (inv_retry _ _ hinv _)
  | retry spurious hcall =>
    rw [hcall] at hinv
    exact h.setCall (by rw [hcall]; rfl) (holding_retry _ _ _ _) (inv_retry _ _ hinv.1 _)
  | claim spurious hcall hindex hbits hne =>
    subst hbits
    exact h.claim (by rw [hcall]; rfl) hne
  | storeHead hcall => exact h.handOut hcall
  | deallocate hblock => exact h.giveBack hblock

/-! ## Calls that run alone -/

/-- Thread `i` makes a call, and no other thread takes a step until it returns. -/
def Alone (s : PoolSys ι) (i : ι) (result : Option ZeroCopyBlock) (s' : PoolSys ι) : Prop :=
  ∃ acts : List PoolAct, (∀ a ∈ acts, a.inCall) ∧
    run step s ((i, .allocate) :: acts.map (i, ·)) = some s' ∧ s'.call i = .returned result

/-- The call of thread `i` will end with `outcome` if it runs alone. -/
def Comes (i : ι) (outcome : Option ZeroCopyBlock × SharedMemoryPool) (s : PoolSys ι) : Prop :=
  match s.call i with
  | .load startIndex attempt => s.pool.claim (s.pool.search startIndex attempt) = outcome
  | .compareExchange startIndex attempt current =>
    word s.pool.freeBlocks ((startIndex + attempt) % s.pool.freeBlocks.length) = current ∧
      s.pool.claim (s.pool.search startIndex attempt) = outcome
  | .storeHead blockIndex =>
    (some (s.pool.block blockIndex), { s.pool with allocatorHead := (blockIndex + 1) * 64 }) = outcome
  | .returned result => (result, s.pool) = outcome
  | _ => False

variable {outcome : Option ZeroCopyBlock × SharedMemoryPool} {startIndex attempt : ℕ}

theorem comes_visit (h : s.pool.claim (s.pool.search startIndex attempt) = outcome) :
    (s.setCall i (visit s.pool startIndex attempt)).Comes i outcome := by
  unfold Comes visit
  rw [call_setCall_self]
  split_ifs with hattempt
  · exact h
  · rw [search_of_le (Nat.le_of_not_lt hattempt)] at h
    exact h

theorem comes_retry (h : s.pool.claim (s.pool.search startIndex attempt) = outcome)
    (hattempt : attempt < s.pool.freeBlocks.length) :
    (s.setCall i (retry s.pool startIndex attempt
      (word s.pool.freeBlocks ((startIndex + attempt) % s.pool.freeBlocks.length)))).Comes i outcome := by
  unfold retry
  split_ifs with hzero
  · unfold Comes
    rw [call_setCall_self]
    exact ⟨rfl, h⟩
  · refine comes_visit ?_
    rw [search_of_lt hattempt, lowestFree, firstSet, if_pos (not_not.mp hzero)] at h
    exact h

/-- **Each operation of a call that runs alone** leaves what the call comes to as it is. -/
theorem comes_step {a : PoolAct} (h : s.Inv) (hcomes : s.Comes i outcome) (ha : a.inCall = true)
    (hstep : s.step (i, a) = some s') : s'.Comes i outcome := by
  have hinv := h.call i
  unfold Comes at hcomes
  cases step_moved h hstep with
  | allocate hidle => cases ha
  | load hcall =>
    rw [hcall] at hinv
    simp only [hcall] at hcomes
    exact comes_retry hcomes hinv
  | retry spurious hcall =>
    rw [hcall] at hinv
    simp only [hcall] at hcomes
    exact comes_retry hcomes.2 hinv.1
  | claim spurious hcall hindex hbits hne =>
    rw [hcall] at hinv
    simp only [hcall] at hcomes
    subst hindex hbits
    have hfound := hcomes.2
    rw [search_of_lt hinv.1, h.wellFormed.lowestFree_eq, firstSet, if_neg hne, Option.some_or, claim,
      clearBit_of_place (ctz_toNat_lt hne)] at hfound
    unfold Comes
    simp only [Function.update_self]
    exact hfound
  | storeHead hcall =>
    simp only [hcall] at hcomes
    unfold Comes
    simp only [Function.update_self]
    exact hcomes
  | deallocate hblock => cases ha

theorem comes_run {acts : List PoolAct} (h : s.Inv) (hcomes : s.Comes i outcome)
    (hacts : ∀ a ∈ acts, a.inCall = true) (hrun : run step s (acts.map (i, ·)) = some s') :
    s'.Comes i outcome := by
  induction acts generalizing s with
  | nil => rwa [← Option.some.inj hrun]
  | cons a acts ih =>
    obtain ⟨s₁, hstep, hrun⟩ := run_cons_eq_some.mp hrun
    have hcomes₁ := comes_step h hcomes (hacts a List.mem_cons_self) hstep
    exact ih (inv_step h hstep) hcomes₁ (fun b hb => hacts b (List.mem_cons_of_mem a hb)) hrun

/-- **A call that runs alone** is `allocateBlock`. -/
theorem alone_eq {result : Option ZeroCopyBlock} (h : s.Inv) (halone : s.Alone i result s') :
    (result, s'.pool) = s.pool.allocateBlock := by
  obtain ⟨acts, hacts, hrun, hresult⟩ := halone
  obtain ⟨s₁, hstep, hrun⟩ := run_cons_eq_some.mp hrun
  have hinv := inv_step h hstep
  simp only [step] at hstep
  split_ifs at hstep
  cases hstep
  have hcomes := comes_run hinv (comes_visit rfl) hacts hrun
  unfold Comes at hcomes
  simp only [hresult] at hcomes
  exact hcomes

/-- The call of thread `i` returns if it runs alone. -/
def Returns (i : ι) (s : PoolSys ι) : Prop :=
  ∃ (acts : List PoolAct) (s' : PoolSys ι) (result : Option ZeroCopyBlock), (∀ a ∈ acts, a.inCall = true) ∧
    run step s (acts.map (i, ·)) = some s' ∧ s'.call i = .returned result

theorem Returns.step {a : PoolAct} (ha : a.inCall = true) (hstep : s.step (i, a) = some s') (h : s'.Returns i) :
    s.Returns i := by
  obtain ⟨acts, s'', result, hacts, hrun, hresult⟩ := h
  refine ⟨a :: acts, s'', result, ?_, ?_, hresult⟩
  · exact List.forall_mem_cons.mpr ⟨ha, hacts⟩
  · rw [List.map_cons, run_cons hstep]
    exact hrun

theorem returns_of_returned {result : Option ZeroCopyBlock} (h : s.call i = .returned result) : s.Returns i :=
  ⟨[], s, result, by simp, rfl, h⟩

theorem returns_storeHead {blockIndex : ℕ} (h : s.call i = .storeHead blockIndex) : s.Returns i := by
  have hstep : ∃ s₁, s.step (i, .storeHead) = some s₁ ∧
      s₁.call i = .returned (some (s.pool.block blockIndex)) := by
    simp [PoolSys.step, h]
  obtain ⟨s₁, hstep, hreturned⟩ := hstep
  exact Returns.step rfl hstep (returns_of_returned hreturned)

/-- An exchange that finds what it expects and does not fail clears the bit of a block. -/
theorem returns_compareExchange (h : s.Inv)
    (hcall : s.call i = .compareExchange startIndex attempt
      (word s.pool.freeBlocks ((startIndex + attempt) % s.pool.freeBlocks.length))) : s.Returns i := by
  have hinv := h.call i
  rw [hcall] at hinv
  have hbit := h.wellFormed.bit_lt _ (bit_firstSet hinv.2)
  have hstep : ∃ s₁ blockIndex, s.step (i, .compareExchange false) = some s₁ ∧
      s₁.call i = .storeHead blockIndex := by
    simp [PoolSys.step, hcall, Nat.not_le.mpr hbit]
  obtain ⟨s₁, blockIndex, hstep, hstore⟩ := hstep
  exact Returns.step rfl hstep (returns_storeHead hstore)

/-- From the head of the loop over the words on, a call that runs alone returns, by induction on the
words left. -/
theorem returns_visit (h : s.Inv) (hi : (s.call i).holding = none) (startIndex attempt : ℕ) :
    (s.setCall i (visit s.pool startIndex attempt)).Returns i := by
  by_cases hattempt : attempt < s.pool.freeBlocks.length
  · rw [visit, if_pos hattempt]
    have hload : (s.setCall i (.load startIndex attempt)).step (i, .load) = some (s.setCall i
        (retry s.pool startIndex attempt
          (word s.pool.freeBlocks ((startIndex + attempt) % s.pool.freeBlocks.length)))) := by
      simp [PoolSys.step, PoolSys.setCall]
    refine Returns.step rfl hload ?_
    unfold retry
    split_ifs with hzero
    · refine returns_compareExchange (h.setCall hi ?_ ?_) (call_setCall_self s i _)
      · rfl
      · exact ⟨hattempt, hzero⟩
    · exact returns_visit h hi startIndex (attempt + 1)
  · rw [visit, if_neg hattempt]
    exact returns_of_returned (call_setCall_self s i _)
termination_by s.pool.freeBlocks.length - attempt

theorem exists_alone (h : s.Inv) (hidle : (s.call i).idle = true) : ∃ result s', s.Alone i result s' := by
  obtain ⟨acts, s', result, hacts, hrun, hresult⟩ :=
    returns_visit h (holding_of_idle hidle) (s.pool.allocatorHead / 64) 0
  refine ⟨result, s', acts, hacts, ?_, hresult⟩
  have hstep : s.step (i, .allocate) = some (s.setCall i (visit s.pool (s.pool.allocatorHead / 64) 0)) := by
    simp only [step, hidle, if_true]
  rw [run_cons hstep]
  exact hrun

/-- **Main result.** For a pool that `new` accepts and any number of threads, whose atomic
operations come in any order: live blocks are apart and inside the region, and no block is lost. A
call that runs alone from there returns, unless its exchanges fail for ever, and it returns no block
exactly where none is free. -/
theorem pool_sound {mapAnon : ℕ → Except Error (Ptr Unit)} {poolId : UInt32} {totalSize blockSize : UInt64}
    {pool : SharedMemoryPool} (hnew : new mapAnon poolId totalSize blockSize = .ret (.ok pool))
    (acts : List (ι × PoolAct)) (hrun : run step (initial pool) acts = some s) :
    s.Sound ∧ ∀ i, (s.call i).idle = true →
      (∃ result s', s.Alone i result s') ∧
        ∀ result s', s.Alone i result s' → (result = none ↔ s.pool.availableBlocks = 0) := by
  obtain ⟨hwellFormed, hfree⟩ := wellFormed_new hnew
  have h : s.Inv := run_inv (fun _ _ _ => inv_step) (inv_initial hwellFormed hfree) hrun
  refine ⟨h.sound, fun i hidle => ⟨exists_alone h hidle, fun result s' halone => ?_⟩⟩
  rw [← h.wellFormed.allocateBlock_eq_none_iff, ← alone_eq h halone]

/-- Two threads are at the same word; the exchange of the second finds it changed, and takes the
other block. -/
def bothBlocks : List (Bool × PoolAct) :=
  [(true, .allocate), (false, .allocate), (true, .load), (false, .load), (true, .compareExchange false),
    (false, .compareExchange false), (false, .compareExchange false), (false, .storeHead), (true, .storeHead)]

theorem pool_sound_bothBlocks :
    ∃ pool, new (fun _ => .ok ⟨(), 4096⟩) 1 300 100 = .ret (.ok pool) ∧
      ∃ s, run step (initial pool) bothBlocks = some s ∧ s.live.map (·.blockIndex) = [0, 1] ∧ s.Sound ∧
        ∀ i, (s.call i).idle = true →
          (∃ result s', s.Alone i result s') ∧
            ∀ result s', s.Alone i result s' → (result = none ↔ s.pool.availableBlocks = 0) := by
  let pool : SharedMemoryPool :=
    { memoryRegion := ⟨(), 4096⟩
      regionLen := 256
      freeBlocks := [3]
      blockSize := 128
      totalBlocks := 2
      allocatorHead := 0
      poolId := 1 }
  have hnew : new (fun _ => .ok ⟨(), 4096⟩) 1 300 100 = .ret (.ok pool) := by decide +kernel
  have hlive : (run step (initial pool) bothBlocks).map (fun s => s.live.map (·.blockIndex)) = some [0, 1] := by
    decide +kernel
  obtain ⟨s, hrun, hlive⟩ := Option.map_eq_some_iff.mp hlive
  exact ⟨pool, hnew, s, hrun, hlive, pool_sound hnew bothBlocks hrun⟩

end Steps

end PoolSys

end PumpTrade
