import Mathlib.Logic.Function.Basic
import PumpTrade.Base.Arena
import PumpTrade.Base.Bitmap
import PumpTrade.Base.Run
import PumpTrade.Swqos.Error

/-!
# Allocations from the userspace pool

`SystemCallBypassManager::fast_allocate` and `userspace_allocate` of `perf/syscall_bypass.rs`. All
managers allocate from one static pool of a MiB, under its mutex, and nothing is given back. The
arithmetic is that of a release build: the sum in the bound check wraps.

* `MemoryPool`, `MemoryPool.userspaceAllocate`, `SystemCallBypassManager.fastAllocate`;
* `MemoryPool.userspaceAllocate_eq`: what a call does, by whether the sum wraps;
* `Allocations.step`: the calls on any number of managers;
* `Allocations.Sound`: the ranges share no byte and lie in the pool, and a call that fails leaves
  the offset;
* **`Allocations.userspace_sound_iff`**: a run is sound exactly where no sum wraps.
-/

namespace PumpTrade

open Base

/-- The length of the pool. -/
def poolLen : UInt64 := 1024 * 1024

/-- The next multiple of 8. -/
def roundUp (size : UInt64) : UInt64 := (size + 7) &&& ~~~7

theorem toNat_roundUp (size : UInt64) : (roundUp size).toNat = (size.toNat + 7) % 2 ^ 64 / 8 * 8 := by
  have h := Bitmap.toNat_and_not_low (k := 3) (size + 7).toBitVec
  rw [show (size + 7).toBitVec.toNat = (size.toNat + 7) % 2 ^ 64 from UInt64.toNat_add size 7] at h
  exact h

/-- The offset after a call that passes the bound check, whether or not its sum wraps. -/
theorem offset_add_roundUp {offset size : UInt64} (haligned : offset.toNat % 8 = 0)
    (h : ¬ poolLen < offset + size) :
    offset + roundUp size ≤ poolLen ∧ (offset + roundUp size).toNat % 8 = 0 := by
  simp only [UInt64.le_iff_toNat_le, UInt64.lt_iff_toNat_lt, UInt64.toNat_add, toNat_roundUp,
    show poolLen.toNat = 1048576 from rfl] at h ⊢
  have hsize := size.toNat_lt
  constructor <;> omega

/-- The bytes of the pool, and the offset of the next range. -/
structure MemoryPool where
  pool : Ptr Unit
  offset : UInt64
  offset_le : offset ≤ poolLen
  aligned : offset.toNat % 8 = 0
  deriving DecidableEq

namespace MemoryPool

/-- The static pool, whose bytes are at `pool`. -/
def new (pool : Ptr Unit) : MemoryPool := ⟨pool, 0, by decide, by decide⟩

variable (p : MemoryPool)

/-- The bytes of the pool. -/
def region : Range Unit := ⟨p.pool, poolLen.toNat⟩

/-- Hand out the bytes from the offset on, and round the offset up. -/
def userspaceAllocate (size : UInt64) : Except Error (Ptr Unit) × MemoryPool :=
  if h : poolLen < p.offset + size then (.error (.other "Memory pool exhausted"), p)
  else
    have hnext := offset_add_roundUp p.aligned h
    (.ok (p.pool.add p.offset.toNat),
      { pool := p.pool, offset := p.offset + roundUp size, offset_le := hnext.1, aligned := hnext.2 })

end MemoryPool

/-- The switch of a manager and its counter that an allocation reads and writes. -/
structure SystemCallBypassManager where
  enableUserspaceImpl : Bool
  memoryOperationsAvoided : UInt64
  deriving DecidableEq, Repr

/-- `heap` is what the allocator of the program answers. A layout is refused where its size, rounded
up to 8, is above `isize::MAX`. -/
def SystemCallBypassManager.fastAllocate (m : SystemCallBypassManager) (p : MemoryPool)
    (heap : Option (Ptr Unit)) (size : UInt64) :
    Except Error (Ptr Unit) × SystemCallBypassManager × MemoryPool :=
  if m.enableUserspaceImpl then
    let m := { m with memoryOperationsAvoided := m.memoryOperationsAvoided + 1 }
    let (result, p) := p.userspaceAllocate size
    (result, m, p)
  else if 2 ^ 63 - 8 < size.toNat then
    (.error (.other "invalid parameters to Layout::from_size_align"), m, p)
  else
    match heap with
    | none => (.error (.other "Allocation failed"), m, p)
    | some ptr => (.ok ptr, m, p)

/-! ## Calls on all managers -/

/-- The managers, the pool that they share, and the ranges that its calls returned. -/
structure Allocations (ι : Type) where
  manager : ι → SystemCallBypassManager
  memoryPool : MemoryPool
  granted : List (Range Unit)

/-- A call of `fast_allocate`, with the answer that the allocator of the program would give. -/
structure AllocateRequest (ι : Type) where
  manager : ι
  size : UInt64
  heap : Option (Ptr Unit)

/-! ## What a call does -/

namespace MemoryPool

variable (p : MemoryPool) (size : UInt64)

/-- The sum of the bound check does not wrap. -/
def Fits : Prop := p.offset.toNat + size.toNat < 2 ^ 64

instance : Decidable (p.Fits size) := inferInstanceAs (Decidable (_ < _))

/-- **What a call does.** Where the sum does not wrap, the range ends at the next offset or before.
Where it wraps, the call is not refused. -/
theorem userspaceAllocate_cases :
    (∃ e, p.userspaceAllocate size = (.error e, p) ∧ p.Fits size) ∨
      ∃ p', p.userspaceAllocate size = (.ok (p.region.start.add p.offset.toNat), p') ∧
        p'.region = p.region ∧ (p.Fits size → p.offset.toNat + size.toNat ≤ p'.offset.toNat) := by
  have hle := UInt64.le_iff_toNat_le.mp p.offset_le
  have haligned := p.aligned
  have hsize := size.toNat_lt
  have hsum := UInt64.toNat_add p.offset size
  have hlen : poolLen.toNat = 1048576 := rfl
  unfold userspaceAllocate
  split_ifs with hcheck
  · rw [UInt64.lt_iff_toNat_lt, hsum] at hcheck
    refine Or.inl ⟨_, rfl, ?_⟩
    unfold Fits
    omega
  · rw [UInt64.lt_iff_toNat_lt, hsum] at hcheck
    refine Or.inr ⟨_, rfl, rfl, fun hfits => ?_⟩
    unfold Fits at hfits
    simp only [UInt64.toNat_add, toNat_roundUp]
    omega

theorem lt_size_of_not_fits (h : ¬ p.Fits size) : p.region.len < size.toNat := by
  have hle := UInt64.le_iff_toNat_le.mp p.offset_le
  have hlen : poolLen.toNat = 1048576 := rfl
  unfold Fits at h
  simp only [region]
  omega

end MemoryPool

/-- **A call that fails** leaves the pool as it is. -/
theorem SystemCallBypassManager.fastAllocate_error {m : SystemCallBypassManager} {p : MemoryPool}
    {heap : Option (Ptr Unit)} {size : UInt64} {e : Error} (h : (m.fastAllocate p heap size).1 = .error e) :
    (m.fastAllocate p heap size).2.2 = p := by
  unfold fastAllocate at h ⊢
  split_ifs at h ⊢ with henable hlayout
  · rcases p.userspaceAllocate_cases size with ⟨e', heq, -⟩ | ⟨p', heq, -⟩
    · rw [heq]
    · rw [heq] at h
      cases h
  · rfl
  · cases heap <;> rfl

/-! ## Runs -/

namespace Allocations

variable {ι : Type}

/-- No call has been made. -/
def initial (manager : ι → SystemCallBypassManager) (pool : Ptr Unit) : Allocations ι :=
  ⟨manager, .new pool, []⟩

/-- One call. The ranges of the allocator of the program are not those of the pool. -/
def step [DecidableEq ι] (s : Allocations ι) (c : AllocateRequest ι) : Option (Allocations ι) :=
  let (result, manager, memoryPool) := (s.manager c.manager).fastAllocate s.memoryPool c.heap c.size
  some
    { manager := Function.update s.manager c.manager manager
      memoryPool
      granted :=
        match result with
        | .ok ptr =>
          if (s.manager c.manager).enableUserspaceImpl then ⟨ptr, c.size.toNat⟩ :: s.granted else s.granted
        | .error _ => s.granted }

/-- The ranges share no byte and lie in the pool, and a call that fails leaves the offset. -/
structure Sound (s : Allocations ι) : Prop where
  disjoint : s.granted.Pairwise Range.Disjoint
  inside : ∀ r ∈ s.granted, r.Inside s.memoryPool.region
  failing : ∀ (c : AllocateRequest ι) (e : Error),
    ((s.manager c.manager).fastAllocate s.memoryPool c.heap c.size).1 = .error e →
      ((s.manager c.manager).fastAllocate s.memoryPool c.heap c.size).2.2.offset = s.memoryPool.offset

/-- A call that allocates from the pool is one whose sum does not wrap. -/
def Fits (s : Allocations ι) (c : AllocateRequest ι) : Prop :=
  (s.manager c.manager).enableUserspaceImpl = true → s.memoryPool.Fits c.size

/-- As long as the run is sound, the ranges lie below the offset. -/
def Inv (s : Allocations ι) : Prop :=
  s.Sound → Arena s.memoryPool.region s.memoryPool.offset.toNat s.granted

variable {s s' : Allocations ι} {c : AllocateRequest ι}

theorem leaves_offset (s : Allocations ι) (c : AllocateRequest ι) (e : Error)
    (h : ((s.manager c.manager).fastAllocate s.memoryPool c.heap c.size).1 = .error e) :
    ((s.manager c.manager).fastAllocate s.memoryPool c.heap c.size).2.2.offset = s.memoryPool.offset :=
  congrArg MemoryPool.offset (SystemCallBypassManager.fastAllocate_error h)

theorem Sound.of_arena {mark : ℕ} (h : Arena s.memoryPool.region mark s.granted) : s.Sound where
  disjoint := h.disjoint
  inside := fun _ => h.inside
  failing := s.leaves_offset

theorem arena_initial (manager : ι → SystemCallBypassManager) (pool : Ptr Unit) :
    Arena (initial manager pool).memoryPool.region 0 (initial manager pool).granted :=
  arena_nil (Nat.zero_le _)

variable [DecidableEq ι]

/-- A call leaves the pool and its ranges, or it adds a range at the offset. -/
theorem step_cases (h : s.step c = some s') :
    (s'.granted = s.granted ∧ s'.memoryPool = s.memoryPool ∧ s.Fits c) ∨
      ((s.manager c.manager).enableUserspaceImpl = true ∧
        s'.granted = ⟨s.memoryPool.region.start.add s.memoryPool.offset.toNat, c.size.toNat⟩ :: s.granted ∧
        s'.memoryPool.region = s.memoryPool.region ∧ (s.memoryPool.Fits c.size →
          s.memoryPool.offset.toNat + c.size.toNat ≤ s'.memoryPool.offset.toNat)) := by
  simp only [step, SystemCallBypassManager.fastAllocate] at h
  split_ifs at h with henable hlayout
  · rcases s.memoryPool.userspaceAllocate_cases c.size with ⟨e, heq, hfits⟩ | ⟨p', heq, hregion, hend⟩
    · rw [heq] at h
      cases h
      exact Or.inl ⟨rfl, rfl, fun _ => hfits⟩
    · rw [heq] at h
      cases h
      exact Or.inr ⟨henable, rfl, hregion, hend⟩
  · cases h
    exact Or.inl ⟨rfl, rfl, fun henable' => absurd henable' henable⟩
  · refine Or.inl ?_
    cases hheap : c.heap with
    | none =>
      rw [hheap] at h
      cases h
      exact ⟨rfl, rfl, fun henable' => absurd henable' henable⟩
    | some ptr =>
      rw [hheap] at h
      cases h
      exact ⟨rfl, rfl, fun henable' => absurd henable' henable⟩

/-- Where the range of the call fits, the ranges are below the offset again. -/
theorem arena_step (h : Arena s.memoryPool.region s.memoryPool.offset.toNat s.granted)
    (hstep : s.step c = some s') (hfits : s.Fits c) :
    Arena s'.memoryPool.region s'.memoryPool.offset.toNat s'.granted := by
  rcases step_cases hstep with ⟨hgranted, hpool, -⟩ | ⟨henable, hgranted, hregion, hend⟩
  · rwa [hgranted, hpool]
  · have hle : s'.memoryPool.offset.toNat ≤ s'.memoryPool.region.len :=
      UInt64.le_iff_toNat_le.mp s'.memoryPool.offset_le
    rw [hregion] at hle ⊢
    rw [hgranted]
    exact h.grant (hend (hfits henable)) hle

theorem fits_of_sound (hstep : s.step c = some s') (hs' : s'.Sound) : s.Fits c := by
  rcases step_cases hstep with ⟨-, -, hfits⟩ | ⟨henable, hgranted, hregion, -⟩
  · exact hfits
  · intro _
    by_contra hwrap
    have hlt := s.memoryPool.lt_size_of_not_fits c.size hwrap
    have hinside := hs'.inside _ (hgranted ▸ List.mem_cons_self)
    rw [hregion] at hinside
    exact absurd (hinside.len_le (Nat.zero_lt_of_lt hlt)) (Nat.not_le.mpr hlt)

theorem sound_of_step (hstep : s.step c = some s') (hs' : s'.Sound) : s.Sound := by
  rcases step_cases hstep with ⟨hgranted, hpool, -⟩ | ⟨-, hgranted, hregion, -⟩
  · exact
      { disjoint := hgranted ▸ hs'.disjoint
        inside := hgranted ▸ hpool ▸ hs'.inside
        failing := s.leaves_offset }
  · have hdisjoint := hs'.disjoint
    have hinside := hs'.inside
    rw [hgranted] at hdisjoint hinside
    rw [hregion] at hinside
    exact
      { disjoint := hdisjoint.of_cons
        inside := fun r hr => hinside r (List.mem_cons_of_mem _ hr)
        failing := s.leaves_offset }

theorem Inv.step (h : s.Inv) (hstep : s.step c = some s') : s'.Inv := fun hs' =>
  arena_step (h (sound_of_step hstep hs')) hstep (fits_of_sound hstep hs')

/-- **Main result.** A run of calls on any managers is sound exactly where the sum of no call that
allocates from the pool wraps. -/
theorem userspace_sound_iff (manager : ι → SystemCallBypassManager) (pool : Ptr Unit)
    (calls : List (AllocateRequest ι)) :
    Always step Sound (initial manager pool) calls ↔ Meets step Fits (initial manager pool) calls := by
  have harena := arena_initial manager pool
  refine always_iff (I := Inv) (fun _ _ _ => Inv.step) (fun s c s' hs hsound hstep => ?_) calls
    (fun _ => harena) (.of_arena harena)
  exact ⟨fits_of_sound hstep, fun hfits => .of_arena (arena_step (hs hsound) hstep hfits)⟩

/-- After 8 bytes, a call for all but 8 of the `2 ^ 64` bytes, and one more call for 8. -/
def wrappingCalls : List (AllocateRequest Unit) :=
  [⟨(), 8, none⟩, ⟨(), 0xfffffffffffffff8, none⟩, ⟨(), 8, none⟩]

/-- The second call passes the bound check and takes the offset back to 0; the third range is the
first one again. -/
theorem userspace_wraps :
    (∃ s, run step (initial (fun _ => ⟨true, 0⟩) ⟨(), 4096⟩) wrappingCalls = some s ∧
      s.granted = [⟨⟨(), 4096⟩, 8⟩, ⟨⟨(), 4104⟩, 0xfffffffffffffff8⟩, ⟨⟨(), 4096⟩, 8⟩]) ∧
    ¬ Always step Sound (initial (fun _ => ⟨true, 0⟩) ⟨(), 4096⟩) wrappingCalls := by
  have hrun : (run step (initial (fun _ => ⟨true, 0⟩) ⟨(), 4096⟩) wrappingCalls).map granted =
      some [⟨⟨(), 4096⟩, 8⟩, ⟨⟨(), 4104⟩, 0xfffffffffffffff8⟩, ⟨⟨(), 4096⟩, 8⟩] := by decide +kernel
  obtain ⟨s, hs, hgranted⟩ := Option.map_eq_some_iff.mp hrun
  refine ⟨⟨s, hs, hgranted⟩, fun hal => ?_⟩
  have hdisjoint := (hal.last hs).disjoint
  rw [hgranted] at hdisjoint
  have hsame : Range.Disjoint ⟨⟨(), 4096⟩, 8⟩ ⟨⟨(), 4096⟩, 8⟩ :=
    (List.pairwise_cons.mp hdisjoint).1 _ (by decide)
  exact hsame ⟨(), 4096⟩ (by decide) (by decide)

end Allocations

end PumpTrade
