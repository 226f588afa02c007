import Mathlib.Algebra.Order.Ring.Nat
import PumpTrade.Base.Memory

/-!
# Copies by size class

`SIMDMemoryOps::memcpy_simd_optimized` of `perf/hardware_optimizations.rs` on x86_64. Each size
class moves whole words or vectors, so that what is copied is the length rounded up to what its
class moves.

* `memcpySimdOptimized` and its size classes;
* `copied`: how many bytes are moved for a length; **`memcpySimdOptimized_copies`**: these bytes are
  copied;
* **`memcpy_exact_iff`**: the lengths for which no byte beyond them is read or written.
-/

namespace PumpTrade

open Base

namespace SimdMemoryOps

variable {β : Type} [DecidableEq β]

/-- 1 to 8 bytes; the last arm is that of 5 to 8. -/
def memcpySmall (dst src : Ptr β) (len : ℕ) (m : Machine β) : Machine β :=
  match len with
  | 1 => m.move 1 dst src
  | 2 => m.move 2 dst src
  | 3 => (m.move 2 dst src).move 1 (dst.add 2) (src.add 2)
  | 4 => m.move 4 dst src
  | len =>
    let m := m.move 8 dst src
    if 8 < len then m.move (len - 8) (dst.add 8) (src.add 8) else m

/-- 9 to 16 bytes, as one vector. -/
def memcpySse (dst src : Ptr β) (len : ℕ) (m : Machine β) : Machine β :=
  if len ≤ 16 then m.move 16 dst src else m

/-- 17 to 32 bytes, as one vector. -/
def memcpyAvx (dst src : Ptr β) (len : ℕ) (m : Machine β) : Machine β :=
  if len ≤ 32 then m.move 32 dst src else m

/-- 33 to 64 bytes, as two vectors. -/
def memcpyAvx2 (dst src : Ptr β) (len : ℕ) (m : Machine β) : Machine β :=
  let m := m.move 32 dst src
  if 32 < len then
    let remaining := len - 32
    if remaining ≤ 32 then m.move 32 (dst.add 32) (src.add 32) else m
  else m

/-- More than 64 bytes: chunks of 64 where the target has `avx512f`, else of 32, and the rest by a
smaller class. -/
def memcpyAvx512OrFallback (avx512f : Bool) (dst src : Ptr β) (len : ℕ) (m : Machine β) : Machine β :=
  if avx512f then
    let chunks := len / 64
    let m := Machine.forChunks 64 (fun offset m => m.move 64 (dst.add offset) (src.add offset)) chunks 0 m
    let offset := chunks * 64
    let remaining := len % 64
    if 0 < remaining then memcpyAvx2 (dst.add offset) (src.add offset) remaining m else m
  else
    let chunks := len / 32
    let m := Machine.forChunks 32 (fun offset => memcpyAvx2 (dst.add offset) (src.add offset) 32) chunks 0 m
    let offset := chunks * 32
    let remaining := len % 32
    if 0 < remaining then memcpyAvx (dst.add offset) (src.add offset) remaining m else m

/-- Copy by the class of the length. -/
def memcpySimdOptimized (avx512f : Bool) (dst src : Ptr β) (len : ℕ) (m : Machine β) : Machine β :=
  if len = 0 then m
  else if len ≤ 8 then memcpySmall dst src len m
  else if len ≤ 16 then memcpySse dst src len m
  else if len ≤ 32 then memcpyAvx dst src len m
  else if len ≤ 64 then memcpyAvx2 dst src len m
  else memcpyAvx512OrFallback avx512f dst src len m

/-! ## What is copied -/

/-- The number of bytes that are moved for a length. -/
def copied (len : ℕ) : ℕ :=
  if len ≤ 4 then len
  else if len ≤ 8 then 8
  else if len ≤ 16 then 16
  else (len + 31) / 32 * 32

theorem le_copied (len : ℕ) : len ≤ copied len := by
  unfold copied
  split_ifs <;> omega

open Machine (Copies copies_move copies_chunks)

variable {dst src : Ptr β} {len : ℕ} (m : Machine β)

theorem memcpySmall_copies (hpos : 0 < len) (hle : len ≤ 8) :
    Copies dst src (copied len) m (memcpySmall dst src len m) := by
  unfold memcpySmall
  split
  · exact copies_move 1 dst src m
  · exact copies_move 2 dst src m
  · exact (copies_move 2 dst src m).trans (copies_move 1 _ _ _)
  · exact copies_move 4 dst src m
  · next h₁ h₂ h₃ h₄ =>
    have hfive : ¬ len ≤ 4 := by
      have : len ≠ 1 ∧ len ≠ 2 ∧ len ≠ 3 ∧ len ≠ 4 := ⟨h₁, h₂, h₃, h₄⟩
      omega
    simp only [if_neg (Nat.not_lt.mpr hle)]
    rw [copied, if_neg hfive, if_pos hle]
    exact copies_move 8 dst src m

theorem memcpySse_copies (hlt : 8 < len) (hle : len ≤ 16) :
    Copies dst src (copied len) m (memcpySse dst src len m) := by
  rw [memcpySse, if_pos hle, copied, if_neg (by omega), if_neg (by omega), if_pos hle]
  exact copies_move 16 dst src m

theorem memcpyAvx_copies (hle : len ≤ 32) : Copies dst src 32 m (memcpyAvx dst src len m) := by
  rw [memcpyAvx, if_pos hle]
  exact copies_move 32 dst src m

theorem memcpyAvx2_copies (hpos : 0 < len) (hle : len ≤ 64) :
    Copies dst src ((len + 31) / 32 * 32) m (memcpyAvx2 dst src len m) := by
  unfold memcpyAvx2
  by_cases hlong : 32 < len
  · simp only [if_pos hlong, if_pos (show len - 32 ≤ 32 by omega)]
    rw [show (len + 31) / 32 * 32 = 32 + 32 by omega]
    exact (copies_move 32 dst src m).trans (copies_move 32 _ _ _)
  · simp only [if_neg hlong]
    rw [show (len + 31) / 32 * 32 = 32 by omega]
    exact copies_move 32 dst src m

/-- The rest after whole chunks: the two ways to copy it move the same bytes. -/
theorem memcpyAvx512OrFallback_copies (avx512f : Bool) :
    Copies dst src ((len + 31) / 32 * 32) m (memcpyAvx512OrFallback avx512f dst src len m) := by
  unfold memcpyAvx512OrFallback
  cases avx512f with
  | true =>
    have hchunks := copies_chunks dst src (fun offset m => copies_move 64 _ _ m) (len / 64) 0 m
    rw [Ptr.add_zero, Ptr.add_zero] at hchunks
    simp only [if_true]
    by_cases hrest : 0 < len % 64
    · rw [if_pos hrest, show (len + 31) / 32 * 32 = len / 64 * 64 + (len % 64 + 31) / 32 * 32 by omega]
      exact hchunks.trans (memcpyAvx2_copies _ hrest (by omega))
    · rw [if_neg hrest, show (len + 31) / 32 * 32 = len / 64 * 64 by omega]
      exact hchunks
  | false =>
    have hchunks := copies_chunks dst src
      (fun offset m => memcpyAvx2_copies m (by decide : 0 < 32) (by decide)) (len / 32) 0 m
    rw [Ptr.add_zero, Ptr.add_zero] at hchunks
    simp only [Bool.false_eq_true, if_false]
    by_cases hrest : 0 < len % 32
    · rw [if_pos hrest, show (len + 31) / 32 * 32 = len / 32 * 32 + 32 by omega]
      exact hchunks.trans (memcpyAvx_copies _ (by omega))
    · rw [if_neg hrest, show (len + 31) / 32 * 32 = len / 32 * 32 by omega]
      exact hchunks

/-- **What a copy does**: it moves the length rounded up to its size class. -/
theorem memcpySimdOptimized_copies (avx512f : Bool) (dst src : Ptr β) (len : ℕ) (m : Machine β) :
    Copies dst src (copied len) m (memcpySimdOptimized avx512f dst src len m) := by
  unfold memcpySimdOptimized
  split_ifs with hzero hsmall hsse havx havx2
  · subst hzero
    exact Machine.copies_zero dst src m
  · exact memcpySmall_copies m (Nat.pos_of_ne_zero hzero) hsmall
  · exact memcpySse_copies m (by omega) hsse
  all_goals rw [copied, if_neg (by omega), if_neg hsmall, if_neg hsse]
  · rw [show (len + 31) / 32 * 32 = 32 by omega]
    exact memcpyAvx_copies m havx
  · exact memcpyAvx2_copies m (by omega) havx2
  · exact memcpyAvx512OrFallback_copies m avx512f

theorem mem_memcpySimdOptimized (avx512f : Bool) {dst src : Ptr β} (h : dst.block ≠ src.block) (len : ℕ)
    (m : Machine β) :
    (memcpySimdOptimized avx512f dst src len m).mem = m.mem.copy dst src (copied len) :=
  (memcpySimdOptimized_copies avx512f dst src len m).mem fun hblock => absurd hblock h

/-! ## Exact copies -/

/-- The lengths that are a size class of their own. -/
def WholeClass (len : ℕ) : Prop := len ≤ 4 ∨ len = 8 ∨ len = 16 ∨ 32 ∣ len

instance (len : ℕ) : Decidable (WholeClass len) := inferInstanceAs (Decidable (_ ∨ _))

theorem copied_eq_iff {len : ℕ} : copied len = len ↔ WholeClass len := by
  unfold copied WholeClass
  split_ifs <;> omega

/-- The destination gets what the source held, no other byte changes, and no other byte is read. -/
structure CopiesExactly (avx512f : Bool) (dst src : Ptr β) (len : ℕ) (mem : Memory β) : Prop where
  written : ∀ i < len, (memcpySimdOptimized avx512f dst src len (.start mem)).mem (dst.add i) = mem (src.add i)
  frame : ∀ q, ¬ q.Within dst len → (memcpySimdOptimized avx512f dst src len (.start mem)).mem q = mem q
  reads : ∀ q, (memcpySimdOptimized avx512f dst src len (.start mem)).Reads q → q.Within src len

/-- **When a copy is exact**: for the lengths that are a size class of their own, whatever the
memory holds. -/
theorem memcpy_exact_iff (avx512f : Bool) {dst src : Ptr β} {len : ℕ} (mem : Memory β)
    (h : Ptr.Apart dst src len) : CopiesExactly avx512f dst src len mem ↔ WholeClass len := by
  have hcopies := memcpySimdOptimized_copies avx512f dst src len (.start mem)
  rw [← copied_eq_iff]
  constructor
  · intro hexact
    by_contra hne
    have hlt : len < copied len := lt_of_le_of_ne (le_copied len) (Ne.symm hne)
    obtain ⟨-, -, hoffset⟩ := hexact.reads (src.add len) ((hcopies.reads _).mpr (Or.inr (Ptr.within_add hlt)))
    exact absurd hoffset (lt_irrefl _)
  · intro heq
    rw [heq] at hcopies
    have hmem := hcopies.mem h
    exact
      { written := fun i hi => by
          rw [hmem]
          exact Memory.copy_add hi src
        frame := fun q hq => by
          rw [hmem]
          exact Memory.copy_of_not_within hq src
        reads := fun q hq =>
          ((hcopies.reads q).mp hq).resolve_left (Machine.not_reads_start mem q) }

/-- 96 bytes in a flat memory. -/
theorem memcpy_exact_flat : CopiesExactly true (⟨(), 0⟩ : Ptr Unit) ⟨(), 96⟩ 96 fun q => UInt8.ofNat q.offset :=
  (memcpy_exact_iff true _ fun _ => Or.inl (by decide)).mpr (by decide)

/-- **Five bytes** in a flat memory: the sixth is read and written as well. -/
theorem memcpy_five :
    let mem : Memory Unit := fun q => UInt8.ofNat q.offset
    let m := memcpySimdOptimized false ⟨(), 0⟩ ⟨(), 16⟩ 5 (.start mem)
    m.Reads ⟨(), 21⟩ ∧ m.mem ⟨(), 5⟩ = 21 ∧ mem ⟨(), 5⟩ = 5 ∧
      Ptr.Apart (⟨(), 0⟩ : Ptr Unit) ⟨(), 16⟩ 5 ∧ ¬ CopiesExactly false ⟨(), 0⟩ ⟨(), 16⟩ 5 mem :=
  ⟨by decide, by decide, by decide, fun _ => Or.inl (by decide),
    fun h => absurd (h.frame ⟨(), 5⟩ (by decide)) (by decide)⟩

end SimdMemoryOps

end PumpTrade
