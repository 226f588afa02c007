import Mathlib.Data.UInt
import PumpTrade.Base.Chunked
import PumpTrade.Base.Lanes
import PumpTrade.Base.Outcome
import PumpTrade.Perf.Memcmp

/-!
# Vector loops

The loops of `perf/simd.rs` and `vectorized_sum_compile_time` of `perf/compiler_optimization.rs` on
x86_64: a loop over whole vectors, and a loop over what is left. Lengths are those of ranges in
memory, at most `isize::MAX`, so that no offset overflows.

* `copyAvx2`, `zeroAvx2`, beside `compareAvx2`; `addU64Batch`; `vectorizedSumCompileTime`;
* `copyAvx2_copies`, `zeroAvx2_eq`, `addU64Batch_eq`, `vectorizedSumCompileTime_eq`: what each does;
* **`vector_loops_exact`**: all of them are exact for every length.
-/

namespace PumpTrade

open Base

/-! ## Memory -/

namespace SimdMemory

open Machine (Copies)

variable {β : Type} [DecidableEq β]

/-- Vectors of 32 bytes, then bytes. -/
def copyAvx2 (dst src : Ptr β) (len : ℕ) : Machine β → Machine β :=
  chunked (by decide : 0 < 32) len (fun offset _ m => m.move 32 (dst.add offset) (src.add offset))
    (fun offset _ m => m.move 1 (dst.add offset) (src.add offset))

theorem covers_copies (dst src : Ptr β) :
    Covers fun offset n m m' => Copies (dst.add offset) (src.add offset) n m m' where
  none _ m := Machine.copies_zero _ _ m
  append _ _ _ _ _ _ hfirst hrest := by
    rw [← Ptr.add_add, ← Ptr.add_add] at hrest
    exact hfirst.trans hrest

/-- **The loops copy the range.** -/
theorem copyAvx2_copies (dst src : Ptr β) (len : ℕ) (m : Machine β) :
    Copies dst src len m (copyAvx2 dst src len m) :=
  chunked_covers (covers_copies dst src) _ (fun _ _ m => Machine.copies_move 32 _ _ m)
    (fun _ _ m => Machine.copies_move 1 _ _ m) m

/-- Vectors of 32 bytes, then bytes. -/
def zeroAvx2 (ptr : Ptr β) (len : ℕ) : Memory β → Memory β :=
  chunked (by decide : 0 < 32) len (fun offset _ mem => mem.store (ptr.add offset) (List.replicate 32 0))
    (fun offset _ mem => mem.store (ptr.add offset) [0])

theorem covers_fill (ptr : Ptr β) :
    Covers fun offset n (mem mem' : Memory β) => mem' = mem.fill (ptr.add offset) n 0 where
  none _ _ := (Memory.fill_zero 0).symm
  append _ m n _ _ _ hfirst hrest := by rw [hrest, hfirst, ← Ptr.add_add, Memory.fill_fill]

/-- **The loops zero the range.** -/
theorem zeroAvx2_eq (ptr : Ptr β) (len : ℕ) (mem : Memory β) : zeroAvx2 ptr len mem = mem.fill ptr len 0 :=
  chunked_covers (covers_fill ptr) _ (fun _ _ _ => Memory.store_replicate 32 0)
    (fun _ _ _ => Memory.store_replicate 1 0) mem

end SimdMemory

/-! ## Sums of slices -/

/-- The panic of `assert_eq!` on two lengths. -/
def assertEqFailed (left right : ℕ) : String :=
  "assertion `left == right` failed\n  left: " ++ toString left ++ "\n right: " ++ toString right

namespace SimdMath

open Lanes

section Slices

variable {n : ℕ} (a b : Vector UInt64 n)

/-- Vectors of four words, then words. -/
def addWords : Vector UInt64 n → Vector UInt64 n :=
  chunked (by decide : 0 < 4) n
    (fun i h result =>
      let va := load 4 a i h
      let vb := load 4 b i h
      let vsum := addLanes va vb
      store result i h vsum)
    (fun i _ result => result.set i (a[i] + b[i]))

/-- The sums are in the `k` places from `i` on, and the other places are what they were. -/
def Added (i k : ℕ) (result result' : Vector UInt64 n) : Prop :=
  ∀ j (_ : j < n), result'[j] = if i ≤ j ∧ j < i + k then a[j] + b[j] else result[j]

theorem covers_added : Covers (Added a b) where
  none i result j hj := by rw [if_neg (by omega)]
  append i k l result₀ result₁ result₂ hfirst hrest j hj := by
    rw [hrest j hj, hfirst j hj]
    by_cases hlater : i + k ≤ j ∧ j < i + k + l
    · rw [if_pos hlater, if_pos (by omega)]
    · rw [if_neg hlater]
      exact if_congr (by omega) rfl rfl

theorem added_store (i : ℕ) (h : i + 4 ≤ n) (result : Vector UInt64 n) :
    Added a b i 4 result (store result i h (addLanes (load 4 a i h) (load 4 b i h))) := by
  intro j hj
  rw [getElem_store]
  by_cases hchunk : i ≤ j ∧ j < i + 4
  · have hlane : j - i < 4 := by omega
    have hsum : (addLanes (load 4 a i h) (load 4 b i h))[j - i] = a[j] + b[j] := by
      simp only [getElem_addLanes, getElem_load, Nat.add_sub_cancel' hchunk.1]
    rw [dif_pos hchunk, if_pos hchunk, hsum]
  · rw [dif_neg hchunk, if_neg hchunk]

theorem added_set (i : ℕ) (h : i < n) (result : Vector UInt64 n) :
    Added a b i 1 result (result.set i (a[i] + b[i])) := by
  intro j hj
  rw [Vector.getElem_set]
  by_cases hij : i = j
  · subst hij
    rw [if_pos rfl, if_pos (by omega)]
  · rw [if_neg hij, if_neg (by omega)]

theorem addWords_eq (result : Vector UInt64 n) : addWords a b result = Vector.zipWith (· + ·) a b := by
  have hadded := chunked_covers (covers_added a b) (by decide) (added_store a b) (added_set a b) result
  ext j hj : 1
  rw [Vector.getElem_zipWith]
  exact (hadded j hj).trans (if_pos ⟨Nat.zero_le j, by rwa [Nat.zero_add]⟩)

end Slices

/-- The slices, where the asserts pass, are as long as the first. -/
def addU64Batch (a b result : Array UInt64) : Outcome (Array UInt64) :=
  if hb : a.size = b.size then
    if hresult : a.size = result.size then
      .ret (addWords a.toVector (b.toVector.cast hb.symm) (result.toVector.cast hresult.symm)).toArray
    else .panic (assertEqFailed a.size result.size)
  else .panic (assertEqFailed a.size b.size)

/-- **The loops add the slices.** -/
theorem addU64Batch_eq {a b result : Array UInt64} (hb : a.size = b.size) (hresult : a.size = result.size) :
    addU64Batch a b result = .ret (Array.zipWith (· + ·) a b) := by
  rw [addU64Batch, dif_pos hb, dif_pos hresult, addWords_eq, Vector.toArray_zipWith, Vector.toArray_cast]

end SimdMath

namespace SimdCompileTimeOptimizer

open Lanes

/-- `iter().sum()`. -/
def iterSum (words : List UInt64) : UInt64 := words.foldl (· + ·) 0

theorem iterSum_eq (words : List UInt64) : iterSum words = words.sum := List.sum_eq_foldl.symm

theorem toNat_iterSum (words : List UInt64) :
    (iterSum words).toNat = (words.map UInt64.toNat).sum % 2 ^ 64 := by
  rw [iterSum_eq]
  induction words with
  | nil => rfl
  | cons x words ih =>
    rw [List.sum_cons, UInt64.toNat_add, ih, List.map_cons, List.sum_cons, Nat.add_mod_mod]

/-- The sum, four lanes at a time. -/
def vectorizedSumCompileTime (data : Array UInt64) : UInt64 :=
  if data.size < 4 then iterSum data.toList
  else
    let chunks := data.size / 4
    let sumVec := Fin.foldl chunks
      (fun sumVec i => addLanes sumVec (load 4 data.toVector (i * 4) (by omega))) (Vector.replicate 4 0)
    let partialSum := iterSum sumVec.toList
    let remaining := iterSum (data.toList.drop (chunks * 4))
    partialSum + remaining

/-- **The loop adds up the slice.** -/
theorem vectorizedSumCompileTime_eq (data : Array UInt64) :
    vectorizedSumCompileTime data = iterSum data.toList := by
  unfold vectorizedSumCompileTime
  split_ifs with hshort
  · rfl
  · have hchunks := sum_foldl_load data.toVector (Nat.div_mul_le_self data.size 4) fun i => by omega
    simp only [iterSum_eq]
    rw [hchunks]
    exact List.sum_take_add_sum_drop data.toList _

end SimdCompileTimeOptimizer

/-! ## All loops -/

open SimdMemory SimdMath SimdCompileTimeOptimizer

/-- **Main result.** For every length and content: a copy between ranges that share no byte, which
the portable body asks for with `copy_nonoverlapping`, sets the destination to the source, changes
no other byte and reads the source only; a comparison tells whether the ranges agree; zeroing sets
the range to zero and changes no other byte; slices of one length are added element by element; the
sum is that of the slice. Words are added modulo `2 ^ 64`. -/
theorem vector_loops_exact {β : Type} [DecidableEq β] (mem : Memory β) (len : ℕ) :
    (∀ dst src : Ptr β, Ptr.Apart dst src len →
      (copyAvx2 dst src len (.start mem)).mem = mem.copy dst src len ∧
        ∀ q, (copyAvx2 dst src len (.start mem)).Reads q ↔ q.Within src len) ∧
    (∀ a b : Ptr β, compareAvx2 mem a b len = true ↔ mem.Agree a b len) ∧
    (∀ ptr : Ptr β, zeroAvx2 ptr len mem = mem.fill ptr len 0) ∧
    (∀ a b result : Array UInt64, a.size = b.size → a.size = result.size →
      addU64Batch a b result = .ret (Array.zipWith (· + ·) a b)) ∧
    ∀ data : Array UInt64,
      (vectorizedSumCompileTime data).toNat = (data.toList.map UInt64.toNat).sum % 2 ^ 64 := by
  refine ⟨fun dst src hapart => ?_, fun a b => compareAvx2_iff mem a b len,
    fun ptr => zeroAvx2_eq ptr len mem, fun a b result => addU64Batch_eq, fun data => ?_⟩
  · have hcopies := copyAvx2_copies dst src len (.start mem)
    refine ⟨hcopies.mem hapart, fun q => ?_⟩
    rw [hcopies.reads q]
    exact or_iff_right (Machine.not_reads_start mem q)
  · rw [vectorizedSumCompileTime_eq, toNat_iterSum]

/-- 40 bytes in a flat memory, and slices of five words whose last sum wraps. -/
theorem vector_loops_exact_forty :
    (copyAvx2 ⟨(), 0⟩ ⟨(), 40⟩ 40 (.start fun q : Ptr Unit => UInt8.ofNat q.offset)).mem ⟨(), 39⟩ = 79 ∧
      addU64Batch #[1, 2, 3, 4, 2 ^ 64 - 1] #[5, 6, 7, 8, 9] #[0, 0, 0, 0, 0] = .ret #[6, 8, 10, 12, 8] := by
  have h := vector_loops_exact (fun q : Ptr Unit => UInt8.ofNat q.offset) 40
  have hcopy := (h.1 ⟨(), 0⟩ ⟨(), 40⟩ fun _ => Or.inl (by decide)).1
  have hadd := h.2.2.2.1 #[1, 2, 3, 4, 2 ^ 64 - 1] #[5, 6, 7, 8, 9] #[0, 0, 0, 0, 0] rfl rfl
  rw [hcopy, hadd]
  exact ⟨by decide, by decide +kernel⟩

end PumpTrade
