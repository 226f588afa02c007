import Mathlib.Algebra.Order.Ring.Nat
import Mathlib.Data.Nat.Bitwise
import PumpTrade.Base.Memory

/-!
# Comparisons by size class

`SIMDMemoryOps::memcmp_simd_optimized` of `perf/hardware_optimizations.rs` and
`SIMDMemory::compare_avx2` of `perf/simd.rs` on x86_64. A vector comparison masks out what lies
beyond the length; the comparison of a word of 8 bytes does not.

* `equalMask`: the bits of a vector comparison, and `equalMask_covers_iff`: what the mask of a
  length asks for;
* **`compareAvx2_iff`**: the loop compares the ranges for every length;
* **`memcmp_agrees_iff`**: when the dispatch by size class does.
-/

namespace PumpTrade

open Base

/-! ## Vector comparisons -/

/-- `_mm_cmpeq_epi8` and `_mm256_cmpeq_epi8`. -/
def cmpeqEpi8 (va vb : List UInt8) : List UInt8 := List.zipWith (fun a b => if a = b then 0xff else 0) va vb

/-- `_mm_movemask_epi8` and `_mm256_movemask_epi8`: the high bit of each byte, as an unsigned
number. -/
def movemaskEpi8 : List UInt8 → ℕ
  | [] => 0
  | b :: bytes => (if 128 ≤ b then 1 else 0) + 2 * movemaskEpi8 bytes

variable {β : Type} (mem : Memory β)

/-- The mask of the equal bytes of two vectors of `width` bytes. -/
def equalMask (width : ℕ) (a b : Ptr β) : ℕ :=
  movemaskEpi8 (cmpeqEpi8 (mem.load a width) (mem.load b width))

/-- `valid_mask`, for vectors of `width` bytes. -/
def validMask (width len : ℕ) : ℕ := if width ≤ len then 2 ^ width - 1 else 2 ^ len - 1

theorem testBit_movemaskEpi8 (bytes : List UInt8) (i : ℕ) :
    (movemaskEpi8 bytes).testBit i = decide (∃ b, bytes[i]? = some b ∧ 128 ≤ b) := by
  induction bytes generalizing i with
  | nil => simp [movemaskEpi8]
  | cons b bytes ih =>
    cases i with
    | zero =>
      by_cases hb : 128 ≤ b <;> simp [movemaskEpi8, hb, Nat.testBit_zero]
    | succ i =>
      have hhalf : ((if 128 ≤ b then 1 else 0) + 2 * movemaskEpi8 bytes) / 2 = movemaskEpi8 bytes := by
        split_ifs <;> omega
      rw [movemaskEpi8, Nat.testBit_succ, hhalf, ih, List.getElem?_cons_succ]

theorem testBit_equalMask {mem : Memory β} {width i : ℕ} (hi : i < width) (a b : Ptr β) :
    (equalMask mem width a b).testBit i = decide (mem (a.add i) = mem (b.add i)) := by
  have hbyte : (cmpeqEpi8 (mem.load a width) (mem.load b width))[i]? =
      some (if mem (a.add i) = mem (b.add i) then 0xff else 0) := by
    rw [cmpeqEpi8, List.getElem?_zipWith, Memory.load, Memory.load, List.getElem?_map, List.getElem?_map,
      List.getElem?_range hi]
    rfl
  rw [equalMask, testBit_movemaskEpi8, hbyte]
  by_cases heq : mem (a.add i) = mem (b.add i)
  · simp [heq]
  · simp [heq]

theorem and_two_pow_sub_one_eq_iff {x n : ℕ} : x &&& (2 ^ n - 1) = 2 ^ n - 1 ↔ ∀ i < n, x.testBit i = true := by
  constructor
  · intro h i hi
    have hbit := congrArg (fun y => y.testBit i) h
    simpa [Nat.testBit_and, Nat.testBit_two_pow_sub_one, hi] using hbit
  · intro h
    apply Nat.eq_of_testBit_eq
    intro i
    rw [Nat.testBit_and, Nat.testBit_two_pow_sub_one]
    by_cases hi : i < n
    · simp [hi, h i hi]
    · simp [hi]

/-- **The masked comparison** is of the bytes below the length. -/
theorem equalMask_covers_iff {mem : Memory β} {width len : ℕ} (a b : Ptr β) (hle : len ≤ width) :
    equalMask mem width a b &&& validMask width len = validMask width len ↔ mem.Agree a b len := by
  have hvalid : validMask width len = 2 ^ len - 1 := by
    unfold validMask
    split_ifs with hwidth
    · rw [le_antisymm hle hwidth]
    · rfl
  rw [hvalid, and_two_pow_sub_one_eq_iff]
  refine forall₂_congr fun i hi => ?_
  rw [testBit_equalMask (lt_of_lt_of_le hi hle), decide_eq_true_eq]

theorem movemaskEpi8_lt (bytes : List UInt8) : movemaskEpi8 bytes < 2 ^ bytes.length := by
  induction bytes with
  | nil => exact Nat.one_pos
  | cons b bytes ih =>
    rw [movemaskEpi8, List.length_cons, Nat.pow_succ]
    split_ifs <;> omega

theorem equalMask_full_iff {mem : Memory β} (width : ℕ) (a b : Ptr β) :
    equalMask mem width a b = 2 ^ width - 1 ↔ mem.Agree a b width := by
  have hlt : equalMask mem width a b < 2 ^ width := by
    have h := movemaskEpi8_lt (cmpeqEpi8 (mem.load a width) (mem.load b width))
    rwa [cmpeqEpi8, List.length_zipWith, Memory.length_load, Memory.length_load, min_self] at h
  rw [← equalMask_covers_iff a b le_rfl, validMask, if_pos le_rfl, Nat.and_two_pow_sub_one_of_lt_two_pow hlt]

/-! ## By size class -/

namespace SimdMemoryOps

/-- 1 to 8 bytes, as words; the last arm is that of 5 to 8. -/
def memcmpSmall (a b : Ptr β) (len : ℕ) : Bool :=
  match len with
  | 1 => mem a = mem b
  | 2 => mem.load a 2 = mem.load b 2
  | 3 => mem.load a 2 = mem.load b 2 && mem (a.add 2) = mem (b.add 2)
  | 4 => mem.load a 4 = mem.load b 4
  | _ => mem.load a 8 = mem.load b 8

/-- 9 to 16 bytes. -/
def memcmpSse (a b : Ptr β) (len : ℕ) : Bool :=
  let mask := equalMask mem 16 a b
  let valid := validMask 16 len
  mask &&& valid = valid

/-- 17 to 32 bytes. -/
def memcmpAvx2 (a b : Ptr β) (len : ℕ) : Bool :=
  let mask := equalMask mem 32 a b
  let valid := validMask 32 len
  mask &&& valid = valid

/-- More than 32 bytes, in chunks of 32. -/
def memcmpLarge (a b : Ptr β) (len : ℕ) : Bool :=
  let chunks := len / 32
  let remaining := len % 32
  ((List.range chunks).all fun i => memcmpAvx2 mem (a.add (i * 32)) (b.add (i * 32)) 32) &&
    if 0 < remaining then memcmpAvx2 mem (a.add (chunks * 32)) (b.add (chunks * 32)) remaining else true

/-- Compare by the class of the length. -/
def memcmpSimdOptimized (a b : Ptr β) (len : ℕ) : Bool :=
  if len = 0 then true
  else if len ≤ 8 then memcmpSmall mem a b len
  else if len ≤ 16 then memcmpSse mem a b len
  else if len ≤ 32 then memcmpAvx2 mem a b len
  else memcmpLarge mem a b len

variable {mem : Memory β} {a b : Ptr β} {len : ℕ}

theorem memcmpAvx2_iff (hle : len ≤ 32) : memcmpAvx2 mem a b len = true ↔ mem.Agree a b len :=
  decide_eq_true_iff.trans (equalMask_covers_iff a b hle)

theorem memcmpSse_iff (hle : len ≤ 16) : memcmpSse mem a b len = true ↔ mem.Agree a b len :=
  decide_eq_true_iff.trans (equalMask_covers_iff a b hle)

theorem memcmpLarge_iff : memcmpLarge mem a b len = true ↔ mem.Agree a b len := by
  have hchunks : ((List.range (len / 32)).all fun i => memcmpAvx2 mem (a.add (i * 32)) (b.add (i * 32)) 32) =
      true ↔ mem.Agree a b (len / 32 * 32) := by
    rw [List.all_eq_true, Memory.agree_chunks]
    exact forall_congr' fun i => by rw [List.mem_range, memcmpAvx2_iff le_rfl]
  have hrest : (if 0 < len % 32 then memcmpAvx2 mem (a.add (len / 32 * 32)) (b.add (len / 32 * 32)) (len % 32)
      else true) = true ↔ mem.Agree (a.add (len / 32 * 32)) (b.add (len / 32 * 32)) (len % 32) := by
    by_cases hpos : 0 < len % 32
    · rw [if_pos hpos, memcmpAvx2_iff (by omega)]
    · rw [if_neg hpos, show len % 32 = 0 by omega]
      exact iff_of_true rfl Memory.agree_zero
  rw [memcmpLarge, Bool.and_eq_true, hchunks, hrest, ← Memory.agree_add_iff, Nat.div_add_mod']

theorem memcmpSmall_iff (hpos : 0 < len) (hle : len ≤ 8) :
    memcmpSmall mem a b len = true ↔ mem.Agree a b (if len ≤ 4 then len else 8) := by
  unfold memcmpSmall
  split
  · rw [decide_eq_true_iff, ← Memory.agree_one_iff]
    rfl
  · rw [decide_eq_true_iff, Memory.load_eq_iff]
    rfl
  · rw [Bool.and_eq_true, decide_eq_true_iff, decide_eq_true_iff, Memory.load_eq_iff, ← Memory.agree_one_iff,
      ← Memory.agree_add_iff]
    rfl
  · rw [decide_eq_true_iff, Memory.load_eq_iff]
    rfl
  · next h₁ h₂ h₃ h₄ =>
    have : len ≠ 1 ∧ len ≠ 2 ∧ len ≠ 3 ∧ len ≠ 4 := ⟨h₁, h₂, h₃, h₄⟩
    rw [decide_eq_true_iff, Memory.load_eq_iff, if_neg (by omega)]

/-- The number of bytes that are compared for a length. -/
def compared (len : ℕ) : ℕ := if 5 ≤ len ∧ len ≤ 7 then 8 else len

/-- **What the dispatch compares.** -/
theorem memcmpSimdOptimized_iff (mem : Memory β) (a b : Ptr β) (len : ℕ) :
    memcmpSimdOptimized mem a b len = true ↔ mem.Agree a b (compared len) := by
  unfold memcmpSimdOptimized
  split_ifs with hzero hsmall hsse havx2
  · subst hzero
    exact iff_of_true rfl Memory.agree_zero
  · rw [memcmpSmall_iff (Nat.pos_of_ne_zero hzero) hsmall]
    have : (if len ≤ 4 then len else 8) = compared len := by
      unfold compared
      split_ifs <;> omega
    rw [this]
  all_goals rw [compared, if_neg (by omega)]
  · exact memcmpSse_iff hsse
  · exact memcmpAvx2_iff havx2
  · exact memcmpLarge_iff

end SimdMemoryOps

/-! ## By a loop -/

namespace SimdMemory

/-- The loop over whole vectors: no offset where a chunk differs, else the offset at which the loop
ends. -/
def compareChunks (a b : Ptr β) (len offset : ℕ) : Option ℕ :=
  if offset + 32 ≤ len then
    if equalMask mem 32 (a.add offset) (b.add offset) ≠ 0xffffffff then none
    else compareChunks a b len (offset + 32)
  else some offset
termination_by len - offset

/-- The loop over the rest. -/
def compareBytes (a b : Ptr β) (len offset : ℕ) : Bool :=
  if offset < len then
    if mem (a.add offset) ≠ mem (b.add offset) then false
    else compareBytes a b len (offset + 1)
  else true
termination_by len - offset

/-- Compare by vectors, and then the bytes after them. -/
def compareAvx2 (a b : Ptr β) (len : ℕ) : Bool :=
  match compareChunks mem a b len 0 with
  | none => false
  | some offset => compareBytes mem a b len offset

variable (a b : Ptr β) {len : ℕ}

theorem compareBytes_iff (offset : ℕ) (hle : offset ≤ len) :
    compareBytes mem a b len offset = true ↔ mem.Agree (a.add offset) (b.add offset) (len - offset) := by
  induction offset using compareBytes.induct mem a b len with
  | case1 offset hlt hne =>
    rw [compareBytes, if_pos hlt, if_pos hne]
    exact iff_of_false Bool.false_ne_true fun h => hne (h 0 (by omega))
  | case2 offset hlt heq ih =>
    have hsplit : len - offset = 1 + (len - (offset + 1)) := by omega
    rw [compareBytes, if_pos hlt, if_neg heq, ih hlt, hsplit, Memory.agree_add_iff, Memory.agree_one_iff,
      Ptr.add_add, Ptr.add_add]
    exact (and_iff_right (not_not.mp heq)).symm
  | case3 offset hge =>
    rw [compareBytes, if_neg hge, show len - offset = 0 by omega]
    exact iff_of_true rfl Memory.agree_zero

theorem compareChunks_iff (offset : ℕ) (hle : offset ≤ len) :
    (compareChunks mem a b len offset).elim false (compareBytes mem a b len) = true ↔
      mem.Agree (a.add offset) (b.add offset) (len - offset) := by
  induction offset using compareChunks.induct mem a b len with
  | case1 offset hlt hne =>
    rw [compareChunks, if_pos hlt, if_pos hne]
    refine iff_of_false Bool.false_ne_true fun h => hne ?_
    exact (equalMask_full_iff 32 _ _).mpr (h.mono (by omega))
  | case2 offset hlt heq ih =>
    have hsplit : len - offset = 32 + (len - (offset + 32)) := by omega
    have hchunk := (equalMask_full_iff 32 _ _).mp (not_not.mp heq)
    rw [compareChunks, if_pos hlt, if_neg heq, ih hlt, hsplit, Memory.agree_add_iff, Ptr.add_add, Ptr.add_add]
    exact (and_iff_right hchunk).symm
  | case3 offset hge =>
    rw [compareChunks, if_neg hge]
    exact compareBytes_iff mem a b offset hle

/-- **The loop compares the ranges.** -/
theorem compareAvx2_iff (mem : Memory β) (a b : Ptr β) (len : ℕ) :
    compareAvx2 mem a b len = true ↔ mem.Agree a b len := by
  have h := compareChunks_iff mem a b 0 (Nat.zero_le len)
  rw [Ptr.add_zero, Ptr.add_zero, Nat.sub_zero] at h
  rw [← h, compareAvx2]
  cases compareChunks mem a b len 0 with
  | none => rfl
  | some offset => rfl

end SimdMemory

open SimdMemoryOps SimdMemory

/-- The dispatch tells whether the ranges agree, as the loop does. -/
def ComparesExactly (a b : Ptr β) (len : ℕ) : Prop :=
  (memcmpSimdOptimized mem a b len = true ↔ mem.Agree a b len) ∧
    memcmpSimdOptimized mem a b len = compareAvx2 mem a b len

/-- **When the dispatch compares exactly**: not where ranges of 5 to 7 bytes agree and the bytes
after them, up to 8, do not. -/
theorem memcmp_agrees_iff (mem : Memory β) (a b : Ptr β) (len : ℕ) :
    ComparesExactly mem a b len ↔
      ¬ (5 ≤ len ∧ len ≤ 7) ∨ ¬ mem.Agree a b len ∨ mem.Agree (a.add len) (b.add len) (8 - len) := by
  have hdispatch := memcmpSimdOptimized_iff mem a b len
  have hloop := compareAvx2_iff mem a b len
  have hexact : ComparesExactly mem a b len ↔ (mem.Agree a b (compared len) ↔ mem.Agree a b len) := by
    have hsame : memcmpSimdOptimized mem a b len = compareAvx2 mem a b len ↔
        (mem.Agree a b (compared len) ↔ mem.Agree a b len) := by
      rw [Bool.eq_iff_iff, hdispatch, hloop]
    rw [ComparesExactly, hdispatch, hsame, and_self]
  rw [hexact, compared]
  by_cases hword : 5 ≤ len ∧ len ≤ 7
  · have hsplit : 8 = len + (8 - len) := by omega
    rw [if_pos hword, hsplit, Memory.agree_add_iff, Nat.add_sub_cancel_left, and_iff_left_iff_imp,
      imp_iff_not_or]
    exact (or_iff_right (not_not.mpr hword)).symm
  · rw [if_neg hword]
    exact iff_of_true Iff.rfl (Or.inl hword)

/-- **Five equal bytes** before different ones compare as different. -/
theorem memcmp_five :
    let mem : Memory Bool := fun q => if q.offset < 5 then 7 else if q.block then 1 else 0
    mem.Agree ⟨true, 0⟩ ⟨false, 0⟩ 5 ∧ memcmpSimdOptimized mem ⟨true, 0⟩ ⟨false, 0⟩ 5 = false ∧
      ¬ ComparesExactly mem ⟨true, 0⟩ ⟨false, 0⟩ 5 := by
  refine ⟨by decide, by decide, fun h => ?_⟩
  exact absurd (h.1.mpr (by decide)) (by decide)

end PumpTrade
