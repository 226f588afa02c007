import PumpTrade.Chain.Pool
import PumpTrade.Perf.Simd

/-!
# Words in batches

`SIMDSerializer` of `perf/simd.rs`, with the searches of `SIMDMath`, and `memzero_simd_optimized` of
`perf/hardware_optimizations.rs`.

* `serializeU64Batch`, `deserializeU64Batch`, with `serializeU64Batch_eq`, `deserializeU64Batch_eq`: they
  are the batches of a codec;
* **`batch_round_trip`**: words are read back from any buffer that starts with them, and bytes are written
  back up to the last whole word;
* `maxU64Batch_of_ne_nil`, `minU64Batch_of_ne_nil`, `memzeroSimdOptimized_eq`: what the others do.
-/

namespace PumpTrade

open Base

/-! ## Words as bytes -/

/-- The words, eight bytes each. -/
def serializeU64Batch (data : List UInt64) : List UInt8 :=
  data.foldl (fun result value => result ++ leBytes value.toNat 8) []

/-- The bytes after the last whole word are not read. -/
def deserializeU64Batch (data : List UInt8) : List UInt64 :=
  (List.range (data.length / 8)).map fun i => UInt64.ofNat (ofLeBytes ((data.drop (i * 8)).take 8))

theorem serializeU64Batch_eq (data : List UInt64) : serializeU64Batch data = Codec.u64.encodeAll data := by
  rw [serializeU64Batch, List.foldl_append_eq_append, List.nil_append]
  rfl

theorem deserializeU64Batch_eq (data : List UInt8) : deserializeU64Batch data = Codec.u64.decodeAll data := by
  rw [Base.Codec.decodeAll, deserializeU64Batch, ← List.filterMap_eq_map]
  refine List.filterMap_congr fun i hi => ?_
  have hlt : i < data.length / 8 := List.mem_range.mp hi
  have hlength : ((data.drop (i * 8)).take 8).length = 8 := by
    rw [List.length_take, List.length_drop]
    omega
  exact (if_pos hlength).symm

/-- **Words and bytes.** Words are read back from any buffer that starts with their bytes, so that no two
lists have the same bytes; what is read of any bytes is written back up to the last whole word, so that
two buffers read alike exactly where their whole words agree. -/
theorem batch_round_trip (words : List UInt64) (bytes : List UInt8) :
    deserializeU64Batch (serializeU64Batch words ++ bytes) = words ++ deserializeU64Batch bytes ∧
    (∀ words', serializeU64Batch words = serializeU64Batch words' ↔ words = words') ∧
    serializeU64Batch (deserializeU64Batch bytes) = bytes.take (bytes.length / 8 * 8) ∧
    ∀ bytes', deserializeU64Batch bytes = deserializeU64Batch bytes' ↔
      bytes.take (bytes.length / 8 * 8) = bytes'.take (bytes'.length / 8 * 8) := by
  have hsize : 0 < Codec.u64.size := by decide
  have hread : ∀ words bytes, deserializeU64Batch (serializeU64Batch words ++ bytes) =
      words ++ deserializeU64Batch bytes := fun words bytes => by
    rw [deserializeU64Batch_eq, deserializeU64Batch_eq, serializeU64Batch_eq]
    exact Codec.u64.decodeAll_encodeAll hsize words bytes
  have hwritten : ∀ bytes, serializeU64Batch (deserializeU64Batch bytes) =
      bytes.take (bytes.length / 8 * 8) := fun bytes => by
    rw [serializeU64Batch_eq, deserializeU64Batch_eq]
    exact Base.Codec.encodeAll_decodeAll hsize Codec.total_u64 bytes
  have hback : ∀ words, deserializeU64Batch (serializeU64Batch words) = words := fun words => by
    have h := hread words []
    rwa [List.append_nil, show deserializeU64Batch [] = [] from rfl, List.append_nil] at h
  refine ⟨hread words bytes, fun words' => ⟨fun h => ?_, congrArg _⟩, hwritten bytes, fun bytes' => ?_⟩
  · rw [← hback words, h, hback]
  · rw [← hwritten, ← hwritten]
    constructor
    · exact congrArg serializeU64Batch
    · intro h
      have h := congrArg deserializeU64Batch h
      rwa [hback, hback] at h

/-! ## Searches -/

/-- The word that no other beats, 0 where there is none. -/
def bestU64Batch (beats : UInt64 → UInt64 → Bool) : List UInt64 → UInt64
  | [] => 0
  | first :: rest => rest.foldl (fun best val => if beats val best then val else best) first

/-- The largest word. -/
def maxU64Batch : List UInt64 → UInt64 := bestU64Batch fun val max => decide (max < val)

/-- The smallest word. -/
def minU64Batch : List UInt64 → UInt64 := bestU64Batch fun val min => decide (val < min)

/-- **The search finds** a word of the list that no other beats, where being beaten by none is
transitive; by induction on the words that are left. -/
theorem bestU64Batch_of_ne_nil (beats : UInt64 → UInt64 → Bool) (hirrefl : ∀ a, beats a a = false)
    (hasymm : ∀ a b, beats a b = true → beats b a = false)
    (htrans : ∀ a b c, beats a b = false → beats b c = false → beats a c = false) {words : List UInt64}
    (hne : words ≠ []) :
    bestU64Batch beats words ∈ words ∧ ∀ w ∈ words, beats w (bestU64Batch beats words) = false := by
  obtain ⟨first, rest, rfl⟩ := List.exists_cons_of_ne_nil hne
  show rest.foldl _ first ∈ first :: rest ∧ ∀ w ∈ first :: rest, beats w (rest.foldl _ first) = false
  induction rest generalizing first with
  | nil => simp [hirrefl]
  | cons val rest ih =>
    obtain ⟨hmem, hbest⟩ := ih (if beats val first then val else first) (List.cons_ne_nil _ _)
    rw [List.foldl_cons]
    set best := rest.foldl (fun best val => if beats val best then val else best)
      (if beats val first then val else first) with hfold
    have hkept := hbest _ List.mem_cons_self
    by_cases hval : beats val first = true
    · rw [if_pos hval] at hmem hkept
      have hfirst : beats first best = false := htrans _ _ _ (hasymm _ _ hval) hkept
      refine ⟨List.mem_cons_of_mem _ hmem, fun w hw => ?_⟩
      rcases List.mem_cons.mp hw with rfl | hw
      · exact hfirst
      · rcases List.mem_cons.mp hw with rfl | hw
        · exact hkept
        · exact hbest w (List.mem_cons_of_mem _ hw)
    · rw [if_neg hval] at hmem hkept
      have hval' : beats val best = false := htrans _ _ _ (Bool.eq_false_iff.mpr hval) hkept
      refine ⟨?_, fun w hw => ?_⟩
      · rcases List.mem_cons.mp hmem with h | h
        · rw [h]
          exact List.mem_cons_self
        · exact List.mem_cons_of_mem _ (List.mem_cons_of_mem _ h)
      · rcases List.mem_cons.mp hw with rfl | hw
        · exact hkept
        · rcases List.mem_cons.mp hw with rfl | hw
          · exact hval'
          · exact hbest w (List.mem_cons_of_mem _ hw)

theorem maxU64Batch_of_ne_nil {words : List UInt64} (hne : words ≠ []) :
    maxU64Batch words ∈ words ∧ ∀ w ∈ words, w ≤ maxU64Batch words := by
  have h := bestU64Batch_of_ne_nil (fun val max => decide (max < val)) (by simp)
    (by simpa using fun _ _ => UInt64.le_of_lt) (by simpa using fun _ _ _ => UInt64.le_trans) hne
  refine ⟨h.1, fun w hw => ?_⟩
  have hw := h.2 w hw
  simp only [decide_eq_false_iff_not, UInt64.not_lt] at hw
  exact hw

theorem minU64Batch_of_ne_nil {words : List UInt64} (hne : words ≠ []) :
    minU64Batch words ∈ words ∧ ∀ w ∈ words, minU64Batch words ≤ w := by
  have h := bestU64Batch_of_ne_nil (fun val min => decide (val < min)) (by simp)
    (by simpa using fun _ _ => UInt64.le_of_lt)
    (by simpa using fun _ _ _ h h' => UInt64.le_trans h' h) hne
  refine ⟨h.1, fun w hw => ?_⟩
  have hw := h.2 w hw
  simp only [decide_eq_false_iff_not, UInt64.not_lt] at hw
  exact hw

/-! ## Zeros -/

namespace SimdMemory

variable {β : Type} [DecidableEq β]

/-- Vectors of 32 bytes, then bytes. -/
def memzeroSimdOptimized (ptr : Ptr β) (len : ℕ) (mem : Memory β) : Memory β :=
  let chunks := len / 32
  let zeroed := (List.range chunks).foldl
    (fun mem i => mem.store (ptr.add (i * 32)) (List.replicate 32 0)) mem
  (List.range (len % 32)).foldl (fun mem i => mem.store (ptr.add (chunks * 32 + i)) [0]) zeroed

theorem foldl_store (width : ℕ) (ptr : Ptr β) (count : ℕ) (mem : Memory β) :
    (List.range count).foldl (fun mem i => mem.store (ptr.add (i * width)) (List.replicate width 0)) mem =
      mem.fill ptr (count * width) 0 := by
  induction count with
  | zero => rw [Nat.zero_mul, Memory.fill_zero]; rfl
  | succ count ih =>
    rw [List.range_succ, List.foldl_append, ih, List.foldl_cons, List.foldl_nil, Memory.store_replicate,
      Memory.fill_fill, Nat.succ_mul]

/-- **The loops zero the range**, and nothing else. -/
theorem memzeroSimdOptimized_eq (ptr : Ptr β) (len : ℕ) (mem : Memory β) :
    memzeroSimdOptimized ptr len mem = mem.fill ptr len 0 := by
  have hrest := foldl_store 1 (ptr.add (len / 32 * 32)) (len % 32) (mem.fill ptr (len / 32 * 32) 0)
  simp only [Nat.mul_one, List.replicate_one, Ptr.add_add] at hrest
  rw [memzeroSimdOptimized, foldl_store]
  simp only [hrest]
  rw [Memory.fill_fill, Nat.div_add_mod']

end SimdMemory

end PumpTrade
