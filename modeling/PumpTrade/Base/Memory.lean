import Mathlib.Data.Nat.Notation
import Mathlib.Logic.Basic

/-!
# Memory

A memory is made of blocks, and a byte of it is found by its block and its offset in the block; a
flat memory has one block. Code that reads and writes through pointers changes the memory, and which
bytes it reads and writes is recorded.

* `Memory.copy`: the memory after a copy, and `Memory.copy_copy`: one copy after another;
* `Memory.fill`: the memory after one byte is written all over a range;
* `Memory.Agree`: two ranges hold the same bytes;
* `Machine.move`: read a word or a vector, and write it elsewhere;
* `Machine.Copies`: what was read and written and what the memory is now are those of one copy;
* **`Machine.Copies.trans`**, `Machine.copies_chunks`: copies of parts are a copy of the whole;
* `Machine.Exceeds`, **`Machine.Copies.exceeds_iff`**: copies that go beyond the bytes of a block;
* `Machine.Delivers`, **`Machine.Delivers.trans`**: copies that move more than they have to.
-/

namespace Base

/-! ## Pointers -/

/-- The place of a byte. -/
structure Ptr (β : Type) where
  block : β
  offset : ℕ
  deriving DecidableEq, Repr

namespace Ptr

variable {β : Type}

/-- The pointer `n` bytes on. -/
def add (p : Ptr β) (n : ℕ) : Ptr β := { p with offset := p.offset + n }

/-- The pointer is to one of the `n` bytes from `p` on. -/
def Within (q p : Ptr β) (n : ℕ) : Prop := q.block = p.block ∧ p.offset ≤ q.offset ∧ q.offset < p.offset + n

instance [DecidableEq β] (q p : Ptr β) (n : ℕ) : Decidable (q.Within p n) := inferInstanceAs (Decidable (_ ∧ _))

/-- The `n` bytes from `p` on are none of the `n` bytes from `q` on. -/
def Apart (p q : Ptr β) (n : ℕ) : Prop := p.block = q.block → p.offset + n ≤ q.offset ∨ q.offset + n ≤ p.offset

instance [DecidableEq β] (p q : Ptr β) (n : ℕ) : Decidable (Apart p q n) := inferInstanceAs (Decidable (_ → _))

@[simp] theorem block_add (p : Ptr β) (n : ℕ) : (p.add n).block = p.block := rfl

@[simp] theorem offset_add (p : Ptr β) (n : ℕ) : (p.add n).offset = p.offset + n := rfl

@[simp] theorem add_zero (p : Ptr β) : p.add 0 = p := rfl

theorem add_add (p : Ptr β) (m n : ℕ) : (p.add m).add n = p.add (m + n) := by
  simp only [add, Nat.add_assoc]

theorem within_add {p : Ptr β} {i n : ℕ} (h : i < n) : (p.add i).Within p n :=
  ⟨rfl, Nat.le_add_right _ _, Nat.add_lt_add_left h _⟩

theorem Within.exists_add {q p : Ptr β} {n : ℕ} (h : q.Within p n) : ∃ i < n, q = p.add i := by
  obtain ⟨block, offset⟩ := q
  obtain ⟨rfl, hle, hlt⟩ := h
  simp only at hle hlt
  exact ⟨offset - p.offset, by omega, by simp only [add]; congr 1; omega⟩

theorem within_add_iff {q p : Ptr β} {m n : ℕ} :
    q.Within p (m + n) ↔ q.Within p m ∨ q.Within (p.add m) n := by
  simp only [Within, block_add, offset_add]
  constructor
  · rintro ⟨hblock, hle, hlt⟩
    by_cases hfirst : q.offset < p.offset + m
    · exact Or.inl ⟨hblock, hle, hfirst⟩
    · exact Or.inr ⟨hblock, by omega, by omega⟩
  · rintro (⟨hblock, hle, hlt⟩ | ⟨hblock, hle, hlt⟩)
    · exact ⟨hblock, hle, by omega⟩
    · exact ⟨hblock, by omega, by omega⟩

theorem not_within_zero (q p : Ptr β) : ¬ q.Within p 0 := by
  rintro ⟨-, hle, hlt⟩
  omega

theorem Apart.mono {p q : Ptr β} {m n : ℕ} (h : Apart p q n) (hmn : m ≤ n) : Apart p q m := by
  intro hblock
  rcases h hblock with hle | hle
  · exact Or.inl (by omega)
  · exact Or.inr (by omega)

theorem Apart.add {p q : Ptr β} {m n : ℕ} (h : Apart p q (m + n)) : Apart (p.add m) (q.add m) n := by
  intro hblock
  rcases h hblock with hle | hle
  · exact Or.inl (by simp only [offset_add]; omega)
  · exact Or.inr (by simp only [offset_add]; omega)

theorem Apart.not_within {p q : Ptr β} {n i : ℕ} (h : Apart p q n) (hi : i < n) : ¬ (q.add i).Within p n := by
  rintro ⟨hblock, hle, hlt⟩
  simp only [block_add, offset_add] at hblock hle hlt
  rcases h hblock.symm with hapart | hapart
  · omega
  · omega

end Ptr

/-! ## Copies -/

/-- The bytes of all blocks. -/
abbrev Memory (β : Type) : Type := Ptr β → UInt8

namespace Memory

variable {β : Type} [DecidableEq β]

/-- The memory after the `n` bytes from `src` on are copied to `dst`. -/
def copy (mem : Memory β) (dst src : Ptr β) (n : ℕ) : Memory β :=
  fun q => if q.Within dst n then mem (src.add (q.offset - dst.offset)) else mem q

/-- The `n` bytes from `p` on. -/
def load (mem : Memory β) (p : Ptr β) (n : ℕ) : List UInt8 := (List.range n).map fun i => mem (p.add i)

/-- Write the bytes from a pointer on. -/
def store (mem : Memory β) (p : Ptr β) (bytes : List UInt8) : Memory β :=
  fun q => if q.Within p bytes.length then bytes.getD (q.offset - p.offset) 0 else mem q

omit [DecidableEq β] in
@[simp] theorem length_load (mem : Memory β) (p : Ptr β) (n : ℕ) : (mem.load p n).length = n := by
  rw [load, List.length_map, List.length_range]

theorem copy_add {mem : Memory β} {dst : Ptr β} {n i : ℕ} (h : i < n) (src : Ptr β) :
    mem.copy dst src n (dst.add i) = mem (src.add i) := by
  rw [copy, if_pos (Ptr.within_add h), Ptr.offset_add, Nat.add_sub_cancel_left]

theorem copy_of_not_within {mem : Memory β} {dst q : Ptr β} {n : ℕ} (h : ¬ q.Within dst n) (src : Ptr β) :
    mem.copy dst src n q = mem q := if_neg h

theorem copy_same (mem : Memory β) (block : β) (d : ℕ) (src : Ptr β) (n p : ℕ) :
    mem.copy ⟨block, d⟩ src n ⟨block, p⟩ =
      if d ≤ p ∧ p < d + n then mem (src.add (p - d)) else mem ⟨block, p⟩ := by
  unfold copy
  exact if_congr (and_iff_right rfl) rfl rfl

theorem copy_other {mem : Memory β} {dst q : Ptr β} (h : q.block ≠ dst.block) (src : Ptr β) (n : ℕ) :
    mem.copy dst src n q = mem q :=
  copy_of_not_within (fun hw => h hw.1) src

@[simp] theorem copy_zero (mem : Memory β) (dst src : Ptr β) : mem.copy dst src 0 = mem := by
  funext q
  exact copy_of_not_within (Ptr.not_within_zero q dst) src

theorem store_load (mem : Memory β) (dst src : Ptr β) (n : ℕ) :
    mem.store dst (mem.load src n) = mem.copy dst src n := by
  funext q
  rw [store, copy, length_load]
  by_cases h : q.Within dst n
  · obtain ⟨i, hi, rfl⟩ := h.exists_add
    rw [if_pos h, if_pos h, Ptr.offset_add, Nat.add_sub_cancel_left, load, List.getD_eq_getElem?_getD,
      List.getElem?_map, List.getElem?_range hi]
    rfl
  · rw [if_neg h, if_neg h]

/-- **One copy after another** is a copy of both parts, where no part is overwritten before it is
read. -/
theorem copy_copy {mem : Memory β} {dst src : Ptr β} {m n : ℕ} (h : Ptr.Apart dst src (m + n)) :
    (mem.copy dst src m).copy (dst.add m) (src.add m) n = mem.copy dst src (m + n) := by
  funext q
  by_cases hsecond : q.Within (dst.add m) n
  · obtain ⟨i, hi, rfl⟩ := hsecond.exists_add
    have hsource : ¬ ((src.add m).add i).Within dst m := by
      rw [Ptr.add_add]
      exact fun hw => h.not_within (Nat.add_lt_add_left hi m) (Ptr.within_add_iff.mpr (Or.inl hw))
    rw [copy_add hi, copy_of_not_within hsource, Ptr.add_add, Ptr.add_add,
      copy_add (Nat.add_lt_add_left hi m)]
  · rw [copy_of_not_within hsecond]
    by_cases hfirst : q.Within dst m
    · obtain ⟨i, hi, rfl⟩ := hfirst.exists_add
      rw [copy_add hi, copy_add (by omega)]
    · have hneither : ¬ q.Within dst (m + n) := by
        rw [Ptr.within_add_iff]
        exact not_or.mpr ⟨hfirst, hsecond⟩
      rw [copy_of_not_within hfirst, copy_of_not_within hneither]

end Memory

/-! ## Fills -/

namespace Memory

variable {β : Type} [DecidableEq β] {mem : Memory β} {p : Ptr β}

/-- The memory after the `n` bytes from `p` on are set to `b`. -/
def fill (mem : Memory β) (p : Ptr β) (n : ℕ) (b : UInt8) : Memory β :=
  fun q => if q.Within p n then b else mem q

theorem fill_zero (b : UInt8) : mem.fill p 0 b = mem := by
  funext q
  exact if_neg (Ptr.not_within_zero q p)

theorem fill_fill (m n : ℕ) (b : UInt8) : (mem.fill p m b).fill (p.add m) n b = mem.fill p (m + n) b := by
  funext q
  simp only [fill, Ptr.within_add_iff]
  by_cases hsecond : q.Within (p.add m) n
  · simp [hsecond]
  · simp [hsecond]

theorem store_replicate (n : ℕ) (b : UInt8) : mem.store p (List.replicate n b) = mem.fill p n b := by
  funext q
  rw [store, fill, List.length_replicate]
  by_cases h : q.Within p n
  · obtain ⟨i, hi, rfl⟩ := h.exists_add
    rw [if_pos h, if_pos h, Ptr.offset_add, Nat.add_sub_cancel_left, List.getD_eq_getElem?_getD,
      List.getElem?_replicate_of_lt hi, Option.getD_some]
  · rw [if_neg h, if_neg h]

end Memory

/-! ## Comparisons -/

namespace Memory

variable {β : Type} {mem : Memory β} {p q : Ptr β} {m n : ℕ}

/-- The `n` bytes from `p` on are those from `q` on. -/
def Agree (mem : Memory β) (p q : Ptr β) (n : ℕ) : Prop := ∀ i < n, mem (p.add i) = mem (q.add i)

instance : Decidable (mem.Agree p q n) := inferInstanceAs (Decidable (∀ i < n, _))

theorem agree_zero : mem.Agree p q 0 := by
  intro i hi
  cases hi

theorem Agree.mono (h : mem.Agree p q n) (hmn : m ≤ n) : mem.Agree p q m :=
  fun i hi => h i (Nat.lt_of_lt_of_le hi hmn)

theorem agree_add_iff : mem.Agree p q (m + n) ↔ mem.Agree p q m ∧ mem.Agree (p.add m) (q.add m) n := by
  constructor
  · intro h
    refine ⟨h.mono (Nat.le_add_right m n), fun i hi => ?_⟩
    rw [Ptr.add_add, Ptr.add_add]
    exact h (m + i) (Nat.add_lt_add_left hi m)
  · rintro ⟨hfirst, hrest⟩ i hi
    by_cases hm : i < m
    · exact hfirst i hm
    · have hbyte := hrest (i - m) (by omega)
      rwa [Ptr.add_add, Ptr.add_add, Nat.add_sub_cancel' (Nat.not_lt.mp hm)] at hbyte

theorem agree_one_iff : mem.Agree p q 1 ↔ mem p = mem q := by
  constructor
  · exact fun h => h 0 Nat.one_pos
  · intro h i hi
    obtain rfl : i = 0 := by omega
    exact h

theorem load_eq_iff : mem.load p n = mem.load q n ↔ mem.Agree p q n := by
  unfold load
  rw [List.map_inj_left]
  exact forall_congr' fun i => by rw [List.mem_range]

theorem agree_chunks (width chunks : ℕ) : mem.Agree p q (chunks * width) ↔
    ∀ i < chunks, mem.Agree (p.add (i * width)) (q.add (i * width)) width := by
  induction chunks with
  | zero =>
    rw [Nat.zero_mul]
    exact iff_of_true agree_zero fun i hi => absurd hi (Nat.not_lt_zero i)
  | succ chunks ih =>
    rw [Nat.succ_mul, agree_add_iff, ih]
    constructor
    · rintro ⟨hfirst, hlast⟩ i hi
      rcases Nat.lt_succ_iff_lt_or_eq.mp hi with hlt | rfl
      · exact hfirst i hlt
      · exact hlast
    · intro h
      exact ⟨fun i hi => h i (Nat.lt_succ_of_lt hi), h chunks (Nat.lt_succ_self chunks)⟩

end Memory

/-! ## Machines -/

/-- A memory, and the ranges that were read and written of it, each by its start and its length. -/
structure Machine (β : Type) where
  mem : Memory β
  reads : List (Ptr β × ℕ)
  writes : List (Ptr β × ℕ)

namespace Machine

variable {β : Type}

/-- A machine of which nothing has been read or written. -/
def start (mem : Memory β) : Machine β := ⟨mem, [], []⟩

/-- The byte was read. -/
def Reads (m : Machine β) (q : Ptr β) : Prop := ∃ r ∈ m.reads, q.Within r.1 r.2

/-- The byte was written. -/
def Writes (m : Machine β) (q : Ptr β) : Prop := ∃ r ∈ m.writes, q.Within r.1 r.2

instance [DecidableEq β] (m : Machine β) (q : Ptr β) : Decidable (m.Reads q) :=
  inferInstanceAs (Decidable (∃ r ∈ m.reads, _))

instance [DecidableEq β] (m : Machine β) (q : Ptr β) : Decidable (m.Writes q) :=
  inferInstanceAs (Decidable (∃ r ∈ m.writes, _))

theorem not_reads_start (mem : Memory β) (q : Ptr β) : ¬ (start mem).Reads q := by
  simp [Reads, start]

variable [DecidableEq β]

/-- Read `width` bytes from `src` on and write them from `dst` on. -/
def move (width : ℕ) (dst src : Ptr β) (m : Machine β) : Machine β :=
  { mem := m.mem.store dst (m.mem.load src width)
    reads := (src, width) :: m.reads
    writes := (dst, width) :: m.writes }

/-- From `m` to `m'` the `n` bytes from `src` on were read and, where they are not overwritten
meanwhile, copied to `dst`; no other byte was read, written or changed. -/
structure Copies (dst src : Ptr β) (n : ℕ) (m m' : Machine β) : Prop where
  reads : ∀ q, m'.Reads q ↔ m.Reads q ∨ q.Within src n
  writes : ∀ q, m'.Writes q ↔ m.Writes q ∨ q.Within dst n
  mem : Ptr.Apart dst src n → m'.mem = m.mem.copy dst src n

theorem copies_zero (dst src : Ptr β) (m : Machine β) : Copies dst src 0 m m where
  reads q := (or_iff_left (Ptr.not_within_zero q src)).symm
  writes q := (or_iff_left (Ptr.not_within_zero q dst)).symm
  mem _ := (Memory.copy_zero m.mem dst src).symm

theorem copies_move (width : ℕ) (dst src : Ptr β) (m : Machine β) :
    Copies dst src width m (m.move width dst src) where
  reads q := by
    simp only [Reads, move, List.mem_cons, exists_eq_or_imp]
    exact or_comm
  writes q := by
    simp only [Writes, move, List.mem_cons, exists_eq_or_imp]
    exact or_comm
  mem _ := Memory.store_load m.mem dst src width

/-- **Copies of two parts** are a copy of the whole. -/
theorem Copies.trans {dst src : Ptr β} {a b : ℕ} {m m₁ m₂ : Machine β} (h₁ : Copies dst src a m m₁)
    (h₂ : Copies (dst.add a) (src.add a) b m₁ m₂) : Copies dst src (a + b) m m₂ where
  reads q := by rw [h₂.reads, h₁.reads, Ptr.within_add_iff, or_assoc]
  writes q := by rw [h₂.writes, h₁.writes, Ptr.within_add_iff, or_assoc]
  mem h := by
    rw [h₂.mem h.add, h₁.mem (h.mono (Nat.le_add_right a b)), Memory.copy_copy h]

/-- `for _ in 0..chunks { body(offset); offset += width }`. -/
def forChunks (width : ℕ) (body : ℕ → Machine β → Machine β) : (chunks offset : ℕ) → Machine β → Machine β
  | 0, _, m => m
  | chunks + 1, offset, m => forChunks width body chunks (offset + width) (body offset m)

/-- **A loop that copies chunk by chunk** copies all of them. -/
theorem copies_chunks {width : ℕ} {body : ℕ → Machine β → Machine β} (dst src : Ptr β)
    (hbody : ∀ offset m, Copies (dst.add offset) (src.add offset) width m (body offset m)) (chunks offset : ℕ)
    (m : Machine β) :
    Copies (dst.add offset) (src.add offset) (chunks * width) m (forChunks width body chunks offset m) := by
  induction chunks generalizing offset m with
  | zero =>
    rw [Nat.zero_mul]
    exact copies_zero _ _ m
  | succ chunks ih =>
    have hrest := ih (offset + width) (body offset m)
    rw [← Ptr.add_add, ← Ptr.add_add] at hrest
    rw [Nat.succ_mul, Nat.add_comm]
    exact (hbody offset m).trans hrest

/-! ### The bytes of a block -/

section Exceeds

variable {block : β} {limit n : ℕ} {m m' : Machine β} {dst src : Ptr β}

/-- The machine has read or written a byte of the block at or beyond the limit. -/
def Exceeds (m : Machine β) (block : β) (limit : ℕ) : Prop :=
  ∃ r ∈ m.reads ++ m.writes, r.1.block = block ∧ 0 < r.2 ∧ limit < r.1.offset + r.2

instance (m : Machine β) (block : β) (limit : ℕ) : Decidable (m.Exceeds block limit) :=
  inferInstanceAs (Decidable (∃ r ∈ m.reads ++ m.writes, _))

omit [DecidableEq β] in
theorem exists_within_iff {p : Ptr β} : (∃ q : Ptr β, q.Within p n ∧ q.block = block ∧ limit ≤ q.offset) ↔
    p.block = block ∧ 0 < n ∧ limit < p.offset + n := by
  constructor
  · rintro ⟨q, ⟨hsame, hle, hlt⟩, hblock, hlimit⟩
    exact ⟨hsame ▸ hblock, by omega, by omega⟩
  · rintro ⟨hblock, hpos, hlimit⟩
    exact ⟨p.add (n - 1), Ptr.within_add (by omega), hblock, by rw [Ptr.offset_add]; omega⟩

omit [DecidableEq β] in
theorem exceeds_iff : m.Exceeds block limit ↔
    ∃ q : Ptr β, (m.Reads q ∨ m.Writes q) ∧ q.block = block ∧ limit ≤ q.offset := by
  unfold Exceeds Reads Writes
  simp only [← exists_within_iff, List.mem_append]
  constructor
  · rintro ⟨r, hr, q, hq, hbeyond⟩
    exact ⟨q, hr.imp (fun h => ⟨r, h, hq⟩) fun h => ⟨r, h, hq⟩, hbeyond⟩
  · rintro ⟨q, ⟨r, hr, hq⟩ | ⟨r, hr, hq⟩, hbeyond⟩
    · exact ⟨r, Or.inl hr, q, hq, hbeyond⟩
    · exact ⟨r, Or.inr hr, q, hq, hbeyond⟩

omit [DecidableEq β] in
theorem not_exceeds_start (mem : Memory β) : ¬ (start mem).Exceeds block limit := by
  simp [Exceeds, start]

/-- **A copy goes beyond the bytes of a block** where its source or its destination does. -/
theorem Copies.exceeds_iff (h : Copies dst src n m m') : m'.Exceeds block limit ↔
    m.Exceeds block limit ∨ (src.block = block ∧ 0 < n ∧ limit < src.offset + n) ∨
      (dst.block = block ∧ 0 < n ∧ limit < dst.offset + n) := by
  rw [Machine.exceeds_iff, Machine.exceeds_iff, ← exists_within_iff (p := src), ← exists_within_iff (p := dst)]
  simp only [h.reads, h.writes, ← exists_or, ← or_and_right]
  exact exists_congr fun q => and_congr_left fun _ => or_or_or_comm

end Exceeds

/-! ### Copies that move too much -/

/-- From `m` to `m'` the first `len` of the bytes from `src` on were copied to `dst`, where these are
apart; at most `n` bytes from `dst` on have changed. The bytes beyond `len` may be any. -/
structure Delivers (dst src : Ptr β) (n len : ℕ) (m m' : Machine β) : Prop where
  written : Ptr.Apart dst src len → ∀ i, i < n → i < len → m'.mem (dst.add i) = m.mem (src.add i)
  frame : ∀ q, ¬ q.Within dst n → m'.mem q = m.mem q

omit [DecidableEq β] in
theorem delivers_zero (dst src : Ptr β) (len : ℕ) (m : Machine β) : Delivers dst src 0 len m m where
  written _ i hi _ := absurd hi (Nat.not_lt_zero i)
  frame _ _ := rfl

theorem delivers_move (width len : ℕ) (dst src : Ptr β) (m : Machine β) :
    Delivers dst src width len m (m.move width dst src) where
  written _ i hi _ := by
    show m.mem.store dst (m.mem.load src width) (dst.add i) = _
    rw [Memory.store_load, Memory.copy_add hi]
  frame q hq := by
    show m.mem.store dst (m.mem.load src width) q = _
    rw [Memory.store_load, Memory.copy_of_not_within hq]

omit [DecidableEq β] in
/-- **One part after another**: a part may move too much only where nothing that counts follows. -/
theorem Delivers.trans {dst src : Ptr β} {a b len : ℕ} {m m₁ m₂ : Machine β} (h₁ : Delivers dst src a len m m₁)
    (h₂ : Delivers (dst.add a) (src.add a) b (len - a) m₁ m₂) : Delivers dst src (a + b) len m m₂ where
  written hapart i hi hlen := by
    by_cases hfirst : i < a
    · have hout : ¬ (dst.add i).Within (dst.add a) b := by
        rintro ⟨-, hle, -⟩
        simp only [Ptr.offset_add] at hle
        omega
      rw [h₂.frame _ hout, h₁.written hapart i hfirst hlen]
    · obtain ⟨j, rfl⟩ := Nat.exists_eq_add_of_le (Nat.not_lt.mp hfirst)
      have hshift : Ptr.Apart (dst.add a) (src.add a) (len - a) :=
        Ptr.Apart.add (by rwa [Nat.add_sub_cancel' (by omega)])
      have hsource : ¬ (src.add (a + j)).Within dst a := by
        refine fun hw => hapart.not_within hlen ?_
        rw [show len = a + (len - a) by omega, Ptr.within_add_iff]
        exact Or.inl hw
      rw [← Ptr.add_add, h₂.written hshift j (by omega) (by omega), Ptr.add_add, h₁.frame _ hsource]
  frame q hq := by
    rw [Ptr.within_add_iff, not_or] at hq
    rw [h₂.frame q hq.2, h₁.frame q hq.1]

omit [DecidableEq β] in
/-- **A loop of chunks** delivers them all. -/
theorem delivers_chunks {width : ℕ} {body : ℕ → Machine β → Machine β} (dst src : Ptr β)
    (hbody : ∀ offset len m, Delivers (dst.add offset) (src.add offset) width len m (body offset m))
    (chunks offset len : ℕ) (m : Machine β) :
    Delivers (dst.add offset) (src.add offset) (chunks * width) len m (forChunks width body chunks offset m) := by
  induction chunks generalizing offset len m with
  | zero =>
    rw [Nat.zero_mul]
    exact delivers_zero _ _ len m
  | succ chunks ih =>
    have hrest := ih (offset + width) (len - width) (body offset m)
    rw [← Ptr.add_add, ← Ptr.add_add] at hrest
    rw [Nat.succ_mul, Nat.add_comm]
    exact (hbody offset len m).trans hrest

end Machine

end Base
