import Mathlib.Algebra.BigOperators.Group.List.Basic
import Mathlib.Algebra.BigOperators.Intervals
import Mathlib.Data.BitVec
import Mathlib.Data.List.GetD

/-!
# Bitmaps

A bitmap is a list of words of `w` bits; bit `b` is bit `b % w` of word `b / w`, and there is none
beyond the words.

* `bit`, `setBit`, `clearBit`, with what each leaves of the other bits;
* `firstSet`: the lowest bit of a word;
* `toNat_and_not_low`: clearing low bits rounds a word down;
* **`ones_eq`**: the bits that the words count are those of the bitmap; `ones_add_card`: the others.
-/

namespace Base.Bitmap

variable {w : ℕ}

/-- Word `i`, zero beyond the last one. -/
def word (m : List (BitVec w)) (i : ℕ) : BitVec w := m.getD i 0#w

/-- Bit `b` of all the words. -/
def bit (m : List (BitVec w)) (b : ℕ) : Bool := (word m (b / w)).getLsbD (b % w)

/-- The word with one bit set, at place `p`. -/
def mask (w p : ℕ) : BitVec w := 1#w <<< p

/-- The words with bit `b` set. -/
def setBit (m : List (BitVec w)) (b : ℕ) : List (BitVec w) :=
  m.set (b / w) (word m (b / w) ||| mask w (b % w))

/-- The words with bit `b` cleared. -/
def clearBit (m : List (BitVec w)) (b : ℕ) : List (BitVec w) :=
  m.set (b / w) (word m (b / w) &&& ~~~mask w (b % w))

/-- The number of bits that are set. -/
def ones (m : List (BitVec w)) : ℕ := (m.map fun x => x.cpop.toNat).sum

variable {m : List (BitVec w)} {b c i : ℕ}

@[simp] theorem length_setBit (m : List (BitVec w)) (b : ℕ) : (setBit m b).length = m.length :=
  List.length_set

@[simp] theorem length_clearBit (m : List (BitVec w)) (b : ℕ) : (clearBit m b).length = m.length :=
  List.length_set

theorem word_set_self (hi : i < m.length) (x : BitVec w) : word (m.set i x) i = x := by
  rw [word, List.getD_eq_getElem?_getD, List.getElem?_set_self hi, Option.getD_some]

theorem word_set_of_ne {j : ℕ} (h : i ≠ j) (x : BitVec w) : word (m.set i x) j = word m j := by
  rw [word, word, List.getD_eq_getElem?_getD, List.getD_eq_getElem?_getD, List.getElem?_set_ne h]

theorem lt_of_bit (h : bit m b = true) : b < m.length * w := by
  by_contra hle
  have hw : 0 < w := Nat.pos_of_ne_zero fun h0 => by
    subst h0
    simp [bit] at h
  have hword : word m (b / w) = 0#w := by
    rw [word, List.getD_eq_default]
    exact (Nat.le_div_iff_mul_le hw).mpr (Nat.le_of_not_lt hle)
  rw [bit, hword, BitVec.getLsbD_zero] at h
  cases h

theorem getLsbD_mask {p q : ℕ} (hp : p < w) : (mask w p).getLsbD q = decide (p = q) := by
  rw [mask, ← BitVec.twoPow_eq, BitVec.getLsbD_twoPow]
  simp [hp]

theorem eq_of_div_mod {w : ℕ} (hdiv : b / w = c / w) (hmod : b % w = c % w) : b = c := by
  rw [← Nat.div_add_mod b w, hdiv, hmod, Nat.div_add_mod]

theorem bit_set (hi : i < m.length) (x : BitVec w) (c : ℕ) :
    bit (m.set i x) c = if i = c / w then x.getLsbD (c % w) else bit m c := by
  split_ifs with h
  · subst h
    rw [bit, word_set_self hi]
  · rw [bit, word_set_of_ne h, bit]

theorem bit_setBit (hb : b < m.length * w) (c : ℕ) : bit (setBit m b) c = (decide (b = c) || bit m c) := by
  have hw : 0 < w := Nat.pos_of_ne_zero fun h0 => by simp [h0] at hb
  rw [setBit, bit_set ((Nat.div_lt_iff_lt_mul hw).mpr hb)]
  split_ifs with h
  · rw [BitVec.getLsbD_or, getLsbD_mask (Nat.mod_lt b hw), h, Bool.or_comm]
    have hiff : b % w = c % w ↔ b = c := ⟨eq_of_div_mod h, fun h => by rw [h]⟩
    simp only [hiff, bit]
  · have hne : b ≠ c := fun heq => h (by rw [heq])
    simp [hne]

theorem bit_clearBit (hb : b < m.length * w) (c : ℕ) : bit (clearBit m b) c = (!decide (b = c) && bit m c) := by
  have hw : 0 < w := Nat.pos_of_ne_zero fun h0 => by simp [h0] at hb
  rw [clearBit, bit_set ((Nat.div_lt_iff_lt_mul hw).mpr hb)]
  split_ifs with h
  · rw [BitVec.getLsbD_and, BitVec.getLsbD_not, getLsbD_mask (Nat.mod_lt b hw), h, Bool.and_comm]
    have hiff : b % w = c % w ↔ b = c := ⟨eq_of_div_mod h, fun h => by rw [h]⟩
    simp only [hiff, bit, Nat.mod_lt c hw, decide_true, Bool.true_and]
  · have hne : b ≠ c := fun heq => h (by rw [heq])
    simp [hne]

/-! ## The lowest bit of a word -/

/-- The lowest bit that is set in word `i`. -/
def firstSet (m : List (BitVec w)) (i : ℕ) : Option ℕ :=
  if word m i = 0#w then none else some (i * w + (word m i).ctz.toNat)

theorem ctz_toNat_lt {x : BitVec w} (h : x ≠ 0#w) : x.ctz.toNat < w := by
  have hlt := BitVec.ctz_lt_iff_ne_zero.mpr h
  rw [BitVec.lt_def] at hlt
  exact lt_of_lt_of_le hlt (by rw [BitVec.natCast_eq_ofNat, BitVec.toNat_ofNat]; exact Nat.mod_le _ _)

theorem div_of_place {p : ℕ} (hp : p < w) : (i * w + p) / w = i := by
  rw [Nat.mul_comm, Nat.mul_add_div (Nat.zero_lt_of_lt hp), Nat.div_eq_of_lt hp, Nat.add_zero]

theorem mod_of_place {p : ℕ} (hp : p < w) : (i * w + p) % w = p := by
  rw [Nat.mul_comm, Nat.mul_add_mod, Nat.mod_eq_of_lt hp]

theorem clearBit_of_place {p : ℕ} (hp : p < w) (m : List (BitVec w)) (i : ℕ) :
    clearBit m (i * w + p) = m.set i (word m i &&& ~~~mask w p) := by
  rw [clearBit, div_of_place hp, mod_of_place hp]

theorem bit_firstSet (h : word m i ≠ 0#w) : bit m (i * w + (word m i).ctz.toNat) = true := by
  have hlt := ctz_toNat_lt h
  rw [bit, div_of_place hlt, mod_of_place hlt]
  exact BitVec.getLsbD_true_ctz_of_ne_zero h

theorem firstSet_eq_none_iff : firstSet m i = none ↔ ∀ p < w, bit m (i * w + p) = false := by
  unfold firstSet
  constructor
  · intro h p hp
    have hzero : word m i = 0#w := by
      by_contra hne
      rw [if_neg hne] at h
      cases h
    rw [bit, div_of_place hp, hzero, BitVec.getLsbD_zero]
  · intro h
    by_cases hzero : word m i = 0#w
    · rw [if_pos hzero]
    · have hbit := bit_firstSet hzero
      rw [h _ (ctz_toNat_lt hzero)] at hbit
      cases hbit

theorem bit_of_firstSet (h : firstSet m i = some b) : bit m b = true := by
  unfold firstSet at h
  split_ifs at h with hzero
  rw [← Option.some.inj h]
  exact bit_firstSet hzero

/-! ## Low bits -/

theorem toNat_and_not_low {w k : ℕ} (x : BitVec w) :
    (x &&& ~~~BitVec.ofNat w (2 ^ k - 1)).toNat = x.toNat / 2 ^ k * 2 ^ k := by
  apply Nat.eq_of_testBit_eq
  intro i
  rw [BitVec.testBit_toNat, BitVec.getLsbD_and, BitVec.getLsbD_not, BitVec.getLsbD_ofNat,
    Nat.testBit_two_pow_sub_one, Nat.testBit_mul_two_pow, Nat.testBit_div_two_pow, BitVec.testBit_toNat]
  by_cases hw : i < w
  · by_cases hk : k ≤ i
    · simp [hw, hk, Nat.not_lt.mpr hk]
    · simp [hw, hk, Nat.not_le.mp hk]
  · simp only [hw, decide_false, Bool.false_and, Bool.and_false, Bool.false_eq, Bool.and_eq_false_imp,
      decide_eq_true_eq]
    intro hk
    rw [Nat.sub_add_cancel hk]
    exact BitVec.getLsbD_of_ge x i (Nat.le_of_not_lt hw)

/-! ## Counting -/

theorem cpopNatRec_eq_sum (x : BitVec w) (n : ℕ) :
    x.cpopNatRec n 0 = ∑ p ∈ Finset.range n, (x.getLsbD p).toNat := by
  induction n with
  | zero => rfl
  | succ n ih => rw [BitVec.cpopNatRec_succ, BitVec.cpopNatRec_eq, ih, Nat.zero_add, Finset.sum_range_succ]

/-- **The words count the bits of the bitmap.** -/
theorem ones_eq (hw : 0 < w) (m : List (BitVec w)) :
    ones m = ∑ b ∈ Finset.range (m.length * w), (bit m b).toNat := by
  induction m with
  | nil => simp [ones]
  | cons x m ih =>
    have hfirst : ∀ p ∈ Finset.range w, (bit (x :: m) p).toNat = (x.getLsbD p).toNat := fun p hp => by
      have hp := Finset.mem_range.mp hp
      rw [bit, Nat.div_eq_of_lt hp, Nat.mod_eq_of_lt hp]
      rfl
    have hrest : ∀ b ∈ Finset.range (m.length * w),
        (bit (x :: m) (w + b)).toNat = (bit m b).toNat := fun b _ => by
      rw [bit, Nat.add_div_left b hw, Nat.add_mod_left]
      rfl
    rw [List.length_cons, Nat.succ_mul, Nat.add_comm, Finset.sum_range_add, Finset.sum_congr rfl hfirst,
      Finset.sum_congr rfl hrest, ← ih, ← cpopNatRec_eq_sum, ← BitVec.toNat_cpop]
    rfl

theorem ones_add_card {n : ℕ} (hw : 0 < w) (hbits : ∀ b, bit m b = true → b < n) :
    ones m + ((Finset.range n).filter fun b => ¬ bit m b = true).card = n := by
  have hset : ones m = ((Finset.range n).filter fun b => bit m b = true).card := by
    have hnat : ∀ b, (bit m b).toNat = if bit m b = true then 1 else 0 := fun b => by
      cases bit m b <;> rfl
    rw [ones_eq hw, Finset.sum_congr rfl fun b _ => hnat b, ← Finset.card_filter]
    congr 1
    ext b
    simp only [Finset.mem_filter, Finset.mem_range, and_congr_left_iff]
    exact fun hb => iff_of_true (lt_of_bit hb) (hbits b hb)
  rw [hset, Finset.card_filter_add_card_filter_not, Finset.card_range]

end Base.Bitmap
