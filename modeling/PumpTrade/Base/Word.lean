import Mathlib.Tactic.Ring
import PumpTrade.Base.Outcome

/-!
# Arithmetic of machine words

The operators of a language whose overflow checks depend on the build: with `checks` an operation
that does not fit its width panics, without it wraps. Words are naturals and the width is an
argument; `UInt64` values enter by `toNat` and a narrowing cast leaves by `UInt64.ofNat`.

* `add`, `sub`, `mul`, `div` and their exact forms (`add_eq`, `sub_eq`, `mul_eq`, `div_eq`);
* `add_checked`, `sub_checked`, `mul_checked`, `div_ret`: where the checked build returns, and what;
* `Narrows`: a wide computation returns a value that a narrowing cast keeps;
* `checkedAdd`, `checkedMul`, `checkedDiv`: the operations that return no value where those panic;
* the same on `UInt64` (`add64`, `sub64`, `mul64`);
* the bounds for products of two `u64` values in a `u128` (`mul_lt_two_pow_128`,
  `mul_add_lt_two_pow_128`).
-/

namespace Base.Word

/-- `n` at width `w`: exact where it fits, a panic or the wrapped value where it does not. -/
def fit (checks : Bool) (w n : ℕ) : Outcome ℕ :=
  if n < 2 ^ w then .ret n else if checks then .panic "arithmetic overflow" else .ret (n % 2 ^ w)

/-- Addition in words of `w` bits. -/
def add (checks : Bool) (w a b : ℕ) : Outcome ℕ := fit checks w (a + b)

/-- Multiplication in words of `w` bits. -/
def mul (checks : Bool) (w a b : ℕ) : Outcome ℕ := fit checks w (a * b)

/-- Subtraction in words of `w` bits. -/
def sub (checks : Bool) (w a b : ℕ) : Outcome ℕ :=
  if b ≤ a then .ret (a - b)
  else if checks then .panic "attempt to subtract with overflow" else .ret (2 ^ w + a - b)

/-- Division panics on a zero divisor in every build. -/
def div (a b : ℕ) : Outcome ℕ :=
  if b = 0 then .panic "attempt to divide by zero" else .ret (a / b)

/-- `checked_add` and `checked_mul`: no value where the result does not fit. -/
def checkedAdd (w a b : ℕ) : Option ℕ := if a + b < 2 ^ w then some (a + b) else none

/-- `checked_mul`: no value where the product does not fit. -/
def checkedMul (w a b : ℕ) : Option ℕ := if a * b < 2 ^ w then some (a * b) else none

/-- `checked_div`: no value where the divisor is zero. -/
def checkedDiv (a b : ℕ) : Option ℕ := if b = 0 then none else some (a / b)

theorem add_eq {w a b : ℕ} (h : a + b < 2 ^ w) (checks : Bool) : add checks w a b = .ret (a + b) :=
  if_pos h

theorem mul_eq {w a b : ℕ} (h : a * b < 2 ^ w) (checks : Bool) : mul checks w a b = .ret (a * b) :=
  if_pos h

theorem sub_eq {a b : ℕ} (h : b ≤ a) (checks : Bool) (w : ℕ) : sub checks w a b = .ret (a - b) :=
  if_pos h

theorem div_eq {b : ℕ} (h : 0 < b) (a : ℕ) : div a b = .ret (a / b) :=
  if_neg (Nat.pos_iff_ne_zero.mp h)

theorem checkedAdd_eq {w a b : ℕ} (h : a + b < 2 ^ w) : checkedAdd w a b = some (a + b) := if_pos h

theorem checkedMul_eq {w a b : ℕ} (h : a * b < 2 ^ w) : checkedMul w a b = some (a * b) := if_pos h

theorem checkedDiv_eq {b : ℕ} (h : 0 < b) (a : ℕ) : checkedDiv a b = some (a / b) :=
  if_neg (Nat.pos_iff_ne_zero.mp h)

/-! ## The checked build -/

theorem fit_checked {w n r : ℕ} : fit true w n = .ret r ↔ n < 2 ^ w ∧ n = r := by
  by_cases h : n < 2 ^ w <;> simp [fit, h]

theorem add_checked {w a b r : ℕ} : add true w a b = .ret r ↔ a + b < 2 ^ w ∧ a + b = r := fit_checked

theorem mul_checked {w a b r : ℕ} : mul true w a b = .ret r ↔ a * b < 2 ^ w ∧ a * b = r := fit_checked

theorem sub_checked {w a b r : ℕ} : sub true w a b = .ret r ↔ b ≤ a ∧ a - b = r := by
  by_cases h : b ≤ a <;> simp [sub, h]

theorem div_ret {a b r : ℕ} : div a b = .ret r ↔ 0 < b ∧ a / b = r := by
  by_cases h : b = 0 <;> simp [div, h, Nat.pos_iff_ne_zero]

/-- A wide computation returns a value that a 64-bit word holds. -/
def Narrows (x : Outcome ℕ) : Prop := ∃ n, x = .ret n ∧ n < 2 ^ 64

/-! ## 64-bit words -/

/-- Addition of `u64`. -/
def add64 (checks : Bool) (a b : UInt64) : Outcome UInt64 :=
  UInt64.ofNat <$> add checks 64 a.toNat b.toNat

/-- Multiplication of `u64`. -/
def mul64 (checks : Bool) (a b : UInt64) : Outcome UInt64 :=
  UInt64.ofNat <$> mul checks 64 a.toNat b.toNat

/-- Subtraction of `u64`. -/
def sub64 (checks : Bool) (a b : UInt64) : Outcome UInt64 :=
  UInt64.ofNat <$> sub checks 64 a.toNat b.toNat

theorem toNat_ofNat {n : ℕ} (h : n < 2 ^ 64) : (UInt64.ofNat n).toNat = n :=
  UInt64.toNat_ofNat_of_lt' h

theorem ofNat_min (n : ℕ) (b : UInt64) :
    UInt64.ofNat (min n b.toNat) = if n < b.toNat then UInt64.ofNat n else b := by
  split_ifs with h
  · rw [Nat.min_eq_left h.le]
  · rw [Nat.min_eq_right (not_lt.mp h), UInt64.ofNat_toNat]

theorem min_ofNat {n : ℕ} (h : n < 2 ^ 64) (b : UInt64) :
    min (UInt64.ofNat n) b = UInt64.ofNat (min n b.toNat) := by
  have hle : UInt64.ofNat n ≤ b ↔ n ≤ b.toNat := by rw [UInt64.le_iff_toNat_le, toNat_ofNat h]
  change (if UInt64.ofNat n ≤ b then UInt64.ofNat n else b) = _
  by_cases hn : n ≤ b.toNat
  · rw [if_pos (hle.mpr hn), Nat.min_eq_left hn]
  · rw [if_neg (mt hle.mp hn), Nat.min_eq_right (Nat.le_of_not_le hn), UInt64.ofNat_toNat]

theorem add64_eq {a b : UInt64} (h : a.toNat + b.toNat < 2 ^ 64) (checks : Bool) :
    add64 checks a b = .ret (UInt64.ofNat (a.toNat + b.toNat)) := by
  rw [add64, add_eq h, Outcome.ret_map]

theorem sub64_eq {a b : UInt64} (h : b.toNat ≤ a.toNat) (checks : Bool) :
    sub64 checks a b = .ret (UInt64.ofNat (a.toNat - b.toNat)) := by
  rw [sub64, sub_eq h, Outcome.ret_map]

theorem pos_toNat {a : UInt64} (h : a ≠ 0) : 0 < a.toNat := by
  rw [Nat.pos_iff_ne_zero]
  intro h0
  exact h (UInt64.toNat_inj.mp (by rw [h0]; rfl))

theorem mul_lt_two_pow_128 {a b : ℕ} (ha : a < 2 ^ 64) (hb : b < 2 ^ 64) : a * b < 2 ^ 128 :=
  calc a * b < 2 ^ 64 * 2 ^ 64 := Nat.mul_lt_mul'' ha hb
    _ = 2 ^ 128 := by norm_num

theorem mul_add_lt_two_pow_128 {a b c : ℕ} (ha : a < 2 ^ 64) (hb : b < 2 ^ 64) (hc : c < 2 ^ 64) :
    a * b + c < 2 ^ 128 := by
  have hmul : a * b ≤ (2 ^ 64 - 1) * (2 ^ 64 - 1) := Nat.mul_le_mul (by omega) (by omega)
  omega

end Base.Word
