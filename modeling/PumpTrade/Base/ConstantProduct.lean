import Mathlib.Algebra.Order.Floor.Div
import Mathlib.Algebra.Order.Group.Nat
import Mathlib.Order.Bounds.Basic
import Mathlib.Tactic.Linarith
import Mathlib.Tactic.Ring
import Mathlib.Tactic.Zify

/-!
# Constant-product exchange in integers

A pool holds `x` of the asset that is paid in and `y` of the asset that is paid out. For `d` it pays
the largest amount that does not lower the product of its reserves: rounded down (`out`), or, where
the product must strictly grow, rounded down once more (`outStrict`). For a wanted `b` it takes the
smallest amount that does not lower the product (`cost`).

* `le_out_iff`, `le_outStrict_iff`, `cost_le_iff`: which payments keep, respectively raise, the
  product;
* `out_lt`, `product_le_out`, `out_mono`; `outStrict_lt`, `product_lt_outStrict`;
* **`isGreatest_out`**, **`isLeast_cost`**, **`isGreatest_outStrict`**: they are the best for either
  side, among all integers;
* **`cost_le_iff_le_out`**: paying and asking are adjoint;
* **`out_cost`**: what the pool pays for the cost of an amount, and `surplus_eq_zero`: in a pool with
  more of the asset that is paid in, just that amount;
* **`sum_out_le`**: payments of a run that never lowered the product come to at most the single
  payment for the whole amount;
* **`round_trip_le`**: selling back what was bought returns at most what was paid.
-/

namespace Base.ConstantProduct

/-- The largest payment that keeps the product. -/
def out (x y d : ℕ) : ℕ := y * d / (x + d)

/-- The largest payment that raises the product. -/
def outStrict (x y d : ℕ) : ℕ := y - (x * y / (x + d) + 1)

/-- The smallest amount in for `b` out that keeps the product. -/
def cost (x y b : ℕ) : ℕ := x * b ⌈/⌉ (y - b)

/-- What the rounding of the cost of `b` is worth: the part that is rounded up, over the reserve
after the payment. -/
def surplus (x y b : ℕ) : ℕ := (y - b - x * b % (y - b)) % (y - b) / (x * y ⌈/⌉ (y - b))

/-! ## Keeping the product -/

theorem le_out_iff {x y d b : ℕ} (h : 0 < x + d) (hb : b ≤ y) :
    b ≤ out x y d ↔ x * y ≤ (x + d) * (y - b) := by
  obtain ⟨r, rfl⟩ := Nat.exists_eq_add_of_le hb
  rw [out, Nat.le_div_iff_mul_le h, Nat.add_sub_cancel_left]
  have e1 : b * (x + d) = x * b + b * d := by ring
  have e2 : (b + r) * d = b * d + r * d := by ring
  have e3 : x * (b + r) = x * b + x * r := by ring
  have e4 : (x + d) * r = x * r + r * d := by ring
  omega

theorem out_lt {x y : ℕ} (hx : 0 < x) (hy : 0 < y) (d : ℕ) : out x y d < y := by
  apply Nat.div_lt_of_lt_mul
  have : (x + d) * y = x * y + y * d := by ring
  have := Nat.mul_pos hx hy
  omega

theorem out_le (x y d : ℕ) : out x y d ≤ y := by
  apply Nat.div_le_of_le_mul
  rw [Nat.mul_comm (x + d) y]
  exact Nat.mul_le_mul_left y (Nat.le_add_left d x)

/-- **The product never decreases.** -/
theorem product_le_out {x : ℕ} (hx : 0 < x) (y d : ℕ) : x * y ≤ (x + d) * (y - out x y d) :=
  (le_out_iff (Nat.add_pos_left hx d) (out_le x y d)).mp le_rfl

theorem out_mono {x : ℕ} (hx : 0 < x) (y : ℕ) {d d' : ℕ} (h : d ≤ d') : out x y d ≤ out x y d' := by
  have hle := out_le x y d
  rw [le_out_iff (Nat.add_pos_left hx d') hle]
  calc x * y ≤ (x + d) * (y - out x y d) := product_le_out hx y d
    _ ≤ (x + d') * (y - out x y d) := Nat.mul_le_mul_right _ (Nat.add_le_add_left h x)

/-- **Splitting a payment never helps.** If `e` has come in and `b` has gone out, in any number of
steps that never lowered the product, then `b` is at most the single payment for any `d ≥ e`. -/
theorem sum_out_le {x y e b d : ℕ} (hx : 0 < x) (hb : b ≤ y) (hprod : x * y ≤ (x + e) * (y - b))
    (hd : e ≤ d) : b ≤ out x y d :=
  ((le_out_iff (Nat.add_pos_left hx e) hb).mpr hprod).trans (out_mono hx y hd)

/-! ## Asking for an amount -/

theorem cost_le_iff {x y b d : ℕ} (hb : b < y) : cost x y b ≤ d ↔ x * y ≤ (x + d) * (y - b) := by
  obtain ⟨r, rfl⟩ := Nat.exists_eq_add_of_le hb.le
  rw [cost, Nat.add_sub_cancel_left, ceilDiv_le_iff_le_smul (by omega), smul_eq_mul]
  have e1 : x * (b + r) = x * b + x * r := by ring
  have e2 : (x + d) * r = x * r + r * d := by ring
  omega

/-- **Paying and asking are adjoint**: `d` is enough for `b` exactly when the pool pays `b` for
it. -/
theorem cost_le_iff_le_out {x y b d : ℕ} (hx : 0 < x) (hb : b < y) : cost x y b ≤ d ↔ b ≤ out x y d := by
  rw [cost_le_iff hb, le_out_iff (Nat.add_pos_left hx d) hb.le]

theorem cost_out_le {x y : ℕ} (hx : 0 < x) (hy : 0 < y) (d : ℕ) : cost x y (out x y d) ≤ d :=
  (cost_le_iff_le_out hx (out_lt hx hy d)).mpr le_rfl

/-! ## What the cost is paid with -/

theorem mul_ceilDiv {d : ℕ} (hd : 0 < d) (a : ℕ) : d * (a ⌈/⌉ d) = a + (d - a % d) % d := by
  have hmod := Nat.mod_lt a hd
  have hdiv := Nat.div_add_mod a d
  rw [Nat.ceilDiv_eq_add_pred_div]
  rcases Nat.eq_zero_or_pos (a % d) with hzero | hpos
  · have hquotient : (a + d - 1) / d = a / d :=
      Nat.div_eq_of_lt_le (by rw [Nat.mul_comm]; omega) (by rw [Nat.succ_mul, Nat.mul_comm]; omega)
    rw [hquotient, hzero, Nat.sub_zero, Nat.mod_self]
    omega
  · have hquotient : (a + d - 1) / d = a / d + 1 :=
      Nat.div_eq_of_lt_le (by rw [Nat.succ_mul, Nat.mul_comm]; omega)
        (by rw [Nat.succ_mul, Nat.succ_mul, Nat.mul_comm]; omega)
    rw [hquotient, Nat.mul_succ, Nat.mod_eq_of_lt (by omega)]
    omega

/-- **The pool pays the amount that was asked for and the surplus.** -/
theorem out_cost {x y b : ℕ} (hx : 0 < x) (hb : b < y) : out x y (cost x y b) = b + surplus x y b := by
  obtain ⟨r, rfl⟩ := Nat.exists_eq_add_of_le hb.le
  have hr : 0 < r := by omega
  unfold out cost surplus
  rw [Nat.add_sub_cancel_left]
  have hrounded := mul_ceilDiv hr (x * b)
  have hafter : x * (b + r) ⌈/⌉ r = x + (x * b ⌈/⌉ r) := by
    rw [Nat.mul_add, Nat.ceilDiv_eq_add_pred_div, Nat.ceilDiv_eq_add_pred_div,
      show x * b + x * r + r - 1 = x * b + r - 1 + x * r by omega, Nat.add_mul_div_right _ _ hr, Nat.add_comm]
  have hpaid : (b + r) * (x * b ⌈/⌉ r) = (r - x * b % r) % r + b * (x + (x * b ⌈/⌉ r)) := by
    rw [Nat.add_mul, hrounded]
    ring
  rw [hafter, hpaid, Nat.add_mul_div_right _ _ (Nat.add_pos_left hx _), Nat.add_comm]

/-- A pool with at least as much of the one asset as it keeps of the other pays no surplus. -/
theorem surplus_eq_zero {x y b : ℕ} (hb : b < y) (h : y ≤ x + b) : surplus x y b = 0 := by
  obtain ⟨r, rfl⟩ := Nat.exists_eq_add_of_le hb.le
  have hr : 0 < r := by omega
  unfold surplus
  rw [Nat.add_sub_cancel_left, Nat.div_eq_zero_iff]
  refine Or.inr ?_
  calc (r - x * b % r) % r < r := Nat.mod_lt _ hr
    _ ≤ x := by omega
    _ ≤ x * (b + r) ⌈/⌉ r := by
      have hle : x * r ≤ x * (b + r) := Nat.mul_le_mul_left x (Nat.le_add_left r b)
      rw [Nat.ceilDiv_eq_add_pred_div, Nat.le_div_iff_mul_le hr]
      omega

/-! ## The best among all integers -/

theorem isGreatest_out {x y : ℕ} (hx : 0 < x) (hy : 0 < y) (d : ℕ) :
    IsGreatest {b : ℤ | (x : ℤ) * y ≤ (x + d) * (y - b)} (out x y d) := by
  constructor
  · have hprod := product_le_out hx y d
    zify [out_le x y d] at hprod
    exact hprod
  · intro b hb
    have hxd : (0 : ℤ) < x + d := by omega
    have hprod : (x : ℤ) * y ≤ (x + d) * (y - b) := hb
    have hpos : (0 : ℤ) < x * y := mul_pos (by omega) (by omega)
    have hby : b < y := by
      by_contra hle
      have := mul_nonpos_of_nonneg_of_nonpos hxd.le (by omega : (y : ℤ) - b ≤ 0)
      omega
    rcases lt_or_ge b 0 with hneg | hnonneg
    · exact hneg.le.trans (Int.natCast_nonneg _)
    · lift b to ℕ using hnonneg
      have hle : b ≤ y := by omega
      refine Int.ofNat_le.mpr ((le_out_iff (Nat.add_pos_left hx d) hle).mpr ?_)
      zify [hle]
      exact hprod

theorem isLeast_cost {y b : ℕ} (x : ℕ) (hb : b < y) :
    IsLeast {d : ℤ | (x : ℤ) * y ≤ (x + d) * (y - b)} (cost x y b) := by
  constructor
  · have hprod := (cost_le_iff (x := x) hb).mp le_rfl
    zify [hb.le] at hprod
    exact hprod
  · intro d hd
    have hprod : (x : ℤ) * y ≤ (x + d) * (y - b) := hd
    have hyb : (0 : ℤ) < y - b := by omega
    rcases lt_or_ge d 0 with hneg | hnonneg
    · have hlt := mul_lt_mul_of_pos_right (by omega : (x : ℤ) + d < x) hyb
      have hle := mul_le_mul_of_nonneg_left (by omega : (y : ℤ) - b ≤ y) (Int.natCast_nonneg x)
      omega
    · lift d to ℕ using hnonneg
      refine Int.ofNat_le.mpr ((cost_le_iff hb).mpr ?_)
      zify [hb.le]
      exact hprod

/-! ## Raising the product -/

theorem floor_lt {x y d : ℕ} (hy : 0 < y) (hd : 0 < d) : x * y / (x + d) < y := by
  rw [Nat.div_lt_iff_lt_mul (by omega)]
  have : y * (x + d) = x * y + y * d := by ring
  have := Nat.mul_pos hy hd
  omega

theorem outStrict_lt {y : ℕ} (hy : 0 < y) (x d : ℕ) : outStrict x y d < y :=
  Nat.sub_lt hy (Nat.succ_pos _)

theorem le_outStrict_iff {x y d b : ℕ} (hy : 0 < y) (hd : 0 < d) (hb : b ≤ y) :
    b ≤ outStrict x y d ↔ x * y < (x + d) * (y - b) := by
  have hfl := floor_lt (x := x) hy hd
  rw [Nat.mul_comm (x + d), ← Nat.div_lt_iff_lt_mul (by omega : 0 < x + d), outStrict]
  generalize x * y / (x + d) = q at *
  omega

/-- **The product grows.** -/
theorem product_lt_outStrict {y d : ℕ} (hy : 0 < y) (hd : 0 < d) (x : ℕ) {s : ℕ}
    (hs : s ≤ outStrict x y d) : x * y < (x + d) * (y - s) :=
  (le_outStrict_iff hy hd (hs.trans (outStrict_lt hy x d).le)).mp hs

/-- **A linear price suffices.** Whoever pays more than the rest of the pool charges for `m` buys
any `b` of at most `m`. -/
theorem le_outStrict_of_lt {x y d m b : ℕ} (hd : 0 < d) (hb : b ≤ m) (hm : m < y)
    (h : m * x < d * (y - m)) : b ≤ outStrict x y d := by
  obtain ⟨r, rfl⟩ := Nat.exists_eq_add_of_le hm.le
  rw [Nat.add_sub_cancel_left] at h
  rw [le_outStrict_iff (by omega) hd (by omega)]
  calc x * (m + r) = m * x + x * r := by ring
    _ < d * r + x * r := Nat.add_lt_add_right h _
    _ = (x + d) * r := by ring
    _ ≤ (x + d) * (m + r - b) := Nat.mul_le_mul_left _ (by omega)

theorem isGreatest_outStrict {y d : ℕ} (hy : 0 < y) (hd : 0 < d) (x : ℕ) :
    IsGreatest {b : ℤ | (x : ℤ) * y < (x + d) * (y - b)} (outStrict x y d) := by
  have hle := (outStrict_lt hy x d).le
  constructor
  · have hprod := (le_outStrict_iff hy hd hle).mp le_rfl
    zify [hle] at hprod
    exact hprod
  · intro b hb
    have hprod : (x : ℤ) * y < (x + d) * (y - b) := hb
    have hby : b < y := by
      by_contra hge
      have hneg := mul_nonpos_of_nonneg_of_nonpos (by omega : (0 : ℤ) ≤ x + d) (by omega : (y : ℤ) - b ≤ 0)
      have hpos := mul_nonneg (Int.natCast_nonneg x) (Int.natCast_nonneg y)
      omega
    rcases lt_or_ge b 0 with hneg | hnonneg
    · exact hneg.le.trans (Int.natCast_nonneg _)
    · lift b to ℕ using hnonneg
      have hb' : b ≤ y := by omega
      refine Int.ofNat_le.mpr ((le_outStrict_iff hy hd hb').mpr ?_)
      zify [hb']
      exact hprod

/-- **A round trip never profits.** Selling `s` back to the pool that just paid it for `d` returns
at most `d`. -/
theorem round_trip_le {x y d s : ℕ} (hs : s ≤ y) (hprod : x * y ≤ (x + d) * (y - s)) :
    out (y - s) (x + d) s ≤ d := by
  obtain ⟨r, rfl⟩ := Nat.exists_eq_add_of_le hs
  rw [Nat.add_sub_cancel_left] at hprod ⊢
  unfold out
  apply Nat.div_le_of_le_mul
  have e1 : x * (s + r) = x * s + x * r := by ring
  have e2 : (x + d) * r = x * r + d * r := by ring
  have e3 : (x + d) * s = x * s + d * s := by ring
  have e4 : (r + s) * d = d * r + d * s := by ring
  omega

/-! ## Runs -/

/-- **No run extracts value.** If the product did not go down and one reserve is back where it was,
then the other is at least what it was. -/
theorem other_reserve_le {x y y' : ℕ} (hx : 0 < x) (h : x * y ≤ x * y') : y ≤ y' :=
  Nat.le_of_mul_le_mul_left h hx

end Base.ConstantProduct
