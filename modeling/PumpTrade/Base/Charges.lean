import Mathlib.Algebra.BigOperators.Group.List.Basic
import Mathlib.Algebra.Order.Floor.Div
import Mathlib.Tactic.Linarith
import Mathlib.Tactic.Ring

/-!
# Charges that are rounded up one by one

An amount is charged at several rates, each in parts of `n`, and each charge is rounded up on its
own.

* `charged`: what the charges come to;
* `charged_lt`: less than one unit for each rate above the exact charge;
* **`add_charged_lt`**: what is left of an amount whose charges are taken out, charged again,
  exceeds the amount by less than one unit for each rate;
* **`add_charged_le_iff`**: when `x` covers `q` and its own charges, by what the charges are rounded
  up.
-/

namespace Base.Charges

/-- The charges on `x`. -/
def charged (n : ℕ) (rates : List ℕ) (x : ℕ) : ℕ := (rates.map fun rate => x * rate ⌈/⌉ n).sum

variable {n : ℕ} {rates : List ℕ}

@[simp] theorem charged_nil (n x : ℕ) : charged n [] x = 0 := rfl

@[simp] theorem charged_cons (n rate : ℕ) (rates : List ℕ) (x : ℕ) :
    charged n (rate :: rates) x = (x * rate ⌈/⌉ n) + charged n rates x := by
  simp [charged]

theorem ceilDiv_lt (hn : 0 < n) (a : ℕ) : n * (a ⌈/⌉ n) < a + n := by
  rw [Nat.ceilDiv_eq_add_pred_div]
  have := Nat.mul_div_le (a + n - 1) n
  omega

/-- The charges are less than one unit for each rate above the exact charge. -/
theorem charged_lt (hn : 0 < n) (hrates : rates ≠ []) (x : ℕ) :
    n * charged n rates x < x * rates.sum + n * rates.length := by
  induction rates with
  | nil => exact absurd rfl hrates
  | cons rate rates ih =>
    have hlt := ceilDiv_lt hn (x * rate)
    have hrest : n * charged n rates x ≤ x * rates.sum + n * rates.length := by
      cases rates with
      | nil => simp
      | cons rate' rates => exact (ih (List.cons_ne_nil _ _)).le
    rw [List.sum_cons, charged_cons, List.length_cons, Nat.mul_add, Nat.mul_add, Nat.mul_add, Nat.mul_one]
    omega

/-- **The budget.** An amount `e` for which `e` with its exact charge is at most `q` comes, with its
charges rounded up, to less than one unit for each rate above `q`. -/
theorem add_charged_lt {e q : ℕ} (hn : 0 < n) (hrates : rates ≠ []) (h : e * (n + rates.sum) ≤ q * n) :
    e + charged n rates e < q + rates.length := by
  have hlt := charged_lt hn hrates e
  apply Nat.lt_of_mul_lt_mul_left (a := n)
  calc n * (e + charged n rates e) = n * e + n * charged n rates e := Nat.mul_add ..
    _ < n * e + (e * rates.sum + n * rates.length) := Nat.add_lt_add_left hlt _
    _ = e * (n + rates.sum) + n * rates.length := by ring
    _ ≤ q * n + n * rates.length := Nat.add_le_add_right h _
    _ = n * (q + rates.length) := by ring

/-! ## What the rounding adds -/

/-- What rounding up adds to the charges on `x`, in parts of `n`. -/
def rounding (n : ℕ) (rates : List ℕ) (x : ℕ) : ℕ :=
  (rates.map fun rate => n * (x * rate ⌈/⌉ n) - x * rate).sum

theorem mul_charged (hn : 0 < n) (rates : List ℕ) (x : ℕ) :
    n * charged n rates x = x * rates.sum + rounding n rates x := by
  induction rates with
  | nil => rfl
  | cons rate rates ih =>
    have hle : x * rate ≤ n * (x * rate ⌈/⌉ n) := le_smul_ceilDiv hn
    have hrounding : rounding n (rate :: rates) x =
        (n * (x * rate ⌈/⌉ n) - x * rate) + rounding n rates x := by simp [rounding]
    rw [charged_cons, List.sum_cons, hrounding, Nat.mul_add, Nat.mul_add, ih]
    omega

/-- **Covering an amount.** `x` covers `q` and its own charges exactly when what the whole rate
leaves of `x` covers `q` and the rounding. -/
theorem add_charged_le_iff (hn : 0 < n) (hrates : rates.sum ≤ n) (q x : ℕ) :
    q + charged n rates x ≤ x ↔ n * q + rounding n rates x ≤ (n - rates.sum) * x := by
  have hcharged := mul_charged hn rates x
  have hle := Nat.mul_le_mul_right x hrates
  rw [← Nat.mul_le_mul_left_iff hn, Nat.mul_add, hcharged, Nat.sub_mul, Nat.mul_comm x]
  omega

end Base.Charges
