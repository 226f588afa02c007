import PumpTrade.Base.Word

/-!
# Fee and slippage arithmetic

The functions of `utils/calc/common.rs`. A `u128` is a natural, a `u64` a `UInt64`; `checks` says
whether the build checks for overflow.

* `ceilDiv`, `computeFee`: a fee in basis points, rounded up;
* `calculateWithSlippageBuy`, `calculateWithSlippageSell`: 64-bit products, which may overflow;
* `calculateWithSlippageBuy_ret`, `calculateWithSlippageSell_ret`: what they return where they
  return.
-/

namespace PumpTrade

open Base

variable (checks : Bool)

/-- Division rounded up. -/
def ceilDiv (a b : ℕ) : Outcome ℕ := do
  let sum ← Word.add checks 128 a b
  let dividend ← Word.sub checks 128 sum 1
  Word.div dividend b

/-- The fee on `amount`. -/
def computeFee (amount feeBasisPoints : ℕ) : Outcome ℕ := do
  let product ← Word.mul checks 128 amount feeBasisPoints
  ceilDiv checks product 10000

/-- `amount` raised by the slippage. -/
def calculateWithSlippageBuy (amount basisPoints : UInt64) : Outcome UInt64 := do
  let product ← Word.mul64 checks amount basisPoints
  Word.add64 checks amount (product / 10000)

/-- `amount` lowered by the slippage. -/
def calculateWithSlippageSell (amount basisPoints : UInt64) : Outcome UInt64 :=
  if amount ≤ basisPoints / 10000 then .ret 1
  else do
    let product ← Word.mul64 checks amount basisPoints
    Word.sub64 checks amount (product / 10000)

variable {checks}

theorem ceilDiv_eq {a b : ℕ} (hb : 0 < b) (h : a + b < 2 ^ 128) (checks : Bool) :
    ceilDiv checks a b = .ret ((a + b - 1) / b) := by
  rw [ceilDiv, Word.add_eq h, Outcome.ret_bind, Word.sub_eq (by omega), Outcome.ret_bind, Word.div_eq hb]

theorem computeFee_eq {amount feeBasisPoints : ℕ} (ha : amount < 2 ^ 64) (hf : feeBasisPoints ≤ 10000)
    (checks : Bool) :
    computeFee checks amount feeBasisPoints = .ret ((amount * feeBasisPoints + 9999) / 10000) := by
  have hprod : amount * feeBasisPoints < 2 ^ 64 * 2 ^ 63 := Nat.mul_lt_mul'' ha (by omega)
  rw [computeFee, Word.mul_eq (by omega), Outcome.ret_bind, ceilDiv_eq (by omega) (by omega)]
  rfl

theorem calculateWithSlippageBuy_zero (checks : Bool) (amount : UInt64) :
    calculateWithSlippageBuy checks amount 0 = .ret amount := by
  have hmul : Word.mul64 checks amount 0 = .ret 0 := by simp [Word.mul64, Word.mul, Word.fit]
  have hadd : Word.add64 checks amount (0 / 10000) = .ret amount := by
    rw [Word.add64_eq (by simpa using amount.toNat_lt)]
    simp
  rw [calculateWithSlippageBuy, hmul, Outcome.ret_bind, hadd]

/-! ## The slippage in words of 64 bits -/

/-- What the slippage comes to where the product wraps. -/
def slippageAmount (amount basisPoints : ℕ) : ℕ := amount * basisPoints % 2 ^ 64 / 10000

theorem slippageAmount_lt (amount basisPoints : ℕ) : slippageAmount amount basisPoints < 2 ^ 64 := by
  have h : amount * basisPoints % 2 ^ 64 < 2 ^ 64 := Nat.mod_lt _ (by norm_num)
  unfold slippageAmount
  omega

theorem slippageAmount_le (amount basisPoints : ℕ) : slippageAmount amount basisPoints ≤ 1844674407370955 := by
  have h : amount * basisPoints % 2 ^ 64 < 2 ^ 64 := Nat.mod_lt _ (by norm_num)
  unfold slippageAmount
  omega

theorem fit_ret {w n r : ℕ} (h : Word.fit checks w n = .ret r) : r = n % 2 ^ w := by
  unfold Word.fit at h
  split_ifs at h with hlt
  · rw [Nat.mod_eq_of_lt hlt]
    exact (Outcome.ret.inj h).symm
  · exact (Outcome.ret.inj h).symm

theorem mul64_ret {a b r : UInt64} (h : Word.mul64 checks a b = .ret r) :
    r.toNat = a.toNat * b.toNat % 2 ^ 64 := by
  obtain ⟨n, hn, rfl⟩ := Outcome.map_eq_ret.mp h
  rw [UInt64.toNat_ofNat', fit_ret hn, Nat.mod_mod]

theorem add64_ret {a b r : UInt64} (h : Word.add64 checks a b = .ret r) :
    r.toNat = (a.toNat + b.toNat) % 2 ^ 64 := by
  obtain ⟨n, hn, rfl⟩ := Outcome.map_eq_ret.mp h
  rw [UInt64.toNat_ofNat', fit_ret hn, Nat.mod_mod]

theorem sub64_ret {a b r : UInt64} (h : Word.sub64 checks a b = .ret r) :
    r.toNat = if b.toNat ≤ a.toNat then a.toNat - b.toNat else 2 ^ 64 + a.toNat - b.toNat := by
  have ha := a.toNat_lt
  have hb := b.toNat_lt
  obtain ⟨n, hn, rfl⟩ := Outcome.map_eq_ret.mp h
  unfold Word.sub at hn
  rw [UInt64.toNat_ofNat']
  split_ifs at hn ⊢ with hle
  · obtain rfl := Outcome.ret.inj hn
    omega
  · obtain rfl := Outcome.ret.inj hn
    omega

theorem slippage_toNat {a b product : UInt64} (h : Word.mul64 checks a b = .ret product) :
    (product / 10000).toNat = slippageAmount a.toNat b.toNat := by
  rw [UInt64.toNat_div, mul64_ret h]
  rfl

/-- **An amount raised by the slippage**, wherever a build returns one. -/
theorem calculateWithSlippageBuy_ret {amount basisPoints r : UInt64}
    (h : calculateWithSlippageBuy checks amount basisPoints = .ret r) :
    r.toNat = (amount.toNat + slippageAmount amount.toNat basisPoints.toNat) % 2 ^ 64 := by
  obtain ⟨product, hproduct, hsum⟩ := Outcome.bind_eq_ret.mp h
  rw [add64_ret hsum, slippage_toNat hproduct]

/-- **An amount lowered by the slippage**, wherever a build returns one. -/
theorem calculateWithSlippageSell_ret {amount basisPoints r : UInt64}
    (h : calculateWithSlippageSell checks amount basisPoints = .ret r) :
    r.toNat =
      if amount.toNat ≤ basisPoints.toNat / 10000 then 1
      else if slippageAmount amount.toNat basisPoints.toNat ≤ amount.toNat then
        amount.toNat - slippageAmount amount.toNat basisPoints.toNat
      else 2 ^ 64 + amount.toNat - slippageAmount amount.toNat basisPoints.toNat := by
  have hle : amount ≤ basisPoints / 10000 ↔ amount.toNat ≤ basisPoints.toNat / 10000 := by
    rw [UInt64.le_iff_toNat_le, UInt64.toNat_div]
    rfl
  unfold calculateWithSlippageSell at h
  by_cases hsmall : amount ≤ basisPoints / 10000
  · rw [if_pos hsmall] at h
    obtain rfl := Outcome.ret.inj h
    rw [if_pos (hle.mp hsmall)]
    rfl
  · rw [if_neg hsmall] at h
    obtain ⟨product, hproduct, hdiff⟩ := Outcome.bind_eq_ret.mp h
    rw [if_neg fun hn => hsmall (hle.mpr hn), sub64_ret hdiff, slippage_toNat hproduct]

end PumpTrade
