import PumpTrade.Calc.Common

/-!
# When the slippage is exact

The slippage of an amount is a product of 64 bits that is divided by 10000. Where the product wraps
or the build panics, the amount is not the one in unbounded integers.

* `BuyScales`, `SellScales`: where a build returns an amount at all;
* **`calculateWithSlippageBuy_exact_iff`**: an amount is raised exactly where the product fits;
* **`calculateWithSlippageSell_exact_iff`**: it is lowered to at least 1 exactly where the product
  fits and no full slippage leaves zero.
-/

namespace PumpTrade

open Base

/-- The build returns an amount raised by the slippage. -/
def BuyScales (checks : Bool) (amount basisPoints : ℕ) : Prop :=
  checks = true → amount * basisPoints < 2 ^ 64 ∧ amount + amount * basisPoints / 10000 < 2 ^ 64

/-- The build returns an amount lowered by the slippage. -/
def SellScales (checks : Bool) (amount basisPoints : ℕ) : Prop :=
  checks = true → basisPoints / 10000 < amount →
    amount * basisPoints < 2 ^ 64 ∧ amount * basisPoints / 10000 ≤ amount

instance (checks : Bool) (amount basisPoints : ℕ) : Decidable (BuyScales checks amount basisPoints) :=
  inferInstanceAs (Decidable (_ → _))

instance (checks : Bool) (amount basisPoints : ℕ) : Decidable (SellScales checks amount basisPoints) :=
  inferInstanceAs (Decidable (_ → _))

variable {checks : Bool} {amount basisPoints : UInt64}

/-! ## Where an operation returns -/

theorem fit_returns {w n : ℕ} : (∃ r, Word.fit checks w n = .ret r) ↔ (checks = true → n < 2 ^ w) := by
  unfold Word.fit
  split_ifs with hfits hchecks
  · exact ⟨fun _ _ => hfits, fun _ => ⟨_, rfl⟩⟩
  · exact ⟨fun ⟨_, h⟩ => (nomatch h), fun h => absurd (h hchecks) hfits⟩
  · exact ⟨fun _ h => absurd h hchecks, fun _ => ⟨_, rfl⟩⟩

theorem map_returns {α β : Type} {x : Outcome α} (f : α → β) :
    (∃ b, f <$> x = .ret b) ↔ ∃ a, x = .ret a := by
  cases x with
  | ret a => simp
  | panic msg => simp

theorem mul64_returns {a b : UInt64} :
    (∃ r, Word.mul64 checks a b = .ret r) ↔ (checks = true → a.toNat * b.toNat < 2 ^ 64) :=
  (map_returns _).trans fit_returns

theorem add64_returns {a b : UInt64} :
    (∃ r, Word.add64 checks a b = .ret r) ↔ (checks = true → a.toNat + b.toNat < 2 ^ 64) :=
  (map_returns _).trans fit_returns

theorem sub64_returns {a b : UInt64} :
    (∃ r, Word.sub64 checks a b = .ret r) ↔ (checks = true → b.toNat ≤ a.toNat) := by
  refine (map_returns _).trans ?_
  unfold Word.sub
  split_ifs with hle hchecks
  · exact ⟨fun _ _ => hle, fun _ => ⟨_, rfl⟩⟩
  · exact ⟨fun ⟨_, h⟩ => (nomatch h), fun h => absurd (h hchecks) hle⟩
  · exact ⟨fun _ h => absurd h hchecks, fun _ => ⟨_, rfl⟩⟩

theorem slippageAmount_eq {a b : ℕ} (h : a * b < 2 ^ 64) : slippageAmount a b = a * b / 10000 := by
  rw [slippageAmount, Nat.mod_eq_of_lt h]

/-- **Where a build returns a raised amount.** -/
theorem calculateWithSlippageBuy_returns :
    (∃ r, calculateWithSlippageBuy checks amount basisPoints = .ret r) ↔
      BuyScales checks amount.toNat basisPoints.toNat := by
  constructor
  · rintro ⟨r, h⟩ hchecks
    obtain ⟨product, hproduct, hsum⟩ := Outcome.bind_eq_ret.mp h
    have hfits := mul64_returns.mp ⟨product, hproduct⟩ hchecks
    have hadd := add64_returns.mp ⟨r, hsum⟩ hchecks
    rw [slippage_toNat hproduct, slippageAmount_eq hfits] at hadd
    exact ⟨hfits, hadd⟩
  · intro h
    obtain ⟨product, hproduct⟩ := mul64_returns.mpr fun hchecks => (h hchecks).1
    obtain ⟨r, hsum⟩ : ∃ r, Word.add64 checks amount (product / 10000) = .ret r := by
      refine add64_returns.mpr fun hchecks => ?_
      rw [slippage_toNat hproduct, slippageAmount_eq (h hchecks).1]
      exact (h hchecks).2
    exact ⟨r, Outcome.bind_eq_ret.mpr ⟨product, hproduct, hsum⟩⟩

theorem le_slippage_iff : amount ≤ basisPoints / 10000 ↔ amount.toNat ≤ basisPoints.toNat / 10000 := by
  rw [UInt64.le_iff_toNat_le, UInt64.toNat_div]
  rfl

/-- **Where a build returns a lowered amount.** -/
theorem calculateWithSlippageSell_returns :
    (∃ r, calculateWithSlippageSell checks amount basisPoints = .ret r) ↔
      SellScales checks amount.toNat basisPoints.toNat := by
  unfold calculateWithSlippageSell
  by_cases hsmall : amount ≤ basisPoints / 10000
  · have hle := le_slippage_iff.mp hsmall
    rw [if_pos hsmall]
    exact ⟨fun _ _ hlt => absurd hle (by omega), fun _ => ⟨1, rfl⟩⟩
  have hlt : basisPoints.toNat / 10000 < amount.toNat := by
    have hnot := mt le_slippage_iff.mpr hsmall
    omega
  rw [if_neg hsmall]
  constructor
  · rintro ⟨r, h⟩ hchecks -
    obtain ⟨product, hproduct, hdiff⟩ := Outcome.bind_eq_ret.mp h
    have hfits := mul64_returns.mp ⟨product, hproduct⟩ hchecks
    have hsub := sub64_returns.mp ⟨r, hdiff⟩ hchecks
    rw [slippage_toNat hproduct, slippageAmount_eq hfits] at hsub
    exact ⟨hfits, hsub⟩
  · intro h
    obtain ⟨product, hproduct⟩ := mul64_returns.mpr fun hchecks => (h hchecks hlt).1
    obtain ⟨r, hdiff⟩ : ∃ r, Word.sub64 checks amount (product / 10000) = .ret r := by
      refine sub64_returns.mpr fun hchecks => ?_
      rw [slippage_toNat hproduct, slippageAmount_eq (h hchecks hlt).1]
      exact (h hchecks hlt).2
    exact ⟨r, Outcome.bind_eq_ret.mpr ⟨product, hproduct, hdiff⟩⟩

/-! ## Where an amount is exact -/

theorem eq_ret_ofNat {x : Outcome UInt64} {n : ℕ} (hreturns : ∃ r, x = .ret r)
    (hvalue : ∀ r, x = .ret r → r.toNat = n) : x = .ret (UInt64.ofNat n) := by
  obtain ⟨r, hr⟩ := hreturns
  rw [hr, ← hvalue r hr, UInt64.ofNat_toNat]

/-- **A raised amount is exact** exactly where the product fits. -/
theorem calculateWithSlippageBuy_exact_iff (checks : Bool)
    (hsum : amount.toNat + amount.toNat * basisPoints.toNat / 10000 < 2 ^ 64) :
    calculateWithSlippageBuy checks amount basisPoints =
        .ret (UInt64.ofNat (amount.toNat + amount.toNat * basisPoints.toNat / 10000)) ↔
      amount.toNat * basisPoints.toNat < 2 ^ 64 := by
  constructor
  · intro h
    by_contra hwraps
    have hvalue := calculateWithSlippageBuy_ret h
    rw [Word.toNat_ofNat hsum, slippageAmount] at hvalue
    generalize amount.toNat * basisPoints.toNat = product at hvalue hwraps hsum
    omega
  · intro hfits
    refine eq_ret_ofNat (calculateWithSlippageBuy_returns.mpr fun _ => ⟨hfits, hsum⟩) fun r hr => ?_
    rw [calculateWithSlippageBuy_ret hr, slippageAmount_eq hfits, Nat.mod_eq_of_lt hsum]

theorem slippage_le {a b : ℕ} (h : b ≤ 10000) : a * b / 10000 ≤ a := by
  have hle := Nat.mul_le_mul_left a h
  omega

theorem slippage_lt {a b : ℕ} (ha : 0 < a) (h : b < 10000) : a * b / 10000 < a := by
  have hlt := Nat.mul_lt_mul_of_pos_left h ha
  omega

/-- **A lowered amount is exact**, and at least 1, exactly where the product fits and no slippage of
100% takes an amount above 1. -/
theorem calculateWithSlippageSell_exact_iff (checks : Bool) (hbp : basisPoints.toNat ≤ 10000) :
    calculateWithSlippageSell checks amount basisPoints =
        .ret (UInt64.ofNat (max 1 (amount.toNat - amount.toNat * basisPoints.toNat / 10000))) ↔
      amount.toNat * basisPoints.toNat < 2 ^ 64 ∧ (basisPoints.toNat = 10000 → amount.toNat ≤ 1) := by
  have hamount := amount.toNat_lt
  have hle := slippage_le (a := amount.toNat) hbp
  have hmax : max 1 (amount.toNat - amount.toNat * basisPoints.toNat / 10000) < 2 ^ 64 := by omega
  constructor
  · intro h
    have hvalue := calculateWithSlippageSell_ret h
    rw [Word.toNat_ofNat hmax, slippageAmount] at hvalue
    by_cases hfull : basisPoints.toNat = 10000
    · rw [hfull] at hvalue ⊢
      split_ifs at hvalue <;> omega
    · refine ⟨?_, fun h => absurd h hfull⟩
      by_contra hwraps
      generalize amount.toNat * basisPoints.toNat = product at hvalue hwraps hle
      split_ifs at hvalue <;> omega
  · rintro ⟨hfits, hfull⟩
    refine eq_ret_ofNat (calculateWithSlippageSell_returns.mpr fun _ _ => ⟨hfits, hle⟩) fun r hr => ?_
    rw [calculateWithSlippageSell_ret hr, slippageAmount_eq hfits, if_pos hle]
    by_cases hbp' : basisPoints.toNat = 10000
    · have hone := hfull hbp'
      rw [hbp', if_pos hone]
      omega
    · have hlt := slippage_lt (a := amount.toNat) (b := basisPoints.toNat)
      split_ifs with hzero <;> omega

end PumpTrade
