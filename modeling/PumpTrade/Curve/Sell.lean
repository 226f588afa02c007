import PumpTrade.Calc.PumpFun
import PumpTrade.Curve.BondingCurve

/-!
# The two sell prices

`get_sell_sol_amount_from_token_amount` rounds the fee up and falls back where an operation has no
value; `BondingCurveAccount::get_sell_price` rounds it down with plain operators.

* `feeUp_sub_feeDown`: the two fees differ by at most one;
* `SellUnclamped`: every checked, saturating and narrowing operation of a sale gives the exact
  integer;
* **`sellPrices_agree`**: so the two prices agree to one lamport, and neither exceeds the virtual
  SOL.
-/

namespace PumpTrade

open Base

/-- The fee on `n` rounded up. -/
def feeUp (n feeBasisPoints : ℕ) : ℕ := (n * feeBasisPoints + 9999) / 10000

/-- The fee on `n` rounded down. -/
def feeDown (n feeBasisPoints : ℕ) : ℕ := n * feeBasisPoints / 10000

theorem feeUp_sub_feeDown (n feeBasisPoints : ℕ) :
    feeDown n feeBasisPoints ≤ feeUp n feeBasisPoints ∧ feeUp n feeBasisPoints ≤ feeDown n feeBasisPoints + 1 := by
  unfold feeUp feeDown
  omega

theorem feeUp_le {feeBasisPoints : ℕ} (hf : feeBasisPoints ≤ 10000) (n : ℕ) : feeUp n feeBasisPoints ≤ n := by
  have hprod : n * feeBasisPoints ≤ n * 10000 := Nat.mul_le_mul_left n hf
  unfold feeUp
  omega

/-- The operations of a sale for `creator`, at the price `x` of the calculator and `y` of the curve:
each gives the exact integer, so no fallback is taken and nothing is clamped or truncated. -/
structure SellUnclamped (curve : BondingCurveAccount) (creator : Pubkey) (amount x y : UInt64) : Prop where
  numerator : Word.checkedMul 128 amount.toNat curve.virtualSolReserves.toNat =
    some (amount.toNat * curve.virtualSolReserves.toNat)
  denominator : Word.checkedAdd 128 curve.virtualTokenReserves.toNat amount.toNat =
    some (curve.virtualTokenReserves.toNat + amount.toNat)
  quotient : Word.checkedDiv (amount.toNat * curve.virtualSolReserves.toNat)
    (curve.virtualTokenReserves.toNat + amount.toNat) = some (curve.sellPrice amount.toNat)
  fee : ∀ checks, computeFee checks (curve.sellPrice amount.toNat) (totalFeeBasisPoints creator) =
    .ret (feeUp (curve.sellPrice amount.toNat) (totalFeeBasisPoints creator))
  saturating : feeUp (curve.sellPrice amount.toNat) (totalFeeBasisPoints creator) ≤ curve.sellPrice amount.toNat
  narrowQuote : x.toNat = curve.sellPrice amount.toNat -
    feeUp (curve.sellPrice amount.toNat) (totalFeeBasisPoints creator)
  narrowPrice : y.toNat = curve.sellPrice amount.toNat -
    feeDown (curve.sellPrice amount.toNat) (totalFeeBasisPoints creator)

variable {curve : BondingCurveAccount}

theorem sellPrice_lt_word (curve : BondingCurveAccount) (amount : ℕ) : curve.sellPrice amount < 2 ^ 64 :=
  (curve.sellPrice_le amount).trans_lt curve.virtualSolReserves.toNat_lt

theorem sellUnclamped (h : curve.Open) (creator : Pubkey) (amount : UInt64) :
    SellUnclamped curve creator amount
      (UInt64.ofNat (curve.sellPrice amount.toNat -
        feeUp (curve.sellPrice amount.toNat) (totalFeeBasisPoints creator)))
      (UInt64.ofNat (curve.sellPrice amount.toNat -
        feeDown (curve.sellPrice amount.toNat) (totalFeeBasisPoints creator))) := by
  have hn := sellPrice_lt_word curve amount.toNat
  have htokens := h.tokens_pos
  have hvt := curve.virtualTokenReserves.toNat_lt
  have ha := amount.toNat_lt
  have hquotient : curve.sellPrice amount.toNat = amount.toNat * curve.virtualSolReserves.toNat /
      (curve.virtualTokenReserves.toNat + amount.toNat) := by
    rw [Nat.mul_comm amount.toNat]
    rfl
  constructor
  · exact Word.checkedMul_eq (Word.mul_lt_two_pow_128 ha curve.virtualSolReserves.toNat_lt)
  · exact Word.checkedAdd_eq (by omega)
  · rw [Word.checkedDiv_eq (by omega), hquotient]
  · exact computeFee_eq hn (totalFeeBasisPoints_le creator)
  · exact feeUp_le (totalFeeBasisPoints_le creator) _
  · exact Word.toNat_ofNat ((Nat.sub_le _ _).trans_lt hn)
  · exact Word.toNat_ofNat ((Nat.sub_le _ _).trans_lt hn)

/-- **The two sell prices agree to one lamport**, in every build, for every creator. -/
theorem sellPrices_agree (h : curve.Open) (creator : Pubkey) (amount : UInt64) :
    ∃ x y : UInt64,
      (∀ checks, getSellSolAmountFromTokenAmount checks curve.virtualTokenReserves.toNat
        curve.virtualSolReserves.toNat creator amount = .ret x) ∧
      (∀ checks, curve.getSellPrice checks amount (UInt64.ofNat (totalFeeBasisPoints creator)) = .ret (.ok y)) ∧
      x.toNat ≤ y.toNat ∧ y.toNat ≤ x.toNat + 1 ∧ y.toNat ≤ curve.virtualSolReserves.toNat ∧
      SellUnclamped curve creator amount x y := by
  have hfee : totalFeeBasisPoints creator ≤ 10000 := totalFeeBasisPoints_le creator
  have hbps : (UInt64.ofNat (totalFeeBasisPoints creator)).toNat = totalFeeBasisPoints creator :=
    Word.toNat_ofNat (by omega)
  have hunclamped := sellUnclamped h creator amount
  have hle := curve.sellPrice_le amount.toNat
  have hround := feeUp_sub_feeDown (curve.sellPrice amount.toNat) (totalFeeBasisPoints creator)
  have hsat := hunclamped.saturating
  refine ⟨_, _, fun checks => ?_, fun checks => ?_, ?_, ?_, ?_, hunclamped⟩
  · exact getSellSolAmountFromTokenAmount_eq h.2 checks creator amount
  · rw [BondingCurveAccount.getSellPrice_eq h checks amount
      (UInt64.le_iff_toNat_le.mpr (hbps.trans_le hfee)), hbps]
    rfl
  · rw [hunclamped.narrowQuote, hunclamped.narrowPrice]
    omega
  · rw [hunclamped.narrowQuote, hunclamped.narrowPrice]
    omega
  · rw [hunclamped.narrowPrice]
    omega

/-- A new coin with a creator. -/
theorem sellPrices_agree_initial : ∃ x y : UInt64,
    (∀ checks, getSellSolAmountFromTokenAmount checks BondingCurveAccount.initial.virtualTokenReserves.toNat
      BondingCurveAccount.initial.virtualSolReserves.toNat ⟨1⟩ 1000000 = .ret x) ∧
    (∀ checks, BondingCurveAccount.initial.getSellPrice checks 1000000
      (UInt64.ofNat (totalFeeBasisPoints ⟨1⟩)) = .ret (.ok y)) ∧
    x.toNat ≤ y.toNat ∧ y.toNat ≤ x.toNat + 1 ∧
    y.toNat ≤ BondingCurveAccount.initial.virtualSolReserves.toNat ∧
    SellUnclamped BondingCurveAccount.initial ⟨1⟩ 1000000 x y :=
  sellPrices_agree ⟨rfl, by decide⟩ ⟨1⟩ 1000000

end PumpTrade
