import PumpTrade.Calc.PumpSwap
import PumpTrade.Calc.Slippage

/-!
# When a quote is returned

The inputs for which `buy_quote_input_internal` and `sell_base_input_internal` return a value. On
the others they return an error, or the slippage panics.

* `charged_le_iff`: a payment covers its own fees unless it is smaller than their number;
* **`buyQuoteInputInternal_returns`**, **`sellBaseInputInternal_returns`**.
-/

namespace PumpTrade

open Base

variable {checks : Bool} {quote base slippage baseReserve quoteReserve : UInt64} {coinCreator : Pubkey}

/-- **The fees on a payment** come to more than it exactly where it is smaller than their number. -/
theorem charged_le_iff (coinCreator : Pubkey) (x : ℕ) :
    Charges.charged 10000 (feeRates coinCreator) x ≤ x ↔ x = 0 ∨ (feeRates coinCreator).length ≤ x := by
  rw [charged_feeRates, length_feeRates]
  simp only [Nat.ceilDiv_eq_add_pred_div, lpFeeBasisPoints, protocolFeeBasisPoints, coinCreatorFeeBasisPoints]
  split_ifs <;> omega

section Condition

variable (checks : Bool) (quote base slippage baseReserve quoteReserve : UInt64) (coinCreator : Pubkey)

/-- A buy is quoted: both reserves hold something, and the slippage does not panic. -/
structure BuyQuoted : Prop where
  baseHolds : baseReserve ≠ 0
  quoteHolds : quoteReserve ≠ 0
  scales : BuyScales checks quote.toNat slippage.toNat

/-- A sale is quoted: both reserves hold something, the payment is nothing or no smaller than the
number of the fees, and the slippage does not panic. -/
structure SellQuoted : Prop where
  baseHolds : baseReserve ≠ 0
  quoteHolds : quoteReserve ≠ 0
  covers : ConstantProduct.out baseReserve.toNat quoteReserve.toNat base.toNat = 0 ∨
    (feeRates coinCreator).length ≤ ConstantProduct.out baseReserve.toNat quoteReserve.toNat base.toNat
  scales : SellScales checks (ConstantProduct.out baseReserve.toNat quoteReserve.toNat base.toNat -
    Charges.charged 10000 (feeRates coinCreator)
      (ConstantProduct.out baseReserve.toNat quoteReserve.toNat base.toNat)) slippage.toNat

end Condition

/-- **Where a buy is quoted.** -/
theorem buyQuoteInputInternal_returns :
    (∃ r, buyQuoteInputInternal checks quote slippage baseReserve quoteReserve coinCreator = .ret (.ok r)) ↔
      BuyQuoted checks quote slippage baseReserve quoteReserve := by
  constructor
  · rintro ⟨r, h⟩
    obtain ⟨hB, hQ⟩ := buyQuoteInputInternal_reserves_ne_zero h
    exact ⟨hB, hQ, calculateWithSlippageBuy_returns.mp ⟨_, buyQuoteInputInternal_maxQuote h⟩⟩
  · intro h
    obtain ⟨maxQuote, hmax⟩ := calculateWithSlippageBuy_returns.mpr h.scales
    rw [buyQuoteInputInternal_eq h.baseHolds h.quoteHolds, hmax, Outcome.ret_map]
    exact ⟨_, rfl⟩

/-- A sale to a pool that holds something is quoted where the payment covers its fees. -/
theorem sellBaseInputInternal_returns_of (hB : baseReserve ≠ 0) (hQ : quoteReserve ≠ 0) {paid : ℕ}
    (hpaid : ConstantProduct.out baseReserve.toNat quoteReserve.toNat base.toNat = paid) :
    (∃ r, sellBaseInputInternal checks base slippage baseReserve quoteReserve coinCreator = .ret (.ok r)) ↔
      (paid = 0 ∨ (feeRates coinCreator).length ≤ paid) ∧
        SellScales checks (paid - Charges.charged 10000 (feeRates coinCreator) paid) slippage.toNat := by
  have hlt : paid < 2 ^ 64 := by
    rw [← hpaid, ← toNat_out hB hQ]
    exact UInt64.toNat_lt _
  rw [sellBaseInputInternal_eq hB hQ hpaid rfl, ← charged_le_iff]
  by_cases hover : paid < Charges.charged 10000 (feeRates coinCreator) paid
  · rw [if_pos hover]
    exact ⟨fun ⟨r, h⟩ => (nomatch h), fun h => absurd h.1 (Nat.not_le_of_lt hover)⟩
  have hnet := Word.toNat_ofNat ((Nat.sub_le paid (Charges.charged 10000 (feeRates coinCreator) paid)).trans_lt hlt)
  rw [if_neg hover]
  constructor
  · rintro ⟨r, h⟩
    obtain ⟨minQuote, hmin, -⟩ := Outcome.map_eq_ret.mp h
    have hscales := calculateWithSlippageSell_returns.mp ⟨minQuote, hmin⟩
    rw [hnet] at hscales
    exact ⟨Nat.le_of_not_lt hover, hscales⟩
  · rintro ⟨-, hscales⟩
    rw [← hnet] at hscales
    obtain ⟨minQuote, hmin⟩ := calculateWithSlippageSell_returns.mpr hscales
    rw [hmin, Outcome.ret_map]
    exact ⟨_, rfl⟩

/-- **Where a sale is quoted.** -/
theorem sellBaseInputInternal_returns :
    (∃ r, sellBaseInputInternal checks base slippage baseReserve quoteReserve coinCreator = .ret (.ok r)) ↔
      SellQuoted checks base slippage baseReserve quoteReserve coinCreator := by
  constructor
  · rintro ⟨r, h⟩
    obtain ⟨hB, hQ⟩ := sellBaseInputInternal_reserves_ne_zero h
    obtain ⟨hcovers, hscales⟩ := (sellBaseInputInternal_returns_of hB hQ rfl).mp ⟨r, h⟩
    exact ⟨hB, hQ, hcovers, hscales⟩
  · intro h
    exact (sellBaseInputInternal_returns_of h.baseHolds h.quoteHolds rfl).mpr ⟨h.covers, h.scales⟩

end PumpTrade
