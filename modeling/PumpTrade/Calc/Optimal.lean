import PumpTrade.Calc.PumpSwap

/-!
# Forward quotes of a PumpSwap pool

A buy for an amount of quote tokens and a sale of an amount of base tokens receive the most that the
pool's product allows, among all integers.

* `BuyFits`, `SellFits`: no 128-bit operation of a quote overflows and no narrowing cast loses bits;
* **`forward_quotes_optimal`**: both quotes are the best, and a sale of more is paid no less.
-/

namespace PumpTrade

open Base

section Fits

variable (quote base baseReserve quoteReserve : UInt64) (coinCreator : Pubkey)

/-- The 128-bit operations and the casts of a buy, on what they are given. -/
structure BuyFits : Prop where
  scaled : quote.toNat * 10000 < 2 ^ 128
  numerator : baseReserve.toNat * effectiveQuote quote.toNat coinCreator < 2 ^ 128
  denominator : quoteReserve.toNat + effectiveQuote quote.toNat coinCreator < 2 ^ 128
  base : baseReserve.toNat * effectiveQuote quote.toNat coinCreator /
    (quoteReserve.toNat + effectiveQuote quote.toNat coinCreator) < 2 ^ 64
  internalQuote : effectiveQuote quote.toNat coinCreator < 2 ^ 64

/-- The 128-bit operations and the casts of a sale, on what they are given; those of a fee for each
rate. -/
structure SellFits : Prop where
  numerator : quoteReserve.toNat * base.toNat < 2 ^ 128
  denominator : baseReserve.toNat + base.toNat < 2 ^ 128
  paid : quoteReserve.toNat * base.toNat / (baseReserve.toNat + base.toNat) < 2 ^ 64
  feeProducts : ∀ rate ∈ feeRates coinCreator,
    quoteReserve.toNat * base.toNat / (baseReserve.toNat + base.toNat) * rate + 10000 < 2 ^ 128
  fees : ∀ rate ∈ feeRates coinCreator,
    (quoteReserve.toNat * base.toNat / (baseReserve.toNat + base.toNat) * rate + 10000 - 1) / 10000 < 2 ^ 64

end Fits

variable {checks : Bool} {baseReserve quoteReserve : UInt64} {coinCreator : Pubkey}

theorem feeRates_le {rate : ℕ} (h : rate ∈ feeRates coinCreator) : rate ≤ 25 := by
  unfold feeRates at h
  split_ifs at h
  · exact (by decide : ∀ rate ∈ [25, 5], rate ≤ 25) rate h
  · exact (by decide : ∀ rate ∈ [25, 5, 5], rate ≤ 25) rate h

theorem buyFits (hB : baseReserve ≠ 0) (hQ : quoteReserve ≠ 0) (quote : UInt64) (coinCreator : Pubkey) :
    BuyFits quote baseReserve quoteReserve coinCreator := by
  have hq := quote.toNat_lt
  have hQlt := quoteReserve.toNat_lt
  have heff := (effectiveQuote_le quote.toNat coinCreator).trans_lt hq
  have hout := ConstantProduct.out_lt (Word.pos_toNat hQ) (Word.pos_toNat hB)
    (effectiveQuote quote.toNat coinCreator)
  exact ⟨by omega, Word.mul_lt_two_pow_128 baseReserve.toNat_lt heff, by omega,
    hout.trans baseReserve.toNat_lt, heff⟩

theorem sellFits (hB : baseReserve ≠ 0) (hQ : quoteReserve ≠ 0) (base : UInt64) (coinCreator : Pubkey) :
    SellFits base baseReserve quoteReserve coinCreator := by
  have hb := base.toNat_lt
  have hBlt := baseReserve.toNat_lt
  have hout : quoteReserve.toNat * base.toNat / (baseReserve.toNat + base.toNat) < 2 ^ 64 :=
    (ConstantProduct.out_lt (Word.pos_toNat hB) (Word.pos_toNat hQ) base.toNat).trans quoteReserve.toNat_lt
  refine ⟨Word.mul_lt_two_pow_128 quoteReserve.toNat_lt hb, by omega, hout, fun rate hrate => ?_,
    fun rate hrate => ?_⟩
  · have hproduct := Nat.mul_le_mul hout.le (feeRates_le hrate)
    omega
  · have hfee := fee_lt hout ((feeRates_le hrate).trans (by decide))
    rwa [Nat.ceilDiv_eq_add_pred_div] at hfee

theorem isGreatest_effectiveQuote (quote : ℕ) (coinCreator : Pubkey) :
    IsGreatest {e : ℤ | e * (10000 + (feeRates coinCreator).sum : ℕ) ≤ quote * 10000}
      (effectiveQuote quote coinCreator) := by
  have hpos : (0 : ℤ) < (10000 + (feeRates coinCreator).sum : ℕ) := by omega
  rw [effectiveQuote, feeDenominator_eq]
  push_cast at hpos ⊢
  exact ⟨(Int.le_ediv_iff_mul_le hpos).mp le_rfl, fun e he => (Int.le_ediv_iff_mul_le hpos).mpr he⟩

theorem sell_mono {base base' slippage slippage' : UInt64} {r r' : SellBaseInputResult} (hle : base ≤ base')
    (h : sellBaseInputInternal checks base slippage baseReserve quoteReserve coinCreator = .ret (.ok r))
    (h' : sellBaseInputInternal checks base' slippage' baseReserve quoteReserve coinCreator = .ret (.ok r')) :
    r.internalQuoteAmountOut ≤ r'.internalQuoteAmountOut := by
  obtain ⟨hB, -, hout, -⟩ := sellBaseInputInternal_ok h
  obtain ⟨-, -, hout', -⟩ := sellBaseInputInternal_ok h'
  rw [UInt64.le_iff_toNat_le, hout, hout']
  exact ConstantProduct.out_mono (Word.pos_toNat hB) _ (UInt64.le_iff_toNat_le.mp hle)

/-- **Forward quotes are the best that the pool allows.** With positive reserves no 128-bit
operation overflows and no cast truncates. A buy receives the greatest amount that keeps the product
for its effective quote, which is the greatest that the payment covers; a sale is paid the greatest
amount that keeps the product. -/
theorem forward_quotes_optimal (checks : Bool) (baseReserve quoteReserve : UInt64) (coinCreator : Pubkey)
    (hB : 1 ≤ baseReserve) (hQ : 1 ≤ quoteReserve) :
    (∀ quote, BuyFits quote baseReserve quoteReserve coinCreator) ∧
    (∀ base, SellFits base baseReserve quoteReserve coinCreator) ∧
    (∀ quote slippage r,
      buyQuoteInputInternal checks quote slippage baseReserve quoteReserve coinCreator = .ret (.ok r) →
        IsGreatest {b : ℤ | (baseReserve.toNat - b) * (quoteReserve.toNat + r.internalQuoteWithoutFees.toNat) ≥
          (baseReserve.toNat : ℤ) * quoteReserve.toNat} r.base.toNat ∧
        r.base < baseReserve ∧
        IsGreatest {e : ℤ | e * (10000 + (feeRates coinCreator).sum : ℕ) ≤ quote.toNat * 10000}
          r.internalQuoteWithoutFees.toNat) ∧
    (∀ base slippage r,
      sellBaseInputInternal checks base slippage baseReserve quoteReserve coinCreator = .ret (.ok r) →
        IsGreatest {out : ℤ | (baseReserve.toNat + base.toNat) * (quoteReserve.toNat - out) ≥
          (baseReserve.toNat : ℤ) * quoteReserve.toNat} r.internalQuoteAmountOut.toNat ∧
        r.internalQuoteAmountOut < quoteReserve ∧ r.uiQuote ≤ r.internalQuoteAmountOut) ∧
    ∀ base base' slippage slippage' r r', base ≤ base' →
      sellBaseInputInternal checks base slippage baseReserve quoteReserve coinCreator = .ret (.ok r) →
      sellBaseInputInternal checks base' slippage' baseReserve quoteReserve coinCreator = .ret (.ok r') →
        r.internalQuoteAmountOut ≤ r'.internalQuoteAmountOut := by
  have hBpos : 0 < baseReserve.toNat := UInt64.le_iff_toNat_le.mp hB
  have hQpos : 0 < quoteReserve.toNat := UInt64.le_iff_toNat_le.mp hQ
  have hB0 : baseReserve ≠ 0 := by
    rintro rfl
    exact absurd hBpos (by decide)
  have hQ0 : quoteReserve ≠ 0 := by
    rintro rfl
    exact absurd hQpos (by decide)
  refine ⟨fun quote => buyFits hB0 hQ0 quote coinCreator, fun base => sellFits hB0 hQ0 base coinCreator, ?_, ?_,
    fun _ _ _ _ _ _ hle h h' => sell_mono hle h h'⟩
  · intro quote slippage r hr
    obtain ⟨hquote, hbase⟩ := buyQuoteInputInternal_ok hr
    have hbest := ConstantProduct.isGreatest_out hQpos hBpos (effectiveQuote quote.toNat coinCreator)
    have hlt := ConstantProduct.out_lt hQpos hBpos (effectiveQuote quote.toNat coinCreator)
    rw [UInt64.lt_iff_toNat_lt, hquote, hbase]
    refine ⟨?_, hlt, isGreatest_effectiveQuote _ _⟩
    simpa only [ge_iff_le, mul_comm] using hbest
  · intro base slippage r hr
    obtain ⟨-, -, hout, hnet⟩ := sellBaseInputInternal_ok hr
    rw [UInt64.lt_iff_toNat_lt, hout]
    exact ⟨ConstantProduct.isGreatest_out hBpos hQpos base.toNat, ConstantProduct.out_lt hBpos hQpos _, hnet⟩

theorem forward_quotes_optimal_small :
    buyQuoteInputInternal true 1000 0 500 700 default = .ret (.ok ⟨293, 997, 1000⟩) ∧
    IsGreatest {b : ℤ | ((500 : UInt64).toNat - b) * ((700 : UInt64).toNat + (997 : UInt64).toNat) ≥
      ((500 : UInt64).toNat : ℤ) * (700 : UInt64).toNat} (293 : UInt64).toNat :=
  ⟨by decide, ((forward_quotes_optimal true 500 700 default (by decide) (by decide)).2.2.1 1000 0
    ⟨293, 997, 1000⟩ (by decide)).1⟩

end PumpTrade
