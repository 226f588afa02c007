import PumpTrade.Calc.ExactOutput

/-!
# Buying a wanted amount

When the quote for an amount of base tokens is the least that the pool takes with every fee rounded
up, and how it agrees with the quote for an amount of quote tokens.

* `quotesFor`: the payments for which the pool gives the base tokens;
* **`buyBaseCorrect_iff`**: the quote is correct exactly where its total fits 64 bits, or it is
  refused;
* **`buy_quotes_agree`**: what a payment buys is quoted at less than one unit for each fee above the
  payment.
-/

namespace PumpTrade

open Base

/-- The payments, without fees, for which the product allows `base`. -/
def quotesFor (base baseReserve quoteReserve : UInt64) : Set ℤ :=
  {q | (quoteReserve.toNat + q) * ((baseReserve.toNat : ℤ) - base.toNat) ≥
    (quoteReserve.toNat : ℤ) * baseReserve.toNat}

/-- A quote without slippage is the least payment, with the fees on it rounded up one by one; one
that does not fit 64 bits is refused. -/
structure BuyBaseCorrect (checks : Bool) (base baseReserve quoteReserve : UInt64) (coinCreator : Pubkey) :
    Prop where
  quoted : ∀ r, buyBaseInputInternal checks base 0 baseReserve quoteReserve coinCreator = .ret (.ok r) →
    IsLeast (quotesFor base baseReserve quoteReserve) r.internalQuoteAmount.toNat ∧
    r.uiQuote.toNat = r.internalQuoteAmount.toNat +
      Charges.charged 10000 (feeRates coinCreator) r.internalQuoteAmount.toNat ∧
    r.internalQuoteAmount ≤ r.uiQuote ∧ r.uiQuote ≤ r.maxQuote
  refused : ∀ q : ℕ, IsLeast (quotesFor base baseReserve quoteReserve) q →
    2 ^ 64 ≤ q + Charges.charged 10000 (feeRates coinCreator) q →
      ∃ e, buyBaseInputInternal checks base 0 baseReserve quoteReserve coinCreator = .ret (.error e)

/-- The largest payment that fits 64 bits with its fees. -/
def largestQuote (coinCreator : Pubkey) : ℕ :=
  if coinCreator = default then 18391569365612713474 else 18382405653920828713

variable {checks : Bool} {base baseReserve quoteReserve : UInt64} {coinCreator : Pubkey}

theorem add_charged_lt_word_iff (coinCreator : Pubkey) (q : ℕ) :
    q + Charges.charged 10000 (feeRates coinCreator) q < 2 ^ 64 ↔ q ≤ largestQuote coinCreator := by
  simp only [charged_feeRates, Nat.ceilDiv_eq_add_pred_div, lpFeeBasisPoints, protocolFeeBasisPoints,
    coinCreatorFeeBasisPoints, largestQuote]
  split_ifs <;> omega

theorem isLeast_quotesFor (hb : base < baseReserve) : IsLeast (quotesFor base baseReserve quoteReserve)
    (ConstantProduct.cost quoteReserve.toNat baseReserve.toNat base.toNat) :=
  ConstantProduct.isLeast_cost quoteReserve.toNat (UInt64.lt_iff_toNat_lt.mp hb)

/-- The total of the least payment fits exactly where the price is not too high. -/
theorem cost_fits_iff (hb : base < baseReserve) (coinCreator : Pubkey) :
    ConstantProduct.cost quoteReserve.toNat baseReserve.toNat base.toNat +
        Charges.charged 10000 (feeRates coinCreator)
          (ConstantProduct.cost quoteReserve.toNat baseReserve.toNat base.toNat) < 2 ^ 64 ↔
      quoteReserve.toNat * base.toNat ≤ largestQuote coinCreator * (baseReserve.toNat - base.toNat) := by
  have hlt := UInt64.lt_iff_toNat_lt.mp hb
  rw [add_charged_lt_word_iff, ConstantProduct.cost, ceilDiv_le_iff_le_smul (Nat.sub_pos_of_lt hlt), smul_eq_mul,
    Nat.mul_comm (largestQuote coinCreator)]

/-- **A quote that fits**, without slippage, in every build. -/
theorem buyBaseInputInternal_of_fits (checks : Bool) (hB : baseReserve ≠ 0) (hQ : quoteReserve ≠ 0)
    (hb : base < baseReserve) {q : ℕ}
    (hq : ConstantProduct.cost quoteReserve.toNat baseReserve.toNat base.toNat = q)
    (hfits : q + Charges.charged 10000 (feeRates coinCreator) q < 2 ^ 64) :
    buyBaseInputInternal checks base 0 baseReserve quoteReserve coinCreator =
      .ret (.ok
        { internalQuoteAmount := UInt64.ofNat q
          uiQuote := UInt64.ofNat (q + Charges.charged 10000 (feeRates coinCreator) q)
          maxQuote := UInt64.ofNat (q + Charges.charged 10000 (feeRates coinCreator) q) }) := by
  rw [buyBaseInputInternal_eq_chargeBuy hB hQ hb, hq, chargeBuy_eq hfits, calculateWithSlippageBuy_zero,
    Outcome.ret_map]

theorem buyBaseCorrect_of_refused
    (h : ∃ e, buyBaseInputInternal checks base 0 baseReserve quoteReserve coinCreator = .ret (.error e)) :
    BuyBaseCorrect checks base baseReserve quoteReserve coinCreator where
  quoted := by
    intro r hr
    obtain ⟨e, he⟩ := h
    rw [he] at hr
    cases hr
  refused := fun _ _ _ => h

theorem buyBaseCorrect_of_fits (hB : baseReserve ≠ 0) (hQ : quoteReserve ≠ 0) (hb : base < baseReserve)
    (hfits : quoteReserve.toNat * base.toNat ≤ largestQuote coinCreator * (baseReserve.toNat - base.toNat)) :
    BuyBaseCorrect checks base baseReserve quoteReserve coinCreator where
  quoted := by
    intro r hr
    have htotal := (cost_fits_iff hb coinCreator).mpr hfits
    rw [buyBaseInputInternal_of_fits checks hB hQ hb rfl htotal] at hr
    obtain rfl := Except.ok.inj (Outcome.ret.inj hr)
    have hin := Word.toNat_ofNat ((Nat.le_add_right _ _).trans_lt htotal)
    have hui := Word.toNat_ofNat htotal
    refine ⟨?_, ?_, UInt64.le_iff_toNat_le.mpr ?_, UInt64.le_iff_toNat_le.mpr le_rfl⟩
    · simp only
      rw [hin]
      exact isLeast_quotesFor hb
    · simp only
      rw [hui, hin]
    · simp only
      rw [hui, hin]
      exact Nat.le_add_right _ _
  refused := by
    intro q hleast hover
    have hq : q = ConstantProduct.cost quoteReserve.toNat baseReserve.toNat base.toNat :=
      Int.ofNat_inj.mp (hleast.unique (isLeast_quotesFor hb))
    rw [hq] at hover
    exact absurd ((cost_fits_iff hb coinCreator).mpr hfits) (Nat.not_lt.mpr hover)

/-- **When an exact-output quote is correct**, in every build: the reserves or the amount are
refused, or the price is such that the least payment fits 64 bits with its fees. -/
theorem buyBaseCorrect_iff (checks : Bool) (base baseReserve quoteReserve : UInt64) (coinCreator : Pubkey) :
    BuyBaseCorrect checks base baseReserve quoteReserve coinCreator ↔
      baseReserve = 0 ∨ quoteReserve = 0 ∨ baseReserve ≤ base ∨
        quoteReserve.toNat * base.toNat ≤ largestQuote coinCreator * (baseReserve.toNat - base.toNat) := by
  constructor
  · intro h
    by_contra hcond
    obtain ⟨hB, hQ, hle, hover⟩ : baseReserve ≠ 0 ∧ quoteReserve ≠ 0 ∧ ¬ baseReserve ≤ base ∧
        ¬ quoteReserve.toNat * base.toNat ≤ largestQuote coinCreator * (baseReserve.toNat - base.toNat) := by
      simpa only [not_or] using hcond
    have hb := UInt64.not_le.mp hle
    obtain ⟨e, he⟩ := h.refused _ (isLeast_quotesFor hb) (Nat.not_lt.mp (mt (cost_fits_iff hb coinCreator).mp hover))
    rw [buyBaseInputInternal_eq_chargeBuy hB hQ hb] at he
    exact chargeBuy_ne_error _ e he
  · intro h
    by_cases hrefused : baseReserve = 0 ∨ quoteReserve = 0 ∨ baseReserve ≤ base
    · exact buyBaseCorrect_of_refused (buyBaseInputInternal_refused hrefused)
    · obtain ⟨hB, hQ, hle⟩ : baseReserve ≠ 0 ∧ quoteReserve ≠ 0 ∧ ¬ baseReserve ≤ base := by
        simpa only [not_or] using hrefused
      refine buyBaseCorrect_of_fits hB hQ (UInt64.not_le.mp hle) ?_
      simpa [hB, hQ, hle] using h

/-- Almost all of a reserve of a million at a hundred thousand SOL: the quotient of 67 bits is cut
to 64. -/
theorem buyBase_wraps :
    buyBaseInputInternal true 999999 0 1000000 100000000000000 default =
      .ret (.ok ⟨7766179631452241920, 7789478170346598646, 7789478170346598646⟩) ∧
    ¬ BuyBaseCorrect true 999999 1000000 100000000000000 default := by
  refine ⟨by decide, fun h => ?_⟩
  have hb : (999999 : UInt64) < 1000000 := by decide
  have hover : ¬ (100000000000000 : UInt64).toNat * (999999 : UInt64).toNat ≤
      largestQuote default * ((1000000 : UInt64).toNat - (999999 : UInt64).toNat) := by decide
  obtain ⟨e, he⟩ := h.refused _ (isLeast_quotesFor hb) (Nat.not_lt.mp (mt (cost_fits_iff hb default).mp hover))
  rw [buyBaseInputInternal_eq_chargeBuy (by decide) (by decide) hb] at he
  exact chargeBuy_ne_error _ e he

/-! ## Both quotes of a buy -/

/-- What a payment leaves for the pool, and the fees on what buys the same, come to less than one
unit for each fee above the payment. -/
theorem effectiveQuote_add_charged_lt {q d : ℕ} (hd : d ≤ effectiveQuote q coinCreator) :
    d + Charges.charged 10000 (feeRates coinCreator) d < q + (feeRates coinCreator).length := by
  refine Charges.add_charged_lt (by decide) (feeRates_ne_nil coinCreator) ?_
  rw [← feeDenominator_eq]
  exact (Nat.mul_le_mul_right _ hd).trans (Nat.div_mul_le_self _ _)

/-- **Exact-input and exact-output quotes of a buy agree up to the rounding of the fees.** What a
payment buys is quoted in every build, at no more than what the payment left for the pool, and in
all at less than one unit for each fee above the payment. -/
theorem buy_quotes_agree (checks : Bool) (quote baseReserve quoteReserve : UInt64) (coinCreator : Pubkey)
    (hquote : quote.toNat ≤ 2 ^ 64 - 1 - 3) (r : BuyQuoteInputResult)
    (hr : buyQuoteInputInternal checks quote 0 baseReserve quoteReserve coinCreator = .ret (.ok r)) :
    ∃ r', buyBaseInputInternal checks r.base 0 baseReserve quoteReserve coinCreator = .ret (.ok r') ∧
      r'.internalQuoteAmount ≤ r.internalQuoteWithoutFees ∧
      r'.uiQuote.toNat ≤ quote.toNat + ((if coinCreator = default then 2 else 3) - 1) := by
  obtain ⟨hB, hQ⟩ := buyQuoteInputInternal_reserves_ne_zero hr
  obtain ⟨heff, hbase⟩ := buyQuoteInputInternal_ok hr
  have hlt := ConstantProduct.out_lt (Word.pos_toNat hQ) (Word.pos_toNat hB)
    (effectiveQuote quote.toNat coinCreator)
  have hcost := ConstantProduct.cost_out_le (Word.pos_toNat hQ) (Word.pos_toNat hB)
    (effectiveQuote quote.toNat coinCreator)
  rw [← hbase] at hlt hcost
  have htotal := effectiveQuote_add_charged_lt hcost
  have hlen := length_feeRates coinCreator
  have hk : (feeRates coinCreator).length = 2 ∨ (feeRates coinCreator).length = 3 := by
    rw [hlen]
    split_ifs
    · exact Or.inl rfl
    · exact Or.inr rfl
  rw [← hlen]
  refine ⟨_, buyBaseInputInternal_of_fits checks hB hQ (UInt64.lt_iff_toNat_lt.mpr hlt) rfl (by omega), ?_, ?_⟩
  · rw [UInt64.le_iff_toNat_le, Word.toNat_ofNat (by omega), heff]
    exact hcost
  · simp only
    rw [Word.toNat_ofNat (by omega)]
    omega

theorem buy_quotes_agree_small :
    ∃ r', buyBaseInputInternal true 293 0 500 700 default = .ret (.ok r') ∧ r'.internalQuoteAmount ≤ 997 ∧
      r'.uiQuote.toNat ≤ 1000 + ((if (default : Pubkey) = default then 2 else 3) - 1) :=
  buy_quotes_agree true 1000 500 700 default (by decide) ⟨293, 997, 1000⟩ (by decide)

end PumpTrade
