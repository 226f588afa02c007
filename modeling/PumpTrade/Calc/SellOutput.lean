import PumpTrade.Calc.ExactOutput
import PumpTrade.Calc.Slippage

/-!
# Selling for a wanted amount

When the base tokens that are quoted for an amount of quote tokens, sold again, yield that amount.
The quote takes the fees as one rate and rounds once; the sale rounds each fee up.

* `SellQuoteYields`: the sale of the quoted base is paid the wanted amount;
* `SellQuoteRefused`: the inputs for which nothing is quoted;
* `CoversRounding`, `covers_iff`: when an amount with the fees at one rate, and what is paid above it,
  covers the fees one by one: 2000 that are paid leave 1994, or 1993 where a coin creator is paid;
* `SellQuoteCovered`: the inputs that are covered so, and whose quotients fit 64 bits;
* **`sellQuoteYields_iff`**: the sale yields the amount exactly on those.
-/

namespace PumpTrade

open Base

section Condition

variable (checks : Bool) (quote slippage slippage' baseReserve quoteReserve : UInt64) (coinCreator : Pubkey)

/-- A sale of the base that is quoted for `quote` is paid `quote` or more. -/
def SellQuoteYields : Prop :=
  ∀ r, sellQuoteInputInternal checks quote slippage baseReserve quoteReserve coinCreator = .ret (.ok r) →
    ∃ r', sellBaseInputInternal checks r.base slippage' baseReserve quoteReserve coinCreator = .ret (.ok r') ∧
      quote ≤ r'.uiQuote

/-- The inputs for which nothing is quoted: an empty reserve, more than the pool has, with or
without the fees, or a slippage that panics. -/
def SellQuoteRefused : Prop :=
  baseReserve = 0 ∨ quoteReserve = 0 ∨ quoteReserve < quote ∨
    (rawQuote quote.toNat coinCreator < 2 ^ 64 ∧ quoteReserve.toNat ≤ rawQuote quote.toNat coinCreator) ∨
    ¬ SellScales checks quote.toNat slippage.toNat

/-- What the pool pays above the gross amount, as the base is rounded up to a whole unit. -/
def quoteSurplus : ℕ :=
  ConstantProduct.surplus baseReserve.toNat quoteReserve.toNat (rawQuote quote.toNat coinCreator)

/-- The fees that are rounded up one by one are covered by the gross amount and a surplus. The fees on
2000 units are whole, so that only what `quote` is beyond the net of these matters; just above the
2000 all fees go up at once. -/
def CoversRounding (quote surplus : ℕ) : Prop :=
  if coinCreator = default then
    if quote % 1994 = 0 then surplus ≠ 1
    else 2 + quote % 1994 / 399 ≤ (3 * (quote % 1994) ⌈/⌉ 997) + surplus
  else
    if quote % 1993 = 0 then surplus ≠ 1 ∧ surplus ≠ 2
    else 3 + (quote % 1993 + 1) / 399 ≤ (7 * (quote % 1993) ⌈/⌉ 1993) + surplus ∧
      ¬ (quote % 1993 = 1992 ∧ surplus = 2)

/-- What is left of an amount once each fee is taken off. -/
def lessFees (amount : ℕ) : ℕ := amount - Charges.charged 10000 (feeRates coinCreator) amount

/-- The gross amount and the base for it fit 64 bits, the rounding of the fees is covered, and the
slippage of the sale does not panic. -/
structure SellQuoteCovered : Prop where
  rawFits : quote.toNat * 10000 ≤ (10000 - (feeRates coinCreator).sum) * (2 ^ 64 - 1)
  baseFits : baseReserve.toNat * rawQuote quote.toNat coinCreator ≤
    (quoteReserve.toNat - rawQuote quote.toNat coinCreator) * (2 ^ 64 - 1)
  rounding : CoversRounding coinCreator quote.toNat (quoteSurplus quote baseReserve quoteReserve coinCreator)
  scales : SellScales checks (lessFees coinCreator
    (rawQuote quote.toNat coinCreator + quoteSurplus quote baseReserve quoteReserve coinCreator)) slippage'.toNat

end Condition

variable {checks : Bool} {quote slippage slippage' baseReserve quoteReserve : UInt64} {coinCreator : Pubkey}

/-! ## The gross amount -/

theorem sum_feeRates_le (coinCreator : Pubkey) : (feeRates coinCreator).sum ≤ 35 := by
  rw [sum_feeRates]
  split_ifs <;> omega

theorem rawQuote_le_iff {q p : ℕ} :
    rawQuote q coinCreator ≤ p ↔ q * 10000 ≤ (10000 - (feeRates coinCreator).sum) * p := by
  have hsum := sum_feeRates_le coinCreator
  rw [rawQuote, ceilDiv_le_iff_le_smul (by omega), smul_eq_mul]

theorem rawQuote_le_double (q : ℕ) (coinCreator : Pubkey) : rawQuote q coinCreator ≤ 2 * q := by
  have hsum := sum_feeRates_le coinCreator
  rw [rawQuote_le_iff]
  calc q * 10000 = 5000 * (2 * q) := by ring
    _ ≤ (10000 - (feeRates coinCreator).sum) * (2 * q) := Nat.mul_le_mul_right _ (by omega)

/-- What covers an amount and the fees on itself is no less than the gross amount. -/
theorem rawQuote_le_of_covers {q p : ℕ}
    (h : q + Charges.charged 10000 (feeRates coinCreator) p ≤ p) : rawQuote q coinCreator ≤ p := by
  have hsum := sum_feeRates_le coinCreator
  have hcovers := (Charges.add_charged_le_iff (by decide) (hsum.trans (by decide)) q p).mp h
  rw [rawQuote_le_iff]
  omega

/-! ### Covering the fees -/

/-- The fees without a coin creator, by what is paid beyond a multiple of 2000. -/
theorem charged_default (p : ℕ) :
    Charges.charged 10000 (feeRates default) p = (p + 399) / 400 + (p + 1999) / 2000 := by
  rw [charged_feeRates, if_pos rfl]
  simp only [Nat.ceilDiv_eq_add_pred_div, lpFeeBasisPoints, protocolFeeBasisPoints]
  omega

theorem charged_creator (h : coinCreator ≠ default) (p : ℕ) :
    Charges.charged 10000 (feeRates coinCreator) p = (p + 399) / 400 + 2 * ((p + 1999) / 2000) := by
  rw [charged_feeRates, if_neg h]
  simp only [Nat.ceilDiv_eq_add_pred_div, lpFeeBasisPoints, protocolFeeBasisPoints, coinCreatorFeeBasisPoints]
  omega

/-- The gross amount without a coin creator: 2000 for each 1994. -/
theorem rawQuote_default (q : ℕ) :
    rawQuote q default = 2000 * (q / 1994) + q % 1994 + (3 * (q % 1994) ⌈/⌉ 997) := by
  have hsum : (feeRates default).sum = 30 := rfl
  rw [rawQuote, hsum, Nat.ceilDiv_eq_add_pred_div, Nat.ceilDiv_eq_add_pred_div]
  omega

theorem rawQuote_creator (h : coinCreator ≠ default) (q : ℕ) :
    rawQuote q coinCreator = 2000 * (q / 1993) + q % 1993 + (7 * (q % 1993) ⌈/⌉ 1993) := by
  have hsum : (feeRates coinCreator).sum = 35 := by rw [sum_feeRates, if_neg h]
  rw [rawQuote, hsum, Nat.ceilDiv_eq_add_pred_div, Nat.ceilDiv_eq_add_pred_div]
  omega

/-- What 2000 units for each 1994, the rest and `extra` units leave of fees. -/
theorem covers_default_iff {q extra : ℕ} (hextra : q % 1994 ≠ 0 → 0 < extra) :
    q + Charges.charged 10000 (feeRates default) (2000 * (q / 1994) + q % 1994 + extra) ≤
        2000 * (q / 1994) + q % 1994 + extra ↔
      if q % 1994 = 0 then extra ≠ 1 else 2 + q % 1994 / 399 ≤ extra := by
  rw [charged_default]
  split_ifs with hzero
  · omega
  · have hpos := hextra hzero
    omega

theorem covers_creator_iff (h : coinCreator ≠ default) {q extra : ℕ} (hextra : q % 1993 ≠ 0 → 0 < extra) :
    q + Charges.charged 10000 (feeRates coinCreator) (2000 * (q / 1993) + q % 1993 + extra) ≤
        2000 * (q / 1993) + q % 1993 + extra ↔
      if q % 1993 = 0 then extra ≠ 1 ∧ extra ≠ 2
      else 3 + (q % 1993 + 1) / 399 ≤ extra ∧ ¬ (q % 1993 = 1992 ∧ extra = 9) := by
  rw [charged_creator h]
  split_ifs with hzero
  · omega
  · have hpos := hextra hzero
    omega

/-- **When the gross amount and a surplus cover the fees one by one.** -/
theorem covers_iff (q surplus : ℕ) : q + Charges.charged 10000 (feeRates coinCreator)
      (rawQuote q coinCreator + surplus) ≤ rawQuote q coinCreator + surplus ↔
    CoversRounding coinCreator q surplus := by
  unfold CoversRounding
  split_ifs with hdefault hzero hzero
  · subst hdefault
    rw [rawQuote_default, Nat.add_assoc, covers_default_iff (absurd hzero), if_pos hzero, hzero]
    simp
  · subst hdefault
    have hextra : 0 < 3 * (q % 1994) ⌈/⌉ 997 := by
      rw [Nat.ceilDiv_eq_add_pred_div]
      omega
    rw [rawQuote_default, Nat.add_assoc, covers_default_iff fun _ => Nat.add_pos_left hextra _, if_neg hzero]
  · rw [rawQuote_creator hdefault, Nat.add_assoc, covers_creator_iff hdefault (absurd hzero), if_pos hzero, hzero]
    simp
  · have hextra : 0 < 7 * (q % 1993) ⌈/⌉ 1993 := by
      rw [Nat.ceilDiv_eq_add_pred_div]
      omega
    have hlast : q % 1993 = 1992 → (7 * (q % 1993) ⌈/⌉ 1993) = 7 := by
      intro h
      rw [h]
      decide
    rw [rawQuote_creator hdefault, Nat.add_assoc, covers_creator_iff hdefault fun _ => Nat.add_pos_left hextra _,
      if_neg hzero]
    refine and_congr_right fun _ => not_congr (and_congr_right fun h => ?_)
    have hseven := hlast h
    omega

theorem toNat_rawQuote_lt (hq : quote ≤ quoteReserve) (hQ : quoteReserve ≠ 0)
    (hraw : rawQuote quote.toNat coinCreator < 2 ^ 64 → rawQuote quote.toNat coinCreator < quoteReserve.toNat) :
    (UInt64.ofNat (rawQuote quote.toNat coinCreator)).toNat < quoteReserve.toNat := by
  have hQlt := quoteReserve.toNat_lt
  have hle := UInt64.le_iff_toNat_le.mp hq
  have hdouble := rawQuote_le_double quote.toNat coinCreator
  have hpos := Word.pos_toNat hQ
  rw [UInt64.toNat_ofNat']
  by_cases hfits : rawQuote quote.toNat coinCreator < 2 ^ 64
  · rw [Nat.mod_eq_of_lt hfits]
    exact hraw hfits
  · omega

/-! ## What is quoted -/

theorem sellQuoteInputInternal_refused
    (h : baseReserve = 0 ∨ quoteReserve = 0 ∨ quoteReserve < quote) :
    ∃ e, sellQuoteInputInternal checks quote slippage baseReserve quoteReserve coinCreator = .ret (.error e) := by
  unfold sellQuoteInputInternal
  by_cases hzero : baseReserve = 0 ∨ quoteReserve = 0
  · rw [if_pos hzero]
    exact ⟨_, rfl⟩
  · rw [← or_assoc] at h
    rw [if_neg hzero, if_pos (h.resolve_left hzero)]
    exact ⟨_, rfl⟩

/-- **What is quoted**, and that nothing was refused. -/
theorem sellQuoteInputInternal_ok {r : SellQuoteInputResult}
    (h : sellQuoteInputInternal checks quote slippage baseReserve quoteReserve coinCreator = .ret (.ok r)) :
    baseReserve ≠ 0 ∧ quoteReserve ≠ 0 ∧ quote ≤ quoteReserve ∧
      (UInt64.ofNat (rawQuote quote.toNat coinCreator)).toNat < quoteReserve.toNat ∧
      SellScales checks quote.toNat slippage.toNat ∧
      r.base = UInt64.ofNat (ConstantProduct.cost baseReserve.toNat quoteReserve.toNat
        (UInt64.ofNat (rawQuote quote.toNat coinCreator)).toNat) := by
  by_cases hrefused : baseReserve = 0 ∨ quoteReserve = 0 ∨ quoteReserve < quote
  · obtain ⟨e, he⟩ : ∃ e, sellQuoteInputInternal checks quote slippage baseReserve quoteReserve coinCreator =
        .ret (.error e) := sellQuoteInputInternal_refused hrefused
    rw [he] at h
    cases h
  obtain ⟨hB, hQ, hover⟩ : baseReserve ≠ 0 ∧ quoteReserve ≠ 0 ∧ ¬ quoteReserve < quote := by
    simpa only [not_or] using hrefused
  have hq := UInt64.not_lt.mp hover
  rw [sellQuoteInputInternal_eq hB hQ hq rfl] at h
  split_ifs at h with hraw
  · cases h
  · obtain ⟨minQuote, hmin, hr⟩ := Outcome.map_eq_ret.mp h
    obtain rfl := Except.ok.inj hr
    exact ⟨hB, hQ, hq, UInt64.lt_iff_toNat_lt.mp (UInt64.not_le.mp hraw),
      calculateWithSlippageSell_returns.mp ⟨_, hmin⟩, rfl⟩

theorem sellQuoteInputInternal_quotes
    (h : ¬ SellQuoteRefused checks quote slippage baseReserve quoteReserve coinCreator) :
    ∃ r, sellQuoteInputInternal checks quote slippage baseReserve quoteReserve coinCreator = .ret (.ok r) := by
  simp only [SellQuoteRefused, not_or, not_and, Classical.not_not] at h
  obtain ⟨hB, hQ, hover, hraw, hscales⟩ := h
  have hq := UInt64.not_lt.mp hover
  have hlt := toNat_rawQuote_lt hq hQ fun hfits => Nat.lt_of_not_le (hraw hfits)
  obtain ⟨minQuote, hmin⟩ := calculateWithSlippageSell_returns.mpr hscales
  rw [sellQuoteInputInternal_eq hB hQ hq rfl, if_neg (UInt64.not_le.mpr (UInt64.lt_iff_toNat_lt.mpr hlt)), hmin]
  exact ⟨_, rfl⟩

theorem not_refused_of_ok {r : SellQuoteInputResult}
    (h : sellQuoteInputInternal checks quote slippage baseReserve quoteReserve coinCreator = .ret (.ok r)) :
    ¬ SellQuoteRefused checks quote slippage baseReserve quoteReserve coinCreator := by
  obtain ⟨hB, hQ, hq, hlt, hscales, -⟩ := sellQuoteInputInternal_ok h
  rintro (hzero | hzero | hover | ⟨hfits, hraw⟩ | hpanics)
  · exact hB hzero
  · exact hQ hzero
  · exact absurd hover (UInt64.not_lt.mpr hq)
  · rw [Word.toNat_ofNat hfits] at hlt
    omega
  · exact hpanics hscales

/-! ## The sale of what is quoted -/

/-- Where the gross amount and the base for it fit, that base is quoted, and the pool pays for it the
gross amount and the surplus. -/
theorem paid_of_fits {r : SellQuoteInputResult}
    (h : sellQuoteInputInternal checks quote slippage baseReserve quoteReserve coinCreator = .ret (.ok r))
    (hraw : rawQuote quote.toNat coinCreator < 2 ^ 64)
    (hbase : ConstantProduct.cost baseReserve.toNat quoteReserve.toNat (rawQuote quote.toNat coinCreator) < 2 ^ 64) :
    ConstantProduct.out baseReserve.toNat quoteReserve.toNat r.base.toNat =
      rawQuote quote.toNat coinCreator + quoteSurplus quote baseReserve quoteReserve coinCreator := by
  obtain ⟨hB, -, -, hlt, -, hr⟩ := sellQuoteInputInternal_ok h
  rw [Word.toNat_ofNat hraw] at hlt hr
  rw [hr, Word.toNat_ofNat hbase]
  exact ConstantProduct.out_cost (Word.pos_toNat hB) hlt

/-- A pool with at least as many base tokens as it keeps quote tokens pays no surplus, so that the wanted
amount alone decides whether the rounding is covered. -/
theorem quoteSurplus_eq_zero (hraw : rawQuote quote.toNat coinCreator < quoteReserve.toNat)
    (hpool : quoteReserve.toNat ≤ baseReserve.toNat + rawQuote quote.toNat coinCreator) :
    quoteSurplus quote baseReserve quoteReserve coinCreator = 0 :=
  ConstantProduct.surplus_eq_zero hraw hpool

/-- The base for the gross amount fits 64 bits exactly where a product of the reserves does not exceed
another. -/
theorem cost_lt_word_iff {raw : ℕ} (h : raw < quoteReserve.toNat) :
    ConstantProduct.cost baseReserve.toNat quoteReserve.toNat raw < 2 ^ 64 ↔
      baseReserve.toNat * raw ≤ (quoteReserve.toNat - raw) * (2 ^ 64 - 1) := by
  rw [show (2 : ℕ) ^ 64 = 2 ^ 64 - 1 + 1 from rfl, Nat.lt_succ_iff, ConstantProduct.cost,
    ceilDiv_le_iff_le_smul (by omega), smul_eq_mul]
  rfl

theorem rawQuote_lt_word_iff {q : ℕ} : rawQuote q coinCreator < 2 ^ 64 ↔
    q * 10000 ≤ (10000 - (feeRates coinCreator).sum) * (2 ^ 64 - 1) := by
  rw [← rawQuote_le_iff]
  omega

/-- A sale that yields the amount has lost nothing in its quotients and has covered the fees. -/
theorem SellQuoteYields.covered
    (hrefused : ¬ SellQuoteRefused checks quote slippage baseReserve quoteReserve coinCreator)
    (h : SellQuoteYields checks quote slippage slippage' baseReserve quoteReserve coinCreator) :
    SellQuoteCovered checks quote slippage' baseReserve quoteReserve coinCreator := by
  obtain ⟨r, hr⟩ := sellQuoteInputInternal_quotes hrefused
  obtain ⟨r', hr', hyields⟩ := h r hr
  obtain ⟨hB, hQ, -, hlt, -, hbase⟩ := sellQuoteInputInternal_ok hr
  obtain ⟨hout, hnet⟩ := sellBaseInputInternal_paid hr'
  have hcovers : quote.toNat + Charges.charged 10000 (feeRates coinCreator) r'.internalQuoteAmountOut.toNat ≤
      r'.internalQuoteAmountOut.toNat := by
    have hle := UInt64.le_iff_toNat_le.mp hyields
    omega
  have hpaid := ConstantProduct.out_lt (Word.pos_toNat hB) (Word.pos_toNat hQ) r.base.toNat
  have hrawLe := rawQuote_le_of_covers hcovers
  -- the gross amount is at most what the pool paid, which is below a word
  have hraw : rawQuote quote.toNat coinCreator < 2 ^ 64 :=
    (hout ▸ hrawLe).trans_lt (hpaid.trans quoteReserve.toNat_lt)
  have hrawQ : rawQuote quote.toNat coinCreator < quoteReserve.toNat := by rwa [Word.toNat_ofNat hraw] at hlt
  have hcostLe : ConstantProduct.cost baseReserve.toNat quoteReserve.toNat (rawQuote quote.toNat coinCreator) ≤
      r.base.toNat :=
    (ConstantProduct.cost_le_iff_le_out (Word.pos_toNat hB) hrawQ).mpr (hout ▸ hrawLe)
  have hcost := hcostLe.trans_lt r.base.toNat_lt
  have hamount := hout.trans (paid_of_fits hr hraw hcost)
  refine ⟨rawQuote_lt_word_iff.mp hraw, (cost_lt_word_iff hrawQ).mp hcost, ?_, ?_⟩
  · rwa [hamount, covers_iff] at hcovers
  · have hmin := sellBaseInputInternal_minQuote hr'
    have hui : r'.uiQuote.toNat = lessFees coinCreator (rawQuote quote.toNat coinCreator +
        quoteSurplus quote baseReserve quoteReserve coinCreator) := by
      rw [hamount] at hnet
      rw [lessFees]
      omega
    rw [← hui]
    exact calculateWithSlippageSell_returns.mp ⟨_, hmin⟩

theorem SellQuoteCovered.yields
    (h : SellQuoteCovered checks quote slippage' baseReserve quoteReserve coinCreator) :
    SellQuoteYields checks quote slippage slippage' baseReserve quoteReserve coinCreator := by
  intro r hr
  obtain ⟨hB, hQ, -, hlt, -, -⟩ := sellQuoteInputInternal_ok hr
  have hraw := rawQuote_lt_word_iff.mpr h.rawFits
  rw [Word.toNat_ofNat hraw] at hlt
  have hpaid := paid_of_fits hr hraw ((cost_lt_word_iff hlt).mpr h.baseFits)
  have hcovers := (covers_iff _ _).mpr h.rounding
  have hscales := h.scales
  have hout := ConstantProduct.out_lt (Word.pos_toNat hB) (Word.pos_toNat hQ) r.base.toNat
  rw [hpaid] at hout
  unfold lessFees at hscales
  generalize rawQuote quote.toNat coinCreator + quoteSurplus quote baseReserve quoteReserve coinCreator = paid
    at hpaid hcovers hscales hout
  have hnet := Word.toNat_ofNat ((Nat.sub_le paid (Charges.charged 10000 (feeRates coinCreator) paid)).trans_lt
    (hout.trans quoteReserve.toNat_lt))
  obtain ⟨minQuote, hmin⟩ := calculateWithSlippageSell_returns.mpr (hnet.symm ▸ hscales)
  rw [sellBaseInputInternal_eq hB hQ hpaid rfl, if_neg (by omega), hmin, Outcome.ret_map]
  refine ⟨_, rfl, UInt64.le_iff_toNat_le.mpr ?_⟩
  simp only
  rw [hnet]
  omega

/-- **When selling the quoted base yields the wanted quote**, in every build and for every slippage
of either call: nothing is quoted, or the quotients fit and the wanted amount is one for which the
surplus covers the rounding of the fees. -/
theorem sellQuoteYields_iff (checks : Bool) (quote slippage slippage' baseReserve quoteReserve : UInt64)
    (coinCreator : Pubkey) :
    SellQuoteYields checks quote slippage slippage' baseReserve quoteReserve coinCreator ↔
      SellQuoteRefused checks quote slippage baseReserve quoteReserve coinCreator ∨
        SellQuoteCovered checks quote slippage' baseReserve quoteReserve coinCreator := by
  constructor
  · intro h
    by_cases hrefused : SellQuoteRefused checks quote slippage baseReserve quoteReserve coinCreator
    · exact Or.inl hrefused
    · exact Or.inr (h.covered hrefused)
  · rintro (hrefused | hcovered)
    · exact fun r hr => absurd hrefused (not_refused_of_ok hr)
    · exact hcovered.yields

/-- Half a SOL from a pool of a hundred SOL and a million tokens: the sale is paid one lamport
less. -/
theorem sellQuote_one_short :
    sellQuoteInputInternal true 500000000 0 1000000000000 100000000000 default =
      .ret (.ok ⟨501504514, 5040322586, 500000000⟩) ∧
    sellBaseInputInternal true 5040322586 0 1000000000000 100000000000 default =
      .ret (.ok ⟨499999999, 499999999, 501504514⟩) ∧
    ¬ SellQuoteYields true 500000000 0 0 1000000000000 100000000000 default := by
  refine ⟨by decide, by decide, fun h => ?_⟩
  obtain ⟨r', hr', hle⟩ := h ⟨501504514, 5040322586, 500000000⟩ (by decide)
  have hpaid : sellBaseInputInternal true 5040322586 0 1000000000000 100000000000 default =
      .ret (.ok ⟨499999999, 499999999, 501504514⟩) := by decide
  obtain rfl := Except.ok.inj (Outcome.ret.inj (hr'.symm.trans hpaid))
  exact absurd hle (by decide)

end PumpTrade
