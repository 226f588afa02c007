import PumpTrade.Base.Charges
import PumpTrade.Base.ConstantProduct
import PumpTrade.Calc.Common
import PumpTrade.Chain.Key

/-!
# PumpSwap quotes

`buy_quote_input_internal` and `sell_base_input_internal` of `utils/calc/pumpswap.rs`: what a pool
pays for an amount of quote tokens, and for an amount of base tokens.

* `feeRates`, `charged_feeRates`: the fees that are charged one by one;
* `buyQuoteInputInternal_eq`, `sellBaseInputInternal_eq`: both quotes in closed form;
* `buyQuoteInputInternal_ok`: a buy pays `out` of the effective quote, and that is not above
  `quote`;
* `sellBaseInputInternal_ok`: a sale pays `out` of the base, and the user receives no more than
  that;
* `buyQuoteInputInternal_zero`: a buy without slippage returns in every build.
-/

namespace PumpTrade

open Base

/-- The rates of the liquidity providers, the protocol and the coin's creator, in basis points. -/
def lpFeeBasisPoints : ℕ := 25
def protocolFeeBasisPoints : ℕ := 5
def coinCreatorFeeBasisPoints : ℕ := 5

/-- Result of `buyQuoteInputInternal`. -/
structure BuyQuoteInputResult where
  base : UInt64
  internalQuoteWithoutFees : UInt64
  maxQuote : UInt64
  deriving DecidableEq, Repr

/-- Result of `sellBaseInputInternal`. -/
structure SellBaseInputResult where
  uiQuote : UInt64
  minQuote : UInt64
  internalQuoteAmountOut : UInt64
  deriving DecidableEq, Repr

/-- The error for an empty reserve. -/
def invalidReserves : String :=
  "Invalid input: 'baseReserve' or 'quoteReserve' cannot be zero."

/-- The denominator of the fee stripping in `buyQuoteInputInternal`. -/
def feeDenominator (coinCreator : Pubkey) : ℕ :=
  10000 + (lpFeeBasisPoints + protocolFeeBasisPoints +
    if coinCreator = default then 0 else coinCreatorFeeBasisPoints)

/-- Base tokens received for an amount of quote tokens. -/
def buyQuoteInputInternal (checks : Bool) (quote slippageBasisPoints baseReserve quoteReserve : UInt64)
    (coinCreator : Pubkey) : Outcome (Except String BuyQuoteInputResult) :=
  if baseReserve = 0 ∨ quoteReserve = 0 then .ret (.error invalidReserves)
  else do
    let scaled ← Word.mul checks 128 quote.toNat 10000
    let effectiveQuote ← Word.div scaled (feeDenominator coinCreator)
    let numerator ← Word.mul checks 128 baseReserve.toNat effectiveQuote
    let denominatorEffective ← Word.add checks 128 quoteReserve.toNat effectiveQuote
    if denominatorEffective = 0 then .ret (.error "Pool would be depleted; denominator is zero.")
    else do
      let baseAmountOut ← Word.div numerator denominatorEffective
      let maxQuote ← calculateWithSlippageBuy checks quote slippageBasisPoints
      .ret (.ok
        { base := UInt64.ofNat baseAmountOut
          internalQuoteWithoutFees := UInt64.ofNat effectiveQuote
          maxQuote })

/-- Quote tokens received for an amount of base tokens. -/
def sellBaseInputInternal (checks : Bool) (base slippageBasisPoints baseReserve quoteReserve : UInt64)
    (coinCreator : Pubkey) : Outcome (Except String SellBaseInputResult) :=
  if baseReserve = 0 ∨ quoteReserve = 0 then .ret (.error invalidReserves)
  else do
    let numerator ← Word.mul checks 128 quoteReserve.toNat base.toNat
    let denominator ← Word.add checks 128 baseReserve.toNat base.toNat
    let quoteAmountOut ← UInt64.ofNat <$> Word.div numerator denominator
    let lpFee ← UInt64.ofNat <$> computeFee checks quoteAmountOut.toNat lpFeeBasisPoints
    let protocolFee ← UInt64.ofNat <$> computeFee checks quoteAmountOut.toNat protocolFeeBasisPoints
    let coinCreatorFee ← (if coinCreator = default then .ret 0
      else UInt64.ofNat <$> computeFee checks quoteAmountOut.toNat coinCreatorFeeBasisPoints)
    let totalFees ← Word.add64 checks (← Word.add64 checks lpFee protocolFee) coinCreatorFee
    if totalFees > quoteAmountOut then
      .ret (.error "Fees exceed total output; final quote is negative.")
    else do
      let finalQuote ← Word.sub64 checks quoteAmountOut totalFees
      let minQuote ← calculateWithSlippageSell checks finalQuote slippageBasisPoints
      .ret (.ok
        { uiQuote := finalQuote
          minQuote
          internalQuoteAmountOut := quoteAmountOut })

/-! ## What the quotes are -/

/-- The quote amount that reaches the pool, its fees stripped. -/
def effectiveQuote (quote : ℕ) (coinCreator : Pubkey) : ℕ := quote * 10000 / feeDenominator coinCreator

theorem feeDenominator_pos (coinCreator : Pubkey) : 0 < feeDenominator coinCreator :=
  Nat.add_pos_left (by decide) _

theorem effectiveQuote_le (quote : ℕ) (coinCreator : Pubkey) : effectiveQuote quote coinCreator ≤ quote := by
  rw [effectiveQuote, Nat.div_le_iff_le_mul_add_pred (feeDenominator_pos _), Nat.mul_comm]
  exact (Nat.mul_le_mul_right quote (Nat.le_add_right _ _)).trans (Nat.le_add_right _ _)

/-- Fee stripping rounds each part down, so the parts come to at most the whole. -/
theorem effectiveQuote_add_le (q q' : ℕ) (coinCreator : Pubkey) :
    effectiveQuote q coinCreator + effectiveQuote q' coinCreator ≤ effectiveQuote (q + q') coinCreator := by
  unfold effectiveQuote
  rw [Nat.add_mul]
  exact Nat.div_add_div_le_add_div

variable {checks : Bool} {quote base slippageBasisPoints baseReserve quoteReserve : UInt64}
  {coinCreator : Pubkey}

/-- **A buy in closed form.** No 128-bit operation overflows, so only the slippage can panic. -/
theorem buyQuoteInputInternal_eq (hB : baseReserve ≠ 0) (hQ : quoteReserve ≠ 0) :
    buyQuoteInputInternal checks quote slippageBasisPoints baseReserve quoteReserve coinCreator =
      (fun maxQuote => .ok
        { base := UInt64.ofNat (ConstantProduct.out quoteReserve.toNat baseReserve.toNat
            (effectiveQuote quote.toNat coinCreator))
          internalQuoteWithoutFees := UInt64.ofNat (effectiveQuote quote.toNat coinCreator)
          maxQuote }) <$> calculateWithSlippageBuy checks quote slippageBasisPoints := by
  have hq := quote.toNat_lt
  have hQlt := quoteReserve.toNat_lt
  have heff := effectiveQuote_le quote.toNat coinCreator
  have hQpos := Word.pos_toNat hQ
  have hnum : baseReserve.toNat * effectiveQuote quote.toNat coinCreator < 2 ^ 128 :=
    Word.mul_lt_two_pow_128 baseReserve.toNat_lt (by omega)
  have hden : 0 < quoteReserve.toNat + effectiveQuote quote.toNat coinCreator := by omega
  rw [buyQuoteInputInternal, if_neg (by simp [hB, hQ]), Word.mul_eq (by omega), Outcome.ret_bind,
    Word.div_eq (feeDenominator_pos _), Outcome.ret_bind]
  change (Word.mul checks 128 baseReserve.toNat (effectiveQuote quote.toNat coinCreator) >>= fun _ =>
    Word.add checks 128 quoteReserve.toNat (effectiveQuote quote.toNat coinCreator) >>= fun _ => _) = _
  rw [Word.mul_eq hnum, Outcome.ret_bind, Word.add_eq (by omega), Outcome.ret_bind, if_neg (by omega),
    Word.div_eq hden, Outcome.ret_bind]
  rfl

theorem buyQuoteInputInternal_reserves_ne_zero {r : BuyQuoteInputResult}
    (h : buyQuoteInputInternal checks quote slippageBasisPoints baseReserve quoteReserve coinCreator =
      .ret (.ok r)) : baseReserve ≠ 0 ∧ quoteReserve ≠ 0 := by
  by_contra hz
  rw [buyQuoteInputInternal, if_pos (by tauto)] at h
  cases h

/-- **What a buy pays.** -/
theorem buyQuoteInputInternal_ok {r : BuyQuoteInputResult}
    (h : buyQuoteInputInternal checks quote slippageBasisPoints baseReserve quoteReserve coinCreator =
      .ret (.ok r)) :
    r.internalQuoteWithoutFees.toNat = effectiveQuote quote.toNat coinCreator ∧
      r.base.toNat = ConstantProduct.out quoteReserve.toNat baseReserve.toNat
        (effectiveQuote quote.toNat coinCreator) := by
  obtain ⟨hB, hQ⟩ := buyQuoteInputInternal_reserves_ne_zero h
  rw [buyQuoteInputInternal_eq hB hQ, Outcome.map_eq_ret] at h
  obtain ⟨maxQuote, -, hr⟩ := h
  obtain rfl := Except.ok.inj hr
  have heff := effectiveQuote_le quote.toNat coinCreator
  have hout := ConstantProduct.out_lt (Word.pos_toNat hQ) (Word.pos_toNat hB)
    (effectiveQuote quote.toNat coinCreator)
  exact ⟨Word.toNat_ofNat (heff.trans_lt quote.toNat_lt), Word.toNat_ofNat (hout.trans baseReserve.toNat_lt)⟩

theorem buyQuoteInputInternal_maxQuote {r : BuyQuoteInputResult}
    (h : buyQuoteInputInternal checks quote slippageBasisPoints baseReserve quoteReserve coinCreator =
      .ret (.ok r)) : calculateWithSlippageBuy checks quote slippageBasisPoints = .ret r.maxQuote := by
  obtain ⟨hB, hQ⟩ := buyQuoteInputInternal_reserves_ne_zero h
  rw [buyQuoteInputInternal_eq hB hQ, Outcome.map_eq_ret] at h
  obtain ⟨maxQuote, hmax, hr⟩ := h
  obtain rfl := Except.ok.inj hr
  exact hmax

theorem buyQuoteInputInternal_zero (checks : Bool) (quote : UInt64) (coinCreator : Pubkey)
    (hB : baseReserve ≠ 0) (hQ : quoteReserve ≠ 0) :
    ∃ r, buyQuoteInputInternal checks quote 0 baseReserve quoteReserve coinCreator = .ret (.ok r) := by
  rw [buyQuoteInputInternal_eq hB hQ, calculateWithSlippageBuy_zero, Outcome.ret_map]
  exact ⟨_, rfl⟩

/-! ## Fees -/

/-- The rates of the fees, of the coin creator's only where there is one. -/
def feeRates (coinCreator : Pubkey) : List ℕ :=
  lpFeeBasisPoints :: protocolFeeBasisPoints ::
    if coinCreator = default then [] else [coinCreatorFeeBasisPoints]

theorem feeRates_ne_nil (coinCreator : Pubkey) : feeRates coinCreator ≠ [] := List.cons_ne_nil _ _

theorem length_feeRates (coinCreator : Pubkey) :
    (feeRates coinCreator).length = if coinCreator = default then 2 else 3 := by
  unfold feeRates
  split_ifs <;> rfl

theorem feeDenominator_eq (coinCreator : Pubkey) :
    feeDenominator coinCreator = 10000 + (feeRates coinCreator).sum := by
  unfold feeDenominator feeRates
  split_ifs <;> rfl

theorem fee_lt {x rate : ℕ} (hx : x < 2 ^ 64) (hrate : rate ≤ 10000) : x * rate ⌈/⌉ 10000 < 2 ^ 64 := by
  refine lt_of_le_of_lt ((ceilDiv_le_iff_le_smul (by norm_num)).mpr ?_) hx
  rw [smul_eq_mul, Nat.mul_comm 10000]
  exact Nat.mul_le_mul_left x hrate

theorem fee_eq (checks : Bool) (amount : UInt64) {rate : ℕ} (hrate : rate ≤ 10000) :
    UInt64.ofNat <$> computeFee checks amount.toNat rate =
      .ret (UInt64.ofNat (amount.toNat * rate ⌈/⌉ 10000)) := by
  rw [computeFee_eq amount.toNat_lt hrate, Outcome.ret_map]
  rfl

theorem coinCreatorFee_eq (checks : Bool) (amount : UInt64) (coinCreator : Pubkey) :
    (if coinCreator = default then Outcome.ret 0
      else UInt64.ofNat <$> computeFee checks amount.toNat coinCreatorFeeBasisPoints) =
      .ret (UInt64.ofNat (if coinCreator = default then 0
        else amount.toNat * coinCreatorFeeBasisPoints ⌈/⌉ 10000)) := by
  split_ifs
  · rfl
  · exact fee_eq checks amount (by decide)

theorem charged_feeRates (coinCreator : Pubkey) (x : ℕ) :
    Charges.charged 10000 (feeRates coinCreator) x =
      (x * lpFeeBasisPoints ⌈/⌉ 10000) + (x * protocolFeeBasisPoints ⌈/⌉ 10000) +
        if coinCreator = default then 0 else x * coinCreatorFeeBasisPoints ⌈/⌉ 10000 := by
  unfold feeRates
  split_ifs <;> simp [Nat.add_assoc]

theorem charged_lt_word (coinCreator : Pubkey) {x : ℕ} (hx : x < 2 ^ 64) :
    Charges.charged 10000 (feeRates coinCreator) x < 2 ^ 64 := by
  simp only [charged_feeRates, Nat.ceilDiv_eq_add_pred_div, lpFeeBasisPoints, protocolFeeBasisPoints,
    coinCreatorFeeBasisPoints]
  split_ifs <;> omega

theorem someFees_eq (checks : Bool) (amount : UInt64) :
    Word.add64 checks (UInt64.ofNat (amount.toNat * lpFeeBasisPoints ⌈/⌉ 10000))
        (UInt64.ofNat (amount.toNat * protocolFeeBasisPoints ⌈/⌉ 10000)) =
      .ret (UInt64.ofNat ((amount.toNat * lpFeeBasisPoints ⌈/⌉ 10000) +
        (amount.toNat * protocolFeeBasisPoints ⌈/⌉ 10000))) := by
  have hall := charged_lt_word default amount.toNat_lt
  rw [charged_feeRates, if_pos rfl, Nat.add_zero] at hall
  have hlp : (UInt64.ofNat (amount.toNat * lpFeeBasisPoints ⌈/⌉ 10000)).toNat = _ :=
    Word.toNat_ofNat (fee_lt amount.toNat_lt (by decide))
  have hprotocol : (UInt64.ofNat (amount.toNat * protocolFeeBasisPoints ⌈/⌉ 10000)).toNat = _ :=
    Word.toNat_ofNat (fee_lt amount.toNat_lt (by decide))
  rw [Word.add64_eq (by rwa [hlp, hprotocol]), hlp, hprotocol]

theorem totalFees_eq (checks : Bool) (amount : UInt64) (coinCreator : Pubkey) :
    Word.add64 checks (UInt64.ofNat ((amount.toNat * lpFeeBasisPoints ⌈/⌉ 10000) +
        (amount.toNat * protocolFeeBasisPoints ⌈/⌉ 10000)))
      (UInt64.ofNat (if coinCreator = default then 0
        else amount.toNat * coinCreatorFeeBasisPoints ⌈/⌉ 10000)) =
      .ret (UInt64.ofNat (Charges.charged 10000 (feeRates coinCreator) amount.toNat)) := by
  have hall := charged_lt_word coinCreator amount.toNat_lt
  rw [charged_feeRates] at hall ⊢
  have hsome := Word.toNat_ofNat ((Nat.le_add_right _ _).trans_lt hall)
  have hcreator := Word.toNat_ofNat ((Nat.le_add_left _ _).trans_lt hall)
  rw [Word.add64_eq (by rwa [hsome, hcreator]), hsome, hcreator]

/-! ## A sale -/

theorem toNat_out (hB : baseReserve ≠ 0) (hQ : quoteReserve ≠ 0) (base : ℕ) :
    (UInt64.ofNat (ConstantProduct.out baseReserve.toNat quoteReserve.toNat base)).toNat =
      ConstantProduct.out baseReserve.toNat quoteReserve.toNat base :=
  Word.toNat_ofNat ((ConstantProduct.out_lt (Word.pos_toNat hB) (Word.pos_toNat hQ) _).trans
    quoteReserve.toNat_lt)

/-- **A sale in closed form.** No 128-bit operation overflows and no cast truncates, so only the
slippage can panic. -/
theorem sellBaseInputInternal_eq (hB : baseReserve ≠ 0) (hQ : quoteReserve ≠ 0) {paid fees : ℕ}
    (hpaid : ConstantProduct.out baseReserve.toNat quoteReserve.toNat base.toNat = paid)
    (hfees : Charges.charged 10000 (feeRates coinCreator) paid = fees) :
    sellBaseInputInternal checks base slippageBasisPoints baseReserve quoteReserve coinCreator =
      if paid < fees then .ret (.error "Fees exceed total output; final quote is negative.")
      else (fun minQuote => .ok
        { uiQuote := UInt64.ofNat (paid - fees)
          minQuote
          internalQuoteAmountOut := UInt64.ofNat paid }) <$>
        calculateWithSlippageSell checks (UInt64.ofNat (paid - fees)) slippageBasisPoints := by
  have hden : 0 < baseReserve.toNat + base.toNat := Nat.add_pos_left (Word.pos_toNat hB) _
  have hsum := baseReserve.toNat_lt
  have hb := base.toNat_lt
  have hword := toNat_out hB hQ base.toNat
  have hlt := UInt64.toNat_lt (UInt64.ofNat paid)
  rw [hpaid] at hword
  have hfit := charged_lt_word coinCreator hlt
  rw [hword, hfees] at hfit
  rw [sellBaseInputInternal, if_neg (by simp [hB, hQ]),
    Word.mul_eq (Word.mul_lt_two_pow_128 quoteReserve.toNat_lt base.toNat_lt), Outcome.ret_bind,
    Word.add_eq (by omega), Outcome.ret_bind, Word.div_eq hden, Outcome.ret_map, Outcome.ret_bind]
  have hout : quoteReserve.toNat * base.toNat / (baseReserve.toNat + base.toNat) = paid := hpaid
  rw [hout, fee_eq checks _ (by decide), Outcome.ret_bind, fee_eq checks _ (by decide), Outcome.ret_bind,
    coinCreatorFee_eq, Outcome.ret_bind, someFees_eq, Outcome.ret_bind, totalFees_eq, Outcome.ret_bind, hword,
    hfees]
  have htotal : (UInt64.ofNat fees).toNat = fees := Word.toNat_ofNat hfit
  by_cases hover : paid < fees
  · rw [if_pos hover, if_pos (by rw [gt_iff_lt, UInt64.lt_iff_toNat_lt, hword, htotal]; exact hover)]
  · rw [if_neg hover, if_neg (by rw [gt_iff_lt, UInt64.lt_iff_toNat_lt, hword, htotal]; exact hover),
      Word.sub64_eq (by rw [hword, htotal]; omega), Outcome.ret_bind, hword, htotal]
    rfl

theorem sellBaseInputInternal_reserves_ne_zero {r : SellBaseInputResult}
    (h : sellBaseInputInternal checks base slippageBasisPoints baseReserve quoteReserve coinCreator =
      .ret (.ok r)) : baseReserve ≠ 0 ∧ quoteReserve ≠ 0 := by
  by_contra hz
  rw [sellBaseInputInternal, if_pos (by tauto)] at h
  cases h

/-- **What a sale pays, and what it charges.** -/
theorem sellBaseInputInternal_paid {r : SellBaseInputResult}
    (h : sellBaseInputInternal checks base slippageBasisPoints baseReserve quoteReserve coinCreator =
      .ret (.ok r)) :
    r.internalQuoteAmountOut.toNat = ConstantProduct.out baseReserve.toNat quoteReserve.toNat base.toNat ∧
      r.uiQuote.toNat + Charges.charged 10000 (feeRates coinCreator) r.internalQuoteAmountOut.toNat =
        r.internalQuoteAmountOut.toNat := by
  obtain ⟨hB, hQ⟩ := sellBaseInputInternal_reserves_ne_zero h
  have hout := toNat_out hB hQ base.toNat
  rw [sellBaseInputInternal_eq hB hQ rfl rfl] at h
  split_ifs at h with hover
  · cases h
  obtain ⟨minQuote, -, hr⟩ := Outcome.map_eq_ret.mp h
  obtain rfl := Except.ok.inj hr
  have hnet := Word.toNat_ofNat ((Nat.sub_le (ConstantProduct.out baseReserve.toNat quoteReserve.toNat base.toNat)
    (Charges.charged 10000 (feeRates coinCreator)
      (ConstantProduct.out baseReserve.toNat quoteReserve.toNat base.toNat))).trans_lt
        (hout ▸ UInt64.toNat_lt _))
  simp only
  rw [hout, hnet]
  exact ⟨rfl, Nat.sub_add_cancel (Nat.le_of_not_lt hover)⟩

/-- The least that a sale accepts is what the user receives, lowered by the slippage. -/
theorem sellBaseInputInternal_minQuote {r : SellBaseInputResult}
    (h : sellBaseInputInternal checks base slippageBasisPoints baseReserve quoteReserve coinCreator =
      .ret (.ok r)) : calculateWithSlippageSell checks r.uiQuote slippageBasisPoints = .ret r.minQuote := by
  obtain ⟨hB, hQ⟩ := sellBaseInputInternal_reserves_ne_zero h
  rw [sellBaseInputInternal_eq hB hQ rfl rfl] at h
  split_ifs at h with hover
  · cases h
  obtain ⟨minQuote, hmin, hr⟩ := Outcome.map_eq_ret.mp h
  obtain rfl := Except.ok.inj hr
  exact hmin

/-- **What a sale pays.** -/
theorem sellBaseInputInternal_ok {r : SellBaseInputResult}
    (h : sellBaseInputInternal checks base slippageBasisPoints baseReserve quoteReserve coinCreator =
      .ret (.ok r)) :
    baseReserve ≠ 0 ∧ quoteReserve ≠ 0 ∧ r.internalQuoteAmountOut.toNat =
      ConstantProduct.out baseReserve.toNat quoteReserve.toNat base.toNat ∧
      r.uiQuote ≤ r.internalQuoteAmountOut := by
  obtain ⟨hB, hQ⟩ := sellBaseInputInternal_reserves_ne_zero h
  obtain ⟨hout, hnet⟩ := sellBaseInputInternal_paid h
  exact ⟨hB, hQ, hout, UInt64.le_iff_toNat_le.mpr ((Nat.le_add_right _ _).trans hnet.le)⟩

end PumpTrade
