import PumpTrade.Calc.PumpSwap

/-!
# Quotes for a wanted output

`buy_base_input_internal` and `sell_quote_input_internal` of `utils/calc/pumpswap.rs`: the quote
tokens that buy an amount of base tokens, and the base tokens to sell for an amount of quote tokens.
Their quotients of 128 bits are narrowed to 64 bits without a check.

* `buyBaseInputInternal_eq`: a buy in closed form, where its total fits 64 bits;
* `buyBaseInputInternal_ne_error`: a buy of part of the reserve is never refused;
* `sellQuoteInputInternal_eq`: a sale in closed form, with its two casts.
-/

namespace PumpTrade

open Base

/-- Result of `buyBaseInputInternal`. -/
structure BuyBaseInputResult where
  internalQuoteAmount : UInt64
  uiQuote : UInt64
  maxQuote : UInt64
  deriving DecidableEq, Repr

/-- Result of `sellQuoteInputInternal`. -/
structure SellQuoteInputResult where
  internalRawQuote : UInt64
  base : UInt64
  minQuote : UInt64
  deriving DecidableEq, Repr

/-- `buy_base_input_internal` from its fees on. -/
def chargeBuy (checks : Bool) (quoteAmountIn slippageBasisPoints : UInt64) (coinCreator : Pubkey) :
    Outcome (Except String BuyBaseInputResult) := do
  let lpFee ← UInt64.ofNat <$> computeFee checks quoteAmountIn.toNat lpFeeBasisPoints
  let protocolFee ← UInt64.ofNat <$> computeFee checks quoteAmountIn.toNat protocolFeeBasisPoints
  let coinCreatorFee ← (if coinCreator = default then .ret 0
    else UInt64.ofNat <$> computeFee checks quoteAmountIn.toNat coinCreatorFeeBasisPoints)
  let withLpFee ← Word.add64 checks quoteAmountIn lpFee
  let withProtocolFee ← Word.add64 checks withLpFee protocolFee
  let totalQuote ← Word.add64 checks withProtocolFee coinCreatorFee
  let maxQuote ← calculateWithSlippageBuy checks totalQuote slippageBasisPoints
  return .ok
    { internalQuoteAmount := quoteAmountIn
      uiQuote := totalQuote
      maxQuote }

/-- Quote tokens needed for an amount of base tokens. -/
def buyBaseInputInternal (checks : Bool) (base slippageBasisPoints baseReserve quoteReserve : UInt64)
    (coinCreator : Pubkey) : Outcome (Except String BuyBaseInputResult) :=
  if baseReserve = 0 ∨ quoteReserve = 0 then .ret (.error invalidReserves)
  else if base > baseReserve then
    .ret (.error "Cannot buy more base tokens than the pool reserves.")
  else do
    let numerator ← Word.mul checks 128 quoteReserve.toNat base.toNat
    let denominator ← Word.sub64 checks baseReserve base
    if denominator = 0 then .ret (.error "Pool would be depleted; denominator is zero.")
    else do
      let quoteAmountIn ← UInt64.ofNat <$> ceilDiv checks numerator denominator.toNat
      chargeBuy checks quoteAmountIn slippageBasisPoints coinCreator

/-- All of an amount, in basis points. -/
def maxFeeBasisPoints : ℕ := 10000

/-- The quote amount from which the fees leave `userQuoteAmountOut`, the fees taken as one rate. -/
def calculateQuoteAmountOut (checks : Bool) (userQuoteAmountOut : UInt64)
    (lpFeeBasisPoints protocolFeeBasisPoints coinCreatorFeeBasisPoints : ℕ) : Outcome UInt64 := do
  let someFeeBasisPoints ← Word.add checks 64 lpFeeBasisPoints protocolFeeBasisPoints
  let totalFeeBasisPoints ← Word.add checks 64 someFeeBasisPoints coinCreatorFeeBasisPoints
  let denominator ← Word.sub checks 64 maxFeeBasisPoints totalFeeBasisPoints
  let product ← Word.mul checks 128 userQuoteAmountOut.toNat maxFeeBasisPoints
  UInt64.ofNat <$> ceilDiv checks product denominator

/-- Base tokens needed for an amount of quote tokens. -/
def sellQuoteInputInternal (checks : Bool) (quote slippageBasisPoints baseReserve quoteReserve : UInt64)
    (coinCreator : Pubkey) : Outcome (Except String SellQuoteInputResult) :=
  if baseReserve = 0 ∨ quoteReserve = 0 then .ret (.error invalidReserves)
  else if quote > quoteReserve then
    .ret (.error "Cannot receive more quote tokens than the pool quote reserves.")
  else do
    let rawQuote ← calculateQuoteAmountOut checks quote lpFeeBasisPoints protocolFeeBasisPoints
      (if coinCreator = default then 0 else coinCreatorFeeBasisPoints)
    if rawQuote ≥ quoteReserve then
      .ret (.error "Invalid input: Desired quote amount exceeds available reserve.")
    else do
      let product ← Word.mul checks 128 baseReserve.toNat rawQuote.toNat
      let denominator ← Word.sub64 checks quoteReserve rawQuote
      let baseAmountIn ← UInt64.ofNat <$> ceilDiv checks product denominator.toNat
      let minQuote ← calculateWithSlippageSell checks quote slippageBasisPoints
      .ret (.ok
        { internalRawQuote := rawQuote
          base := baseAmountIn
          minQuote })

/-! ## A quotient of words -/

theorem ceilDiv_mul_eq {a b c : ℕ} (ha : a < 2 ^ 64) (hb : b < 2 ^ 64) (hc : 0 < c) (hc' : c < 2 ^ 64)
    (checks : Bool) : ceilDiv checks (a * b) c = .ret (a * b ⌈/⌉ c) := by
  rw [ceilDiv_eq hc (Word.mul_add_lt_two_pow_128 ha hb hc')]
  rfl

variable {checks : Bool} {base quote slippageBasisPoints baseReserve quoteReserve : UInt64}
  {coinCreator : Pubkey}

/-! ## Buying an amount -/

theorem buyBaseInputInternal_eq_chargeBuy (hB : baseReserve ≠ 0) (hQ : quoteReserve ≠ 0)
    (hb : base < baseReserve) :
    buyBaseInputInternal checks base slippageBasisPoints baseReserve quoteReserve coinCreator =
      chargeBuy checks (UInt64.ofNat (ConstantProduct.cost quoteReserve.toNat baseReserve.toNat base.toNat))
        slippageBasisPoints coinCreator := by
  have hlt : base.toNat < baseReserve.toNat := UInt64.lt_iff_toNat_lt.mp hb
  have hBlt := baseReserve.toNat_lt
  have hdiff : (UInt64.ofNat (baseReserve.toNat - base.toNat)).toNat = baseReserve.toNat - base.toNat :=
    Word.toNat_ofNat (by omega)
  have hne : UInt64.ofNat (baseReserve.toNat - base.toNat) ≠ 0 := by
    intro hzero
    rw [hzero] at hdiff
    have hpos : 0 < baseReserve.toNat - base.toNat := by omega
    exact absurd hdiff hpos.ne
  rw [buyBaseInputInternal, if_neg (by simp [hB, hQ]), if_neg (UInt64.not_lt.mpr (UInt64.le_of_lt hb)),
    Word.mul_eq (Word.mul_lt_two_pow_128 quoteReserve.toNat_lt base.toNat_lt), Outcome.ret_bind,
    Word.sub64_eq hlt.le, Outcome.ret_bind, if_neg hne, hdiff,
    ceilDiv_mul_eq quoteReserve.toNat_lt base.toNat_lt (by omega) (by omega), Outcome.ret_map, Outcome.ret_bind]
  rfl

theorem chargeBuy_eq {quoteAmountIn : ℕ}
    (hfits : quoteAmountIn + Charges.charged 10000 (feeRates coinCreator) quoteAmountIn < 2 ^ 64) :
    chargeBuy checks (UInt64.ofNat quoteAmountIn) slippageBasisPoints coinCreator =
      (fun maxQuote => .ok
        { internalQuoteAmount := UInt64.ofNat quoteAmountIn
          uiQuote := UInt64.ofNat
            (quoteAmountIn + Charges.charged 10000 (feeRates coinCreator) quoteAmountIn)
          maxQuote }) <$>
        calculateWithSlippageBuy checks (UInt64.ofNat
          (quoteAmountIn + Charges.charged 10000 (feeRates coinCreator) quoteAmountIn))
          slippageBasisPoints := by
  have hin : (UInt64.ofNat quoteAmountIn).toNat = quoteAmountIn :=
    Word.toNat_ofNat ((Nat.le_add_right _ _).trans_lt hfits)
  rw [charged_feeRates, ← Nat.add_assoc, ← Nat.add_assoc] at hfits ⊢
  rw [chargeBuy, fee_eq checks _ (by decide), Outcome.ret_bind, fee_eq checks _ (by decide), Outcome.ret_bind,
    coinCreatorFee_eq, Outcome.ret_bind, hin]
  generalize quoteAmountIn * lpFeeBasisPoints ⌈/⌉ 10000 = lpFee at hfits ⊢
  generalize quoteAmountIn * protocolFeeBasisPoints ⌈/⌉ 10000 = protocolFee at hfits ⊢
  generalize (if coinCreator = default then 0 else quoteAmountIn * coinCreatorFeeBasisPoints ⌈/⌉ 10000) =
    coinCreatorFee at hfits ⊢
  have hlp : (UInt64.ofNat lpFee).toNat = lpFee := Word.toNat_ofNat (by omega)
  have hprotocol : (UInt64.ofNat protocolFee).toNat = protocolFee := Word.toNat_ofNat (by omega)
  have hcreator : (UInt64.ofNat coinCreatorFee).toNat = coinCreatorFee := Word.toNat_ofNat (by omega)
  have hwithLp : (UInt64.ofNat (quoteAmountIn + lpFee)).toNat = quoteAmountIn + lpFee :=
    Word.toNat_ofNat (by omega)
  have hwithProtocol : (UInt64.ofNat (quoteAmountIn + lpFee + protocolFee)).toNat =
      quoteAmountIn + lpFee + protocolFee := Word.toNat_ofNat (by omega)
  rw [Word.add64_eq (by omega), Outcome.ret_bind, hin, hlp, Word.add64_eq (by omega), Outcome.ret_bind, hwithLp,
    hprotocol, Word.add64_eq (by omega), Outcome.ret_bind, hwithProtocol, hcreator]
  rfl

theorem chargeBuy_ne_error (quoteAmountIn : UInt64) (e : String) :
    chargeBuy checks quoteAmountIn slippageBasisPoints coinCreator ≠ .ret (.error e) := by
  intro h
  obtain ⟨lpFee, -, h⟩ := Outcome.bind_eq_ret.mp h
  obtain ⟨protocolFee, -, h⟩ := Outcome.bind_eq_ret.mp h
  obtain ⟨coinCreatorFee, -, h⟩ := Outcome.bind_eq_ret.mp h
  obtain ⟨withLpFee, -, h⟩ := Outcome.bind_eq_ret.mp h
  obtain ⟨withProtocolFee, -, h⟩ := Outcome.bind_eq_ret.mp h
  obtain ⟨totalQuote, -, h⟩ := Outcome.bind_eq_ret.mp h
  obtain ⟨maxQuote, -, h⟩ := Outcome.bind_eq_ret.mp h
  cases h

theorem buyBaseInputInternal_refused (h : baseReserve = 0 ∨ quoteReserve = 0 ∨ baseReserve ≤ base) :
    ∃ e, buyBaseInputInternal checks base slippageBasisPoints baseReserve quoteReserve coinCreator =
      .ret (.error e) := by
  unfold buyBaseInputInternal
  split_ifs with hzero hover
  · exact ⟨_, rfl⟩
  · exact ⟨_, rfl⟩
  · have hall : base = baseReserve := by
      refine UInt64.le_antisymm (UInt64.not_lt.mp hover) ?_
      rcases h with h | h | h
      · exact absurd (Or.inl h) hzero
      · exact absurd (Or.inr h) hzero
      · exact h
    subst hall
    rw [Word.mul_eq (Word.mul_lt_two_pow_128 quoteReserve.toNat_lt base.toNat_lt), Outcome.ret_bind,
      Word.sub64_eq le_rfl, Outcome.ret_bind, Nat.sub_self]
    exact ⟨_, rfl⟩

/-! ## Selling for an amount -/

/-- The quote amount from which the fees leave `quote`, in unbounded integers. -/
def rawQuote (quote : ℕ) (coinCreator : Pubkey) : ℕ := quote * 10000 ⌈/⌉ (10000 - (feeRates coinCreator).sum)

theorem sum_feeRates (coinCreator : Pubkey) :
    (feeRates coinCreator).sum = 30 + if coinCreator = default then 0 else 5 := by
  unfold feeRates
  split_ifs <;> rfl

theorem calculateQuoteAmountOut_eq (checks : Bool) (quote : UInt64) (coinCreator : Pubkey) :
    calculateQuoteAmountOut checks quote lpFeeBasisPoints protocolFeeBasisPoints
        (if coinCreator = default then 0 else coinCreatorFeeBasisPoints) =
      .ret (UInt64.ofNat (rawQuote quote.toNat coinCreator)) := by
  have hrates : lpFeeBasisPoints + protocolFeeBasisPoints +
      (if coinCreator = default then 0 else coinCreatorFeeBasisPoints) = (feeRates coinCreator).sum := by
    rw [sum_feeRates]
    rfl
  have hsum : (feeRates coinCreator).sum ≤ 35 := by
    rw [sum_feeRates]
    split_ifs <;> omega
  have hq := quote.toNat_lt
  rw [calculateQuoteAmountOut, Word.add_eq (by decide), Outcome.ret_bind, Word.add_eq (by omega), Outcome.ret_bind,
    hrates, Word.sub_eq (hsum.trans (by decide)), Outcome.ret_bind, Word.mul_eq (by unfold maxFeeBasisPoints; omega),
    Outcome.ret_bind, ceilDiv_mul_eq hq (by decide) (Nat.sub_pos_of_lt (hsum.trans_lt (by decide)))
      (by unfold maxFeeBasisPoints; omega), Outcome.ret_map]
  rfl

/-- **A sale for an amount in closed form.** Both casts may truncate. -/
theorem sellQuoteInputInternal_eq (hB : baseReserve ≠ 0) (hQ : quoteReserve ≠ 0) (hq : quote ≤ quoteReserve)
    {raw : UInt64} (hraw : UInt64.ofNat (rawQuote quote.toNat coinCreator) = raw) :
    sellQuoteInputInternal checks quote slippageBasisPoints baseReserve quoteReserve coinCreator =
      if quoteReserve ≤ raw then
        .ret (.error "Invalid input: Desired quote amount exceeds available reserve.")
      else (fun minQuote => .ok
        { internalRawQuote := raw
          base := UInt64.ofNat (ConstantProduct.cost baseReserve.toNat quoteReserve.toNat raw.toNat)
          minQuote }) <$> calculateWithSlippageSell checks quote slippageBasisPoints := by
  rw [sellQuoteInputInternal, if_neg (by simp [hB, hQ]), if_neg (by simpa using hq),
    calculateQuoteAmountOut_eq, Outcome.ret_bind, hraw]
  by_cases hover : quoteReserve ≤ raw
  · rw [if_pos hover, if_pos hover]
  · have hlt : raw.toNat < quoteReserve.toNat := UInt64.lt_iff_toNat_lt.mp (UInt64.not_le.mp hover)
    have hQlt := quoteReserve.toNat_lt
    have hdiff : (UInt64.ofNat (quoteReserve.toNat - raw.toNat)).toNat = quoteReserve.toNat - raw.toNat :=
      Word.toNat_ofNat (by omega)
    rw [if_neg hover, if_neg hover,
      Word.mul_eq (Word.mul_lt_two_pow_128 baseReserve.toNat_lt raw.toNat_lt), Outcome.ret_bind,
      Word.sub64_eq hlt.le, Outcome.ret_bind, hdiff,
      ceilDiv_mul_eq baseReserve.toNat_lt raw.toNat_lt (by omega) (by omega), Outcome.ret_map, Outcome.ret_bind]
    rfl

end PumpTrade
