import PumpTrade.Calc.Slippage
import PumpTrade.Client.Trade

/-!
# Proportional amounts

`TradingClient::sell_by_percent` of `lib.rs`, and when the amounts that are in proportion to another
are exact: those raised or lowered by a slippage, and those that are a percentage.

* `percentParams`: the parameters with which a percentage is sold;
* **`scalers_exact_iff`**: the amounts are those of unbounded integers exactly where the product
  fits 64 bits, and where no full slippage leaves zero.
-/

namespace PumpTrade

open Base

/-- `sell_by_percent` up to its call of `sell`. -/
def percentParams (checks : Bool) (params : TradeSellParams) (amountToken percent : UInt64) :
    Outcome (Except Error TradeSellParams) :=
  if percent = 0 ∨ percent > 100 then .ret (.error (.other "Percentage must be between 1 and 100"))
  else do
    let product ← Word.mul64 checks amountToken percent
    return .ok { params with inputTokenAmount := product / 100 }

/-- A sale of a percentage along a schedule, as `TradingClient.sell`; `none` also where the product
panics. -/
def TradingClient.sellByPercent (client : TradingClient) (D : Derivations) (checks : Bool)
    (solStrToLamports : String → Option UInt64) (params : TradeSellParams) (amountToken percent : UInt64)
    (g : Globals) (sdk : Sdk) (texts : Texts) (world : World) (schedule : (n : ℕ) → List (Action n)) :
    Option (Except Error PumpTradeResult) :=
  match percentParams checks params amountToken percent with
  | .panic _ => none
  | .ret (.error e) => some (.error e)
  | .ret (.ok params) => client.sell D checks solStrToLamports params g sdk texts world schedule

/-- A sale of exactly this part of the tokens. -/
def TradeSellParams.part (params : TradeSellParams) (amountToken percent : UInt64) : TradeSellParams :=
  { params with inputTokenAmount := UInt64.ofNat (amountToken.toNat * percent.toNat / 100) }

variable {checks : Bool} {params : TradeSellParams} {amountToken percent : UInt64}

theorem percent_accepted (h : 1 ≤ percent ∧ percent ≤ 100) : ¬ (percent = 0 ∨ percent > 100) := by
  obtain ⟨hlow, hhigh⟩ := h
  rintro (rfl | hover)
  · exact absurd hlow (by decide)
  · exact absurd hhigh (UInt64.not_le.mpr hover)

/-- **A percentage is exact** exactly where the product fits. -/
theorem percentParams_exact_iff (checks : Bool) (params : TradeSellParams) (h : 1 ≤ percent ∧ percent ≤ 100) :
    percentParams checks params amountToken percent = .ret (.ok (params.part amountToken percent)) ↔
      amountToken.toNat * percent.toNat < 2 ^ 64 := by
  have hpercent : percent.toNat ≤ 100 := UInt64.le_iff_toNat_le.mp h.2
  have hpart : amountToken.toNat * percent.toNat / 100 < 2 ^ 64 := by
    have hle := Nat.mul_le_mul_left amountToken.toNat hpercent
    have hlt := amountToken.toNat_lt
    omega
  rw [percentParams, if_neg (percent_accepted h)]
  constructor
  · intro hret
    obtain ⟨product, hproduct, hparams⟩ := Outcome.bind_eq_ret.mp hret
    have hamount : product / 100 = UInt64.ofNat (amountToken.toNat * percent.toNat / 100) :=
      congrArg TradeSellParams.inputTokenAmount (Except.ok.inj (Outcome.ret.inj hparams))
    have hvalue := congrArg UInt64.toNat hamount
    rw [UInt64.toNat_div, mul64_ret hproduct, Word.toNat_ofNat hpart] at hvalue
    by_contra hwraps
    simp only [UInt64.reduceToNat] at hvalue
    generalize amountToken.toNat * percent.toNat = exact at hvalue hwraps
    omega
  · intro hfits
    obtain ⟨product, hproduct⟩ := mul64_returns.mpr fun _ => hfits
    have hamount : product / 100 = UInt64.ofNat (amountToken.toNat * percent.toNat / 100) := by
      rw [← UInt64.toNat_inj, UInt64.toNat_div, mul64_ret hproduct, Nat.mod_eq_of_lt hfits,
        Word.toNat_ofNat hpart]
      rfl
    rw [hproduct, Outcome.ret_bind, hamount]
    rfl

theorem sellByPercent_eq (client : TradingClient) (D : Derivations) (solStrToLamports : String → Option UInt64)
    (g : Globals) (sdk : Sdk) (texts : Texts) (world : World) (schedule : (n : ℕ) → List (Action n))
    (h : 1 ≤ percent ∧ percent ≤ 100) (hfits : amountToken.toNat * percent.toNat < 2 ^ 64) :
    client.sellByPercent D checks solStrToLamports params amountToken percent g sdk texts world schedule =
      client.sell D checks solStrToLamports (params.part amountToken percent) g sdk texts world schedule := by
  rw [TradingClient.sellByPercent, (percentParams_exact_iff checks params h).mpr hfits]

/-- **When proportional amounts are exact**, in every build. A raised amount that fits is exact
exactly where the product with the basis points fits 64 bits; a lowered one, and at least 1, where
besides no slippage of 100% takes an amount above 1; a percentage of the tokens where the product
with it fits. -/
theorem scalers_exact_iff (checks : Bool) (amount basisPoints : UInt64) (hbp : basisPoints.toNat ≤ 10000)
    (params : TradeSellParams) (amountToken percent : UInt64) (hpercent : 1 ≤ percent ∧ percent ≤ 100) :
    ((amount.toNat + amount.toNat * basisPoints.toNat / 10000 < 2 ^ 64 →
        calculateWithSlippageBuy checks amount basisPoints =
          .ret (UInt64.ofNat (amount.toNat + amount.toNat * basisPoints.toNat / 10000))) ↔
      (amount.toNat + amount.toNat * basisPoints.toNat / 10000 < 2 ^ 64 →
        amount.toNat * basisPoints.toNat < 2 ^ 64)) ∧
    (calculateWithSlippageSell checks amount basisPoints =
        .ret (UInt64.ofNat (max 1 (amount.toNat - amount.toNat * basisPoints.toNat / 10000))) ↔
      amount.toNat * basisPoints.toNat < 2 ^ 64 ∧ (basisPoints.toNat = 10000 → amount.toNat ≤ 1)) ∧
    (percentParams checks params amountToken percent = .ret (.ok (params.part amountToken percent)) ↔
      amountToken.toNat * percent.toNat < 2 ^ 64) := by
  refine ⟨?_, calculateWithSlippageSell_exact_iff checks hbp, percentParams_exact_iff checks params hpercent⟩
  exact forall_congr' fun hsum => calculateWithSlippageBuy_exact_iff checks hsum

/-- A sale of ten thousand units. -/
def samplePercentParams : TradeSellParams where
  dexType := .pumpFun
  outputTokenType := .sol
  mint := ⟨5⟩
  inputTokenAmount := 10000
  slippageBasisPoints := some 100
  recentBlockhash := none
  withTip := false
  extensionParams := .pumpFun default
  addressLookupTableAccount := none
  waitTransactionConfirmed := false
  createOutputTokenAta := false
  closeOutputTokenAta := false
  closeMintTokenAta := false
  durableNonce := none
  fixedOutputTokenAmount := none
  simulate := false

theorem scalers_exact_iff_small : calculateWithSlippageSell true 10000 100 = .ret 9900 ∧
    percentParams true samplePercentParams 10000 25 = .ret (.ok (samplePercentParams.part 10000 25)) := by
  obtain ⟨-, hsell, hpercent⟩ :=
    scalers_exact_iff true 10000 100 (by decide) samplePercentParams 10000 25 (by decide)
  exact ⟨hsell.mpr (by decide), hpercent.mpr (by decide)⟩

/-- In every build: twenty million tokens of nine decimals raised by 10%, two units lowered by 100%,
and all of two hundred million tokens are not what unbounded integers give. -/
theorem scalers_not_exact :
    (∀ checks, calculateWithSlippageBuy checks 20000000000000000 1000 ≠
      .ret (UInt64.ofNat (20000000000000000 + 20000000000000000 * 1000 / 10000))) ∧
    (∀ checks, calculateWithSlippageSell checks 2 10000 ≠ .ret (UInt64.ofNat (max 1 (2 - 2 * 10000 / 10000)))) ∧
    ∀ checks, percentParams checks samplePercentParams 200000000000000000 100 ≠
      .ret (.ok (samplePercentParams.part 200000000000000000 100)) := by
  refine ⟨by decide, by decide, fun checks h => ?_⟩
  exact absurd ((percentParams_exact_iff checks samplePercentParams (by decide)).mp h) (by decide)

end PumpTrade
