import PumpTrade.Instr.PumpFun

/-!
# What a curve buy asks for

The quote of a buy and the amount of tokens that its instruction asks for, against what the curve
pays for the lamports. Where the curve pays at most 100 tokens the quote is one of two fixed
amounts.

* `quote_le_iff`, `quote_mono_iff`: the quote function;
* `buy_minCredit_iff`: the instruction of a buy;
* **`buy_quote_iff`**: when the quote is bounded, when it is monotone and when a buy asks for no
  more than the curve pays.
-/

namespace PumpTrade

open Base

namespace BondingCurveAccount

variable (curve : BondingCurveAccount) (creator : Pubkey)

/-- The constant-product payment for the lamports without the fees. -/
def product (amount : UInt64) : ℕ :=
  ConstantProduct.out curve.virtualSolReserves.toNat curve.virtualTokenReserves.toNat
    (inputAmount creator amount.toNat)

/-- The payment, at most the real reserves. -/
def payment (amount : UInt64) : ℕ :=
  curvePayment curve.virtualTokenReserves.toNat curve.virtualSolReserves.toNat curve.realTokenReserves.toNat
    creator amount.toNat

theorem le_payment_iff {curve : BondingCurveAccount} {creator : Pubkey} {amount : UInt64} {n : ℕ} :
    n ≤ curve.payment creator amount ↔ n ≤ curve.realTokenReserves.toNat ∧ n ≤ curve.product creator amount := by
  rw [payment, curvePayment, le_min_iff, and_comm]
  rfl

end BondingCurveAccount

namespace PumpFun

/-- The quote as the builder asks for it. -/
def quote (checks : Bool) (solStrToLamports : String → Option UInt64) (curve : BondingCurveAccount)
    (creator : Pubkey) (amount : UInt64) : Outcome UInt64 :=
  getBuyTokenAmountFromSolAmount checks solStrToLamports curve.virtualTokenReserves.toNat
    curve.virtualSolReserves.toNat curve.realTokenReserves.toNat creator amount

/-- The amount quoted in place of a small payment. -/
def substitute (solStrToLamports : String → Option UInt64) (amount : UInt64) : ℕ :=
  smallQuote ((solStrToLamports "0.01").getD 0).toNat amount.toNat

/-- When a buy asks for no more than a payment: the payment is above 100 tokens, and in exact mode
the slippage does not exceed it; or the slippage takes the substituted amount down to the
payment. -/
def Affordable (exact : Bool) (slippage payment substitute : ℕ) : Prop :=
  if exact then
    (100000000 < payment ∧ (payment ≤ slippage / 10000 ∨ slippageAmount payment slippage ≤ payment)) ∨
      (payment ≤ 100000000 ∧ ((substitute ≤ slippage / 10000 ∧ 1 ≤ payment) ∨
        (slippage / 10000 < substitute ∧ slippageAmount substitute slippage ≤ substitute ∧
          substitute ≤ payment + slippageAmount substitute slippage)))
  else 100000000 < payment

variable {D : Derivations} {checks : Bool} {solStrToLamports : String → Option UInt64}
  {curve : BondingCurveAccount} {creator : Pubkey}

theorem quote_eq (hvt : 1 ≤ curve.virtualTokenReserves) (hvs : 1 ≤ curve.virtualSolReserves)
    (checks : Bool) (solStrToLamports : String → Option UInt64) (creator : Pubkey) (amount : UInt64) :
    ∃ q, quote checks solStrToLamports curve creator amount = .ret q ∧
      q.toNat = buyQuote ((solStrToLamports "0.01").getD 0).toNat curve.virtualTokenReserves.toNat
        curve.virtualSolReserves.toNat curve.realTokenReserves.toNat creator amount.toNat :=
  ⟨_, getBuyTokenAmountFromSolAmount_eq hvt hvs checks solStrToLamports creator amount,
    Word.toNat_ofNat (buyQuote_lt curve.realTokenReserves.toNat_lt)⟩

/-- **When the quote is bounded.** -/
theorem quote_le_iff (hvt : 1 ≤ curve.virtualTokenReserves) (hvs : 1 ≤ curve.virtualSolReserves)
    (checks : Bool) (solStrToLamports : String → Option UInt64) (creator : Pubkey) (amount : UInt64) :
    ∃ q, quote checks solStrToLamports curve creator amount = .ret q ∧
      (q.toNat ≤ curve.realTokenReserves.toNat ∧ q.toNat ≤ curve.product creator amount ↔
        amount = 0 ∨ 100000000 < curve.payment creator amount) := by
  obtain ⟨q, hq, hval⟩ := quote_eq hvt hvs checks solStrToLamports creator amount
  refine ⟨q, hq, ?_⟩
  have hzero : amount.toNat = 0 ↔ amount = 0 := by
    rw [← UInt64.toNat_inj]
    rfl
  rw [← BondingCurveAccount.le_payment_iff, hval, BondingCurveAccount.payment, buyQuote_le_iff, hzero]

/-- **When the quote is monotone.** -/
theorem quote_mono_iff (hvt : 1 ≤ curve.virtualTokenReserves) (hvs : 1 ≤ curve.virtualSolReserves)
    (checks : Bool) (solStrToLamports : String → Option UInt64) (creator : Pubkey) {a b : UInt64} (hab : a ≤ b) :
    ∃ qa qb, quote checks solStrToLamports curve creator a = .ret qa ∧
      quote checks solStrToLamports curve creator b = .ret qb ∧
      (qa ≤ qb ↔ a = 0 ∨ 100000000 < curve.payment creator a ∨ curve.payment creator b ≤ 100000000 ∨
        substitute solStrToLamports a ≤ curve.payment creator b) := by
  obtain ⟨qa, hqa, hvala⟩ := quote_eq hvt hvs checks solStrToLamports creator a
  obtain ⟨qb, hqb, hvalb⟩ := quote_eq hvt hvs checks solStrToLamports creator b
  refine ⟨qa, qb, hqa, hqb, ?_⟩
  have hzero : a.toNat = 0 ↔ a = 0 := by
    rw [← UInt64.toNat_inj]
    rfl
  have hpos : 0 < curve.virtualSolReserves.toNat := UInt64.le_iff_toNat_le.mp hvs
  rw [UInt64.le_iff_toNat_le, hvala, hvalb, buyQuote_mono_iff hpos (UInt64.le_iff_toNat_le.mp hab), hzero]
  rfl

/-- What is asked for against a payment, once the quote is either of the two. -/
theorem affordable_iff (checks : Bool) {params : InstructionParams} {amount payment minCredit : ℕ}
    {tokenAmount : UInt64}
    (htokens : tokenAmount.toNat = if payment ≤ 100000000 then amount else payment)
    (hsmall : 100000000 < amount)
    (hmin : if params.exact then ∃ minTokensOut,
        calculateWithSlippageSell checks tokenAmount params.slippage = .ret minTokensOut ∧
          minCredit = minTokensOut.toNat
      else minCredit = tokenAmount.toNat) :
    minCredit ≤ payment ↔ Affordable params.exact params.slippage.toNat payment amount := by
  have hle := slippageAmount_le tokenAmount.toNat params.slippage.toNat
  unfold Affordable
  split_ifs at hmin ⊢ with hexact
  · obtain ⟨minTokensOut, hsell, rfl⟩ := hmin
    rw [calculateWithSlippageSell_ret hsell]
    by_cases hpayment : payment ≤ 100000000
    · rw [if_pos hpayment] at htokens
      rw [htokens] at hle ⊢
      split_ifs <;> omega
    · rw [if_neg hpayment] at htokens
      rw [htokens] at hle ⊢
      split_ifs <;> omega
  · subst hmin
    split_ifs at htokens <;> omega

/-- **When a buy asks for no more than the curve pays.** -/
theorem buy_minCredit_iff {g : Globals} {params : InstructionParams} {curve : PumpFunParams}
    {instructions : List Instruction} (hvt : 1 ≤ curve.bondingCurve.virtualTokenReserves)
    (hvs : 1 ≤ curve.bondingCurve.virtualSolReserves) (hg : Reached D g)
    (hparams : params.protocolParams = .pumpFun curve) (hfixed : params.fixedOutputAmount = none)
    (h : ((buildBuyInstructions D checks solStrToLamports params).run g).1 = .ret (.ok instructions)) :
    ∃ creator effect, creatorOf D curve.creatorVault = .ret creator ∧ swaps instructions = [effect] ∧
      (effect.minCredit ≤ curve.bondingCurve.payment creator params.amount ↔
        Affordable params.exact params.slippage.toNat (curve.bondingCurve.payment creator params.amount)
          (substitute solStrToLamports params.amount)) := by
  obtain ⟨hrejects, curve', effect, hbuys⟩ := buy_returns.run hg.coherent h
  obtain rfl : curve' = curve := by simpa [hparams] using hbuys.params_eq.symm
  obtain ⟨creator, hcreator, tokenAmount, maxSolCost, htokens, -, hamounts⟩ := hbuys.amounts
  refine ⟨creator, effect, hcreator, hbuys.coin.swaps, ?_⟩
  obtain ⟨q, hq, hval⟩ := quote_eq hvt hvs checks solStrToLamports creator params.amount
  obtain rfl : tokenAmount = q := by
    rw [buyTokenAmount, hfixed] at htokens
    exact Outcome.ret.inj (htokens.symm.trans hq)
  have hne : params.amount.toNat ≠ 0 := by
    intro hzero
    exact hrejects fun _ _ => UInt64.toNat_inj.mp hzero
  rw [buyQuote, if_neg hne] at hval
  refine affordable_iff checks hval (lt_smallQuote _ _) ?_
  split_ifs at hamounts ⊢
  · exact hamounts.2
  · exact hamounts.2

/-- **When the quote is bounded, when it is monotone and when a buy asks for no more than the curve
pays.** -/
theorem buy_quote_iff {curve : PumpFunParams} (hvt : 1 ≤ curve.bondingCurve.virtualTokenReserves)
    (hvs : 1 ≤ curve.bondingCurve.virtualSolReserves) (D : Derivations) (checks : Bool)
    (solStrToLamports : String → Option UInt64) :
    (∀ creator amount, ∃ q, quote checks solStrToLamports curve.bondingCurve creator amount = .ret q ∧
      (q.toNat ≤ curve.bondingCurve.realTokenReserves.toNat ∧
          q.toNat ≤ curve.bondingCurve.product creator amount ↔
        amount = 0 ∨ 100000000 < curve.bondingCurve.payment creator amount)) ∧
    (∀ creator a b, a ≤ b → ∃ qa qb, quote checks solStrToLamports curve.bondingCurve creator a = .ret qa ∧
      quote checks solStrToLamports curve.bondingCurve creator b = .ret qb ∧
      (qa ≤ qb ↔ a = 0 ∨ 100000000 < curve.bondingCurve.payment creator a ∨
        curve.bondingCurve.payment creator b ≤ 100000000 ∨
        substitute solStrToLamports a ≤ curve.bondingCurve.payment creator b)) ∧
    ∀ g params instructions, Reached D g → params.protocolParams = .pumpFun curve →
      params.fixedOutputAmount = none →
      ((buildBuyInstructions D checks solStrToLamports params).run g).1 = .ret (.ok instructions) →
      ∃ creator effect, creatorOf D curve.creatorVault = .ret creator ∧ swaps instructions = [effect] ∧
        (effect.minCredit ≤ curve.bondingCurve.payment creator params.amount ↔
          Affordable params.exact params.slippage.toNat (curve.bondingCurve.payment creator params.amount)
            (substitute solStrToLamports params.amount)) := by
  refine ⟨fun creator amount => ?_, fun creator a b hab => ?_,
    fun g params instructions hg hparams hfixed h => ?_⟩
  · exact quote_le_iff hvt hvs checks solStrToLamports creator amount
  · exact quote_mono_iff hvt hvs checks solStrToLamports creator hab
  · exact buy_minCredit_iff hvt hvs hg hparams hfixed h

/-- The curve of a new coin. -/
def sampleCurve : PumpFunParams :=
  { (default : PumpFunParams) with bondingCurve := .initial, tokenProgram := tokenProgram }

/-- A buy on the curve of a new coin. -/
def sampleBuy (amount : UInt64) : InstructionParams where
  payer := ⟨⟨1⟩⟩
  inputMint := solTokenAccount
  outputMint := ⟨5⟩
  inputAmount := some amount
  slippageBasisPoints := some 100
  protocolParams := .pumpFun sampleCurve
  openSeedOptimize := true
  createInputMintAta := false
  closeInputMintAta := false
  createOutputMintAta := true
  closeOutputMintAta := false
  fixedOutputAmount := none
  useExactSolAmount := none

/-- 1000 lamports are quoted 255476 tokens where the curve pays 35.408998, more than 100000 lamports
are, and the instruction for them asks for more than the curve pays. -/
theorem small_buy_quote : ∃ q q' instructions,
    quote true (fun _ => some 10000000) .initial default 1000 = .ret q ∧
      ¬ q.toNat ≤ BondingCurveAccount.initial.product default 1000 ∧
      quote true (fun _ => some 10000000) .initial default 100000 = .ret q' ∧ ¬ q ≤ q' ∧
    ((buildBuyInstructions sampleDerivations true (fun _ => some 10000000) (sampleBuy 1000)).run
      (.withRents 2039280)).1 = .ret (.ok instructions) ∧
      ∃ effect ∈ swaps instructions, ¬ effect.minCredit ≤ BondingCurveAccount.initial.payment default 1000 := by
  refine ⟨255476000000, 3542962768, _, ?_, ?_, ?_, ?_, rfl, _, List.mem_cons_self, ?_⟩ <;> decide +kernel

/-- The theorem on the curve of a new coin: a million lamports ask for no more than the curve
pays. -/
theorem buy_quote_iff_initial : ∃ instructions,
    ((buildBuyInstructions sampleDerivations true (fun _ => some 10000000) (sampleBuy 1000000)).run
      (.withRents 2039280)).1 = .ret (.ok instructions) ∧ ∃ creator effect, swaps instructions = [effect] ∧
      effect.minCredit ≤ BondingCurveAccount.initial.payment creator 1000000 := by
  have hvt : 1 ≤ sampleCurve.bondingCurve.virtualTokenReserves := by decide
  have hvs : 1 ≤ sampleCurve.bondingCurve.virtualSolReserves := by decide
  obtain ⟨-, -, hbuy⟩ := buy_quote_iff hvt hvs sampleDerivations true fun _ => some 10000000
  obtain ⟨creator, effect, hcreator, hswaps, hmin⟩ := hbuy (.withRents 2039280) (sampleBuy 1000000) _
    (reached_withRents _ _) rfl rfl rfl
  obtain rfl : default = creator := Outcome.ret.inj hcreator
  refine ⟨_, rfl, default, effect, hswaps, hmin.mpr (Or.inl ⟨?_, Or.inr ?_⟩)⟩ <;> decide +kernel

end PumpFun

end PumpTrade
