import PumpTrade.Instr.PumpSwap

/-!
# What a pool trade may spend

The debit that an encoded pool trade allows, against what the caller offered and against what is
wrapped for it.

* **`sell_withinOffer_iff`**: when a sale is authorised to spend at most the offered amount;
* **`buy_funded_iff`**: when the wrapped lamports are in the account that the swap debits, and are
  enough.
-/

namespace PumpTrade.PumpSwap

open Base

variable {D : Derivations} {checks : Bool} {params : InstructionParams} {pool : PumpSwapParams} {g : Globals}
  {instructions : List Instruction}

/-! ## Sales -/

theorem sells_of_run (hg : Reached D g) (hparams : params.protocolParams = .pumpSwap pool)
    (h : ((buildSellInstructions D checks params).run g).1 = .ret (.ok instructions)) :
    ∃ effect, Sells D checks params pool instructions effect := by
  obtain ⟨-, pool', effect, hparams', hsells⟩ := sell_returns.run hg.coherent h
  obtain rfl : pool' = pool := by simpa [hparams] using hparams'.symm
  exact ⟨effect, hsells⟩

/-- **When a sale spends no more than was offered.** Where the quote is the coin, the encoded
maximum is the amount raised by the slippage. -/
theorem sell_withinOffer_iff (hg : Reached D g) (hparams : params.protocolParams = .pumpSwap pool)
    (h : ((buildSellInstructions D checks params).run g).1 = .ret (.ok instructions)) :
    ∃ effect, swaps instructions = [effect] ∧ effect.debitMint = pool.coin.1 ∧
      (effect.maxDebit ≤ params.amount.toNat ↔
        pool.quoteIsWsolOrUsdc ∨ slippageAmount params.amount.toNat params.slippage.toNat = 0 ∨
          2 ^ 64 ≤ params.amount.toNat + slippageAmount params.amount.toNat params.slippage.toNat) := by
  obtain ⟨effect, hsells⟩ := sells_of_run hg hparams h
  refine ⟨effect, hsells.coin.swaps, hsells.coin.debitMint, ?_⟩
  obtain ⟨amount, amounts, hamount, hamounts, hmax, -⟩ := hsells.amounts
  obtain rfl : params.amount = amount := by simp [InstructionParams.amount, hamount]
  have hlt := params.amount.toNat_lt
  have hslip := slippageAmount_lt params.amount.toNat params.slippage.toNat
  rw [hmax, sellAmounts_tokenAmount hamounts]
  by_cases hquote : pool.quoteIsWsolOrUsdc
  · simp [hquote]
  · rw [if_neg hquote]
    simp only [hquote, false_or]
    omega

/-- A trade of 1000 units in a pool of two mints of the Token program. -/
def sampleTrade (baseMint quoteMint : Pubkey) : InstructionParams where
  payer := ⟨⟨1⟩⟩
  inputMint := ⟨5⟩
  outputMint := wsolTokenAccount
  inputAmount := some 1000
  slippageBasisPoints := some 1000
  protocolParams := .pumpSwap
    { (default : PumpSwapParams) with
      baseMint
      quoteMint
      poolBaseTokenReserves := 1000000
      poolQuoteTokenReserves := 2000000
      baseTokenProgram := tokenProgram
      quoteTokenProgram := tokenProgram }
  openSeedOptimize := true
  createInputMintAta := true
  closeInputMintAta := true
  createOutputMintAta := true
  closeOutputMintAta := true
  fixedOutputAmount := none
  useExactSolAmount := none

/-- Where wrapped SOL is the base, the sale of 1000 units may spend 1100. -/
theorem sell_exceeds_offer : ∃ instructions,
    ((buildSellInstructions sampleDerivations true (sampleTrade wsolTokenAccount ⟨5⟩)).run .initial).1 =
        .ret (.ok instructions) ∧
      ∃ effect ∈ swaps instructions, effect.debitMint = ⟨5⟩ ∧ ¬ effect.maxDebit ≤ 1000 := by
  refine ⟨_, rfl, _, List.mem_cons_self, rfl, ?_⟩
  decide

/-- Where wrapped SOL is the quote, the sale spends no more. -/
theorem sell_withinOffer_iff_quote : ∃ instructions,
    ((buildSellInstructions sampleDerivations true (sampleTrade ⟨5⟩ wsolTokenAccount)).run .initial).1 =
        .ret (.ok instructions) ∧
      ∃ effect, swaps instructions = [effect] ∧ effect.debitMint = ⟨5⟩ ∧ effect.maxDebit ≤ 1000 := by
  obtain ⟨effect, hswaps, hmint, hmax⟩ := sell_withinOffer_iff (reached_initial sampleDerivations)
    (show (sampleTrade ⟨5⟩ wsolTokenAccount).protocolParams = .pumpSwap _ from rfl)
    (show ((buildSellInstructions sampleDerivations true _).run .initial).1 = .ret (.ok _) from rfl)
  exact ⟨_, rfl, effect, hswaps, hmint, hmax.mpr (Or.inl (Or.inl rfl))⟩

/-! ## Buys -/

theorem buys_of_run (hg : Reached D g) (hparams : params.protocolParams = .pumpSwap pool)
    (h : ((buildBuyInstructions D checks params).run g).1 = .ret (.ok instructions)) :
    ∃ effect, Buys D checks params pool instructions effect := by
  obtain ⟨-, pool', effect, hparams', hbuys⟩ := buy_returns.run hg.coherent h
  obtain rfl : pool' = pool := by simpa [hparams] using hparams'.symm
  exact ⟨effect, hbuys⟩

/-- The lamports moved before the swap are in the account that it debits and are all it may take,
and no other account of wrapped SOL is closed. -/
def Funded (instructions : List Instruction) : Prop :=
  ∃ effect lamports, swaps instructions = [effect] ∧ transfers instructions = [(effect.debitAccount, lamports)] ∧
    effect.maxDebit ≤ lamports ∧ ∀ account ∈ closed tokenProgram instructions, account = effect.debitAccount

theorem Buys.debitAccount_iff {effect : SwapEffect} {wsol : Pubkey}
    (hbuys : Buys D checks params pool instructions effect)
    (hseparates : Separates D params.payer.pubkey pool.money.1 pool.money.2 params.openSeedOptimize
      wsolTokenAccount tokenProgram false)
    (hwsol : ataAddress D params.payer.pubkey wsolTokenAccount tokenProgram false = .ret wsol) :
    wsol = effect.debitAccount ↔ pool.money = (wsolTokenAccount, tokenProgram) := by
  have hiff := hseparates.ret_iff hbuys.debitAccount
  rw [hwsol, Outcome.ret.injEq] at hiff
  rw [hiff, Prod.ext_iff]
  constructor
  · rintro ⟨hmint, hprogram, -⟩
    exact ⟨hmint, hprogram⟩
  · rintro ⟨hmint, hprogram⟩
    exact ⟨hmint, hprogram, by simp [usesSeed, show pool.money.1 = wsolTokenAccount from hmint]⟩

theorem BuyEffect.maxDebit_le_iff {amounts : Amounts} {maxDebit minCredit : ℕ}
    (heffect : BuyEffect checks params pool amounts maxDebit minCredit)
    (hamounts : buyAmounts checks params pool = .ret amounts) :
    maxDebit ≤ amounts.solAmount.toNat ↔ (pool.quoteIsWsolOrUsdc → params.exact = true →
      params.amount.toNat + slippageAmount params.amount.toNat params.slippage.toNat < 2 ^ 64) := by
  have hlt := params.amount.toNat_lt
  have hslip := slippageAmount_lt params.amount.toNat params.slippage.toNat
  have hsol := buyAmounts_solAmount hamounts
  unfold BuyEffect at heffect
  by_cases hexact : pool.quoteIsWsolOrUsdc ∧ params.exact = true
  · rw [if_pos hexact] at heffect
    rw [if_pos hexact.1] at hsol
    simp only [hexact.1, hexact.2, forall_true_left]
    omega
  · rw [if_neg hexact] at heffect
    exact ⟨fun _ hquote hexact' => absurd ⟨hquote, hexact'⟩ hexact, fun _ => heffect.1.le⟩

/-- **When the wrapped lamports fund the swap.** -/
theorem buy_funded_iff (hg : Reached D g) (hparams : params.protocolParams = .pumpSwap pool)
    (hcreate : params.createInputMintAta = true)
    (hseparates : Separates D params.payer.pubkey pool.money.1 pool.money.2 params.openSeedOptimize
      wsolTokenAccount tokenProgram false)
    (h : ((buildBuyInstructions D checks params).run g).1 = .ret (.ok instructions)) :
    Funded instructions ↔ pool.money = (wsolTokenAccount, tokenProgram) ∧
      (pool.quoteIsWsolOrUsdc → params.exact = true →
        params.amount.toNat + slippageAmount params.amount.toNat params.slippage.toNat < 2 ^ 64) := by
  obtain ⟨effect, hbuys⟩ := buys_of_run hg hparams h
  obtain ⟨amounts, hamounts, heffect, htransfers⟩ := hbuys.amounts
  obtain ⟨wsol, hwsol, htransfers⟩ := htransfers hcreate
  have haccount := hbuys.debitAccount_iff hseparates hwsol
  have hamount := heffect.maxDebit_le_iff hamounts
  constructor
  · rintro ⟨effect', lamports, hswaps, hmoved, hmax, -⟩
    obtain rfl : effect = effect' := by simpa using hbuys.coin.swaps.symm.trans hswaps
    rw [htransfers] at hmoved
    obtain ⟨rfl, rfl⟩ : wsol = effect.debitAccount ∧ amounts.solAmount.toNat = lamports := by simpa using hmoved
    exact ⟨haccount.mp rfl, hamount.mp hmax⟩
  · rintro ⟨hmoney, hfits⟩
    obtain rfl := haccount.mpr hmoney
    refine ⟨effect, _, hbuys.coin.swaps, htransfers, hamount.mpr hfits, fun account ha => ?_⟩
    exact Outcome.ret.inj ((hbuys.closed account ha).symm.trans hwsol)

theorem Funded.same_account (h : Funded instructions) :
    (swaps instructions).map SwapEffect.debitAccount = (transfers instructions).map Prod.fst := by
  obtain ⟨effect, lamports, hswaps, htransfers, -⟩ := h
  rw [hswaps, htransfers]
  rfl

/-- A buy in a pool of USDC wraps SOL. -/
theorem buy_not_funded : ∃ instructions,
    ((buildBuyInstructions sampleDerivations true (sampleTrade ⟨5⟩ usdcTokenAccount)).run
      (.withRents 2039280)).1 = .ret (.ok instructions) ∧ ¬ Funded instructions :=
  ⟨_, rfl, fun h => absurd h.same_account (by decide +kernel)⟩

/-- A buy in a pool of wrapped SOL is funded. -/
theorem buy_funded_iff_wsol : ∃ instructions,
    ((buildBuyInstructions sampleDerivations true (sampleTrade ⟨5⟩ wsolTokenAccount)).run
      (.withRents 2039280)).1 = .ret (.ok instructions) ∧ Funded instructions :=
  ⟨_, rfl, (buy_funded_iff (reached_withRents sampleDerivations 2039280)
    (show (sampleTrade ⟨5⟩ wsolTokenAccount).protocolParams = .pumpSwap _ from rfl) rfl
    (fun _ _ _ => ⟨rfl, rfl, by decide⟩)
    (show ((buildBuyInstructions sampleDerivations true _).run (.withRents 2039280)).1 = .ret (.ok _)
      from rfl)).mpr ⟨rfl, fun _ _ => by decide⟩⟩

end PumpTrade.PumpSwap
