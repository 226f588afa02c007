import PumpTrade.Calc.PumpSwap
import PumpTrade.Instr.Coin

/-!
# The PumpSwap builder

`instruction/pumpswap.rs`: the instructions of a buy and of a sale in a pool. The coin is bought
with the AMM's buy instructions where the quote is WSOL or USDC, and with its sell instruction where
the base is; a sale is the reverse.

* `PumpSwap.buildBuyInstructions`, `PumpSwap.buildSellInstructions`;
* **`PumpSwap.buy_returns`**: a buy that is built is one swap of the money of the pool for its coin;
* **`PumpSwap.sell_returns`**: a sale that is built is one swap of the coin for the money.
-/

namespace PumpTrade

open Base

namespace PumpSwap

/-- The fixed accounts, as the instructions name them. -/
def globalAccountMeta : AccountMeta := .newReadonly globalAccount false
def feeRecipientMeta : AccountMeta := .newReadonly feeRecipient false
def mayhemFeeRecipientMeta : AccountMeta := .newReadonly mayhemFeeRecipient false
def associatedTokenProgramMeta : AccountMeta := .newReadonly associatedTokenProgramId false
def eventAuthorityMeta : AccountMeta := .newReadonly eventAuthority false
def ammProgramMeta : AccountMeta := .newReadonly ammProgram false
def globalVolumeAccumulatorMeta : AccountMeta := .new globalVolumeAccumulator false
def feeConfigMeta : AccountMeta := .newReadonly feeConfig false
def feeProgramMeta : AccountMeta := .newReadonly feeProgram false

variable (D : Derivations)

/-- The account of the fee recipient, always one of the Token program. -/
def feeRecipientAta (feeRecipient quoteMint : Pubkey) : Cached Pubkey :=
  getAssociatedTokenAddressWithProgramIdFast D feeRecipient quoteMint tokenProgram

/-- The account of wrapped SOL of a user's volume accumulator. -/
def getUserVolumeAccumulatorWsolAta (user : Pubkey) : Cached (Option Pubkey) := do
  match ← getUserVolumeAccumulatorPda D user with
  | none => return none
  | some accumulator =>
    some <$> getAssociatedTokenAddressWithProgramIdFast D accumulator wsolTokenAccount tokenProgram

/-- The accounts for the volume of the user. -/
def volumeAccounts (payer : Pubkey) : Cached (List AccountMeta) := do
  let accumulator ← Prog.lift (Outcome.unwrap (← getUserVolumeAccumulatorPda D payer))
  return [globalVolumeAccumulatorMeta, .new accumulator false]

/-- The account for the cashback of a buy, where it can be derived. -/
def buyCashback (payer : Pubkey) : Cached (List AccountMeta) := do
  match ← getUserVolumeAccumulatorWsolAta D payer with
  | some wsolAta => return [.new wsolAta false]
  | none => return []

/-- The accounts for the cashback of a sale, where they can be derived. -/
def sellCashback (payer : Pubkey) : Cached (List AccountMeta) := do
  let wsolAta ← getUserVolumeAccumulatorWsolAta D payer
  let accumulator ← getUserVolumeAccumulatorPda D payer
  match wsolAta, accumulator with
  | some wsolAta, some accumulator => return [.new wsolAta false, .new accumulator false]
  | _, _ => return []

/-- The accounts of a buy and of a sale, with those for the volume and for the cashback. -/
def accounts (pool : PumpSwapParams) (payer userBase userQuote feeRecipientAta : Pubkey)
    (volume cashback : List AccountMeta) (poolV2 : Pubkey) : List AccountMeta :=
  [.new pool.pool false, .new payer true, globalAccountMeta, .newReadonly pool.baseMint false,
    .newReadonly pool.quoteMint false, .new userBase false, .new userQuote false,
    .new pool.poolBaseTokenAccount false, .new pool.poolQuoteTokenAccount false,
    if pool.isMayhemMode then mayhemFeeRecipientMeta else feeRecipientMeta, .new feeRecipientAta false,
    .newReadonly pool.baseTokenProgram false, .newReadonly pool.quoteTokenProgram false, systemProgramMeta,
    associatedTokenProgramMeta, eventAuthorityMeta, ammProgramMeta, .new pool.coinCreatorVaultAta false,
    .newReadonly pool.coinCreatorVaultAuthority false] ++
    volume ++ [feeConfigMeta, feeProgramMeta] ++ cashback ++ [.newReadonly poolV2 false]

variable (checks : Bool) (params : InstructionParams) (pool : PumpSwapParams)

/-- The amounts of a trade on its two sides. -/
structure Amounts where
  tokenAmount : UInt64
  solAmount : UInt64
  deriving DecidableEq, Repr

/-- What a buy expects and may spend. -/
def buyAmounts : Outcome Amounts :=
  if pool.quoteIsWsolOrUsdc then do
    let result ← unwrapText (← buyQuoteInputInternal checks params.amount params.slippage
      pool.poolBaseTokenReserves pool.poolQuoteTokenReserves pool.creator)
    return { tokenAmount := params.fixedOutputAmount.getD result.base, solAmount := result.maxQuote }
  else do
    let result ← unwrapText (← sellBaseInputInternal checks params.amount params.slippage
      pool.poolBaseTokenReserves pool.poolQuoteTokenReserves pool.creator)
    return { tokenAmount := params.fixedOutputAmount.getD result.minQuote, solAmount := params.amount }

/-- What a sale of an amount may spend and expects. -/
def sellAmounts (amount : UInt64) : Outcome Amounts :=
  if pool.quoteIsWsolOrUsdc then do
    let result ← unwrapText (← sellBaseInputInternal checks amount params.slippage pool.poolBaseTokenReserves
      pool.poolQuoteTokenReserves pool.creator)
    return { tokenAmount := amount, solAmount := params.fixedOutputAmount.getD result.minQuote }
  else do
    let result ← unwrapText (← buyQuoteInputInternal checks amount params.slippage pool.poolBaseTokenReserves
      pool.poolQuoteTokenReserves pool.creator)
    return { tokenAmount := result.maxQuote, solAmount := params.fixedOutputAmount.getD result.base }

/-- The data of a buy, which sells the base where the quote is not money. -/
def buyData (amounts : Amounts) : Outcome (List UInt8) :=
  if pool.quoteIsWsolOrUsdc then
    if params.exact then do
      let minBaseAmountOut ← calculateWithSlippageSell checks amounts.tokenAmount params.slippage
      return swapData buyExactQuoteInDiscriminator params.amount minBaseAmountOut
    else return swapData buyDiscriminator amounts.tokenAmount amounts.solAmount
  else return swapData sellDiscriminator amounts.solAmount amounts.tokenAmount

/-- The data of a sale, which buys the base where the quote is not money. -/
def sellData (amounts : Amounts) : List UInt8 :=
  if pool.quoteIsWsolOrUsdc then swapData sellDiscriminator amounts.tokenAmount amounts.solAmount
  else swapData buyDiscriminator amounts.solAmount amounts.tokenAmount

/-- The fee recipient's account for the quote. -/
def poolFeeRecipientAta : Cached Pubkey :=
  feeRecipientAta D (if pool.isMayhemMode then mayhemFeeRecipient else feeRecipient) pool.quoteMint

/-- The instructions of a buy. -/
def buildBuyInstructions : Cached (Except Error (List Instruction)) :=
  match params.protocolParams with
  | .pumpFun _ => return .error (.other "Invalid protocol params for PumpSwap")
  | .pumpSwap pool =>
    if params.amount = 0 then return .error (.other "Amount cannot be zero")
    else if ¬ pool.isWsol ∧ ¬ pool.isUsdc then return .error (.other "Pool must contain WSOL or USDC")
    else do
      let payer := params.payer.pubkey
      let amounts ← Prog.lift (buyAmounts checks params pool)
      let userBase ← getAssociatedTokenAddressWithProgramIdFastUseSeed D payer pool.baseMint
        pool.baseTokenProgram params.openSeedOptimize
      let userQuote ← getAssociatedTokenAddressWithProgramIdFastUseSeed D payer pool.quoteMint
        pool.quoteTokenProgram params.openSeedOptimize
      let feeRecipientAta ← poolFeeRecipientAta D pool
      let wrapped ← onlyIf params.createInputMintAta (handleWsol D payer amounts.solAmount)
      let created ← onlyIf params.createOutputMintAta
        (createAssociatedTokenAccountIdempotentFastUseSeed D payer payer pool.coin.1 pool.coin.2
          params.openSeedOptimize)
      let volume ← onlyIf (decide pool.quoteIsWsolOrUsdc) (volumeAccounts D payer)
      let cashback ← onlyIf pool.isCashbackCoin (buyCashback D payer)
      let poolV2 ← Prog.lift (Outcome.unwrap (← Prog.lift (getPoolV2Pda D pool.baseMint)))
      let data ← Prog.lift (buyData checks params pool amounts)
      let accounts := accounts pool payer userBase userQuote feeRecipientAta volume cashback poolV2
      let closed ← onlyIf params.closeInputMintAta (closeWsol D payer)
      return .ok (wrapped ++ (created ++ ([⟨ammProgram, accounts, data⟩] ++ closed)))

/-- The instructions of a sale. -/
def buildSellInstructions : Cached (Except Error (List Instruction)) :=
  match params.protocolParams with
  | .pumpFun _ => return .error (.other "Invalid protocol params for PumpSwap")
  | .pumpSwap pool =>
    if ¬ pool.isWsol ∧ ¬ pool.isUsdc then return .error (.other "Pool must contain WSOL or USDC")
    else match params.inputAmount with
    | none => return .error (.other "Token amount is not set")
    | some amount => do
      let payer := params.payer.pubkey
      let amounts ← Prog.lift (sellAmounts checks params pool amount)
      let feeRecipientAta ← poolFeeRecipientAta D pool
      let userBase ← getAssociatedTokenAddressWithProgramIdFastUseSeed D payer pool.baseMint
        pool.baseTokenProgram params.openSeedOptimize
      let userQuote ← getAssociatedTokenAddressWithProgramIdFastUseSeed D payer pool.quoteMint
        pool.quoteTokenProgram params.openSeedOptimize
      let created ← onlyIf params.createOutputMintAta (createWsolAta D payer)
      let volume ← onlyIf (!decide pool.quoteIsWsolOrUsdc) (volumeAccounts D payer)
      let cashback ← onlyIf pool.isCashbackCoin (sellCashback D payer)
      let poolV2 ← Prog.lift (Outcome.unwrap (← Prog.lift (getPoolV2Pda D pool.baseMint)))
      let accounts := accounts pool payer userBase userQuote feeRecipientAta volume cashback poolV2
      let closed ← onlyIf params.closeOutputMintAta (closeWsol D payer)
      let close := closeIf params.closeInputMintAta pool.coin.2 (pool.coinAccount userBase userQuote) payer
      return .ok (created ++ ([⟨ammProgram, accounts, sellData pool amounts⟩] ++ (closed ++ close)))

/-! ## What is built -/

/-- A pool that the builder refuses. -/
def RefusesPool : Prop := ¬ pool.isWsol ∧ ¬ pool.isUsdc

/-- A buy that the builder refuses. -/
def RejectsBuy : Prop :=
  ∀ pool, params.protocolParams = .pumpSwap pool → params.amount = 0 ∨ RefusesPool pool

/-- A sale that the builder refuses. -/
def RejectsSell : Prop :=
  ∀ pool, params.protocolParams = .pumpSwap pool → RefusesPool pool ∨ params.inputAmount = none

/-- The most that a buy spends, and the least that it accepts. -/
def BuyEffect (amounts : Amounts) (maxDebit minCredit : ℕ) : Prop :=
  if pool.quoteIsWsolOrUsdc ∧ params.exact then
    maxDebit = params.amount.toNat ∧ ∃ minBaseAmountOut,
      calculateWithSlippageSell checks amounts.tokenAmount params.slippage = .ret minBaseAmountOut ∧
        minCredit = minBaseAmountOut.toNat
  else maxDebit = amounts.solAmount.toNat ∧ minCredit = amounts.tokenAmount.toNat

/-- A buy in the pool: its money for its coin. -/
structure Buys (instructions : List Instruction) (effect : SwapEffect) : Prop where
  coin : BuysCoin D params pool.coin instructions effect
  debitMint : effect.debitMint = pool.money.1
  debitAccount :
    ataAddress D params.payer.pubkey pool.money.1 pool.money.2 params.openSeedOptimize = .ret effect.debitAccount
  amounts : ∃ amounts, buyAmounts checks params pool = .ret amounts ∧
    BuyEffect checks params pool amounts effect.maxDebit effect.minCredit ∧
    (params.createInputMintAta = true → ∃ wsol,
      ataAddress D params.payer.pubkey wsolTokenAccount tokenProgram false = .ret wsol ∧
      transfers instructions = [(wsol, amounts.solAmount.toNat)])
  closed : AreWsol D params (closed tokenProgram instructions)

/-- A sale in the pool: its coin for its money. -/
structure Sells (instructions : List Instruction) (effect : SwapEffect) : Prop where
  coin : SellsCoin D params pool.coin instructions effect
  creditMint : effect.creditMint = pool.money.1
  creditAccount :
    ataAddress D params.payer.pubkey pool.money.1 pool.money.2 params.openSeedOptimize = .ret effect.creditAccount
  amounts : ∃ amount amounts, params.inputAmount = some amount ∧
    sellAmounts checks params pool amount = .ret amounts ∧ effect.maxDebit = amounts.tokenAmount.toNat ∧
    effect.minCredit = amounts.solAmount.toNat

variable {D} {checks} {params} {pool}

theorem buy_of_rejects (h : RejectsBuy params) : ∃ e, buildBuyInstructions D checks params = .ret (.error e) := by
  unfold buildBuyInstructions
  split
  · exact ⟨_, rfl⟩
  · rename_i pool hparams
    split_ifs with hzero hkind
    · exact ⟨_, rfl⟩
    · exact ⟨_, rfl⟩
    · exact absurd (h pool hparams) (not_or.mpr ⟨hzero, hkind⟩)

theorem sell_of_rejects (h : RejectsSell params) :
    ∃ e, buildSellInstructions D checks params = .ret (.error e) := by
  unfold buildSellInstructions
  split
  · exact ⟨_, rfl⟩
  · rename_i pool hparams
    split_ifs with hkind
    · exact ⟨_, rfl⟩
    · rw [(h pool hparams).resolve_left hkind]
      exact ⟨_, rfl⟩

theorem userVolumeAccumulator_returns (user : Pubkey) :
    (getUserVolumeAccumulatorPda D user).Returns (Coherent D) fun _ => True :=
  (gives_getCachedPda (.pumpSwapUserVolume user)).returns.mono fun _ _ => trivial

theorem volumeAccounts_returns (payer : Pubkey) :
    (volumeAccounts D payer).Returns (Coherent D) fun _ => True := by
  refine (userVolumeAccumulator_returns payer).bind fun pda _ => ?_
  exact (Prog.returns_lift _).bind fun _ _ => Prog.returns_ret trivial

theorem wsolAta_returns (user : Pubkey) :
    (getUserVolumeAccumulatorWsolAta D user).Returns (Coherent D) fun _ => True := by
  refine (userVolumeAccumulator_returns user).bind fun accumulator _ => ?_
  cases accumulator with
  | none => exact Prog.returns_ret trivial
  | some accumulator => exact (userAccount_returns _ _ _ _).bind fun _ _ => Prog.returns_ret trivial

theorem buyCashback_returns (payer : Pubkey) :
    (buyCashback D payer).Returns (Coherent D) fun _ => True := by
  refine (wsolAta_returns payer).bind fun wsolAta _ => ?_
  cases wsolAta with
  | none => exact Prog.returns_ret trivial
  | some wsolAta => exact Prog.returns_ret trivial

theorem sellCashback_returns (payer : Pubkey) :
    (sellCashback D payer).Returns (Coherent D) fun _ => True := by
  refine (wsolAta_returns payer).bind fun wsolAta _ => ?_
  refine (userVolumeAccumulator_returns payer).bind fun accumulator _ => ?_
  cases wsolAta with
  | none => exact Prog.returns_ret trivial
  | some wsolAta =>
    cases accumulator with
    | none => exact Prog.returns_ret trivial
    | some accumulator => exact Prog.returns_ret trivial

theorem read_accounts (pool : PumpSwapParams) (payer userBase userQuote feeRecipientAta : Pubkey)
    (volume cashback : List AccountMeta) (poolV2 : Pubkey) (data : List UInt8) :
    Instruction.pumpSwapAccounts? ⟨ammProgram, accounts pool payer userBase userQuote feeRecipientAta volume
      cashback poolV2, data⟩ = some ⟨pool.baseMint, pool.quoteMint, userBase, userQuote⟩ := rfl

section Sides

variable {owner userBase userQuote : Pubkey} {useSeed : Bool}

theorem coinAccount_address
    (hbase : ataAddress D owner pool.baseMint pool.baseTokenProgram useSeed = .ret userBase)
    (hquote : ataAddress D owner pool.quoteMint pool.quoteTokenProgram useSeed = .ret userQuote) :
    ataAddress D owner pool.coin.1 pool.coin.2 useSeed = .ret (pool.coinAccount userBase userQuote) := by
  unfold PumpSwapParams.coin PumpSwapParams.coinAccount
  split_ifs
  · exact hbase
  · exact hquote

theorem moneyAccount_address
    (hbase : ataAddress D owner pool.baseMint pool.baseTokenProgram useSeed = .ret userBase)
    (hquote : ataAddress D owner pool.quoteMint pool.quoteTokenProgram useSeed = .ret userQuote) :
    ataAddress D owner pool.money.1 pool.money.2 useSeed = .ret (pool.moneyAccount userBase userQuote) := by
  unfold PumpSwapParams.money PumpSwapParams.moneyAccount
  split_ifs
  · exact hquote
  · exact hbase

end Sides

/-- Money for coin. -/
def buyOf (pool : PumpSwapParams) (userBase userQuote : Pubkey) (maxDebit minCredit : ℕ) : SwapEffect :=
  ⟨pool.money.1, pool.moneyAccount userBase userQuote, maxDebit, pool.coin.1,
    pool.coinAccount userBase userQuote, minCredit⟩

/-- Coin for money. -/
def sellOf (pool : PumpSwapParams) (userBase userQuote : Pubkey) (maxDebit minCredit : ℕ) : SwapEffect :=
  ⟨pool.coin.1, pool.coinAccount userBase userQuote, maxDebit, pool.money.1,
    pool.moneyAccount userBase userQuote, minCredit⟩

theorem effects_of_quote (h : pool.quoteIsWsolOrUsdc) (userBase userQuote : Pubkey) (maxDebit minCredit : ℕ) :
    SwapAccounts.buys ⟨pool.baseMint, pool.quoteMint, userBase, userQuote⟩ maxDebit minCredit =
        buyOf pool userBase userQuote maxDebit minCredit ∧
      SwapAccounts.sells ⟨pool.baseMint, pool.quoteMint, userBase, userQuote⟩ maxDebit minCredit =
        sellOf pool userBase userQuote maxDebit minCredit := by
  simp only [SwapAccounts.buys, SwapAccounts.sells, buyOf, sellOf, PumpSwapParams.money, PumpSwapParams.coin,
    PumpSwapParams.moneyAccount, PumpSwapParams.coinAccount, if_pos h, and_self]

theorem effects_of_base (h : ¬ pool.quoteIsWsolOrUsdc) (userBase userQuote : Pubkey) (maxDebit minCredit : ℕ) :
    SwapAccounts.sells ⟨pool.baseMint, pool.quoteMint, userBase, userQuote⟩ maxDebit minCredit =
        buyOf pool userBase userQuote maxDebit minCredit ∧
      SwapAccounts.buys ⟨pool.baseMint, pool.quoteMint, userBase, userQuote⟩ maxDebit minCredit =
        sellOf pool userBase userQuote maxDebit minCredit := by
  simp only [SwapAccounts.buys, SwapAccounts.sells, buyOf, sellOf, PumpSwapParams.money, PumpSwapParams.coin,
    PumpSwapParams.moneyAccount, PumpSwapParams.coinAccount, if_neg h, and_self]

theorem buyEffect_exact (h : pool.quoteIsWsolOrUsdc ∧ params.exact) {amounts : Amounts}
    {minBaseAmountOut : UInt64}
    (hmin : calculateWithSlippageSell checks amounts.tokenAmount params.slippage = .ret minBaseAmountOut) :
    BuyEffect checks params pool amounts params.amount.toNat minBaseAmountOut.toNat := by
  rw [BuyEffect, if_pos h]
  exact ⟨rfl, minBaseAmountOut, hmin, rfl⟩

theorem buyEffect_plain (h : ¬ (pool.quoteIsWsolOrUsdc ∧ params.exact)) (amounts : Amounts) :
    BuyEffect checks params pool amounts amounts.solAmount.toNat amounts.tokenAmount.toNat := by
  rw [BuyEffect, if_neg h]
  exact ⟨rfl, rfl⟩

theorem buyData_effect {amounts : Amounts} {data : List UInt8}
    (h : buyData checks params pool amounts = .ret data) :
    ∃ discriminator first second maxDebit minCredit, data = swapData discriminator first second ∧
      discriminator.length = 8 ∧ BuyEffect checks params pool amounts maxDebit minCredit ∧
      ∀ userBase userQuote,
        SwapAccounts.effect? ⟨pool.baseMint, pool.quoteMint, userBase, userQuote⟩ buyExactQuoteInDiscriminator
          discriminator first.toNat second.toNat = some (buyOf pool userBase userQuote maxDebit minCredit) := by
  unfold buyData at h
  by_cases hquote : pool.quoteIsWsolOrUsdc
  · rw [if_pos hquote] at h
    have hbuys := fun userBase userQuote maxDebit minCredit =>
      (effects_of_quote hquote userBase userQuote maxDebit minCredit).1
    by_cases hexact : params.exact
    · rw [if_pos hexact] at h
      obtain ⟨minBaseAmountOut, hmin, hdata⟩ := Outcome.bind_eq_ret.mp h
      refine ⟨_, _, _, _, _, (Outcome.ret.inj hdata).symm, rfl, buyEffect_exact ⟨hquote, hexact⟩ hmin, ?_⟩
      intro userBase userQuote
      rw [SwapAccounts.effect?_exact, hbuys]
    · rw [if_neg hexact] at h
      refine ⟨_, _, _, _, _, (Outcome.ret.inj h).symm, rfl, buyEffect_plain (fun hc => hexact hc.2) amounts, ?_⟩
      intro userBase userQuote
      rw [SwapAccounts.effect?_buy _ (by decide), hbuys]
  · rw [if_neg hquote] at h
    refine ⟨_, _, _, _, _, (Outcome.ret.inj h).symm, rfl, buyEffect_plain (fun hc => hquote hc.1) amounts, ?_⟩
    intro userBase userQuote
    rw [SwapAccounts.effect?_sell _ (by decide), (effects_of_base hquote _ _ _ _).1]

theorem sellData_effect (pool : PumpSwapParams) (amounts : Amounts) :
    ∃ discriminator first second, sellData pool amounts = swapData discriminator first second ∧
      discriminator.length = 8 ∧ ∀ userBase userQuote,
        SwapAccounts.effect? ⟨pool.baseMint, pool.quoteMint, userBase, userQuote⟩ buyExactQuoteInDiscriminator
          discriminator first.toNat second.toNat =
            some (sellOf pool userBase userQuote amounts.tokenAmount.toNat amounts.solAmount.toNat) := by
  unfold sellData
  by_cases hquote : pool.quoteIsWsolOrUsdc
  · rw [if_pos hquote]
    refine ⟨_, _, _, rfl, rfl, fun userBase userQuote => ?_⟩
    rw [SwapAccounts.effect?_sell _ (by decide), (effects_of_quote hquote _ _ _ _).2]
  · rw [if_neg hquote]
    refine ⟨_, _, _, rfl, rfl, fun userBase userQuote => ?_⟩
    rw [SwapAccounts.effect?_buy _ (by decide), (effects_of_base hquote _ _ _ _).2]

/-! ## The amounts -/

/-- What a buy may spend before it is encoded: the amount, raised by the slippage where the quote is
spent. -/
theorem buyAmounts_solAmount {amounts : Amounts} (h : buyAmounts checks params pool = .ret amounts) :
    amounts.solAmount.toNat =
      if pool.quoteIsWsolOrUsdc then
        (params.amount.toNat + slippageAmount params.amount.toNat params.slippage.toNat) % 2 ^ 64
      else params.amount.toNat := by
  unfold buyAmounts at h
  split_ifs at h ⊢
  · obtain ⟨quoted, hquoted, h⟩ := Outcome.bind_eq_ret.mp h
    obtain ⟨result, hresult, h⟩ := Outcome.bind_eq_ret.mp h
    obtain rfl := Outcome.ret.inj h
    rw [unwrapText_eq_ret.mp hresult] at hquoted
    exact calculateWithSlippageBuy_ret (buyQuoteInputInternal_maxQuote hquoted)
  · obtain ⟨quoted, -, h⟩ := Outcome.bind_eq_ret.mp h
    obtain ⟨result, -, h⟩ := Outcome.bind_eq_ret.mp h
    obtain rfl := Outcome.ret.inj h
    rfl

/-- What a sale may spend: the amount, raised by the slippage where the quote is spent. -/
theorem sellAmounts_tokenAmount {amount : UInt64} {amounts : Amounts}
    (h : sellAmounts checks params pool amount = .ret amounts) :
    amounts.tokenAmount.toNat =
      if pool.quoteIsWsolOrUsdc then amount.toNat
      else (amount.toNat + slippageAmount amount.toNat params.slippage.toNat) % 2 ^ 64 := by
  unfold sellAmounts at h
  split_ifs at h ⊢
  · obtain ⟨quoted, -, h⟩ := Outcome.bind_eq_ret.mp h
    obtain ⟨result, -, h⟩ := Outcome.bind_eq_ret.mp h
    obtain rfl := Outcome.ret.inj h
    rfl
  · obtain ⟨quoted, hquoted, h⟩ := Outcome.bind_eq_ret.mp h
    obtain ⟨result, hresult, h⟩ := Outcome.bind_eq_ret.mp h
    obtain rfl := Outcome.ret.inj h
    rw [unwrapText_eq_ret.mp hresult] at hquoted
    exact calculateWithSlippageBuy_ret (buyQuoteInputInternal_maxQuote hquoted)

/-! ## The instructions -/

/-- **A buy that is built** is one swap of the money of the pool for its coin. -/
theorem buy_returns : (buildBuyInstructions D checks params).Returns (Coherent D)
    (Built (RejectsBuy params) fun instructions =>
      ∃ pool effect, params.protocolParams = .pumpSwap pool ∧ Buys D checks params pool instructions effect) := by
  unfold buildBuyInstructions
  split
  · rename_i hparams
    exact Prog.returns_ret fun pool hpool => by simp [hparams] at hpool
  rename_i pool hparams
  have hpool : ∀ pool', params.protocolParams = .pumpSwap pool' → pool' = pool := by
    intro pool' h
    simpa [hparams] using h.symm
  refine Prog.returns_ite (fun hzero => Prog.returns_ret fun _ _ => Or.inl hzero) fun hne => ?_
  refine Prog.returns_ite (fun hrefuses => Prog.returns_ret fun pool' h => Or.inr (hpool pool' h ▸ hrefuses))
    fun hkind => ?_
  have hrejects : ¬ RejectsBuy params := fun h => (h pool hparams).elim hne hkind
  refine (Prog.returns_lift _).bind fun amounts hamounts => ?_
  refine (userAccount_returns _ _ _ _).bind fun userBase hbase => ?_
  refine (userAccount_returns _ _ _ _).bind fun userQuote hquote => ?_
  refine (userAccount_returns _ _ _ _).bind fun feeRecipientAta _ => ?_
  refine (wrapped_returns _ _).bind ?_
  rintro wrapped ⟨moved, wsol, hwrapped, hwsol, hmoved⟩
  refine (created_returns _ _ _ _ _).bind ?_
  rintro created ⟨accounts, hcreated⟩
  refine (onlyIf_returns (fun _ => volumeAccounts_returns _) fun _ => trivial).bind fun volume _ => ?_
  refine (onlyIf_returns (fun _ => buyCashback_returns _) fun _ => trivial).bind fun cashback _ => ?_
  refine (Prog.returns_lift _).bind fun pda _ => ?_
  refine (Prog.returns_lift _).bind fun poolV2 _ => ?_
  refine (Prog.returns_lift _).bind fun data hdata => ?_
  refine (closedWsol_returns _).bind ?_
  rintro after ⟨hswaps, htransfers, hopened, hclosed⟩
  obtain ⟨discriminator, first, second, maxDebit, minCredit, rfl, hlength, heffect, hreads⟩ :=
    buyData_effect hdata
  have hswap := (swap?_pumpSwap hlength (read_accounts pool params.payer.pubkey userBase userQuote feeRecipientAta
    volume cashback poolV2 _)).trans (hreads userBase userQuote)
  obtain ⟨hmoves, hopens, hcloses⟩ := swap_quiet hswap tokenProgram
  have hcoin : BuysCoin D params pool.coin _ _ :=
    buysCoin_of_parts hwrapped hwsol hcreated hswap hopens ⟨hswaps, hopened⟩ rfl
      (coinAccount_address hbase hquote)
  refine Prog.returns_ret ⟨hrejects, pool, _, hparams, hcoin, rfl, moneyAccount_address hbase hquote,
    ⟨amounts, hamounts, heffect, fun hflag => ?_⟩, ?_⟩
  · obtain ⟨account, haccount, rfl⟩ := hmoved hflag
    refine ⟨account, haccount, ?_⟩
    simp only [transfers_append, hwrapped.transfers, hcreated.1.transfers, hmoves, htransfers, List.append_nil]
  · simp only [closed_append, hwrapped.closed, hcreated.1.closed, hcloses, List.nil_append]
    exact hclosed tokenProgram

/-- **A sale that is built** is one swap of the coin of the pool for its money. -/
theorem sell_returns : (buildSellInstructions D checks params).Returns (Coherent D)
    (Built (RejectsSell params) fun instructions =>
      ∃ pool effect, params.protocolParams = .pumpSwap pool ∧ Sells D checks params pool instructions effect) := by
  unfold buildSellInstructions
  split
  · rename_i hparams
    exact Prog.returns_ret fun pool hpool => by simp [hparams] at hpool
  rename_i pool hparams
  have hpool : ∀ pool', params.protocolParams = .pumpSwap pool' → pool' = pool := by
    intro pool' h
    simpa [hparams] using h.symm
  refine Prog.returns_ite (fun hrefuses => Prog.returns_ret fun pool' h => Or.inl (hpool pool' h ▸ hrefuses))
    fun hkind => ?_
  split
  · rename_i hnone
    exact Prog.returns_ret fun _ _ => Or.inr hnone
  rename_i amount hamount
  have hrejects : ¬ RejectsSell params := fun h => (h pool hparams).elim hkind (by simp [hamount])
  refine (Prog.returns_lift _).bind fun amounts hamounts => ?_
  refine (userAccount_returns _ _ _ _).bind fun feeRecipientAta _ => ?_
  refine (userAccount_returns _ _ _ _).bind fun userBase hbase => ?_
  refine (userAccount_returns _ _ _ _).bind fun userQuote hquote => ?_
  refine (createdWsol_returns _).bind ?_
  rintro created ⟨wsol, hcreated⟩
  refine (onlyIf_returns (fun _ => volumeAccounts_returns _) fun _ => trivial).bind fun volume _ => ?_
  refine (onlyIf_returns (fun _ => sellCashback_returns _) fun _ => trivial).bind fun cashback _ => ?_
  refine (Prog.returns_lift _).bind fun pda _ => ?_
  refine (Prog.returns_lift _).bind fun poolV2 _ => ?_
  refine (closedWsol_returns _).bind ?_
  rintro closedWsol ⟨hswaps, -, -, hwsol⟩
  obtain ⟨discriminator, first, second, hdata, hlength, hreads⟩ := sellData_effect pool amounts
  rw [hdata]
  have hswap := (swap?_pumpSwap hlength (read_accounts pool params.payer.pubkey userBase userQuote feeRecipientAta
    volume cashback poolV2 _)).trans (hreads userBase userQuote)
  have hafter : swaps (closedWsol ++ closeIf params.closeInputMintAta pool.coin.2
      (pool.coinAccount userBase userQuote) params.payer.pubkey) = [] := by
    simp only [swaps_append, hswaps, swaps_closeIf, List.append_nil]
  have hclosed : closed pool.coin.2 (closedWsol ++ closeIf params.closeInputMintAta pool.coin.2
      (pool.coinAccount userBase userQuote) params.payer.pubkey) = closed pool.coin.2 closedWsol ++
        (if params.closeInputMintAta then [pool.coinAccount userBase userQuote] else []) := by
    rw [closed_append, closed_closeIf]
  have hcoin : SellsCoin D params pool.coin _ _ :=
    sellsCoin_of_parts hcreated hswap (swap_quiet hswap _).2.2 hafter rfl (coinAccount_address hbase hquote)
      hclosed (hwsol _) (closes_of_flag (fun hclose => hclose) (pool.coinAccount userBase userQuote))
  exact Prog.returns_ret ⟨hrejects, pool, _, hparams, hcoin, rfl, moneyAccount_address hbase hquote, amount,
    amounts, hamount, hamounts, rfl, rfl⟩

/-- A trade in a pool at 10%. -/
def sampleSwap (amount : UInt64) (pool : PumpSwapParams) : InstructionParams where
  payer := ⟨⟨1⟩⟩
  inputMint := ⟨5⟩
  outputMint := wsolTokenAccount
  inputAmount := some amount
  slippageBasisPoints := some 1000
  protocolParams := .pumpSwap pool
  openSeedOptimize := true
  createInputMintAta := true
  closeInputMintAta := true
  createOutputMintAta := true
  closeOutputMintAta := true
  fixedOutputAmount := none
  useExactSolAmount := none

end PumpSwap

end PumpTrade
