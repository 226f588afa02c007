import PumpTrade.Client.Trade
import PumpTrade.Instr.Quote
import PumpTrade.Instr.Spend

/-!
# The tokens that the caller names

What a trade of the client swaps, against the type of the token and the mint that its parameters
name.

* `DexParamEnum.moneyMint`, `DexParamEnum.coin`: what the market swaps;
* `buyInstructions_returns`, `sellInstructions_returns`: the instructions of a trade swap just that;
* **`honorsNames_iff`**: when a trade swaps what is named, or is rejected.
-/

namespace PumpTrade

open Base

/-- Lamports and wrapped SOL are one asset. -/
def asset (mint : Pubkey) : Pubkey := if mint = solTokenAccount then wsolTokenAccount else mint

namespace DexParamEnum

/-- The mint that pays and is paid at the market. -/
def moneyMint : DexParamEnum → Pubkey
  | .pumpFun _ => solTokenAccount
  | .pumpSwap pool => pool.money.1

/-- The mint that is bought and sold at the market, where the caller names `mint`, with its token
program. -/
def coin (mint : Pubkey) : DexParamEnum → Pubkey × Pubkey
  | .pumpFun curve => (mint, curve.tokenProgram)
  | .pumpSwap pool => pool.coin

/-- The market swaps the named type of token and the named mint. -/
def Fits (tokenType : TradeTokenType) (mint : Pubkey) (protocolParams : DexParamEnum) : Prop :=
  asset protocolParams.moneyMint = asset tokenType.mint ∧ (protocolParams.coin mint).1 = mint

/-- The builder refuses the pool. -/
def RefusesPool : DexParamEnum → Prop
  | .pumpFun _ => False
  | .pumpSwap pool => PumpSwap.RefusesPool pool

theorem fits_pumpFun {tokenType : TradeTokenType} {mint : Pubkey} {curve : PumpFunParams} :
    Fits tokenType mint (.pumpFun curve) ↔ tokenType = .sol ∨ tokenType = .wsol := by
  cases tokenType with
  | sol => exact iff_of_true ⟨rfl, rfl⟩ (Or.inl rfl)
  | wsol => exact iff_of_true ⟨rfl, rfl⟩ (Or.inr rfl)
  | usd1 =>
    have hne : asset solTokenAccount ≠ asset usd1TokenAccount := by decide
    exact iff_of_false (fun h => hne h.1) (by simp)
  | usdc =>
    have hne : asset solTokenAccount ≠ asset usdcTokenAccount := by decide
    exact iff_of_false (fun h => hne h.1) (by simp)

end DexParamEnum

/-- A buy that is rejected for its parameters. -/
def TradeBuyParams.Rejected (params : TradeBuyParams) : Prop :=
  params.inputTokenType = .usd1 ∨ validateProtocolParams params.dexType params.extensionParams = false ∨
    params.inputTokenAmount = 0 ∨ params.extensionParams.RefusesPool

/-- A sale that is rejected for its parameters; only the curve rejects an amount of zero. -/
def TradeSellParams.Rejected (params : TradeSellParams) : Prop :=
  params.outputTokenType = .usd1 ∨ validateProtocolParams params.dexType params.extensionParams = false ∨
    (params.dexType = .pumpFun ∧ params.inputTokenAmount = 0) ∨ params.extensionParams.RefusesPool

/-- The swap spends the named type of token and gives the named mint. -/
def TradeBuyParams.Named (params : TradeBuyParams) (effect : SwapEffect) : Prop :=
  asset effect.debitMint = asset params.inputTokenType.mint ∧ effect.creditMint = params.mint

/-- The swap spends the named mint and gives the named type of token. -/
def TradeSellParams.Named (params : TradeSellParams) (effect : SwapEffect) : Prop :=
  asset effect.creditMint = asset params.outputTokenType.mint ∧ effect.debitMint = params.mint

/-- Instructions that are built are one swap of what is named; where the market does not fit, there
are none but an error. -/
def HonorsNames (named : SwapEffect → Prop) (fits : Prop) (outcome : Outcome (Except Error (List Instruction))) :
    Prop :=
  (∀ instructions, outcome = .ret (.ok instructions) → ∃ effect, swaps instructions = [effect] ∧ named effect) ∧
    (¬ fits → ∃ e, outcome = .ret (.error e))

/-- Where what is built is one swap that is as named just where the market fits, names are honored
where it fits and where the trade is rejected. -/
theorem honorsNames_of_built {named : SwapEffect → Prop} {fits rejected : Prop}
    {outcome : Outcome (Except Error (List Instruction))}
    (hbuilt : ∀ r, outcome = .ret r → Built rejected
      (fun instructions => ∃ effect, swaps instructions = [effect] ∧ (named effect ↔ fits)) r)
    (hrejected : rejected → ∃ e, outcome = .ret (.error e)) :
    HonorsNames named fits outcome ↔ fits ∨ rejected := by
  constructor
  · rintro ⟨-, herror⟩
    by_cases hfits : fits
    · exact Or.inl hfits
    · obtain ⟨e, he⟩ := herror hfits
      exact Or.inr (hbuilt _ he)
  · intro h
    refine ⟨fun instructions hok => ?_, fun hfits => hrejected (h.resolve_left hfits)⟩
    obtain ⟨hnot, effect, hswaps, hnamed⟩ := hbuilt _ hok
    exact ⟨effect, hswaps, hnamed.mpr (h.resolve_right hnot)⟩

/-! ## What the checks let through -/

/-- What the checks of a trade let through: a token that is supported, and the parameters of the
protocol. -/
theorem checkTrade_cases (unsupported : String) (tokenType : TradeTokenType) (dexType : DexType)
    (protocolParams : DexParamEnum) :
    ((∃ e, checkTrade unsupported tokenType dexType protocolParams = .error e) ∧
      (tokenType = .usd1 ∨ validateProtocolParams dexType protocolParams = false)) ∨
    (checkTrade unsupported tokenType dexType protocolParams = .ok () ∧ tokenType ≠ .usd1 ∧
      ((∃ curve, dexType = .pumpFun ∧ protocolParams = .pumpFun curve) ∨
        ∃ pool, dexType = .pumpSwap ∧ protocolParams = .pumpSwap pool)) := by
  unfold checkTrade
  split_ifs with htype hvalid
  · exact Or.inl ⟨⟨_, rfl⟩, Or.inl htype⟩
  · refine Or.inr ⟨rfl, htype, ?_⟩
    cases dexType with
    | pumpFun =>
      cases protocolParams with
      | pumpFun curve => exact Or.inl ⟨curve, rfl, rfl⟩
      | pumpSwap pool => cases hvalid
    | pumpSwap =>
      cases protocolParams with
      | pumpFun curve => cases hvalid
      | pumpSwap pool => exact Or.inr ⟨pool, rfl, rfl⟩
  · exact Or.inl ⟨⟨_, rfl⟩, Or.inr (by simpa using hvalid)⟩

variable (D : Derivations) (checks : Bool) (solStrToLamports : String → Option UInt64) (client : TradingClient)

/-- **A buy, by its parameters**: an error of the checks, or what one of the builders makes of
them. -/
theorem buyInstructions_cases (params : TradeBuyParams) :
    ((∃ e, client.buyInstructions D checks solStrToLamports params = .ret (.error e)) ∧ params.Rejected) ∨
    (∃ curve, params.extensionParams = .pumpFun curve ∧
      client.buyInstructions D checks solStrToLamports params =
        PumpFun.buildBuyInstructions D checks solStrToLamports (client.buyInstructionParams params) ∧
      (params.Rejected ↔ PumpFun.Rejects (client.buyInstructionParams params))) ∨
    ∃ pool, params.extensionParams = .pumpSwap pool ∧
      client.buyInstructions D checks solStrToLamports params =
        PumpSwap.buildBuyInstructions D checks (client.buyInstructionParams params) ∧
      (params.Rejected ↔ PumpSwap.RejectsBuy (client.buyInstructionParams params)) := by
  unfold TradingClient.buyInstructions TradeBuyParams.Rejected
  rcases checkTrade_cases _ params.inputTokenType params.dexType params.extensionParams with
    ⟨⟨e, hcheck⟩, hrejected⟩ | ⟨hcheck, htype, ⟨curve, hdex, hparams⟩ | ⟨pool, hdex, hparams⟩⟩
  · refine Or.inl ⟨⟨e, ?_⟩, by tauto⟩
    rw [TradingClient.checkBuy, hcheck]
    rfl
  · rw [TradingClient.checkBuy, hcheck]
    refine Or.inr (Or.inl ⟨curve, hparams, by rw [hdex]; rfl, ?_⟩)
    simp [htype, hdex, hparams, validateProtocolParams, PumpFun.Rejects, DexParamEnum.RefusesPool,
      TradingClient.buyInstructionParams, InstructionParams.amount]
  · rw [TradingClient.checkBuy, hcheck]
    refine Or.inr (Or.inr ⟨pool, hparams, by rw [hdex]; rfl, ?_⟩)
    simp [htype, hdex, hparams, validateProtocolParams, PumpSwap.RejectsBuy, DexParamEnum.RefusesPool,
      TradingClient.buyInstructionParams, InstructionParams.amount]

/-- **A sale, by its parameters**: an error of the checks, or what one of the builders makes of
them. -/
theorem sellInstructions_cases (params : TradeSellParams) :
    ((∃ e, client.sellInstructions D checks solStrToLamports params = .ret (.error e)) ∧ params.Rejected) ∨
    (∃ curve, params.extensionParams = .pumpFun curve ∧
      client.sellInstructions D checks solStrToLamports params =
        PumpFun.buildSellInstructions D checks (client.sellInstructionParams params) ∧
      (params.Rejected ↔ PumpFun.Rejects (client.sellInstructionParams params))) ∨
    ∃ pool, params.extensionParams = .pumpSwap pool ∧
      client.sellInstructions D checks solStrToLamports params =
        PumpSwap.buildSellInstructions D checks (client.sellInstructionParams params) ∧
      (params.Rejected ↔ PumpSwap.RejectsSell (client.sellInstructionParams params)) := by
  unfold TradingClient.sellInstructions TradeSellParams.Rejected
  rcases checkTrade_cases _ params.outputTokenType params.dexType params.extensionParams with
    ⟨⟨e, hcheck⟩, hrejected⟩ | ⟨hcheck, htype, ⟨curve, hdex, hparams⟩ | ⟨pool, hdex, hparams⟩⟩
  · refine Or.inl ⟨⟨e, ?_⟩, by tauto⟩
    rw [TradingClient.checkSell, hcheck]
    rfl
  · rw [TradingClient.checkSell, hcheck]
    refine Or.inr (Or.inl ⟨curve, hparams, by rw [hdex]; rfl, ?_⟩)
    simp [htype, hdex, hparams, validateProtocolParams, PumpFun.Rejects, DexParamEnum.RefusesPool,
      TradingClient.sellInstructionParams, InstructionParams.amount]
  · rw [TradingClient.checkSell, hcheck]
    refine Or.inr (Or.inr ⟨pool, hparams, by rw [hdex]; rfl, ?_⟩)
    simp [htype, hdex, hparams, validateProtocolParams, PumpSwap.RejectsSell, DexParamEnum.RefusesPool,
      TradingClient.sellInstructionParams]

/-! ## What is swapped -/

/-- **The instructions of a buy** swap what the market pays with for what it trades. -/
theorem buyInstructions_returns (params : TradeBuyParams) :
    (client.buyInstructions D checks solStrToLamports params).Returns (Coherent D)
      (Built params.Rejected fun instructions => ∃ effect,
        BuysCoin D (client.buyInstructionParams params) (params.extensionParams.coin params.mint) instructions
          effect ∧ effect.debitMint = params.extensionParams.moneyMint) := by
  rcases buyInstructions_cases D checks solStrToLamports client params with
    ⟨⟨e, he⟩, hrejected⟩ | ⟨curve, hparams, heq, hiff⟩ | ⟨pool, hparams, heq, hiff⟩
  · rw [he]
    exact Prog.returns_ret hrejected
  · rw [heq]
    refine PumpFun.buy_returns.mono fun r h => h.mono hiff.symm ?_
    rintro instructions ⟨curve', effect, hbuys⟩
    obtain rfl : curve' = curve := DexParamEnum.pumpFun.inj (hbuys.params_eq.symm.trans hparams)
    rw [hparams]
    exact ⟨effect, hbuys.coin, hbuys.debitMint⟩
  · rw [heq]
    refine PumpSwap.buy_returns.mono fun r h => h.mono hiff.symm ?_
    rintro instructions ⟨pool', effect, hpool, hbuys⟩
    obtain rfl : pool' = pool := DexParamEnum.pumpSwap.inj (hpool.symm.trans hparams)
    rw [hparams]
    exact ⟨effect, hbuys.coin, hbuys.debitMint⟩

/-- **The instructions of a sale** swap what the market trades for what it pays with. -/
theorem sellInstructions_returns (params : TradeSellParams) :
    (client.sellInstructions D checks solStrToLamports params).Returns (Coherent D)
      (Built params.Rejected fun instructions => ∃ effect,
        SellsCoin D (client.sellInstructionParams params) (params.extensionParams.coin params.mint) instructions
          effect ∧ effect.creditMint = params.extensionParams.moneyMint) := by
  rcases sellInstructions_cases D checks solStrToLamports client params with
    ⟨⟨e, he⟩, hrejected⟩ | ⟨curve, hparams, heq, hiff⟩ | ⟨pool, hparams, heq, hiff⟩
  · rw [he]
    exact Prog.returns_ret hrejected
  · rw [heq]
    refine PumpFun.sell_returns.mono fun r h => h.mono hiff.symm ?_
    rintro instructions ⟨curve', effect, hsells⟩
    obtain rfl : curve' = curve := DexParamEnum.pumpFun.inj (hsells.params_eq.symm.trans hparams)
    rw [hparams]
    exact ⟨effect, hsells.coin, hsells.creditMint⟩
  · rw [heq]
    refine PumpSwap.sell_returns.mono fun r h => h.mono hiff.symm ?_
    rintro instructions ⟨pool', effect, hpool, hsells⟩
    obtain rfl : pool' = pool := DexParamEnum.pumpSwap.inj (hpool.symm.trans hparams)
    rw [hparams]
    exact ⟨effect, hsells.coin, hsells.creditMint⟩

theorem buyInstructions_of_rejected {params : TradeBuyParams} (h : params.Rejected) :
    ∃ e, client.buyInstructions D checks solStrToLamports params = .ret (.error e) := by
  rcases buyInstructions_cases D checks solStrToLamports client params with
    ⟨herror, -⟩ | ⟨curve, hparams, heq, hiff⟩ | ⟨pool, hparams, heq, hiff⟩
  · exact herror
  · rw [heq]
    exact PumpFun.buy_of_rejects (hiff.mp h)
  · rw [heq]
    exact PumpSwap.buy_of_rejects (hiff.mp h)

theorem sellInstructions_of_rejected {params : TradeSellParams} (h : params.Rejected) :
    ∃ e, client.sellInstructions D checks solStrToLamports params = .ret (.error e) := by
  rcases sellInstructions_cases D checks solStrToLamports client params with
    ⟨herror, -⟩ | ⟨curve, hparams, heq, hiff⟩ | ⟨pool, hparams, heq, hiff⟩
  · exact herror
  · rw [heq]
    exact PumpFun.sell_of_rejects (hiff.mp h)
  · rw [heq]
    exact PumpSwap.sell_of_rejects (hiff.mp h)

/-! ## Names -/

variable {D} {checks} {solStrToLamports} {client}

variable {g : Globals}

section Rejected

variable (g) (sdk : Sdk) (texts : Texts) (world : World) (schedule : (n : ℕ) → List (Action n))

theorem buy_of_rejected {params : TradeBuyParams} (h : params.Rejected) :
    ∃ e, client.buy D checks solStrToLamports params g sdk texts world schedule = some (.error e) := by
  obtain ⟨e, he⟩ := buyInstructions_of_rejected D checks solStrToLamports client h
  exact ⟨e, TradingClient.buy_of_error g sdk texts world schedule (by rw [he]; rfl)⟩

/-- A rejected sale returns its error, whatever the rest of the world does. -/
theorem sell_of_rejected {params : TradeSellParams} (h : params.Rejected) :
    ∃ e, client.sell D checks solStrToLamports params g sdk texts world schedule = some (.error e) := by
  obtain ⟨e, he⟩ := sellInstructions_of_rejected D checks solStrToLamports client h
  exact ⟨e, TradingClient.sell_of_error g sdk texts world schedule (by rw [he]; rfl)⟩

end Rejected

/-- **When the names of the caller are honored**: where the market fits them, and where the trade is
rejected. -/
theorem honorsNames_iff (hg : Reached D g) :
    (∀ params : TradeBuyParams,
      HonorsNames params.Named (params.extensionParams.Fits params.inputTokenType params.mint)
          ((client.buyInstructions D checks solStrToLamports params).run g).1 ↔
        params.extensionParams.Fits params.inputTokenType params.mint ∨ params.Rejected) ∧
    ∀ params : TradeSellParams,
      HonorsNames params.Named (params.extensionParams.Fits params.outputTokenType params.mint)
          ((client.sellInstructions D checks solStrToLamports params).run g).1 ↔
        params.extensionParams.Fits params.outputTokenType params.mint ∨ params.Rejected := by
  constructor
  · intro params
    refine honorsNames_of_built (fun r hr => ?_) fun hrejected => ?_
    · have hbuilt := (buyInstructions_returns D checks solStrToLamports client params).run hg.coherent hr
      refine hbuilt.mono Iff.rfl ?_
      rintro instructions ⟨effect, hbuys, hdebit⟩
      refine ⟨effect, hbuys.swaps, ?_⟩
      rw [TradeBuyParams.Named, DexParamEnum.Fits, hdebit, hbuys.creditMint]
    · obtain ⟨e, he⟩ := buyInstructions_of_rejected D checks solStrToLamports client hrejected
      exact ⟨e, by rw [he]; rfl⟩
  · intro params
    refine honorsNames_of_built (fun r hr => ?_) fun hrejected => ?_
    · have hbuilt := (sellInstructions_returns D checks solStrToLamports client params).run hg.coherent hr
      refine hbuilt.mono Iff.rfl ?_
      rintro instructions ⟨effect, hsells, hcredit⟩
      refine ⟨effect, hsells.swaps, ?_⟩
      rw [TradeSellParams.Named, DexParamEnum.Fits, hcredit, hsells.debitMint]
    · obtain ⟨e, he⟩ := sellInstructions_of_rejected D checks solStrToLamports client hrejected
      exact ⟨e, by rw [he]; rfl⟩

/-- A client without services. -/
def sampleClient (useSeedOptimize : Bool) : TradingClient where
  payer := ⟨⟨1⟩⟩
  infrastructure := ⟨⟨fun _ => .ok none, []⟩, []⟩
  middlewareManager := none
  useSeedOptimize
  checkMinTip := false

/-- A buy of a new coin on its curve. -/
def sampleBuyParams (inputTokenType : TradeTokenType) (curve : PumpFunParams) : TradeBuyParams where
  dexType := .pumpFun
  inputTokenType
  mint := ⟨5⟩
  inputTokenAmount := 1000000
  slippageBasisPoints := some 100
  recentBlockhash := none
  extensionParams := .pumpFun curve
  addressLookupTableAccount := none
  waitTransactionConfirmed := false
  createInputTokenAta := false
  closeInputTokenAta := false
  createMintAta := true
  durableNonce := none
  fixedOutputTokenAmount := none
  simulate := false
  useExactSolAmount := none

/-- A buy for a million units of USDC, one dollar, spends a million lamports. -/
theorem usdc_buy_spends_lamports : ∃ instructions,
    (((sampleClient true).buyInstructions sampleDerivations true (fun _ => some 10000000)
      (sampleBuyParams .usdc PumpFun.sampleCurve)).run (.withRents 2039280)).1 = .ret (.ok instructions) ∧
    ∃ effect ∈ swaps instructions, effect.debitMint = solTokenAccount ∧ effect.maxDebit = 1000000 ∧
      ¬ (sampleBuyParams .usdc PumpFun.sampleCurve).Named effect := by
  refine ⟨_, rfl, _, List.mem_cons_self, rfl, by decide +kernel, fun h => ?_⟩
  have hne : asset solTokenAccount ≠ asset usdcTokenAccount := by decide
  exact hne h.1

/-- A buy for SOL on the curve swaps what is named. -/
theorem honorsNames_iff_sol : HonorsNames (sampleBuyParams .sol PumpFun.sampleCurve).Named
    ((sampleBuyParams .sol PumpFun.sampleCurve).extensionParams.Fits .sol ⟨5⟩)
    (((sampleClient true).buyInstructions sampleDerivations true (fun _ => some 10000000)
      (sampleBuyParams .sol PumpFun.sampleCurve)).run (.withRents 2039280)).1 :=
  ((honorsNames_iff (reached_withRents sampleDerivations 2039280)).1
    (sampleBuyParams .sol PumpFun.sampleCurve)).mpr (Or.inl (DexParamEnum.fits_pumpFun.mpr (Or.inl rfl)))

end PumpTrade
