import PumpTrade.Calc.PumpFun
import PumpTrade.Instr.Coin

/-!
# The PumpFun builder

`instruction/pumpfun.rs`: the instructions of a buy and of a sale on a bonding curve.

* `PumpFun.buildBuyInstructions`, `PumpFun.buildSellInstructions`;
* **`PumpFun.buy_returns`**: a buy that is built is one swap of lamports for the coin;
* **`PumpFun.sell_returns`**: a sale that is built is one swap of the coin for lamports.
-/

namespace PumpTrade

open Base

namespace PumpFun

/-- The fixed accounts, as the instructions name them. -/
def globalAccountMeta : AccountMeta := .newReadonly globalAccount false
def feeRecipientMeta : AccountMeta := .new feeRecipient false
def mayhemFeeRecipientMeta : AccountMeta := .new mayhemFeeRecipient false
def eventAuthorityMeta : AccountMeta := .newReadonly eventAuthority false
def pumpfunMeta : AccountMeta := .newReadonly pumpfun false
def globalVolumeAccumulatorMeta : AccountMeta := .new globalVolumeAccumulator false
def feeConfigMeta : AccountMeta := .newReadonly feeConfig false
def feeProgramMeta : AccountMeta := .newReadonly feeProgram false

variable (D : Derivations)

/-- The vault stands for its creator, unless there is none or it is the vault of no creator. -/
def getCreator (creatorVaultPda : Pubkey) : Cached Pubkey :=
  if creatorVaultPda = default then pure default
  else do
    let defaultCreatorVault ← Prog.lift (Outcome.unwrap (← getCreatorVaultPda D default))
    return if creatorVaultPda = defaultCreatorVault then default else creatorVaultPda

/-- The address of the curve, derived where it is not given. -/
def bondingCurveAddr (bondingCurve : BondingCurveAccount) (mint : Pubkey) : Cached Pubkey :=
  if bondingCurve.account = default then do
    Prog.lift (Outcome.unwrap (← getBondingCurvePda D mint))
  else pure bondingCurve.account

/-- The token account of the curve, as given or derived. -/
def associatedBondingCurve (params : PumpFunParams) (bondingCurveAddr mint : Pubkey) : Cached Pubkey :=
  if params.associatedBondingCurve = default then
    getAssociatedTokenAddressWithProgramIdFast D bondingCurveAddr mint params.tokenProgram
  else pure params.associatedBondingCurve

/-- The accounts with which both lists begin. -/
def firstAccounts (params : PumpFunParams)
    (mint bondingCurveAddr associatedBondingCurve userTokenAccount payer : Pubkey) : List AccountMeta :=
  [globalAccountMeta, if params.bondingCurve.isMayhemMode then mayhemFeeRecipientMeta else feeRecipientMeta,
    .newReadonly mint false, .new bondingCurveAddr false, .new associatedBondingCurve false,
    .new userTokenAccount false, .new payer true, systemProgramMeta]

/-- The account of the token program; any program but Token-2022 counts as the Token program. -/
def tokenProgramMetaOf (program : Pubkey) : AccountMeta :=
  if program = tokenProgram2022 then tokenProgram2022Meta else tokenProgramMeta

/-- The accounts of a buy. -/
def buyAccounts (params : PumpFunParams) (mint bondingCurveAddr associatedBondingCurve userTokenAccount payer
    userVolumeAccumulator bondingCurveV2 : Pubkey) : List AccountMeta :=
  firstAccounts params mint bondingCurveAddr associatedBondingCurve userTokenAccount payer ++
    [tokenProgramMetaOf params.tokenProgram, .new params.creatorVault false, eventAuthorityMeta, pumpfunMeta,
      globalVolumeAccumulatorMeta, .new userVolumeAccumulator false, feeConfigMeta, feeProgramMeta,
      .newReadonly bondingCurveV2 false]

/-- The accounts of a sale, with those for the cashback. -/
def sellAccounts (params : PumpFunParams) (mint bondingCurveAddr associatedBondingCurve userTokenAccount payer :
    Pubkey) (cashback : List AccountMeta) (bondingCurveV2 : Pubkey) : List AccountMeta :=
  firstAccounts params mint bondingCurveAddr associatedBondingCurve userTokenAccount payer ++
    [.new params.creatorVault false, tokenProgramMetaOf params.tokenProgram, eventAuthorityMeta, pumpfunMeta,
      feeConfigMeta, feeProgramMeta] ++
    cashback ++ [.newReadonly bondingCurveV2 false]

variable (checks : Bool) (solStrToLamports : String → Option UInt64) (params : InstructionParams)

/-- The tokens that a buy expects. -/
def buyTokenAmount (bondingCurve : BondingCurveAccount) (creator : Pubkey) : Outcome UInt64 :=
  match params.fixedOutputAmount with
  | some amount => .ret amount
  | none =>
    getBuyTokenAmountFromSolAmount checks solStrToLamports bondingCurve.virtualTokenReserves.toNat
      bondingCurve.virtualSolReserves.toNat bondingCurve.realTokenReserves.toNat creator params.amount

/-- The data of a buy, for an exact amount of SOL or of tokens. -/
def buyData (tokenAmount maxSolCost : UInt64) : Outcome (List UInt8) :=
  if params.exact then do
    let minTokensOut ← calculateWithSlippageSell checks tokenAmount params.slippage
    return swapData buyExactSolInDiscriminator params.amount minTokensOut
  else return swapData buyDiscriminator tokenAmount maxSolCost

/-- The instructions of a buy. -/
def buildBuyInstructions : Cached (Except Error (List Instruction)) :=
  match params.protocolParams with
  | .pumpSwap _ => return .error (.other "Invalid protocol params for PumpFun")
  | .pumpFun protocolParams =>
    if params.amount = 0 then return .error (.other "Amount cannot be zero")
    else do
      let payer := params.payer.pubkey
      let bondingCurve := protocolParams.bondingCurve
      let creator ← getCreator D protocolParams.creatorVault
      let tokenAmount ← Prog.lift (buyTokenAmount checks solStrToLamports params bondingCurve creator)
      let maxSolCost ← Prog.lift (calculateWithSlippageBuy checks params.amount params.slippage)
      let bondingCurveAddr ← bondingCurveAddr D bondingCurve params.outputMint
      let associatedBondingCurve ← associatedBondingCurve D protocolParams bondingCurveAddr params.outputMint
      let userTokenAccount ← getAssociatedTokenAddressWithProgramIdFastUseSeed D payer params.outputMint
        protocolParams.tokenProgram params.openSeedOptimize
      let userVolumeAccumulator ← Prog.lift (Outcome.unwrap (← getUserVolumeAccumulatorPda D payer))
      let created ← onlyIf params.createOutputMintAta
        (createAssociatedTokenAccountIdempotentFastUseSeed D payer payer params.outputMint
          protocolParams.tokenProgram params.openSeedOptimize)
      let data ← Prog.lift (buyData checks params tokenAmount maxSolCost)
      let bondingCurveV2 ← Prog.lift (Outcome.unwrap (← getBondingCurveV2Pda D params.outputMint))
      let accounts := buyAccounts protocolParams params.outputMint bondingCurveAddr associatedBondingCurve
        userTokenAccount payer userVolumeAccumulator bondingCurveV2
      return .ok (created ++ [⟨pumpfun, accounts, data⟩])

/-- The SOL that a sale asks for at least. -/
def minSolOutput (solAmount : UInt64) : Outcome UInt64 :=
  match params.fixedOutputAmount with
  | some fixed => .ret fixed
  | none => calculateWithSlippageSell checks solAmount params.slippage

/-- The instructions of a sale. -/
def buildSellInstructions : Cached (Except Error (List Instruction)) :=
  match params.protocolParams, params.inputAmount with
  | .pumpSwap _, _ => return .error (.other "Invalid protocol params for PumpFun")
  | .pumpFun _, none => return .error (.other "Amount token is required")
  | .pumpFun protocolParams, some tokenAmount =>
    if tokenAmount = 0 then return .error (.other "Amount cannot be zero")
    else do
      let payer := params.payer.pubkey
      let bondingCurve := protocolParams.bondingCurve
      let creator ← getCreator D protocolParams.creatorVault
      let solAmount ← Prog.lift (getSellSolAmountFromTokenAmount checks
        bondingCurve.virtualTokenReserves.toNat bondingCurve.virtualSolReserves.toNat creator tokenAmount)
      let minSolOutput ← Prog.lift (minSolOutput checks params solAmount)
      let bondingCurveAddr ← bondingCurveAddr D bondingCurve params.inputMint
      let associatedBondingCurve ← associatedBondingCurve D protocolParams bondingCurveAddr params.inputMint
      let userTokenAccount ← getAssociatedTokenAddressWithProgramIdFastUseSeed D payer params.inputMint
        protocolParams.tokenProgram params.openSeedOptimize
      let cashback ← onlyIf bondingCurve.isCashbackCoin do
        let userVolumeAccumulator ← Prog.lift (Outcome.unwrap (← getUserVolumeAccumulatorPda D payer))
        return [AccountMeta.new userVolumeAccumulator false]
      let bondingCurveV2 ← Prog.lift (Outcome.unwrap (← getBondingCurveV2Pda D params.inputMint))
      let accounts := sellAccounts protocolParams params.inputMint bondingCurveAddr associatedBondingCurve
        userTokenAccount payer cashback bondingCurveV2
      let close := closeIf (protocolParams.closeTokenAccountWhenSell.getD false || params.closeInputMintAta)
        protocolParams.tokenProgram userTokenAccount payer
      return .ok ([⟨pumpfun, accounts, swapData sellDiscriminator tokenAmount minSolOutput⟩] ++ close)

/-! ## What is built -/

/-- The creator of a vault, without the cache. -/
def creatorOf (creatorVaultPda : Pubkey) : Outcome Pubkey :=
  if creatorVaultPda = default then .ret default
  else do
    let defaultCreatorVault ← Outcome.unwrap (PdaCacheKey.derive D (.pumpFunCreatorVault default))
    .ret (if creatorVaultPda = defaultCreatorVault then default else creatorVaultPda)

/-- A trade that the builder refuses: the parameters of another protocol, or no amount. -/
def Rejects : Prop := ∀ curve, params.protocolParams = .pumpFun curve → params.amount = 0

/-- The most that a buy spends, and the least that it accepts. -/
def BuyAmounts (bondingCurve : BondingCurveAccount) (creator : Pubkey) (maxDebit minCredit : ℕ) : Prop :=
  ∃ tokenAmount maxSolCost,
    buyTokenAmount checks solStrToLamports params bondingCurve creator = .ret tokenAmount ∧
    calculateWithSlippageBuy checks params.amount params.slippage = .ret maxSolCost ∧
    if params.exact then
      maxDebit = params.amount.toNat ∧ ∃ minTokensOut,
        calculateWithSlippageSell checks tokenAmount params.slippage = .ret minTokensOut ∧
          minCredit = minTokensOut.toNat
    else maxDebit = maxSolCost.toNat ∧ minCredit = tokenAmount.toNat

/-- A buy on the curve: lamports of the payer for the coin. -/
structure Buys (instructions : List Instruction) (curve : PumpFunParams) (effect : SwapEffect) : Prop where
  params_eq : params.protocolParams = .pumpFun curve
  coin : BuysCoin D params (params.outputMint, curve.tokenProgram) instructions effect
  debitMint : effect.debitMint = solTokenAccount
  debitAccount : effect.debitAccount = params.payer.pubkey
  amounts : ∃ creator, creatorOf D curve.creatorVault = .ret creator ∧
    BuyAmounts checks solStrToLamports params curve.bondingCurve creator effect.maxDebit effect.minCredit

/-- A sale on the curve: the coin for lamports of the payer. -/
structure Sells (instructions : List Instruction) (curve : PumpFunParams) (effect : SwapEffect) : Prop where
  params_eq : params.protocolParams = .pumpFun curve
  coin : SellsCoin D params (params.inputMint, curve.tokenProgram) instructions effect
  creditMint : effect.creditMint = solTokenAccount
  creditAccount : effect.creditAccount = params.payer.pubkey
  maxDebit : effect.maxDebit = params.amount.toNat

variable {D} {checks} {solStrToLamports} {params}

theorem buy_of_rejects (h : Rejects params) :
    ∃ e, buildBuyInstructions D checks solStrToLamports params = .ret (.error e) := by
  unfold buildBuyInstructions
  split
  · exact ⟨_, rfl⟩
  · rename_i curve hparams
    rw [if_pos (h curve hparams)]
    exact ⟨_, rfl⟩

theorem sell_of_rejects (h : Rejects params) : ∃ e, buildSellInstructions D checks params = .ret (.error e) := by
  unfold buildSellInstructions
  split
  · exact ⟨_, rfl⟩
  · exact ⟨_, rfl⟩
  · rename_i curve tokenAmount hparams hamount
    have hzero : tokenAmount = 0 := by simpa [InstructionParams.amount, hamount] using h curve hparams
    rw [if_pos hzero]
    exact ⟨_, rfl⟩

theorem gives_getCreator (creatorVaultPda : Pubkey) :
    (getCreator D creatorVaultPda).Gives (Coherent D) (creatorOf D creatorVaultPda) := by
  unfold getCreator creatorOf
  split_ifs with h
  · exact Prog.gives_ret default
  · refine Prog.Gives.bind (gives_getCachedPda (.pumpFunCreatorVault default))
      (g := fun pda => Outcome.unwrap pda >>= fun vault =>
        .ret (if creatorVaultPda = vault then default else creatorVaultPda)) fun pda _ => ?_
    exact (Prog.gives_lift _).bind fun vault _ => Prog.gives_ret _

theorem unwrapPda_returns (key : PdaCacheKey) :
    (getCachedPda key (key.derive D) >>= fun pda => Prog.lift (Outcome.unwrap pda)).Returns (Coherent D)
      fun _ => True :=
  (gives_getCachedPda key).returns.bind fun _ _ => (Prog.returns_lift _).mono fun _ _ => trivial

theorem bondingCurveAddr_returns (bondingCurve : BondingCurveAccount) (mint : Pubkey) :
    (bondingCurveAddr D bondingCurve mint).Returns (Coherent D) fun _ => True :=
  Prog.returns_ite (fun _ => unwrapPda_returns (.pumpFunBondingCurve mint)) fun _ => Prog.returns_ret trivial

theorem associatedBondingCurve_returns (curve : PumpFunParams) (bondingCurveAddr mint : Pubkey) :
    (associatedBondingCurve D curve bondingCurveAddr mint).Returns (Coherent D) fun _ => True :=
  Prog.returns_ite (fun _ => (userAccount_returns _ _ _ _).mono fun _ _ => trivial) fun _ =>
    Prog.returns_ret trivial

theorem read_buyAccounts (curve : PumpFunParams) (mint bondingCurveAddr associatedBondingCurve userTokenAccount
    payer userVolumeAccumulator bondingCurveV2 : Pubkey) (data : List UInt8) :
    Instruction.pumpFunAccounts? ⟨pumpfun, buyAccounts curve mint bondingCurveAddr associatedBondingCurve
      userTokenAccount payer userVolumeAccumulator bondingCurveV2, data⟩ =
        some ⟨mint, solTokenAccount, userTokenAccount, payer⟩ := rfl

theorem read_sellAccounts (curve : PumpFunParams) (mint bondingCurveAddr associatedBondingCurve userTokenAccount
    payer : Pubkey) (cashback : List AccountMeta) (bondingCurveV2 : Pubkey) (data : List UInt8) :
    Instruction.pumpFunAccounts? ⟨pumpfun, sellAccounts curve mint bondingCurveAddr associatedBondingCurve
      userTokenAccount payer cashback bondingCurveV2, data⟩ =
        some ⟨mint, solTokenAccount, userTokenAccount, payer⟩ := rfl

theorem buyData_effect {tokenAmount maxSolCost : UInt64} {data : List UInt8}
    (h : buyData checks params tokenAmount maxSolCost = .ret data) :
    ∃ discriminator first second maxDebit minCredit, data = swapData discriminator first second ∧
      discriminator.length = 8 ∧
      (∀ accounts : SwapAccounts, accounts.effect? buyExactSolInDiscriminator discriminator first.toNat
        second.toNat = some (accounts.buys maxDebit minCredit)) ∧
      if params.exact then
        maxDebit = params.amount.toNat ∧ ∃ minTokensOut,
          calculateWithSlippageSell checks tokenAmount params.slippage = .ret minTokensOut ∧
            minCredit = minTokensOut.toNat
      else maxDebit = maxSolCost.toNat ∧ minCredit = tokenAmount.toNat := by
  unfold buyData at h
  split_ifs at h ⊢ with hexact
  · obtain ⟨minTokensOut, hmin, hdata⟩ := Outcome.bind_eq_ret.mp h
    exact ⟨_, _, _, _, _, (Outcome.ret.inj hdata).symm, rfl, fun accounts => if_pos rfl, rfl, minTokensOut,
      hmin, rfl⟩
  · refine ⟨_, _, _, _, _, (Outcome.ret.inj h).symm, rfl, fun accounts => ?_, rfl, rfl⟩
    exact accounts.effect?_buy (by decide) _ _

/-- **A buy that is built** is one swap of lamports for the coin. -/
theorem buy_returns : (buildBuyInstructions D checks solStrToLamports params).Returns (Coherent D)
    (Built (Rejects params) fun instructions =>
      ∃ curve effect, Buys D checks solStrToLamports params instructions curve effect) := by
  unfold buildBuyInstructions
  split
  · rename_i hparams
    exact Prog.returns_ret fun curve hcurve => by simp [hparams] at hcurve
  rename_i curve hparams
  refine Prog.returns_ite (fun hzero => Prog.returns_ret fun _ _ => hzero) fun hne => ?_
  have hrejects : ¬ Rejects params := fun h => hne (h curve hparams)
  refine (gives_getCreator _).returns.bind fun creator hcreator => ?_
  refine (Prog.returns_lift _).bind fun tokenAmount htokens => ?_
  refine (Prog.returns_lift _).bind fun maxSolCost hcost => ?_
  refine (bondingCurveAddr_returns _ _).bind fun bondingCurveAddr _ => ?_
  refine (associatedBondingCurve_returns _ _ _).bind fun associatedBondingCurve _ => ?_
  refine (userAccount_returns _ _ _ _).bind fun userTokenAccount hauser => ?_
  refine (gives_getCachedPda (.pumpFunUserVolume _)).returns.bind fun pda _ => ?_
  refine (Prog.returns_lift _).bind fun userVolumeAccumulator _ => ?_
  refine (created_returns _ _ _ _ _).bind ?_
  rintro created ⟨accounts, hcreated⟩
  refine (Prog.returns_lift _).bind fun data hdata => ?_
  refine (gives_getCachedPda (.pumpFunBondingCurveV2 _)).returns.bind fun pda _ => ?_
  refine (Prog.returns_lift _).bind fun bondingCurveV2 _ => ?_
  obtain ⟨discriminator, first, second, maxDebit, minCredit, rfl, hlength, heffect, hamounts⟩ :=
    buyData_effect hdata
  have hswap := (swap?_pumpFun hlength (read_buyAccounts curve params.outputMint bondingCurveAddr
    associatedBondingCurve userTokenAccount params.payer.pubkey userVolumeAccumulator bondingCurveV2 _)).trans
    (heffect _)
  have hcoin : BuysCoin D params (params.outputMint, curve.tokenProgram) _ _ :=
    buysCoin_of_parts prepares_nil areWsol_nil hcreated hswap (swap_quiet hswap default).2.1
      ⟨swaps_nil, opened_nil⟩ rfl hauser
  exact Prog.returns_ret ⟨hrejects, curve, _, hparams, hcoin, rfl, rfl, creator, hcreator, tokenAmount,
    maxSolCost, htokens, hcost, hamounts⟩

/-- **A sale that is built** is one swap of the coin for lamports. -/
theorem sell_returns : (buildSellInstructions D checks params).Returns (Coherent D)
    (Built (Rejects params) fun instructions => ∃ curve effect, Sells D params instructions curve effect) := by
  unfold buildSellInstructions
  split
  · rename_i hparams
    exact Prog.returns_ret fun curve hcurve => by simp [hparams] at hcurve
  · rename_i hparams hamount
    exact Prog.returns_ret fun _ _ => by simp [InstructionParams.amount, hamount]
  rename_i curve tokenAmount hparams hamount
  have hamount' : params.amount = tokenAmount := by simp [InstructionParams.amount, hamount]
  refine Prog.returns_ite (fun hzero => Prog.returns_ret fun _ _ => by rw [hamount', hzero]) fun hne => ?_
  have hrejects : ¬ Rejects params := fun h => hne (by rw [← hamount', h curve hparams])
  refine (gives_getCreator _).returns.bind fun creator _ => ?_
  refine (Prog.returns_lift _).bind fun solAmount _ => ?_
  refine (Prog.returns_lift _).bind fun minSolOutput _ => ?_
  refine (bondingCurveAddr_returns _ _).bind fun bondingCurveAddr _ => ?_
  refine (associatedBondingCurve_returns _ _ _).bind fun associatedBondingCurve _ => ?_
  refine (userAccount_returns _ _ _ _).bind fun userTokenAccount hauser => ?_
  refine Prog.Returns.bind (P := fun _ => True) ?_ fun cashback _ => ?_
  · refine onlyIf_returns (fun _ => ?_) fun _ => trivial
    refine (gives_getCachedPda (.pumpFunUserVolume _)).returns.bind fun pda _ => ?_
    exact (Prog.returns_lift _).bind fun _ _ => Prog.returns_ret trivial
  refine (gives_getCachedPda (.pumpFunBondingCurveV2 _)).returns.bind fun pda _ => ?_
  refine (Prog.returns_lift _).bind fun bondingCurveV2 _ => ?_
  have hlength : sellDiscriminator.length = 8 := rfl
  have hswap : Instruction.swap? ⟨pumpfun, _, swapData sellDiscriminator tokenAmount minSolOutput⟩ = _ :=
    (swap?_pumpFun hlength (read_sellAccounts curve params.inputMint bondingCurveAddr associatedBondingCurve
      userTokenAccount params.payer.pubkey cashback bondingCurveV2 _)).trans
      (SwapAccounts.effect?_sell _ (by decide) _ _)
  have hclosed : closed curve.tokenProgram (closeIf
      (curve.closeTokenAccountWhenSell.getD false || params.closeInputMintAta) curve.tokenProgram userTokenAccount
      params.payer.pubkey) = [] ++ _ := closed_closeIf _ _ _ _
  have hcoin : SellsCoin D params (params.inputMint, curve.tokenProgram) _ _ :=
    sellsCoin_of_parts prepares_nil hswap (swap_quiet hswap _).2.2 (swaps_closeIf _ _ _ _)
      rfl hauser hclosed areWsol_nil (closes_of_flag (fun hclose => by simp [hclose]) userTokenAccount)
  exact Prog.returns_ret ⟨hrejects, curve, _, hparams, hcoin, rfl, rfl, by rw [hamount']; rfl⟩

end PumpFun

end PumpTrade
