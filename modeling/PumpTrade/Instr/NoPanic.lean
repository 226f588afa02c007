import PumpTrade.Base.Total
import PumpTrade.Calc.Quotable
import PumpTrade.Instr.PumpSwap

/-!
# Builders that return

When the PumpSwap builders return at all. Both unwrap what the quote functions return, and a buy
unwraps the creation of a seeded account, which needs the rent.

* `Derives`: the derivations that are assumed to succeed;
* `AnswersQuote`: the builder returns, and an error where its quote is one;
* `BuyPossible`, `SellPossible`: the inputs and states for which nothing is unwrapped in vain;
* **`builders_answer_iff`**: a builder that does not reject its parameters answers exactly on those.
-/

namespace PumpTrade

open Base

/-! ## Parts of a builder -/

section Parts

variable {α : Type} {I J : Globals → Prop} {c : Prop} {flag : Bool} {p : Cached (List α)}

theorem onlyIf_total (h : p.Total I I) : (onlyIf flag p).Total I I := by
  cases flag with
  | true => exact h
  | false => exact Prog.total_ret []

theorem onlyIf_returnsIff (h : p.ReturnsIff I c) : (onlyIf flag p).ReturnsIff I (flag = true → c) := by
  cases flag with
  | true => exact h.congr (by simp)
  | false => exact (Prog.returnsIff_ret []).congr (by simp)

theorem unwrapText_bind_returns {β : Type} {x : Outcome (Except String α)} {f : α → Outcome β}
    (hf : ∀ a, ∃ b, f a = .ret b) :
    (∃ b, (x >>= fun r => unwrapText r >>= f) = .ret b) ↔ ∃ a, x = .ret (.ok a) := by
  constructor
  · rintro ⟨b, h⟩
    obtain ⟨r, hr, h⟩ := Outcome.bind_eq_ret.mp h
    obtain ⟨a, ha, -⟩ := Outcome.bind_eq_ret.mp h
    rw [unwrapText_eq_ret.mp ha] at hr
    exact ⟨a, hr⟩
  · rintro ⟨a, rfl⟩
    exact hf a

end Parts

/-! ## The shared state -/

/-- The derivations for the accounts of a pool and of its users succeed. -/
structure Derives (D : Derivations) : Prop where
  account : ∀ walletAddress mint program,
    ∃ account, getAssociatedTokenAddressWithProgramId D walletAddress mint program = .ret account
  seeded : ∀ walletAddress mint program, program = tokenProgram ∨ program = tokenProgram2022 →
    ∃ account, D.createWithSeed walletAddress (mintSeed D mint) program = .ok account
  volume : ∀ user, ∃ accumulator, (PdaCacheKey.pumpSwapUserVolume user).derive D = some accumulator
  poolV2 : ∀ mint : Pubkey, ∃ poolV2,
    D.tryFindProgramAddress [PumpSwap.poolV2Seed, mint.toBytes] PumpSwap.ammProgram = some poolV2

/-- Nothing changes that the creation of an account with a seed depends on. -/
def SameCreation (payer mint program : Pubkey) (useSeed : Bool) (g g' : Globals) : Prop :=
  usesSeed mint program useSeed → g'.rent program = g.rent program ∧
    g'.instructionCache (.createAssociatedTokenAccount payer payer mint program useSeed) =
      g.instructionCache (.createAssociatedTokenAccount payer payer mint program useSeed)

/-- The account is created with a seed, nothing is cached for it, and its rent is not known yet. -/
def RentMissing (g : Globals) (payer mint program : Pubkey) (useSeed : Bool) : Prop :=
  usesSeed mint program useSeed ∧ g.rent program = noRent ∧
    g.instructionCache (.createAssociatedTokenAccount payer payer mint program useSeed) = none

variable {D : Derivations} {payer mint program : Pubkey} {useSeed : Bool}

theorem sameCreation_refl (g : Globals) : SameCreation payer mint program useSeed g g := fun _ => ⟨rfl, rfl⟩

theorem SameCreation.trans {g g' g'' : Globals} (h : SameCreation payer mint program useSeed g g')
    (h' : SameCreation payer mint program useSeed g' g'') : SameCreation payer mint program useSeed g g'' :=
  fun huses => ⟨(h' huses).1.trans (h huses).1, (h' huses).2.trans (h huses).2⟩

theorem SameCreation.rentMissing {g g' : Globals} (h : SameCreation payer mint program useSeed g g') :
    RentMissing g' payer mint program useSeed ↔ RentMissing g payer mint program useSeed := by
  refine and_congr_right fun huses => ?_
  rw [(h huses).1, (h huses).2]

/-! ## What always returns -/

theorem Derives.ata (hD : Derives D) (walletAddress mint program : Pubkey) (useSeed : Bool) :
    ∃ account, ataAddress D walletAddress mint program useSeed = .ret account := by
  unfold ataAddress
  by_cases huses : usesSeed mint program useSeed
  · obtain ⟨account, haccount⟩ := hD.seeded walletAddress mint program huses.2.2.2
    rw [if_pos huses, getAssociatedTokenAddressWithProgramIdUseSeed, haccount]
    exact ⟨account, rfl⟩
  · rw [if_neg huses]
    exact hD.account walletAddress mint program

theorem ata_total (hD : Derives D) (walletAddress mint program : Pubkey) (useSeed : Bool) :
    (getAssociatedTokenAddressWithProgramIdFastUseSeed D walletAddress mint program useSeed).Total
      (Coherent D) (Coherent D) := by
  obtain ⟨account, haccount⟩ := hD.ata walletAddress mint program useSeed
  have hgives := gives_ata (D := D) walletAddress mint program useSeed
  rw [haccount] at hgives
  exact hgives.total

theorem create_total (hD : Derives D) (owner : Pubkey) (hunseeded : ¬ usesSeed mint program useSeed) :
    (createAssociatedTokenAccountIdempotentFastUseSeed D payer owner mint program useSeed).Total
      (Coherent D) (Coherent D) := by
  refine Prog.Keeps.total ((keeps_create payer owner mint program useSeed).mono ?_)
  rintro o ⟨rent, rfl⟩
  obtain ⟨account, haccount⟩ := hD.account owner mint program
  rw [createInstructions, if_neg hunseeded, haccount]
  exact ⟨_, rfl⟩

theorem handleWsol_total (hD : Derives D) (amountIn : UInt64) :
    (handleWsol D payer amountIn).Total (Coherent D) (Coherent D) := by
  refine (ata_total hD _ _ _ _).bind fun wsolAccount => ?_
  exact (create_total hD _ (not_usesSeed_false _ _)).bind fun created => Prog.total_ret _

theorem closeWsol_total (hD : Derives D) : (closeWsol D payer).Total (Coherent D) (Coherent D) :=
  (ata_total hD _ _ _ _).bind fun wsolAccount => (gives_closeWsol payer wsolAccount).total

namespace PumpSwap

theorem userVolume_total (user : Pubkey) :
    (getUserVolumeAccumulatorPda D user).Total (Coherent D) (Coherent D) :=
  (gives_getCachedPda (.pumpSwapUserVolume user)).total

theorem volumeAccounts_total (hD : Derives D) (payer : Pubkey) :
    (volumeAccounts D payer).Total (Coherent D) (Coherent D) := by
  obtain ⟨accumulator, haccumulator⟩ := hD.volume payer
  refine Prog.Keeps.total (Prog.Keeps.bind (gives_getCachedPda (.pumpSwapUserVolume payer)) ?_ (by simp))
  intro found hfound
  rw [haccumulator] at hfound
  obtain rfl := Outcome.ret.inj hfound
  exact ⟨_, rfl⟩

theorem wsolAta_total (hD : Derives D) (user : Pubkey) :
    (getUserVolumeAccumulatorWsolAta D user).Total (Coherent D) (Coherent D) := by
  refine (userVolume_total user).bind fun accumulator => ?_
  cases accumulator with
  | none => exact Prog.total_ret none
  | some accumulator => exact (ata_total hD _ _ _ _).bind fun wsolAta => Prog.total_ret _

theorem buyCashback_total (hD : Derives D) (payer : Pubkey) :
    (buyCashback D payer).Total (Coherent D) (Coherent D) := by
  refine (wsolAta_total hD payer).bind fun wsolAta => ?_
  cases wsolAta with
  | none => exact Prog.total_ret _
  | some wsolAta => exact Prog.total_ret _

theorem sellCashback_total (hD : Derives D) (payer : Pubkey) :
    (sellCashback D payer).Total (Coherent D) (Coherent D) := by
  refine (wsolAta_total hD payer).bind fun wsolAta => ?_
  refine (userVolume_total payer).bind fun accumulator => ?_
  cases wsolAta with
  | none => exact Prog.total_ret _
  | some wsolAta =>
    cases accumulator with
    | none => exact Prog.total_ret _
    | some accumulator => exact Prog.total_ret _

theorem poolV2_returns (hD : Derives D) (baseMint : Pubkey) :
    ∃ poolV2, getPoolV2Pda D baseMint = .ret (some poolV2) := by
  obtain ⟨poolV2, hpoolV2⟩ := hD.poolV2 baseMint
  rw [getPoolV2Pda, findProgramAddress, hpoolV2]
  exact ⟨poolV2, rfl⟩

end PumpSwap

/-! ## The creation with a seed -/

theorem confined_ata (walletAddress mint' program' : Pubkey) (useSeed' : Bool) :
    (getAssociatedTokenAddressWithProgramIdFastUseSeed D walletAddress mint' program' useSeed').Confined id
      (SameCreation payer mint program useSeed) :=
  Prog.confined_memo sameCreation_refl (fun _ _ h => congrArg (fun g : Globals => g.ataCache _) h)
    (fun _ _ _ => ⟨rfl, rfl⟩) (Prog.confined_lift _)

theorem confined_create {payer' mint' program' : Pubkey} {useSeed' : Bool}
    (hunseeded : ¬ usesSeed mint' program' useSeed') :
    (createAssociatedTokenAccountIdempotentFastUseSeed D payer' payer' mint' program' useSeed').Confined id
      (SameCreation payer mint program useSeed) := by
  unfold createAssociatedTokenAccountIdempotentFastUseSeed
  simp only [if_neg hunseeded]
  refine Prog.confined_memo sameCreation_refl (fun _ _ h => congrArg (fun g : Globals => g.instructionCache _) h)
    (fun g instructions huses => ⟨rfl, Function.update_of_ne ?_ _ _⟩) ?_
  · intro hkey
    cases hkey
    exact hunseeded huses
  · exact (confined_ata _ _ _ _).bind fun address => Prog.confined_ret _

theorem confined_handleWsol (payer' : Pubkey) (amountIn : UInt64) :
    (handleWsol D payer' amountIn).Confined id (SameCreation payer mint program useSeed) := by
  refine (confined_ata _ _ _ _).bind fun wsolAccount => ?_
  exact (confined_create (not_usesSeed_false _ _)).bind fun created => Prog.confined_ret _

/-- **The creation with a seed** returns unless the rent is missing. -/
theorem create_returnsIff (hD : Derives D) (g : Globals) :
    (createAssociatedTokenAccountIdempotentFastUseSeed D payer payer mint program useSeed).ReturnsIff
      (fun g' => Coherent D g' ∧ SameCreation payer mint program useSeed g g')
      (¬ RentMissing g payer mint program useSeed) := by
  rintro g' ⟨hcoherent, hsame⟩
  rw [← hsame.rentMissing]
  by_cases huses : usesSeed mint program useSeed
  · obtain ⟨account, haccount⟩ := hD.seeded payer mint program huses.2.2.2
    unfold Prog.Succeeds createAssociatedTokenAccountIdempotentFastUseSeed getCachedInstructions
    simp only [if_pos huses, Prog.run_memo]
    cases hcache : g'.instructionCache (.createAssociatedTokenAccount payer payer mint program useSeed) with
    | some instructions => simp [RentMissing, hcache]
    | none =>
      simp only [createAssociatedTokenAccountUseSeed, Prog.run_bind, Prog.run_read, Prog.pure_eq, Prog.run_ret,
        Prog.run_lift]
      by_cases hrent : g'.rent program = noRent
      · simp [RentMissing, huses, hcache, hrent, createUseSeed, unwrapOk]
      · simp [RentMissing, hrent, createUseSeed, haccount, unwrapOk]
  · exact iff_of_true (create_total hD payer huses g' hcoherent).1 fun hmissing => huses hmissing.1

theorem Derives.framed {α : Type} {g : Globals} {p : Cached α} (h : p.Total (Coherent D) (Coherent D))
    (hconfined : p.Confined id (SameCreation payer mint program useSeed)) :
    p.Total (fun g' => Coherent D g' ∧ SameCreation payer mint program useSeed g g')
      fun g' => Coherent D g' ∧ SameCreation payer mint program useSeed g g' :=
  h.frame hconfined sameCreation_refl (fun _ _ _ => SameCreation.trans) fun _ _ h' h => h.trans h'

namespace PumpSwap

/-! ## The conditions -/

section Conditions

variable (checks : Bool) (params : InstructionParams) (pool : PumpSwapParams) (g : Globals)

/-- The quote for an amount of the one side of the pool or of the other is returned. -/
def Quoted (amount : UInt64) (spendsQuote : Prop) [Decidable spendsQuote] : Prop :=
  if spendsQuote then
    BuyQuoted checks amount params.slippage pool.poolBaseTokenReserves pool.poolQuoteTokenReserves
  else SellQuoted checks amount params.slippage pool.poolBaseTokenReserves pool.poolQuoteTokenReserves pool.creator

/-- That quote is an error. -/
def QuoteFails (amount : UInt64) (spendsQuote : Prop) [Decidable spendsQuote] : Prop :=
  if spendsQuote then
    ∃ e, buyQuoteInputInternal checks amount params.slippage pool.poolBaseTokenReserves
      pool.poolQuoteTokenReserves pool.creator = .ret (.error e)
  else ∃ e, sellBaseInputInternal checks amount params.slippage pool.poolBaseTokenReserves
    pool.poolQuoteTokenReserves pool.creator = .ret (.error e)

/-- The tokens that a buy expects where the quote is spent. -/
def expectedBase : ℕ :=
  (params.fixedOutputAmount.map UInt64.toNat).getD
    (ConstantProduct.out pool.poolQuoteTokenReserves.toNat pool.poolBaseTokenReserves.toNat
      (effectiveQuote params.amount.toNat pool.creator))

/-- A buy that is quoted, whose expected tokens can be lowered by the slippage where they are, and
whose account can be created where it is. -/
structure BuyPossible : Prop where
  quoted : Quoted checks params pool params.amount pool.quoteIsWsolOrUsdc
  rent : params.createOutputMintAta = true →
    ¬ RentMissing g params.payer.pubkey pool.coin.1 pool.coin.2 params.openSeedOptimize
  scales : pool.quoteIsWsolOrUsdc → params.exact = true →
    SellScales checks (expectedBase params pool) params.slippage.toNat

/-- A sale that is quoted. -/
def SellPossible : Prop :=
  ∃ amount, params.inputAmount = some amount ∧ Quoted checks params pool amount (¬ pool.quoteIsWsolOrUsdc)

/-- The builder returns, and where its quote is an error it returns an error. -/
structure AnswersQuote (build : Cached (Except Error (List Instruction))) (quoteFails : Prop) : Prop where
  returns : ∃ result, (build.run g).1 = .ret result
  propagates : quoteFails → ∃ e, (build.run g).1 = .ret (.error e)

end Conditions

variable {checks : Bool} {params : InstructionParams} {pool : PumpSwapParams} {g : Globals} {amount : UInt64}
  {spendsQuote : Prop} [Decidable spendsQuote]

/-! ## The amounts of a trade -/

theorem QuoteFails.not_quoted (h : QuoteFails checks params pool amount spendsQuote) :
    ¬ Quoted checks params pool amount spendsQuote := by
  unfold QuoteFails at h
  unfold Quoted
  split_ifs at h ⊢
  · obtain ⟨e, he⟩ := h
    intro hquoted
    obtain ⟨r, hr⟩ := buyQuoteInputInternal_returns.mpr hquoted
    rw [he] at hr
    cases hr
  · obtain ⟨e, he⟩ := h
    intro hquoted
    obtain ⟨r, hr⟩ := sellBaseInputInternal_returns.mpr hquoted
    rw [he] at hr
    cases hr

theorem buyAmounts_returns : (∃ amounts, buyAmounts checks params pool = .ret amounts) ↔
    Quoted checks params pool params.amount pool.quoteIsWsolOrUsdc := by
  unfold buyAmounts Quoted
  split_ifs
  · exact (unwrapText_bind_returns fun r => ⟨_, rfl⟩).trans buyQuoteInputInternal_returns
  · exact (unwrapText_bind_returns fun r => ⟨_, rfl⟩).trans sellBaseInputInternal_returns

theorem sellAmounts_returns : (∃ amounts, sellAmounts checks params pool amount = .ret amounts) ↔
    Quoted checks params pool amount (¬ pool.quoteIsWsolOrUsdc) := by
  unfold sellAmounts Quoted
  by_cases hquote : pool.quoteIsWsolOrUsdc
  · rw [if_pos hquote, if_neg (not_not.mpr hquote)]
    exact (unwrapText_bind_returns fun r => ⟨_, rfl⟩).trans sellBaseInputInternal_returns
  · rw [if_neg hquote, if_pos hquote]
    exact (unwrapText_bind_returns fun r => ⟨_, rfl⟩).trans buyQuoteInputInternal_returns

theorem buyAmounts_tokenAmount {amounts : Amounts} (hquote : pool.quoteIsWsolOrUsdc)
    (h : buyAmounts checks params pool = .ret amounts) : amounts.tokenAmount.toNat = expectedBase params pool := by
  unfold buyAmounts at h
  rw [if_pos hquote] at h
  obtain ⟨quoted, hquoted, h⟩ := Outcome.bind_eq_ret.mp h
  obtain ⟨result, hresult, h⟩ := Outcome.bind_eq_ret.mp h
  obtain rfl := Outcome.ret.inj h
  rw [unwrapText_eq_ret.mp hresult] at hquoted
  obtain ⟨-, hbase⟩ := buyQuoteInputInternal_ok hquoted
  unfold expectedBase
  cases params.fixedOutputAmount with
  | none => exact hbase
  | some fixed => rfl

theorem buyData_returns {amounts : Amounts} (h : buyAmounts checks params pool = .ret amounts) :
    (∃ data, buyData checks params pool amounts = .ret data) ↔
      (pool.quoteIsWsolOrUsdc → params.exact = true →
        SellScales checks (expectedBase params pool) params.slippage.toNat) := by
  unfold buyData
  by_cases hquote : pool.quoteIsWsolOrUsdc
  · rw [if_pos hquote, ← buyAmounts_tokenAmount hquote h]
    by_cases hexact : params.exact = true
    · rw [if_pos hexact, ← calculateWithSlippageSell_returns]
      constructor
      · rintro ⟨data, hdata⟩ - -
        obtain ⟨minBaseAmountOut, hmin, -⟩ := Outcome.bind_eq_ret.mp hdata
        exact ⟨minBaseAmountOut, hmin⟩
      · intro hscales
        obtain ⟨minBaseAmountOut, hmin⟩ := hscales hquote hexact
        rw [hmin]
        exact ⟨_, rfl⟩
    · rw [if_neg hexact]
      exact iff_of_true ⟨_, rfl⟩ fun _ h => absurd h hexact
  · rw [if_neg hquote]
    exact iff_of_true ⟨_, rfl⟩ fun h => absurd h hquote

/-! ## The builders -/

variable (checks) in
/-- **When a buy that is not rejected returns.** -/
theorem buy_succeeds_iff (hD : Derives D) (hg : Coherent D g) (hparams : params.protocolParams = .pumpSwap pool)
    (hzero : params.amount ≠ 0) (hkind : ¬ RefusesPool pool) :
    (buildBuyInstructions D checks params).Succeeds g ↔ BuyPossible checks params pool g := by
  have hbuild : (buildBuyInstructions D checks params).ReturnsIff
      (fun g' => Coherent D g' ∧
        SameCreation params.payer.pubkey pool.coin.1 pool.coin.2 params.openSeedOptimize g g')
      (∃ amounts, buyAmounts checks params pool = .ret amounts ∧
        (params.createOutputMintAta = true →
          ¬ RentMissing g params.payer.pubkey pool.coin.1 pool.coin.2 params.openSeedOptimize) ∧
        ∃ data, buyData checks params pool amounts = .ret data ∧ True) := by
    have haccepts : ¬ (¬ pool.isWsol ∧ ¬ pool.isUsdc) := hkind
    unfold buildBuyInstructions
    simp only [hparams, if_neg hzero, if_neg haccepts]
    refine Prog.returnsIff_lift_bind fun amounts hamounts => ?_
    refine (Derives.framed (ata_total hD _ _ _ _) (confined_ata _ _ _ _)).bind_returnsIff fun userBase => ?_
    refine (Derives.framed (ata_total hD _ _ _ _) (confined_ata _ _ _ _)).bind_returnsIff fun userQuote => ?_
    refine (Derives.framed (ata_total hD _ _ _ _) (confined_ata _ _ _ _)).bind_returnsIff fun feeAta => ?_
    refine (onlyIf_total (Derives.framed (handleWsol_total hD _)
      (confined_handleWsol _ _))).bind_returnsIff fun wrapped => ?_
    refine (onlyIf_returnsIff (create_returnsIff hD g)).bind
      (fun g' hg' _ => (Prog.Keeps.run (created_returns _ _ _ _ _) hg'.1).2) fun created => ?_
    refine (onlyIf_total (volumeAccounts_total hD _)).bind_returnsIff fun volume => ?_
    refine (onlyIf_total (buyCashback_total hD _)).bind_returnsIff fun cashback => ?_
    obtain ⟨poolV2, hpoolV2⟩ := poolV2_returns hD pool.baseMint
    simp only [hpoolV2, Prog.lift_ret, Prog.ret_bind, Outcome.unwrap_some]
    refine Prog.returnsIff_lift_bind fun data hdata => ?_
    exact (onlyIf_total (closeWsol_total hD)).bind_returnsIff fun closed => Prog.returnsIff_ret _
  rw [hbuild g ⟨hg, sameCreation_refl g⟩]
  constructor
  · rintro ⟨amounts, hamounts, hrent, data, hdata, -⟩
    exact ⟨buyAmounts_returns.mp ⟨amounts, hamounts⟩, hrent, (buyData_returns hamounts).mp ⟨data, hdata⟩⟩
  · intro h
    obtain ⟨amounts, hamounts⟩ := buyAmounts_returns.mpr h.quoted
    obtain ⟨data, hdata⟩ := (buyData_returns hamounts).mpr h.scales
    exact ⟨amounts, hamounts, h.rent, data, hdata, trivial⟩

variable (checks) in
/-- **When a sale that is not rejected returns.** -/
theorem sell_succeeds_iff (hD : Derives D) (hg : Coherent D g) (hparams : params.protocolParams = .pumpSwap pool)
    (hkind : ¬ RefusesPool pool) (hamount : params.inputAmount = some amount) :
    (buildSellInstructions D checks params).Succeeds g ↔
      Quoted checks params pool amount (¬ pool.quoteIsWsolOrUsdc) := by
  have hbuild : (buildSellInstructions D checks params).ReturnsIff (Coherent D)
      (∃ amounts, sellAmounts checks params pool amount = .ret amounts ∧ True) := by
    have haccepts : ¬ (¬ pool.isWsol ∧ ¬ pool.isUsdc) := hkind
    unfold buildSellInstructions
    simp only [hparams, if_neg haccepts, hamount]
    refine Prog.returnsIff_lift_bind fun amounts hamounts => ?_
    refine (ata_total hD _ _ _ _).bind_returnsIff fun feeAta => ?_
    refine (ata_total hD _ _ _ _).bind_returnsIff fun userBase => ?_
    refine (ata_total hD _ _ _ _).bind_returnsIff fun userQuote => ?_
    refine (onlyIf_total (create_total hD _ (not_usesSeed_false _ _))).bind_returnsIff fun created => ?_
    refine (onlyIf_total (volumeAccounts_total hD _)).bind_returnsIff fun volume => ?_
    refine (onlyIf_total (sellCashback_total hD _)).bind_returnsIff fun cashback => ?_
    obtain ⟨poolV2, hpoolV2⟩ := poolV2_returns hD pool.baseMint
    simp only [hpoolV2, Prog.lift_ret, Prog.ret_bind, Outcome.unwrap_some]
    exact (onlyIf_total (closeWsol_total hD)).bind_returnsIff fun closed => Prog.returnsIff_ret _
  rw [hbuild g hg, ← sellAmounts_returns]
  simp only [and_true]

theorem answersQuote_of_rejects {build : Cached (Except Error (List Instruction))} (quoteFails : Prop)
    (h : ∃ e, build = .ret (.error e)) : AnswersQuote g build quoteFails := by
  obtain ⟨e, rfl⟩ := h
  exact ⟨⟨_, rfl⟩, fun _ => ⟨e, rfl⟩⟩

/-- A builder whose quote is returned wherever it returns only has to return. -/
theorem answersQuote_iff {build : Cached (Except Error (List Instruction))} {quoteFails : Prop}
    (h : build.Succeeds g → ¬ quoteFails) : AnswersQuote g build quoteFails ↔ build.Succeeds g :=
  ⟨fun hanswers => hanswers.returns, fun hsucceeds => ⟨hsucceeds, fun hfails => absurd hfails (h hsucceeds)⟩⟩

variable (checks) in
/-- **When the builders answer.** In every reached state and for every pool whose derivations
succeed, a buy and a sale are answered exactly where they are rejected before they are quoted, or
where the quote is returned and nothing after it panics. -/
theorem builders_answer_iff (hD : Derives D) (hg : Reached D g)
    (hparams : params.protocolParams = .pumpSwap pool) :
    (AnswersQuote g (buildBuyInstructions D checks params)
        (QuoteFails checks params pool params.amount pool.quoteIsWsolOrUsdc) ↔
      RejectsBuy params ∨ BuyPossible checks params pool g) ∧
    (AnswersQuote g (buildSellInstructions D checks params)
        (∃ amount, params.inputAmount = some amount ∧
          QuoteFails checks params pool amount (¬ pool.quoteIsWsolOrUsdc)) ↔
      RejectsSell params ∨ SellPossible checks params pool) := by
  have hpool : ∀ pool', params.protocolParams = .pumpSwap pool' → pool' = pool := by
    intro pool' h
    simpa [hparams] using h.symm
  constructor
  · by_cases hrejects : RejectsBuy params
    · exact iff_of_true (answersQuote_of_rejects _ (buy_of_rejects hrejects)) (Or.inl hrejects)
    obtain ⟨hzero, hkind⟩ : params.amount ≠ 0 ∧ ¬ RefusesPool pool := by
      refine not_or.mp fun h => hrejects fun pool' hpool' => ?_
      rwa [hpool pool' hpool']
    have hsucceeds := buy_succeeds_iff checks hD hg.coherent hparams hzero hkind
    rw [answersQuote_iff fun h hfails => hfails.not_quoted (hsucceeds.mp h).quoted, hsucceeds]
    exact (or_iff_right hrejects).symm
  · by_cases hrejects : RejectsSell params
    · exact iff_of_true (answersQuote_of_rejects _ (sell_of_rejects hrejects)) (Or.inl hrejects)
    obtain ⟨hkind, hsome⟩ : ¬ RefusesPool pool ∧ params.inputAmount ≠ none := by
      refine not_or.mp fun h => hrejects fun pool' hpool' => ?_
      rwa [hpool pool' hpool']
    obtain ⟨amount, hamount⟩ := Option.ne_none_iff_exists'.mp hsome
    have hsucceeds := sell_succeeds_iff checks hD hg.coherent hparams hkind hamount
    have hpossible : SellPossible checks params pool ↔
        Quoted checks params pool amount (¬ pool.quoteIsWsolOrUsdc) := by
      simp only [SellPossible, hamount, Option.some.injEq, exists_eq_left']
    rw [or_iff_right hrejects, hpossible, ← hsucceeds]
    refine answersQuote_iff ?_
    rintro h ⟨amount', hamount', hfails⟩
    obtain rfl : amount = amount' := Option.some.inj (hamount.symm.trans hamount')
    exact hfails.not_quoted (hsucceeds.mp h)

theorem derives_sample : Derives sampleDerivations where
  account _ _ _ := ⟨_, rfl⟩
  seeded _ _ _ _ := ⟨_, rfl⟩
  volume _ := ⟨_, rfl⟩
  poolV2 _ := ⟨_, rfl⟩

/-- A pool of a coin and wrapped SOL. -/
def samplePool (baseReserves quoteReserves : UInt64) : PumpSwapParams :=
  { (default : PumpSwapParams) with
    baseMint := ⟨5⟩
    quoteMint := wsolTokenAccount
    poolBaseTokenReserves := baseReserves
    poolQuoteTokenReserves := quoteReserves
    baseTokenProgram := tokenProgram
    quoteTokenProgram := tokenProgram }

/-- In a pool that holds something both builders answer. -/
theorem builders_answer_iff_quoted :
    let pool := samplePool 1000000 2000000
    AnswersQuote (.withRents 2039280) (buildBuyInstructions sampleDerivations true (sampleSwap 1000 pool))
        (QuoteFails true (sampleSwap 1000 pool) pool 1000 pool.quoteIsWsolOrUsdc) ∧
      AnswersQuote (.withRents 2039280) (buildSellInstructions sampleDerivations true (sampleSwap 1000 pool))
        (∃ amount, some 1000 = some amount ∧
          QuoteFails true (sampleSwap 1000 pool) pool amount (¬ pool.quoteIsWsolOrUsdc)) := by
  intro pool
  have hbuy : BuyPossible true (sampleSwap 1000 pool) pool (.withRents 2039280) :=
    { quoted := ⟨by decide, by decide, by decide⟩
      rent := fun _ h => absurd h.2.1 (by decide)
      scales := fun _ _ => by decide }
  have hsell : SellPossible true (sampleSwap 1000 pool) pool :=
    ⟨1000, rfl, by decide, by decide, Or.inr (by decide), by decide⟩
  have hparams : (sampleSwap 1000 pool).protocolParams = .pumpSwap pool := rfl
  obtain ⟨hbuys, hsells⟩ := builders_answer_iff true derives_sample (reached_withRents _ 2039280) hparams
  exact ⟨hbuys.mpr (Or.inr hbuy), hsells.mpr (Or.inr hsell)⟩

/-- A buy from an empty pool panics, and so does a sale that is paid less than its two fees: both
quotes are errors. -/
theorem builders_panic :
    let empty := samplePool 0 0
    let dust := samplePool 1000 1000
    let g := Globals.withRents 2039280
    (((buildBuyInstructions sampleDerivations true (sampleSwap 1000 empty)).run g).1 =
        unwrapText (.error invalidReserves) ∧
      ¬ AnswersQuote g (buildBuyInstructions sampleDerivations true (sampleSwap 1000 empty))
        (QuoteFails true (sampleSwap 1000 empty) empty 1000 empty.quoteIsWsolOrUsdc)) ∧
    ((buildSellInstructions sampleDerivations true (sampleSwap 2 dust)).run g).1 =
        unwrapText (.error "Fees exceed total output; final quote is negative.") ∧
      ¬ AnswersQuote g (buildSellInstructions sampleDerivations true (sampleSwap 2 dust))
        (∃ amount, some 2 = some amount ∧
          QuoteFails true (sampleSwap 2 dust) dust amount (¬ dust.quoteIsWsolOrUsdc)) := by
  refine ⟨⟨rfl, ?_⟩, rfl, ?_⟩
  · rintro ⟨⟨result, hresult⟩, -⟩
    cases hresult
  · rintro ⟨⟨result, hresult⟩, -⟩
    cases hresult

end PumpSwap

end PumpTrade
