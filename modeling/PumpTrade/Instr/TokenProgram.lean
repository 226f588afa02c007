import PumpTrade.Instr.PoolParams
import PumpTrade.Instr.PumpSwap

/-!
# Token programs of the listed accounts

A swap of the AMM lists token accounts, their mints and the programs of the mints. The accounts of
the user are derived with the listed programs; those of the fee recipient and of the coin's creator
always with Token.

* `ListedAccounts`, `Instruction.listedAccounts?`: what a swap lists;
* `ListedAccounts.MatchPrograms`: each account is derived with the program listed for its mint;
* `buy_trades`, `sell_trades`: the swap of a trade, and how its accounts were derived;
* **`matchPrograms_iff`**: for a pool on the chain they match exactly where its quote is of the
  Token program.
-/

namespace PumpTrade

open Base

/-- The token accounts that a swap of the AMM lists, their owners and mints, and the programs of the
mints. -/
structure ListedAccounts where
  user : Pubkey
  baseMint : Pubkey
  quoteMint : Pubkey
  userBase : Pubkey
  userQuote : Pubkey
  feeRecipient : Pubkey
  feeRecipientAta : Pubkey
  baseTokenProgram : Pubkey
  quoteTokenProgram : Pubkey
  coinCreatorVaultAta : Pubkey
  coinCreatorVaultAuthority : Pubkey
  deriving DecidableEq, Repr

/-- They stand at fixed places of the account list. -/
def Instruction.listedAccounts? (instruction : Instruction) : Option ListedAccounts := do
  let user ← instruction.account? 1
  let baseMint ← instruction.account? 3
  let quoteMint ← instruction.account? 4
  let userBase ← instruction.account? 5
  let userQuote ← instruction.account? 6
  let feeRecipient ← instruction.account? 9
  let feeRecipientAta ← instruction.account? 10
  let baseTokenProgram ← instruction.account? 11
  let quoteTokenProgram ← instruction.account? 12
  let coinCreatorVaultAta ← instruction.account? 17
  let coinCreatorVaultAuthority ← instruction.account? 18
  return {
    user, baseMint, quoteMint, userBase, userQuote, feeRecipient, feeRecipientAta, baseTokenProgram,
    quoteTokenProgram, coinCreatorVaultAta, coinCreatorVaultAuthority }

variable (D : Derivations)

/-- Each account is derived with the program that is listed for its mint. -/
structure ListedAccounts.MatchPrograms (useSeed : Bool) (a : ListedAccounts) : Prop where
  userBase : ataAddress D a.user a.baseMint a.baseTokenProgram useSeed = .ret a.userBase
  userQuote : ataAddress D a.user a.quoteMint a.quoteTokenProgram useSeed = .ret a.userQuote
  feeRecipient : ataAddress D a.feeRecipient a.quoteMint a.quoteTokenProgram false = .ret a.feeRecipientAta
  coinCreator :
    ataAddress D a.coinCreatorVaultAuthority a.quoteMint a.quoteTokenProgram false = .ret a.coinCreatorVaultAta

namespace PumpSwap

variable (params : InstructionParams) (pool : PumpSwapParams)

/-- Whom the pool pays its fee to. -/
def recipient : Pubkey := if pool.isMayhemMode then mayhemFeeRecipient else feeRecipient

/-- A swap in the pool, with the accounts that the builders derive. -/
def SwapIn (swap : Instruction) : Prop :=
  ∃ userBase userQuote feeRecipientAta volume cashback poolV2 data,
    swap = ⟨ammProgram, accounts pool params.payer.pubkey userBase userQuote feeRecipientAta volume cashback
      poolV2, data⟩ ∧
    ataAddress D params.payer.pubkey pool.baseMint pool.baseTokenProgram params.openSeedOptimize =
      .ret userBase ∧
    ataAddress D params.payer.pubkey pool.quoteMint pool.quoteTokenProgram params.openSeedOptimize =
      .ret userQuote ∧
    ataAddress D (recipient pool) pool.quoteMint tokenProgram false = .ret feeRecipientAta

/-- No instruction is one of the AMM. -/
def NoTrade (instructions : List Instruction) : Prop := ∀ i ∈ instructions, i.programId ≠ ammProgram

/-- The instructions are those of one swap in the pool. -/
def Trades (instructions : List Instruction) : Prop :=
  ∃ before swap after, instructions = before ++ ([swap] ++ after) ∧ NoTrade before ∧ NoTrade after ∧
    SwapIn D params pool swap

/-- What a builder returns is an error, or a trade in the pool. -/
def TradesIfOk : Except Error (List Instruction) → Prop
  | .error _ => True
  | .ok instructions => Trades D params pool instructions

variable {D} {params} {pool} {checks : Bool}

/-! ## Around the swap -/

theorem noTrade_nil : NoTrade [] := by simp [NoTrade]

theorem NoTrade.cons {i : Instruction} {is : List Instruction} (h : i.programId ≠ ammProgram)
    (hs : NoTrade is) : NoTrade (i :: is) := by
  intro j hj
  rcases List.mem_cons.mp hj with rfl | hj
  · exact h
  · exact hs j hj

theorem NoTrade.append {is js : List Instruction} (hi : NoTrade is) (hj : NoTrade js) : NoTrade (is ++ js) := by
  intro i h
  rcases List.mem_append.mp h with h | h
  · exact hi i h
  · exact hj i h

theorem system_ne_amm : systemProgram ≠ ammProgram := by decide

theorem token_ne_amm {program : Pubkey} (h : program = tokenProgram ∨ program = tokenProgram2022) :
    program ≠ ammProgram := by
  rcases h with rfl | rfl
  · decide
  · decide

theorem noTrade_associated (payer account owner mint program : Pubkey) :
    NoTrade [createAssociatedTokenAccount payer account owner mint program] := by
  have hprogram : associatedTokenProgramId ≠ ammProgram := by decide
  exact noTrade_nil.cons hprogram

theorem noTrade_close {program : Pubkey} (h : program ≠ ammProgram) (account destination owner : Pubkey)
    (signers : List Pubkey) : NoTrade [closeAccount program account destination owner signers] :=
  noTrade_nil.cons h

theorem noTrade_created {rent : UInt64} {payer owner mint program : Pubkey} {useSeed : Bool}
    {instructions : List Instruction}
    (h : createInstructions D rent payer owner mint program useSeed = .ret instructions) :
    NoTrade instructions := by
  unfold createInstructions at h
  by_cases huses : usesSeed mint program useSeed
  · rw [if_pos huses] at h
    unfold createUseSeed at h
    split_ifs at h
    · cases h
    cases haddress : D.createWithSeed payer (mintSeed D mint) program with
    | error e =>
      rw [haddress] at h
      cases h
    | ok account =>
      rw [haddress] at h
      obtain rfl := Outcome.ret.inj h
      exact (noTrade_nil.cons (token_ne_amm huses.2.2.2)).cons system_ne_amm
  · rw [if_neg huses] at h
    obtain ⟨account, -, h⟩ := Outcome.bind_eq_ret.mp h
    obtain rfl := Outcome.ret.inj h
    exact noTrade_associated _ _ _ _ _

theorem wrapped_noTrade (flag : Bool) (payer : Pubkey) (amountIn : UInt64) :
    (onlyIf flag (handleWsol D payer amountIn)).Returns (Coherent D) NoTrade := by
  refine onlyIf_returns (fun _ => (handleWsol_returns payer amountIn).mono ?_) fun _ => noTrade_nil
  rintro instructions ⟨account, -, rfl⟩
  exact (noTrade_associated _ _ _ _ _).append
    ((noTrade_nil.cons (token_ne_amm (Or.inl rfl))).cons system_ne_amm)

theorem created_noTrade (flag : Bool) (payer owner mint program : Pubkey) (useSeed : Bool) :
    (onlyIf flag (createAssociatedTokenAccountIdempotentFastUseSeed D payer owner mint program useSeed)).Returns
      (Coherent D) NoTrade := by
  refine onlyIf_returns (fun _ => (keeps_create payer owner mint program useSeed).mono ?_) fun _ => noTrade_nil
  rintro o ⟨rent, rfl⟩ instructions h
  exact noTrade_created h

theorem closedWsol_noTrade (flag : Bool) (payer : Pubkey) :
    (onlyIf flag (closeWsol D payer)).Returns (Coherent D) NoTrade := by
  refine onlyIf_returns (fun _ => (closeWsol_returns payer).mono ?_) fun _ => noTrade_nil
  rintro instructions ⟨account, -, rfl⟩
  exact noTrade_close (by decide) _ _ _ _

theorem closeIf_noTrade {program : Pubkey} (h : program ≠ ammProgram) (flag : Bool) (account payer : Pubkey) :
    NoTrade (closeIf flag program account payer) := by
  unfold closeIf
  split_ifs
  · exact noTrade_close h _ _ _ _
  · exact noTrade_nil

/-! ## The swap of a trade -/

/-- **A buy** is one swap in the pool. -/
theorem buy_trades (hparams : params.protocolParams = .pumpSwap pool) :
    (buildBuyInstructions D checks params).Returns (Coherent D) (TradesIfOk D params pool) := by
  unfold buildBuyInstructions
  simp only [hparams]
  refine Prog.returns_ite (fun _ => Prog.returns_ret trivial) fun _ => ?_
  refine Prog.returns_ite (fun _ => Prog.returns_ret trivial) fun _ => ?_
  refine (Prog.returns_lift _).bind fun amounts _ => ?_
  refine (userAccount_returns _ _ _ _).bind fun userBase hbase => ?_
  refine (userAccount_returns _ _ _ _).bind fun userQuote hquote => ?_
  refine (userAccount_returns _ _ _ _).bind fun feeRecipientAta hrecipient => ?_
  refine (wrapped_noTrade _ _ _).bind fun wrapped hwrapped => ?_
  refine (created_noTrade _ _ _ _ _ _).bind fun created hcreated => ?_
  refine (onlyIf_returns (fun _ => volumeAccounts_returns _) fun _ => trivial).bind fun volume _ => ?_
  refine (onlyIf_returns (fun _ => buyCashback_returns _) fun _ => trivial).bind fun cashback _ => ?_
  refine (Prog.returns_lift _).bind fun pda _ => ?_
  refine (Prog.returns_lift _).bind fun poolV2 _ => ?_
  refine (Prog.returns_lift _).bind fun data _ => ?_
  refine (closedWsol_noTrade _ _).bind fun closed hclosed => ?_
  refine Prog.returns_ret ⟨wrapped ++ created, _, closed, ?_, hwrapped.append hcreated, hclosed, userBase,
    userQuote, feeRecipientAta, volume, cashback, poolV2, data, rfl, hbase, hquote, hrecipient⟩
  rw [List.append_assoc]

/-- **A sale** is one swap in the pool. -/
theorem sell_trades (hparams : params.protocolParams = .pumpSwap pool) (hcoin : pool.coin.2 ≠ ammProgram) :
    (buildSellInstructions D checks params).Returns (Coherent D) (TradesIfOk D params pool) := by
  unfold buildSellInstructions
  simp only [hparams]
  refine Prog.returns_ite (fun _ => Prog.returns_ret trivial) fun _ => ?_
  split
  · exact Prog.returns_ret trivial
  refine (Prog.returns_lift _).bind fun amounts _ => ?_
  refine (userAccount_returns _ _ _ _).bind fun feeRecipientAta hrecipient => ?_
  refine (userAccount_returns _ _ _ _).bind fun userBase hbase => ?_
  refine (userAccount_returns _ _ _ _).bind fun userQuote hquote => ?_
  refine (created_noTrade params.createOutputMintAta params.payer.pubkey params.payer.pubkey wsolTokenAccount
    tokenProgram false).bind fun created hcreated => ?_
  refine (onlyIf_returns (fun _ => volumeAccounts_returns _) fun _ => trivial).bind fun volume _ => ?_
  refine (onlyIf_returns (fun _ => sellCashback_returns _) fun _ => trivial).bind fun cashback _ => ?_
  refine (Prog.returns_lift _).bind fun pda _ => ?_
  refine (Prog.returns_lift _).bind fun poolV2 _ => ?_
  refine (closedWsol_noTrade _ _).bind fun closed hclosed => ?_
  exact Prog.returns_ret ⟨created, _, _, rfl, hcreated, hclosed.append (closeIf_noTrade hcoin _ _ _), userBase,
    userQuote, feeRecipientAta, volume, cashback, poolV2, _, rfl, hbase, hquote, hrecipient⟩

/-! ## Matching programs -/

theorem recipient_meta (pool : PumpSwapParams) :
    (if pool.isMayhemMode then mayhemFeeRecipientMeta else feeRecipientMeta).pubkey = recipient pool := by
  unfold recipient
  split_ifs <;> rfl

/-- The programs of a swap in a pool on the chain match where its quote is of the Token program. -/
theorem SwapIn.match_iff_token {swap : Instruction} (h : SwapIn D params pool swap) (hpool : pool.FromPool D)
    (hseparates : Separates D (recipient pool) pool.quoteMint tokenProgram false pool.quoteMint tokenProgram2022
      false) :
    ∃ a, swap.listedAccounts? = some a ∧ (a.MatchPrograms D params.openSeedOptimize ↔
      pool.quoteTokenProgram = tokenProgram) := by
  obtain ⟨userBase, userQuote, feeRecipientAta, volume, cashback, poolV2, data, rfl, hbase, hquote, hfee⟩ := h
  refine ⟨_, rfl, fun h => ?_, fun htoken => ?_⟩
  · refine hpool.programs.2.resolve_right fun h2022 => ?_
    have hlisted := h.feeRecipient
    simp only [recipient_meta, h2022] at hlisted
    exact absurd (hseparates _ hfee hlisted).2.1 (by decide)
  · refine ⟨hbase, hquote, ?_, ?_⟩
    · simp only [recipient_meta, htoken]
      exact hfee
    · have hvault := hpool.vault
      rw [← ataAddress_false] at hvault
      simp only [htoken]
      exact hvault

theorem NoTrade.filter {instructions : List Instruction} (h : NoTrade instructions) :
    instructions.filter (fun i => i.programId = ammProgram) = [] :=
  List.filter_eq_nil_iff.mpr fun i hi => by simpa using h i hi

theorem Trades.exists_swap {instructions : List Instruction} (h : Trades D params pool instructions) :
    ∃ swap, instructions.filter (fun i => i.programId = ammProgram) = [swap] ∧ SwapIn D params pool swap := by
  obtain ⟨before, swap, after, rfl, hbefore, hafter, hswap⟩ := h
  have hprogram : swap.programId = ammProgram := by
    obtain ⟨_, _, _, _, _, _, _, rfl, -⟩ := hswap
    rfl
  refine ⟨swap, ?_, hswap⟩
  rw [List.filter_append, List.filter_append, hbefore.filter, hafter.filter,
    List.filter_cons_of_pos (by simp [hprogram])]
  rfl

/-- **When the listed programs match.** A trade in a pool that was built from the chain is one swap,
and each of its token accounts is derived with the program that it lists for the account's mint
exactly where the pool keeps its quote in the associated account for the Token program. -/
theorem matchPrograms_iff {node : PoolNode} {poolAddress : Pubkey} {g : Globals} {instructions : List Instruction}
    (hpool : PumpSwapParams.fromPoolAddressByRpc D node poolAddress = .ret (.ok pool)) (hg : Reached D g)
    (hparams : params.protocolParams = .pumpSwap pool)
    (hbuilt : ((buildBuyInstructions D checks params).run g).1 = .ret (.ok instructions) ∨
      ((buildSellInstructions D checks params).run g).1 = .ret (.ok instructions))
    (hseparates : Separates D (recipient pool) pool.quoteMint tokenProgram false pool.quoteMint tokenProgram2022
      false) :
    ∃ swap a, instructions.filter (fun i => i.programId = ammProgram) = [swap] ∧
      swap.listedAccounts? = some a ∧ (a.MatchPrograms D params.openSeedOptimize ↔
        getAssociatedTokenAddressWithProgramId D pool.pool pool.quoteMint tokenProgram =
          .ret pool.poolQuoteTokenAccount) := by
  have hfrom := fromPoolAddressByRpc_spec hpool
  have hcoin : pool.coin.2 ≠ ammProgram := by
    unfold PumpSwapParams.coin
    split_ifs
    · exact token_ne_amm hfrom.programs.1
    · exact token_ne_amm hfrom.programs.2
  have htrades : Trades D params pool instructions := by
    rcases hbuilt with hbuy | hsell
    · exact (buy_trades hparams).run hg.coherent hbuy
    · exact (sell_trades hparams hcoin).run hg.coherent hsell
  obtain ⟨swap, hfilter, hswap⟩ := htrades.exists_swap
  obtain ⟨a, hlisted, hiff⟩ := hswap.match_iff_token hfrom hseparates
  exact ⟨swap, a, hfilter, hlisted, hiff.trans hfrom.quoteTokenProgram_iff⟩

/-! ## Small pools -/

/-- Derivations that weigh their seeds, so that accounts for different programs differ. -/
def weighingDerivations : Derivations :=
  { sampleDerivations with
    tryFindProgramAddress := fun seeds programId => some ⟨BitVec.ofNat 256
      (seeds.foldl (fun sum seed => 3 * sum + ofLeBytes seed.reverse) programId.bits.toNat)⟩ }

/-- The associated account of the pool at address 6. -/
def sampleAccount (mint program : Pubkey) : Pubkey :=
  (weighingDerivations.tryFindProgramAddress [(⟨6⟩ : Pubkey).toBytes, program.toBytes, mint.toBytes]
    associatedTokenProgramId).getD default

/-- A pool whose quote is of this program. -/
def samplePoolData (baseMint quoteMint quoteProgram : Pubkey) : Pool :=
  { (default : Pool) with
    baseMint
    quoteMint
    poolBaseTokenAccount := sampleAccount baseMint tokenProgram
    poolQuoteTokenAccount := sampleAccount quoteMint quoteProgram
    coinCreator := ⟨8⟩ }

/-- A node that knows one pool, with a million and two million tokens. -/
def sampleNode (pool : Pool) : PoolNode where
  getAccount _ := .ok ⟨ammProgram, List.replicate 8 0 ++ Pool.codec.encode pool⟩
  getTokenAccountBalance account := .ok (if account = pool.poolBaseTokenAccount then "1000000" else "2000000")

/-- The parameters that are built from it. -/
def sampleBuilt (baseMint quoteMint quoteProgram : Pubkey) : PumpSwapParams :=
  let vaultAuthority := (weighingDerivations.tryFindProgramAddress [coinCreatorVaultSeed, (⟨8⟩ : Pubkey).toBytes]
    ammProgram).getD default
  { (default : PumpSwapParams) with
    pool := ⟨6⟩
    baseMint
    quoteMint
    poolBaseTokenAccount := sampleAccount baseMint tokenProgram
    poolQuoteTokenAccount := sampleAccount quoteMint quoteProgram
    poolBaseTokenReserves := 1000000
    poolQuoteTokenReserves := 2000000
    coinCreatorVaultAta := (weighingDerivations.tryFindProgramAddress [vaultAuthority.toBytes,
      tokenProgram.toBytes, quoteMint.toBytes] associatedTokenProgramId).getD default
    coinCreatorVaultAuthority := vaultAuthority
    baseTokenProgram := tokenProgram
    quoteTokenProgram := quoteProgram }

theorem exists_instructions {x : Outcome (Except Error (List Instruction))}
    (h : (x.value?.bind Except.toOption).isSome = true) : ∃ instructions, x = .ret (.ok instructions) := by
  cases x with
  | panic msg => cases h
  | ret result =>
    cases result with
    | error e => cases h
    | ok instructions => exact ⟨instructions, rfl⟩

theorem separates_sample {mint : Pubkey} {pool : PumpSwapParams}
    (hne : ataAddress weighingDerivations (recipient pool) mint tokenProgram false ≠
      ataAddress weighingDerivations (recipient pool) mint tokenProgram2022 false) :
    Separates weighingDerivations (recipient pool) mint tokenProgram false mint tokenProgram2022 false :=
  fun _ htoken h2022 => absurd (htoken.trans h2022.symm) hne

/-- A pool of a coin and wrapped SOL, both of the Token program: the accounts match. -/
theorem matchPrograms_iff_token :
    let pool := sampleBuilt ⟨5⟩ wsolTokenAccount tokenProgram
    ∃ instructions swap a,
      ((buildBuyInstructions weighingDerivations true (sampleSwap 1000 pool)).run (.withRents 2039280)).1 =
        .ret (.ok instructions) ∧
      instructions.filter (fun i => i.programId = ammProgram) = [swap] ∧ swap.listedAccounts? = some a ∧
      a.MatchPrograms weighingDerivations true := by
  intro pool
  have hpool : PumpSwapParams.fromPoolAddressByRpc weighingDerivations
      (sampleNode (samplePoolData ⟨5⟩ wsolTokenAccount tokenProgram)) ⟨6⟩ = .ret (.ok pool) := by decide +kernel
  have hparams : (sampleSwap 1000 pool).protocolParams = .pumpSwap pool := rfl
  have hreturns : ((((buildBuyInstructions weighingDerivations true (sampleSwap 1000 pool)).run
      (.withRents 2039280)).1.value?).bind Except.toOption).isSome = true := by decide +kernel
  obtain ⟨instructions, hbuilt⟩ := exists_instructions hreturns
  obtain ⟨swap, a, hfilter, hlisted, hiff⟩ := matchPrograms_iff hpool (reached_withRents _ 2039280) hparams
    (Or.inl hbuilt) (separates_sample (by decide +kernel))
  exact ⟨instructions, swap, a, hbuilt, hfilter, hlisted, hiff.mpr (by decide +kernel)⟩

/-- A pool of wrapped SOL and a coin of Token-2022, which is the quote: a buy lists Token-2022 for
it, and the accounts of the fee recipient and of the creator are those for Token. -/
theorem matchPrograms_fails :
    let pool := sampleBuilt wsolTokenAccount ⟨5⟩ tokenProgram2022
    PumpSwapParams.fromPoolAddressByRpc weighingDerivations
        (sampleNode (samplePoolData wsolTokenAccount ⟨5⟩ tokenProgram2022)) ⟨6⟩ = .ret (.ok pool) ∧
    ∃ instructions swap a,
      ((buildBuyInstructions weighingDerivations true (sampleSwap 1000 pool)).run (.withRents 2039280)).1 =
        .ret (.ok instructions) ∧
      instructions.filter (fun i => i.programId = ammProgram) = [swap] ∧ swap.listedAccounts? = some a ∧
      ¬ a.MatchPrograms weighingDerivations true := by
  intro pool
  have hpool : PumpSwapParams.fromPoolAddressByRpc weighingDerivations
      (sampleNode (samplePoolData wsolTokenAccount ⟨5⟩ tokenProgram2022)) ⟨6⟩ = .ret (.ok pool) := by
    decide +kernel
  have hparams : (sampleSwap 1000 pool).protocolParams = .pumpSwap pool := rfl
  have hreturns : ((((buildBuyInstructions weighingDerivations true (sampleSwap 1000 pool)).run
      (.withRents 2039280)).1.value?).bind Except.toOption).isSome = true := by decide +kernel
  have hprogram : pool.quoteTokenProgram = tokenProgram2022 := rfl
  have hseparates : Separates weighingDerivations (recipient pool) pool.quoteMint tokenProgram false pool.quoteMint
      tokenProgram2022 false := separates_sample (by decide +kernel)
  clear_value pool
  obtain ⟨instructions, hbuilt⟩ := exists_instructions hreturns
  have hcoherent : Coherent weighingDerivations (.withRents 2039280) := (reached_withRents _ 2039280).coherent
  obtain ⟨swap, hfilter, hswap⟩ := Trades.exists_swap ((buy_trades hparams).run hcoherent hbuilt)
  obtain ⟨a, hlisted, hiff⟩ := hswap.match_iff_token (fromPoolAddressByRpc_spec hpool) hseparates
  refine ⟨hpool, instructions, swap, a, hbuilt, hfilter, hlisted, fun h => ?_⟩
  have htoken := hiff.mp h
  rw [hprogram] at htoken
  exact absurd htoken (by decide)

end PumpSwap

end PumpTrade
