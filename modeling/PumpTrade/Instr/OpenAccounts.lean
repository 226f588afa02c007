import PumpTrade.Base.Changes
import PumpTrade.Instr.PumpFun
import PumpTrade.Instr.PumpSwap

/-!
# The token accounts that a trade leaves open

Which accounts of the user are open once all instructions of a trade have run, given those that are
open before: an account is opened where it is created, and closed by the token program that owns it.

* `Instruction.change`, `openAfter`: what an instruction and a list of instructions do;
* `InstructionParams.buyChange`, `InstructionParams.sellChange`: what a trade is meant to do, by its
  flags;
* **`PumpFun.settles_buy`**, **`PumpSwap.settles_buy`** and those of the sales: the builders do just
  that.
-/

namespace PumpTrade

open Base

/-- The programs that own token accounts. -/
def isTokenProgram (program : Pubkey) : Bool := decide (program = tokenProgram ∨ program = tokenProgram2022)

/-- The account that an instruction opens, and the one that it closes. -/
def Instruction.change (instruction : Instruction) : Change Pubkey where
  put := {account | instruction.opens = some account}
  take := {account | instruction.closes tokenProgram = some account ∨
    instruction.closes tokenProgram2022 = some account}

/-- The accounts that are open after the instructions, of those that are open before. -/
def openAfter (instructions : List Instruction) (accounts : Set Pubkey) : Set Pubkey :=
  applyAll (instructions.map Instruction.change) accounts

@[simp] theorem openAfter_nil (accounts : Set Pubkey) : openAfter [] accounts = accounts := rfl

theorem openAfter_append (is js : List Instruction) (accounts : Set Pubkey) :
    openAfter (is ++ js) accounts = openAfter js (openAfter is accounts) := by
  unfold openAfter
  rw [List.map_append, applyAll_append]

theorem openAfter_of_opened {is : List Instruction} {created : List Pubkey} (hopened : opened is = created)
    (hclosed : ∀ program, closed program is = []) (accounts : Set Pubkey) :
    openAfter is accounts = accounts ∪ {account | account ∈ created} := by
  have hcloses : ∀ program, ∀ i ∈ is, i.closes program = none := by
    intro program
    simpa [closed, List.filterMap_eq_nil_iff] using hclosed program
  have htake : ∀ c ∈ is.map Instruction.change, c.take = ∅ := by
    intro c hc
    obtain ⟨i, hi, rfl⟩ := List.mem_map.mp hc
    ext account
    simp [Instruction.change, hcloses _ i hi]
  rw [openAfter, applyAll_of_puts htake, ← hopened]
  ext account
  simp [opened, Instruction.change]

theorem openAfter_swap {swap : Instruction} {effect : SwapEffect} (h : swap.swap? = some effect)
    (accounts : Set Pubkey) : openAfter [swap] accounts = accounts := by
  have hquiet := swap_quiet h
  rw [openAfter_of_opened (hquiet default).2.1 fun program => (hquiet program).2.2]
  simp

/-- A token program closes the account that it is asked to close; another program does not. -/
theorem openAfter_closeAccount (program account destination owner : Pubkey) (signers : List Pubkey)
    (accounts : Set Pubkey) :
    openAfter [closeAccount program account destination owner signers] accounts =
      accounts \ {a | isTokenProgram program = true ∧ a = account} := by
  have hopens : (closeAccount program account destination owner signers).opens = none := by
    simp [Instruction.opens, closeAccount, leBytes]
  have hcloses : ∀ p, (closeAccount program account destination owner signers).closes p =
      if program = p then some account else none := by
    intro p
    by_cases hp : program = p
    · subst hp
      simp
    · rw [if_neg hp]
      exact if_neg fun hc => hp hc.1
  have hput : ∀ c ∈ [closeAccount program account destination owner signers].map Instruction.change,
      c.put = ∅ := by
    intro c hc
    obtain rfl : c = _ := List.mem_singleton.mp hc
    ext a
    simp [Instruction.change, hopens]
  rw [openAfter, applyAll_of_takes hput]
  ext a
  simp only [List.map_cons, List.map_nil, List.mem_singleton, exists_eq_left, Instruction.change, hcloses,
    isTokenProgram, decide_eq_true_eq, Set.mem_sdiff, Set.mem_ofPred_eq]
  split_ifs <;> simp_all [eq_comm]

theorem openAfter_of_quiet {is : List Instruction}
    (h : ∀ i ∈ is, i.opens = none ∧ ∀ program, i.closes program = none) (accounts : Set Pubkey) :
    openAfter is accounts = accounts := by
  have hopened : opened is = [] := List.filterMap_eq_nil_iff.mpr fun i hi => (h i hi).1
  rw [openAfter_of_opened hopened fun program => List.filterMap_eq_nil_iff.mpr fun i hi => (h i hi).2 program]
  simp

/-! ## The parts of a trade -/

section Parts

variable (D : Derivations) (payer : Pubkey)

/-- The payer's account of a coin, where a flag says so. -/
def accountIf (useSeed : Bool) (coin : Pubkey × Pubkey) (flag : Bool) : Set Pubkey :=
  {account | flag = true ∧ ataAddress D payer coin.1 coin.2 useSeed = .ret account}

/-- The payer's account of wrapped SOL, where a flag says so. -/
def wsolIf (flag : Bool) : Set Pubkey := accountIf D payer false (wsolTokenAccount, tokenProgram) flag

variable {D} {payer} {useSeed : Bool} {coin : Pubkey × Pubkey}

@[simp] theorem accountIf_false : accountIf D payer useSeed coin false = ∅ := by
  simp [accountIf]

theorem accountIf_true {account : Pubkey} (h : ataAddress D payer coin.1 coin.2 useSeed = .ret account) :
    accountIf D payer useSeed coin true = {account} := by
  ext a
  simp [accountIf, h, eq_comm]

theorem opens_create (flag : Bool) :
    (onlyIf flag (createAssociatedTokenAccountIdempotentFastUseSeed D payer payer coin.1 coin.2
      useSeed)).Returns (Coherent D) fun is => ∀ s, openAfter is s = s ∪ accountIf D payer useSeed coin flag := by
  refine onlyIf_returns (fun hflag => ?_) fun hflag s => by simp [hflag]
  refine Prog.Keeps.mono (keeps_create payer payer coin.1 coin.2 _) ?_
  rintro o ⟨rent, rfl⟩ is hmade s
  obtain ⟨account, created, haddress, hprepares, hne, hall⟩ := prepares_createInstructions hmade
  rw [openAfter_of_opened hprepares.opened hprepares.closed, hflag, accountIf_true haddress]
  congr 1
  ext a
  constructor
  · exact hall a
  · rintro rfl
    obtain ⟨b, hb⟩ := List.exists_mem_of_ne_nil _ hne
    exact hall b hb ▸ hb

theorem opens_handleWsol (flag : Bool) (amountIn : UInt64) :
    (onlyIf flag (handleWsol D payer amountIn)).Returns (Coherent D)
      fun is => ∀ s, openAfter is s = s ∪ wsolIf D payer flag := by
  refine onlyIf_returns (fun hflag => ?_) fun hflag s => by simp [wsolIf, hflag]
  refine (handleWsol_returns payer amountIn).mono ?_
  rintro is ⟨account, haccount, rfl⟩ s
  have hprepares := prepares_handleWsol payer account amountIn
  rw [openAfter_of_opened hprepares.opened hprepares.closed, hflag, wsolIf, accountIf_true haccount]
  simp

theorem opens_createWsolAta (flag : Bool) :
    (onlyIf flag (createWsolAta D payer)).Returns (Coherent D)
      fun is => ∀ s, openAfter is s = s ∪ wsolIf D payer flag := by
  refine onlyIf_returns (fun hflag => ?_) fun hflag s => by simp [wsolIf, hflag]
  refine (createWsolAta_returns payer).mono ?_
  rintro is ⟨account, haccount, rfl⟩ s
  have hprepares := prepares_createAssociated payer account payer wsolTokenAccount tokenProgram
  rw [openAfter_of_opened hprepares.opened hprepares.closed, hflag, wsolIf, accountIf_true haccount]
  simp

theorem closes_closeWsol (flag : Bool) :
    (onlyIf flag (closeWsol D payer)).Returns (Coherent D)
      fun is => ∀ s, openAfter is s = s \ wsolIf D payer flag := by
  refine onlyIf_returns (fun hflag => ?_) fun hflag s => by simp [wsolIf, hflag]
  refine (closeWsol_returns payer).mono ?_
  rintro is ⟨account, haccount, rfl⟩ s
  have htoken : isTokenProgram tokenProgram = true := by decide
  rw [closeWsolInstructions, openAfter_closeAccount, hflag, wsolIf, accountIf_true haccount]
  ext a
  simp [htoken]

theorem closes_closeIf {account : Pubkey} (haccount : ataAddress D payer coin.1 coin.2 useSeed = .ret account)
    (flag : Bool) (s : Set Pubkey) :
    openAfter (closeIf flag coin.2 account payer) s =
      s \ accountIf D payer useSeed coin (flag && isTokenProgram coin.2) := by
  unfold closeIf
  cases flag with
  | false => simp
  | true =>
    rw [if_pos rfl, openAfter_closeAccount, Bool.true_and]
    cases htoken : isTokenProgram coin.2 with
    | false => simp
    | true =>
      rw [accountIf_true haccount]
      ext a
      simp

end Parts

section Trades

variable (D : Derivations) (params : InstructionParams)

/-- The payer's account of a coin that is traded, where a flag says so. -/
def InstructionParams.coinIf (coin : Pubkey × Pubkey) (flag : Bool) : Set Pubkey :=
  accountIf D params.payer.pubkey params.openSeedOptimize coin flag

/-- The accounts that a buy opens, and those that it closes. -/
def InstructionParams.buyChange : Change Pubkey :=
  match params.protocolParams with
  | .pumpFun curve =>
    { put := params.coinIf D (params.outputMint, curve.tokenProgram) params.createOutputMintAta
      take := ∅ }
  | .pumpSwap pool =>
    { put := wsolIf D params.payer.pubkey params.createInputMintAta ∪
        params.coinIf D pool.coin params.createOutputMintAta
      take := wsolIf D params.payer.pubkey params.closeInputMintAta }

/-- The accounts that a sale opens, and those that it closes; on the curve the market has a flag of its
own. -/
def InstructionParams.sellChange : Change Pubkey :=
  match params.protocolParams with
  | .pumpFun curve =>
    { put := ∅
      take := params.coinIf D (params.inputMint, curve.tokenProgram)
        ((curve.closeTokenAccountWhenSell.getD false || params.closeInputMintAta) &&
          isTokenProgram curve.tokenProgram) }
  | .pumpSwap pool =>
    { put := wsolIf D params.payer.pubkey params.createOutputMintAta
      take := wsolIf D params.payer.pubkey params.closeOutputMintAta ∪
        params.coinIf D pool.coin (params.closeInputMintAta && isTokenProgram pool.coin.2) }

end Trades

/-- Instructions that are built make this change of the open accounts. -/
def BuiltSettles (change : Change Pubkey) : Except Error (List Instruction) → Prop
  | .error _ => True
  | .ok is => ∀ accounts, openAfter is accounts = change.apply accounts

variable {D : Derivations} {checks : Bool} {solStrToLamports : String → Option UInt64}
  {params : InstructionParams}

/-! ## PumpFun -/

namespace PumpFun

/-- **A buy on the curve** opens the account of the coin, where its flag says so. -/
theorem settles_buy : (buildBuyInstructions D checks solStrToLamports params).Returns (Coherent D)
    (BuiltSettles (params.buyChange D)) := by
  unfold buildBuyInstructions
  split
  · exact Prog.returns_ret trivial
  rename_i curve hparams
  refine Prog.returns_ite (fun _ => Prog.returns_ret trivial) fun _ => ?_
  refine (gives_getCreator _).returns.bind fun creator _ => ?_
  refine (Prog.returns_lift _).bind fun tokenAmount _ => ?_
  refine (Prog.returns_lift _).bind fun maxSolCost _ => ?_
  refine (bondingCurveAddr_returns _ _).bind fun bondingCurveAddr _ => ?_
  refine (associatedBondingCurve_returns _ _ _).bind fun associatedBondingCurve _ => ?_
  refine (userAccount_returns _ _ _ _).bind fun userTokenAccount _ => ?_
  refine (gives_getCachedPda (.pumpFunUserVolume _)).returns.bind fun pda _ => ?_
  refine (Prog.returns_lift _).bind fun userVolumeAccumulator _ => ?_
  have hcreate : (onlyIf params.createOutputMintAta (createAssociatedTokenAccountIdempotentFastUseSeed D
      params.payer.pubkey params.payer.pubkey params.outputMint curve.tokenProgram
      params.openSeedOptimize)).Returns (Coherent D) fun is => ∀ s, openAfter is s =
        s ∪ params.coinIf D (params.outputMint, curve.tokenProgram) params.createOutputMintAta := opens_create _
  refine hcreate.bind fun created hcreated => ?_
  refine (Prog.returns_lift _).bind fun data hdata => ?_
  refine (gives_getCachedPda (.pumpFunBondingCurveV2 _)).returns.bind fun pda _ => ?_
  refine (Prog.returns_lift _).bind fun bondingCurveV2 _ => ?_
  obtain ⟨discriminator, first, second, maxDebit, minCredit, rfl, hlength, heffect, -⟩ := buyData_effect hdata
  have hswap := (swap?_pumpFun hlength (read_buyAccounts curve params.outputMint bondingCurveAddr
    associatedBondingCurve userTokenAccount params.payer.pubkey userVolumeAccumulator bondingCurveV2 _)).trans
    (heffect _)
  refine Prog.returns_ret fun s => ?_
  rw [openAfter_append, hcreated, openAfter_swap hswap]
  simp [InstructionParams.buyChange, hparams, Change.apply]

/-- **A sale on the curve** closes the account of the coin, where a flag says so. -/
theorem settles_sell : (buildSellInstructions D checks params).Returns (Coherent D)
    (BuiltSettles (params.sellChange D)) := by
  unfold buildSellInstructions
  split
  · exact Prog.returns_ret trivial
  · exact Prog.returns_ret trivial
  rename_i curve tokenAmount hparams hamount
  refine Prog.returns_ite (fun _ => Prog.returns_ret trivial) fun _ => ?_
  refine (gives_getCreator _).returns.bind fun creator _ => ?_
  refine (Prog.returns_lift _).bind fun solAmount _ => ?_
  refine (Prog.returns_lift _).bind fun minSolOutput _ => ?_
  refine (bondingCurveAddr_returns _ _).bind fun bondingCurveAddr _ => ?_
  refine (associatedBondingCurve_returns _ _ _).bind fun associatedBondingCurve _ => ?_
  refine (userAccount_returns _ _ _ _).bind fun userTokenAccount hauser => ?_
  refine Prog.Returns.bind (P := fun _ => True) ?_ fun cashback _ => ?_
  · refine onlyIf_returns (fun _ => ?_) fun _ => trivial
    refine (gives_getCachedPda (.pumpFunUserVolume _)).returns.bind fun pda _ => ?_
    exact (Prog.returns_lift _).bind fun _ _ => Prog.returns_ret trivial
  refine (gives_getCachedPda (.pumpFunBondingCurveV2 _)).returns.bind fun pda _ => ?_
  refine (Prog.returns_lift _).bind fun bondingCurveV2 _ => ?_
  have hlength : sellDiscriminator.length = 8 := rfl
  have hswap : Instruction.swap? ⟨pumpfun, _, swapData sellDiscriminator tokenAmount minSolOutput⟩ = _ :=
    (swap?_pumpFun hlength (read_sellAccounts curve params.inputMint bondingCurveAddr associatedBondingCurve
      userTokenAccount params.payer.pubkey cashback bondingCurveV2 _)).trans
      (SwapAccounts.effect?_sell _ (by decide) _ _)
  have haddress : ataAddress D params.payer.pubkey (params.inputMint, curve.tokenProgram).1
      (params.inputMint, curve.tokenProgram).2 params.openSeedOptimize = .ret userTokenAccount := hauser
  have hcloses : ∀ flag s, openAfter (closeIf flag curve.tokenProgram userTokenAccount params.payer.pubkey) s =
      s \ params.coinIf D (params.inputMint, curve.tokenProgram) (flag && isTokenProgram curve.tokenProgram) :=
    closes_closeIf haddress
  refine Prog.returns_ret fun s => ?_
  rw [openAfter_append, openAfter_swap hswap, hcloses]
  simp [InstructionParams.sellChange, hparams, Change.apply]

end PumpFun

/-! ## PumpSwap -/

namespace PumpSwap

/-- **A buy in the pool** opens the account of wrapped SOL and the one of the coin, and closes the former
in the end, as its flags say. -/
theorem settles_buy : (buildBuyInstructions D checks params).Returns (Coherent D)
    (BuiltSettles (params.buyChange D)) := by
  unfold buildBuyInstructions
  split
  · exact Prog.returns_ret trivial
  rename_i pool hparams
  refine Prog.returns_ite (fun _ => Prog.returns_ret trivial) fun _ => ?_
  refine Prog.returns_ite (fun _ => Prog.returns_ret trivial) fun _ => ?_
  refine (Prog.returns_lift _).bind fun amounts _ => ?_
  refine (userAccount_returns _ _ _ _).bind fun userBase _ => ?_
  refine (userAccount_returns _ _ _ _).bind fun userQuote _ => ?_
  refine (userAccount_returns _ _ _ _).bind fun feeRecipientAta _ => ?_
  refine (opens_handleWsol _ _).bind fun wrapped hwrapped => ?_
  refine (opens_create _).bind fun created hcreated => ?_
  refine (onlyIf_returns (fun _ => volumeAccounts_returns _) fun _ => trivial).bind fun volume _ => ?_
  refine (onlyIf_returns (fun _ => buyCashback_returns _) fun _ => trivial).bind fun cashback _ => ?_
  refine (Prog.returns_lift _).bind fun pda _ => ?_
  refine (Prog.returns_lift _).bind fun poolV2 _ => ?_
  refine (Prog.returns_lift _).bind fun data hdata => ?_
  refine (closes_closeWsol _).bind fun closed hclosed => ?_
  obtain ⟨discriminator, first, second, maxDebit, minCredit, rfl, hlength, -, hreads⟩ := buyData_effect hdata
  have hswap := (swap?_pumpSwap hlength (read_accounts pool params.payer.pubkey userBase userQuote feeRecipientAta
    volume cashback poolV2 _)).trans (hreads userBase userQuote)
  refine Prog.returns_ret fun s => ?_
  rw [openAfter_append, openAfter_append, openAfter_append, hwrapped, hcreated, openAfter_swap hswap, hclosed]
  simp [InstructionParams.buyChange, hparams, Change.apply, InstructionParams.coinIf, Set.union_assoc]

/-- **A sale in the pool** opens the account of wrapped SOL, and closes it and the one of the coin in the
end, as its flags say. -/
theorem settles_sell : (buildSellInstructions D checks params).Returns (Coherent D)
    (BuiltSettles (params.sellChange D)) := by
  unfold buildSellInstructions
  split
  · exact Prog.returns_ret trivial
  rename_i pool hparams
  refine Prog.returns_ite (fun _ => Prog.returns_ret trivial) fun _ => ?_
  split
  · exact Prog.returns_ret trivial
  refine (Prog.returns_lift _).bind fun amounts _ => ?_
  refine (userAccount_returns _ _ _ _).bind fun feeRecipientAta _ => ?_
  refine (userAccount_returns _ _ _ _).bind fun userBase hbase => ?_
  refine (userAccount_returns _ _ _ _).bind fun userQuote hquote => ?_
  refine (opens_createWsolAta _).bind fun created hcreated => ?_
  refine (onlyIf_returns (fun _ => volumeAccounts_returns _) fun _ => trivial).bind fun volume _ => ?_
  refine (onlyIf_returns (fun _ => sellCashback_returns _) fun _ => trivial).bind fun cashback _ => ?_
  refine (Prog.returns_lift _).bind fun pda _ => ?_
  refine (Prog.returns_lift _).bind fun poolV2 _ => ?_
  refine (closes_closeWsol _).bind fun closed hclosed => ?_
  obtain ⟨discriminator, first, second, hdata, hlength, hreads⟩ := sellData_effect pool amounts
  rw [hdata]
  have hswap := (swap?_pumpSwap hlength (read_accounts pool params.payer.pubkey userBase userQuote feeRecipientAta
    volume cashback poolV2 _)).trans (hreads userBase userQuote)
  have hcloses : ∀ flag s, openAfter (closeIf flag pool.coin.2 (pool.coinAccount userBase userQuote)
      params.payer.pubkey) s = s \ params.coinIf D pool.coin (flag && isTokenProgram pool.coin.2) :=
    closes_closeIf (coinAccount_address hbase hquote)
  refine Prog.returns_ret fun s => ?_
  rw [openAfter_append, openAfter_append, openAfter_append, hcreated, openAfter_swap hswap, hclosed, hcloses]
  simp [InstructionParams.sellChange, hparams, Change.apply, sdiff_sdiff_left]

end PumpSwap

end PumpTrade
