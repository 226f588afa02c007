import PumpTrade.Instr.OpenAccounts

/-!
# The lamports that a trade moves

Where the instructions of a trade transfer lamports to. A buy in the pool may wrap SOL, into the
payer's own account; a buy on the curve and the sales transfer nothing.

* `MovesTo`: at most one transfer, to one of some accounts;
* `InstructionParams.buyMoves`: where a buy may transfer lamports to, by its flags;
* **`PumpFun.moves_buy`**, **`PumpSwap.moves_buy`** and those of the sales: the builders.
-/

namespace PumpTrade

open Base

/-- At most one transfer, to one of these accounts. -/
def MovesTo (own : Set Pubkey) (moved : List (Pubkey × ℕ)) : Prop :=
  moved = [] ∨ ∃ account ∈ own, ∃ lamports, moved = [(account, lamports)]

theorem movesTo_nil (own : Set Pubkey) : MovesTo own [] := Or.inl rfl

theorem movesTo_empty {moved : List (Pubkey × ℕ)} : MovesTo ∅ moved ↔ moved = [] := by
  simp [MovesTo]

/-- Instructions that are built transfer lamports to these accounts only. -/
def BuiltMoves (own : Set Pubkey) : Except Error (List Instruction) → Prop
  | .error _ => True
  | .ok instructions => MovesTo own (transfers instructions)

/-- Where a buy may transfer lamports to. -/
def InstructionParams.buyMoves (D : Derivations) (params : InstructionParams) : Set Pubkey :=
  match params.protocolParams with
  | .pumpFun _ => ∅
  | .pumpSwap _ => wsolIf D params.payer.pubkey params.createInputMintAta

/-! ## The parts of a trade -/

section Parts

variable {D : Derivations} {payer : Pubkey}

theorem transfers_swap {swap : Instruction} {effect : SwapEffect} (h : swap.swap? = some effect) :
    transfers [swap] = [] :=
  (swap_quiet h default).1

theorem moves_create (flag : Bool) (mint program : Pubkey) (useSeed : Bool) :
    (onlyIf flag (createAssociatedTokenAccountIdempotentFastUseSeed D payer payer mint program useSeed)).Returns
      (Coherent D) fun is => transfers is = [] := by
  refine onlyIf_returns (fun _ => ?_) fun _ => transfers_nil
  refine Prog.Keeps.mono (keeps_create payer payer mint program useSeed) ?_
  rintro o ⟨rent, rfl⟩ is hmade
  obtain ⟨account, created, -, hprepares, -⟩ := prepares_createInstructions hmade
  exact hprepares.transfers

theorem moves_handleWsol (flag : Bool) (amountIn : UInt64) :
    (onlyIf flag (handleWsol D payer amountIn)).Returns (Coherent D)
      fun is => MovesTo (wsolIf D payer flag) (transfers is) := by
  refine onlyIf_returns (fun hflag => ?_) fun _ => movesTo_nil _
  refine (handleWsol_returns payer amountIn).mono ?_
  rintro is ⟨account, haccount, rfl⟩
  rw [(prepares_handleWsol payer account amountIn).transfers, hflag, wsolIf, accountIf_true haccount]
  exact Or.inr ⟨account, rfl, _, rfl⟩

theorem moves_createWsolAta (flag : Bool) :
    (onlyIf flag (createWsolAta D payer)).Returns (Coherent D) fun is => transfers is = [] := by
  refine onlyIf_returns (fun _ => ?_) fun _ => transfers_nil
  refine (createWsolAta_returns payer).mono ?_
  rintro is ⟨account, -, rfl⟩
  exact (prepares_createAssociated payer account payer wsolTokenAccount tokenProgram).transfers

theorem moves_closeWsol (flag : Bool) :
    (onlyIf flag (closeWsol D payer)).Returns (Coherent D) fun is => transfers is = [] := by
  refine onlyIf_returns (fun _ => ?_) fun _ => transfers_nil
  refine (closeWsol_returns payer).mono ?_
  rintro is ⟨account, -, rfl⟩
  exact (closeAccount_quiet _ _ _ _ _).2.1

theorem moves_closeIf (flag : Bool) (program account : Pubkey) :
    transfers (closeIf flag program account payer) = [] := by
  unfold closeIf
  split_ifs
  · exact (closeAccount_quiet _ _ _ _ _).2.1
  · rfl

end Parts

variable {D : Derivations} {checks : Bool} {solStrToLamports : String → Option UInt64}
  {params : InstructionParams}

/-! ## PumpFun -/

namespace PumpFun

/-- **A buy on the curve** transfers nothing itself. -/
theorem moves_buy : (buildBuyInstructions D checks solStrToLamports params).Returns (Coherent D)
    (BuiltMoves (params.buyMoves D)) := by
  unfold buildBuyInstructions
  split
  · exact Prog.returns_ret trivial
  rename_i curve hparams
  refine Prog.returns_ite (fun _ => Prog.returns_ret trivial) fun _ => ?_
  refine (gives_getCreator _).returns.bind fun creator _ => ?_
  refine (Prog.returns_lift _).bind fun tokenAmount _ => ?_
  refine (Prog.returns_lift _).bind fun maxSolCost _ => ?_
  refine (bondingCurveAddr_returns _ _).bind fun bondingCurveAddr _ => ?_
  refine (associatedBondingCurve_returns _ _ _).bind fun associatedBondingCurve _ => ?_
  refine (userAccount_returns _ _ _ _).bind fun userTokenAccount _ => ?_
  refine (gives_getCachedPda (.pumpFunUserVolume _)).returns.bind fun pda _ => ?_
  refine (Prog.returns_lift _).bind fun userVolumeAccumulator _ => ?_
  refine (moves_create _ _ _ _).bind fun created hcreated => ?_
  refine (Prog.returns_lift _).bind fun data hdata => ?_
  refine (gives_getCachedPda (.pumpFunBondingCurveV2 _)).returns.bind fun pda _ => ?_
  refine (Prog.returns_lift _).bind fun bondingCurveV2 _ => ?_
  obtain ⟨discriminator, first, second, maxDebit, minCredit, rfl, hlength, heffect, -⟩ := buyData_effect hdata
  have hswap := (swap?_pumpFun hlength (read_buyAccounts curve params.outputMint bondingCurveAddr
    associatedBondingCurve userTokenAccount params.payer.pubkey userVolumeAccumulator bondingCurveV2 _)).trans
    (heffect _)
  refine Prog.returns_ret (Or.inl ?_)
  rw [transfers_append, hcreated, transfers_swap hswap, List.append_nil]

/-- **A sale on the curve** transfers nothing itself. -/
theorem moves_sell : (buildSellInstructions D checks params).Returns (Coherent D) (BuiltMoves ∅) := by
  unfold buildSellInstructions
  split
  · exact Prog.returns_ret trivial
  · exact Prog.returns_ret trivial
  rename_i curve tokenAmount hparams hamount
  refine Prog.returns_ite (fun _ => Prog.returns_ret trivial) fun _ => ?_
  refine (gives_getCreator _).returns.bind fun creator _ => ?_
  refine (Prog.returns_lift _).bind fun solAmount _ => ?_
  refine (Prog.returns_lift _).bind fun minSolOutput _ => ?_
  refine (bondingCurveAddr_returns _ _).bind fun bondingCurveAddr _ => ?_
  refine (associatedBondingCurve_returns _ _ _).bind fun associatedBondingCurve _ => ?_
  refine (userAccount_returns _ _ _ _).bind fun userTokenAccount _ => ?_
  refine Prog.Returns.bind (P := fun _ => True) ?_ fun cashback _ => ?_
  · refine onlyIf_returns (fun _ => ?_) fun _ => trivial
    refine (gives_getCachedPda (.pumpFunUserVolume _)).returns.bind fun pda _ => ?_
    exact (Prog.returns_lift _).bind fun _ _ => Prog.returns_ret trivial
  refine (gives_getCachedPda (.pumpFunBondingCurveV2 _)).returns.bind fun pda _ => ?_
  refine (Prog.returns_lift _).bind fun bondingCurveV2 _ => ?_
  have hlength : sellDiscriminator.length = 8 := rfl
  have hswap : Instruction.swap? ⟨pumpfun, _, swapData sellDiscriminator tokenAmount minSolOutput⟩ = _ :=
    (swap?_pumpFun hlength (read_sellAccounts curve params.inputMint bondingCurveAddr associatedBondingCurve
      userTokenAccount params.payer.pubkey cashback bondingCurveV2 _)).trans
      (SwapAccounts.effect?_sell _ (by decide) _ _)
  refine Prog.returns_ret (Or.inl ?_)
  rw [transfers_append, transfers_swap hswap, moves_closeIf, List.append_nil]

end PumpFun

/-! ## PumpSwap -/

namespace PumpSwap

/-- **A buy in the pool** transfers lamports to the payer's own account of wrapped SOL, where a flag says
so. -/
theorem moves_buy : (buildBuyInstructions D checks params).Returns (Coherent D)
    (BuiltMoves (params.buyMoves D)) := by
  unfold buildBuyInstructions
  split
  · exact Prog.returns_ret trivial
  rename_i pool hparams
  refine Prog.returns_ite (fun _ => Prog.returns_ret trivial) fun _ => ?_
  refine Prog.returns_ite (fun _ => Prog.returns_ret trivial) fun _ => ?_
  refine (Prog.returns_lift _).bind fun amounts _ => ?_
  refine (userAccount_returns _ _ _ _).bind fun userBase _ => ?_
  refine (userAccount_returns _ _ _ _).bind fun userQuote _ => ?_
  refine (userAccount_returns _ _ _ _).bind fun feeRecipientAta _ => ?_
  refine (moves_handleWsol _ _).bind fun wrapped hwrapped => ?_
  refine (moves_create _ _ _ _).bind fun created hcreated => ?_
  refine (onlyIf_returns (fun _ => volumeAccounts_returns _) fun _ => trivial).bind fun volume _ => ?_
  refine (onlyIf_returns (fun _ => buyCashback_returns _) fun _ => trivial).bind fun cashback _ => ?_
  refine (Prog.returns_lift _).bind fun pda _ => ?_
  refine (Prog.returns_lift _).bind fun poolV2 _ => ?_
  refine (Prog.returns_lift _).bind fun data hdata => ?_
  refine (moves_closeWsol _).bind fun closed hclosed => ?_
  obtain ⟨discriminator, first, second, maxDebit, minCredit, rfl, hlength, -, hreads⟩ := buyData_effect hdata
  have hswap := (swap?_pumpSwap hlength (read_accounts pool params.payer.pubkey userBase userQuote feeRecipientAta
    volume cashback poolV2 _)).trans (hreads userBase userQuote)
  have hown : params.buyMoves D = wsolIf D params.payer.pubkey params.createInputMintAta := by
    rw [InstructionParams.buyMoves, hparams]
  refine Prog.returns_ret ?_
  show MovesTo _ (transfers _)
  rw [transfers_append, transfers_append, transfers_append, hcreated, transfers_swap hswap, hclosed, hown]
  simpa using hwrapped

/-- **A sale in the pool** transfers nothing itself. -/
theorem moves_sell : (buildSellInstructions D checks params).Returns (Coherent D) (BuiltMoves ∅) := by
  unfold buildSellInstructions
  split
  · exact Prog.returns_ret trivial
  rename_i pool hparams
  refine Prog.returns_ite (fun _ => Prog.returns_ret trivial) fun _ => ?_
  split
  · exact Prog.returns_ret trivial
  refine (Prog.returns_lift _).bind fun amounts _ => ?_
  refine (userAccount_returns _ _ _ _).bind fun feeRecipientAta _ => ?_
  refine (userAccount_returns _ _ _ _).bind fun userBase _ => ?_
  refine (userAccount_returns _ _ _ _).bind fun userQuote _ => ?_
  refine (moves_createWsolAta _).bind fun created hcreated => ?_
  refine (onlyIf_returns (fun _ => volumeAccounts_returns _) fun _ => trivial).bind fun volume _ => ?_
  refine (onlyIf_returns (fun _ => sellCashback_returns _) fun _ => trivial).bind fun cashback _ => ?_
  refine (Prog.returns_lift _).bind fun pda _ => ?_
  refine (Prog.returns_lift _).bind fun poolV2 _ => ?_
  refine (moves_closeWsol _).bind fun closed hclosed => ?_
  obtain ⟨discriminator, first, second, hdata, hlength, hreads⟩ := sellData_effect pool amounts
  rw [hdata]
  have hswap := (swap?_pumpSwap hlength (read_accounts pool params.payer.pubkey userBase userQuote feeRecipientAta
    volume cashback poolV2 _)).trans (hreads userBase userQuote)
  refine Prog.returns_ret (Or.inl ?_)
  rw [transfers_append, transfers_append, transfers_append, hcreated, transfers_swap hswap, hclosed, moves_closeIf]
  rfl

end PumpSwap

end PumpTrade
