import PumpTrade.Instr.PumpFun
import PumpTrade.Instr.PumpSwap

/-!
# Who signs an instruction

The accounts that instructions ask a signature of. Whatever is built for a trade asks for the one of
the payer only, so that one signature is enough for its transaction.

* `Instruction.signers`, `SignedBy`: the signers of an instruction, and instructions that ask for no
  one else;
* `signedBy_create`, `signedBy_handleWsol`, `signedBy_closeIf`: the parts of a trade;
* **`PumpFun.signedBy_buy`**, **`PumpSwap.signedBy_buy`** and those of the sales: the builders.
-/

namespace PumpTrade

open Base

/-- The accounts whose signature an instruction asks for. -/
def Instruction.signers (instruction : Instruction) : List Pubkey :=
  (instruction.accounts.filter AccountMeta.isSigner).map AccountMeta.pubkey

/-- The instructions ask for no signature but this one. -/
def SignedBy (payer : Pubkey) (instructions : List Instruction) : Prop :=
  ∀ instruction ∈ instructions, ∀ signer ∈ instruction.signers, signer = payer

/-- Accounts that do not sign. -/
def Unsigned (accounts : List AccountMeta) : Prop := ∀ account ∈ accounts, account.isSigner = false

section Lists

variable {payer : Pubkey} {accounts accounts' : List AccountMeta} {instructions instructions' : List Instruction}

@[simp] theorem signedBy_nil : SignedBy payer [] := by simp [SignedBy]

@[simp] theorem unsigned_nil : Unsigned [] := by simp [Unsigned]

@[simp] theorem signedBy_append :
    SignedBy payer (instructions ++ instructions') ↔ SignedBy payer instructions ∧ SignedBy payer instructions' :=
  List.forall_mem_append

theorem signedBy_cons {instruction : Instruction} :
    SignedBy payer (instruction :: instructions) ↔
      (∀ signer ∈ instruction.signers, signer = payer) ∧ SignedBy payer instructions :=
  List.forall_mem_cons

@[simp] theorem signedBy_singleton {instruction : Instruction} :
    SignedBy payer [instruction] ↔ ∀ signer ∈ instruction.signers, signer = payer := by
  simp [SignedBy]

theorem unsigned_cons {account : AccountMeta} (h : account.isSigner = false) (hrest : Unsigned accounts) :
    Unsigned (account :: accounts) :=
  List.forall_mem_cons.mpr ⟨h, hrest⟩

theorem Unsigned.append (h : Unsigned accounts) (h' : Unsigned accounts') : Unsigned (accounts ++ accounts') :=
  List.forall_mem_append.mpr ⟨h, h'⟩

theorem signers_of_accounts {programId : Pubkey} {data : List UInt8}
    (h : ∀ account ∈ accounts, account.isSigner = true → account.pubkey = payer) :
    ∀ signer ∈ Instruction.signers ⟨programId, accounts, data⟩, signer = payer := by
  intro signer hsigner
  obtain ⟨account, haccount, rfl⟩ := List.mem_map.mp hsigner
  obtain ⟨hmem, hsigns⟩ := List.mem_filter.mp haccount
  exact h account hmem hsigns

theorem Unsigned.signs (h : Unsigned accounts) :
    ∀ account ∈ accounts, account.isSigner = true → account.pubkey = payer := by
  intro account hmem hsigns
  rw [h account hmem] at hsigns
  cases hsigns

end Lists

/-! ## The instructions -/

section Instructions

variable (payer account mint program destination : Pubkey) (lamports space : UInt64)

theorem signers_createAssociated (owner : Pubkey) :
    (createAssociatedTokenAccount payer account owner mint program).signers = [payer] := rfl

theorem signers_createWithSeed (seed : List UInt8) :
    (createAccountWithSeed payer account payer seed lamports space program).signers = [payer, payer] := rfl

theorem signers_initializeAccount3 (owner : Pubkey) :
    (initializeAccount3 program account mint owner).signers = [] := rfl

theorem signers_transfer : (transfer payer account lamports).signers = [payer] := rfl

theorem signers_syncNative : (syncNative account).signers = [] := rfl

theorem signers_advanceNonce : (advanceNonceAccount account payer).signers = [payer] := rfl

theorem pubkeys_signers (signers : List Pubkey) :
    ((signers.map fun signer => AccountMeta.newReadonly signer true).filter AccountMeta.isSigner).map
      AccountMeta.pubkey = signers := by
  induction signers with
  | nil => rfl
  | cons signer signers ih => exact congrArg (signer :: ·) ih

/-- Closing an account asks for the owner where no signers are named, and for them where they are. -/
theorem signers_closeAccount (owner : Pubkey) (signers : List Pubkey) :
    (closeAccount program account destination owner signers).signers =
      if signers = [] then [owner] else signers := by
  cases signers with
  | nil => rfl
  | cons signer signers => exact pubkeys_signers (signer :: signers)

theorem signedBy_closeIf (flag : Bool) : SignedBy payer (closeIf flag program account payer) := by
  unfold closeIf
  split_ifs
  · rw [signedBy_singleton, signers_closeAccount]
    simp
  · exact signedBy_nil

theorem signedBy_closeWsol : SignedBy payer (closeWsolInstructions payer account) := by
  rw [closeWsolInstructions, signedBy_singleton, signers_closeAccount]
  simp

theorem signedBy_computeBudget (unitPrice : UInt64) (unitLimit : UInt32) :
    SignedBy payer (computeBudgetInstructions unitPrice unitLimit) := by
  have hprice : (setComputeUnitPrice unitPrice).signers = [] := rfl
  have hlimit : (setComputeUnitLimit unitLimit).signers = [] := rfl
  unfold computeBudgetInstructions
  split_ifs <;> simp [signedBy_cons, hprice, hlimit]

end Instructions

/-! ## The parts of a trade -/

section Parts

variable {D : Derivations} {payer : Pubkey}

/-- **Creating an account** asks for the one who pays and owns it. -/
theorem signedBy_createInstructions {rent : UInt64} {mint program : Pubkey} {useSeed : Bool}
    {instructions : List Instruction}
    (h : createInstructions D rent payer payer mint program useSeed = .ret instructions) :
    SignedBy payer instructions := by
  unfold createInstructions at h
  split_ifs at h
  · unfold createUseSeed at h
    split_ifs at h
    · cases h
    · cases haddress : D.createWithSeed payer (mintSeed D mint) program with
      | error e =>
        rw [haddress] at h
        cases h
      | ok account =>
        rw [haddress] at h
        obtain rfl := Outcome.ret.inj h
        rw [seedInstructions, signedBy_cons, signers_createWithSeed, signedBy_singleton,
          signers_initializeAccount3]
        simp
  · obtain ⟨account, -, hmade⟩ := Outcome.bind_eq_ret.mp h
    obtain rfl := Outcome.ret.inj hmade
    simp [signers_createAssociated]

theorem signedBy_create (flag : Bool) (mint program : Pubkey) (useSeed : Bool) :
    (onlyIf flag (createAssociatedTokenAccountIdempotentFastUseSeed D payer payer mint program useSeed)).Returns
      (Coherent D) (SignedBy payer) := by
  refine onlyIf_returns (fun _ => ?_) fun _ => signedBy_nil
  refine Prog.Keeps.mono (keeps_create payer payer mint program useSeed) ?_
  rintro o ⟨rent, rfl⟩ instructions hmade
  exact signedBy_createInstructions hmade

theorem signedBy_handleWsol (flag : Bool) (amountIn : UInt64) :
    (onlyIf flag (handleWsol D payer amountIn)).Returns (Coherent D) (SignedBy payer) := by
  refine onlyIf_returns (fun _ => ?_) fun _ => signedBy_nil
  refine (handleWsol_returns payer amountIn).mono ?_
  rintro instructions ⟨account, -, rfl⟩
  simp [signedBy_cons, signers_createAssociated, signers_transfer, signers_syncNative]

theorem signedBy_createWsolAta (flag : Bool) :
    (onlyIf flag (createWsolAta D payer)).Returns (Coherent D) (SignedBy payer) := by
  refine onlyIf_returns (fun _ => ?_) fun _ => signedBy_nil
  refine (createWsolAta_returns payer).mono ?_
  rintro instructions ⟨account, -, rfl⟩
  simp [signers_createAssociated]

theorem signedBy_closedWsol (flag : Bool) :
    (onlyIf flag (closeWsol D payer)).Returns (Coherent D) (SignedBy payer) := by
  refine onlyIf_returns (fun _ => ?_) fun _ => signedBy_nil
  refine (closeWsol_returns payer).mono ?_
  rintro instructions ⟨account, -, rfl⟩
  exact signedBy_closeWsol payer account

end Parts

/-- What is built asks for no signature but this one. -/
def BuiltFor (payer : Pubkey) : Except Error (List Instruction) → Prop
  | .error _ => True
  | .ok instructions => SignedBy payer instructions

variable {D : Derivations} {checks : Bool} {solStrToLamports : String → Option UInt64}

/-! ## PumpFun -/

namespace PumpFun

theorem signs_firstAccounts (curve : PumpFunParams) (mint bondingCurveAddr associatedBondingCurve userTokenAccount
    payer : Pubkey) : ∀ account ∈ firstAccounts curve mint bondingCurveAddr associatedBondingCurve
      userTokenAccount payer, account.isSigner = true → account.pubkey = payer := by
  unfold firstAccounts
  split_ifs <;> simp [globalAccountMeta, mayhemFeeRecipientMeta, feeRecipientMeta, systemProgramMeta,
    AccountMeta.new, AccountMeta.newReadonly]

theorem unsigned_tokenProgramMetaOf (program : Pubkey) : (tokenProgramMetaOf program).isSigner = false := by
  unfold tokenProgramMetaOf
  split_ifs <;> rfl

theorem signs_buyAccounts (curve : PumpFunParams) (mint bondingCurveAddr associatedBondingCurve userTokenAccount
    payer userVolumeAccumulator bondingCurveV2 : Pubkey) :
    ∀ account ∈ buyAccounts curve mint bondingCurveAddr associatedBondingCurve userTokenAccount payer
      userVolumeAccumulator bondingCurveV2, account.isSigner = true → account.pubkey = payer := by
  refine List.forall_mem_append.mpr ⟨signs_firstAccounts _ _ _ _ _ _, ?_⟩
  refine Unsigned.signs (unsigned_cons (unsigned_tokenProgramMetaOf _) ?_)
  simp [Unsigned, eventAuthorityMeta, pumpfunMeta, globalVolumeAccumulatorMeta, feeConfigMeta, feeProgramMeta,
    AccountMeta.new, AccountMeta.newReadonly]

theorem signs_sellAccounts (curve : PumpFunParams) (mint bondingCurveAddr associatedBondingCurve userTokenAccount
    payer : Pubkey) {cashback : List AccountMeta} (hcashback : Unsigned cashback) (bondingCurveV2 : Pubkey) :
    ∀ account ∈ sellAccounts curve mint bondingCurveAddr associatedBondingCurve userTokenAccount payer cashback
      bondingCurveV2, account.isSigner = true → account.pubkey = payer := by
  have hmiddle : Unsigned [.new curve.creatorVault false, tokenProgramMetaOf curve.tokenProgram,
      eventAuthorityMeta, pumpfunMeta, feeConfigMeta, feeProgramMeta] := by
    refine unsigned_cons rfl (unsigned_cons (unsigned_tokenProgramMetaOf _) ?_)
    simp [Unsigned, eventAuthorityMeta, pumpfunMeta, feeConfigMeta, feeProgramMeta, AccountMeta.newReadonly]
  have hlast : Unsigned [AccountMeta.newReadonly bondingCurveV2 false] := unsigned_cons rfl unsigned_nil
  refine List.forall_mem_append.mpr ⟨List.forall_mem_append.mpr ⟨List.forall_mem_append.mpr
    ⟨signs_firstAccounts _ _ _ _ _ _, hmiddle.signs⟩, hcashback.signs⟩, hlast.signs⟩

/-- **The instructions of a buy ask for the payer's signature only.** -/
theorem signedBy_buy (params : InstructionParams) :
    (buildBuyInstructions D checks solStrToLamports params).Returns (Coherent D)
      (BuiltFor params.payer.pubkey) := by
  unfold buildBuyInstructions
  split
  · exact Prog.returns_ret trivial
  refine Prog.returns_ite (fun _ => Prog.returns_ret trivial) fun _ => ?_
  refine (gives_getCreator _).returns.bind fun creator _ => ?_
  refine (Prog.returns_lift _).bind fun tokenAmount _ => ?_
  refine (Prog.returns_lift _).bind fun maxSolCost _ => ?_
  refine (bondingCurveAddr_returns _ _).bind fun bondingCurveAddr _ => ?_
  refine (associatedBondingCurve_returns _ _ _).bind fun associatedBondingCurve _ => ?_
  refine (userAccount_returns _ _ _ _).bind fun userTokenAccount _ => ?_
  refine (gives_getCachedPda (.pumpFunUserVolume _)).returns.bind fun pda _ => ?_
  refine (Prog.returns_lift _).bind fun userVolumeAccumulator _ => ?_
  refine (signedBy_create _ _ _ _).bind fun created hcreated => ?_
  refine (Prog.returns_lift _).bind fun data _ => ?_
  refine (gives_getCachedPda (.pumpFunBondingCurveV2 _)).returns.bind fun pda _ => ?_
  refine (Prog.returns_lift _).bind fun bondingCurveV2 _ => ?_
  refine Prog.returns_ret (signedBy_append.mpr ⟨hcreated, signedBy_singleton.mpr ?_⟩)
  exact signers_of_accounts (signs_buyAccounts _ _ _ _ _ _ _ _)

/-- **The instructions of a sale ask for the payer's signature only.** -/
theorem signedBy_sell (params : InstructionParams) :
    (buildSellInstructions D checks params).Returns (Coherent D) (BuiltFor params.payer.pubkey) := by
  unfold buildSellInstructions
  split
  · exact Prog.returns_ret trivial
  · exact Prog.returns_ret trivial
  refine Prog.returns_ite (fun _ => Prog.returns_ret trivial) fun _ => ?_
  refine (gives_getCreator _).returns.bind fun creator _ => ?_
  refine (Prog.returns_lift _).bind fun solAmount _ => ?_
  refine (Prog.returns_lift _).bind fun minSolOutput _ => ?_
  refine (bondingCurveAddr_returns _ _).bind fun bondingCurveAddr _ => ?_
  refine (associatedBondingCurve_returns _ _ _).bind fun associatedBondingCurve _ => ?_
  refine (userAccount_returns _ _ _ _).bind fun userTokenAccount _ => ?_
  refine Prog.Returns.bind (P := Unsigned) ?_ fun cashback hcashback => ?_
  · refine onlyIf_returns (fun _ => ?_) fun _ => unsigned_nil
    refine (gives_getCachedPda (.pumpFunUserVolume _)).returns.bind fun pda _ => ?_
    exact (Prog.returns_lift _).bind fun _ _ => Prog.returns_ret (unsigned_cons rfl unsigned_nil)
  refine (gives_getCachedPda (.pumpFunBondingCurveV2 _)).returns.bind fun pda _ => ?_
  refine (Prog.returns_lift _).bind fun bondingCurveV2 _ => ?_
  refine Prog.returns_ret (signedBy_append.mpr ⟨signedBy_singleton.mpr ?_, signedBy_closeIf _ _ _ _⟩)
  exact signers_of_accounts (signs_sellAccounts _ _ _ _ _ _ hcashback _)

end PumpFun

/-! ## PumpSwap -/

namespace PumpSwap

theorem unsigned_volumeAccounts (payer : Pubkey) : (volumeAccounts D payer).Returns (Coherent D) Unsigned := by
  refine (userVolumeAccumulator_returns payer).bind fun pda _ => ?_
  exact (Prog.returns_lift _).bind fun _ _ => Prog.returns_ret (unsigned_cons rfl (unsigned_cons rfl unsigned_nil))

theorem unsigned_buyCashback (payer : Pubkey) : (buyCashback D payer).Returns (Coherent D) Unsigned := by
  refine (wsolAta_returns payer).bind fun wsolAta _ => ?_
  cases wsolAta with
  | none => exact Prog.returns_ret unsigned_nil
  | some wsolAta => exact Prog.returns_ret (unsigned_cons rfl unsigned_nil)

theorem unsigned_sellCashback (payer : Pubkey) : (sellCashback D payer).Returns (Coherent D) Unsigned := by
  refine (wsolAta_returns payer).bind fun wsolAta _ => ?_
  refine (userVolumeAccumulator_returns payer).bind fun accumulator _ => ?_
  cases wsolAta with
  | none => exact Prog.returns_ret unsigned_nil
  | some wsolAta =>
    cases accumulator with
    | none => exact Prog.returns_ret unsigned_nil
    | some accumulator => exact Prog.returns_ret (unsigned_cons rfl (unsigned_cons rfl unsigned_nil))

theorem signedBy_trade (pool : PumpSwapParams) {payer userBase userQuote feeRecipientAta poolV2 : Pubkey}
    {volume cashback : List AccountMeta} (hvolume : Unsigned volume) (hcashback : Unsigned cashback)
    (data : List UInt8) :
    SignedBy payer [⟨ammProgram, accounts pool payer userBase userQuote feeRecipientAta volume cashback poolV2,
      data⟩] := by
  refine signedBy_singleton.mpr (signers_of_accounts ?_)
  have hfees : Unsigned [feeConfigMeta, feeProgramMeta] := unsigned_cons rfl (unsigned_cons rfl unsigned_nil)
  have hlast : Unsigned [AccountMeta.newReadonly poolV2 false] := unsigned_cons rfl unsigned_nil
  refine List.forall_mem_append.mpr ⟨List.forall_mem_append.mpr ⟨List.forall_mem_append.mpr
    ⟨List.forall_mem_append.mpr ⟨?_, hvolume.signs⟩, hfees.signs⟩, hcashback.signs⟩, hlast.signs⟩
  split_ifs <;> simp [globalAccountMeta, mayhemFeeRecipientMeta, feeRecipientMeta, systemProgramMeta,
    associatedTokenProgramMeta, eventAuthorityMeta, ammProgramMeta, AccountMeta.new, AccountMeta.newReadonly]

/-- **The instructions of a buy ask for the payer's signature only.** -/
theorem signedBy_buy (params : InstructionParams) :
    (buildBuyInstructions D checks params).Returns (Coherent D) (BuiltFor params.payer.pubkey) := by
  unfold buildBuyInstructions
  split
  · exact Prog.returns_ret trivial
  refine Prog.returns_ite (fun _ => Prog.returns_ret trivial) fun _ => ?_
  refine Prog.returns_ite (fun _ => Prog.returns_ret trivial) fun _ => ?_
  refine (Prog.returns_lift _).bind fun amounts _ => ?_
  refine (userAccount_returns _ _ _ _).bind fun userBase _ => ?_
  refine (userAccount_returns _ _ _ _).bind fun userQuote _ => ?_
  refine (userAccount_returns _ _ _ _).bind fun feeRecipientAta _ => ?_
  refine (signedBy_handleWsol _ _).bind fun wrapped hwrapped => ?_
  refine (signedBy_create _ _ _ _).bind fun created hcreated => ?_
  refine (onlyIf_returns (fun _ => unsigned_volumeAccounts _) fun _ => unsigned_nil).bind
    fun volume hvolume => ?_
  refine (onlyIf_returns (fun _ => unsigned_buyCashback _) fun _ => unsigned_nil).bind
    fun cashback hcashback => ?_
  refine (Prog.returns_lift _).bind fun pda _ => ?_
  refine (Prog.returns_lift _).bind fun poolV2 _ => ?_
  refine (Prog.returns_lift _).bind fun data _ => ?_
  refine (signedBy_closedWsol _).bind fun closed hclosed => ?_
  exact Prog.returns_ret (signedBy_append.mpr ⟨hwrapped, signedBy_append.mpr ⟨hcreated,
    signedBy_append.mpr ⟨signedBy_trade _ hvolume hcashback _, hclosed⟩⟩⟩)

/-- **The instructions of a sale ask for the payer's signature only.** -/
theorem signedBy_sell (params : InstructionParams) :
    (buildSellInstructions D checks params).Returns (Coherent D) (BuiltFor params.payer.pubkey) := by
  unfold buildSellInstructions
  split
  · exact Prog.returns_ret trivial
  refine Prog.returns_ite (fun _ => Prog.returns_ret trivial) fun _ => ?_
  split
  · exact Prog.returns_ret trivial
  refine (Prog.returns_lift _).bind fun amounts _ => ?_
  refine (userAccount_returns _ _ _ _).bind fun feeRecipientAta _ => ?_
  refine (userAccount_returns _ _ _ _).bind fun userBase _ => ?_
  refine (userAccount_returns _ _ _ _).bind fun userQuote _ => ?_
  refine (signedBy_createWsolAta _).bind fun created hcreated => ?_
  refine (onlyIf_returns (fun _ => unsigned_volumeAccounts _) fun _ => unsigned_nil).bind
    fun volume hvolume => ?_
  refine (onlyIf_returns (fun _ => unsigned_sellCashback _) fun _ => unsigned_nil).bind
    fun cashback hcashback => ?_
  refine (Prog.returns_lift _).bind fun pda _ => ?_
  refine (Prog.returns_lift _).bind fun poolV2 _ => ?_
  refine (signedBy_closedWsol _).bind fun closed hclosed => ?_
  exact Prog.returns_ret (signedBy_append.mpr ⟨hcreated, signedBy_append.mpr
    ⟨signedBy_trade _ hvolume hcashback _, signedBy_append.mpr ⟨hclosed, signedBy_closeIf _ _ _ _⟩⟩⟩)

end PumpSwap

end PumpTrade
