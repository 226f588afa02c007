import PumpTrade.Account.Startup
import PumpTrade.Client.Signed

/-!
# Operations of a wallet

The operations of `TradingClient` besides trades: wrapping SOL and unwrapping it, creating and
closing the account of wrapped SOL, and claiming cashback. Each sends one transaction at most, and
waits for it.

* `signLegacy`, `Submission`: a transaction with the payer as its signer, and what an operation has
  sent and returns;
* `WalletOperation.prog`: the operations;
* `Sendable`: instructions that the payer alone signs and that fit into a message;
* **`walletOperations_report`**: operations that run side by side do not panic, and report what the
  node has said.
-/

namespace PumpTrade

open Base

/-! ## Instructions -/

/-- `spl_token::transfer`: move an amount between two token accounts. -/
def SplToken.transfer (tokenProgramId source destination owner : Pubkey) (amount : UInt64)
    (signers : List Pubkey) : Instruction where
  programId := tokenProgramId
  accounts :=
    [.new source false, .new destination false, .newReadonly owner signers.isEmpty] ++
      signers.map fun signer => .newReadonly signer true
  data := 3 :: leBytes amount.toNat 8

/-- The discriminator of a claim, the same for both programs. -/
def claimCashbackDiscriminator : List UInt8 := [37, 58, 35, 126, 190, 53, 228, 197]

variable (D : Derivations)

/-- The claim of a user's cashback on PumpFun, where the address of the volume can be derived. -/
def PumpFun.claimCashbackInstruction (payer : Pubkey) : Cached (Option Instruction) := do
  match ← getUserVolumeAccumulatorPda D payer with
  | none => return none
  | some userVolumeAccumulator =>
    return some ⟨pumpfun, [.new payer true, .new userVolumeAccumulator false, systemProgramMeta,
      eventAuthorityMeta, pumpfunMeta], claimCashbackDiscriminator⟩

/-- The claim of a user's cashback on PumpSwap, paid in wrapped SOL. -/
def PumpSwap.claimCashbackInstruction (payer quoteMint quoteTokenProgram : Pubkey) :
    Cached (Option Instruction) := do
  match ← getUserVolumeAccumulatorPda D payer with
  | none => return none
  | some userVolumeAccumulator =>
    match ← getUserVolumeAccumulatorWsolAta D payer with
    | none => return none
    | some userVolumeAccumulatorWsolAta =>
      let userWsolAta ← getAssociatedTokenAddressWithProgramIdFast D payer quoteMint quoteTokenProgram
      return some ⟨ammProgram, [.new payer true, .new userVolumeAccumulator false, .newReadonly quoteMint false,
        .newReadonly quoteTokenProgram false, .new userVolumeAccumulatorWsolAta false, .new userWsolAta false,
        systemProgramMeta, eventAuthorityMeta, ammProgramMeta], claimCashbackDiscriminator⟩

/-! ## Wrapped SOL through an account with a seed -/

/-- What both ways of unwrapping end with: the amount goes to the account, which is closed. -/
def unwrapThrough (payer userWsolAta seedAtaAddress : Pubkey) (amount : UInt64) : List Instruction :=
  [SplToken.transfer tokenProgram userWsolAta seedAtaAddress payer amount [],
    closeAccount tokenProgram seedAtaAddress payer payer []]

/-- Unwrap through the account with a seed, which exists. -/
def wrapWsolToSolWithoutCreate (payer : Pubkey) (amount : UInt64) :
    Cached (Except Error (List Instruction)) :=
  match getAssociatedTokenAddressWithProgramIdUseSeed D payer wsolTokenAccount tokenProgram with
  | .error e => return .error e
  | .ok seedAtaAddress => do
    let userWsolAta ← getAssociatedTokenAddressWithProgramIdFast D payer wsolTokenAccount tokenProgram
    return .ok (unwrapThrough payer userWsolAta seedAtaAddress amount)

/-- Unwrap through the account with a seed, which is created and closed. -/
def wrapWsolToSol (payer : Pubkey) (amount : UInt64) : Cached (Except Error (List Instruction)) := do
  match ← createAssociatedTokenAccountUseSeed D payer payer wsolTokenAccount tokenProgram with
  | .error e => return .error e
  | .ok seedAccountInstructions =>
    match getAssociatedTokenAddressWithProgramIdUseSeed D payer wsolTokenAccount tokenProgram with
    | .error e => return .error e
    | .ok seedAtaAddress =>
      let userWsolAta ← getAssociatedTokenAddressWithProgramIdFast D payer wsolTokenAccount tokenProgram
      return .ok (seedAccountInstructions ++ unwrapThrough payer userWsolAta seedAtaAddress amount)

/-- The way that is taken: the account is not created where it exists. -/
def unwrapInstructions (payer : Pubkey) (amount : UInt64) (accountExists : Bool) :
    Cached (Except Error (List Instruction)) :=
  if accountExists then wrapWsolToSolWithoutCreate D payer amount else wrapWsolToSol D payer amount

/-! ## Sending -/

/-- The node as an operation uses it. -/
structure WalletNode where
  getAccount : Pubkey → Except Error Unit
  getLatestBlockhash : Except Error Hash
  sendAndConfirmTransaction : VersionedTransaction → Except Error Signature

/-- The transaction that an operation has sent, and what it returns. -/
structure Submission where
  sent : Option VersionedTransaction
  result : Except Error Signature

/-- Nothing is sent. -/
def Submission.failed (e : Error) : Submission := ⟨none, .error e⟩

variable (sdk : Sdk) (node : WalletNode)

/-- `Transaction::new_with_payer` and `Transaction::sign` with the payer: a panic where others have to
sign, too. -/
def signLegacy (payer : Keypair) (instructions : List Instruction) (recentBlockhash : Hash) :
    Outcome VersionedTransaction := do
  let message ← buildZeroAlloc sdk payer.pubkey instructions none recentBlockhash
  if message.body.requiredSigners = [payer.pubkey] then
    .ret { signatures := [sdk.signMessage payer message], message }
  else .panic "Transaction::sign failed with error NotEnoughSigners"

/-- Sign instructions with a blockhash, and send them. -/
def signAndSend (payer : Keypair) (instructions : List Instruction) (recentBlockhash : Hash) :
    Outcome Submission := do
  let transaction ← signLegacy sdk payer instructions recentBlockhash
  .ret ⟨some transaction, node.sendAndConfirmTransaction transaction⟩

/-- Send instructions that were built, once the node has named a blockhash. -/
def sendBuilt (payer : Keypair) (instructions : List Instruction) : Outcome Submission :=
  match node.getLatestBlockhash with
  | .error e => .ret (.failed e)
  | .ok recentBlockhash => signAndSend sdk node payer instructions recentBlockhash

/-- Send instructions, unless building them has failed. -/
def sendIfBuilt (payer : Keypair) : Except Error (List Instruction) → Outcome Submission
  | .error e => .ret (.failed e)
  | .ok instructions => sendBuilt sdk node payer instructions

/-- Build instructions and send them, if the node names a blockhash. -/
def sendWithBlockhash (payer : Keypair) (build : Cached (List Instruction)) : Cached Submission :=
  match node.getLatestBlockhash with
  | .error e => return .failed e
  | .ok recentBlockhash => do
    let instructions ← build
    Prog.lift (signAndSend sdk node payer instructions recentBlockhash)

namespace TradingClient

variable (client : TradingClient)

/-- Wrap lamports of the wallet. -/
def wrapSolToWsol (amount : UInt64) : Cached Submission :=
  sendWithBlockhash sdk node client.payer (handleWsol D client.payer.pubkey amount)

/-- Close the wallet's account of wrapped SOL. -/
def closeWsol : Cached Submission :=
  sendWithBlockhash sdk node client.payer (PumpTrade.closeWsol D client.payer.pubkey)

/-- Create the wallet's account of wrapped SOL. -/
def createWsolAta : Cached Submission :=
  match node.getLatestBlockhash with
  | .error e => return .failed e
  | .ok recentBlockhash => do
    let instructions ← PumpTrade.createWsolAta D client.payer.pubkey
    if instructions.isEmpty then return .failed (.other "wSOL ATA already exists or no instructions needed")
    else Prog.lift (signAndSend sdk node client.payer instructions recentBlockhash)

/-- Unwrap an amount through an account with a seed, which is created unless the node knows it. -/
def wrapWsolToSol (amount : UInt64) : Cached Submission :=
  let payer := client.payer.pubkey
  match getAssociatedTokenAddressWithProgramIdUseSeed D payer wsolTokenAccount tokenProgram with
  | .error e => return .failed e
  | .ok seedAtaAddress => do
    let built ← unwrapInstructions D payer amount (node.getAccount seedAtaAddress).isOk
    Prog.lift (sendIfBuilt sdk node client.payer built)

/-- Claim the cashback of PumpFun. -/
def claimCashbackPumpfun : Cached Submission := do
  match ← PumpFun.claimCashbackInstruction D client.payer.pubkey with
  | none => return .failed (.other "Failed to build PumpFun claim_cashback instruction")
  | some ix => Prog.lift (sendBuilt sdk node client.payer [ix])

/-- Create the account of wrapped SOL, and claim the cashback of PumpSwap into it. -/
def claimCashbackPumpswap : Cached Submission := do
  let payer := client.payer.pubkey
  let instructions ← createAssociatedTokenAccountIdempotentFastUseSeed D payer payer wsolTokenAccount tokenProgram
    client.useSeedOptimize
  match ← PumpSwap.claimCashbackInstruction D payer wsolTokenAccount tokenProgram with
  | none => return .failed (.other "Failed to build PumpSwap claim_cashback instruction")
  | some ix => Prog.lift (sendBuilt sdk node client.payer (instructions ++ [ix]))

end TradingClient

/-- An operation of a wallet. -/
inductive WalletOperation where
  | wrapSolToWsol (amount : UInt64)
  | closeWsol
  | createWsolAta
  | wrapWsolToSol (amount : UInt64)
  | claimCashbackPumpfun
  | claimCashbackPumpswap
  deriving DecidableEq, Repr

/-- What an operation does. -/
def WalletOperation.prog (client : TradingClient) : WalletOperation → Cached Submission
  | wrapSolToWsol amount => client.wrapSolToWsol D sdk node amount
  | closeWsol => client.closeWsol D sdk node
  | createWsolAta => client.createWsolAta D sdk node
  | wrapWsolToSol amount => client.wrapWsolToSol D sdk node amount
  | claimCashbackPumpfun => client.claimCashbackPumpfun D sdk node
  | claimCashbackPumpswap => client.claimCashbackPumpswap D sdk node

/-- A call of a process: an operation of one of its wallets, or another call. -/
inductive WalletCall where
  | operation (client : TradingClient) (node : WalletNode) (operation : WalletOperation)
  | other (call : SharedCall)

/-- The call with what it submits; other calls submit nothing. -/
def WalletCall.prog : WalletCall → Cached (Option Submission)
  | operation client node op => some <$> op.prog D sdk node client
  | other call => (fun _ => none) <$> call.prog D

/-! ## What is sent -/

/-- A message that names few accounts compiles. -/
def Sdk.CompilesFew : Prop :=
  ∀ payer instructions, (instructions.map fun ix => ix.accounts.length + 1).sum < 255 →
    sdk.compiles payer instructions none = true

/-- Instructions that the payer alone signs and that name few accounts. -/
structure Sendable (payer : Pubkey) (instructions : List Instruction) : Prop where
  signed : SignedBy payer instructions
  few : (instructions.map fun ix => ix.accounts.length + 1).sum < 255

/-- What an operation returns is what the node has answered to the transaction that it has sent, or a
refusal before that. -/
structure Submission.Reports (payer : Keypair) (refuses : Error → Prop) (submission : Submission) : Prop where
  sent : ∀ transaction, submission.sent = some transaction → transaction.FullySigned sdk ∧
    transaction.message.body.payer = payer.pubkey ∧
    node.getLatestBlockhash = .ok transaction.message.body.recentBlockhash ∧
    submission.result = node.sendAndConfirmTransaction transaction
  unsent : submission.sent = none → ∃ e, submission.result = .error e ∧
    (node.getLatestBlockhash = .error e ∨ refuses e)

section Sent

variable {sdk : Sdk} {node : WalletNode} {payer : Keypair} {instructions : List Instruction}
  {refuses : Error → Prop}

theorem reports_failed {e : Error} (h : node.getLatestBlockhash = .error e ∨ refuses e) :
    (Submission.failed e).Reports sdk node payer refuses where
  sent _ h := by cases h
  unsent _ := ⟨e, rfl, h⟩

theorem signLegacy_eq (hfew : sdk.CompilesFew) (h : Sendable payer.pubkey instructions) (recentBlockhash : Hash) :
    signLegacy sdk payer instructions recentBlockhash =
      .ret (PumpTrade.signed sdk payer instructions recentBlockhash none) := by
  have hsigners : (versionedMessage ⟨payer.pubkey, instructions, recentBlockhash⟩ none).body.requiredSigners =
      [payer.pubkey] := requiredSigners_of_signedBy h.signed
  rw [signLegacy, buildZeroAlloc_eq _ _ _ _ _ (hfew _ _ h.few), Outcome.ret_bind, if_pos hsigners]
  rfl

/-- **What is signed and sent** has the signatures that it needs. -/
theorem signAndSend_eq (hfew : sdk.CompilesFew) (h : Sendable payer.pubkey instructions) (recentBlockhash : Hash) :
    signAndSend sdk node payer instructions recentBlockhash =
      let transaction := PumpTrade.signed sdk payer instructions recentBlockhash none
      .ret ⟨some transaction, node.sendAndConfirmTransaction transaction⟩ := by
  rw [signAndSend, signLegacy_eq hfew h]
  rfl

theorem signAndSend_reports (hfew : sdk.CompilesFew) (h : Sendable payer.pubkey instructions)
    {recentBlockhash : Hash} (hhash : node.getLatestBlockhash = .ok recentBlockhash) :
    ∃ submission, signAndSend sdk node payer instructions recentBlockhash = .ret submission ∧
      submission.Reports sdk node payer refuses := by
  refine ⟨_, signAndSend_eq hfew h recentBlockhash, ?_, fun hnone => by cases hnone⟩
  rintro transaction ⟨⟩
  exact ⟨signed_fullySigned h.signed, rfl, hhash, rfl⟩

theorem sendBuilt_reports (hfew : sdk.CompilesFew) (h : Sendable payer.pubkey instructions) :
    ∃ submission, sendBuilt sdk node payer instructions = .ret submission ∧
      submission.Reports sdk node payer refuses := by
  unfold sendBuilt
  cases hhash : node.getLatestBlockhash with
  | error e => exact ⟨_, rfl, reports_failed (.inl hhash)⟩
  | ok recentBlockhash => exact signAndSend_reports hfew h hhash

theorem sendWithBlockhash_yields {I : Globals → Prop} (hfew : sdk.CompilesFew)
    {build : Cached (List Instruction)} (h : build.Yields I (Sendable payer.pubkey)) :
    (sendWithBlockhash sdk node payer build).Yields I (Submission.Reports sdk node payer refuses) := by
  unfold sendWithBlockhash
  cases hhash : node.getLatestBlockhash with
  | error e => exact Prog.yields_ret (reports_failed (.inl hhash))
  | ok recentBlockhash => exact h.bind fun built hbuilt => Prog.yields_lift (signAndSend_reports hfew hbuilt hhash)

end Sent

/-! ## The instructions of an operation -/

section Built

variable {D : Derivations} {payer : Pubkey}

theorem createWsol_yields (hD : Derives D) (payer : Pubkey) (useSeed : Bool) :
    (createAssociatedTokenAccountIdempotentFastUseSeed D payer payer wsolTokenAccount tokenProgram useSeed).Yields
      (Coherent D) fun instructions => ∃ account,
        ataAddress D payer wsolTokenAccount tokenProgram false = .ret account ∧
        instructions = [createAssociatedTokenAccount payer account payer wsolTokenAccount tokenProgram] := by
  refine Prog.Keeps.mono (keeps_create payer payer wsolTokenAccount tokenProgram useSeed) ?_
  rintro o ⟨rent, rfl⟩
  obtain ⟨account, haccount⟩ := hD.account payer wsolTokenAccount tokenProgram
  have hunseeded : ¬ usesSeed wsolTokenAccount tokenProgram useSeed := fun h => h.2.1 rfl
  rw [createInstructions, if_neg hunseeded, haccount]
  exact ⟨_, rfl, account, by rw [ataAddress_false, haccount], rfl⟩

theorem sendable_createWsol (account : Pubkey) :
    Sendable payer [createAssociatedTokenAccount payer account payer wsolTokenAccount tokenProgram] :=
  ⟨by simp [signers_createAssociated], by simp [createAssociatedTokenAccount]⟩

theorem ata_yields (hD : Derives D) (walletAddress mint program : Pubkey) (useSeed : Bool) :
    (getAssociatedTokenAddressWithProgramIdFastUseSeed D walletAddress mint program useSeed).Yields (Coherent D)
      fun account => ataAddress D walletAddress mint program useSeed = .ret account :=
  (gives_ata walletAddress mint program useSeed).yields (hD.ata walletAddress mint program useSeed)

theorem handleWsol_yields (hD : Derives D) (amountIn : UInt64) :
    (handleWsol D payer amountIn).Yields (Coherent D) (Sendable payer) := by
  refine (ata_yields hD _ _ _ _).bind fun wsolAccount _ => ?_
  refine (createWsol_yields hD payer false).bind ?_
  rintro created ⟨account, -, rfl⟩
  refine Prog.yields_ret ⟨?_, by simp [createAssociatedTokenAccount, transfer, syncNative]⟩
  simp [signedBy_cons, signers_createAssociated, signers_transfer, signers_syncNative]

theorem closeWsol_yields (hD : Derives D) : (closeWsol D payer).Yields (Coherent D) (Sendable payer) := by
  refine (ata_yields hD _ _ _ _).bind fun wsolAccount _ => ?_
  refine ((gives_closeWsol payer wsolAccount).yields ⟨_, rfl⟩).mono ?_
  rintro instructions ⟨⟩
  exact ⟨signedBy_closeWsol payer wsolAccount, by simp [closeWsolInstructions, closeAccount]⟩

/-- Instructions that can be sent, or an error that refuses them. -/
def CanSend (payer : Pubkey) (refuses : Error → Prop) : Except Error (List Instruction) → Prop
  | .error e => refuses e
  | .ok instructions => Sendable payer instructions

theorem sendable_unwrapThrough {created : List Instruction} (hcreated : SignedBy payer created)
    (hfew : (created.map fun ix => ix.accounts.length + 1).sum ≤ 100) (userWsolAta seedAtaAddress : Pubkey)
    (amount : UInt64) : Sendable payer (created ++ unwrapThrough payer userWsolAta seedAtaAddress amount) := by
  have hclose : SignedBy payer [closeAccount tokenProgram seedAtaAddress payer payer []] :=
    signedBy_closeWsol payer seedAtaAddress
  have htransfer : (SplToken.transfer tokenProgram userWsolAta seedAtaAddress payer amount []).signers = [payer] :=
    rfl
  have hthrough : ((unwrapThrough payer userWsolAta seedAtaAddress amount).map
      fun ix => ix.accounts.length + 1).sum = 8 := rfl
  refine ⟨signedBy_append.mpr ⟨hcreated, signedBy_cons.mpr ⟨by simp [htransfer], hclose⟩⟩, ?_⟩
  rw [List.map_append, List.sum_append]
  omega

theorem sendable_seedInstructions (account : Pubkey) (rent : UInt64) (userWsolAta seedAtaAddress : Pubkey)
    (amount : UInt64) : Sendable payer (seedInstructions D payer account payer wsolTokenAccount tokenProgram rent ++
      unwrapThrough payer userWsolAta seedAtaAddress amount) := by
  refine sendable_unwrapThrough ?_ (by simp [seedInstructions, createAccountWithSeed, initializeAccount3]) _ _ _
  simp [seedInstructions, signedBy_cons, signers_createWithSeed, signers_initializeAccount3]

theorem wrapWsolToSolWithoutCreate_yields (hD : Derives D) (amount : UInt64) (refuses : Error → Prop) :
    (wrapWsolToSolWithoutCreate D payer amount).Yields (Coherent D) (CanSend payer refuses) := by
  obtain ⟨seedAtaAddress, hseed⟩ := hD.seeded payer wsolTokenAccount tokenProgram (.inl rfl)
  unfold wrapWsolToSolWithoutCreate getAssociatedTokenAddressWithProgramIdUseSeed
  rw [hseed]
  refine (ata_yields hD _ _ _ _).bind fun userWsolAta _ => Prog.yields_ret ?_
  exact sendable_unwrapThrough signedBy_nil (Nat.zero_le _) _ _ _

theorem wrapWsolToSol_yields (hD : Derives D) (amount : UInt64) :
    (wrapWsolToSol D payer amount).Yields (Coherent D)
      (CanSend payer fun e => e = .other "Rent not initialized") := by
  obtain ⟨seedAtaAddress, hseed⟩ := hD.seeded payer wsolTokenAccount tokenProgram (.inl rfl)
  have hcreated : (createAssociatedTokenAccountUseSeed D payer payer wsolTokenAccount tokenProgram).Yields
      (Coherent D) fun created => ∃ rent, created = createUseSeed D rent payer payer wsolTokenAccount tokenProgram :=
    (Prog.yields_read (P := fun _ => True) fun _ _ => trivial).bind fun rent _ => Prog.yields_ret ⟨rent, rfl⟩
  refine hcreated.bind ?_
  rintro _ ⟨rent, rfl⟩
  by_cases hrent : rent = noRent
  · rw [createUseSeed, if_pos hrent]
    exact Prog.yields_ret rfl
  · rw [createUseSeed, if_neg hrent, getAssociatedTokenAddressWithProgramIdUseSeed, hseed]
    refine (ata_yields hD _ _ _ _).bind fun userWsolAta _ => Prog.yields_ret ?_
    exact sendable_seedInstructions _ _ _ _ _

/-- The instruction of PumpFun, or none where its address cannot be derived. -/
theorem pumpFunClaim_yields :
    (PumpFun.claimCashbackInstruction D payer).Yields (Coherent D) fun built =>
      (built = none → (PdaCacheKey.pumpFunUserVolume payer).derive D = none) ∧
        ∀ ix, built = some ix → Sendable payer [ix] := by
  refine ((gives_getCachedPda (.pumpFunUserVolume payer)).yields ⟨_, rfl⟩).bind ?_
  rintro pda hpda
  obtain rfl := Outcome.ret.inj hpda
  cases hderive : (PdaCacheKey.pumpFunUserVolume payer).derive D with
  | none => exact Prog.yields_ret ⟨fun _ => rfl, nofun⟩
  | some userVolumeAccumulator =>
    refine Prog.yields_ret ⟨nofun, ?_⟩
    rintro ix ⟨⟩
    refine ⟨signedBy_singleton.mpr ?_, by simp⟩
    exact signers_of_accounts (by simp [AccountMeta.new, systemProgramMeta, PumpFun.eventAuthorityMeta,
      PumpFun.pumpfunMeta, AccountMeta.newReadonly])

theorem pumpSwapClaim_yields (hD : Derives D) :
    (PumpSwap.claimCashbackInstruction D payer wsolTokenAccount tokenProgram).Yields (Coherent D) fun built =>
      ∃ ix, built = some ix ∧ ix.accounts.length = 9 ∧ SignedBy payer [ix] := by
  obtain ⟨accumulator, haccumulator⟩ := hD.volume payer
  have hpda : (PumpSwap.getUserVolumeAccumulatorPda D payer).Yields (Coherent D) (· = some accumulator) := by
    refine ((gives_getCachedPda (.pumpSwapUserVolume payer)).yields ⟨_, rfl⟩).mono fun found hfound => ?_
    rw [← Outcome.ret.inj hfound, haccumulator]
  refine hpda.bind ?_
  rintro _ rfl
  have hwsolAta : (PumpSwap.getUserVolumeAccumulatorWsolAta D payer).Yields (Coherent D)
      fun found => ∃ wsolAta, found = some wsolAta := by
    refine hpda.bind ?_
    rintro _ rfl
    exact (ata_yields hD _ _ _ _).bind fun wsolAta _ => Prog.yields_ret ⟨wsolAta, rfl⟩
  refine hwsolAta.bind ?_
  rintro _ ⟨wsolAta, rfl⟩
  refine (ata_yields hD _ _ _ _).bind fun userWsolAta _ => Prog.yields_ret ⟨_, rfl, rfl, ?_⟩
  refine signedBy_singleton.mpr (signers_of_accounts ?_)
  simp [AccountMeta.new, systemProgramMeta, PumpSwap.eventAuthorityMeta, PumpSwap.ammProgramMeta,
    AccountMeta.newReadonly]

end Built

/-! ## The operations -/

/-- The errors with which an operation refuses to send anything although the node has named a
blockhash. -/
def WalletOperation.Refuses (D : Derivations) (payer : Pubkey) : WalletOperation → Error → Prop
  | wrapWsolToSol _, e => e = .other "Rent not initialized"
  | claimCashbackPumpfun, e => (PdaCacheKey.pumpFunUserVolume payer).derive D = none ∧
      e = .other "Failed to build PumpFun claim_cashback instruction"
  | _, _ => False

section Operations

variable {D : Derivations} {sdk : Sdk} {node : WalletNode} {client : TradingClient}

theorem sendBuilt_yields {I : Globals → Prop} {payer : Keypair} {instructions : List Instruction}
    {refuses : Error → Prop} (hfew : sdk.CompilesFew) (h : Sendable payer.pubkey instructions) :
    (Prog.lift (sendBuilt sdk node payer instructions) : Cached Submission).Yields I
      (Submission.Reports sdk node payer refuses) :=
  Prog.yields_lift (sendBuilt_reports hfew h)

theorem unwrap_yields (hD : Derives D) (hfew : sdk.CompilesFew) (amount : UInt64) :
    (client.wrapWsolToSol D sdk node amount).Yields (Coherent D)
      (Submission.Reports sdk node client.payer fun e => e = .other "Rent not initialized") := by
  obtain ⟨seedAtaAddress, hseed⟩ := hD.seeded client.payer.pubkey wsolTokenAccount tokenProgram (.inl rfl)
  have hsend : ∀ built, CanSend client.payer.pubkey (fun e => e = .other "Rent not initialized") built →
      Prog.Yields (Coherent D)
        (Submission.Reports sdk node client.payer fun e => e = .other "Rent not initialized")
        (Prog.lift (sendIfBuilt sdk node client.payer built)) := by
    intro built hbuilt
    cases built with
    | error e => exact Prog.yields_ret (reports_failed (.inr hbuilt))
    | ok instructions => exact sendBuilt_yields hfew hbuilt
  unfold TradingClient.wrapWsolToSol getAssociatedTokenAddressWithProgramIdUseSeed
  simp only [hseed]
  refine Prog.Yields.bind ?_ hsend
  unfold unwrapInstructions
  split_ifs
  · exact wrapWsolToSolWithoutCreate_yields hD amount _
  · exact wrapWsolToSol_yields hD amount

/-- **Each operation** returns, and reports what the node has said. -/
theorem WalletOperation.yields (hD : Derives D) (hfew : sdk.CompilesFew) (operation : WalletOperation) :
    (operation.prog D sdk node client).Yields (Coherent D)
      (Submission.Reports sdk node client.payer (operation.Refuses D client.payer.pubkey)) := by
  cases operation with
  | wrapSolToWsol amount => exact sendWithBlockhash_yields hfew (handleWsol_yields hD amount)
  | closeWsol => exact sendWithBlockhash_yields hfew (closeWsol_yields hD)
  | createWsolAta =>
    show (client.createWsolAta D sdk node).Yields _ _
    unfold TradingClient.createWsolAta
    cases hhash : node.getLatestBlockhash with
    | error e => exact Prog.yields_ret (reports_failed (.inl hhash))
    | ok recentBlockhash =>
      refine (createWsol_yields hD client.payer.pubkey false).bind ?_
      rintro instructions ⟨account, -, rfl⟩
      exact Prog.yields_lift (signAndSend_reports hfew (sendable_createWsol account) hhash)
  | wrapWsolToSol amount => exact unwrap_yields hD hfew amount
  | claimCashbackPumpfun =>
    refine pumpFunClaim_yields.bind ?_
    rintro built ⟨hnone, hsome⟩
    cases built with
    | none => exact Prog.yields_ret (reports_failed (.inr ⟨hnone rfl, rfl⟩))
    | some ix => exact sendBuilt_yields hfew (hsome ix rfl)
  | claimCashbackPumpswap =>
    refine (createWsol_yields hD client.payer.pubkey client.useSeedOptimize).bind ?_
    rintro instructions ⟨account, -, rfl⟩
    refine (pumpSwapClaim_yields hD).bind ?_
    rintro _ ⟨ix, rfl, hlength, hsigned⟩
    refine sendBuilt_yields hfew ⟨signedBy_append.mpr ⟨(sendable_createWsol account).signed, hsigned⟩, ?_⟩
    simp [createAssociatedTokenAccount, hlength]

variable (D sdk) in
/-- An operation has returned, and reports what its node has said; of other calls nothing is asked. -/
def WalletCall.Answers : WalletCall → Outcome (Option Submission) → Prop
  | operation client node op, o => ∃ submission, o = .ret (some submission) ∧
      submission.Reports sdk node client.payer (op.Refuses D client.payer.pubkey)
  | other _, _ => True

theorem WalletCall.keeps (hD : Derives D) (hfew : sdk.CompilesFew) (call : WalletCall) :
    (call.prog D sdk).Keeps (Coherent D) (call.Answers D sdk) := by
  cases call with
  | operation client node op =>
    refine Prog.Keeps.bind (op.yields hD hfew) ?_ (by simp)
    rintro submission ⟨_, ⟨⟩, hreports⟩
    exact ⟨submission, rfl, hreports⟩
  | other call => exact Prog.Keeps.bind call.keeps (fun _ _ => trivial) fun _ _ => trivial

/-- **What wallets report is what the node has said.** Operations of any wallets run beside each other
and beside other calls, from a reached state: each that has ended has returned. What it has sent has
exactly the signatures that it needs, the blockhash of the node, and the node's answer as its result;
where it has sent nothing, the node has named no blockhash or the operation is one that refuses. -/
theorem walletOperations_report (hD : Derives D) (hfew : sdk.CompilesFew) {g : Globals} (hg : Reached D g)
    (calls : ℕ → WalletCall) {acts : List ℕ} {t : Threads ℕ Globals (Option Submission)}
    (hrun : run Threads.step ⟨fun i => (calls i).prog D sdk, g⟩ acts = some t) {i : ℕ}
    {operation : WalletOperation} (hi : calls i = .operation client node operation)
    {o : Outcome (Option Submission)} (hended : t.Ended i o) :
    ∃ submission, o = .ret (some submission) ∧
      submission.Reports sdk node client.payer (operation.Refuses D client.payer.pubkey) := by
  have hkeeps : ∀ i, (t.prog i).Keeps (Coherent D) ((calls i).Answers D sdk) :=
    (Threads.run_keeps hg.coherent (fun i => (calls i).keeps hD hfew) hrun).2
  have hanswers : (calls i).Answers D sdk o := hended.of_keeps (P := fun i => (calls i).Answers D sdk) (hkeeps i)
  rwa [hi] at hanswers

/-- A node that knows no account, and accepts transactions. -/
def sampleWalletNode : WalletNode where
  getAccount _ := .error (.other "AccountNotFound")
  getLatestBlockhash := .ok ⟨5⟩
  sendAndConfirmTransaction _ := .ok ⟨7⟩

theorem sampleSdk_compilesFew : sampleSdk.CompilesFew := fun _ _ _ => rfl

/-- A wallet unwraps while the rents are updated. -/
def sampleWalletCalls (i : ℕ) : WalletCall :=
  if i = 0 then .operation (sampleClient true) sampleWalletNode (.wrapWsolToSol 1000)
  else .other (.updateRents (.ok 2039280) (.ok 2039280))

theorem walletOperations_report_unwrap : ∃ t o,
    run Threads.step ⟨fun i => (sampleWalletCalls i).prog sampleDerivations sampleSdk, .initial⟩ [1, 0, 1, 0, 0] =
      some t ∧ t.Ended 0 o ∧ ∃ submission, o = .ret (some submission) ∧ submission.sent.isSome ∧
        submission.Reports sampleSdk sampleWalletNode (sampleClient true).payer
          (WalletOperation.Refuses sampleDerivations (sampleClient true).payer.pubkey (.wrapWsolToSol 1000)) := by
  obtain ⟨t, submission, ht, hended, hsent⟩ : ∃ t submission,
      run Threads.step ⟨fun i => (sampleWalletCalls i).prog sampleDerivations sampleSdk, .initial⟩ [1, 0, 1, 0, 0] =
        some t ∧ t.Ended 0 (.ret (some submission)) ∧ submission.sent.isSome := ⟨_, _, rfl, rfl, rfl⟩
  obtain ⟨submission', hsame, hreports⟩ := walletOperations_report PumpSwap.derives_sample sampleSdk_compilesFew
    (reached_initial sampleDerivations) sampleWalletCalls ht (i := 0) rfl hended
  obtain rfl := Option.some.inj (Outcome.ret.inj hsame)
  exact ⟨t, _, ht, hended, submission, rfl, hsent, hreports⟩

end Operations

end PumpTrade
