import PumpTrade.Client.Wallet

/-!
# Unwrapping

`wrap_wsol_to_sol` moves wrapped SOL into an account with a seed and closes that account. It creates
the account if the node does not find it, for which the rent has to be known.

* `Instruction.tokenTransfer?`: the tokens that an instruction moves;
* `run_unwrapInstructions`: what is built in a state;
* **`unwrap_sends_iff`**: when a transaction is sent, and what is in it.
-/

namespace PumpTrade

open Base

variable {D : Derivations}

/-- A transfer of tokens. -/
structure TokenTransfer where
  source : Pubkey
  destination : Pubkey
  authority : Pubkey
  amount : ℕ
  deriving DecidableEq, Repr

/-- The tokens that an instruction moves. -/
def Instruction.tokenTransfer? (instruction : Instruction) : Option TokenTransfer :=
  match instruction.accounts, instruction.data with
  | source :: destination :: authority :: _, 3 :: data =>
    if instruction.programId = tokenProgram then
      some ⟨source.pubkey, destination.pubkey, authority.pubkey, ofLeBytes (data.take 8)⟩
    else none
  | _, _ => none

theorem tokenTransfer?_transfer (source destination owner : Pubkey) (amount : UInt64) :
    (SplToken.transfer tokenProgram source destination owner amount []).tokenTransfer? =
      some ⟨source, destination, owner, amount.toNat⟩ := by
  have htake : (leBytes amount.toNat 8).take 8 = leBytes amount.toNat 8 :=
    List.take_of_length_le (length_leBytes _ _).le
  show some (TokenTransfer.mk source destination owner (ofLeBytes ((leBytes amount.toNat 8).take 8))) = _
  rw [htake, ofLeBytes_u64]

/-- What unwrapping does with accounts and tokens, besides creating the account. -/
theorem unwrapThrough_effects (payer userWsolAta seedAtaAddress : Pubkey) (amount : UInt64) :
    let instructions := unwrapThrough payer userWsolAta seedAtaAddress amount
    instructions.filterMap Instruction.tokenTransfer? = [⟨userWsolAta, seedAtaAddress, payer, amount.toNat⟩] ∧
      instructions.filterMap (Instruction.closes tokenProgram) = [seedAtaAddress] ∧
      instructions.filterMap Instruction.opens = [] := by
  intro instructions
  refine ⟨?_, rfl, rfl⟩
  have hclose : (closeAccount tokenProgram seedAtaAddress payer payer []).tokenTransfer? = none := rfl
  simp [instructions, unwrapThrough, tokenTransfer?_transfer, hclose]

/-- What is done before: the account is created where it is not known. -/
def seedAccountInstructions (D : Derivations) (payer seedAtaAddress : Pubkey) (rent : UInt64) : Bool → List Instruction
  | true => []
  | false => seedInstructions D payer seedAtaAddress payer wsolTokenAccount tokenProgram rent

theorem sendable_seedAccountInstructions (payer userWsolAta seedAtaAddress : Pubkey) (rent amount : UInt64)
    (accountExists : Bool) : Sendable payer (seedAccountInstructions D payer seedAtaAddress rent accountExists ++
      unwrapThrough payer userWsolAta seedAtaAddress amount) := by
  cases accountExists with
  | true => exact sendable_unwrapThrough signedBy_nil (Nat.zero_le _) _ _ _
  | false => exact sendable_seedInstructions _ _ _ _ _

theorem seedAccountInstructions_effects (payer seedAtaAddress : Pubkey) (rent : UInt64) (accountExists : Bool) :
    let instructions := seedAccountInstructions D payer seedAtaAddress rent accountExists
    instructions.filterMap Instruction.tokenTransfer? = [] ∧
      instructions.filterMap (Instruction.closes tokenProgram) = [] ∧
      instructions.filterMap Instruction.opens =
        if accountExists then [] else [seedAtaAddress, seedAtaAddress] := by
  cases accountExists <;> exact ⟨rfl, rfl, rfl⟩

section Unwrap

variable {sdk : Sdk} {node : WalletNode} {client : TradingClient} {payer seedAtaAddress userWsolAta : Pubkey}
  {g : Globals}

theorem run_wsolAta (hg : Coherent D g)
    (hata : ataAddress D payer wsolTokenAccount tokenProgram false = .ret userWsolAta) :
    ((getAssociatedTokenAddressWithProgramIdFast D payer wsolTokenAccount tokenProgram).run g).1 =
      .ret userWsolAta :=
  (Prog.Keeps.run (gives_ata payer wsolTokenAccount tokenProgram false) hg).1.trans hata

/-- What is built: nothing for an account that the node does not know, before the rent is known. -/
theorem run_unwrapInstructions (hg : Coherent D g)
    (hseed : getAssociatedTokenAddressWithProgramIdUseSeed D payer wsolTokenAccount tokenProgram = .ok seedAtaAddress)
    (hata : ataAddress D payer wsolTokenAccount tokenProgram false = .ret userWsolAta) (amount : UInt64)
    (accountExists : Bool) :
    ((unwrapInstructions D payer amount accountExists).run g).1 =
      if accountExists ∨ g.rent tokenProgram ≠ noRent then
        .ret (.ok (seedAccountInstructions D payer seedAtaAddress (g.rent tokenProgram) accountExists ++
          unwrapThrough payer userWsolAta seedAtaAddress amount))
      else .ret (.error (.other "Rent not initialized")) := by
  have hderived : D.createWithSeed payer (mintSeed D wsolTokenAccount) tokenProgram = .ok seedAtaAddress := hseed
  unfold unwrapInstructions
  cases accountExists with
  | true =>
    rw [if_pos rfl, if_pos (.inl rfl), wrapWsolToSolWithoutCreate, hseed]
    show (Prog.run (_ >>= _) g).1 = _
    rw [Prog.run_bind_ret (run_wsolAta hg hata)]
    rfl
  | false =>
    have hcreated : ((createAssociatedTokenAccountUseSeed D payer payer wsolTokenAccount tokenProgram).run g) =
        (.ret (createUseSeed D (g.rent tokenProgram) payer payer wsolTokenAccount tokenProgram), g) := rfl
    rw [if_neg Bool.false_ne_true, wrapWsolToSol, Prog.run_bind_ret (congrArg Prod.fst hcreated), hcreated]
    by_cases hrent : g.rent tokenProgram = noRent
    · rw [createUseSeed, if_pos hrent, if_neg (by simp [hrent])]
      rfl
    · rw [createUseSeed, if_neg hrent, hderived, hseed, if_pos (.inr hrent)]
      show (Prog.run (_ >>= _) g).1 = _
      rw [Prog.run_bind_ret (run_wsolAta hg hata)]
      rfl

theorem sendBuilt_sends {payer : Keypair} {instructions : List Instruction} (hfew : sdk.CompilesFew)
    (h : Sendable payer.pubkey instructions) :
    ∃ submission, sendBuilt sdk node payer instructions = .ret submission ∧
      (submission.sent.isSome ↔ ∃ recentBlockhash, node.getLatestBlockhash = .ok recentBlockhash) ∧
      ∀ transaction, submission.sent = some transaction → transaction.message.body.instructions = instructions := by
  unfold sendBuilt
  cases hhash : node.getLatestBlockhash with
  | error e => exact ⟨_, rfl, by simp [Submission.failed], by simp [Submission.failed]⟩
  | ok recentBlockhash =>
    refine ⟨_, signAndSend_eq hfew h recentBlockhash, by simp, ?_⟩
    rintro transaction ⟨⟩
    rfl

theorem run_unwrap (hseed : getAssociatedTokenAddressWithProgramIdUseSeed D client.payer.pubkey wsolTokenAccount
      tokenProgram = .ok seedAtaAddress) {amount : UInt64} {built : Except Error (List Instruction)}
    (hbuilt : ((unwrapInstructions D client.payer.pubkey amount (node.getAccount seedAtaAddress).isOk).run g).1 =
      .ret built) :
    ((client.wrapWsolToSol D sdk node amount).run g).1 = sendIfBuilt sdk node client.payer built := by
  unfold TradingClient.wrapWsolToSol
  simp only [hseed]
  rw [Prog.run_bind_ret hbuilt, Prog.run_lift]

/-- **When unwrapping sends a transaction, and what it does.** In every reached state it returns; it
sends where the node knows the account with the seed or the rent is known, and the node names a
blockhash. Then exactly the amount goes from the payer's account of wrapped SOL to that account, which
is closed, and which is created before exactly if the node has not found it. -/
theorem unwrap_sends_iff (hD : Derives D) (hfew : sdk.CompilesFew) (hg : Reached D g) (client : TradingClient)
    (node : WalletNode) (amount : UInt64) :
    ∃ seedAtaAddress userWsolAta submission,
      getAssociatedTokenAddressWithProgramIdUseSeed D client.payer.pubkey wsolTokenAccount tokenProgram =
        .ok seedAtaAddress ∧
      ataAddress D client.payer.pubkey wsolTokenAccount tokenProgram false = .ret userWsolAta ∧
      ((client.wrapWsolToSol D sdk node amount).run g).1 = .ret submission ∧
      (submission.sent.isSome ↔ ((node.getAccount seedAtaAddress).isOk ∨ g.rent tokenProgram ≠ noRent) ∧
        ∃ recentBlockhash, node.getLatestBlockhash = .ok recentBlockhash) ∧
      ∀ transaction, submission.sent = some transaction →
        let instructions := transaction.message.body.instructions
        instructions.filterMap Instruction.tokenTransfer? =
          [⟨userWsolAta, seedAtaAddress, client.payer.pubkey, amount.toNat⟩] ∧
        instructions.filterMap (Instruction.closes tokenProgram) = [seedAtaAddress] ∧
        instructions.filterMap Instruction.opens =
          if (node.getAccount seedAtaAddress).isOk then [] else [seedAtaAddress, seedAtaAddress] := by
  obtain ⟨seedAtaAddress, hseed⟩ := hD.seeded client.payer.pubkey wsolTokenAccount tokenProgram (.inl rfl)
  obtain ⟨userWsolAta, hata⟩ := hD.ata client.payer.pubkey wsolTokenAccount tokenProgram false
  have hbuilt := run_unwrapInstructions hg.coherent hseed hata amount (node.getAccount seedAtaAddress).isOk
  by_cases hpossible : (node.getAccount seedAtaAddress).isOk ∨ g.rent tokenProgram ≠ noRent
  · rw [if_pos hpossible] at hbuilt
    obtain ⟨submission, hsends, hiff, hinstructions⟩ := sendBuilt_sends hfew
      (sendable_seedAccountInstructions (D := D) client.payer.pubkey userWsolAta seedAtaAddress
        (g.rent tokenProgram) amount (node.getAccount seedAtaAddress).isOk)
    have hrun := (run_unwrap hseed hbuilt).trans hsends
    refine ⟨_, _, submission, hseed, hata, hrun, ?_, fun transaction hsent => ?_⟩
    · rw [hiff, and_iff_right hpossible]
    · obtain ⟨htransfers, hcloses, hopens⟩ := seedAccountInstructions_effects (D := D) client.payer.pubkey
        seedAtaAddress (g.rent tokenProgram) (node.getAccount seedAtaAddress).isOk
      obtain ⟨htransfers', hcloses', hopens'⟩ :=
        unwrapThrough_effects client.payer.pubkey userWsolAta seedAtaAddress amount
      rw [hinstructions transaction hsent]
      refine ⟨?_, ?_, ?_⟩
      · rw [List.filterMap_append, htransfers, htransfers', List.nil_append]
      · rw [List.filterMap_append, hcloses, hcloses', List.nil_append]
      · rw [List.filterMap_append, hopens, hopens', List.append_nil]
  · rw [if_neg hpossible] at hbuilt
    refine ⟨_, _, .failed _, hseed, hata, run_unwrap hseed hbuilt, ?_, nofun⟩
    simp [Submission.failed, hpossible]

theorem unwrap_sends_iff_created : ∃ submission,
    (((sampleClient true).wrapWsolToSol sampleDerivations sampleSdk sampleWalletNode 1000).run
      (.withRents 2039280)).1 = .ret submission ∧ submission.sent.isSome := by
  obtain ⟨seedAtaAddress, userWsolAta, submission, -, -, hrun, hiff, -⟩ := unwrap_sends_iff
    PumpSwap.derives_sample sampleSdk_compilesFew (reached_withRents sampleDerivations 2039280) (sampleClient true)
    sampleWalletNode 1000
  exact ⟨submission, hrun, hiff.mpr ⟨.inr (by decide), ⟨5⟩, rfl⟩⟩

end Unwrap

end PumpTrade
