import PumpTrade.Client.EnsureWsol
import PumpTrade.Client.Unwrap
import PumpTrade.Instr.OpenAccounts

/-!
# The open accounts of a wallet

Which token accounts of a wallet are open after a session: trades with any flags and operations of the
wallet, whose transactions run one after the other.

* `WalletAction`, `WalletAction.Sends`: the actions of a session, and the transactions that they send;
* `WalletAction.change`: what an action is meant to do, by its parameters alone;
* `WalletAction.settles`: the transaction of an action does just that;
* **`session_open_iff`**: an account is open where the last action that is about it opens it.
-/

namespace PumpTrade

open Base

/-- The accounts that are open after a transaction has run. -/
def VersionedTransaction.openAfter (transaction : VersionedTransaction) (accounts : Set Pubkey) : Set Pubkey :=
  PumpTrade.openAfter transaction.message.body.instructions accounts

/-- The accounts that are open after transactions have run one after the other. -/
def openAfterAll (transactions : List VersionedTransaction) (accounts : Set Pubkey) : Set Pubkey :=
  transactions.foldl (fun accounts transaction => transaction.openAfter accounts) accounts

/-! ## Around the instructions of a trade -/

section Around

variable {sdk : Sdk} {payer : Keypair} {instructions nonceInstructions : List Instruction} {protocolName : String}

theorem openAfter_lifetime {recentBlockhash : Option Hash} {durableNonce : Option DurableNonceInfo} {hash : Hash}
    (h : lifetime payer recentBlockhash durableNonce = some (nonceInstructions, hash)) (accounts : Set Pubkey) :
    openAfter nonceInstructions accounts = accounts := by
  unfold lifetime at h
  split at h
  · obtain ⟨rfl, -⟩ := Prod.mk.inj (Option.some.inj h)
    refine openAfter_of_quiet (List.forall_mem_singleton.mpr ⟨rfl, closes_of_length ?_⟩) accounts
    simp [advanceNonceAccount]
  · cases h
  · obtain ⟨hash', -, h⟩ := Option.map_eq_some_iff.mp h
    obtain ⟨rfl, -⟩ := Prod.mk.inj h
    rfl

theorem openAfter_bodyInstructions (unitLimit : UInt32) (unitPrice : UInt64) (withTip : Bool) (tipAccount : Pubkey)
    (tipAmount : F64) (accounts : Set Pubkey) :
    openAfter (bodyInstructions sdk payer unitLimit unitPrice instructions withTip tipAccount tipAmount) accounts =
      openAfter instructions accounts := by
  have htip : ∀ i ∈ (if withTip ∧ F64.zero.lt tipAmount then
      [transfer payer.pubkey tipAccount ((sdk.solToLamports tipAmount).getD 0)] else []),
      i.opens = none ∧ ∀ program, i.closes program = none := by
    split_ifs
    · exact List.forall_mem_singleton.mpr ⟨rfl, fun program => closes_transfer _ _ _ _⟩
    · simp
  have hbudget : ∀ i ∈ computeBudgetInstructions unitPrice unitLimit,
      i.opens = none ∧ ∀ program, i.closes program = none := by
    have hprice : ∀ program, (setComputeUnitPrice unitPrice).closes program = none :=
      closes_of_length (by simp [setComputeUnitPrice])
    have hlimit : ∀ program, (setComputeUnitLimit unitLimit).closes program = none :=
      closes_of_length (by simp [setComputeUnitLimit])
    have hopens : (setComputeUnitPrice unitPrice).opens = none ∧ (setComputeUnitLimit unitLimit).opens = none :=
      ⟨rfl, rfl⟩
    unfold computeBudgetInstructions
    split_ifs <;> simp [hprice, hlimit, hopens]
  rw [bodyInstructions, openAfter_append, openAfter_append, openAfter_of_quiet htip, openAfter_of_quiet hbudget]

/-- **A transaction of a swap** opens and closes what its instructions do. -/
theorem builds_openAfter {params : SwapParams} {world : World} {transaction : VersionedTransaction}
    (hkeep : Preserve openAfter params.middlewareManager)
    (hbuilds : params.Builds sdk world protocolName instructions transaction) :
    transaction.openAfter = openAfter instructions := by
  obtain ⟨body, hbody, nonceInstructions, blockhash, full, hlife, hfull, -, rfl⟩ :=
    SwapParams.builds_iff_signed.mp hbuilds
  have hbodyAfter : ∀ accounts, openAfter body accounts = openAfter instructions accounts := by
    unfold SwapParams.bodies at hbody
    cases hsimulate : params.simulate with
    | true =>
      rw [hsimulate, if_pos rfl] at hbody
      obtain ⟨fees, -, rfl⟩ := List.mem_map.mp hbody
      exact openAfter_bodyInstructions _ _ _ _ _
    | false =>
      rw [hsimulate, if_neg Bool.false_ne_true] at hbody
      obtain ⟨task, -, rfl⟩ := List.mem_map.mp hbody
      exact openAfter_bodyInstructions _ _ _ _ _
  funext accounts
  have hinstructions : (signed sdk params.payer full blockhash
      params.addressLookupTableAccount).message.body.instructions = full := by
    simp [signed]
  rw [VersionedTransaction.openAfter, hinstructions, hkeep.fullInstructions hfull, openAfter_append,
    openAfter_lifetime hlife, hbodyAfter]

end Around

/-! ## The operations of a wallet -/

/-- The transaction that is sent, if there is one, makes this change of the open accounts. -/
def Submission.Settles (change : Change Pubkey) (submission : Submission) : Prop :=
  ∀ transaction, submission.sent = some transaction →
    ∀ accounts, transaction.openAfter accounts = change.apply accounts

/-- The instructions make this change of the open accounts. -/
def Makes (change : Change Pubkey) (instructions : List Instruction) : Prop :=
  ∀ accounts, openAfter instructions accounts = change.apply accounts

section Sent

variable {sdk : Sdk} {node : WalletNode} {payer : Keypair} {instructions : List Instruction}
  {change : Change Pubkey}

theorem settles_failed (e : Error) : (Submission.failed e).Settles change := nofun

theorem signLegacy_instructions {recentBlockhash : Hash} {transaction : VersionedTransaction}
    (h : signLegacy sdk payer instructions recentBlockhash = .ret transaction) :
    transaction.message.body.instructions = instructions := by
  obtain ⟨message, hmessage, h⟩ := Outcome.bind_eq_ret.mp h
  split_ifs at h
  obtain rfl := Outcome.ret.inj h
  by_cases hcompiles : sdk.compiles payer.pubkey instructions none
  · rw [buildZeroAlloc_eq _ _ _ _ _ hcompiles] at hmessage
    obtain rfl := Outcome.ret.inj hmessage
    rfl
  · exact absurd hmessage (buildZeroAlloc_ne_ret _ _ _ _ _ hcompiles message)

theorem signAndSend_settles (h : Makes change instructions) {recentBlockhash : Hash} {submission : Submission}
    (hsend : signAndSend sdk node payer instructions recentBlockhash = .ret submission) :
    submission.Settles change := by
  obtain ⟨transaction, hsign, hret⟩ := Outcome.bind_eq_ret.mp hsend
  obtain rfl := Outcome.ret.inj hret
  rintro _ ⟨⟩ accounts
  rw [VersionedTransaction.openAfter, signLegacy_instructions hsign, h]

theorem sendBuilt_settles (h : Makes change instructions) {submission : Submission}
    (hsend : sendBuilt sdk node payer instructions = .ret submission) : submission.Settles change := by
  unfold sendBuilt at hsend
  cases hhash : node.getLatestBlockhash with
  | error e =>
    rw [hhash] at hsend
    obtain rfl := Outcome.ret.inj hsend
    exact settles_failed e
  | ok recentBlockhash =>
    rw [hhash] at hsend
    exact signAndSend_settles h hsend

theorem sendWithBlockhash_settles {I : Globals → Prop} {build : Cached (List Instruction)}
    (h : build.Returns I (Makes change)) :
    (sendWithBlockhash sdk node payer build).Returns I (Submission.Settles change) := by
  unfold sendWithBlockhash
  cases node.getLatestBlockhash with
  | error e => exact Prog.returns_ret (settles_failed e)
  | ok recentBlockhash =>
    exact h.bind fun instructions hmakes => (Prog.returns_lift _).mono fun _ => signAndSend_settles hmakes

end Sent

/-- What an operation does with the accounts of the wallet; the account with a seed that unwrapping goes
through is closed, whether it was there or not. -/
def WalletOperation.change (D : Derivations) (payer : Pubkey) : WalletOperation → Change Pubkey
  | wrapSolToWsol _ | createWsolAta | claimCashbackPumpswap => ⟨wsolIf D payer true, ∅⟩
  | closeWsol => ⟨∅, wsolIf D payer true⟩
  | wrapWsolToSol _ =>
    ⟨∅, {account | getAssociatedTokenAddressWithProgramIdUseSeed D payer wsolTokenAccount tokenProgram =
      .ok account}⟩
  | claimCashbackPumpfun => ⟨∅, ∅⟩

section Operations

variable {D : Derivations} {sdk : Sdk} {node : WalletNode} {client : TradingClient} {payer : Pubkey}

theorem makes_put {accounts : Set Pubkey} {instructions : List Instruction}
    (h : ∀ s, openAfter instructions s = s ∪ accounts) : Makes ⟨accounts, ∅⟩ instructions :=
  fun s => by simp [h, Change.apply]

theorem makes_take {accounts : Set Pubkey} {instructions : List Instruction}
    (h : ∀ s, openAfter instructions s = s \ accounts) : Makes ⟨∅, accounts⟩ instructions :=
  fun s => by simp [h, Change.apply]

theorem makes_unwrapThrough {created : List Instruction} {opens : Set Pubkey} (userWsolAta seedAtaAddress : Pubkey)
    (amount : UInt64) (hcreated : ∀ s, openAfter created s = s ∪ opens) (hopens : opens ⊆ {seedAtaAddress}) :
    Makes ⟨∅, {seedAtaAddress}⟩ (created ++ unwrapThrough payer userWsolAta seedAtaAddress amount) := by
  have htransfer : openAfter [SplToken.transfer tokenProgram userWsolAta seedAtaAddress payer amount []] = id := by
    funext s
    refine openAfter_of_quiet (List.forall_mem_singleton.mpr ⟨rfl, closes_of_length ?_⟩) s
    simp [SplToken.transfer]
  have htoken : isTokenProgram tokenProgram = true := by decide
  intro s
  have hthrough : unwrapThrough payer userWsolAta seedAtaAddress amount =
      [SplToken.transfer tokenProgram userWsolAta seedAtaAddress payer amount []] ++
        [closeAccount tokenProgram seedAtaAddress payer payer []] := rfl
  rw [openAfter_append, hcreated, hthrough, openAfter_append, htransfer, openAfter_closeAccount]
  ext a
  have hmem : a ∈ opens → a = seedAtaAddress := fun ha => hopens ha
  simp only [Change.apply, htoken, true_and, id_eq, Set.mem_sdiff, Set.mem_union, Set.mem_ofPred_eq,
    Set.mem_empty_iff_false, or_false, Set.mem_singleton_iff]
  tauto

theorem seedAccount_eq {seedAtaAddress : Pubkey}
    (h : getAssociatedTokenAddressWithProgramIdUseSeed D payer wsolTokenAccount tokenProgram =
      .ok seedAtaAddress) (amount : UInt64) :
    WalletOperation.change D payer (.wrapWsolToSol amount) = ⟨∅, {seedAtaAddress}⟩ := by
  rw [WalletOperation.change, h]
  congr 1
  ext a
  simp [eq_comm]

theorem unwrap_makes (amount : UInt64) (accountExists : Bool) :
    (unwrapInstructions D payer amount accountExists).Returns (Coherent D) fun built =>
      ∀ instructions, built = .ok instructions →
        Makes (WalletOperation.change D payer (.wrapWsolToSol amount)) instructions := by
  unfold unwrapInstructions
  cases accountExists with
  | true =>
    rw [if_pos rfl, wrapWsolToSolWithoutCreate]
    cases hseed : getAssociatedTokenAddressWithProgramIdUseSeed D payer wsolTokenAccount tokenProgram with
    | error e => exact Prog.returns_ret fun _ h => by cases h
    | ok seedAtaAddress =>
      refine (wsolAccount_returns payer).bind fun userWsolAta _ => Prog.returns_ret ?_
      rintro _ ⟨⟩
      have hnothing : ∀ s, openAfter [] s = s ∪ ∅ := fun s => (Set.union_empty s).symm
      rw [seedAccount_eq hseed]
      exact makes_unwrapThrough userWsolAta seedAtaAddress amount hnothing (Set.empty_subset _)
  | false =>
    rw [if_neg Bool.false_ne_true, wrapWsolToSol]
    have hcreated : (createAssociatedTokenAccountUseSeed D payer payer wsolTokenAccount tokenProgram).Returns
        (Coherent D) fun created => ∃ rent, created = createUseSeed D rent payer payer wsolTokenAccount tokenProgram :=
      Prog.Returns.bind (P := fun _ => True) (Prog.keeps_read fun _ _ _ _ => trivial)
        fun rent _ => Prog.returns_ret ⟨rent, rfl⟩
    refine hcreated.bind ?_
    rintro _ ⟨rent, rfl⟩
    cases hmade : createUseSeed D rent payer payer wsolTokenAccount tokenProgram with
    | error e => exact Prog.returns_ret fun _ h => by cases h
    | ok created =>
      cases hseed : getAssociatedTokenAddressWithProgramIdUseSeed D payer wsolTokenAccount tokenProgram with
      | error e => exact Prog.returns_ret fun _ h => by cases h
      | ok seedAtaAddress =>
        refine (wsolAccount_returns payer).bind fun userWsolAta _ => Prog.returns_ret ?_
        rintro _ ⟨⟩
        have hderived : D.createWithSeed payer (mintSeed D wsolTokenAccount) tokenProgram = .ok seedAtaAddress :=
          hseed
        rw [createUseSeed, hderived] at hmade
        split_ifs at hmade
        obtain rfl := Except.ok.inj hmade
        have hprepares := prepares_seedInstructions payer seedAtaAddress payer wsolTokenAccount tokenProgram rent D
          (.inl rfl)
        rw [seedAccount_eq hseed]
        refine makes_unwrapThrough userWsolAta seedAtaAddress amount
          (openAfter_of_opened hprepares.opened hprepares.closed) ?_
        intro a ha
        simpa using ha

theorem wsolIf_useSeed (useSeed flag : Bool) :
    accountIf D payer useSeed (wsolTokenAccount, tokenProgram) flag = wsolIf D payer flag := by
  have hunseeded : ∀ b, ¬ usesSeed wsolTokenAccount tokenProgram b := fun b h => h.2.1 rfl
  unfold wsolIf accountIf ataAddress
  rw [if_neg (hunseeded useSeed), if_neg (hunseeded false)]

theorem openAfter_claim (programId : Pubkey) (accounts : List AccountMeta)
    (hprogram : programId = PumpFun.pumpfun ∨ programId = PumpSwap.ammProgram) (s : Set Pubkey) :
    openAfter [⟨programId, accounts, claimCashbackDiscriminator⟩] s = s := by
  refine openAfter_of_quiet (List.forall_mem_singleton.mpr ⟨?_, closes_of_length ?_⟩) s
  · rcases hprogram with rfl | rfl <;> rfl
  · show claimCashbackDiscriminator.length ≠ 1
    decide

theorem pumpFunClaim_quiet : (PumpFun.claimCashbackInstruction D payer).Returns (Coherent D) fun built =>
    ∀ ix, built = some ix → ∀ s, openAfter [ix] s = s := by
  refine (gives_getCachedPda (.pumpFunUserVolume payer)).returns.bind fun pda _ => ?_
  cases pda with
  | none => exact Prog.returns_ret nofun
  | some userVolumeAccumulator =>
    refine Prog.returns_ret ?_
    rintro ix ⟨⟩
    exact openAfter_claim _ _ (.inl rfl)

theorem pumpSwapClaim_quiet (quoteMint quoteTokenProgram : Pubkey) :
    (PumpSwap.claimCashbackInstruction D payer quoteMint quoteTokenProgram).Returns (Coherent D) fun built =>
      ∀ ix, built = some ix → ∀ s, openAfter [ix] s = s := by
  refine (PumpSwap.userVolumeAccumulator_returns payer).bind fun accumulator _ => ?_
  cases accumulator with
  | none => exact Prog.returns_ret nofun
  | some accumulator =>
    refine (PumpSwap.wsolAta_returns payer).bind fun wsolAta _ => ?_
    cases wsolAta with
    | none => exact Prog.returns_ret nofun
    | some wsolAta =>
      refine (userAccount_returns _ _ _ _).bind fun userWsolAta _ => Prog.returns_ret ?_
      rintro ix ⟨⟩
      exact openAfter_claim _ _ (.inr rfl)

/-- **What an operation sends** makes the change of the operation. -/
theorem WalletOperation.settles (operation : WalletOperation) :
    (operation.prog D sdk node client).Returns (Coherent D)
      (Submission.Settles (operation.change D client.payer.pubkey)) := by
  cases operation with
  | wrapSolToWsol amount =>
    exact sendWithBlockhash_settles ((opens_handleWsol true amount).mono fun _ => makes_put)
  | closeWsol => exact sendWithBlockhash_settles ((closes_closeWsol true).mono fun _ => makes_take)
  | createWsolAta =>
    show (client.createWsolAta D sdk node).Returns _ _
    unfold TradingClient.createWsolAta
    cases node.getLatestBlockhash with
    | error e => exact Prog.returns_ret (settles_failed e)
    | ok recentBlockhash =>
      refine Prog.Returns.bind (opens_createWsolAta true) fun instructions hopens => ?_
      refine Prog.returns_ite (fun _ => Prog.returns_ret (settles_failed _)) fun _ => ?_
      exact (Prog.returns_lift _).mono fun _ => signAndSend_settles (makes_put hopens)
  | wrapWsolToSol amount =>
    show (client.wrapWsolToSol D sdk node amount).Returns _ _
    unfold TradingClient.wrapWsolToSol
    cases hseed : getAssociatedTokenAddressWithProgramIdUseSeed D client.payer.pubkey wsolTokenAccount
      tokenProgram with
    | error e =>
      simp only [hseed]
      exact Prog.returns_ret (settles_failed e)
    | ok seedAtaAddress =>
      simp only [hseed]
      refine (unwrap_makes amount _).bind fun built hbuilt => (Prog.returns_lift _).mono fun submission hsend => ?_
      cases built with
      | error e =>
        obtain rfl := Outcome.ret.inj hsend
        exact settles_failed e
      | ok instructions => exact sendBuilt_settles (hbuilt instructions rfl) hsend
  | claimCashbackPumpfun =>
    refine pumpFunClaim_quiet.bind fun built hquiet => ?_
    cases built with
    | none => exact Prog.returns_ret (settles_failed _)
    | some ix =>
      refine (Prog.returns_lift _).mono fun _ => sendBuilt_settles (makes_put fun s => ?_)
      rw [hquiet ix rfl, Set.union_empty]
  | claimCashbackPumpswap =>
    have hcreate : (createAssociatedTokenAccountIdempotentFastUseSeed D client.payer.pubkey client.payer.pubkey
        wsolTokenAccount tokenProgram client.useSeedOptimize).Returns (Coherent D) fun is => ∀ s, openAfter is s =
          s ∪ accountIf D client.payer.pubkey client.useSeedOptimize (wsolTokenAccount, tokenProgram) true :=
      opens_create true
    refine hcreate.bind fun instructions hopens => ?_
    refine (pumpSwapClaim_quiet _ _).bind fun built hquiet => ?_
    cases built with
    | none => exact Prog.returns_ret (settles_failed _)
    | some ix =>
      refine (Prog.returns_lift _).mono fun _ => sendBuilt_settles (makes_put fun s => ?_)
      rw [openAfter_append, hopens, hquiet ix rfl, wsolIf_useSeed]

/-- What the attempts at creating the account have sent has the instructions that they were given. -/
theorem ensureAttempts_instructions {sdk : Sdk} {payer : Keypair} {node : EnsureNode}
    {instructions : List Instruction} {remaining attempt : ℕ} {lastError lastError' : Option String}
    {sent : List VersionedTransaction}
    (h : ensureAttempts sdk payer node instructions remaining attempt lastError = .ret (sent, lastError')) :
    ∀ transaction ∈ sent, transaction.message.body.instructions = instructions := by
  induction remaining generalizing attempt lastError lastError' sent with
  | zero =>
    obtain ⟨rfl, -⟩ := Prod.mk.inj (Outcome.ret.inj h)
    simp
  | succ remaining ih =>
    obtain ⟨⟨tx, error⟩, hattempt, h⟩ := Outcome.bind_eq_ret.mp h
    have htx : ∀ transaction ∈ tx.toList, transaction.message.body.instructions = instructions := by
      intro transaction hmem
      unfold ensureAttempt at hattempt
      split at hattempt
      · obtain ⟨rfl, -⟩ := Prod.mk.inj (Outcome.ret.inj hattempt)
        simp at hmem
      · obtain ⟨signed, hsign, hattempt⟩ := Outcome.bind_eq_ret.mp hattempt
        have hsome : tx = some signed := by
          split at hattempt <;> exact (Prod.mk.inj (Outcome.ret.inj hattempt)).1.symm
        rw [hsome, Option.mem_toList] at hmem
        obtain rfl := Option.some.inj hmem
        exact signLegacy_instructions hsign
    cases error with
    | none =>
      obtain ⟨rfl, -⟩ := Prod.mk.inj (Outcome.ret.inj h)
      exact htx
    | some e =>
      obtain ⟨⟨txs, lastError''⟩, hrest, h⟩ := Outcome.bind_eq_ret.mp h
      obtain ⟨rfl, -⟩ := Prod.mk.inj (Outcome.ret.inj h)
      exact List.forall_mem_append.mpr ⟨htx, ih hrest⟩

theorem ensureWsolAta_settles (sdk : Sdk) (displayPubkey : Pubkey → String) (payer : Keypair) (node : EnsureNode) :
    (ensureWsolAta D sdk displayPubkey payer node).Returns (Coherent D) fun ensured =>
      ∀ transaction ∈ ensured.sent, ∀ accounts,
        transaction.openAfter accounts = Change.apply ⟨wsolIf D payer.pubkey true, ∅⟩ accounts := by
  refine (wsolAccount_returns _).bind fun wsolAta _ => ?_
  refine Prog.returns_ite (fun _ => Prog.returns_ret (by simp)) fun _ => ?_
  refine Prog.Returns.bind (opens_createWsolAta true) fun instructions hopens => ?_
  refine Prog.returns_ite (fun _ => Prog.returns_ret (by simp)) fun _ => ?_
  refine (Prog.returns_lift _).bind ?_
  rintro ⟨sent, lastError⟩ hattempts
  have hsent : ∀ transaction ∈ sent, ∀ accounts,
      transaction.openAfter accounts = Change.apply ⟨wsolIf D payer.pubkey true, ∅⟩ accounts := by
    intro transaction hmem accounts
    rw [VersionedTransaction.openAfter, ensureAttempts_instructions hattempts transaction hmem]
    exact makes_put hopens accounts
  cases lastError with
  | none => exact Prog.returns_ret hsent
  | some e => exact Prog.returns_ret hsent

end Operations

/-! ## Sessions -/

/-- What a wallet does. -/
inductive WalletAction where
  | buy (params : TradeBuyParams)
  | sell (params : TradeSellParams)
  | operation (operation : WalletOperation)
  | ensureWsolAta

variable (D : Derivations) (checks : Bool) (solStrToLamports : String → Option UInt64) (sdk : Sdk)
  (client : TradingClient)

namespace WalletAction

/-- The transaction is one that the action sends, in some reached state of the caches and whatever the node
and the services answer. -/
def Sends (action : WalletAction) (transaction : VersionedTransaction) : Prop :=
  ∃ g, Reached D g ∧ match action with
    | buy params => params.simulate = false ∧ ∃ world instructions,
      let protocolName := (createExecutor D checks solStrToLamports params.dexType).protocolName
      (GenericTradeExecutor.given protocolName
        ((client.buyInstructions D checks solStrToLamports params).run g).1).Submits
          (client.buySwapParams params) instructions ∧
      (client.buySwapParams params).Builds sdk world protocolName instructions transaction
    | sell params => params.simulate = false ∧ ∃ world instructions,
      let protocolName := (createExecutor D checks solStrToLamports params.dexType).protocolName
      (GenericTradeExecutor.given protocolName
        ((client.sellInstructions D checks solStrToLamports params).run g).1).Submits
          (client.sellSwapParams params) instructions ∧
      (client.sellSwapParams params).Builds sdk world protocolName instructions transaction
    | operation op => ∃ node submission,
      ((op.prog D sdk node client).run g).1 = .ret submission ∧ submission.sent = some transaction
    | ensureWsolAta => ∃ node displayPubkey ensured,
      ((PumpTrade.ensureWsolAta D sdk displayPubkey client.payer node).run g).1 = .ret ensured ∧
        transaction ∈ ensured.sent

/-- What an action does with the accounts of the wallet. -/
def change : WalletAction → Change Pubkey
  | buy params => (client.buyInstructionParams params).buyChange D
  | sell params => (client.sellInstructionParams params).sellChange D
  | operation op => op.change D client.payer.pubkey
  | ensureWsolAta => ⟨wsolIf D client.payer.pubkey true, ∅⟩

/-- The account is open after the action. -/
def Opens (action : WalletAction) (account : Pubkey) : Prop :=
  account ∈ (action.change D client).put ∧ account ∉ (action.change D client).take

/-- The account is closed after the action. -/
def Closes (action : WalletAction) (account : Pubkey) : Prop := account ∈ (action.change D client).take

variable {D} {checks} {solStrToLamports} {sdk} {client}

theorem settles_buyInstructions (params : TradeBuyParams) :
    (client.buyInstructions D checks solStrToLamports params).Returns (Coherent D)
      (BuiltSettles ((client.buyInstructionParams params).buyChange D)) := by
  unfold TradingClient.buyInstructions
  split
  · exact Prog.returns_ret trivial
  · cases params.dexType with
    | pumpFun => exact PumpFun.settles_buy
    | pumpSwap => exact PumpSwap.settles_buy

theorem settles_sellInstructions (params : TradeSellParams) :
    (client.sellInstructions D checks solStrToLamports params).Returns (Coherent D)
      (BuiltSettles ((client.sellInstructionParams params).sellChange D)) := by
  unfold TradingClient.sellInstructions
  split
  · exact Prog.returns_ret trivial
  · cases params.dexType with
    | pumpFun => exact PumpFun.settles_sell
    | pumpSwap => exact PumpSwap.settles_sell

/-- **The transaction of an action** makes the change of the action. -/
theorem settles (hkeep : Preserve openAfter client.middlewareManager) {action : WalletAction}
    {transaction : VersionedTransaction} (h : action.Sends D checks solStrToLamports sdk client transaction)
    (accounts : Set Pubkey) : transaction.openAfter accounts = (action.change D client).apply accounts := by
  obtain ⟨g, hg, hsends⟩ := h
  cases action with
  | buy params =>
    obtain ⟨-, world, instructions, hsubmits, hbuilds⟩ := hsends
    obtain ⟨built, hbuilt, -, hprotocol⟩ := GenericTradeExecutor.submits_iff.mp hsubmits
    rw [builds_openAfter hkeep hbuilds, hkeep.protocolInstructions hprotocol]
    exact (settles_buyInstructions params).run hg.coherent hbuilt accounts
  | sell params =>
    obtain ⟨-, world, instructions, hsubmits, hbuilds⟩ := hsends
    obtain ⟨built, hbuilt, -, hprotocol⟩ := GenericTradeExecutor.submits_iff.mp hsubmits
    rw [builds_openAfter hkeep hbuilds, hkeep.protocolInstructions hprotocol]
    exact (settles_sellInstructions params).run hg.coherent hbuilt accounts
  | operation op =>
    obtain ⟨node, submission, hrun, hsent⟩ := hsends
    exact op.settles.run hg.coherent hrun transaction hsent accounts
  | ensureWsolAta =>
    obtain ⟨node, displayPubkey, ensured, hrun, hmem⟩ := hsends
    exact (ensureWsolAta_settles sdk displayPubkey client.payer node).run hg.coherent hrun transaction hmem accounts

end WalletAction

/-- A session: actions, each with a transaction that it has sent and that has run. -/
structure WalletSession where
  steps : List (WalletAction × VersionedTransaction)
  sends : ∀ step ∈ steps, step.1.Sends D checks solStrToLamports sdk client step.2

namespace WalletSession

variable {D} {checks} {solStrToLamports} {sdk} {client}

/-- The accounts that are open after the session. -/
def openAfter (session : WalletSession D checks solStrToLamports sdk client) (accounts : Set Pubkey) :
    Set Pubkey :=
  openAfterAll (session.steps.map Prod.snd) accounts

theorem openAfter_eq (hkeep : Preserve PumpTrade.openAfter client.middlewareManager)
    (session : WalletSession D checks solStrToLamports sdk client) (accounts : Set Pubkey) :
    session.openAfter accounts =
      applyAll (session.steps.map fun step => step.1.change D client) accounts := by
  obtain ⟨steps, hsends⟩ := session
  unfold openAfter openAfterAll
  induction steps generalizing accounts with
  | nil => rfl
  | cons step steps ih =>
    obtain ⟨hstep, hsteps⟩ := List.forall_mem_cons.mp hsends
    show List.foldl _ (step.2.openAfter accounts) _ = applyAll _ ((step.1.change D client).apply accounts)
    rw [WalletAction.settles hkeep hstep]
    exact ih _ hsteps

/-- **Which accounts are open after a session**: those that some action opens, or that were open before,
and that no action from then on closes. What an action opens and closes is decided by its parameters,
whatever the caches hold, the services and the node answer, and fees, tips and nonces are added. -/
theorem session_open_iff (hkeep : Preserve PumpTrade.openAfter client.middlewareManager)
    (session : WalletSession D checks solStrToLamports sdk client) (accounts : Set Pubkey) (account : Pubkey) :
    account ∈ session.openAfter accounts ↔
      SplitAt session.steps (fun step later =>
        step.1.Opens D client account ∧ ∀ s ∈ later, ¬ s.1.Closes D client account) ∨
      (account ∈ accounts ∧ ∀ step ∈ session.steps, ¬ step.1.Closes D client account) := by
  rw [session.openAfter_eq hkeep, mem_applyAll_iff, splitAt_map]
  simp only [List.forall_mem_map, WalletAction.Opens, WalletAction.Closes, and_assoc]

end WalletSession

/-- SOL is wrapped, and then a new coin is bought. -/
theorem session_open_iff_wrap : ∃ session : WalletSession sampleDerivations true (fun _ => some 10000000) sampleSdk
      sampleRpcClient, session.steps.length = 2 ∧
    ∃ account, ataAddress sampleDerivations ⟨1⟩ wsolTokenAccount tokenProgram false = .ret account ∧
      account ∈ session.openAfter ∅ := by
  obtain ⟨account, haccount⟩ : ∃ account,
      ataAddress sampleDerivations ⟨1⟩ wsolTokenAccount tokenProgram false = .ret account := ⟨_, rfl⟩
  obtain ⟨wrapped, hwrapped⟩ : ∃ transaction, (WalletAction.operation (.wrapSolToWsol 1000)).Sends sampleDerivations
      true (fun _ => some 10000000) sampleSdk sampleRpcClient transaction :=
    ⟨_, .initial, reached_initial _, sampleWalletNode, _, rfl, rfl⟩
  obtain ⟨bought, hbought⟩ : ∃ transaction, (WalletAction.buy sampleRecentBuy).Sends sampleDerivations
      true (fun _ => some 10000000) sampleSdk sampleRpcClient transaction := by
    obtain ⟨built, hbuilt, hne⟩ : ∃ built, (((sampleClient true).buyInstructions sampleDerivations true
        (fun _ => some 10000000) sampleRecentBuy).run (.withRents 2039280)).1 = .ret (.ok built) ∧ built ≠ [] :=
      ⟨_, rfl, List.cons_ne_nil _ _⟩
    let world := sampleWorld fun _ _ => sampleNet 200 ""
    let args := (sampleRpcClient.buySwapParams sampleRecentBuy).tradeArgs "PumpFun"
    have hlength : ((args []).launch sampleSdk world).1.length = 1 := by decide
    obtain ⟨task, htask⟩ := List.length_eq_one_iff.mp hlength
    have hlaunch : ∀ world, (args built).launch sampleSdk world = (args []).launch sampleSdk world := fun _ => rfl
    obtain ⟨transaction, hbuild⟩ : ∃ transaction, task.build sampleSdk ((sampleRpcClient.buySwapParams
        sampleRecentBuy).tradeArgs "PumpFun" built) = .ret (.ok transaction) :=
      ⟨_, Task.build_eq_ok.mpr ⟨[], ⟨5⟩, _, rfl, rfl, rfl, rfl⟩⟩
    have hsubmits : (GenericTradeExecutor.given "PumpFun" (((sampleClient true).buyInstructions sampleDerivations
        true (fun _ => some 10000000) sampleRecentBuy).run (.withRents 2039280)).1).Submits
          (sampleRpcClient.buySwapParams sampleRecentBuy) built :=
      GenericTradeExecutor.submits_iff.mpr ⟨built, hbuilt, hne, rfl⟩
    have hspawned : task ∈ ((args built).launch sampleSdk world).1 := by
      rw [hlaunch, htask]
      exact List.mem_singleton_self task
    exact ⟨transaction, .withRents 2039280, reached_withRents _ _, rfl, world, built, hsubmits, task, hspawned,
      hbuild⟩
  let session : WalletSession sampleDerivations true (fun _ => some 10000000) sampleSdk sampleRpcClient :=
    ⟨[(.operation (.wrapSolToWsol 1000), wrapped), (.buy sampleRecentBuy, bought)],
      List.forall_mem_cons.mpr ⟨hwrapped, List.forall_mem_singleton.mpr hbought⟩⟩
  refine ⟨session, rfl, account, haccount, ?_⟩
  have hkeep : Preserve openAfter sampleRpcClient.middlewareManager := fun manager h => by cases h
  refine (session.session_open_iff hkeep ∅ account).mpr (Or.inl ⟨[], _, _, rfl, ⟨⟨rfl, haccount⟩, fun h => h⟩, ?_⟩)
  refine List.forall_mem_singleton.mpr fun h => ?_
  exact h

end PumpTrade
