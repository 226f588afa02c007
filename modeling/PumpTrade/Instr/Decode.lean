import Mathlib.Data.List.Basic
import PumpTrade.Account.FastFn

/-!
# What instructions do with the accounts of a user

The swap instructions of the two programs carry a discriminator and two amounts. Both programs read
the mints and the accounts of the user at fixed places: the buy instructions of the AMM debit the
quote account and credit the base account, its sell instruction the reverse; PumpFun trades lamports
for the mint.

* `Instruction.swap?`, `Instruction.transfer?`: the decoders, beside those of accounts opened and
  closed;
* `swap?_pumpFun`, `swap?_pumpSwap`: they read back what is encoded;
* `Prepares`: what the instructions before a swap do;
* **`prepares_createInstructions`**: a created account has the address that the address function
  gives.
-/

namespace PumpTrade

open Base

/-- What a swap may take from the user and has to give. -/
structure SwapEffect where
  debitMint : Pubkey
  debitAccount : Pubkey
  maxDebit : ℕ
  creditMint : Pubkey
  creditAccount : Pubkey
  minCredit : ℕ
  deriving DecidableEq, Repr

/-- The data of a swap instruction. -/
def swapData (discriminator : List UInt8) (first second : UInt64) : List UInt8 :=
  discriminator ++ leBytes first.toNat 8 ++ leBytes second.toNat 8

/-- The mints of a trade with the accounts of the user for them. -/
structure SwapAccounts where
  baseMint : Pubkey
  quoteMint : Pubkey
  userBase : Pubkey
  userQuote : Pubkey
  deriving DecidableEq, Repr

namespace SwapAccounts

variable (accounts : SwapAccounts)

/-- Spend the quote and receive the base. -/
def buys (maxDebit minCredit : ℕ) : SwapEffect :=
  ⟨accounts.quoteMint, accounts.userQuote, maxDebit, accounts.baseMint, accounts.userBase, minCredit⟩

/-- Spend the base and receive the quote. -/
def sells (maxDebit minCredit : ℕ) : SwapEffect :=
  ⟨accounts.baseMint, accounts.userBase, maxDebit, accounts.quoteMint, accounts.userQuote, minCredit⟩

/-- The effect of a discriminator with two amounts: an exact buy names what is spent first, a plain
buy what is received, and a sale what is spent. -/
def effect? (exactDiscriminator discriminator : List UInt8) (first second : ℕ) : Option SwapEffect :=
  if discriminator = exactDiscriminator then some (accounts.buys first second)
  else if discriminator = buyDiscriminator then some (accounts.buys second first)
  else if discriminator = sellDiscriminator then some (accounts.sells first second)
  else none

variable {exactDiscriminator : List UInt8}

theorem effect?_exact (first second : ℕ) :
    accounts.effect? exactDiscriminator exactDiscriminator first second = some (accounts.buys first second) :=
  if_pos rfl

theorem effect?_buy (h : buyDiscriminator ≠ exactDiscriminator) (first second : ℕ) :
    accounts.effect? exactDiscriminator buyDiscriminator first second = some (accounts.buys second first) := by
  rw [effect?, if_neg h, if_pos rfl]

theorem effect?_sell (h : sellDiscriminator ≠ exactDiscriminator) (first second : ℕ) :
    accounts.effect? exactDiscriminator sellDiscriminator first second = some (accounts.sells first second) := by
  rw [effect?, if_neg h, if_neg (by decide), if_pos rfl]

end SwapAccounts

namespace Instruction

variable (instruction : Instruction)

/-- The first eight bytes of the data. -/
def discriminator : List UInt8 := instruction.data.take 8

/-- The first amount of the data, and the second one. -/
def firstAmount : ℕ := ofLeBytes ((instruction.data.drop 8).take 8)

def secondAmount : ℕ := ofLeBytes ((instruction.data.drop 16).take 8)

/-- The accounts that PumpFun reads: the mint, the user's account for it, and the user, who holds
lamports. -/
def pumpFunAccounts? : Option SwapAccounts := do
  let mint ← instruction.account? 2
  let userTokenAccount ← instruction.account? 5
  let user ← instruction.account? 6
  return ⟨mint, solTokenAccount, userTokenAccount, user⟩

/-- The accounts that the AMM reads. -/
def pumpSwapAccounts? : Option SwapAccounts := do
  let baseMint ← instruction.account? 3
  let quoteMint ← instruction.account? 4
  let userBase ← instruction.account? 5
  let userQuote ← instruction.account? 6
  return ⟨baseMint, quoteMint, userBase, userQuote⟩

/-- The effect of a swap instruction. -/
def swap? : Option SwapEffect :=
  if instruction.programId = PumpFun.pumpfun then
    instruction.pumpFunAccounts?.bind fun accounts =>
      accounts.effect? PumpFun.buyExactSolInDiscriminator instruction.discriminator instruction.firstAmount
        instruction.secondAmount
  else if instruction.programId = PumpSwap.ammProgram then
    instruction.pumpSwapAccounts?.bind fun accounts =>
      accounts.effect? PumpSwap.buyExactQuoteInDiscriminator instruction.discriminator
        instruction.firstAmount instruction.secondAmount
  else none

/-- The account that lamports are transferred to, and how many. -/
def transfer? : Option (Pubkey × ℕ) :=
  if instruction.programId = systemProgram ∧ instruction.data.take 4 = leBytes 2 4 then
    (instruction.account? 1).map fun account => (account, ofLeBytes ((instruction.data.drop 4).take 8))
  else none

end Instruction

/-! ## Lists of instructions -/

/-- The swaps of a transaction. -/
def swaps (instructions : List Instruction) : List SwapEffect := instructions.filterMap Instruction.swap?

/-- The transfers of lamports. -/
def transfers (instructions : List Instruction) : List (Pubkey × ℕ) :=
  instructions.filterMap Instruction.transfer?

/-- The accounts that are created. -/
def opened (instructions : List Instruction) : List Pubkey := instructions.filterMap Instruction.opens

/-- The accounts of a token program that are closed. -/
def closed (tokenProgramId : Pubkey) (instructions : List Instruction) : List Pubkey :=
  instructions.filterMap (Instruction.closes tokenProgramId)

section Append

variable (is js : List Instruction) (tokenProgramId : Pubkey)

@[simp] theorem swaps_append : swaps (is ++ js) = swaps is ++ swaps js := List.filterMap_append

@[simp] theorem transfers_append : transfers (is ++ js) = transfers is ++ transfers js :=
  List.filterMap_append

@[simp] theorem opened_append : opened (is ++ js) = opened is ++ opened js := List.filterMap_append

@[simp] theorem closed_append :
    closed tokenProgramId (is ++ js) = closed tokenProgramId is ++ closed tokenProgramId js :=
  List.filterMap_append

@[simp] theorem swaps_nil : swaps [] = [] := rfl

@[simp] theorem transfers_nil : transfers [] = [] := rfl

@[simp] theorem opened_nil : opened [] = [] := rfl

@[simp] theorem closed_nil : closed tokenProgramId [] = [] := rfl

end Append

/-! ## Swap instructions -/

section Data

variable {program : Pubkey} {accounts : List AccountMeta} {discriminator : List UInt8} {first second : UInt64}

theorem discriminator_swapData (h : discriminator.length = 8) :
    Instruction.discriminator ⟨program, accounts, swapData discriminator first second⟩ = discriminator := by
  simp [Instruction.discriminator, swapData, h]

theorem firstAmount_swapData (h : discriminator.length = 8) :
    Instruction.firstAmount ⟨program, accounts, swapData discriminator first second⟩ = first.toNat := by
  have hdrop : (swapData discriminator first second).drop 8 =
      leBytes first.toNat 8 ++ leBytes second.toNat 8 := by
    rw [swapData, List.append_assoc, List.drop_left' h]
  show ofLeBytes (((swapData discriminator first second).drop 8).take 8) = _
  rw [hdrop, List.take_left' (length_leBytes _ _), ofLeBytes_u64]

theorem secondAmount_swapData (h : discriminator.length = 8) :
    Instruction.secondAmount ⟨program, accounts, swapData discriminator first second⟩ = second.toNat := by
  have hdrop : (swapData discriminator first second).drop 16 = leBytes second.toNat 8 := by
    rw [swapData, List.drop_left' (by simp [h])]
  show ofLeBytes (((swapData discriminator first second).drop 16).take 8) = _
  rw [hdrop, List.take_of_length_le (by simp), ofLeBytes_u64]

theorem swap?_pumpFun {read : SwapAccounts} (h : discriminator.length = 8)
    (hread : Instruction.pumpFunAccounts? ⟨PumpFun.pumpfun, accounts, swapData discriminator first second⟩ =
      some read) :
    Instruction.swap? ⟨PumpFun.pumpfun, accounts, swapData discriminator first second⟩ =
      read.effect? PumpFun.buyExactSolInDiscriminator discriminator first.toNat second.toNat := by
  rw [Instruction.swap?, if_pos rfl, hread, Option.bind_some, discriminator_swapData h,
    firstAmount_swapData h, secondAmount_swapData h]

theorem swap?_pumpSwap {read : SwapAccounts} (h : discriminator.length = 8)
    (hread : Instruction.pumpSwapAccounts? ⟨PumpSwap.ammProgram, accounts, swapData discriminator first second⟩ =
      some read) :
    Instruction.swap? ⟨PumpSwap.ammProgram, accounts, swapData discriminator first second⟩ =
      read.effect? PumpSwap.buyExactQuoteInDiscriminator discriminator first.toNat second.toNat := by
  rw [Instruction.swap?, if_neg (show ¬ PumpSwap.ammProgram = PumpFun.pumpfun by decide), if_pos rfl, hread,
    Option.bind_some, discriminator_swapData h, firstAmount_swapData h, secondAmount_swapData h]

end Data

/-! ## The other instructions -/

section Short

variable {instruction : Instruction}

theorem swap?_of_short (h : instruction.data.length < 8) : instruction.swap? = none := by
  have hdisc : instruction.discriminator.length < 8 := by
    rw [Instruction.discriminator, List.length_take]
    omega
  have heffect : ∀ (accounts : SwapAccounts) (exactDiscriminator : List UInt8), exactDiscriminator.length = 8 →
      accounts.effect? exactDiscriminator instruction.discriminator instruction.firstAmount
        instruction.secondAmount = none := by
    intro accounts exactDiscriminator hexact
    have hne : ∀ d : List UInt8, d.length = 8 → instruction.discriminator ≠ d := by
      rintro d hd rfl
      omega
    rw [SwapAccounts.effect?, if_neg (hne _ hexact), if_neg (hne _ rfl), if_neg (hne _ rfl)]
  unfold Instruction.swap?
  split_ifs
  · exact Option.bind_eq_none_iff.mpr fun accounts _ => heffect accounts _ rfl
  · exact Option.bind_eq_none_iff.mpr fun accounts _ => heffect accounts _ rfl
  · rfl

theorem program_of_swap? {effect : SwapEffect} (h : instruction.swap? = some effect) :
    instruction.programId = PumpFun.pumpfun ∨ instruction.programId = PumpSwap.ammProgram := by
  unfold Instruction.swap? at h
  split_ifs at h with hfun hswap
  · exact Or.inl hfun
  · exact Or.inr hswap

theorem closes_of_data (h : instruction.data ≠ [9]) (tokenProgramId : Pubkey) :
    instruction.closes tokenProgramId = none := by
  simp [Instruction.closes, h]

theorem closes_of_length (h : instruction.data.length ≠ 1) (tokenProgramId : Pubkey) :
    instruction.closes tokenProgramId = none :=
  closes_of_data (fun hd => h (by rw [hd]; rfl)) tokenProgramId

/-- An instruction that swaps moves no lamports itself, and opens and closes no account. -/
theorem swap_quiet {effect : SwapEffect} (h : instruction.swap? = some effect) (tokenProgramId : Pubkey) :
    transfers [instruction] = [] ∧ opened [instruction] = [] ∧ closed tokenProgramId [instruction] = [] := by
  have hlong : ¬ instruction.data.length < 8 := fun hshort => by
    rw [swap?_of_short hshort] at h
    cases h
  have htransfer : instruction.transfer? = none := by
    rcases program_of_swap? h with hprogram | hprogram <;>
      exact if_neg fun hc => absurd (hprogram.symm.trans hc.1) (by decide)
  have hopens : instruction.opens = none := by
    rcases program_of_swap? h with hprogram | hprogram <;>
      · rw [Instruction.opens, hprogram]
        rfl
  have hcloses := closes_of_length (show instruction.data.length ≠ 1 by omega) tokenProgramId
  simp [transfers, opened, closed, htransfer, hopens, hcloses]

end Short

section Closes

variable (payer account owner mint program tokenProgramId : Pubkey) (lamports space : UInt64)

@[simp] theorem closes_createAssociatedTokenAccount :
    (createAssociatedTokenAccount payer account owner mint program).closes tokenProgramId = none :=
  closes_of_data (by simp [createAssociatedTokenAccount]) tokenProgramId

@[simp] theorem closes_transfer : (transfer payer account lamports).closes tokenProgramId = none :=
  closes_of_length (by simp [transfer]) tokenProgramId

@[simp] theorem closes_syncNative : (syncNative account).closes tokenProgramId = none :=
  closes_of_data (by simp [syncNative]) tokenProgramId

@[simp] theorem closes_createAccountWithSeed (seed : List UInt8) :
    (createAccountWithSeed payer account owner seed lamports space program).closes tokenProgramId = none := by
  refine closes_of_length ?_ tokenProgramId
  simp only [createAccountWithSeed, List.length_append, length_leBytes]
  omega

@[simp] theorem closes_initializeAccount3 :
    (initializeAccount3 program account mint owner).closes tokenProgramId = none :=
  closes_of_data (by simp [initializeAccount3]) tokenProgramId

end Closes

/-- Instructions before a swap: where they move lamports to, and the accounts that they create. -/
structure Prepares (instructions : List Instruction) (moved : List (Pubkey × ℕ)) (created : List Pubkey) :
    Prop where
  swaps : swaps instructions = []
  transfers : transfers instructions = moved
  opened : opened instructions = created
  closed : ∀ tokenProgramId, closed tokenProgramId instructions = []

theorem prepares_nil : Prepares [] [] [] := ⟨rfl, rfl, rfl, fun _ => rfl⟩

section Others

variable (payer account owner mint program destination : Pubkey) (rent lamports : UInt64)

theorem prepares_createAssociated :
    Prepares [createAssociatedTokenAccount payer account owner mint program] [] [account] where
  swaps := rfl
  transfers := rfl
  opened := rfl
  closed := fun tokenProgramId => by simp [closed]

theorem prepares_handleWsol :
    Prepares [createAssociatedTokenAccount payer account payer wsolTokenAccount tokenProgram,
      transfer payer account lamports, syncNative account] [(account, lamports.toNat)] [account] where
  swaps := rfl
  transfers := by
    have hamount : ofLeBytes (leBytes lamports.toNat 8) = lamports.toNat := ofLeBytes_u64 lamports
    show [(account, ofLeBytes ((leBytes lamports.toNat 8).take 8))] = _
    rw [List.take_of_length_le (by simp), hamount]
  opened := rfl
  closed := fun tokenProgramId => by simp [closed]

variable (D : Derivations)

theorem prepares_seedInstructions (h : program = tokenProgram ∨ program = tokenProgram2022) :
    Prepares (seedInstructions D payer account owner mint program rent) [] [account, account] where
  swaps := by rcases h with rfl | rfl <;> rfl
  transfers := by rcases h with rfl | rfl <;> rfl
  opened := by rcases h with rfl | rfl <;> rfl
  closed := fun tokenProgramId => by simp [seedInstructions, closed]

/-- Closing an account is neither a swap nor a transfer, and creates nothing. -/
theorem closeAccount_quiet (signers : List Pubkey) :
    swaps [closeAccount program account destination owner signers] = [] ∧
      transfers [closeAccount program account destination owner signers] = [] ∧
      opened [closeAccount program account destination owner signers] = [] := by
  have hswap : (closeAccount program account destination owner signers).swap? = none :=
    swap?_of_short (by simp [closeAccount])
  have htransfer : (closeAccount program account destination owner signers).transfer? = none :=
    if_neg fun h => absurd h.2 (by simp [closeAccount, leBytes])
  have hopens : (closeAccount program account destination owner signers).opens = none := by
    simp [Instruction.opens, closeAccount, leBytes]
  simp [swaps, transfers, opened, hswap, htransfer, hopens]

theorem closed_closeAccount (signers : List Pubkey) (tokenProgramId : Pubkey) :
    closed tokenProgramId [closeAccount program account destination owner signers] =
      if program = tokenProgramId then [account] else [] := by
  by_cases h : program = tokenProgramId
  · subst h
    simp [closed]
  · have hnone : (closeAccount program account destination owner signers).closes tokenProgramId = none :=
      if_neg fun hc => h hc.1
    simp [closed, hnone, h]

end Others

/-! ## Created accounts -/

variable {D : Derivations}

/-- **A created account has the address that the address function gives**, where the owner pays. -/
theorem prepares_createInstructions {rent : UInt64} {payer mint tokenProgramId : Pubkey} {useSeed : Bool}
    {instructions : List Instruction}
    (h : createInstructions D rent payer payer mint tokenProgramId useSeed = .ret instructions) :
    ∃ account created, ataAddress D payer mint tokenProgramId useSeed = .ret account ∧
      Prepares instructions [] created ∧ created ≠ [] ∧ ∀ a ∈ created, a = account := by
  unfold createInstructions at h
  unfold ataAddress
  by_cases hseed : usesSeed mint tokenProgramId useSeed
  · rw [if_pos hseed] at h ⊢
    rw [getAssociatedTokenAddressWithProgramIdUseSeed]
    unfold createUseSeed at h
    split_ifs at h
    · cases h
    · cases haddress : D.createWithSeed payer (mintSeed D mint) tokenProgramId with
      | error e =>
        rw [haddress] at h
        cases h
      | ok account =>
        rw [haddress] at h
        obtain rfl := Outcome.ret.inj h
        exact ⟨account, _, rfl, prepares_seedInstructions payer account payer mint tokenProgramId rent D
          hseed.2.2.2, by simp, by simp⟩
  · rw [if_neg hseed] at h ⊢
    obtain ⟨account, haccount, hmade⟩ := Outcome.bind_eq_ret.mp h
    obtain rfl := Outcome.ret.inj hmade
    exact ⟨account, _, haccount, prepares_createAssociated payer account payer mint tokenProgramId, by simp,
      by simp⟩

end PumpTrade
