import PumpTrade.Account.Rent
import PumpTrade.Instr.PumpFun
import PumpTrade.Instr.Spend

/-!
# One account for a coin

The account that is created for a coin, credited by its buy, and debited and closed by its sale, in
any reached states of the caches.

* `address_run`: the address function returns one address in all reached states;
* `created_run`, `create_returns`: what is created is the account at that address, and it is created
  where a rent is known;
* **`coin_account_eq`**: it is one account throughout.
-/

namespace PumpTrade

open Base

variable {D : Derivations} {checks : Bool} {solStrToLamports : String → Option UInt64} {g g' : Globals}

theorem address_run (hg : Reached D g) (owner mint tokenProgramId : Pubkey) (useSeed : Bool) :
    ((getAssociatedTokenAddressWithProgramIdFastUseSeed D owner mint tokenProgramId useSeed).run g).1 =
      ataAddress D owner mint tokenProgramId useSeed :=
  ((gives_ata owner mint tokenProgramId useSeed).run hg.coherent).1

/-- **What is created** is at the address that the address function returns. -/
theorem created_run {payer mint tokenProgramId : Pubkey} {useSeed : Bool} {instructions : List Instruction}
    (hg : Reached D g)
    (h : ((createAssociatedTokenAccountIdempotentFastUseSeed D payer payer mint tokenProgramId useSeed).run
      g).1 = .ret instructions) :
    ∃ account, ataAddress D payer mint tokenProgramId useSeed = .ret account ∧ opened instructions ≠ [] ∧
      ∀ a ∈ opened instructions, a = account := by
  obtain ⟨rent, hrent⟩ := ((keeps_create payer payer mint tokenProgramId useSeed).run hg.coherent).1
  obtain ⟨account, created, haddress, hprepares, hne, hall⟩ := prepares_createInstructions (hrent.symm.trans h)
  rw [hprepares.opened]
  exact ⟨account, haddress, hne, hall⟩

/-- **An account is created** where a rent is known and the address can be derived. -/
theorem create_returns {payer mint tokenProgramId account : Pubkey} {useSeed : Bool} (hg : Reached D g)
    (hrent : g.rent tokenProgramId ≠ noRent)
    (h : ataAddress D payer mint tokenProgramId useSeed = .ret account) :
    ∃ instructions,
      ((createAssociatedTokenAccountIdempotentFastUseSeed D payer payer mint tokenProgramId useSeed).run g).1 =
        .ret instructions := by
  have hfresh : ∃ instructions,
      createInstructions D (g.rent tokenProgramId) payer payer mint tokenProgramId useSeed =
        .ret instructions := by
    unfold ataAddress at h
    unfold createInstructions
    by_cases hseed : usesSeed mint tokenProgramId useSeed
    · rw [if_pos hseed] at h ⊢
      rw [getAssociatedTokenAddressWithProgramIdUseSeed] at h
      rw [createUseSeed, if_neg hrent]
      cases haddress : D.createWithSeed payer (mintSeed D mint) tokenProgramId with
      | error e =>
        rw [haddress] at h
        cases h
      | ok ataLike => exact ⟨_, rfl⟩
    · rw [if_neg hseed] at h ⊢
      rw [h]
      exact ⟨_, rfl⟩
  have hrun := (create_run hg.coherent ⟨payer, payer, mint, tokenProgramId, useSeed⟩).2
  split at hrun
  · exact ⟨_, hrun.1⟩
  · obtain ⟨instructions, hmade⟩ := hfresh
    exact ⟨instructions, hrun.1.trans hmade⟩

/-- A buy and a sale of a coin use the account at the address that the address function returns. -/
def OneAccount (D : Derivations) (buy sell : InstructionParams) (coin : Pubkey × Pubkey)
    (bought sold : List Instruction) : Prop :=
  ∃ account credit debit,
    (∀ g, Reached D g → ((getAssociatedTokenAddressWithProgramIdFastUseSeed D buy.payer.pubkey coin.1 coin.2
      buy.openSeedOptimize).run g).1 = .ret account) ∧
    BuysCoin D buy coin bought credit ∧ credit.creditAccount = account ∧
    SellsCoin D sell coin sold debit ∧ debit.debitAccount = account

theorem oneAccount_of_trades {buy sell : InstructionParams} {coin : Pubkey × Pubkey}
    {bought sold : List Instruction} {credit debit : SwapEffect} (hpayer : buy.payer = sell.payer)
    (hseed : buy.openSeedOptimize = sell.openSeedOptimize) (hbuys : BuysCoin D buy coin bought credit)
    (hsells : SellsCoin D sell coin sold debit) : OneAccount D buy sell coin bought sold := by
  refine ⟨credit.creditAccount, credit, debit, fun g hg => ?_, hbuys, rfl, hsells, ?_⟩
  · rw [address_run hg, hbuys.creditAccount]
  · have hdebit := hsells.debitAccount
    rw [← hpayer, ← hseed, hbuys.creditAccount] at hdebit
    exact (Outcome.ret.inj hdebit).symm

/-! ## The trades of one payer -/

section Trades

variable {buy sell : InstructionParams} {bought sold : List Instruction}

theorem PumpFun.oneAccount_of_run {curve curve' : PumpFunParams} (hg : Reached D g) (hg' : Reached D g')
    (hbuy : buy.protocolParams = .pumpFun curve) (hsell : sell.protocolParams = .pumpFun curve')
    (hpayer : buy.payer = sell.payer) (hmint : buy.outputMint = sell.inputMint)
    (hprogram : curve.tokenProgram = curve'.tokenProgram) (hseed : buy.openSeedOptimize = sell.openSeedOptimize)
    (hbought : ((PumpFun.buildBuyInstructions D checks solStrToLamports buy).run g).1 = .ret (.ok bought))
    (hsold : ((PumpFun.buildSellInstructions D checks sell).run g').1 = .ret (.ok sold)) :
    OneAccount D buy sell (buy.outputMint, curve.tokenProgram) bought sold := by
  obtain ⟨-, c, credit, hbuys⟩ := PumpFun.buy_returns.run hg.coherent hbought
  obtain ⟨-, c', debit, hsells⟩ := PumpFun.sell_returns.run hg'.coherent hsold
  obtain rfl : c = curve := by simpa [hbuy] using hbuys.params_eq.symm
  obtain rfl : c' = curve' := by simpa [hsell] using hsells.params_eq.symm
  have hcoin := hsells.coin
  rw [← hmint, ← hprogram] at hcoin
  exact oneAccount_of_trades hpayer hseed hbuys.coin hcoin

theorem PumpSwap.oneAccount_of_run {pool pool' : PumpSwapParams} (hg : Reached D g) (hg' : Reached D g')
    (hbuy : buy.protocolParams = .pumpSwap pool) (hsell : sell.protocolParams = .pumpSwap pool')
    (hpayer : buy.payer = sell.payer) (hcoins : pool.coin = pool'.coin)
    (hseed : buy.openSeedOptimize = sell.openSeedOptimize)
    (hbought : ((PumpSwap.buildBuyInstructions D checks buy).run g).1 = .ret (.ok bought))
    (hsold : ((PumpSwap.buildSellInstructions D checks sell).run g').1 = .ret (.ok sold)) :
    OneAccount D buy sell pool.coin bought sold := by
  obtain ⟨credit, hbuys⟩ := PumpSwap.buys_of_run hg hbuy hbought
  obtain ⟨debit, hsells⟩ := PumpSwap.sells_of_run hg' hsell hsold
  have hcoin := hsells.coin
  rw [← hcoins] at hcoin
  exact oneAccount_of_trades hpayer hseed hbuys.coin hcoin

end Trades

/-- **It is one account.** What is created is at the address that the address function returns,
whatever was cached before; and the account that a buy creates and credits is the one that a sale
debits and closes. -/
theorem coin_account_eq (D : Derivations) (checks : Bool) (solStrToLamports : String → Option UInt64) :
    (∀ payer mint tokenProgramId useSeed g, Reached D g →
      (∀ instructions, ((createAssociatedTokenAccountIdempotentFastUseSeed D payer payer mint tokenProgramId
          useSeed).run g).1 = .ret instructions →
        ∃ account, (∀ g', Reached D g' → ((getAssociatedTokenAddressWithProgramIdFastUseSeed D payer mint
            tokenProgramId useSeed).run g').1 = .ret account) ∧
          opened instructions ≠ [] ∧ ∀ a ∈ opened instructions, a = account) ∧
      ∀ g' account, Reached D g' → g.rent tokenProgramId ≠ noRent →
        ((getAssociatedTokenAddressWithProgramIdFastUseSeed D payer mint tokenProgramId useSeed).run g').1 =
          .ret account →
        ∃ instructions, ((createAssociatedTokenAccountIdempotentFastUseSeed D payer payer mint tokenProgramId
          useSeed).run g).1 = .ret instructions) ∧
    (∀ g g' buy sell curve curve' bought sold, Reached D g → Reached D g' →
      buy.protocolParams = .pumpFun curve → sell.protocolParams = .pumpFun curve' →
      buy.payer = sell.payer → buy.outputMint = sell.inputMint → curve.tokenProgram = curve'.tokenProgram →
      buy.openSeedOptimize = sell.openSeedOptimize →
      ((PumpFun.buildBuyInstructions D checks solStrToLamports buy).run g).1 = .ret (.ok bought) →
      ((PumpFun.buildSellInstructions D checks sell).run g').1 = .ret (.ok sold) →
      OneAccount D buy sell (buy.outputMint, curve.tokenProgram) bought sold) ∧
    ∀ g g' buy sell pool pool' bought sold, Reached D g → Reached D g' →
      buy.protocolParams = .pumpSwap pool → sell.protocolParams = .pumpSwap pool' →
      buy.payer = sell.payer → pool.coin = pool'.coin → buy.openSeedOptimize = sell.openSeedOptimize →
      ((PumpSwap.buildBuyInstructions D checks buy).run g).1 = .ret (.ok bought) →
      ((PumpSwap.buildSellInstructions D checks sell).run g').1 = .ret (.ok sold) →
      OneAccount D buy sell pool.coin bought sold := by
  refine ⟨fun payer mint tokenProgramId useSeed g hg => ⟨fun instructions h => ?_, ?_⟩, ?_, ?_⟩
  · obtain ⟨account, haddress, hne, hall⟩ := created_run hg h
    exact ⟨account, fun g' hg' => by rw [address_run hg', haddress], hne, hall⟩
  · intro g' account hg' hrent h
    rw [address_run hg'] at h
    exact create_returns hg hrent h
  · intro g g' buy sell curve curve' bought sold hg hg' hbuy hsell hpayer hmint hprogram hseed hbought hsold
    exact PumpFun.oneAccount_of_run hg hg' hbuy hsell hpayer hmint hprogram hseed hbought hsold
  · intro g g' buy sell pool pool' bought sold hg hg' hbuy hsell hpayer hcoins hseed hbought hsold
    exact PumpSwap.oneAccount_of_run hg hg' hbuy hsell hpayer hcoins hseed hbought hsold

/-- A buy and a sale of a coin for wrapped SOL, which are built from the state after an update of
the rents. -/
theorem coin_account_eq_wsol : ∃ bought sold,
    ((PumpSwap.buildBuyInstructions sampleDerivations true
      (PumpSwap.sampleTrade ⟨5⟩ wsolTokenAccount)).run (.withRents 2039280)).1 = .ret (.ok bought) ∧
    ((PumpSwap.buildSellInstructions sampleDerivations true
      (PumpSwap.sampleTrade ⟨5⟩ wsolTokenAccount)).run (.withRents 2039280)).1 = .ret (.ok sold) ∧
    OneAccount sampleDerivations (PumpSwap.sampleTrade ⟨5⟩ wsolTokenAccount)
      (PumpSwap.sampleTrade ⟨5⟩ wsolTokenAccount) (⟨5⟩, tokenProgram) bought sold := by
  have hreached := reached_withRents sampleDerivations 2039280
  have hbuilds : ∃ bought, ((PumpSwap.buildBuyInstructions sampleDerivations true
      (PumpSwap.sampleTrade ⟨5⟩ wsolTokenAccount)).run (.withRents 2039280)).1 = .ret (.ok bought) := ⟨_, rfl⟩
  have hsale : ∃ sold, ((PumpSwap.buildSellInstructions sampleDerivations true
      (PumpSwap.sampleTrade ⟨5⟩ wsolTokenAccount)).run (.withRents 2039280)).1 = .ret (.ok sold) := ⟨_, rfl⟩
  obtain ⟨bought, hbought⟩ := hbuilds
  obtain ⟨sold, hsold⟩ := hsale
  refine ⟨bought, sold, hbought, hsold, ?_⟩
  have hpool : (PumpSwap.sampleTrade ⟨5⟩ wsolTokenAccount).protocolParams = .pumpSwap _ := rfl
  have hone := (coin_account_eq sampleDerivations true fun _ => none).2.2 _ _ _ _ _ _ _ _ hreached hreached
    hpool hpool rfl rfl rfl hbought hsold
  exact hone

end PumpTrade
