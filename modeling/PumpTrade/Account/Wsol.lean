import PumpTrade.Account.Coherent

/-!
# Wrapped SOL

`handle_wsol`, `close_wsol` and `create_wsol_ata` of `trading/common/wsol_manager.rs`. All three use
the associated account of the payer, never one with a seed.

* `handleWsol_returns`, `closeWsol_returns`, `createWsolAta_returns`: their instructions, in every
  coherent state.
-/

namespace PumpTrade

open Base

variable (D : Derivations)

/-- Create the account, move lamports into it and bring its amount up to them. -/
def handleWsol (payer : Pubkey) (amountIn : UInt64) : Cached (List Instruction) := do
  let wsolAccount ← getAssociatedTokenAddressWithProgramIdFast D payer wsolTokenAccount tokenProgram
  let created ← createAssociatedTokenAccountIdempotentFast D payer payer wsolTokenAccount tokenProgram
  return created ++ [transfer payer wsolAccount amountIn, syncNative wsolAccount]

/-- Close the payer's account of wrapped SOL. -/
def closeWsol (payer : Pubkey) : Cached (List Instruction) := do
  let wsolAccount ← getAssociatedTokenAddressWithProgramIdFast D payer wsolTokenAccount tokenProgram
  getCachedCloseWsol payer wsolAccount

/-- Create the payer's account of wrapped SOL. -/
def createWsolAta (payer : Pubkey) : Cached (List Instruction) :=
  createAssociatedTokenAccountIdempotentFast D payer payer wsolTokenAccount tokenProgram

variable {D}

/-- An account created without a seed is the associated account of its owner. -/
theorem createIdempotentFast_returns (payer owner mint tokenProgramId : Pubkey) :
    (createAssociatedTokenAccountIdempotentFast D payer owner mint tokenProgramId).Returns (Coherent D)
      fun created => ∃ account, getAssociatedTokenAddressWithProgramId D owner mint tokenProgramId = .ret account ∧
        created = [createAssociatedTokenAccount payer account owner mint tokenProgramId] := by
  refine Prog.Keeps.mono (keeps_create payer owner mint tokenProgramId false) ?_
  rintro o ⟨rent, rfl⟩ created hcreated
  rw [createInstructions, if_neg (not_usesSeed_false _ _), Outcome.bind_eq_ret] at hcreated
  obtain ⟨account, haccount, hmade⟩ := hcreated
  exact ⟨account, haccount, (Outcome.ret.inj hmade).symm⟩

theorem wsolAccount_returns (payer : Pubkey) :
    (getAssociatedTokenAddressWithProgramIdFast D payer wsolTokenAccount tokenProgram).Returns (Coherent D)
      fun account => ataAddress D payer wsolTokenAccount tokenProgram false = .ret account :=
  (gives_ata payer wsolTokenAccount tokenProgram false).returns

theorem handleWsol_returns (payer : Pubkey) (amountIn : UInt64) :
    (handleWsol D payer amountIn).Returns (Coherent D) fun instructions => ∃ wsolAccount,
      ataAddress D payer wsolTokenAccount tokenProgram false = .ret wsolAccount ∧
      instructions =
        [createAssociatedTokenAccount payer wsolAccount payer wsolTokenAccount tokenProgram,
          transfer payer wsolAccount amountIn, syncNative wsolAccount] := by
  refine (wsolAccount_returns payer).bind fun wsolAccount haddress => ?_
  refine (createIdempotentFast_returns payer payer wsolTokenAccount tokenProgram).bind ?_
  rintro created ⟨account, haccount, rfl⟩
  rw [ataAddress_false] at haddress
  obtain rfl := Outcome.ret.inj (haccount.symm.trans haddress)
  exact Prog.returns_ret ⟨account, by rw [ataAddress_false, haddress], rfl⟩

theorem closeWsol_returns (payer : Pubkey) :
    (closeWsol D payer).Returns (Coherent D) fun instructions => ∃ wsolAccount,
      ataAddress D payer wsolTokenAccount tokenProgram false = .ret wsolAccount ∧
      instructions = closeWsolInstructions payer wsolAccount := by
  refine (wsolAccount_returns payer).bind fun wsolAccount haddress => ?_
  refine (gives_closeWsol payer wsolAccount).returns.mono fun instructions hclose => ?_
  exact ⟨wsolAccount, haddress, (Outcome.ret.inj hclose).symm⟩

theorem createWsolAta_returns (payer : Pubkey) :
    (createWsolAta D payer).Returns (Coherent D) fun instructions => ∃ wsolAccount,
      ataAddress D payer wsolTokenAccount tokenProgram false = .ret wsolAccount ∧
      instructions = [createAssociatedTokenAccount payer wsolAccount payer wsolTokenAccount tokenProgram] := by
  refine (createIdempotentFast_returns payer payer wsolTokenAccount tokenProgram).mono ?_
  rintro created ⟨account, haccount, rfl⟩
  exact ⟨account, by rw [ataAddress_false, haccount], rfl⟩

end PumpTrade
