import PumpTrade.Account.Reached
import PumpTrade.Account.Wsol
import PumpTrade.Instr.Decode
import PumpTrade.Instr.Params

/-!
# Trades of a coin

What the instructions of a buy and of a sale have to do with the user's account of the coin,
whichever program trades it.

* `BuysCoin`: one swap, which credits the account; what is created for the coin is that account;
* `SellsCoin`: one swap, which debits the account; what is closed for the coin is that account;
* `created_returns`: the optional creation of the account.
-/

namespace PumpTrade

open Base

/-- A part of a list of instructions that a flag switches on. -/
def onlyIf {α : Type} (flag : Bool) (p : Cached (List α)) : Cached (List α) :=
  if flag then p else pure []

/-- Close the account of a coin that was sold, where a flag says so. -/
def closeIf (flag : Bool) (tokenProgramId account payer : Pubkey) : List Instruction :=
  if flag then [closeAccount tokenProgramId account payer payer [payer]] else []

/-- `Result::unwrap` of an error that is a text. -/
def unwrapText {α : Type} : Except String α → Outcome α
  | .ok a => .ret a
  | .error e => .panic ("called `Result::unwrap()` on an `Err` value: \"" ++ e ++ "\"")

theorem unwrapText_eq_ret {α : Type} {x : Except String α} {a : α} : unwrapText x = .ret a ↔ x = .ok a := by
  cases x with
  | ok b => simp [unwrapText]
  | error e => simp [unwrapText]

theorem swaps_closeIf (flag : Bool) (tokenProgramId account payer : Pubkey) :
    swaps (closeIf flag tokenProgramId account payer) = [] := by
  unfold closeIf
  split_ifs
  · exact (closeAccount_quiet _ _ _ _ _).1
  · rfl

theorem closed_closeIf (flag : Bool) (tokenProgramId account payer : Pubkey) :
    closed tokenProgramId (closeIf flag tokenProgramId account payer) = if flag then [account] else [] := by
  unfold closeIf
  split_ifs
  · rw [closed_closeAccount, if_pos rfl]
  · rfl

/-- What is closed is the account, and it is closed where the flag of a sale says so. -/
theorem closes_of_flag {flag sold : Bool} (h : sold = true → flag = true) (account : Pubkey) :
    (sold = true → (if flag then [account] else []) ≠ []) ∧
      ∀ a ∈ (if flag then [account] else []), a = account := by
  refine ⟨fun hsold => by simp [h hsold], fun a ha => ?_⟩
  split_ifs at ha
  · exact List.mem_singleton.mp ha
  · cases ha

theorem onlyIf_returns {α : Type} {I : Globals → Prop} {flag : Bool} {p : Cached (List α)}
    {P : List α → Prop} (h : flag = true → p.Returns I P) (hnil : flag = false → P []) :
    (onlyIf flag p).Returns I P := by
  cases flag with
  | true => exact h rfl
  | false => exact Prog.returns_ret (hnil rfl)

/-- What a builder returns: an error where it rejects its parameters, and else instructions with
`P`. -/
def Built (rejected : Prop) (P : List Instruction → Prop) : Except Error (List Instruction) → Prop
  | .error _ => rejected
  | .ok instructions => ¬ rejected ∧ P instructions

theorem Built.mono {rejected rejected' : Prop} {P Q : List Instruction → Prop}
    {result : Except Error (List Instruction)} (h : Built rejected P result) (hrejected : rejected ↔ rejected')
    (hPQ : ∀ instructions, P instructions → Q instructions) : Built rejected' Q result := by
  cases result with
  | error e => exact hrejected.mp h
  | ok instructions => exact ⟨fun hr => h.1 (hrejected.mpr hr), hPQ instructions h.2⟩

variable (D : Derivations) (params : InstructionParams)

/-- The accounts are the payer's account of wrapped SOL. -/
def AreWsol (accounts : List Pubkey) : Prop :=
  ∀ account ∈ accounts, ataAddress D params.payer.pubkey wsolTokenAccount tokenProgram false = .ret account

/-- A buy of the coin with this mint and token program. -/
structure BuysCoin (coin : Pubkey × Pubkey) (instructions : List Instruction) (effect : SwapEffect) : Prop where
  swaps : swaps instructions = [effect]
  creditMint : effect.creditMint = coin.1
  creditAccount :
    ataAddress D params.payer.pubkey coin.1 coin.2 params.openSeedOptimize = .ret effect.creditAccount
  opened : ∃ wsol created, opened instructions = wsol ++ created ∧ AreWsol D params wsol ∧
    (params.createOutputMintAta = true → created ≠ []) ∧ ∀ account ∈ created, account = effect.creditAccount

/-- A sale of the coin with this mint and token program. -/
structure SellsCoin (coin : Pubkey × Pubkey) (instructions : List Instruction) (effect : SwapEffect) : Prop where
  swaps : swaps instructions = [effect]
  debitMint : effect.debitMint = coin.1
  debitAccount :
    ataAddress D params.payer.pubkey coin.1 coin.2 params.openSeedOptimize = .ret effect.debitAccount
  closed : ∃ wsol closes, closed coin.2 instructions = wsol ++ closes ∧ AreWsol D params wsol ∧
    (params.closeInputMintAta = true → closes ≠ []) ∧ ∀ account ∈ closes, account = effect.debitAccount

variable {D}

theorem userAccount_returns (walletAddress mint program : Pubkey) (useSeed : Bool) :
    (getAssociatedTokenAddressWithProgramIdFastUseSeed D walletAddress mint program useSeed).Returns
      (Coherent D) fun account => ataAddress D walletAddress mint program useSeed = .ret account :=
  (gives_ata walletAddress mint program useSeed).returns

/-- **What is created for a coin** is the account that the address function gives. -/
theorem created_returns (flag : Bool) (payer mint program : Pubkey) (useSeed : Bool) :
    (onlyIf flag (createAssociatedTokenAccountIdempotentFastUseSeed D payer payer mint program useSeed)).Returns
      (Coherent D) fun instructions => ∃ created, Prepares instructions [] created ∧
        (flag = true → created ≠ []) ∧
          ∀ account ∈ created, ataAddress D payer mint program useSeed = .ret account := by
  refine onlyIf_returns (fun _ => ?_) fun hflag => ⟨[], prepares_nil, by simp [hflag], by simp⟩
  refine Prog.Keeps.mono (keeps_create payer payer mint program useSeed) ?_
  rintro o ⟨rent, rfl⟩ instructions hmade
  obtain ⟨account, created, haddress, hprepares, hne, hall⟩ := prepares_createInstructions hmade
  exact ⟨created, hprepares, fun _ => hne, fun a ha => by rw [hall a ha, haddress]⟩

variable {params} {coin : Pubkey × Pubkey} {effect : SwapEffect} {swap : Instruction}

theorem areWsol_nil : AreWsol D params [] := by simp [AreWsol]

/-! ## Wrapped SOL around a trade -/

/-- **The optional wrapping** moves its lamports to the payer's account of wrapped SOL. -/
theorem wrapped_returns (flag : Bool) (amountIn : UInt64) :
    (onlyIf flag (handleWsol D params.payer.pubkey amountIn)).Returns (Coherent D) fun instructions =>
      ∃ moved wsol, Prepares instructions moved wsol ∧ AreWsol D params wsol ∧
        (flag = true → ∃ account,
          ataAddress D params.payer.pubkey wsolTokenAccount tokenProgram false = .ret account ∧
            moved = [(account, amountIn.toNat)]) := by
  refine onlyIf_returns (fun _ => ?_) fun hflag => ⟨[], [], prepares_nil, areWsol_nil, by simp [hflag]⟩
  refine (handleWsol_returns params.payer.pubkey amountIn).mono ?_
  rintro instructions ⟨account, haccount, rfl⟩
  refine ⟨_, _, prepares_handleWsol params.payer.pubkey account amountIn, ?_, fun _ => ⟨account, haccount, rfl⟩⟩
  simpa [AreWsol] using haccount

theorem createdWsol_returns (flag : Bool) :
    (onlyIf flag (createWsolAta D params.payer.pubkey)).Returns (Coherent D) fun instructions =>
      ∃ wsol, Prepares instructions [] wsol := by
  refine onlyIf_returns (fun _ => ?_) fun _ => ⟨[], prepares_nil⟩
  refine (createWsolAta_returns params.payer.pubkey).mono ?_
  rintro instructions ⟨account, -, rfl⟩
  exact ⟨_, prepares_createAssociated _ account _ _ _⟩

theorem closedWsol_returns (flag : Bool) :
    (onlyIf flag (closeWsol D params.payer.pubkey)).Returns (Coherent D) fun instructions =>
      swaps instructions = [] ∧ transfers instructions = [] ∧ opened instructions = [] ∧
        ∀ tokenProgramId, AreWsol D params (closed tokenProgramId instructions) := by
  refine onlyIf_returns (fun _ => ?_) fun _ => ⟨rfl, rfl, rfl, fun _ => areWsol_nil⟩
  refine (closeWsol_returns params.payer.pubkey).mono ?_
  rintro instructions ⟨account, haccount, rfl⟩
  obtain ⟨hswaps, htransfers, hopened⟩ := closeAccount_quiet account params.payer.pubkey tokenProgram
    params.payer.pubkey []
  refine ⟨hswaps, htransfers, hopened, fun tokenProgramId a ha => ?_⟩
  rw [closeWsolInstructions, closed_closeAccount] at ha
  split_ifs at ha
  · rw [List.mem_singleton.mp ha, haccount]
  · cases ha

/-! ## Assembling a trade -/

/-- The instructions of a buy: what goes before, the creation of the account, the swap, what comes
after. -/
theorem buysCoin_of_parts {before created after : List Instruction} {moved : List (Pubkey × ℕ)}
    {wsol accounts : List Pubkey} (hbefore : Prepares before moved wsol) (hwsol : AreWsol D params wsol)
    (hcreated : Prepares created [] accounts ∧ (params.createOutputMintAta = true → accounts ≠ []) ∧
      ∀ account ∈ accounts,
        ataAddress D params.payer.pubkey coin.1 coin.2 params.openSeedOptimize = .ret account)
    (hswap : swap.swap? = some effect) (hopened : opened [swap] = [])
    (hafter : swaps after = [] ∧ opened after = []) (hmint : effect.creditMint = coin.1)
    (haccount :
      ataAddress D params.payer.pubkey coin.1 coin.2 params.openSeedOptimize = .ret effect.creditAccount) :
    BuysCoin D params coin (before ++ (created ++ ([swap] ++ after))) effect where
  swaps := by
    have hone : PumpTrade.swaps [swap] = [effect] := by simp [PumpTrade.swaps, hswap]
    simp only [swaps_append, hbefore.swaps, hcreated.1.swaps, hone, hafter.1, List.nil_append, List.append_nil]
  creditMint := hmint
  creditAccount := haccount
  opened := by
    obtain ⟨hprepares, hcreates, hall⟩ := hcreated
    refine ⟨wsol, accounts, ?_, hwsol, hcreates, fun account ha => ?_⟩
    · simp only [opened_append, hbefore.opened, hprepares.opened, hopened, hafter.2, List.append_nil]
    · exact Outcome.ret.inj ((hall account ha).symm.trans haccount)

/-- The instructions of a sale: what goes before, the swap, what is closed after it. -/
theorem sellsCoin_of_parts {before after : List Instruction} {moved : List (Pubkey × ℕ)}
    {created wsol closes : List Pubkey} (hbefore : Prepares before moved created)
    (hswap : swap.swap? = some effect) (hquiet : PumpTrade.closed coin.2 [swap] = []) (hafter : swaps after = [])
    (hmint : effect.debitMint = coin.1)
    (haccount :
      ataAddress D params.payer.pubkey coin.1 coin.2 params.openSeedOptimize = .ret effect.debitAccount)
    (hclosed : PumpTrade.closed coin.2 after = wsol ++ closes) (hwsol : AreWsol D params wsol)
    (hcloses : (params.closeInputMintAta = true → closes ≠ []) ∧
      ∀ account ∈ closes, account = effect.debitAccount) :
    SellsCoin D params coin (before ++ ([swap] ++ after)) effect where
  swaps := by
    have hone : PumpTrade.swaps [swap] = [effect] := by simp [PumpTrade.swaps, hswap]
    simp only [swaps_append, hbefore.swaps, hone, hafter, List.nil_append, List.append_nil]
  debitMint := hmint
  debitAccount := haccount
  closed := by
    refine ⟨wsol, closes, ?_, hwsol, hcloses⟩
    simp only [closed_append, hbefore.closed, hquiet, hclosed, List.nil_append]

end PumpTrade
