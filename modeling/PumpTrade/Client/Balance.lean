import PumpTrade.Client.Named
import PumpTrade.Instr.Accounts

/-!
# Balances and closed accounts

The helpers of `trading/common/utils.rs` that ask for the balance of a coin and close its account,
and the account that a buy credits.

* `getTokenBalance`, `closeTokenAccount`: what they ask the node for, and what they return;
* `helper_gives`: both are about the account without a seed, of the Token program;
* `pumpfunTokenAccount_eq`: the account that another path of the client takes is the credited one;
* **`onlyAbout_credited_iff`**: when the helpers are about the credited account.
-/

namespace PumpTrade

open Base

/-- A request to the node. A transaction is known by its message. -/
inductive NodeRequest where
  | getTokenAccountBalance (account : Pubkey)
  | getAccount (account : Pubkey)
  | getLatestBlockhash
  | sendAndConfirmTransaction (message : MessageBody)

/-- The accounts that a request asks about or closes. -/
def NodeRequest.accounts : NodeRequest → List Pubkey
  | getTokenAccountBalance account => [account]
  | getAccount account => [account]
  | getLatestBlockhash => []
  | sendAndConfirmTransaction message => closed tokenProgram message.instructions

/-- The answers of a node; an amount is a text. -/
structure AccountNode where
  getTokenAccountBalance : Pubkey → Except Error String
  getAccount : Pubkey → Except Error Unit
  getLatestBlockhash : Except Error Hash
  sendAndConfirmTransaction : MessageBody → Except Error Unit

/-- What a call asks the node for, in this order, and what it returns. -/
structure Asked (α : Type) where
  requests : List NodeRequest
  result : Except Error α

variable (D : Derivations) (node : AccountNode)

/-- The balance of an account. -/
def askBalance (ata : Pubkey) : Asked UInt64 where
  requests := [.getTokenAccountBalance ata]
  result := do
    let balance ← node.getTokenAccountBalance ata
    match parseU64 balance with
    | some balance => .ok balance
    | none => .error (.other "Failed to parse token balance")

/-- The balance of the account of the Token program. -/
def getTokenBalance (payer mint : Pubkey) : Cached (Asked UInt64) := do
  let ata ← getAssociatedTokenAddressWithProgramIdFast D payer mint tokenProgram
  return askBalance node ata

/-- The message that closes an account. -/
def closeMessage (payer ata : Pubkey) (recentBlockhash : Hash) : MessageBody :=
  { payer, instructions := [closeAccount tokenProgram ata payer payer [payer]], recentBlockhash }

/-- Close an account, unless the node does not find it. -/
def askClose (payer ata : Pubkey) : Asked Unit :=
  match node.getAccount ata with
  | .error _ => ⟨[.getAccount ata], .ok ()⟩
  | .ok () =>
    match node.getLatestBlockhash with
    | .error e => ⟨[.getAccount ata, .getLatestBlockhash], .error e⟩
    | .ok recentBlockhash =>
      let message := closeMessage payer ata recentBlockhash
      ⟨[.getAccount ata, .getLatestBlockhash, .sendAndConfirmTransaction message],
        node.sendAndConfirmTransaction message⟩

/-- Close the account of the Token program. -/
def closeTokenAccount (payer : Keypair) (mint : Pubkey) : Cached (Asked Unit) := do
  let ata ← getAssociatedTokenAddressWithProgramIdFast D payer.pubkey mint tokenProgram
  return askClose node payer.pubkey ata

namespace TradingClient

variable (client : TradingClient)

/-- The balance that a payer has of a mint. -/
def getTokenBalance (_client : TradingClient) (payer mint : Pubkey) : Cached (Asked UInt64) :=
  PumpTrade.getTokenBalance D node payer mint

/-- The balance that the client's wallet has of a mint. -/
def getPayerTokenBalance (mint : Pubkey) : Cached (Asked UInt64) :=
  PumpTrade.getTokenBalance D node client.payer.pubkey mint

/-- Close the account that the client's wallet has for a mint. -/
def closeTokenAccount (mint : Pubkey) : Cached (Asked Unit) :=
  PumpTrade.closeTokenAccount D node client.payer mint

/-- `PumpTradeClient::pumpfun_token_account`. -/
def pumpfunTokenAccount (mint : Pubkey) (market : PumpFunParams) : Cached Pubkey :=
  getAssociatedTokenAddressWithProgramIdFastUseSeed D client.payer.pubkey mint market.tokenProgram
    client.useSeedOptimize

end TradingClient

/-! ## What the helpers are about -/

/-- The helpers of a client for the account of a mint. -/
inductive AccountHelper where
  | getTokenBalance | getPayerTokenBalance | closeTokenAccount
  deriving DecidableEq, Repr

/-- The requests of a helper, for the account of the client's payer. -/
def AccountHelper.requests (client : TradingClient) (mint : Pubkey) : AccountHelper → Cached (List NodeRequest)
  | getTokenBalance => Asked.requests <$> client.getTokenBalance D node client.payer.pubkey mint
  | getPayerTokenBalance => Asked.requests <$> client.getPayerTokenBalance D node mint
  | closeTokenAccount => Asked.requests <$> client.closeTokenAccount D node mint

/-- The requests of a helper once it has the address. -/
def AccountHelper.asks (payer ata : Pubkey) : AccountHelper → List NodeRequest
  | getTokenBalance => (askBalance node ata).requests
  | getPayerTokenBalance => (askBalance node ata).requests
  | closeTokenAccount => (askClose node payer ata).requests

/-- Requests that come about in any reached state of the caches ask about one account and close no
other. -/
def OnlyAbout (account : Pubkey) (p : Cached (List NodeRequest)) : Prop :=
  ∀ g, Reached D g → ∃ requests, (p.run g).1 = .ret requests ∧
    requests.flatMap NodeRequest.accounts ≠ [] ∧ ∀ a ∈ requests.flatMap NodeRequest.accounts, a = account

variable {D} {node}

theorem closed_closeMessage (payer ata : Pubkey) (recentBlockhash : Hash) :
    closed tokenProgram (closeMessage payer ata recentBlockhash).instructions = [ata] := by
  rw [closeMessage, closed_closeAccount, if_pos rfl]

theorem accounts_asks (payer ata : Pubkey) (helper : AccountHelper) :
    (helper.asks node payer ata).flatMap NodeRequest.accounts ≠ [] ∧
      ∀ a ∈ (helper.asks node payer ata).flatMap NodeRequest.accounts, a = ata := by
  cases helper with
  | getTokenBalance => simp [AccountHelper.asks, askBalance, NodeRequest.accounts]
  | getPayerTokenBalance => simp [AccountHelper.asks, askBalance, NodeRequest.accounts]
  | closeTokenAccount =>
    unfold AccountHelper.asks askClose
    cases node.getAccount ata with
    | error e => simp [NodeRequest.accounts]
    | ok u =>
      cases node.getLatestBlockhash with
      | error e => simp [NodeRequest.accounts]
      | ok recentBlockhash => simp [closed_closeMessage, NodeRequest.accounts]

theorem asked_gives {α : Type} {I : Globals → Prop} {p : Cached Pubkey} {o : Outcome Pubkey} (h : p.Gives I o)
    (ask : Pubkey → Asked α) :
    Prog.Gives I (Asked.requests <$> (p >>= fun ata => return ask ata))
      (o >>= fun ata => .ret (ask ata).requests) := by
  have hmap := (h.bind fun ata _ => Prog.gives_ret (ask ata)).map Asked.requests
  cases o with
  | ret ata => exact hmap
  | panic msg => exact hmap

/-- **The address of a helper** has no seed and is of the Token program, whatever was bought. -/
theorem helper_gives (client : TradingClient) (mint : Pubkey) (helper : AccountHelper) :
    (helper.requests D node client mint).Gives (Coherent D)
      (ataAddress D client.payer.pubkey mint tokenProgram false >>= fun ata =>
        .ret (helper.asks node client.payer.pubkey ata)) := by
  have hata := gives_ata (D := D) client.payer.pubkey mint tokenProgram false
  cases helper with
  | getTokenBalance => exact asked_gives hata (askBalance node)
  | getPayerTokenBalance => exact asked_gives hata (askBalance node)
  | closeTokenAccount => exact asked_gives hata (askClose node client.payer.pubkey)

/-- A helper is about an account just where that account is the one without a seed. -/
theorem onlyAbout_helper_iff (client : TradingClient) (mint account : Pubkey) (helper : AccountHelper) :
    OnlyAbout D account (helper.requests D node client mint) ↔
      ataAddress D client.payer.pubkey mint tokenProgram false = .ret account := by
  have hrun : ∀ g, Reached D g → ((helper.requests D node client mint).run g).1 =
      (ataAddress D client.payer.pubkey mint tokenProgram false >>= fun ata =>
        .ret (helper.asks node client.payer.pubkey ata)) :=
    fun g hg => ((helper_gives client mint helper).run hg.coherent).1
  constructor
  · intro h
    obtain ⟨requests, hrequests, hne, hall⟩ := h .initial (reached_initial D)
    rw [hrun _ (reached_initial D)] at hrequests
    obtain ⟨ata, hata, hasks⟩ := Outcome.bind_eq_ret.mp hrequests
    obtain rfl := Outcome.ret.inj hasks
    obtain ⟨a, ha⟩ := List.exists_mem_of_ne_nil _ hne
    have heq : a = ata := (accounts_asks client.payer.pubkey ata helper).2 a ha
    rw [hata, ← heq, hall a ha]
  · intro hata g hg
    obtain ⟨hne, hall⟩ := accounts_asks client.payer.pubkey account helper
    refine ⟨helper.asks node client.payer.pubkey account, ?_, hne, hall⟩
    rw [hrun g hg, hata]
    rfl

/-! ## Against the trades -/

variable {checks : Bool} {solStrToLamports : String → Option UInt64} {client : TradingClient} {g g' : Globals}
  {params : TradeBuyParams} {instructions : List Instruction}

/-- An account of the Token program has no seed where seeds are off, or for wrapped SOL and SOL. -/
theorem not_usesSeed_tokenProgram (mint : Pubkey) (useSeed : Bool) :
    ¬ usesSeed mint tokenProgram useSeed ↔
      useSeed = false ∨ mint = wsolTokenAccount ∨ mint = solTokenAccount := by
  cases useSeed with
  | false => simp [usesSeed]
  | true => simp [usesSeed, or_iff_not_imp_left]

theorem buysCoin_of_run (hg : Reached D g)
    (h : ((client.buyInstructions D checks solStrToLamports params).run g).1 = .ret (.ok instructions)) :
    ∃ effect, BuysCoin D (client.buyInstructionParams params) (params.extensionParams.coin params.mint)
      instructions effect := by
  have hbuilt := (buyInstructions_returns D checks solStrToLamports client params).run hg.coherent h
  obtain ⟨-, effect, hbuys, -⟩ := hbuilt
  exact ⟨effect, hbuys⟩

/-- **The other path of the client** takes the account that a buy on the curve credits. -/
theorem pumpfunTokenAccount_eq {curve : PumpFunParams} (hg : Reached D g) (hg' : Reached D g')
    (hparams : params.extensionParams = .pumpFun curve)
    (h : ((client.buyInstructions D checks solStrToLamports params).run g).1 = .ret (.ok instructions)) :
    ∃ effect, swaps instructions = [effect] ∧
      ((client.pumpfunTokenAccount D params.mint curve).run g').1 = .ret effect.creditAccount := by
  obtain ⟨effect, hbuys⟩ := buysCoin_of_run hg h
  rw [hparams] at hbuys
  exact ⟨effect, hbuys.swaps, (address_run hg' _ _ _ _).trans hbuys.creditAccount⟩

/-- **When the helpers are about the account that a buy credits.** -/
theorem onlyAbout_credited_iff (hg : Reached D g)
    (hseparates : Separates D client.payer.pubkey (params.extensionParams.coin params.mint).1
      (params.extensionParams.coin params.mint).2 client.useSeedOptimize
      (params.extensionParams.coin params.mint).1 tokenProgram false)
    (h : ((client.buyInstructions D checks solStrToLamports params).run g).1 = .ret (.ok instructions)) :
    ∃ effect, swaps instructions = [effect] ∧ effect.creditMint = (params.extensionParams.coin params.mint).1 ∧
      ∀ node helper, OnlyAbout D effect.creditAccount
          (AccountHelper.requests D node client effect.creditMint helper) ↔
        (params.extensionParams.coin params.mint).2 = tokenProgram ∧ (client.useSeedOptimize = false ∨
          effect.creditMint = wsolTokenAccount ∨ effect.creditMint = solTokenAccount) := by
  obtain ⟨effect, hbuys⟩ := buysCoin_of_run hg h
  refine ⟨effect, hbuys.swaps, hbuys.creditMint, fun node helper => ?_⟩
  rw [onlyAbout_helper_iff, hbuys.creditMint]
  have hcredit : ataAddress D client.payer.pubkey (params.extensionParams.coin params.mint).1
      (params.extensionParams.coin params.mint).2 client.useSeedOptimize = .ret effect.creditAccount :=
    hbuys.creditAccount
  rw [hseparates.ret_iff hcredit]
  simp only [true_and]
  refine and_congr_right fun hprogram => ?_
  rw [iff_false_right (not_usesSeed_false _ _), hprogram, not_usesSeed_tokenProgram]

/-- With seeds, the balance asked for is that of another account; and where that account does not
exist, closing reports success without a transaction. -/
theorem helpers_miss_credited : ∃ instructions effect ata,
    (((sampleClient true).buyInstructions sampleDerivations true (fun _ => some 10000000)
      (sampleBuyParams .sol PumpFun.sampleCurve)).run (.withRents 2039280)).1 = .ret (.ok instructions) ∧
    swaps instructions = [effect] ∧ effect.creditMint = ⟨5⟩ ∧ ata ≠ effect.creditAccount ∧ ∀ node,
      (((sampleClient true).getPayerTokenBalance sampleDerivations node ⟨5⟩).run .initial).1 =
        .ret (askBalance node ata) ∧
      ∀ e, node.getAccount ata = .error e →
        (((sampleClient true).closeTokenAccount sampleDerivations node ⟨5⟩).run .initial).1 =
          .ret ⟨[.getAccount ata], .ok ()⟩ := by
  refine ⟨_, _, _, rfl, rfl, rfl, ?_, fun node => ⟨rfl, fun e he => ?_⟩⟩
  · decide +kernel
  · show Outcome.ret (askClose node _ _) = _
    rw [askClose, he]

/-- Without seeds, the helpers are about the credited account. -/
theorem onlyAbout_credited_iff_plain : ∃ instructions effect,
    (((sampleClient false).buyInstructions sampleDerivations true (fun _ => some 10000000)
      (sampleBuyParams .sol PumpFun.sampleCurve)).run (.withRents 2039280)).1 = .ret (.ok instructions) ∧
    swaps instructions = [effect] ∧ ∀ node helper, OnlyAbout sampleDerivations effect.creditAccount
      (AccountHelper.requests sampleDerivations node (sampleClient false) effect.creditMint helper) := by
  have hbuilds : ∃ instructions, (((sampleClient false).buyInstructions sampleDerivations true
      (fun _ => some 10000000) (sampleBuyParams .sol PumpFun.sampleCurve)).run (.withRents 2039280)).1 =
        .ret (.ok instructions) := ⟨_, rfl⟩
  obtain ⟨instructions, h⟩ := hbuilds
  obtain ⟨effect, hswaps, -, hiff⟩ := onlyAbout_credited_iff (reached_withRents sampleDerivations 2039280)
    (fun _ _ _ => ⟨rfl, rfl, Iff.rfl⟩) h
  exact ⟨instructions, effect, h, hswaps, fun node helper => (hiff node helper).mpr ⟨rfl, Or.inl rfl⟩⟩

end PumpTrade
