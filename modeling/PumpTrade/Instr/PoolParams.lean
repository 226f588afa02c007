import PumpTrade.Chain.Pool
import PumpTrade.Instr.Params

/-!
# Parameters of a pool on the chain

`PumpSwapParams::from_pool_address_by_rpc` of `trading/core/params.rs`, with the functions of
`instruction/utils/pumpswap.rs` that it calls.

* `fetchPool`, `getTokenBalances`: what is read from the node;
* `coinCreatorVaultAuthority`, `coinCreatorVaultAta`: the accounts of the coin's creator;
* `PumpSwapParams.fromPoolAddressByRpc`, with **`fromPoolAddressByRpc_spec`**.
-/

namespace PumpTrade

open Base

/-- An account on the chain. -/
structure ChainAccount where
  owner : Pubkey
  data : List UInt8
  deriving DecidableEq, Repr

/-- The answers of a node about pools; an amount is a text. -/
structure PoolNode where
  getAccount : Pubkey → Except Error ChainAccount
  getTokenAccountBalance : Pubkey → Except Error String

namespace PumpSwap

variable (D : Derivations) (node : PoolNode)

/-- The account has to be the AMM's; data shorter than its discriminator panics. -/
def fetchPool (poolAddress : Pubkey) : Outcome (Except Error Pool) :=
  match node.getAccount poolAddress with
  | .error e => .ret (.error e)
  | .ok account =>
    if account.owner ≠ ammProgram then .ret (.error (.other "Account is not owned by PumpSwap program"))
    else if account.data.length < 8 then
      .panic ("range start index 8 out of range for slice of length " ++ toString account.data.length)
    else
      match poolDecode (account.data.drop 8) with
      | none => .ret (.error (.other "Failed to decode pool"))
      | some pool => .ret (.ok pool)

/-- `str::parse::<u64>` with its error. -/
def parseAmount (text : String) : Except Error UInt64 :=
  match parseU64 text with
  | some amount => .ok amount
  | none => .error (.other (parseU64Error text))

/-- The balances of both accounts of the pool. -/
def getTokenBalances (pool : Pool) : Except Error (UInt64 × UInt64) := do
  let baseBalance ← node.getTokenAccountBalance pool.poolBaseTokenAccount
  let quoteBalance ← node.getTokenAccountBalance pool.poolQuoteTokenAccount
  let baseAmount ← parseAmount baseBalance
  let quoteAmount ← parseAmount quoteBalance
  return (baseAmount, quoteAmount)

/-- The seed of the vault of a coin's creator. -/
def coinCreatorVaultSeed : List UInt8 := ascii "creator_vault"

/-- The owner of the vault of a coin's creator. -/
def coinCreatorVaultAuthority (coinCreator : Pubkey) : Outcome Pubkey :=
  findProgramAddress D [coinCreatorVaultSeed, coinCreator.toBytes] ammProgram

/-- The account of the quote that the creator's fee goes to. -/
def coinCreatorVaultAta (coinCreator quoteMint : Pubkey) : Outcome Pubkey := do
  let creatorVaultAuthority ← coinCreatorVaultAuthority D coinCreator
  getAssociatedTokenAddressWithProgramId D creatorVaultAuthority quoteMint tokenProgram

/-- The program of a side of the pool: Token where its account is the associated account for
Token. -/
def programOf (poolTokenAccount tokenProgramAta : Pubkey) : Pubkey :=
  if poolTokenAccount = tokenProgramAta then tokenProgram else tokenProgram2022

end PumpSwap

open PumpSwap

variable (D : Derivations) (node : PoolNode)

/-- The parameters for a decoded pool and its balances. -/
def PumpSwapParams.ofPool (poolAddress : Pubkey) (poolData : Pool) (reserves : UInt64 × UInt64) :
    Outcome PumpSwapParams := do
  let vaultAta ← PumpSwap.coinCreatorVaultAta D poolData.coinCreator poolData.quoteMint
  let vaultAuthority ← PumpSwap.coinCreatorVaultAuthority D poolData.coinCreator
  let baseTokenProgramAta ← getAssociatedTokenAddressWithProgramId D poolAddress poolData.baseMint tokenProgram
  let quoteTokenProgramAta ← getAssociatedTokenAddressWithProgramId D poolAddress poolData.quoteMint tokenProgram
  return {
    pool := poolAddress
    baseMint := poolData.baseMint
    quoteMint := poolData.quoteMint
    poolBaseTokenAccount := poolData.poolBaseTokenAccount
    poolQuoteTokenAccount := poolData.poolQuoteTokenAccount
    poolBaseTokenReserves := reserves.1
    poolQuoteTokenReserves := reserves.2
    coinCreatorVaultAta := vaultAta
    coinCreatorVaultAuthority := vaultAuthority
    baseTokenProgram := programOf poolData.poolBaseTokenAccount baseTokenProgramAta
    quoteTokenProgram := programOf poolData.poolQuoteTokenAccount quoteTokenProgramAta
    isMayhemMode := poolData.isMayhemMode
    isCashbackCoin := poolData.isCashbackCoin }

/-- The parameters of the pool at an address, as the node shows it. -/
def PumpSwapParams.fromPoolAddressByRpc (poolAddress : Pubkey) : Outcome (Except Error PumpSwapParams) := do
  match ← fetchPool node poolAddress with
  | .error e => .ret (.error e)
  | .ok poolData =>
    match getTokenBalances node poolData with
    | .error e => .ret (.error e)
    | .ok reserves => .ok <$> PumpSwapParams.ofPool D poolAddress poolData reserves

/-- Parameters that were built from a pool. -/
structure PumpSwapParams.FromPool (pool : PumpSwapParams) : Prop where
  vault : getAssociatedTokenAddressWithProgramId D pool.coinCreatorVaultAuthority pool.quoteMint tokenProgram =
    .ret pool.coinCreatorVaultAta
  base : ∃ ata, getAssociatedTokenAddressWithProgramId D pool.pool pool.baseMint tokenProgram = .ret ata ∧
    pool.baseTokenProgram = programOf pool.poolBaseTokenAccount ata
  quote : ∃ ata, getAssociatedTokenAddressWithProgramId D pool.pool pool.quoteMint tokenProgram = .ret ata ∧
    pool.quoteTokenProgram = programOf pool.poolQuoteTokenAccount ata

variable {D} {node} {poolAddress : Pubkey} {pool : PumpSwapParams}

/-- **What is built from a pool on the chain.** -/
theorem fromPoolAddressByRpc_spec (h : PumpSwapParams.fromPoolAddressByRpc D node poolAddress = .ret (.ok pool)) :
    pool.FromPool D := by
  obtain ⟨fetched, -, h⟩ := Outcome.bind_eq_ret.mp h
  cases fetched with
  | error e => cases h
  | ok poolData =>
    simp only at h
    split at h
    · cases h
    · obtain ⟨built, hbuilt, hpool⟩ := Outcome.map_eq_ret.mp h
      obtain rfl := Except.ok.inj hpool
      obtain ⟨vaultAta, hvault, h⟩ := Outcome.bind_eq_ret.mp hbuilt
      obtain ⟨vaultAuthority, hauthority, h⟩ := Outcome.bind_eq_ret.mp h
      obtain ⟨baseAta, hbase, h⟩ := Outcome.bind_eq_ret.mp h
      obtain ⟨quoteAta, hquote, h⟩ := Outcome.bind_eq_ret.mp h
      obtain rfl := Outcome.ret.inj h
      rw [PumpSwap.coinCreatorVaultAta, hauthority] at hvault
      exact ⟨hvault, ⟨baseAta, hbase, rfl⟩, ⟨quoteAta, hquote, rfl⟩⟩

namespace PumpSwapParams.FromPool

theorem programs (h : pool.FromPool D) :
    (pool.baseTokenProgram = tokenProgram ∨ pool.baseTokenProgram = tokenProgram2022) ∧
      (pool.quoteTokenProgram = tokenProgram ∨ pool.quoteTokenProgram = tokenProgram2022) := by
  have hprogram : ∀ account ata : Pubkey,
      programOf account ata = tokenProgram ∨ programOf account ata = tokenProgram2022 := by
    intro account ata
    unfold programOf
    split_ifs
    · exact Or.inl rfl
    · exact Or.inr rfl
  obtain ⟨baseAta, -, hbase⟩ := h.base
  obtain ⟨quoteAta, -, hquote⟩ := h.quote
  rw [hbase, hquote]
  exact ⟨hprogram _ _, hprogram _ _⟩

/-- **The quote is of the Token program** exactly where the pool's account for it is the associated
one. -/
theorem quoteTokenProgram_iff (h : pool.FromPool D) : pool.quoteTokenProgram = tokenProgram ↔
    getAssociatedTokenAddressWithProgramId D pool.pool pool.quoteMint tokenProgram =
      .ret pool.poolQuoteTokenAccount := by
  obtain ⟨ata, hata, hprogram⟩ := h.quote
  rw [hprogram, hata, programOf, Outcome.ret.injEq]
  by_cases haccount : pool.poolQuoteTokenAccount = ata
  · rw [if_pos haccount]
    exact iff_of_true rfl haccount.symm
  · rw [if_neg haccount]
    exact iff_of_false (by decide) fun heq => haccount heq.symm

end PumpSwapParams.FromPool

end PumpTrade
