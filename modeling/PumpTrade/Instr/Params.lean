import PumpTrade.Chain.Dex
import PumpTrade.Curve.BondingCurve

/-!
# Parameters of the instruction builders

`PumpFunParams`, `PumpSwapParams` and the part of `SwapParams` that the instruction builders read,
from `trading/core/params.rs`.

* `PumpSwapParams.isWsol`, `isUsdc`, `quoteIsWsolOrUsdc`: the kind and the orientation of a pool;
* `PumpSwapParams.coin`, `PumpSwapParams.money`: the side that is traded and the side it is traded
  for.
-/

namespace PumpTrade

/-- The parameters of a trade on a curve. -/
structure PumpFunParams where
  bondingCurve : BondingCurveAccount
  associatedBondingCurve : Pubkey
  creatorVault : Pubkey
  tokenProgram : Pubkey
  closeTokenAccountWhenSell : Option Bool
  deriving DecidableEq, Repr, Inhabited

/-- The parameters of a trade in a pool. -/
structure PumpSwapParams where
  pool : Pubkey
  baseMint : Pubkey
  quoteMint : Pubkey
  poolBaseTokenAccount : Pubkey
  poolQuoteTokenAccount : Pubkey
  poolBaseTokenReserves : UInt64
  poolQuoteTokenReserves : UInt64
  coinCreatorVaultAta : Pubkey
  coinCreatorVaultAuthority : Pubkey
  baseTokenProgram : Pubkey
  quoteTokenProgram : Pubkey
  isMayhemMode : Bool
  isCashbackCoin : Bool
  deriving DecidableEq, Repr, Inhabited

/-- The parameters of either protocol. -/
inductive DexParamEnum where
  | pumpFun (params : PumpFunParams)
  | pumpSwap (params : PumpSwapParams)
  deriving DecidableEq, Repr

/-- The fields of `SwapParams` that the instruction builders read. -/
structure InstructionParams where
  payer : Keypair
  inputMint : Pubkey
  outputMint : Pubkey
  inputAmount : Option UInt64
  slippageBasisPoints : Option UInt64
  protocolParams : DexParamEnum
  openSeedOptimize : Bool
  createInputMintAta : Bool
  closeInputMintAta : Bool
  createOutputMintAta : Bool
  closeOutputMintAta : Bool
  fixedOutputAmount : Option UInt64
  useExactSolAmount : Option Bool
  deriving DecidableEq, Repr

/-- The slippage where none is given, 10%. -/
def defaultSlippage : UInt64 := 1000

namespace InstructionParams

variable (params : InstructionParams)

/-- The amount, where none counts as zero. -/
def amount : UInt64 := params.inputAmount.getD 0

/-- The slippage, by default that of the repository. -/
def slippage : UInt64 := params.slippageBasisPoints.getD defaultSlippage

/-- Spend exactly the input amount. -/
def exact : Bool := params.useExactSolAmount.getD true

end InstructionParams

namespace PumpSwapParams

variable (pool : PumpSwapParams)

/-- The pool contains WSOL, and not USDC. -/
def isWsol : Prop :=
  (pool.baseMint = wsolTokenAccount ∧ pool.quoteMint ≠ usdcTokenAccount) ∨
    (pool.quoteMint = wsolTokenAccount ∧ pool.baseMint ≠ usdcTokenAccount)

/-- The pool contains USDC, and not WSOL. -/
def isUsdc : Prop :=
  (pool.baseMint = usdcTokenAccount ∧ pool.quoteMint ≠ wsolTokenAccount) ∨
    (pool.quoteMint = usdcTokenAccount ∧ pool.baseMint ≠ wsolTokenAccount)

/-- The quote asset of the pool is money. -/
def quoteIsWsolOrUsdc : Prop := pool.quoteMint = wsolTokenAccount ∨ pool.quoteMint = usdcTokenAccount

instance : Decidable pool.isWsol := inferInstanceAs (Decidable (_ ∨ _))
instance : Decidable pool.isUsdc := inferInstanceAs (Decidable (_ ∨ _))
instance : Decidable pool.quoteIsWsolOrUsdc := inferInstanceAs (Decidable (_ ∨ _))

/-- The creator whose fee counts, or `default`. -/
def creator : Pubkey :=
  if pool.coinCreatorVaultAuthority ≠ PumpSwap.defaultCoinCreatorVaultAuthority then
    pool.coinCreatorVaultAuthority
  else default

/-- The mint and the token program of the side that is bought and sold. -/
def coin : Pubkey × Pubkey :=
  if pool.quoteIsWsolOrUsdc then (pool.baseMint, pool.baseTokenProgram)
  else (pool.quoteMint, pool.quoteTokenProgram)

/-- The mint and the token program of the side that pays and is paid. -/
def money : Pubkey × Pubkey :=
  if pool.quoteIsWsolOrUsdc then (pool.quoteMint, pool.quoteTokenProgram)
  else (pool.baseMint, pool.baseTokenProgram)

/-- The user's accounts for the two sides. -/
def coinAccount (userBase userQuote : Pubkey) : Pubkey := if pool.quoteIsWsolOrUsdc then userBase else userQuote

/-- The user's account for the asset that is money. -/
def moneyAccount (userBase userQuote : Pubkey) : Pubkey := if pool.quoteIsWsolOrUsdc then userQuote else userBase

end PumpSwapParams

end PumpTrade
