import PumpTrade.Base.Shared
import PumpTrade.Chain.Dex

/-!
# Caches of addresses and instructions

`common/fast_fn.rs`, `common/seed.rs` and the cached functions of `instruction/utils/*.rs`. The
static maps and the stored rents are the state that all calls share; a lookup, an insertion and a
load or store of a rent are atomic steps.

* `Globals`: the shared state;
* `getCachedPda`, `getCachedInstructions` and the functions that use them;
* `PdaCacheKey.derive`, `ataAddress`, `createInstructions`: what the same calls compute without
  caches.
-/

namespace PumpTrade

open Base

/-! ## The shared state -/

/-- The key of cached instructions, with all that these are made from but the rent. -/
inductive InstructionCacheKey where
  | createAssociatedTokenAccount (payer owner mint tokenProgram : Pubkey) (useSeed : Bool)
  | closeWsolAccount (payer wsolTokenAccount : Pubkey)
  deriving DecidableEq, Repr

/-- The key of a cached program address. -/
inductive PdaCacheKey where
  | pumpFunUserVolume (user : Pubkey)
  | pumpFunBondingCurve (mint : Pubkey)
  | pumpFunBondingCurveV2 (mint : Pubkey)
  | pumpFunCreatorVault (creator : Pubkey)
  | pumpSwapUserVolume (user : Pubkey)
  | pumpSwapPoolV2 (baseMint : Pubkey)
  deriving DecidableEq, Repr

/-- The key of a cached token account. -/
structure AtaCacheKey where
  walletAddress : Pubkey
  tokenMintAddress : Pubkey
  tokenProgramId : Pubkey
  useSeed : Bool
  deriving DecidableEq, Repr

/-- The key of cached compute budget instructions. -/
structure ComputeBudgetCacheKey where
  unitPrice : UInt64
  unitLimit : UInt32
  deriving DecidableEq, Repr

/-- The static maps, and the rents of a token account; `u64::MAX` stands for no rent yet. -/
structure Globals where
  instructionCache : InstructionCacheKey → Option (List Instruction)
  pdaCache : PdaCacheKey → Option Pubkey
  ataCache : AtaCacheKey → Option Pubkey
  computeBudgetCache : ComputeBudgetCacheKey → Option (List Instruction)
  splTokenRent : UInt64
  splToken2022Rent : UInt64

/-- A call that uses the shared state. -/
abbrev Cached := Prog Globals

/-- `u64::MAX`. -/
def noRent : UInt64 := 0xffffffffffffffff

namespace Globals

/-- Empty maps and no rents. -/
def initial : Globals where
  instructionCache := fun _ => none
  pdaCache := fun _ => none
  ataCache := fun _ => none
  computeBudgetCache := fun _ => none
  splTokenRent := noRent
  splToken2022Rent := noRent

/-- Store the instructions of a key. -/
def insertInstructions (key : InstructionCacheKey) (instructions : List Instruction) (g : Globals) : Globals :=
  { g with instructionCache := Function.update g.instructionCache key (some instructions) }

/-- Store the address of a key. -/
def insertPda (key : PdaCacheKey) (pda : Pubkey) (g : Globals) : Globals :=
  { g with pdaCache := Function.update g.pdaCache key (some pda) }

/-- Store the account of a key. -/
def insertAta (key : AtaCacheKey) (ata : Pubkey) (g : Globals) : Globals :=
  { g with ataCache := Function.update g.ataCache key (some ata) }

/-- Store the compute budget of a key. -/
def insertComputeBudget (key : ComputeBudgetCacheKey) (instructions : List Instruction) (g : Globals) :
    Globals :=
  { g with computeBudgetCache := Function.update g.computeBudgetCache key (some instructions) }

/-- The rent stored for the accounts of a token program. -/
def rent (g : Globals) (tokenProgramId : Pubkey) : UInt64 :=
  if tokenProgramId = tokenProgram2022 then g.splToken2022Rent else g.splTokenRent

end Globals

/-! ## Addresses with a seed -/

variable (D : Derivations)

/-- A digit of a hexadecimal number. -/
def hexDigit (nibble : UInt8) : UInt8 := if nibble ≤ 9 then 48 + nibble else 97 + (nibble - 10)

/-- The lower half of a mint's hash in eight hexadecimal digits. -/
def mintSeed (mint : Pubkey) : List UInt8 :=
  let v : UInt32 := (D.fnvHash mint.toBytes &&& 0xffffffff).toUInt32
  (List.range 8).map fun i => hexDigit ((v >>> (28 - UInt32.ofNat i * 4)) &&& 0xf).toUInt8

/-- `Result::unwrap`. -/
def unwrapOk {α : Type} : Except Error α → Outcome α
  | .ok a => .ret a
  | .error e => .panic ("called `Result::unwrap()` on an `Err` value: " ++ e.toText)

/-- The account whose address is made from the wallet and the seed of the mint. -/
def getAssociatedTokenAddressWithProgramIdUseSeed (walletAddress tokenMintAddress tokenProgramId : Pubkey) :
    Except Error Pubkey :=
  D.createWithSeed walletAddress (mintSeed D tokenMintAddress) tokenProgramId

/-- The accounts of this mint and program are addressed by a seed. -/
def usesSeed (mint tokenProgramId : Pubkey) (useSeed : Bool) : Prop :=
  useSeed = true ∧ mint ≠ wsolTokenAccount ∧ mint ≠ solTokenAccount ∧
    (tokenProgramId = tokenProgram ∨ tokenProgramId = tokenProgram2022)

instance (mint tokenProgramId : Pubkey) (useSeed : Bool) : Decidable (usesSeed mint tokenProgramId useSeed) :=
  inferInstanceAs (Decidable (_ ∧ _))

/-- `update_rents`, with the two answers of the node. -/
def updateRents (rent rent2022 : Except Error UInt64) : Cached (Except Error Unit) :=
  match rent with
  | .error e => return .error e
  | .ok rent => do
    Prog.modify fun g => { g with splTokenRent := rent }
    match rent2022 with
    | .error e => return .error e
    | .ok rent2022 => do
      Prog.modify fun g => { g with splToken2022Rent := rent2022 }
      return .ok ()

/-- Create and initialize an account whose address has a seed. -/
def seedInstructions (payer ataLike owner mint tokenProgramId : Pubkey) (rent : UInt64) : List Instruction :=
  [createAccountWithSeed payer ataLike owner (mintSeed D mint) rent 165 tokenProgramId,
    initializeAccount3 tokenProgramId ataLike mint owner]

/-- `create_associated_token_account_use_seed` once it has loaded the rent. -/
def createUseSeed (rent : UInt64) (payer owner mint tokenProgramId : Pubkey) :
    Except Error (List Instruction) :=
  if rent = noRent then .error (.other "Rent not initialized")
  else
    match D.createWithSeed payer (mintSeed D mint) tokenProgramId with
    | .error e => .error e
    | .ok ataLike => .ok (seedInstructions D payer ataLike owner mint tokenProgramId rent)

/-- The creation of an account with a seed, for the rent that is stored. -/
def createAssociatedTokenAccountUseSeed (payer owner mint tokenProgramId : Pubkey) :
    Cached (Except Error (List Instruction)) := do
  let rent ← Prog.read fun g => g.rent tokenProgramId
  return createUseSeed D rent payer owner mint tokenProgramId

/-! ## The caches -/

/-- What is cached for the key, or what `compute` makes, which is then cached. -/
def getCachedInstructions (key : InstructionCacheKey) (compute : Cached (List Instruction)) :
    Cached (List Instruction) :=
  Prog.memo (fun g => g.instructionCache key) (Globals.insertInstructions key) compute

/-- The cached address of a key, or the one that is derived, which is cached unless deriving it fails. -/
def getCachedPda (key : PdaCacheKey) (compute : Option Pubkey) : Cached (Option Pubkey) := do
  match ← Prog.read fun g => g.pdaCache key with
  | some pda => return some pda
  | none =>
    match compute with
    | some pda => do
      Prog.modify (Globals.insertPda key pda)
      return some pda
    | none => return none

/-- The address of a wallet's account, computed. -/
def ataAddress (walletAddress tokenMintAddress tokenProgramId : Pubkey) (useSeed : Bool) : Outcome Pubkey :=
  if usesSeed tokenMintAddress tokenProgramId useSeed then
    unwrapOk (getAssociatedTokenAddressWithProgramIdUseSeed D walletAddress tokenMintAddress tokenProgramId)
  else getAssociatedTokenAddressWithProgramId D walletAddress tokenMintAddress tokenProgramId

/-- The account of a wallet for a mint, from the cache or derived. -/
def getAssociatedTokenAddressWithProgramIdFastUseSeed
    (walletAddress tokenMintAddress tokenProgramId : Pubkey) (useSeed : Bool) : Cached Pubkey :=
  let key : AtaCacheKey := { walletAddress, tokenMintAddress, tokenProgramId, useSeed }
  Prog.memo (fun g => g.ataCache key) (Globals.insertAta key)
    (.lift (ataAddress D walletAddress tokenMintAddress tokenProgramId useSeed))

/-- The account without a seed. -/
def getAssociatedTokenAddressWithProgramIdFast (walletAddress tokenMintAddress tokenProgramId : Pubkey) :
    Cached Pubkey :=
  getAssociatedTokenAddressWithProgramIdFastUseSeed D walletAddress tokenMintAddress tokenProgramId false

/-- The creation of an account, from the cache or made. An error with a seed panics. -/
def createAssociatedTokenAccountIdempotentFastUseSeed (payer owner mint tokenProgramId : Pubkey)
    (useSeed : Bool) : Cached (List Instruction) :=
  let key : InstructionCacheKey := .createAssociatedTokenAccount payer owner mint tokenProgramId useSeed
  if usesSeed mint tokenProgramId useSeed then
    getCachedInstructions key do
      let instructions ← createAssociatedTokenAccountUseSeed D payer owner mint tokenProgramId
      Prog.lift (unwrapOk instructions)
  else
    getCachedInstructions key do
      let associatedTokenAddress ← getAssociatedTokenAddressWithProgramIdFast D owner mint tokenProgramId
      return [createAssociatedTokenAccount payer associatedTokenAddress owner mint tokenProgramId]

/-- The creation of the account without a seed. -/
def createAssociatedTokenAccountIdempotentFast (payer owner mint tokenProgramId : Pubkey) :
    Cached (List Instruction) :=
  createAssociatedTokenAccountIdempotentFastUseSeed D payer owner mint tokenProgramId false

/-- The instruction that closes the wrapped SOL account of a payer. -/
def closeWsolInstructions (payer wsolTokenAccount : Pubkey) : List Instruction :=
  [closeAccount tokenProgram wsolTokenAccount payer payer []]

/-- The closing of the wrapped SOL account, from the cache or made. -/
def getCachedCloseWsol (payer wsolTokenAccount : Pubkey) : Cached (List Instruction) :=
  getCachedInstructions (.closeWsolAccount payer wsolTokenAccount)
    (return closeWsolInstructions payer wsolTokenAccount)

/-! ## Program addresses -/

namespace PumpFun

/-- The address of the curve of a mint. -/
def getBondingCurvePda (mint : Pubkey) : Cached (Option Pubkey) :=
  getCachedPda (.pumpFunBondingCurve mint)
    (D.tryFindProgramAddress [bondingCurveSeed, mint.toBytes] pumpfun)

/-- The address of the second account of a curve. -/
def getBondingCurveV2Pda (mint : Pubkey) : Cached (Option Pubkey) :=
  getCachedPda (.pumpFunBondingCurveV2 mint)
    (D.tryFindProgramAddress [bondingCurveV2Seed, mint.toBytes] pumpfun)

/-- The address of the vault of a creator. -/
def getCreatorVaultPda (creator : Pubkey) : Cached (Option Pubkey) :=
  getCachedPda (.pumpFunCreatorVault creator)
    (D.tryFindProgramAddress [creatorVaultSeed, creator.toBytes] pumpfun)

/-- The address where PumpFun counts the volume of a user. -/
def getUserVolumeAccumulatorPda (user : Pubkey) : Cached (Option Pubkey) :=
  getCachedPda (.pumpFunUserVolume user)
    (D.tryFindProgramAddress [userVolumeAccumulatorSeed, user.toBytes] pumpfun)

end PumpFun

namespace PumpSwap

/-- The address where PumpSwap counts the volume of a user. -/
def getUserVolumeAccumulatorPda (user : Pubkey) : Cached (Option Pubkey) :=
  getCachedPda (.pumpSwapUserVolume user)
    (D.tryFindProgramAddress [userVolumeAccumulatorSeed, user.toBytes] ammProgram)

/-- This address is not cached, and its derivation panics where it fails. -/
def getPoolV2Pda (baseMint : Pubkey) : Outcome (Option Pubkey) :=
  some <$> findProgramAddress D [poolV2Seed, baseMint.toBytes] ammProgram

end PumpSwap

/-- What the address of a key is derived from. -/
def PdaCacheKey.derive : PdaCacheKey → Option Pubkey
  | pumpFunUserVolume user =>
    D.tryFindProgramAddress [userVolumeAccumulatorSeed, user.toBytes] PumpFun.pumpfun
  | pumpFunBondingCurve mint =>
    D.tryFindProgramAddress [PumpFun.bondingCurveSeed, mint.toBytes] PumpFun.pumpfun
  | pumpFunBondingCurveV2 mint =>
    D.tryFindProgramAddress [PumpFun.bondingCurveV2Seed, mint.toBytes] PumpFun.pumpfun
  | pumpFunCreatorVault creator =>
    D.tryFindProgramAddress [PumpFun.creatorVaultSeed, creator.toBytes] PumpFun.pumpfun
  | pumpSwapUserVolume user =>
    D.tryFindProgramAddress [userVolumeAccumulatorSeed, user.toBytes] PumpSwap.ammProgram
  | pumpSwapPoolV2 baseMint =>
    D.tryFindProgramAddress [PumpSwap.poolV2Seed, baseMint.toBytes] PumpSwap.ammProgram

/-- The instructions that create an account, for a rent. -/
def createInstructions (rent : UInt64) (payer owner mint tokenProgramId : Pubkey) (useSeed : Bool) :
    Outcome (List Instruction) :=
  if usesSeed mint tokenProgramId useSeed then
    unwrapOk (createUseSeed D rent payer owner mint tokenProgramId)
  else do
    let associatedTokenAddress ← getAssociatedTokenAddressWithProgramId D owner mint tokenProgramId
    .ret [createAssociatedTokenAccount payer associatedTokenAddress owner mint tokenProgramId]

/-- Derivations that sum up their arguments, with the hash of the `fnv` package. -/
def sampleDerivations : Derivations where
  tryFindProgramAddress seeds programId :=
    some ⟨BitVec.ofNat 256 (programId.bits.toNat + ofLeBytes (seeds.flatten).reverse)⟩
  createWithSeed base seed owner :=
    .ok ⟨BitVec.ofNat 256 (base.bits.toNat + ofLeBytes seed + owner.bits.toNat)⟩
  fnvHash bytes := bytes.foldl (fun hash byte => (hash ^^^ byte.toUInt64) * 0x100000001b3) 0xcbf29ce484222325

end PumpTrade
