import Mathlib.Algebra.Group.Nat.Defs
import Mathlib.Data.Nat.Notation
import PumpTrade.Base.Outcome
import PumpTrade.Chain.Transaction
import PumpTrade.Swqos.Error

/-!
# Tokens, token accounts and their addresses

`constants/accounts.rs` with the instructions of `common/spl_token.rs`, `common/spl_token_2022.rs`
and of the system program that create, initialize, fund and close token accounts. How addresses are
derived is left to `Derivations`.

* `ofLeBytes_leBytes`: what is encoded in enough bytes is read back;
* `Instruction.opens`, `Instruction.closes`: the account that an instruction creates or initializes,
  and the one it closes.
-/

namespace PumpTrade

open Base

/-! ## Programs and mints -/

/-- The token programs, the mints that are money, and the program of associated accounts. -/
def tokenProgram : Pubkey := ⟨0x06ddf6e1d765a193d9cbe146ceeb79ac1cb485ed5f5b37913a8cf5857eff00a9⟩
def tokenProgram2022 : Pubkey := ⟨0x06ddf6e1ee758fde18425dbce46ccddab61afc4d83b90d27febdf928d8a18bfc⟩
def solTokenAccount : Pubkey := ⟨0x069b8857feab8184fb687f634618c035dac439dc1aeb3b5598a0f00000000000⟩
def wsolTokenAccount : Pubkey := ⟨0x069b8857feab8184fb687f634618c035dac439dc1aeb3b5598a0f00000000001⟩
def usd1TokenAccount : Pubkey := ⟨0x07072f054ab48d987da4e5969e632cddf38dd64141349da41b0b695b91d15c3a⟩
def usdcTokenAccount : Pubkey := ⟨0xc6fa7af3bedbad3a3d65f36aabc97431b1bbe4c2d2f6e0e47ca60203452f5d61⟩
def associatedTokenProgramId : Pubkey :=
  ⟨0x8c97258f4e2489f1bb3d1029148e0d830b5a1399daff1084048e7bd8dbe9f859⟩

/-- `AccountMeta::new` and `AccountMeta::new_readonly`. -/
def AccountMeta.new (pubkey : Pubkey) (isSigner : Bool) : AccountMeta := ⟨pubkey, isSigner, true⟩

/-- An account that is not written. -/
def AccountMeta.newReadonly (pubkey : Pubkey) (isSigner : Bool) : AccountMeta := ⟨pubkey, isSigner, false⟩

/-- The programs, as instructions name them. -/
def systemProgramMeta : AccountMeta := .newReadonly systemProgram false
def tokenProgramMeta : AccountMeta := .newReadonly tokenProgram false
def tokenProgram2022Meta : AccountMeta := .newReadonly tokenProgram2022 false

/-! ## Bytes -/

/-- The 32 bytes of a key. -/
def Pubkey.toBytes (key : Pubkey) : List UInt8 := (leBytes key.bits.toNat 32).reverse

/-- The number whose bytes these are, the low byte first. -/
def ofLeBytes : List UInt8 → ℕ
  | [] => 0
  | b :: bs => b.toNat + 256 * ofLeBytes bs

@[simp] theorem length_leBytes (n count : ℕ) : (leBytes n count).length = count := by
  induction count generalizing n with
  | zero => rfl
  | succ count ih => simp [leBytes, ih]

theorem ofLeBytes_leBytes (n count : ℕ) : ofLeBytes (leBytes n count) = n % 256 ^ count := by
  induction count generalizing n with
  | zero => simp [leBytes, ofLeBytes, Nat.mod_one]
  | succ count ih =>
    have hbyte : (UInt8.ofNat n).toNat = n % 256 := UInt8.toNat_ofNat'
    rw [leBytes, ofLeBytes, ih, hbyte, Nat.pow_succ', Nat.mod_mul (x := n)]

theorem ofLeBytes_u64 (n : UInt64) : ofLeBytes (leBytes n.toNat 8) = n.toNat := by
  have h := n.toNat_lt
  rw [ofLeBytes_leBytes, Nat.mod_eq_of_lt (by omega)]

/-! ## Amounts -/

/-- `str::parse::<u64>`: decimal digits, after a plus sign or not. -/
def parseU64 (text : String) : Option UInt64 :=
  let digits : List Char := match text.toList with
    | '+' :: digits => digits
    | digits => digits
  let value : ℕ := digits.foldl (fun value digit => 10 * value + (digit.toNat - 48)) 0
  if digits ≠ [] ∧ digits.all Char.isDigit ∧ value < 2 ^ 64 then some (UInt64.ofNat value) else none

example : parseU64 "18446744073709551615" = some 18446744073709551615 ∧ parseU64 "18446744073709551616" = none ∧
    parseU64 "+5" = some 5 ∧ parseU64 "-5" = none ∧ parseU64 "" = none := by decide

/-- The text of the error for digits after this value. -/
def digitsError : (value : ℕ) → List Char → String
  | _, [] => "invalid digit found in string"
  | value, digit :: digits =>
    if digit.isDigit = false then "invalid digit found in string"
    else if 2 ^ 64 ≤ 10 * value + (digit.toNat - 48) then "number too large to fit in target type"
    else digitsError (10 * value + (digit.toNat - 48)) digits

/-- The text of the error where `str::parse::<u64>` fails. -/
def parseU64Error (text : String) : String :=
  match text.toList with
  | [] => "cannot parse integer from empty string"
  | '+' :: digits => digitsError 0 digits
  | digits => digitsError 0 digits

/-! ## Addresses -/

/-- The derivations of other packages: program addresses, addresses with a seed, and the hash of
bytes. -/
structure Derivations where
  /-- `Pubkey::try_find_program_address`, without the bump. -/
  tryFindProgramAddress : (seeds : List (List UInt8)) → (programId : Pubkey) → Option Pubkey
  /-- `Pubkey::create_with_seed`. -/
  createWithSeed : (base : Pubkey) → (seed : List UInt8) → (owner : Pubkey) → Except Error Pubkey
  /-- The hash of `FnvHasher` of bytes written at once. -/
  fnvHash : List UInt8 → UInt64

variable (D : Derivations)

/-- `Pubkey::find_program_address` panics where there is no address. -/
def findProgramAddress (seeds : List (List UInt8)) (programId : Pubkey) : Outcome Pubkey :=
  Outcome.ofOption "Unable to find a viable program address bump seed"
    (D.tryFindProgramAddress seeds programId)

/-- The address of a wallet's associated account. -/
def getAssociatedTokenAddressWithProgramId (walletAddress tokenMintAddress tokenProgramId : Pubkey) :
    Outcome Pubkey :=
  findProgramAddress D [walletAddress.toBytes, tokenProgramId.toBytes, tokenMintAddress.toBytes]
    associatedTokenProgramId

/-! ## Instructions -/

/-- Close a token account; its rent goes to `destination`. -/
def closeAccount (tokenProgramId account destination owner : Pubkey) (signers : List Pubkey) :
    Instruction where
  programId := tokenProgramId
  accounts :=
    [.new account false, .new destination false, .newReadonly owner signers.isEmpty] ++
      signers.map fun signer => .newReadonly signer true
  data := [9]

/-- Make a new account one of the mint, for an owner. -/
def initializeAccount3 (tokenProgramId account mint owner : Pubkey) : Instruction where
  programId := tokenProgramId
  accounts := [.new account false, .newReadonly mint false]
  data := 18 :: owner.toBytes

/-- Bring the token amount of an account of wrapped SOL up to its lamports. -/
def syncNative (account : Pubkey) : Instruction where
  programId := tokenProgram
  accounts := [.new account false]
  data := [17]

/-- Create an account at the address of a base and a seed. -/
def createAccountWithSeed (fromPubkey toPubkey base : Pubkey) (seed : List UInt8) (lamports space : UInt64)
    (owner : Pubkey) : Instruction where
  programId := systemProgram
  accounts := [.new fromPubkey true, .new toPubkey false, .newReadonly base true]
  data := leBytes 3 4 ++ base.toBytes ++ leBytes seed.length 8 ++ seed ++ leBytes lamports.toNat 8 ++
    leBytes space.toNat 8 ++ owner.toBytes

/-- Create an associated account unless it exists. -/
def createAssociatedTokenAccount (payer associatedTokenAddress owner mint tokenProgramId : Pubkey) :
    Instruction where
  programId := associatedTokenProgramId
  accounts :=
    [.new payer true, .new associatedTokenAddress false, .newReadonly owner false, .newReadonly mint false,
      systemProgramMeta, .newReadonly tokenProgramId false]
  data := [1]

/-- The account at an index of the account list. -/
def Instruction.account? (instruction : Instruction) (i : ℕ) : Option Pubkey :=
  (instruction.accounts[i]?).map AccountMeta.pubkey

/-- The account that an instruction creates or initializes. -/
def Instruction.opens (instruction : Instruction) : Option Pubkey :=
  if instruction.programId = associatedTokenProgramId then
    if instruction.data = [1] then instruction.account? 1 else none
  else if instruction.programId = systemProgram then
    if instruction.data.take 4 = leBytes 3 4 then instruction.account? 1 else none
  else if instruction.programId = tokenProgram ∨ instruction.programId = tokenProgram2022 then
    if instruction.data.head? = some 18 then instruction.account? 0 else none
  else none

/-- The account that an instruction of this token program closes. -/
def Instruction.closes (tokenProgramId : Pubkey) (instruction : Instruction) : Option Pubkey :=
  if instruction.programId = tokenProgramId ∧ instruction.data = [9] then instruction.account? 0 else none

@[simp] theorem opens_createAssociatedTokenAccount (payer address owner mint program : Pubkey) :
    (createAssociatedTokenAccount payer address owner mint program).opens = some address := rfl

@[simp] theorem opens_createAccountWithSeed (payer address base : Pubkey) (seed : List UInt8)
    (lamports space : UInt64) (owner : Pubkey) :
    (createAccountWithSeed payer address base seed lamports space owner).opens = some address := by
  rfl

@[simp] theorem closes_closeAccount (program account destination owner : Pubkey) (signers : List Pubkey) :
    (closeAccount program account destination owner signers).closes program = some account := by
  simp [closeAccount, Instruction.closes, Instruction.account?, AccountMeta.new]

end PumpTrade
