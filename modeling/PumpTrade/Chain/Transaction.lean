import Mathlib.Data.Nat.Notation
import PumpTrade.Chain.Key

/-!
# Instructions, messages and transactions

The parts of a transaction, and the instructions of the system and compute budget programs that the
builder adds. A message keeps the payer, the instructions and the blockhash it is compiled from.
-/

namespace PumpTrade

/-- An account as an instruction names it. -/
structure AccountMeta where
  pubkey : Pubkey
  isSigner : Bool
  isWritable : Bool
  deriving DecidableEq, Repr

/-- An instruction for a program. -/
structure Instruction where
  programId : Pubkey
  accounts : List AccountMeta
  data : List UInt8
  deriving DecidableEq, Repr

/-- `n` in `count` bytes, the low byte first. -/
def leBytes (n : ℕ) : (count : ℕ) → List UInt8
  | 0 => []
  | count + 1 => UInt8.ofNat n :: leBytes (n / 256) count

/-- The programs and the sysvar of the instructions below. -/
def systemProgram : Pubkey := default

def sysvarRecentBlockhashes : Pubkey :=
  ⟨0x06a7d517192c568ee08a845f73d29788cf035c3145b21ab344d8062ea9400000⟩

def computeBudgetProgram : Pubkey :=
  ⟨0x0306466fe5211732ffecadba72c39be7bc8ce5bbc5f7126b2c439b3a40000000⟩

/-- Consume the value of a nonce account and store the next one. -/
def advanceNonceAccount (noncePubkey authorizedPubkey : Pubkey) : Instruction where
  programId := systemProgram
  accounts :=
    [⟨noncePubkey, false, true⟩, ⟨sysvarRecentBlockhashes, false, false⟩, ⟨authorizedPubkey, true, false⟩]
  data := leBytes 4 4

/-- A transfer of lamports. -/
def transfer (fromPubkey toPubkey : Pubkey) (lamports : UInt64) : Instruction where
  programId := systemProgram
  accounts := [⟨fromPubkey, true, true⟩, ⟨toPubkey, false, true⟩]
  data := leBytes 2 4 ++ leBytes lamports.toNat 8

/-- The price of a compute unit. -/
def setComputeUnitPrice (microLamports : UInt64) : Instruction where
  programId := computeBudgetProgram
  accounts := []
  data := 3 :: leBytes microLamports.toNat 8

/-- The most compute units of a transaction. -/
def setComputeUnitLimit (units : UInt32) : Instruction where
  programId := computeBudgetProgram
  accounts := []
  data := 2 :: leBytes units.toNat 4

/-- A signer, by its public key. -/
structure Keypair where
  pubkey : Pubkey
  deriving DecidableEq, Repr, Inhabited

/-- A lookup table and its addresses. -/
structure AddressLookupTableAccount where
  key : Pubkey
  addresses : List Pubkey
  deriving DecidableEq, Repr

/-- What a message is compiled from. -/
structure MessageBody where
  payer : Pubkey
  instructions : List Instruction
  recentBlockhash : Hash
  deriving DecidableEq, Repr

/-- A message, with a lookup table in version 0. -/
inductive VersionedMessage where
  | legacy (body : MessageBody)
  | v0 (body : MessageBody) (lookupTable : AddressLookupTableAccount)
  deriving DecidableEq, Repr

/-- The body of a message of either version. -/
def VersionedMessage.body : VersionedMessage → MessageBody
  | legacy body => body
  | v0 body _ => body

/-- A message and its signatures. -/
structure VersionedTransaction where
  signatures : List Signature
  message : VersionedMessage
  deriving DecidableEq, Repr

/-- The value of a durable nonce account, as a caller knows it. -/
structure DurableNonceInfo where
  nonceAccount : Option Pubkey
  currentNonce : Option Hash
  deriving DecidableEq, Repr

end PumpTrade
