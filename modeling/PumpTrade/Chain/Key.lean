import Mathlib.Data.Nat.Notation

/-!
# Keys, hashes and signatures

The 32-byte and 64-byte values of the chain, each a type of its own. `default` is the all-zero
value, which the code uses as "no value".
-/

namespace PumpTrade

/-- A public key. -/
structure Pubkey where
  bits : BitVec 256
  deriving DecidableEq, Repr, Inhabited

/-- A block hash, or the hash stored in a nonce account. -/
structure Hash where
  bits : BitVec 256
  deriving DecidableEq, Repr, Inhabited

/-- A transaction signature. -/
structure Signature where
  bits : BitVec 512
  deriving DecidableEq, Repr, Inhabited

end PumpTrade
