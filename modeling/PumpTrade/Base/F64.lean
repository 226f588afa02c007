import Mathlib.Algebra.Group.Int.Defs
import Mathlib.Algebra.Group.Nat.Defs

/-!
# 64-bit floating point numbers

An `F64` is the bits of a binary64 number. Only the comparisons are defined: they are those of IEEE
754, under which a NaN compares with nothing and the two zeros are equal.
-/

namespace Base

/-- A binary64 number, by its bits. -/
structure F64 where
  bits : UInt64
  deriving DecidableEq, Repr, Inhabited

namespace F64

/-- The bits below the sign. -/
def magnitude (x : F64) : ℕ := x.bits.toNat % 2 ^ 63

/-- The number as an integer that orders the finite and infinite numbers. -/
def rank (x : F64) : ℤ := if x.bits.toNat < 2 ^ 63 then x.magnitude else -x.magnitude

/-- The magnitude is above that of infinity. -/
def isNaN (x : F64) : Bool := 0x7ff0000000000000 < x.magnitude

/-- `x ≤ y` as the machine compares them. -/
def le (x y : F64) : Bool := !x.isNaN && !y.isNaN && decide (x.rank ≤ y.rank)

/-- `x < y` as the machine compares them. -/
def lt (x y : F64) : Bool := !x.isNaN && !y.isNaN && decide (x.rank < y.rank)

/-- The number zero. -/
def zero : F64 := ⟨0⟩

end F64

end Base
