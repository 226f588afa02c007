import PumpTrade.Base.ConstantProduct
import PumpTrade.Calc.Common
import PumpTrade.Chain.Key

/-!
# PumpFun quotes

`utils/calc/pumpfun.rs`: the tokens that a bonding curve is expected to pay for an amount of SOL,
and the SOL for an amount of tokens. Amounts of `u128` are naturals.

* `getBuyTokenAmountFromSolAmount_eq`: the quote is the clamped constant-product payment, or one of
  two fixed amounts where that payment is small;
* `buyQuote_le_iff`, `buyQuote_mono_iff`: where the quote is within what the curve pays, and where
  it grows with the amount;
* `getSellSolAmountFromTokenAmount_eq`: the sale in closed form.
-/

namespace PumpTrade

open Base

/-- The rates of the curve and of a coin's creator, in basis points. -/
def feeBasisPoints : ℕ := 95
def creatorFee : ℕ := 30

/-- The fee of the curve and of the coin's creator. -/
def totalFeeBasisPoints (creator : Pubkey) : ℕ :=
  feeBasisPoints + if creator ≠ default then creatorFee else 0

theorem totalFeeBasisPoints_le (creator : Pubkey) : totalFeeBasisPoints creator ≤ 10000 := by
  unfold totalFeeBasisPoints feeBasisPoints creatorFee
  split_ifs <;> omega

/-- Tokens received for an amount of SOL; `solStrToLamports` is the conversion of another
package. -/
def getBuyTokenAmountFromSolAmount (checks : Bool) (solStrToLamports : String → Option UInt64)
    (virtualTokenReserves virtualSolReserves realTokenReserves : ℕ) (creator : Pubkey) (amount : UInt64) :
    Outcome UInt64 :=
  if amount = 0 then .ret 0
  else if virtualTokenReserves = 0 then .ret 0
  else do
    let scaled ← Outcome.unwrap (Word.checkedMul 128 amount.toNat 10000)
    let inputAmount ← Outcome.unwrap (Word.checkedDiv scaled (totalFeeBasisPoints creator + 10000))
    let denominator ← Word.add checks 128 virtualSolReserves inputAmount
    let product ← Outcome.unwrap (Word.checkedMul 128 inputAmount virtualTokenReserves)
    let quotient ← Outcome.unwrap (Word.checkedDiv product denominator)
    let tokensReceived := min quotient realTokenReserves
    .ret (UInt64.ofNat
      (if tokensReceived ≤ 100 * 1000000 then
        if amount > (solStrToLamports "0.01").getD 0 then 25547619 * 1000000 else 255476 * 1000000
      else tokensReceived))

/-- SOL received for an amount of tokens. -/
def getSellSolAmountFromTokenAmount (checks : Bool) (virtualTokenReserves virtualSolReserves : ℕ)
    (creator : Pubkey) (amount : UInt64) : Outcome UInt64 :=
  if amount = 0 then .ret 0
  else if virtualTokenReserves = 0 then .ret 0
  else do
    let numerator := (Word.checkedMul 128 amount.toNat virtualSolReserves).getD 0
    let denominator := (Word.checkedAdd 128 virtualTokenReserves amount.toNat).getD 1
    let solCost := (Word.checkedDiv numerator denominator).getD 0
    let fee ← computeFee checks solCost (totalFeeBasisPoints creator)
    -- a saturating subtraction
    .ret (UInt64.ofNat (solCost - fee))

/-! ## The buy quote in closed form -/

/-- The amount of SOL without the fees. -/
def inputAmount (creator : Pubkey) (amount : ℕ) : ℕ := amount * 10000 / (totalFeeBasisPoints creator + 10000)

/-- What the curve pays for an amount of SOL: the constant-product payment, at most the real
reserves. -/
def curvePayment (virtualTokenReserves virtualSolReserves realTokenReserves : ℕ) (creator : Pubkey)
    (amount : ℕ) : ℕ :=
  min (ConstantProduct.out virtualSolReserves virtualTokenReserves (inputAmount creator amount))
    realTokenReserves

/-- The amount quoted where the payment is small. -/
def smallQuote (threshold amount : ℕ) : ℕ :=
  if threshold < amount then 25547619000000 else 255476000000

/-- The buy quote in unbounded integers. -/
def buyQuote (threshold virtualTokenReserves virtualSolReserves realTokenReserves : ℕ) (creator : Pubkey)
    (amount : ℕ) : ℕ :=
  if amount = 0 then 0
  else if curvePayment virtualTokenReserves virtualSolReserves realTokenReserves creator amount ≤ 100000000
    then smallQuote threshold amount
    else curvePayment virtualTokenReserves virtualSolReserves realTokenReserves creator amount

section Quote

variable {threshold vt vs rt a b : ℕ} {creator : Pubkey}

theorem inputAmount_le (creator : Pubkey) (amount : ℕ) : inputAmount creator amount ≤ amount := by
  apply Nat.div_le_of_le_mul
  rw [Nat.mul_comm]
  exact Nat.mul_le_mul_right amount (Nat.le_add_left _ _)

theorem curvePayment_mono (hvs : 0 < vs) (h : a ≤ b) :
    curvePayment vt vs rt creator a ≤ curvePayment vt vs rt creator b := by
  have hinput : inputAmount creator a ≤ inputAmount creator b :=
    Nat.div_le_div_right (Nat.mul_le_mul_right _ h)
  exact min_le_min_right rt (ConstantProduct.out_mono hvs vt hinput)

theorem smallQuote_mono (h : a ≤ b) : smallQuote threshold a ≤ smallQuote threshold b := by
  unfold smallQuote
  split_ifs <;> omega

theorem lt_smallQuote (threshold amount : ℕ) : 100000000 < smallQuote threshold amount := by
  unfold smallQuote
  split_ifs <;> omega

/-- **Where the quote is within what the curve pays.** -/
theorem buyQuote_le_iff : buyQuote threshold vt vs rt creator a ≤ curvePayment vt vs rt creator a ↔
    a = 0 ∨ 100000000 < curvePayment vt vs rt creator a := by
  have hsmall := lt_smallQuote threshold a
  unfold buyQuote
  split_ifs with ha hpayment
  · simp [ha]
  · omega
  · omega

/-- **Where the quote grows with the amount.** -/
theorem buyQuote_mono_iff (hvs : 0 < vs) (h : a ≤ b) :
    buyQuote threshold vt vs rt creator a ≤ buyQuote threshold vt vs rt creator b ↔
      a = 0 ∨ 100000000 < curvePayment vt vs rt creator a ∨
        curvePayment vt vs rt creator b ≤ 100000000 ∨
          smallQuote threshold a ≤ curvePayment vt vs rt creator b := by
  have hpayment : curvePayment vt vs rt creator a ≤ curvePayment vt vs rt creator b :=
    curvePayment_mono hvs h
  have hsmall : smallQuote threshold a ≤ smallQuote threshold b := smallQuote_mono h
  unfold buyQuote
  split_ifs <;> omega

theorem curvePayment_le_real (vt vs rt : ℕ) (creator : Pubkey) (amount : ℕ) :
    curvePayment vt vs rt creator amount ≤ rt := min_le_right _ _

theorem smallQuote_lt (threshold amount : ℕ) : smallQuote threshold amount < 2 ^ 64 := by
  unfold smallQuote
  split_ifs <;> omega

theorem buyQuote_lt (hrt : rt < 2 ^ 64) : buyQuote threshold vt vs rt creator a < 2 ^ 64 := by
  have hsmall := smallQuote_lt threshold a
  have hreal := curvePayment_le_real vt vs rt creator a
  unfold buyQuote
  split_ifs <;> omega

end Quote

/-! ## The functions -/

section Exact

variable {vt vs rt : UInt64}

/-- **The buy quote is exact**: nothing overflows and nothing is truncated. -/
theorem getBuyTokenAmountFromSolAmount_eq (hvt : 1 ≤ vt) (hvs : 1 ≤ vs) (checks : Bool)
    (solStrToLamports : String → Option UInt64) (creator : Pubkey) (amount : UInt64) :
    getBuyTokenAmountFromSolAmount checks solStrToLamports vt.toNat vs.toNat rt.toNat creator amount =
      .ret (UInt64.ofNat (buyQuote ((solStrToLamports "0.01").getD 0).toNat vt.toNat vs.toNat rt.toNat
        creator amount.toNat)) := by
  have hvt' : 1 ≤ vt.toNat := UInt64.le_iff_toNat_le.mp hvt
  have hvs' : 1 ≤ vs.toNat := UInt64.le_iff_toNat_le.mp hvs
  by_cases ha : amount = 0
  · rw [getBuyTokenAmountFromSolAmount, if_pos ha, ha]
    rfl
  have hamount := amount.toNat_lt
  have hinput : inputAmount creator amount.toNat < 2 ^ 64 := (inputAmount_le _ _).trans_lt hamount
  have hvslt := vs.toNat_lt
  have hden : 0 < vs.toNat + inputAmount creator amount.toNat := by omega
  rw [getBuyTokenAmountFromSolAmount, if_neg ha, if_neg (by omega), Word.checkedMul_eq (by omega),
    Outcome.unwrap_some, Outcome.ret_bind, Word.checkedDiv_eq (by omega), Outcome.unwrap_some,
    Outcome.ret_bind]
  change (Word.add checks 128 vs.toNat (inputAmount creator amount.toNat) >>= fun _ =>
    Outcome.unwrap (Word.checkedMul 128 (inputAmount creator amount.toNat) vt.toNat) >>= fun _ => _) = _
  rw [Word.add_eq (by omega), Outcome.ret_bind,
    Word.checkedMul_eq (Word.mul_lt_two_pow_128 hinput vt.toNat_lt), Outcome.unwrap_some, Outcome.ret_bind,
    Word.checkedDiv_eq hden, Outcome.unwrap_some, Outcome.ret_bind, Nat.mul_comm _ vt.toNat]
  have hne : amount.toNat ≠ 0 := Nat.pos_iff_ne_zero.mp (Word.pos_toNat ha)
  rw [buyQuote, if_neg hne]
  simp only [curvePayment, ConstantProduct.out, smallQuote, gt_iff_lt, UInt64.lt_iff_toNat_lt]
  norm_num

/-- The gross payment of a sale, and what is left of it. -/
def sellQuote (virtualTokenReserves virtualSolReserves : ℕ) (creator : Pubkey) (amount : ℕ) : ℕ :=
  let solCost := ConstantProduct.out virtualTokenReserves virtualSolReserves amount
  solCost - (solCost * totalFeeBasisPoints creator + 9999) / 10000

/-- **The sale quote is exact.** -/
theorem getSellSolAmountFromTokenAmount_eq (hvt : 1 ≤ vt) (checks : Bool) (creator : Pubkey)
    (amount : UInt64) :
    getSellSolAmountFromTokenAmount checks vt.toNat vs.toNat creator amount =
      .ret (UInt64.ofNat (sellQuote vt.toNat vs.toNat creator amount.toNat)) := by
  have hvt' : 1 ≤ vt.toNat := UInt64.le_iff_toNat_le.mp hvt
  by_cases ha : amount = 0
  · rw [getSellSolAmountFromTokenAmount, if_pos ha, ha]
    simp [sellQuote, ConstantProduct.out]
  have hamount := amount.toNat_lt
  have hvtlt := vt.toNat_lt
  have hden : 0 < vt.toNat + amount.toNat := by omega
  have hcost : ConstantProduct.out vt.toNat vs.toNat amount.toNat < 2 ^ 64 :=
    (ConstantProduct.out_le _ _ _).trans_lt vs.toNat_lt
  rw [getSellSolAmountFromTokenAmount, if_neg ha, if_neg (by omega),
    Word.checkedMul_eq (Word.mul_lt_two_pow_128 hamount vs.toNat_lt), Word.checkedAdd_eq (by omega)]
  simp only [Option.getD_some, Word.checkedDiv_eq hden]
  rw [Nat.mul_comm amount.toNat]
  change (computeFee checks (ConstantProduct.out vt.toNat vs.toNat amount.toNat)
    (totalFeeBasisPoints creator) >>= fun _ => _) = _
  rw [computeFee_eq hcost (totalFeeBasisPoints_le creator), Outcome.ret_bind]
  rfl

end Exact

end PumpTrade
