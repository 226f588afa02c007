import PumpTrade.Base.ConstantProduct
import PumpTrade.Base.Word
import PumpTrade.Chain.Key

/-!
# The bonding curve account

`BondingCurveAccount` of `common/bonding_curve.rs` with its buy and sell prices.

* `getBuyPrice_eq`: on an open curve with tokens the buy price is exact in every build: the strict
  constant-product payment, clamped to the real reserves;
* `getSellPrice_eq`: so is the sell price, for every fee of at most 10000 basis points.
-/

namespace PumpTrade

open Base

/-- The account that holds a curve's reserves. -/
structure BondingCurveAccount where
  discriminator : UInt64
  account : Pubkey
  virtualTokenReserves : UInt64
  virtualSolReserves : UInt64
  realTokenReserves : UInt64
  realSolReserves : UInt64
  tokenTotalSupply : UInt64
  complete : Bool
  creator : Pubkey
  isMayhemMode : Bool
  isCashbackCoin : Bool
  deriving DecidableEq, Repr, Inhabited

namespace BondingCurveAccount

/-- The curve of a coin no one has bought yet. -/
def initial : BondingCurveAccount :=
  { (default : BondingCurveAccount) with
    virtualTokenReserves := 1073000000000000
    virtualSolReserves := 30000000000
    realTokenReserves := 793100000000000
    tokenTotalSupply := 1000000000000000 }

variable (checks : Bool) (self : BondingCurveAccount)

/-- Tokens received for an amount of SOL. -/
def getBuyPrice (amount : UInt64) : Outcome (Except String UInt64) :=
  if self.complete then .ret (.error "Curve is complete")
  else if amount = 0 then .ret (.ok 0)
  else do
    let n ← Word.mul checks 128 self.virtualSolReserves.toNat self.virtualTokenReserves.toNat
    let i ← Word.add checks 128 self.virtualSolReserves.toNat amount.toNat
    let quotient ← Word.div n i
    let r ← Word.add checks 128 quotient 1
    let s ← Word.sub checks 128 self.virtualTokenReserves.toNat r
    let s_u64 := UInt64.ofNat s
    .ret (.ok (if s_u64 < self.realTokenReserves then s_u64 else self.realTokenReserves))

/-- The tokens for an amount of SOL before they are narrowed and clamped, `s` of `getBuyPrice`. -/
def buyTokens (virtualSolReserves virtualTokenReserves amount : UInt64) : Outcome ℕ := do
  let n ← Word.mul checks 128 virtualSolReserves.toNat virtualTokenReserves.toNat
  let i ← Word.add checks 128 virtualSolReserves.toNat amount.toNat
  let quotient ← Word.div n i
  let r ← Word.add checks 128 quotient 1
  Word.sub checks 128 virtualTokenReserves.toNat r

/-- The SOL for an amount of tokens before the fee is deducted, `n` of `getSellPrice`. -/
def grossSellPrice (amount : UInt64) : Outcome ℕ := do
  let product ← Word.mul checks 128 amount.toNat self.virtualSolReserves.toNat
  let denominator ← Word.add checks 128 self.virtualTokenReserves.toNat amount.toNat
  Word.div product denominator

/-- The SOL for an amount of tokens before it is narrowed, `n - a` of `getSellPrice`. -/
def netSellPrice (amount feeBasisPoints : UInt64) : Outcome ℕ := do
  let n ← self.grossSellPrice checks amount
  let product ← Word.mul checks 128 n feeBasisPoints.toNat
  let a ← Word.div product 10000
  Word.sub checks 128 n a

/-- SOL received for an amount of tokens after fees. -/
def getSellPrice (amount feeBasisPoints : UInt64) : Outcome (Except String UInt64) :=
  if self.complete then .ret (.error "Curve is complete")
  else if amount = 0 then .ret (.ok 0)
  else do
    let n ← self.grossSellPrice checks amount
    let product ← Word.mul checks 128 n feeBasisPoints.toNat
    let a ← Word.div product 10000
    let net ← Word.sub checks 128 n a
    .ret (.ok (UInt64.ofNat net))

/-! ## The prices in closed form -/

/-- The buy price in unbounded integers. -/
def buyPrice (amount : ℕ) : ℕ :=
  if amount = 0 then 0
  else min (ConstantProduct.outStrict self.virtualSolReserves.toNat self.virtualTokenReserves.toNat amount)
    self.realTokenReserves.toNat

/-- The gross sell price in unbounded integers. -/
def sellPrice (amount : ℕ) : ℕ :=
  ConstantProduct.out self.virtualTokenReserves.toNat self.virtualSolReserves.toNat amount

theorem buyPrice_of_ne {amount : UInt64} (ha : amount ≠ 0) : self.buyPrice amount.toNat =
    min (ConstantProduct.outStrict self.virtualSolReserves.toNat self.virtualTokenReserves.toNat amount.toNat)
      self.realTokenReserves.toNat :=
  if_neg (Nat.pos_iff_ne_zero.mp (Word.pos_toNat ha))

/-- A curve that can be traded on: it is not complete and has tokens. -/
def Open : Prop := self.complete = false ∧ 1 ≤ self.virtualTokenReserves

variable {self}

theorem Open.tokens_pos (h : self.Open) : 0 < self.virtualTokenReserves.toNat :=
  UInt64.le_iff_toNat_le.mp h.2

theorem buyPrice_le_real (self : BondingCurveAccount) (amount : ℕ) :
    self.buyPrice amount ≤ self.realTokenReserves.toNat := by
  unfold buyPrice
  split_ifs
  · exact Nat.zero_le _
  · exact min_le_right _ _

theorem buyPrice_le_outStrict {amount : ℕ} (h : amount ≠ 0) : self.buyPrice amount ≤
    ConstantProduct.outStrict self.virtualSolReserves.toNat self.virtualTokenReserves.toNat amount := by
  rw [buyPrice, if_neg h]
  exact min_le_left _ _

theorem buyPrice_lt (h : self.Open) (amount : ℕ) :
    self.buyPrice amount < self.virtualTokenReserves.toNat := by
  by_cases ha : amount = 0
  · rw [buyPrice, if_pos ha]
    exact h.tokens_pos
  · exact (buyPrice_le_outStrict ha).trans_lt (ConstantProduct.outStrict_lt h.tokens_pos _ _)

/-- **A buy does not lower the product of the virtual reserves.** -/
theorem product_le_buyPrice (h : self.Open) (amount : ℕ) :
    self.virtualSolReserves.toNat * self.virtualTokenReserves.toNat ≤
      (self.virtualSolReserves.toNat + amount) *
        (self.virtualTokenReserves.toNat - self.buyPrice amount) := by
  by_cases ha : amount = 0
  · rw [buyPrice, if_pos ha, ha]
    exact le_rfl
  · exact (ConstantProduct.product_lt_outStrict h.tokens_pos (Nat.pos_of_ne_zero ha) _
      (buyPrice_le_outStrict ha)).le

theorem sellPrice_le (self : BondingCurveAccount) (amount : ℕ) :
    self.sellPrice amount ≤ self.virtualSolReserves.toNat :=
  ConstantProduct.out_le _ _ _

/-- Whoever computes with the tokens for an amount computes with the exact strict payment. -/
theorem buyTokens_eq {vt amount : UInt64} (hvt : 0 < vt.toNat) (ha : amount ≠ 0) (checks : Bool) (vs : UInt64) :
    buyTokens checks vs vt amount = .ret (ConstantProduct.outStrict vs.toNat vt.toNat amount.toNat) := by
  have hapos := Word.pos_toNat ha
  have hsol := vs.toNat_lt
  have htok := vt.toNat_lt
  have halt := amount.toNat_lt
  have hfl := ConstantProduct.floor_lt (x := vs.toNat) hvt hapos
  rw [buyTokens, Word.mul_eq (Word.mul_lt_two_pow_128 hsol htok), Outcome.ret_bind,
    Word.add_eq (by omega), Outcome.ret_bind, Word.div_eq (by omega), Outcome.ret_bind,
    Word.add_eq (by omega), Outcome.ret_bind, Word.sub_eq hfl]
  rfl

theorem outStrict_lt_word (vs amount : ℕ) (vt : UInt64) :
    ConstantProduct.outStrict vs vt.toNat amount < 2 ^ 64 :=
  (Nat.sub_le _ _).trans_lt vt.toNat_lt

theorem getBuyPrice_eq_bind (hc : self.complete = false) {amount : UInt64} (ha : amount ≠ 0) (checks : Bool) :
    self.getBuyPrice checks amount =
      buyTokens checks self.virtualSolReserves self.virtualTokenReserves amount >>= fun s =>
        .ret (.ok (if UInt64.ofNat s < self.realTokenReserves then UInt64.ofNat s
          else self.realTokenReserves)) := by
  rw [getBuyPrice, if_neg (by simp [hc]), if_neg ha]
  simp only [buyTokens, Outcome.bind_assoc]

/-- **The buy price is exact**: nothing overflows, underflows or is truncated. -/
theorem getBuyPrice_eq (h : self.Open) (checks : Bool) (amount : UInt64) :
    self.getBuyPrice checks amount = .ret (.ok (UInt64.ofNat (self.buyPrice amount.toNat))) := by
  by_cases ha : amount = 0
  · rw [getBuyPrice, if_neg (by simp [h.1]), if_pos ha, ha]
    rfl
  rw [getBuyPrice_eq_bind h.1 ha, buyTokens_eq h.tokens_pos ha, Outcome.ret_bind,
    buyPrice_of_ne self ha, Word.ofNat_min]
  simp only [UInt64.lt_iff_toNat_lt, Word.toNat_ofNat (outStrict_lt_word _ _ _)]

theorem grossSellPrice_eq {amount : UInt64} (hpos : 0 < self.virtualTokenReserves.toNat + amount.toNat)
    (checks : Bool) : self.grossSellPrice checks amount = .ret (self.sellPrice amount.toNat) := by
  have htok := self.virtualTokenReserves.toNat_lt
  have halt := amount.toNat_lt
  rw [grossSellPrice, Word.mul_eq (Word.mul_lt_two_pow_128 halt self.virtualSolReserves.toNat_lt),
    Outcome.ret_bind, Word.add_eq (by omega), Outcome.ret_bind, Word.div_eq hpos, Nat.mul_comm]
  rfl

/-- The wide sell price is exact for every fee of at most 10000 basis points. -/
theorem netSellPrice_eq {amount feeBasisPoints : UInt64}
    (hpos : 0 < self.virtualTokenReserves.toNat + amount.toNat) (hf : feeBasisPoints ≤ 10000) (checks : Bool) :
    self.netSellPrice checks amount feeBasisPoints =
      .ret (self.sellPrice amount.toNat - self.sellPrice amount.toNat * feeBasisPoints.toNat / 10000) := by
  have hn : self.sellPrice amount.toNat < 2 ^ 64 :=
    (sellPrice_le self _).trans_lt self.virtualSolReserves.toNat_lt
  have hf' : feeBasisPoints.toNat ≤ 10000 := UInt64.le_iff_toNat_le.mp hf
  have hfee : self.sellPrice amount.toNat * feeBasisPoints.toNat / 10000 ≤ self.sellPrice amount.toNat :=
    Nat.div_le_of_le_mul (by rw [Nat.mul_comm 10000]; exact Nat.mul_le_mul_left _ hf')
  rw [netSellPrice, grossSellPrice_eq hpos, Outcome.ret_bind,
    Word.mul_eq (Word.mul_lt_two_pow_128 hn feeBasisPoints.toNat_lt), Outcome.ret_bind,
    Word.div_eq (by decide), Outcome.ret_bind, Word.sub_eq hfee]

theorem getSellPrice_eq_bind (hc : self.complete = false) {amount : UInt64} (ha : amount ≠ 0) (checks : Bool)
    (feeBasisPoints : UInt64) :
    self.getSellPrice checks amount feeBasisPoints =
      self.netSellPrice checks amount feeBasisPoints >>= fun net => .ret (.ok (UInt64.ofNat net)) := by
  rw [getSellPrice, if_neg (by simp [hc]), if_neg ha]
  simp only [netSellPrice, Outcome.bind_assoc]

/-- **The sell price is exact** for every fee of at most 10000 basis points. -/
theorem getSellPrice_eq (h : self.Open) (checks : Bool) (amount : UInt64) {feeBasisPoints : UInt64}
    (hf : feeBasisPoints ≤ 10000) :
    self.getSellPrice checks amount feeBasisPoints = .ret (.ok (UInt64.ofNat
      (self.sellPrice amount.toNat - self.sellPrice amount.toNat * feeBasisPoints.toNat / 10000))) := by
  by_cases ha : amount = 0
  · rw [getSellPrice, if_neg (by simp [h.1]), if_pos ha, ha]
    simp [sellPrice, ConstantProduct.out]
  rw [getSellPrice_eq_bind h.1 ha, netSellPrice_eq (Nat.add_pos_left h.tokens_pos _) hf, Outcome.ret_bind]

end BondingCurveAccount

end PumpTrade
