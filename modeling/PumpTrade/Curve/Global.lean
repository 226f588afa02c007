import PumpTrade.Curve.BondingCurve

/-!
# The other copies of the buy price

The reserves of a new coin, `GlobalAccount::get_initial_buy_price` of `common/global.rs` and
`get_buy_price` of `instruction/utils/pumpfun.rs`, which compute the price of a buy each on its own.

* `PumpFun.getBuyPrice_eq`, `GlobalAccount.getInitialBuyPrice_eq`: both are `buyPrice`, in every
  build;
* **`buyPrices_agree`**: so they agree with the bonding curve's, and the price is the best that lets
  the product of the virtual reserves grow.
-/

namespace PumpTrade

open Base

/-! ## Constants -/

/-- The reserves and the supply of a new coin. -/
def initialVirtualTokenReserves : UInt64 := 1073000000000000
def initialVirtualSolReserves : UInt64 := 30000000000
def initialRealTokenReserves : UInt64 := 793100000000000
def tokenTotalSupply : UInt64 := 1000000000000000

/-- The reserves that the global account gives to a new coin. -/
structure GlobalAccount where
  initialVirtualTokenReserves : UInt64
  initialVirtualSolReserves : UInt64
  initialRealTokenReserves : UInt64
  deriving DecidableEq, Repr

namespace GlobalAccount

/-- The global account as `new` makes it. -/
def new : GlobalAccount where
  initialVirtualTokenReserves := PumpTrade.initialVirtualTokenReserves
  initialVirtualSolReserves := PumpTrade.initialVirtualSolReserves
  initialRealTokenReserves := PumpTrade.initialRealTokenReserves

variable (checks : Bool) (self : GlobalAccount)

/-- Tokens received for an amount of SOL by the first buyer; compares before it narrows. -/
def getInitialBuyPrice (amount : UInt64) : Outcome UInt64 :=
  if amount = 0 then .ret 0
  else do
    let n ← Word.mul checks 128 self.initialVirtualSolReserves.toNat self.initialVirtualTokenReserves.toNat
    let i ← Word.add checks 128 self.initialVirtualSolReserves.toNat amount.toNat
    let quotient ← Word.div n i
    let r ← Word.add checks 128 quotient 1
    let s ← Word.sub checks 128 self.initialVirtualTokenReserves.toNat r
    .ret (if s < self.initialRealTokenReserves.toNat then UInt64.ofNat s else self.initialRealTokenReserves)

end GlobalAccount

namespace PumpFun

/-- Tokens received for an amount of SOL, from the bare reserves. -/
def getBuyPrice (checks : Bool) (amount virtualSolReserves virtualTokenReserves realTokenReserves : UInt64) :
    Outcome UInt64 :=
  if amount = 0 then .ret 0
  else do
    let n ← Word.mul checks 128 virtualSolReserves.toNat virtualTokenReserves.toNat
    let i ← Word.add checks 128 virtualSolReserves.toNat amount.toNat
    let quotient ← Word.div n i
    let r ← Word.add checks 128 quotient 1
    let s ← Word.sub checks 128 virtualTokenReserves.toNat r
    let s_u64 := UInt64.ofNat s
    .ret (min s_u64 realTokenReserves)

end PumpFun

/-! ## Agreement -/

variable {curve : BondingCurveAccount}

/-- **The bare formula is exact.** -/
theorem PumpFun.getBuyPrice_eq (h : curve.Open) (checks : Bool) (amount : UInt64) :
    PumpFun.getBuyPrice checks amount curve.virtualSolReserves curve.virtualTokenReserves
      curve.realTokenReserves = .ret (UInt64.ofNat (curve.buyPrice amount.toNat)) := by
  by_cases ha : amount = 0
  · rw [PumpFun.getBuyPrice, if_pos ha, ha]
    rfl
  have hbind : PumpFun.getBuyPrice checks amount curve.virtualSolReserves curve.virtualTokenReserves
      curve.realTokenReserves = BondingCurveAccount.buyTokens checks curve.virtualSolReserves
        curve.virtualTokenReserves amount >>= fun s => .ret (min (UInt64.ofNat s) curve.realTokenReserves) := by
    rw [PumpFun.getBuyPrice, if_neg ha]
    simp only [BondingCurveAccount.buyTokens, Outcome.bind_assoc]
  rw [hbind, BondingCurveAccount.buyTokens_eq h.tokens_pos ha, Outcome.ret_bind,
    Word.min_ofNat (BondingCurveAccount.outStrict_lt_word _ _ _), BondingCurveAccount.buyPrice_of_ne curve ha]

/-- The global account gives a new coin the reserves of the curve. -/
structure GlobalAccount.Gives (account : GlobalAccount) (curve : BondingCurveAccount) : Prop where
  tokens : account.initialVirtualTokenReserves = curve.virtualTokenReserves
  sol : account.initialVirtualSolReserves = curve.virtualSolReserves
  real : account.initialRealTokenReserves = curve.realTokenReserves

/-- **The first buyer's formula is exact.** -/
theorem GlobalAccount.getInitialBuyPrice_eq {self : GlobalAccount} (h : curve.Open) (hg : self.Gives curve)
    (checks : Bool) (amount : UInt64) :
    self.getInitialBuyPrice checks amount = .ret (UInt64.ofNat (curve.buyPrice amount.toNat)) := by
  by_cases ha : amount = 0
  · rw [GlobalAccount.getInitialBuyPrice, if_pos ha, ha]
    rfl
  have hbind : self.getInitialBuyPrice checks amount =
      BondingCurveAccount.buyTokens checks curve.virtualSolReserves curve.virtualTokenReserves amount >>=
        fun s => .ret (if s < curve.realTokenReserves.toNat then UInt64.ofNat s else curve.realTokenReserves) := by
    rw [GlobalAccount.getInitialBuyPrice, if_neg ha, hg.tokens, hg.sol, hg.real]
    simp only [BondingCurveAccount.buyTokens, Outcome.bind_assoc]
  rw [hbind, BondingCurveAccount.buyTokens_eq h.tokens_pos ha, Outcome.ret_bind,
    BondingCurveAccount.buyPrice_of_ne curve ha, Word.ofNat_min]

/-- The best that a buyer can take for an amount of SOL. -/
structure BondingCurveAccount.BestBuy (curve : BondingCurveAccount) (amount price : UInt64) : Prop where
  nothing : amount = 0 → price = 0
  best : amount ≠ 0 → ∃ greatest : ℤ,
    IsGreatest {s : ℤ | (curve.virtualSolReserves.toNat : ℤ) * curve.virtualTokenReserves.toNat <
      (curve.virtualTokenReserves.toNat - s) * (curve.virtualSolReserves.toNat + amount.toNat)} greatest ∧
    (price.toNat : ℤ) = min (curve.realTokenReserves.toNat : ℤ) greatest

theorem bestBuy_buyPrice (h : curve.Open) (amount : UInt64) :
    curve.BestBuy amount (UInt64.ofNat (curve.buyPrice amount.toNat)) where
  nothing := by
    rintro rfl
    rfl
  best ha := by
    refine ⟨ConstantProduct.outStrict curve.virtualSolReserves.toNat curve.virtualTokenReserves.toNat
      amount.toNat, ?_, ?_⟩
    · simp only [mul_comm (_ - _ : ℤ)]
      exact ConstantProduct.isGreatest_outStrict h.tokens_pos (Word.pos_toNat ha) _
    · rw [Word.toNat_ofNat ((curve.buyPrice_le_real _).trans_lt curve.realTokenReserves.toNat_lt),
        BondingCurveAccount.buyPrice_of_ne curve ha, min_comm, Nat.cast_min]

/-- **The three copies of the buy price agree and are optimal**, in every build, with or without
overflow checks. -/
theorem buyPrices_agree {globalAccount : GlobalAccount} (h : curve.Open) (hg : globalAccount.Gives curve)
    (amount : UInt64) :
    ∃ price, curve.BestBuy amount price ∧ ∀ checks,
      curve.getBuyPrice checks amount = .ret (.ok price) ∧
      PumpFun.getBuyPrice checks amount curve.virtualSolReserves curve.virtualTokenReserves
        curve.realTokenReserves = .ret price ∧
      globalAccount.getInitialBuyPrice checks amount = .ret price :=
  ⟨_, bestBuy_buyPrice h amount, fun checks => ⟨BondingCurveAccount.getBuyPrice_eq h checks amount,
    PumpFun.getBuyPrice_eq h checks amount, GlobalAccount.getInitialBuyPrice_eq h hg checks amount⟩⟩

/-- A new coin's reserves. -/
theorem buyPrices_agree_new : ∃ price, BondingCurveAccount.initial.BestBuy 1000000000 price ∧ ∀ checks,
    BondingCurveAccount.initial.getBuyPrice checks 1000000000 = .ret (.ok price) ∧
    PumpFun.getBuyPrice checks 1000000000 BondingCurveAccount.initial.virtualSolReserves
      BondingCurveAccount.initial.virtualTokenReserves BondingCurveAccount.initial.realTokenReserves =
        .ret price ∧
    GlobalAccount.new.getInitialBuyPrice checks 1000000000 = .ret price :=
  buyPrices_agree ⟨rfl, by decide⟩ ⟨rfl, rfl, rfl⟩ 1000000000

end PumpTrade
