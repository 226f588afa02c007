import PumpTrade.Curve.BondingCurve

/-!
# Buying a curve out

`get_buy_out_price`, `get_market_cap_sol` and `get_final_market_cap_sol` of
`common/bonding_curve.rs`. Each computes in 128 bits and narrows once at the end; the wide value has
a name of its own.

* `buyOutTotal_eq`: the price in closed form, wherever the tokens bought leave some behind;
* `lt_of_buyOutTotal`: elsewhere the checked build does not return;
* **`buyOut_suffices`**: paying the buy-out price without a fee buys at least the amount.
-/

namespace PumpTrade

open Base

namespace BondingCurveAccount

section Methods

variable (checks : Bool) (self : BondingCurveAccount)

/-- `get_market_cap_sol` before it narrows. -/
def marketCap : Outcome ℕ :=
  if self.virtualTokenReserves = 0 then .ret 0
  else do
    let product ← Word.mul checks 128 self.tokenTotalSupply.toNat self.virtualSolReserves.toNat
    Word.div product self.virtualTokenReserves.toNat

/-- The market cap in SOL. -/
def getMarketCapSol : Outcome UInt64 := UInt64.ofNat <$> self.marketCap checks

/-- `get_buy_out_price` before it narrows. -/
def buyOutTotal (amount feeBasisPoints : UInt64) : Outcome ℕ := do
  let solTokens := if amount < self.realSolReserves then self.realSolReserves.toNat else amount.toNat
  let product ← Word.mul checks 128 solTokens self.virtualSolReserves.toNat
  let left ← Word.sub checks 128 self.virtualTokenReserves.toNat solTokens
  let quotient ← Word.div product left
  let totalSellValue ← Word.add checks 128 quotient 1
  let feeProduct ← Word.mul checks 128 totalSellValue feeBasisPoints.toNat
  let fee ← Word.div feeProduct 10000
  Word.add checks 128 totalSellValue fee

/-- The price of buying out an amount of tokens. -/
def getBuyOutPrice (amount feeBasisPoints : UInt64) : Outcome UInt64 :=
  UInt64.ofNat <$> self.buyOutTotal checks amount feeBasisPoints

/-- `get_final_market_cap_sol` before it narrows. -/
def finalMarketCap (feeBasisPoints : UInt64) : Outcome ℕ := do
  let totalSellValue ← self.getBuyOutPrice checks self.realTokenReserves feeBasisPoints
  let totalVirtualValue ← Word.add checks 128 self.virtualSolReserves.toNat totalSellValue.toNat
  let totalVirtualTokens ← Word.sub checks 128 self.virtualTokenReserves.toNat self.realTokenReserves.toNat
  if totalVirtualTokens = 0 then .ret 0
  else do
    let product ← Word.mul checks 128 self.tokenTotalSupply.toNat totalVirtualValue
    Word.div product totalVirtualTokens

/-- The market cap in SOL once every token is sold. -/
def getFinalMarketCapSol (feeBasisPoints : UInt64) : Outcome UInt64 :=
  UInt64.ofNat <$> self.finalMarketCap checks feeBasisPoints

/-! ## The price in closed form -/

/-- The tokens that a buy-out is priced by: the amount, or the real SOL where that is more. -/
def solTokens (amount : UInt64) : ℕ := max amount.toNat self.realSolReserves.toNat

/-- The price without the fee. -/
def buyOutNet (amount : UInt64) : ℕ :=
  self.solTokens amount * self.virtualSolReserves.toNat /
    (self.virtualTokenReserves.toNat - self.solTokens amount) + 1

end Methods

/-- A price with its fee. -/
def withFee (n feeBasisPoints : ℕ) : ℕ := n + n * feeBasisPoints / 10000

variable {checks : Bool} {self : BondingCurveAccount} {amount feeBasisPoints : UInt64}

theorem solTokens_lt (self : BondingCurveAccount) (amount : UInt64) : self.solTokens amount < 2 ^ 64 :=
  max_lt amount.toNat_lt self.realSolReserves.toNat_lt

theorem solTokens_eq (self : BondingCurveAccount) (amount : UInt64) :
    (if amount < self.realSolReserves then self.realSolReserves.toNat else amount.toNat) =
      self.solTokens amount := by
  simp only [UInt64.lt_iff_toNat_lt, solTokens]
  split_ifs with h
  · rw [max_eq_right h.le]
  · rw [max_eq_left (not_lt.mp h)]

theorem buyOutNet_pos (self : BondingCurveAccount) (amount : UInt64) : 0 < self.buyOutNet amount :=
  Nat.succ_pos _

@[simp] theorem withFee_zero (n : ℕ) : withFee n 0 = n := by simp [withFee]

theorem le_withFee (n feeBasisPoints : ℕ) : n ≤ withFee n feeBasisPoints := Nat.le_add_right _ _

/-- **The buy-out price is exact** where tokens are left and the fee is computed in 128 bits. -/
theorem buyOutTotal_eq (hleft : self.solTokens amount < self.virtualTokenReserves.toNat)
    (hnet : self.buyOutNet amount < 2 ^ 64) (hf : feeBasisPoints ≤ 10000) (checks : Bool) :
    self.buyOutTotal checks amount feeBasisPoints =
      .ret (withFee (self.buyOutNet amount) feeBasisPoints.toNat) := by
  have hf' : feeBasisPoints.toNat ≤ 10000 := UInt64.le_iff_toNat_le.mp hf
  have hfee : self.buyOutNet amount * feeBasisPoints.toNat ≤ self.buyOutNet amount * 10000 :=
    Nat.mul_le_mul_left _ hf'
  have hprod := Word.mul_lt_two_pow_128 (self.solTokens_lt amount) self.virtualSolReserves.toNat_lt
  unfold buyOutNet at hnet hfee
  simp only [buyOutTotal, solTokens_eq]
  rw [Word.mul_eq hprod, Outcome.ret_bind, Word.sub_eq hleft.le, Outcome.ret_bind, Word.div_eq (by omega),
    Outcome.ret_bind, Word.add_eq (by omega), Outcome.ret_bind, Word.mul_eq (by omega), Outcome.ret_bind,
    Word.div_eq (by omega), Outcome.ret_bind, Word.add_eq (by omega)]
  rfl

/-- Where the checked build returns a price there are tokens left, and the price is exact. -/
theorem lt_of_buyOutTotal {total : ℕ} (h : self.buyOutTotal true amount feeBasisPoints = .ret total) :
    self.solTokens amount < self.virtualTokenReserves.toNat ∧
      total = withFee (self.buyOutNet amount) feeBasisPoints.toNat := by
  simp only [buyOutTotal, solTokens_eq, Outcome.bind_eq_ret, Word.mul_checked, Word.sub_checked,
    Word.div_ret, Word.add_checked] at h
  obtain ⟨_, ⟨_, rfl⟩, _, ⟨_, rfl⟩, _, ⟨hleft, rfl⟩, _, ⟨_, rfl⟩, _, ⟨_, rfl⟩, _, ⟨_, rfl⟩, _, rfl⟩ := h
  exact ⟨Nat.lt_of_sub_pos hleft, rfl⟩

/-- **When the price narrows without loss.** -/
theorem buyOutTotal_narrows (hf : feeBasisPoints ≤ 10000) :
    Word.Narrows (self.buyOutTotal true amount feeBasisPoints) ↔
      self.solTokens amount < self.virtualTokenReserves.toNat ∧
        withFee (self.buyOutNet amount) feeBasisPoints.toNat < 2 ^ 64 := by
  constructor
  · rintro ⟨total, htotal, hlt⟩
    obtain ⟨hleft, rfl⟩ := lt_of_buyOutTotal htotal
    exact ⟨hleft, hlt⟩
  · rintro ⟨hleft, hlt⟩
    have hnet : self.buyOutNet amount < 2 ^ 64 := (le_withFee _ _).trans_lt hlt
    exact ⟨_, buyOutTotal_eq hleft hnet hf true, hlt⟩

/-! ## The price suffices -/

/-- **What the price pays for.** The rounded price strictly covers the SOL that the tokens are
worth. -/
theorem lt_buyOutNet (hleft : self.solTokens amount < self.virtualTokenReserves.toNat) :
    self.solTokens amount * self.virtualSolReserves.toNat <
      self.buyOutNet amount * (self.virtualTokenReserves.toNat - self.solTokens amount) := by
  rw [buyOutNet, Nat.mul_comm (_ + 1)]
  exact Nat.lt_mul_div_succ _ (Nat.sub_pos_of_lt hleft)

theorem le_outStrict_buyOutNet (hleft : self.solTokens amount < self.virtualTokenReserves.toNat) :
    amount.toNat ≤ ConstantProduct.outStrict self.virtualSolReserves.toNat
      self.virtualTokenReserves.toNat (self.buyOutNet amount) :=
  ConstantProduct.le_outStrict_of_lt (self.buyOutNet_pos amount) (le_max_left _ _) hleft (lt_buyOutNet hleft)

/-- **The buy-out price suffices**, in every build. -/
theorem buyOut_suffices (hc : self.complete = false) (hreal : amount ≤ self.realTokenReserves)
    (hleft : max amount.toNat self.realSolReserves.toNat < self.virtualTokenReserves.toNat)
    (hfit : Word.Narrows (self.buyOutTotal true amount 0)) (checks : Bool) :
    ∃ price tokens, self.getBuyOutPrice checks amount 0 = .ret price ∧
      self.getBuyPrice checks price = .ret (.ok tokens) ∧ amount ≤ tokens := by
  have hopen : self.Open := ⟨hc, UInt64.le_iff_toNat_le.mpr (Nat.zero_lt_of_lt hleft)⟩
  have hnet : self.buyOutNet amount < 2 ^ 64 :=
    (le_withFee _ _).trans_lt ((buyOutTotal_narrows (by decide)).mp hfit).2
  have hprice : (UInt64.ofNat (self.buyOutNet amount)).toNat = self.buyOutNet amount := Word.toNat_ofNat hnet
  have hbuy : amount.toNat ≤ self.buyPrice (self.buyOutNet amount) := by
    rw [buyPrice, if_neg (self.buyOutNet_pos amount).ne']
    exact le_min (le_outStrict_buyOutNet hleft) (UInt64.le_iff_toNat_le.mp hreal)
  refine ⟨UInt64.ofNat (self.buyOutNet amount), _, ?_, getBuyPrice_eq hopen checks _, ?_⟩
  · rw [getBuyOutPrice, buyOutTotal_eq hleft hnet (by decide), Outcome.ret_map, UInt64.toNat_zero, withFee_zero]
  · rw [hprice, UInt64.le_iff_toNat_le,
      Word.toNat_ofNat ((buyPrice_le_real _ _).trans_lt self.realTokenReserves.toNat_lt)]
    exact hbuy

/-- One token of a new coin costs 28 lamports to buy out. -/
theorem buyOut_suffices_initial : ∃ price tokens, getBuyOutPrice true initial 1000000 0 = .ret price ∧
    getBuyPrice true initial price = .ret (.ok tokens) ∧ 1000000 ≤ tokens :=
  buyOut_suffices rfl (by decide) (by decide) ⟨28, by decide +kernel, by decide⟩ true

end BondingCurveAccount

end PumpTrade
