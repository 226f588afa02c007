import PumpTrade.Curve.BuyOut
import PumpTrade.Curve.Global
import PumpTrade.Instr.Params

/-!
# Arithmetic of constructed curves

The accounts that `from_dev_trade`, `from_trade` and `PumpFunParams::immediate_sell` build, and
where the arithmetic of the account's methods is safe on them. The methods assume tokens that some
of these accounts do not have: only the two market caps look for a zero divisor, one of them after
it subtracted.

* `Constructed`: the accounts;
* `Safe`: no method underflows, divides by zero or loses digits in a cast;
* `InRange`: the same as inequalities between the reserves;
* **`safe_iff`**: on constructed accounts they are the same; **`immediateSell_unsafe`**: one that is
  not safe.
-/

namespace PumpTrade

open Base

/-! ## Constructors -/

namespace BondingCurveAccount

/-- The given account, or else the derived one: `get_bonding_curve_pda` answers with `derived`. -/
def accountOrDerived (derived : Pubkey → Option Pubkey) (bondingCurve mint : Pubkey) : Outcome Pubkey :=
  if bondingCurve ≠ default then .ret bondingCurve else Outcome.unwrap (derived mint)

/-- The curve after the purchase that created the coin. -/
def fromDevTrade (checks : Bool) (derived : Pubkey → Option Pubkey) (bondingCurve mint : Pubkey)
    (devTokenAmount devSolAmount : UInt64) (creator : Pubkey) (isMayhemMode isCashbackCoin : Bool) :
    Outcome BondingCurveAccount := do
  let account ← accountOrDerived derived bondingCurve mint
  let virtualTokenReserves ← Word.sub64 checks initialVirtualTokenReserves devTokenAmount
  let virtualSolReserves ← Word.add64 checks initialVirtualSolReserves devSolAmount
  let realTokenReserves ← Word.sub64 checks initialRealTokenReserves devTokenAmount
  .ret { discriminator := 0, account, virtualTokenReserves, virtualSolReserves, realTokenReserves,
         realSolReserves := devSolAmount, tokenTotalSupply := PumpTrade.tokenTotalSupply, complete := false,
         creator, isMayhemMode, isCashbackCoin }

/-- The curve with the reserves that a trade reported. -/
def fromTrade (derived : Pubkey → Option Pubkey) (bondingCurve mint creator : Pubkey)
    (virtualTokenReserves virtualSolReserves realTokenReserves realSolReserves : UInt64)
    (isMayhemMode isCashbackCoin : Bool) : Outcome BondingCurveAccount := do
  let account ← accountOrDerived derived bondingCurve mint
  .ret { discriminator := 0, account, virtualTokenReserves, virtualSolReserves, realTokenReserves,
         realSolReserves, tokenTotalSupply := PumpTrade.tokenTotalSupply, complete := false, creator,
         isMayhemMode, isCashbackCoin }

end BondingCurveAccount

/-- Parameters of a sale that does not look at the curve. -/
def PumpFunParams.immediateSell (creatorVault tokenProgram : Pubkey) (closeTokenAccountWhenSell : Bool) :
    PumpFunParams where
  bondingCurve := default
  associatedBondingCurve := default
  creatorVault := creatorVault
  tokenProgram := tokenProgram
  closeTokenAccountWhenSell := some closeTokenAccountWhenSell

namespace BondingCurveAccount

/-- The accounts that the package constructs; a developer buys at most the tokens there are. -/
inductive Constructed : BondingCurveAccount → Prop
  | devTrade {checks : Bool} {derived : Pubkey → Option Pubkey} {bondingCurve mint creator : Pubkey}
      {devTokenAmount devSolAmount : UInt64} {isMayhemMode isCashbackCoin : Bool} {curve : BondingCurveAccount}
      (hdev : devTokenAmount ≤ initialRealTokenReserves)
      (h : fromDevTrade checks derived bondingCurve mint devTokenAmount devSolAmount creator isMayhemMode
        isCashbackCoin = .ret curve) : Constructed curve
  | trade {derived : Pubkey → Option Pubkey} {bondingCurve mint creator : Pubkey}
      {virtualTokenReserves virtualSolReserves realTokenReserves realSolReserves : UInt64}
      {isMayhemMode isCashbackCoin : Bool} {curve : BondingCurveAccount}
      (h : fromTrade derived bondingCurve mint creator virtualTokenReserves virtualSolReserves
        realTokenReserves realSolReserves isMayhemMode isCashbackCoin = .ret curve) : Constructed curve
  | immediateSell (creatorVault tokenProgram : Pubkey) (closeTokenAccountWhenSell : Bool) :
      Constructed (PumpFunParams.immediateSell creatorVault tokenProgram closeTokenAccountWhenSell).bondingCurve

variable {curve : BondingCurveAccount} {amount feeBasisPoints : UInt64}

/-- A constructed account is not complete, and has the fixed supply unless it is empty. -/
theorem Constructed.fixed (h : Constructed curve) : curve.complete = false ∧
    (curve.tokenTotalSupply = PumpTrade.tokenTotalSupply ∨ curve.virtualTokenReserves = 0) := by
  cases h with
  | devTrade hdev h =>
    simp only [fromDevTrade, Outcome.bind_eq_ret] at h
    obtain ⟨_, _, _, _, _, _, _, _, h⟩ := h
    rw [← Outcome.ret.inj h]
    exact ⟨rfl, Or.inl rfl⟩
  | trade h =>
    obtain ⟨_, _, h⟩ := Outcome.bind_eq_ret.mp h
    rw [← Outcome.ret.inj h]
    exact ⟨rfl, Or.inl rfl⟩
  | immediateSell _ _ _ => exact ⟨rfl, Or.inr rfl⟩

/-! ## Safety and its condition -/

/-- No method underflows, divides by zero or loses digits in a cast: where it computes, the checked
build returns and the value before the cast fits. -/
structure Safe (curve : BondingCurveAccount) (amount feeBasisPoints : UInt64) : Prop where
  buy : curve.complete = false → amount ≠ 0 →
    Word.Narrows (buyTokens true curve.virtualSolReserves curve.virtualTokenReserves amount)
  sell : curve.complete = false → amount ≠ 0 → Word.Narrows (curve.netSellPrice true amount feeBasisPoints)
  marketCap : Word.Narrows (curve.marketCap true)
  buyOut : Word.Narrows (curve.buyOutTotal true amount feeBasisPoints)
  finalBuyOut : Word.Narrows (curve.buyOutTotal true curve.realTokenReserves feeBasisPoints)
  finalMarketCap : Word.Narrows (curve.finalMarketCap true feeBasisPoints)

/-- The largest price that with its fee stays below a bound. -/
def affordable (bound feeBasisPoints : ℕ) : ℕ := (bound * 10000 - 1) / (10000 + feeBasisPoints)

/-- The bound on the price of the whole curve, so that the supply at the price then reached fits 64
bits. -/
def finalBound (curve : BondingCurveAccount) : ℕ :=
  (2 ^ 64 * (curve.virtualTokenReserves.toNat - curve.realTokenReserves.toNat) +
    curve.tokenTotalSupply.toNat - 1) / curve.tokenTotalSupply.toNat - curve.virtualSolReserves.toNat

/-- Buying out for an amount leaves so many tokens that the price with its fee is below the
bound. -/
def BuyOutBelow (curve : BondingCurveAccount) (amount : UInt64) (feeBasisPoints bound : ℕ) : Prop :=
  curve.solTokens amount * curve.virtualSolReserves.toNat <
    affordable bound feeBasisPoints * (curve.virtualTokenReserves.toNat - curve.solTokens amount)

/-- The reserves are in the range of every method. -/
structure InRange (curve : BondingCurveAccount) (amount feeBasisPoints : UInt64) : Prop where
  buy : amount = 0 ∨ 1 ≤ curve.virtualTokenReserves
  marketCap : curve.virtualTokenReserves = 0 ∨
    curve.tokenTotalSupply.toNat * curve.virtualSolReserves.toNat < 2 ^ 64 * curve.virtualTokenReserves.toNat
  buyOut : curve.BuyOutBelow amount feeBasisPoints.toNat (2 ^ 64)
  finalBuyOut : curve.BuyOutBelow curve.realTokenReserves feeBasisPoints.toNat (2 ^ 64)
  finalMarketCap : curve.BuyOutBelow curve.realTokenReserves feeBasisPoints.toNat curve.finalBound

/-! ## The methods one by one -/

theorem buyTokens_narrows (ha : amount ≠ 0) {vs vt : UInt64} :
    Word.Narrows (buyTokens true vs vt amount) ↔ 1 ≤ vt := by
  constructor
  · rintro ⟨n, hn, _⟩
    simp only [buyTokens, Outcome.bind_eq_ret, Word.sub_checked, Word.add_checked] at hn
    obtain ⟨_, _, _, _, _, _, _, ⟨_, rfl⟩, hr, _⟩ := hn
    exact UInt64.le_iff_toNat_le.mpr (le_of_add_le_right hr)
  · intro hvt
    exact ⟨_, buyTokens_eq (UInt64.le_iff_toNat_le.mp hvt) ha true vs, outStrict_lt_word _ _ _⟩

theorem netSellPrice_narrows (ha : amount ≠ 0) (hf : feeBasisPoints ≤ 10000) :
    Word.Narrows (curve.netSellPrice true amount feeBasisPoints) :=
  ⟨_, netSellPrice_eq (Nat.add_pos_right _ (Word.pos_toNat ha)) hf true,
    (Nat.sub_le _ _).trans_lt ((sellPrice_le _ _).trans_lt curve.virtualSolReserves.toNat_lt)⟩

theorem marketCap_narrows : Word.Narrows (curve.marketCap true) ↔ curve.virtualTokenReserves = 0 ∨
    curve.tokenTotalSupply.toNat * curve.virtualSolReserves.toNat <
      2 ^ 64 * curve.virtualTokenReserves.toNat := by
  by_cases hvt : curve.virtualTokenReserves = 0
  · simp [marketCap, hvt, Word.Narrows]
  have hpos := Word.pos_toNat hvt
  rw [marketCap, if_neg hvt, Word.mul_eq (Word.mul_lt_two_pow_128 curve.tokenTotalSupply.toNat_lt
    curve.virtualSolReserves.toNat_lt), Outcome.ret_bind, Word.div_eq hpos]
  simp [Word.Narrows, hvt, Nat.div_lt_iff_lt_mul hpos]

theorem withFee_lt_iff {n bound fee : ℕ} (hn : 0 < n) : withFee n fee < bound ↔ n ≤ affordable bound fee := by
  have hsum : withFee n fee = n * (10000 + fee) / 10000 := by
    rw [withFee, Nat.mul_add, Nat.add_comm (n * 10000), Nat.add_mul_div_right _ _ (by omega), Nat.add_comm]
  have hpos : 0 < n * (10000 + fee) := Nat.mul_pos hn (by omega)
  rw [hsum, Nat.div_lt_iff_lt_mul (by omega), affordable, Nat.le_div_iff_mul_le (by omega)]
  omega

theorem buyOutBelow_iff {bound fee : ℕ} : curve.BuyOutBelow amount fee bound ↔
    curve.solTokens amount < curve.virtualTokenReserves.toNat ∧
      withFee (curve.buyOutNet amount) fee < bound := by
  unfold BuyOutBelow
  rcases lt_or_ge (curve.solTokens amount) curve.virtualTokenReserves.toNat with hleft | hnone
  · rw [withFee_lt_iff (curve.buyOutNet_pos amount), buyOutNet, Nat.succ_le_iff,
      Nat.div_lt_iff_lt_mul (Nat.sub_pos_of_lt hleft)]
    exact (and_iff_right hleft).symm
  · rw [Nat.sub_eq_zero_of_le hnone, Nat.mul_zero]
    exact iff_of_false (Nat.not_lt_zero _) fun h => absurd h.1 (not_lt.mpr hnone)

theorem mul_add_lt_iff {supply sol price total : ℕ} (hs : 0 < supply) :
    supply * (sol + price) < total ↔ price < (total + supply - 1) / supply - sol := by
  have hsucc : (sol + price + 1) * supply = supply * (sol + price) + supply := by ring
  have hle : sol + price + 1 ≤ (total + supply - 1) / supply ↔ (sol + price + 1) * supply ≤ total + supply - 1 :=
    Nat.le_div_iff_mul_le hs
  rw [hsucc] at hle
  omega

theorem finalMarketCap_narrows (hs : curve.tokenTotalSupply = PumpTrade.tokenTotalSupply)
    (hf : feeBasisPoints ≤ 10000)
    (hleft : curve.solTokens curve.realTokenReserves < curve.virtualTokenReserves.toNat)
    (hlt : withFee (curve.buyOutNet curve.realTokenReserves) feeBasisPoints.toNat < 2 ^ 64) :
    Word.Narrows (curve.finalMarketCap true feeBasisPoints) ↔
      withFee (curve.buyOutNet curve.realTokenReserves) feeBasisPoints.toNat < curve.finalBound := by
  have hreal : curve.realTokenReserves.toNat < curve.virtualTokenReserves.toNat :=
    (le_max_left _ _).trans_lt hleft
  have hsupply : curve.tokenTotalSupply.toNat = 1000000000000000 := by
    rw [hs]
    rfl
  have hsol := curve.virtualSolReserves.toNat_lt
  have hnet := (le_withFee _ _).trans_lt hlt
  rw [finalMarketCap, getBuyOutPrice, buyOutTotal_eq hleft hnet hf, Outcome.ret_map, Outcome.ret_bind,
    Word.toNat_ofNat hlt, Word.add_eq (by omega), Outcome.ret_bind, Word.sub_eq hreal.le, Outcome.ret_bind,
    if_neg (by omega), hsupply, Word.mul_eq (by omega), Outcome.ret_bind, Word.div_eq (by omega), finalBound,
    hsupply, ← mul_add_lt_iff (by omega), ← Nat.div_lt_iff_lt_mul (by omega)]
  simp [Word.Narrows]

/-! ## The accounts -/

theorem BuyOutBelow.tokens_pos {fee bound : ℕ} (h : curve.BuyOutBelow amount fee bound) :
    curve.virtualTokenReserves ≠ 0 := by
  intro hvt
  have hleft := (buyOutBelow_iff.mp h).1
  rw [hvt] at hleft
  exact absurd hleft (Nat.not_lt_zero _)

/-- **Where the methods are safe on the accounts that are constructed.** -/
theorem safe_iff (hc : Constructed curve) (hf : feeBasisPoints ≤ 10000) :
    curve.Safe amount feeBasisPoints ↔ curve.InRange amount feeBasisPoints := by
  have hbuyOut : ∀ amount, Word.Narrows (curve.buyOutTotal true amount feeBasisPoints) ↔
      curve.BuyOutBelow amount feeBasisPoints.toNat (2 ^ 64) := fun amount =>
    (buyOutTotal_narrows hf).trans buyOutBelow_iff.symm
  have hfinal : curve.BuyOutBelow curve.realTokenReserves feeBasisPoints.toNat (2 ^ 64) →
      (Word.Narrows (curve.finalMarketCap true feeBasisPoints) ↔
        curve.BuyOutBelow curve.realTokenReserves feeBasisPoints.toNat curve.finalBound) := by
    intro h
    have hs := hc.fixed.2.resolve_right h.tokens_pos
    obtain ⟨hleft, hlt⟩ := buyOutBelow_iff.mp h
    rw [finalMarketCap_narrows hs hf hleft hlt, buyOutBelow_iff, and_iff_right hleft]
  constructor
  · intro h
    have hprice := (hbuyOut _).mp h.finalBuyOut
    exact
      { buy := or_iff_not_imp_left.mpr fun ha => (buyTokens_narrows ha).mp (h.buy hc.fixed.1 ha)
        marketCap := marketCap_narrows.mp h.marketCap
        buyOut := (hbuyOut _).mp h.buyOut
        finalBuyOut := hprice
        finalMarketCap := (hfinal hprice).mp h.finalMarketCap }
  · intro h
    exact
      { buy := fun _ ha => (buyTokens_narrows ha).mpr (h.buy.resolve_left ha)
        sell := fun _ ha => netSellPrice_narrows ha hf
        marketCap := marketCap_narrows.mpr h.marketCap
        buyOut := (hbuyOut _).mpr h.buyOut
        finalBuyOut := (hbuyOut _).mpr h.finalBuyOut
        finalMarketCap := (hfinal h.finalBuyOut).mpr h.finalMarketCap }

theorem constructed_initial : Constructed { initial with account := ⟨1⟩ } := by
  have h : fromTrade (fun _ => none) ⟨1⟩ ⟨2⟩ default initialVirtualTokenReserves initialVirtualSolReserves
      initialRealTokenReserves 0 false false = .ret { initial with account := ⟨1⟩ } := by decide
  exact .trade h

theorem safe_iff_initial : ({ initial with account := ⟨1⟩ } : BondingCurveAccount).Safe 1000000 95 ↔
    ({ initial with account := ⟨1⟩ } : BondingCurveAccount).InRange 1000000 95 :=
  safe_iff constructed_initial (by decide)

/-- The empty account of an immediate sale: buying for a lamport subtracts from nothing in the
checked build, and the price of buying nothing out divides by zero in every build. -/
theorem immediateSell_unsafe :
    Constructed (PumpFunParams.immediateSell default default true).bondingCurve ∧
      ¬ (PumpFunParams.immediateSell default default true).bondingCurve.Safe 1 95 ∧
      getBuyPrice true (PumpFunParams.immediateSell default default true).bondingCurve 1 =
        .panic "attempt to subtract with overflow" ∧
      ∀ checks, getBuyOutPrice checks (PumpFunParams.immediateSell default default true).bondingCurve 0 0 =
        .panic "attempt to divide by zero" := by
  refine ⟨.immediateSell _ _ _, fun h => ?_, by decide +kernel, by decide +kernel⟩
  exact absurd ((buyTokens_narrows (by decide)).mp (h.buy rfl (by decide))) (by decide)

end BondingCurveAccount

end PumpTrade
