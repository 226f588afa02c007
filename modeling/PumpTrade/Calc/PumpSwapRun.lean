import PumpTrade.Base.Run
import PumpTrade.Calc.PumpSwap

/-!
# Runs of quoted trades on a PumpSwap pool

A pool is its two reserves. A trade is enabled when its quote function returns `Ok` on the current
reserves and the reserve that is paid into stays within 64 bits; it then moves the quoted amounts.

* `buy_spec`, `trade_spec`: what one trade moves;
* **`trades_keep_value`**: no run of trades lowers the product of the reserves or empties one;
* **`split_buy_le`**: a buy made in parts receives at most what one buy of the sum receives.
-/

namespace PumpTrade

open Base

/-- The reserves of a pool. -/
structure Reserves where
  base : UInt64
  quote : UInt64
  deriving DecidableEq, Repr

/-- Both reserves are positive. -/
def Reserves.Positive (s : Reserves) : Prop := 1 ≤ s.base ∧ 1 ≤ s.quote

/-- The product of the reserves. -/
def Reserves.value (s : Reserves) : ℕ := s.base.toNat * s.quote.toNat

/-- A trade: the amount paid in, the slippage and the coin creator. -/
inductive Trade where
  | buy (quote slippageBasisPoints : UInt64) (coinCreator : Pubkey)
  | sell (base slippageBasisPoints : UInt64) (coinCreator : Pubkey)
  deriving DecidableEq, Repr

variable (checks : Bool)

/-- A buy: the pool it leaves and the base tokens received. -/
def Reserves.buy (s : Reserves) (quote slippageBasisPoints : UInt64) (coinCreator : Pubkey) :
    Option (Reserves × UInt64) :=
  match buyQuoteInputInternal checks quote slippageBasisPoints s.base s.quote coinCreator with
  | .ret (.ok r) =>
    if s.quote.toNat + r.internalQuoteWithoutFees.toNat < 2 ^ 64 then
      some (⟨s.base - r.base, s.quote + r.internalQuoteWithoutFees⟩, r.base)
    else none
  | _ => none

/-- A sale: the pool it leaves. -/
def Reserves.sell (s : Reserves) (base slippageBasisPoints : UInt64) (coinCreator : Pubkey) :
    Option Reserves :=
  match sellBaseInputInternal checks base slippageBasisPoints s.base s.quote coinCreator with
  | .ret (.ok r) =>
    if s.base.toNat + base.toNat < 2 ^ 64 then
      some ⟨s.base + base, s.quote - r.internalQuoteAmountOut⟩
    else none
  | _ => none

/-- The reserves after a trade, where it is quoted. -/
def Reserves.trade (s : Reserves) : Trade → Option Reserves
  | .buy quote slippage coinCreator => (s.buy checks quote slippage coinCreator).map Prod.fst
  | .sell base slippage coinCreator => s.sell checks base slippage coinCreator

/-- An accepted trade subtracts no more from a reserve than the reserve holds, and takes no more
fees than the pool pays out. -/
def Reserves.NoUnderflow (s : Reserves) : Trade → Prop
  | .buy quote slippage coinCreator => ∀ r,
      buyQuoteInputInternal checks quote slippage s.base s.quote coinCreator = .ret (.ok r) → r.base ≤ s.base
  | .sell base slippage coinCreator => ∀ r,
      sellBaseInputInternal checks base slippage s.base s.quote coinCreator = .ret (.ok r) →
        r.internalQuoteAmountOut ≤ s.quote ∧ r.uiQuote ≤ r.internalQuoteAmountOut

/-! ## One trade -/

variable {checks} {s s' : Reserves}

theorem Reserves.positive_iff : s.Positive ↔ 0 < s.base.toNat ∧ 0 < s.quote.toNat := by
  simp only [Positive, UInt64.le_iff_toNat_le]
  exact Iff.rfl

theorem noUnderflow (checks : Bool) (hs : s.Positive) (t : Trade) : s.NoUnderflow checks t := by
  obtain ⟨hB, hQ⟩ := Reserves.positive_iff.mp hs
  cases t with
  | buy quote slippage coinCreator =>
    intro r hr
    rw [UInt64.le_iff_toNat_le, (buyQuoteInputInternal_ok hr).2]
    exact ConstantProduct.out_le _ _ _
  | sell base slippage coinCreator =>
    intro r hr
    obtain ⟨-, -, hout, hfees⟩ := sellBaseInputInternal_ok hr
    refine ⟨?_, hfees⟩
    rw [UInt64.le_iff_toNat_le, hout]
    exact ConstantProduct.out_le _ _ _

/-- **A buy** moves the effective quote into the pool and what the formula pays for it out. -/
theorem buy_spec {quote slippageBasisPoints received : UInt64} {coinCreator : Pubkey}
    (h : s.buy checks quote slippageBasisPoints coinCreator = some (s', received)) :
    received.toNat =
      ConstantProduct.out s.quote.toNat s.base.toNat (effectiveQuote quote.toNat coinCreator) ∧
    s'.base.toNat = s.base.toNat - received.toNat ∧
    s'.quote.toNat = s.quote.toNat + effectiveQuote quote.toNat coinCreator := by
  unfold Reserves.buy at h
  split at h
  · next r hr =>
    split at h
    · next hfit =>
      obtain ⟨hint, hbase⟩ := buyQuoteInputInternal_ok hr
      obtain ⟨rfl, rfl⟩ := Prod.mk.inj (Option.some.inj h)
      have hle : r.base ≤ s.base := by
        rw [UInt64.le_iff_toNat_le, hbase]
        exact ConstantProduct.out_le _ _ _
      refine ⟨hbase, UInt64.toNat_sub_of_le _ _ hle, ?_⟩
      rw [← hint, UInt64.toNat_add, Nat.mod_eq_of_lt hfit]
    · cases h
  · cases h

/-- **A sale** moves the base into the pool and what the formula pays for it out. -/
theorem sell_spec {base slippageBasisPoints : UInt64} {coinCreator : Pubkey}
    (h : s.sell checks base slippageBasisPoints coinCreator = some s') :
    s'.base.toNat = s.base.toNat + base.toNat ∧
    s'.quote.toNat =
      s.quote.toNat - ConstantProduct.out s.base.toNat s.quote.toNat base.toNat := by
  unfold Reserves.sell at h
  split at h
  · next r hr =>
    split at h
    · next hfit =>
      obtain ⟨-, -, hout, -⟩ := sellBaseInputInternal_ok hr
      obtain rfl := Option.some.inj h
      have hle : r.internalQuoteAmountOut ≤ s.quote := by
        rw [UInt64.le_iff_toNat_le, hout]
        exact ConstantProduct.out_le _ _ _
      rw [← hout]
      exact ⟨(UInt64.toNat_add _ _).trans (Nat.mod_eq_of_lt hfit), UInt64.toNat_sub_of_le _ _ hle⟩
    · cases h
  · cases h

theorem buy_keeps_value {quote slippageBasisPoints received : UInt64} {coinCreator : Pubkey}
    (hs : s.Positive) (h : s.buy checks quote slippageBasisPoints coinCreator = some (s', received)) :
    s'.Positive ∧ s.value ≤ s'.value := by
  obtain ⟨hB, hQ⟩ := Reserves.positive_iff.mp hs
  obtain ⟨hrec, hbase, hquote⟩ := buy_spec h
  have hlt := ConstantProduct.out_lt hQ hB (effectiveQuote quote.toNat coinCreator)
  refine ⟨Reserves.positive_iff.mpr ⟨by omega, by omega⟩, ?_⟩
  unfold Reserves.value
  rw [hbase, hquote, hrec, Nat.mul_comm, Nat.mul_comm (_ - _)]
  exact ConstantProduct.product_le_out hQ _ _

/-- **One trade** keeps both reserves positive and does not lower their product. -/
theorem trade_keeps_value (hs : s.Positive) {t : Trade} (h : s.trade checks t = some s') :
    s'.Positive ∧ s.value ≤ s'.value := by
  cases t with
  | buy quote slippage coinCreator =>
    obtain ⟨⟨s'', received⟩, hbuy, rfl⟩ := Option.map_eq_some_iff.mp h
    exact buy_keeps_value hs hbuy
  | sell base slippage coinCreator =>
    obtain ⟨hB, hQ⟩ := Reserves.positive_iff.mp hs
    obtain ⟨hbase, hquote⟩ := sell_spec h
    have hlt := ConstantProduct.out_lt hB hQ base.toNat
    refine ⟨Reserves.positive_iff.mpr ⟨by omega, by omega⟩, ?_⟩
    unfold Reserves.value
    rw [hbase, hquote]
    exact ConstantProduct.product_le_out hB _ _

/-! ## Runs of trades -/

theorem run_keeps_value (hs : s.Positive) {trades : List Trade}
    (h : run (Reserves.trade checks) s trades = some s') : s'.Positive ∧ s.value ≤ s'.value :=
  ⟨run_inv (fun _ _ _ hI hstep => (trade_keeps_value hI hstep).1) hs h,
    run_rel (Reserves.trade checks) (R := fun s s' => s.value ≤ s'.value) (fun _ => le_rfl)
      (fun _ _ _ => le_trans) (fun _ _ _ hI hstep => trade_keeps_value hI hstep) hs h⟩

/-- **No run of quoted trades extracts value.** At every pool a run reaches no subtraction
underflows, both reserves are at least 1 and their product has not gone down; if the base reserve is
back where it started then the quote reserve is at least what it was. -/
theorem trades_keep_value (checks : Bool) (s : Reserves) (hB : 1 ≤ s.base) (hQ : 1 ≤ s.quote)
    (trades : List Trade) (s' : Reserves) (h : run (Reserves.trade checks) s trades = some s') :
    (∀ t, s'.NoUnderflow checks t) ∧ 1 ≤ s'.base ∧ 1 ≤ s'.quote ∧
      s.base.toNat * s.quote.toNat ≤ s'.base.toNat * s'.quote.toNat ∧
      (s'.base = s.base → s.quote ≤ s'.quote) := by
  obtain ⟨hpos, hval⟩ := run_keeps_value ⟨hB, hQ⟩ h
  refine ⟨noUnderflow checks hpos, hpos.1, hpos.2, hval, fun hback => ?_⟩
  rw [Reserves.value, Reserves.value, hback] at hval
  exact UInt64.le_iff_toNat_le.mpr
    (ConstantProduct.other_reserve_le (UInt64.le_iff_toNat_le.mp hB) hval)

theorem trades_keep_value_round_trip :
    run (Reserves.trade true) ⟨1000, 1000⟩ [.buy 100 0 default, .sell 90 0 default] = some ⟨1000, 1001⟩ ∧
      (1000 : UInt64) ≤ 1001 :=
  ⟨by decide, (trades_keep_value true ⟨1000, 1000⟩ (by decide) (by decide)
    [.buy 100 0 default, .sell 90 0 default] ⟨1000, 1001⟩ (by decide)).2.2.2.2 rfl⟩

/-! ## Splitting a buy -/

/-- A buyer's progress: the pool, and the base received so far. -/
structure Purchase where
  pool : Reserves
  received : ℕ
  deriving DecidableEq, Repr

/-- Buy for an amount of quote tokens, with a slippage. -/
def Purchase.buy (checks : Bool) (coinCreator : Pubkey) (p : Purchase) (part : UInt64 × UInt64) :
    Option Purchase :=
  (p.pool.buy checks part.1 part.2 coinCreator).map fun r => ⟨r.1, p.received + r.2.toNat⟩

/-- What the parts come to. -/
def totalQuote (parts : List (UInt64 × UInt64)) : ℕ := (parts.map fun part => part.1.toNat).sum

/-- What a run of buys moves, in all: at most the effective quote of the sum into the pool, and what
was received out of it, without lowering the product. -/
theorem buys_spec {coinCreator : Pubkey} {p p' : Purchase} {parts : List (UInt64 × UInt64)}
    (hp : p.pool.Positive) (h : run (Purchase.buy checks coinCreator) p parts = some p') :
    ∃ spent received, p'.received = p.received + received ∧
      p'.pool.base.toNat + received = p.pool.base.toNat ∧
      p'.pool.quote.toNat = p.pool.quote.toNat + spent ∧
      spent ≤ effectiveQuote (totalQuote parts) coinCreator ∧ p.pool.value ≤ p'.pool.value := by
  induction parts generalizing p with
  | nil =>
    obtain rfl := Option.some.inj h
    exact ⟨0, 0, by simp⟩
  | cons part parts ih =>
    obtain ⟨p₁, hstep, hrun⟩ := run_cons_eq_some.mp h
    obtain ⟨⟨pool₁, received₁⟩, hbuy, rfl⟩ := Option.map_eq_some_iff.mp hstep
    obtain ⟨hpos, hval⟩ := buy_keeps_value hp hbuy
    obtain ⟨hrec, hbase, hquote⟩ := buy_spec hbuy
    obtain ⟨spent, received, h1, h2, h3, h4, h5⟩ := ih hpos hrun
    have hle := ConstantProduct.out_le p.pool.quote.toNat p.pool.base.toNat
      (effectiveQuote part.1.toNat coinCreator)
    have hsum := effectiveQuote_add_le part.1.toNat (totalQuote parts) coinCreator
    refine ⟨effectiveQuote part.1.toNat coinCreator + spent, received₁.toNat + received, ?_, ?_, ?_, ?_,
      hval.trans h5⟩
    · simp only at h1
      omega
    · simp only at h2
      omega
    · simp only at h3
      omega
    · rw [totalQuote, List.map_cons, List.sum_cons]
      exact (Nat.add_le_add_left h4 _).trans hsum

/-- **Splitting a buy never helps.** What a buyer receives in parts is at most the base of a single
buy of the sum on the initial reserves, whatever the slippage of that buy; without slippage it is
quoted in every build. -/
theorem split_buy_le (checks : Bool) (s : Reserves) (hB : 1 ≤ s.base) (hQ : 1 ≤ s.quote)
    (coinCreator : Pubkey) (parts : List (UInt64 × UInt64)) (hsum : totalQuote parts < 2 ^ 64)
    (p : Purchase) (h : run (Purchase.buy checks coinCreator) ⟨s, 0⟩ parts = some p) :
    (∀ slippage r, buyQuoteInputInternal checks (UInt64.ofNat (totalQuote parts)) slippage s.base s.quote
        coinCreator = .ret (.ok r) → p.received ≤ r.base.toNat) ∧
      ∃ r, buyQuoteInputInternal checks (UInt64.ofNat (totalQuote parts)) 0 s.base s.quote coinCreator =
        .ret (.ok r) := by
  have hpos : s.Positive := ⟨hB, hQ⟩
  obtain ⟨hBpos, hQpos⟩ := Reserves.positive_iff.mp hpos
  obtain ⟨spent, received, h1, h2, h3, h4, h5⟩ := buys_spec (p := ⟨s, 0⟩) hpos h
  simp only at h1 h2 h3
  constructor
  · intro slippage r hr
    rw [(buyQuoteInputInternal_ok hr).2, Word.toNat_ofNat hsum, h1, Nat.zero_add]
    refine ConstantProduct.sum_out_le hQpos (by omega) ?_ h4
    rw [← h3, show s.base.toNat - received = p.pool.base.toNat by omega, Nat.mul_comm,
      Nat.mul_comm p.pool.quote.toNat]
    exact h5
  · refine buyQuoteInputInternal_zero checks _ coinCreator ?_ ?_
    · rintro h0
      rw [h0] at hBpos
      exact absurd hBpos (by decide)
    · rintro h0
      rw [h0] at hQpos
      exact absurd hQpos (by decide)

theorem split_buy_le_halves :
    run (Purchase.buy true default) ⟨⟨1000, 1000⟩, 0⟩ [(100, 0), (100, 0)] = some ⟨⟨835, 1198⟩, 165⟩ ∧
      ∀ slippage r, buyQuoteInputInternal true 200 slippage 1000 1000 default = .ret (.ok r) →
        165 ≤ r.base.toNat :=
  ⟨by decide, (split_buy_le true ⟨1000, 1000⟩ (by decide) (by decide) default [(100, 0), (100, 0)]
    (by decide) ⟨⟨835, 1198⟩, 165⟩ (by decide)).1⟩

end PumpTrade
