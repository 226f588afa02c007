import PumpTrade.Base.Run
import PumpTrade.Curve.BondingCurve

/-!
# Runs of trades on a bonding curve

A buy pays SOL into the virtual reserves and takes the quoted tokens out of the virtual and the real
ones; a sale puts tokens back into both and takes the gross price out of the virtual SOL. An order
is enabled while its prices return and the reserves stay within 64 bits.

* `Exact`: on a curve no order underflows a reserve, panics in a price or is truncated;
* **`orders_keep_value`**: every curve a run reaches is exact, has a token left and no smaller
  product of its virtual reserves, and buying there and selling at once never profits.
-/

namespace PumpTrade

open Base

namespace BondingCurveAccount

/-- A buy for an amount of SOL or a sale of an amount of tokens. -/
inductive Order where
  | buy (amount : UInt64)
  | sell (amount : UInt64)
  deriving DecidableEq, Repr

/-- A buy: the curve it leaves and the tokens received. -/
def buy (checks : Bool) (c : BondingCurveAccount) (amount : UInt64) :
    Option (BondingCurveAccount × UInt64) :=
  match c.getBuyPrice checks amount with
  | .ret (.ok s) =>
    if c.virtualSolReserves.toNat + amount.toNat < 2 ^ 64 then
      some ({ c with
        virtualSolReserves := c.virtualSolReserves + amount
        virtualTokenReserves := c.virtualTokenReserves - s
        realTokenReserves := c.realTokenReserves - s }, s)
    else none
  | _ => none

/-- A sale: the curve it leaves. -/
def sell (checks : Bool) (c : BondingCurveAccount) (amount : UInt64) : Option BondingCurveAccount :=
  match c.grossSellPrice checks amount with
  | .ret n =>
    if c.virtualTokenReserves.toNat + amount.toNat < 2 ^ 64 ∧
        c.realTokenReserves.toNat + amount.toNat < 2 ^ 64 then
      some { c with
        virtualTokenReserves := c.virtualTokenReserves + amount
        realTokenReserves := c.realTokenReserves + amount
        virtualSolReserves := c.virtualSolReserves - UInt64.ofNat n }
    else none
  | _ => none

/-- The curve after an order, where it is filled. -/
def order (checks : Bool) (c : BondingCurveAccount) : Order → Option BondingCurveAccount
  | .buy amount => (c.buy checks amount).map Prod.fst
  | .sell amount => c.sell checks amount

/-- The product of the virtual reserves. -/
def value (c : BondingCurveAccount) : ℕ := c.virtualSolReserves.toNat * c.virtualTokenReserves.toNat

/-- Every price returns, in every build, the value it has in unbounded integers, and no reserve is
charged more than it holds. -/
def Exact (c : BondingCurveAccount) : Prop :=
  (∀ checks amount, c.getBuyPrice checks amount = .ret (.ok (UInt64.ofNat (c.buyPrice amount.toNat))) ∧
    c.buyPrice amount.toNat ≤ c.virtualTokenReserves.toNat ∧
    c.buyPrice amount.toNat ≤ c.realTokenReserves.toNat) ∧
  ∀ checks amount, c.grossSellPrice checks amount = .ret (c.sellPrice amount.toNat) ∧
    c.sellPrice amount.toNat ≤ c.virtualSolReserves.toNat ∧
    ∀ feeBasisPoints ≤ 10000, c.getSellPrice checks amount feeBasisPoints =
      .ret (.ok (UInt64.ofNat
        (c.sellPrice amount.toNat - c.sellPrice amount.toNat * feeBasisPoints.toNat / 10000)))

/-! ## One order -/

variable {checks : Bool} {c c' : BondingCurveAccount}

theorem Open.exact (h : c.Open) : c.Exact :=
  ⟨fun checks amount => ⟨getBuyPrice_eq h checks amount, (buyPrice_lt h _).le, buyPrice_le_real c _⟩,
    fun checks amount => ⟨grossSellPrice_eq (Nat.add_pos_left h.tokens_pos _) checks, sellPrice_le c _,
      fun _ hf => getSellPrice_eq h checks amount hf⟩⟩

theorem buy_spec {amount s : UInt64} (hc : c.Open) (h : c.buy checks amount = some (c', s)) :
    s.toNat = c.buyPrice amount.toNat ∧ c'.complete = c.complete ∧
    c'.virtualSolReserves.toNat = c.virtualSolReserves.toNat + amount.toNat ∧
    c'.virtualTokenReserves.toNat = c.virtualTokenReserves.toNat - c.buyPrice amount.toNat := by
  have hs : (UInt64.ofNat (c.buyPrice amount.toNat)).toNat = c.buyPrice amount.toNat :=
    Word.toNat_ofNat ((buyPrice_lt hc _).trans c.virtualTokenReserves.toNat_lt)
  rw [buy, getBuyPrice_eq hc] at h
  simp only at h
  split at h
  · next hfit =>
    obtain ⟨rfl, rfl⟩ := Prod.mk.inj (Option.some.inj h)
    refine ⟨hs, rfl, (UInt64.toNat_add _ _).trans (Nat.mod_eq_of_lt hfit), ?_⟩
    refine (UInt64.toNat_sub_of_le _ _ (UInt64.le_iff_toNat_le.mpr ?_)).trans (by rw [hs])
    rw [hs]
    exact (buyPrice_lt hc _).le
  · cases h

theorem sell_spec {amount : UInt64} (hc : c.Open) (h : c.sell checks amount = some c') :
    c'.complete = c.complete ∧
    c'.virtualTokenReserves.toNat = c.virtualTokenReserves.toNat + amount.toNat ∧
    c'.virtualSolReserves.toNat = c.virtualSolReserves.toNat - c.sellPrice amount.toNat := by
  have hn : (UInt64.ofNat (c.sellPrice amount.toNat)).toNat = c.sellPrice amount.toNat :=
    Word.toNat_ofNat ((sellPrice_le c _).trans_lt c.virtualSolReserves.toNat_lt)
  rw [sell, grossSellPrice_eq (Nat.add_pos_left hc.tokens_pos _)] at h
  simp only at h
  split at h
  · next hfit =>
    obtain rfl := Option.some.inj h
    refine ⟨rfl, (UInt64.toNat_add _ _).trans (Nat.mod_eq_of_lt hfit.1), ?_⟩
    refine (UInt64.toNat_sub_of_le _ _ (UInt64.le_iff_toNat_le.mpr ?_)).trans (by rw [hn])
    rw [hn]
    exact sellPrice_le c _
  · cases h

theorem buy_keeps_value {amount s : UInt64} (hc : c.Open) (h : c.buy checks amount = some (c', s)) :
    c'.Open ∧ c.value ≤ c'.value := by
  obtain ⟨-, hcomp, hsol, htok⟩ := buy_spec hc h
  have hlt := buyPrice_lt hc amount.toNat
  refine ⟨⟨hcomp.trans hc.1, UInt64.le_iff_toNat_le.mpr (by rw [htok]; exact Nat.sub_pos_of_lt hlt)⟩, ?_⟩
  rw [value, value, hsol, htok]
  exact product_le_buyPrice hc _

/-- **One order** leaves the curve open and does not lower the product. -/
theorem order_keeps_value (hc : c.Open) {o : Order} (h : c.order checks o = some c') :
    c'.Open ∧ c.value ≤ c'.value := by
  cases o with
  | buy amount =>
    obtain ⟨⟨c'', s⟩, hbuy, rfl⟩ := Option.map_eq_some_iff.mp h
    exact buy_keeps_value hc hbuy
  | sell amount =>
    obtain ⟨hcomp, htok, hsol⟩ := sell_spec hc h
    have hpos := hc.tokens_pos
    refine ⟨⟨hcomp.trans hc.1, UInt64.le_iff_toNat_le.mpr (by rw [htok]; exact Nat.add_pos_left hpos _)⟩, ?_⟩
    rw [value, value, htok, hsol, Nat.mul_comm, Nat.mul_comm (_ - _)]
    exact ConstantProduct.product_le_out hpos _ _

/-- **A round trip never profits**, at any fee of at most 10000 basis points. -/
theorem buy_sell_le {amount s : UInt64} (hc : c.Open) (h : c.buy checks amount = some (c', s))
    {feeBasisPoints : UInt64} (hf : feeBasisPoints ≤ 10000) :
    ∃ x, c'.getSellPrice checks s feeBasisPoints = .ret (.ok x) ∧ x ≤ amount := by
  obtain ⟨hs, -, hsol, htok⟩ := buy_spec hc h
  have hc' := (buy_keeps_value hc h).1
  have hle : c'.sellPrice s.toNat ≤ amount.toNat := by
    rw [sellPrice, hsol, htok, hs]
    exact ConstantProduct.round_trip_le (buyPrice_lt hc _).le (product_le_buyPrice hc _)
  have hnet := (Nat.sub_le (c'.sellPrice s.toNat)
    (c'.sellPrice s.toNat * feeBasisPoints.toNat / 10000)).trans hle
  refine ⟨_, getSellPrice_eq hc' checks s hf, UInt64.le_iff_toNat_le.mpr ?_⟩
  rwa [Word.toNat_ofNat (hnet.trans_lt amount.toNat_lt)]

/-! ## Runs of orders -/

theorem run_keeps_value (hc : c.Open) {orders : List Order} (h : run (order checks) c orders = some c') :
    c'.Open ∧ c.value ≤ c'.value :=
  ⟨run_inv (fun _ _ _ hI hstep => (order_keeps_value hI hstep).1) hc h,
    run_rel (order checks) (R := fun c c' => c.value ≤ c'.value) (fun _ => le_rfl)
      (fun _ _ _ => le_trans) (fun _ _ _ hI hstep => order_keeps_value hI hstep) hc h⟩

/-- **Bonding-curve runs are safe.** On every curve reached from an open one by buys and sales, in
any build, the prices are exact and no reserve underflows, a virtual token is left, the product of
the virtual reserves has not gone down, and selling what was just bought returns at most what was
paid. -/
theorem orders_keep_value (checks : Bool) (c : BondingCurveAccount) (hcomplete : c.complete = false)
    (htokens : 1 ≤ c.virtualTokenReserves) (orders : List Order) (c' : BondingCurveAccount)
    (h : run (order checks) c orders = some c') :
    c'.Exact ∧ 1 ≤ c'.virtualTokenReserves ∧
      c.virtualSolReserves.toNat * c.virtualTokenReserves.toNat ≤
        c'.virtualSolReserves.toNat * c'.virtualTokenReserves.toNat ∧
      ∀ amount c'' s, c'.buy checks amount = some (c'', s) → ∀ feeBasisPoints ≤ 10000,
        ∃ x, c''.getSellPrice checks s feeBasisPoints = .ret (.ok x) ∧ x ≤ amount := by
  obtain ⟨hopen, hval⟩ := run_keeps_value ⟨hcomplete, htokens⟩ h
  exact ⟨hopen.exact, hopen.2, hval, fun _ _ _ hbuy _ hf => buy_sell_le hopen hbuy hf⟩

theorem orders_keep_value_buy_sell :
    ∃ c', run (order true) initial [.buy 1000000000, .sell 34612903225806] = some c' ∧
    30000000000 * 1073000000000000 ≤ c'.virtualSolReserves.toNat * c'.virtualTokenReserves.toNat := by
  refine ⟨{ initial with virtualSolReserves := 30000000001 }, by decide, ?_⟩
  exact (orders_keep_value true initial rfl (by decide) [.buy 1000000000, .sell 34612903225806] _
    (by decide)).2.2.1

end BondingCurveAccount

end PumpTrade
