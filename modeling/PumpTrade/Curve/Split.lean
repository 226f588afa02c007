import PumpTrade.Curve.Run

/-!
# Splitting a buy on a bonding curve

What a buyer receives in parts, against a single buy of the sum, also where the real reserves clamp
a part.

* `Moved`: what a run of buys has moved: the reserves by what was paid and received, and if anything
  was paid the product of the virtual reserves has strictly grown;
* `Moved.received_le`: so no more was received than a single buy gives;
* **`buys_le_single_buy`**: splitting a buy never helps.
-/

namespace PumpTrade

open Base

namespace BondingCurveAccount

/-- A buyer's progress: the curve, and the tokens received so far. -/
structure Purchase where
  curve : BondingCurveAccount
  received : ℕ

/-- Buy for an amount of SOL. -/
def Purchase.buy (checks : Bool) (p : Purchase) (amount : UInt64) : Option Purchase :=
  (p.curve.buy checks amount).map fun r => ⟨r.1, p.received + r.2.toNat⟩

/-- What the amounts come to. -/
def totalSol (amounts : List UInt64) : ℕ := (amounts.map UInt64.toNat).sum

/-- From `c` to `c'` so much SOL was paid and so many tokens were received. -/
structure Moved (c c' : BondingCurveAccount) (paid received : ℕ) : Prop where
  sol : c'.virtualSolReserves.toNat = c.virtualSolReserves.toNat + paid
  tokens : c'.virtualTokenReserves.toNat + received = c.virtualTokenReserves.toNat
  real : c'.realTokenReserves.toNat + received = c.realTokenReserves.toNat
  grows : (paid = 0 ∧ received = 0) ∨ c.value < c'.value

variable {checks : Bool} {c c' c'' : BondingCurveAccount} {paid paid' received received' : ℕ}

theorem Moved.refl (c : BondingCurveAccount) : Moved c c 0 0 := ⟨rfl, rfl, rfl, Or.inl ⟨rfl, rfl⟩⟩

theorem Moved.value_eq (h : Moved c c' 0 0) : c'.value = c.value := by
  have hsol : c'.virtualSolReserves.toNat = c.virtualSolReserves.toNat := h.sol
  have htokens : c'.virtualTokenReserves.toNat = c.virtualTokenReserves.toNat := h.tokens
  rw [BondingCurveAccount.value, BondingCurveAccount.value, hsol, htokens]

theorem Moved.trans (h : Moved c c' paid received) (h' : Moved c' c'' paid' received') :
    Moved c c'' (paid + paid') (received + received') where
  sol := by rw [h'.sol, h.sol, Nat.add_assoc]
  tokens := by rw [Nat.add_comm received, ← Nat.add_assoc, h'.tokens, h.tokens]
  real := by rw [Nat.add_comm received, ← Nat.add_assoc, h'.real, h.real]
  grows := by
    rcases h.grows with ⟨rfl, rfl⟩ | hlt
    · rcases h'.grows with ⟨rfl, rfl⟩ | hlt'
      · exact Or.inl ⟨rfl, rfl⟩
      · exact Or.inr (h.value_eq ▸ hlt')
    · rcases h'.grows with ⟨rfl, rfl⟩ | hlt'
      · exact Or.inr (h'.value_eq.symm ▸ hlt)
      · exact Or.inr (hlt.trans hlt')

/-- **No more was received than a single buy gives.** -/
theorem Moved.received_le (hc : c.Open) (h : Moved c c' paid received) : received ≤ c.buyPrice paid := by
  rcases h.grows with ⟨-, rfl⟩ | hlt
  · exact Nat.zero_le _
  have hsol := h.sol
  have htokens := h.tokens
  have hreal := h.real
  unfold BondingCurveAccount.value at hlt
  rw [hsol, show c'.virtualTokenReserves.toNat = c.virtualTokenReserves.toNat - received by omega] at hlt
  have hpaid : paid ≠ 0 := by
    rintro rfl
    rw [Nat.add_zero] at hlt
    have hle := Nat.mul_le_mul_left c.virtualSolReserves.toNat
      (Nat.sub_le c.virtualTokenReserves.toNat received)
    omega
  rw [buyPrice, if_neg hpaid]
  refine le_min ?_ (by omega)
  exact (ConstantProduct.le_outStrict_iff hc.tokens_pos (Nat.pos_of_ne_zero hpaid) (by omega)).mpr hlt

variable (checks) in
/-- **One buy**: it is quoted, and it raises the product, also where it is clamped. -/
theorem buy_moved (hc : c.Open) {amount : UInt64} (hpos : 0 < amount)
    (hfit : c.virtualSolReserves.toNat + amount.toNat < 2 ^ 64) :
    ∃ c' s, c.buy checks amount = some (c', s) ∧ c'.Open ∧ Moved c c' amount.toNat s.toNat := by
  have hprice : c.getBuyPrice checks amount = .ret (.ok (UInt64.ofNat (c.buyPrice amount.toNat))) :=
    getBuyPrice_eq hc checks amount
  have hbuy : ∃ c' s, c.buy checks amount = some (c', s) ∧
      c'.realTokenReserves = c.realTokenReserves - s := by
    rw [buy, hprice]
    simp only [if_pos hfit]
    exact ⟨_, _, rfl, rfl⟩
  obtain ⟨c', s, hbuy, hreal⟩ := hbuy
  have hlt := buyPrice_lt hc amount.toNat
  have hle := buyPrice_le_real c amount.toNat
  obtain ⟨hs, -, hsol, htokens⟩ := buy_spec hc hbuy
  have hne : amount.toNat ≠ 0 := (UInt64.lt_iff_toNat_lt.mp hpos).ne'
  refine ⟨c', s, hbuy, (buy_keeps_value hc hbuy).1, hsol, by omega, ?_, Or.inr ?_⟩
  · rw [hreal, UInt64.toNat_sub_of_le _ _ (UInt64.le_iff_toNat_le.mpr (hs ▸ hle))]
    omega
  · unfold value
    rw [hsol, htokens]
    exact ConstantProduct.product_lt_outStrict hc.tokens_pos (Nat.pos_of_ne_zero hne) _
      (buyPrice_le_outStrict hne)

variable (checks) in
/-- **A run of buys.** -/
theorem buys_moved {p : Purchase} (hc : p.curve.Open) {amounts : List UInt64} (hpos : ∀ a ∈ amounts, 0 < a)
    (hfit : p.curve.virtualSolReserves.toNat + totalSol amounts < 2 ^ 64) :
    ∃ c' received, run (Purchase.buy checks) p amounts = some ⟨c', p.received + received⟩ ∧
      Moved p.curve c' (totalSol amounts) received := by
  induction amounts generalizing p with
  | nil => exact ⟨p.curve, 0, rfl, Moved.refl p.curve⟩
  | cons amount amounts ih =>
    have htotal : totalSol (amount :: amounts) = amount.toNat + totalSol amounts := by
      rw [totalSol, List.map_cons, List.sum_cons]
      rfl
    rw [htotal] at hfit ⊢
    obtain ⟨c₁, s, hbuy, hopen, hmoved⟩ :=
      buy_moved checks hc (hpos amount List.mem_cons_self) (by omega)
    have hstep : Purchase.buy checks p amount = some ⟨c₁, p.received + s.toNat⟩ := by
      rw [Purchase.buy, hbuy]
      rfl
    obtain ⟨c', received, hrun, hmoved'⟩ := ih (p := ⟨c₁, p.received + s.toNat⟩) hopen
      (fun a ha => hpos a (List.mem_cons_of_mem _ ha)) (by
        have hsol := hmoved.sol
        simp only
        omega)
    refine ⟨c', s.toNat + received, ?_, hmoved.trans hmoved'⟩
    rw [run_cons hstep, hrun, Nat.add_assoc]

/-- **Splitting a buy never helps.** Positive amounts that keep the virtual SOL within 64 bits are
all quoted, in every build, and the tokens they receive in turn are at most those of a single buy of
their sum on the initial curve, also where the real reserves clamp one of them. -/
theorem buys_le_single_buy (checks : Bool) (c : BondingCurveAccount) (hcomplete : c.complete = false)
    (htokens : 1 ≤ c.virtualTokenReserves) (amounts : List UInt64) (hpos : ∀ a ∈ amounts, 0 < a)
    (hfit : c.virtualSolReserves.toNat + totalSol amounts < 2 ^ 64) :
    ∃ p s, run (Purchase.buy checks) ⟨c, 0⟩ amounts = some p ∧
      c.getBuyPrice checks (UInt64.ofNat (totalSol amounts)) = .ret (.ok s) ∧ p.received ≤ s.toNat := by
  have hopen : c.Open := ⟨hcomplete, htokens⟩
  obtain ⟨c', received, hrun, hmoved⟩ := buys_moved checks (p := ⟨c, 0⟩) hopen hpos hfit
  have hsum : (UInt64.ofNat (totalSol amounts)).toNat = totalSol amounts := Word.toNat_ofNat (by omega)
  refine ⟨_, _, hrun, getBuyPrice_eq hopen checks _, ?_⟩
  rw [hsum, Word.toNat_ofNat ((buyPrice_lt hopen _).trans c.virtualTokenReserves.toNat_lt), Nat.zero_add]
  exact hmoved.received_le hopen

/-- Two buys of a curve with few real tokens left; the second is clamped. -/
theorem buys_le_single_buy_clamped :
    ∃ p s, run (Purchase.buy true) ⟨{ initial with realTokenReserves := 50000000000000 }, 0⟩
        [1000000000, 1000000000] = some p ∧
      getBuyPrice true { initial with realTokenReserves := 50000000000000 } (UInt64.ofNat 2000000000) =
        .ret (.ok s) ∧ p.received ≤ s.toNat :=
  buys_le_single_buy true { initial with realTokenReserves := 50000000000000 } rfl (by decide)
    [1000000000, 1000000000] (by simp) (by decide)

end BondingCurveAccount

end PumpTrade
