import Mathlib.Data.Fin.VecNotation
import PumpTrade.Fee.Exclusive

/-!
# Concurrent changes of the fee strategy

Calls on clones of one strategy, their atomic steps interleaved in any order. `set` removes what
excludes its key in one update and stores the key in another, so two calls may each remove before
either stores.

* `Call.settles`: a call that stores a key leaves it stored;
* **`exclusiveAtEnd_iff`**: the map is exclusive once all calls have returned, for every
  interleaving, exactly when no two calls store keys that exclude each other.
-/

namespace PumpTrade

open Base Base.Interleave

/-- The update removes the key, or, for a normal key, one of those that exclude it. -/
def RcuStep.Disturbs (k : StrategyKey) (b : RcuStep) : Prop :=
  b.Removes k ∨ k.2.2 = .normal ∧ ∃ k', Excludes k k' ∧ b.Removes k'

/-- The program stores `k` and does not disturb it afterwards. -/
abbrev StoresLast (k : StrategyKey) : List RcuStep → Prop :=
  Settles (RcuStep.Inserts k) (RcuStep.Disturbs k)

namespace GasFeeStrategy

variable {k : StrategyKey} {swqosType : SwqosType} {tradeType : TradeType}
  {strategyType : GasFeeStrategyType} {cuLimit sellCuLimit : UInt32}
  {cuPrice sellCuPrice highCuPrice : UInt64} {tip sellTip highTip : F64}

theorem set_storesLast (h : k = (swqosType, tradeType, strategyType)) :
    StoresLast k (set swqosType tradeType strategyType cuLimit cuPrice tip) :=
  ⟨_, _, [], rfl, h.symm, fun _ hc => absurd hc List.not_mem_nil⟩

theorem set_not_disturbs (h : k.1 ≠ swqosType ∨ k.2.1 ≠ tradeType) :
    ∀ b ∈ set swqosType tradeType strategyType cuLimit cuPrice tip, ¬ b.Disturbs k := by
  have hdel : ∀ k' st, k'.1 = k.1 → k'.2.1 = k.2.1 →
      ¬ RcuStep.Removes k' (.del (swqosType, tradeType, st)) := by
    rintro _ st h1 h2 rfl
    exact h.elim (fun h => h h1.symm) fun h => h h2.symm
  intro b hb hd
  rcases mem_set hb with rfl | ⟨st, -, rfl⟩
  · obtain hr | ⟨-, k', -, hr⟩ := hd <;> exact hr
  · obtain hr | ⟨-, k', hex, hr⟩ := hd
    · exact hdel k st rfl rfl hr
    · exact hdel k' st hex.1.symm hex.2.1.symm hr

theorem set_not_disturbs_highLow (hk : k.2.2 ≠ .normal) (hst : strategyType ≠ .normal) :
    ∀ b ∈ set swqosType tradeType strategyType cuLimit cuPrice tip, ¬ b.Disturbs k := by
  intro b hb hd
  have hr := hd.resolve_right fun h => hk h.1
  rcases mem_set hb with rfl | ⟨st, hex, rfl⟩
  · exact hr
  · obtain rfl : (swqosType, tradeType, st) = k := hr
    exact hst (hex.mpr hk)

/-- The two trade types that the normal setters store, one service at a time. -/
theorem setBoth_storesLast (hk : k.1 = swqosType ∧ (k.2.1 = .buy ∨ k.2.1 = .sell) ∧ k.2.2 = .normal) :
    StoresLast k (set swqosType .buy .normal cuLimit cuPrice tip ++
      set swqosType .sell .normal sellCuLimit sellCuPrice sellTip) := by
  obtain ⟨sw, tr, st⟩ := k
  obtain ⟨rfl, rfl | rfl, rfl⟩ := hk
  · exact (set_storesLast rfl).append (set_not_disturbs (Or.inr (by simp)))
  · exact (set_storesLast rfl).append_left _

theorem setBoth_not_disturbs (hk : k.1 ≠ swqosType) :
    ∀ b ∈ set swqosType .buy .normal cuLimit cuPrice tip ++
      set swqosType .sell .normal sellCuLimit sellCuPrice sellTip, ¬ b.Disturbs k := by
  intro b hb
  exact (List.mem_append.mp hb).elim (set_not_disturbs (Or.inl hk) b) (set_not_disturbs (Or.inl hk) b)

theorem setNormal_storesLast (hk : k.1 = swqosType ∧ (k.2.1 = .buy ∨ k.2.1 = .sell) ∧ k.2.2 = .normal) :
    StoresLast k (setNormalFeeStrategy swqosType cuLimit cuPrice tip sellTip) := by
  unfold setNormalFeeStrategy
  rw [List.append_assoc]
  exact (setBoth_storesLast hk).append_left _

theorem setNormal_not_disturbs (hk : k.1 ≠ swqosType) :
    ∀ b ∈ setNormalFeeStrategy swqosType cuLimit cuPrice tip sellTip, ¬ b.Disturbs k := by
  unfold setNormalFeeStrategy
  intro b hb hd
  rw [List.append_assoc] at hb
  rcases List.mem_append.mp hb with hb | hb
  · have hdel : ∀ tr, b = .delAll swqosType tr → False := by
      rintro tr rfl
      obtain hr | ⟨-, k', hex, hr⟩ := hd
      · exact hk hr.1.symm
      · exact hk (hex.1.trans hr.1.symm)
    obtain h | h : b = .delAll swqosType .buy ∨ b = .delAll swqosType .sell := by simpa using hb
    · exact hdel _ h
    · exact hdel _ h
  · exact setBoth_not_disturbs hk b hb hd

theorem setHighLow_storesLast (hk : k.1 = swqosType ∧ k.2.1 = tradeType ∧ k.2.2 ≠ .normal) :
    StoresLast k (setHighLow swqosType tradeType cuLimit cuPrice highCuPrice tip highTip) := by
  obtain ⟨sw, tr, st⟩ := k
  obtain ⟨rfl, rfl, hst⟩ := hk
  cases st with
  | normal => exact absurd rfl hst
  | lowTipHighCuPrice =>
    exact ((set_storesLast rfl).append_left _).append (set_not_disturbs_highLow hst (by decide))
  | highTipLowCuPrice => exact (set_storesLast rfl).append_left _

theorem setHighLow_not_disturbs (hk : k.2.2 ≠ .normal) :
    ∀ b ∈ setHighLow swqosType tradeType cuLimit cuPrice highCuPrice tip highTip, ¬ b.Disturbs k := by
  intro b hb
  rcases List.mem_append.mp hb with hb | hb
  · rcases List.mem_append.mp hb with hb | hb
    · obtain rfl := List.mem_singleton.mp hb
      rintro (hr | h)
      · obtain rfl : (swqosType, tradeType, .normal) = k := hr
        exact hk rfl
      · exact hk h.1
    · exact set_not_disturbs_highLow hk (by decide) b hb
  · exact set_not_disturbs_highLow hk (by decide) b hb

end GasFeeStrategy

open GasFeeStrategy in
/-- **A call that stores a key leaves it stored**, and the keys that exclude a normal one alone. -/
theorem Call.settles {c : Call} {k : StrategyKey} (h : c.Stores k) : StoresLast k c.steps := by
  cases c with
  | set => exact set_storesLast h
  | setGlobalFeeStrategy bl sl bp sp bt st =>
    simp only [steps, GasFeeStrategy.setGlobalFeeStrategy]
    rw [List.append_assoc]
    by_cases hsw : k.1 = .default
    · exact (setBoth_storesLast ⟨hsw, h⟩).append_left _
    · refine Settles.append (Settles.flatMap (fun sw _ => ?_) ⟨k.1, SwqosType.mem_values _, ?_⟩)
        (setBoth_not_disturbs hsw)
      · split_ifs
        · exact Or.inr fun c hc => absurd hc List.not_mem_nil
        · by_cases hk : k.1 = sw
          · exact Or.inl (setBoth_storesLast ⟨hk, h⟩)
          · exact Or.inr (setBoth_not_disturbs hk)
      · rw [if_neg hsw]
        exact setBoth_storesLast ⟨rfl, h⟩
  | setHighLowFeeStrategy =>
    simp only [steps, GasFeeStrategy.setHighLowFeeStrategy]
    rw [if_neg h.1]
    exact setHighLow_storesLast h.2
  | setHighLowFeeStrategies =>
    exact Settles.flatMap (fun sw _ => Or.inr (setHighLow_not_disturbs h.2.2))
      ⟨k.1, h.1, setHighLow_storesLast ⟨rfl, h.2⟩⟩
  | setNormalFeeStrategy => exact setNormal_storesLast h
  | setNormalFeeStrategies =>
    refine Settles.flatMap (fun sw _ => ?_) ⟨k.1, h.1, setNormal_storesLast ⟨rfl, h.2⟩⟩
    by_cases hk : k.1 = sw
    · exact Or.inl (setNormal_storesLast ⟨hk, h.2⟩)
    · exact Or.inr (setNormal_not_disturbs hk)
  | _ => exact h.elim

/-! ## The end of an interleaving -/

variable {n : ℕ}

/-- However the steps of the calls interleave, the map is exclusive once all have returned. -/
def ExclusiveAtEnd (calls : Fin n → Call) (m : StrategyMap) : Prop :=
  ∀ acts t, run (Interleave.step RcuStep.apply) ⟨fun i => (calls i).steps, m⟩ acts = some t →
    Interleave.Done t → t.shared.Exclusive

/-- Two calls, one of which stores a normal strategy and the other a high or low one for the same
service and trade type. -/
def Conflict (calls : Fin n → Call) : Prop := ∃ i j swqosType tradeType strategyType,
  strategyType ≠ .normal ∧ (calls i).Stores (swqosType, tradeType, .normal) ∧
    (calls j).Stores (swqosType, tradeType, strategyType)

/-- **The bad interleaving**: one call runs up to its last store, then the other call, then the rest
of the first. -/
theorem exists_run_both {calls : Fin n → Call} {i j : Fin n} {k k' : StrategyKey} (hk : k.2.2 = .normal)
    (hex : Excludes k k') (hi : (calls i).Stores k) (hj : (calls j).Stores k') (m : StrategyMap) :
    ∃ acts t, run (Interleave.step RcuStep.apply) ⟨fun i => (calls i).steps, m⟩ acts = some t ∧
      Interleave.Done t ∧ (t.shared k).isSome ∧ (t.shared k').isSome := by
  have hne : j ≠ i := by
    rintro rfl
    exact Call.not_stores_of_excludes hex hi hj
  obtain ⟨pre, b, post, hsteps, hb, hpost⟩ := Call.settles hi
  obtain ⟨acts, t, m₁, hrun, hdone, hshared⟩ := exists_run_split List.mem_finRange
    (fun i => (calls i).steps) hne hsteps m
  have hsecond : (alone RcuStep.apply (calls j).steps (alone RcuStep.apply pre m₁) k').isSome :=
    (Call.settles hj).alone (P := fun m : StrategyMap => (m k').isSome)
      (fun c m hc => RcuStep.apply_of_inserts hc m)
      (fun c m hc => RcuStep.apply_isSome fun hr => hc (Or.inl hr)) _
  have hb' : ¬ b.Removes k' := by
    intro hr
    cases b with
    | insert key value => exact hr
    | _ => exact hb
  refine ⟨acts, t, hrun, hdone, ?_, ?_⟩
  · rw [hshared]
    exact alone_keeps (RcuStep.Disturbs k) (fun m : StrategyMap => (m k).isSome)
      (fun c m hc => RcuStep.apply_isSome fun hr => hc (Or.inl hr)) hpost (RcuStep.apply_of_inserts hb _)
  · rw [hshared]
    exact alone_keeps (RcuStep.Disturbs k) (fun m : StrategyMap => (m k').isSome)
      (fun c m hc => RcuStep.apply_isSome fun hr => hc (Or.inr ⟨hk, k', hex, hr⟩)) hpost
      (RcuStep.apply_isSome hb' hsecond)

/-- **Concurrent calls keep the strategy exclusive exactly when none conflict.** -/
theorem exclusiveAtEnd_iff (calls : Fin n → Call) (m : StrategyMap) (hm : m.Exclusive) :
    ExclusiveAtEnd calls m ↔ ¬ Conflict calls := by
  constructor
  · rintro h ⟨i, j, sw, tr, st, hst, hi, hj⟩
    have hex : Excludes (sw, tr, .normal) (sw, tr, st) := ⟨rfl, rfl, by simp [hst]⟩
    obtain ⟨acts, t, hrun, hdone, hk, hk'⟩ := exists_run_both rfl hex hi hj m
    exact StrategyMap.exclusive_iff.mp (h acts t hrun hdone) _ _ hex ⟨hk, hk'⟩
  · intro hno acts t hrun _
    refine interleaved_exclusive calls ?_ hm hrun
    rintro ⟨sw, tr, st⟩ ⟨sw', tr', st'⟩ ⟨hsw, htr, hst⟩ i j hi hj
    obtain rfl : sw = sw' := hsw
    obtain rfl : tr = tr' := htr
    by_cases hn : st = .normal
    · subst hn
      exact hno ⟨i, j, sw, tr, st', hst.mp rfl, hi, hj⟩
    · obtain rfl : st' = .normal := by_contra fun h => hn (hst.mpr h)
      exact hno ⟨j, i, sw, tr, st, hn, hj, hi⟩

theorem exclusiveAtEnd_iff_two_services :
    ExclusiveAtEnd
      ![.set .jito .buy .normal 100 1 F64.zero, .set .temporal .buy .lowTipHighCuPrice 100 1 F64.zero]
      GasFeeStrategy.new := by
  refine (exclusiveAtEnd_iff _ _ new_exclusive).mpr ?_
  simp [Conflict, Fin.exists_fin_two, Call.Stores]

/-- Both calls remove what excludes their key before either has stored its own. -/
theorem set_beside_set :
    ¬ ExclusiveAtEnd
      ![.set .jito .buy .normal 100 1 F64.zero, .set .jito .buy .lowTipHighCuPrice 100 1 F64.zero]
      GasFeeStrategy.new := by
  intro h
  refine h [0, 0, 1, 1, 0] _ rfl (fun i => ?_) .jito .buy ⟨rfl, Or.inl rfl⟩
  match i with
  | 0 => rfl
  | 1 => rfl

end PumpTrade
