import PumpTrade.Fee.Model

/-!
# Batch setters

`set_high_low_fee_strategies` and `set_normal_fee_strategies` against their singular forms, called
once for each element. The plural high-low setter does not skip the service `default`, the singular
one does.

* `alone_setHighLow`: what one service is assigned;
* `highLowBatch_eq`, `highLowSingles_eq`: what a list of services is assigned by either form;
* **`batchesAreFolds_iff`**: where the batch setters are folds of the single ones.
-/

namespace PumpTrade

open Base Base.Interleave

/-- The entries that a high-low setter leaves for a service. -/
def highLowEntry (cuLimit : UInt32) (lowCuPrice highCuPrice : UInt64) (lowTip highTip : F64) :
    GasFeeStrategyType → Option GasFeeStrategyValue
  | .normal => none
  | .lowTipHighCuPrice => some { cuLimit, cuPrice := highCuPrice, tip := lowTip }
  | .highTipLowCuPrice => some { cuLimit, cuPrice := lowCuPrice, tip := highTip }

/-- Replace the entries of some services for a trade type. -/
def StrategyMap.assign (m : StrategyMap) (swqosTypes : List SwqosType) (tradeType : TradeType)
    (entry : GasFeeStrategyType → Option GasFeeStrategyValue) : StrategyMap :=
  fun key => if key.1 ∈ swqosTypes ∧ key.2.1 = tradeType then entry key.2.2 else m key

section Assign

variable {tradeType : TradeType} {entry : GasFeeStrategyType → Option GasFeeStrategyValue}

theorem assign_nil (m : StrategyMap) : m.assign [] tradeType entry = m := by
  funext key
  simp [StrategyMap.assign]

theorem assign_assign (m : StrategyMap) (swqosType : SwqosType) (swqosTypes : List SwqosType) :
    (m.assign [swqosType] tradeType entry).assign swqosTypes tradeType entry =
      m.assign (swqosType :: swqosTypes) tradeType entry := by
  funext key
  simp only [StrategyMap.assign, List.mem_cons, List.not_mem_nil, or_false]
  by_cases htr : key.2.1 = tradeType
  · by_cases hmem : key.1 ∈ swqosTypes <;> simp [htr, hmem]
  · simp [htr]

theorem foldl_assign (m : StrategyMap) (swqosTypes : List SwqosType) :
    swqosTypes.foldl (fun m swqosType => m.assign [swqosType] tradeType entry) m =
      m.assign swqosTypes tradeType entry := by
  induction swqosTypes generalizing m with
  | nil => exact (assign_nil m).symm
  | cons swqosType swqosTypes ih => exact (ih _).trans (assign_assign m swqosType swqosTypes)

end Assign

section HighLow

variable (tradeType : TradeType) (cuLimit : UInt32) (lowCuPrice highCuPrice : UInt64) (lowTip highTip : F64)

/-- **What one service is assigned.** -/
theorem alone_setHighLow (swqosType : SwqosType) (m : StrategyMap) :
    alone RcuStep.apply (GasFeeStrategy.setHighLow swqosType tradeType cuLimit lowCuPrice highCuPrice
      lowTip highTip) m =
      m.assign [swqosType] tradeType (highLowEntry cuLimit lowCuPrice highCuPrice lowTip highTip) := by
  funext key
  obtain ⟨sw, tr, st⟩ := key
  have hsteps : GasFeeStrategy.setHighLow swqosType tradeType cuLimit lowCuPrice highCuPrice lowTip highTip =
      [.del (swqosType, tradeType, .normal), .del (swqosType, tradeType, .normal),
        .insert (swqosType, tradeType, .lowTipHighCuPrice) ⟨cuLimit, highCuPrice, lowTip⟩,
        .del (swqosType, tradeType, .normal),
        .insert (swqosType, tradeType, .highTipLowCuPrice) ⟨cuLimit, lowCuPrice, highTip⟩] := rfl
  rw [hsteps]
  simp only [alone, RcuStep.apply, StrategyMap.assign, Function.update_apply, Prod.mk.injEq,
    List.mem_singleton]
  cases st <;> by_cases hkey : sw = swqosType ∧ tr = tradeType <;> simp [hkey, highLowEntry]

theorem highLowBatch_eq (swqosTypes : List SwqosType) (m : StrategyMap) :
    (Call.setHighLowFeeStrategies swqosTypes tradeType cuLimit lowCuPrice highCuPrice lowTip highTip).apply m =
      m.assign swqosTypes tradeType (highLowEntry cuLimit lowCuPrice highCuPrice lowTip highTip) := by
  rw [Call.apply, Call.steps, GasFeeStrategy.setHighLowFeeStrategies, alone_flatMap, ← foldl_assign]
  simp only [alone_setHighLow]

theorem highLowSingles_eq (swqosTypes : List SwqosType) (m : StrategyMap) :
    applyCalls (swqosTypes.map fun swqosType =>
      .setHighLowFeeStrategy swqosType tradeType cuLimit lowCuPrice highCuPrice lowTip highTip) m =
      m.assign (swqosTypes.filter (· ≠ .default)) tradeType
        (highLowEntry cuLimit lowCuPrice highCuPrice lowTip highTip) := by
  rw [applyCalls, List.foldl_map, ← foldl_assign, List.foldl_filter]
  congr 1
  funext m swqosType
  rw [Call.apply, Call.steps, GasFeeStrategy.setHighLowFeeStrategy]
  by_cases hsw : swqosType = .default
  · simp [hsw, alone]
  · simp [hsw, alone_setHighLow]

end HighLow

theorem normalBatch_eq (swqosTypes : List SwqosType) (cuLimit : UInt32) (cuPrice : UInt64)
    (buyTip sellTip : F64) (m : StrategyMap) :
    (Call.setNormalFeeStrategies swqosTypes cuLimit cuPrice buyTip sellTip).apply m =
      applyCalls (swqosTypes.map fun swqosType =>
        .setNormalFeeStrategy swqosType cuLimit cuPrice buyTip sellTip) m := by
  rw [applyCalls, List.foldl_map]
  exact alone_flatMap _ swqosTypes m

/-! ## Folds -/

/-- On this map and this list both batch setters leave what the single ones leave, called in
order. -/
structure BatchesAreFolds (m : StrategyMap) (swqosTypes : List SwqosType) (tradeType : TradeType)
    (cuLimit : UInt32) (lowCuPrice highCuPrice : UInt64) (lowTip highTip : F64) : Prop where
  highLow :
    (Call.setHighLowFeeStrategies swqosTypes tradeType cuLimit lowCuPrice highCuPrice lowTip highTip).apply m =
      applyCalls (swqosTypes.map fun swqosType =>
        .setHighLowFeeStrategy swqosType tradeType cuLimit lowCuPrice highCuPrice lowTip highTip) m
  normal : ∀ cuLimit cuPrice buyTip sellTip,
    (Call.setNormalFeeStrategies swqosTypes cuLimit cuPrice buyTip sellTip).apply m =
      applyCalls (swqosTypes.map fun swqosType =>
        .setNormalFeeStrategy swqosType cuLimit cuPrice buyTip sellTip) m

/-- The map already stores these high and low strategies for the service `default`, and no normal
one. -/
structure DefaultStored (m : StrategyMap) (tradeType : TradeType) (cuLimit : UInt32)
    (lowCuPrice highCuPrice : UInt64) (lowTip highTip : F64) : Prop where
  normal : m (.default, tradeType, .normal) = none
  lowTip : m (.default, tradeType, .lowTipHighCuPrice) = some ⟨cuLimit, highCuPrice, lowTip⟩
  highTip : m (.default, tradeType, .highTipLowCuPrice) = some ⟨cuLimit, lowCuPrice, highTip⟩

theorem defaultStored_iff {m : StrategyMap} {tradeType : TradeType} {cuLimit : UInt32}
    {lowCuPrice highCuPrice : UInt64} {lowTip highTip : F64} :
    DefaultStored m tradeType cuLimit lowCuPrice highCuPrice lowTip highTip ↔ ∀ strategyType,
      m (.default, tradeType, strategyType) =
        highLowEntry cuLimit lowCuPrice highCuPrice lowTip highTip strategyType := by
  constructor
  · intro h strategyType
    cases strategyType with
    | normal => exact h.normal
    | lowTipHighCuPrice => exact h.lowTip
    | highTipLowCuPrice => exact h.highTip
  · exact fun h => ⟨h .normal, h .lowTipHighCuPrice, h .highTipLowCuPrice⟩

/-- Skipping a service makes no difference exactly where it has nothing to be assigned. -/
theorem assign_filter_iff (m : StrategyMap) (swqosTypes : List SwqosType) (skipped : SwqosType)
    (tradeType : TradeType) (entry : GasFeeStrategyType → Option GasFeeStrategyValue) :
    m.assign swqosTypes tradeType entry = m.assign (swqosTypes.filter (· ≠ skipped)) tradeType entry ↔
      (skipped ∈ swqosTypes → ∀ strategyType, m (skipped, tradeType, strategyType) = entry strategyType) := by
  constructor
  · intro h hmem strategyType
    have hkey := congrFun h (skipped, tradeType, strategyType)
    simpa [StrategyMap.assign, hmem] using hkey.symm
  · intro h
    funext key
    obtain ⟨sw, tr, st⟩ := key
    simp only [StrategyMap.assign, List.mem_filter, decide_eq_true_eq]
    by_cases hsw : sw = skipped
    · subst hsw
      by_cases hmem : sw ∈ swqosTypes ∧ tr = tradeType
      · obtain ⟨hmem, rfl⟩ := hmem
        simp [hmem, h hmem st]
      · simp [hmem]
    · simp [hsw]

/-- **Where the batch setters are folds of the single ones**: only a listed `default`, which the
single high-low setter skips, can tell them apart. -/
theorem batchesAreFolds_iff (m : StrategyMap) (swqosTypes : List SwqosType) (tradeType : TradeType)
    (cuLimit : UInt32) (lowCuPrice highCuPrice : UInt64) (lowTip highTip : F64) :
    BatchesAreFolds m swqosTypes tradeType cuLimit lowCuPrice highCuPrice lowTip highTip ↔
      (.default ∈ swqosTypes →
        DefaultStored m tradeType cuLimit lowCuPrice highCuPrice lowTip highTip) := by
  rw [defaultStored_iff, ← assign_filter_iff, ← highLowBatch_eq, ← highLowSingles_eq]
  exact ⟨fun h => h.highLow, fun h => ⟨h, fun cuLimit cuPrice buyTip sellTip =>
    normalBatch_eq swqosTypes cuLimit cuPrice buyTip sellTip m⟩⟩

/-- The batch stores strategies for a listed `default`, the single setter none. -/
theorem highLowBatch_default :
    ¬ BatchesAreFolds GasFeeStrategy.new [.default] .buy 100 1 2 F64.zero F64.zero := by
  intro h
  have hkey := congrFun h.highLow (.default, .buy, .lowTipHighCuPrice)
  revert hkey
  decide

end PumpTrade
