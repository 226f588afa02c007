import Mathlib.Data.List.Nodup
import PumpTrade.Fee.Exclusive

/-!
# Reading the strategies

What `getStrategies` lists, in whatever order the set of services is iterated over.

* `mem_getStrategies`, `getStrategies_nodup`: every stored strategy of the trade type, once;
* `block_shape`: in an exclusive map the strategies of a service are the normal one alone, or the
  low and the high one in this order;
* **`getStrategies_applyCalls`**: so it is after any calls made one after the other.
-/

namespace PumpTrade

variable {m : StrategyMap} {hash : HashOrder} {tradeType : TradeType}

theorem mem_block {swqosType : SwqosType} {e : GasFeeStrategyType × GasFeeStrategyValue} :
    e ∈ m.block tradeType swqosType ↔ m (swqosType, tradeType, e.1) = some e.2 := by
  unfold StrategyMap.block
  rw [List.mem_filterMap]
  constructor
  · rintro ⟨st, -, h⟩
    obtain ⟨value, hvalue, rfl⟩ := Option.map_eq_some_iff.mp h
    exact hvalue
  · intro h
    exact ⟨e.1, by cases e.1 <;> decide, by rw [h]; rfl⟩

theorem block_types (swqosType : SwqosType) : (m.block tradeType swqosType).map Prod.fst =
    GasFeeStrategyType.values.filter fun st => (m (swqosType, tradeType, st)).isSome := by
  unfold StrategyMap.block
  rw [List.map_filterMap, ← List.filterMap_eq_filter]
  congr 1
  funext st
  cases h : m (swqosType, tradeType, st) <;> simp [h, Option.guard]

theorem hasType_iff {swqosType : SwqosType} :
    m.hasType tradeType swqosType ↔ ∃ st, (m (swqosType, tradeType, st)).isSome := by
  unfold StrategyMap.hasType
  rw [List.any_eq_true]
  constructor
  · rintro ⟨st, -, h⟩
    exact ⟨st, h⟩
  · rintro ⟨st, h⟩
    exact ⟨st, by cases st <;> decide, h⟩

/-- **The list has exactly the stored strategies** of the trade type. -/
theorem mem_getStrategies {swqosType : SwqosType} {strategyType : GasFeeStrategyType}
    {value : GasFeeStrategyValue} : (swqosType, strategyType, value) ∈ getStrategies hash m tradeType ↔
      m (swqosType, tradeType, strategyType) = some value := by
  unfold getStrategies
  rw [List.mem_flatMap]
  constructor
  · rintro ⟨sw, -, h⟩
    obtain ⟨e, he, heq⟩ := List.mem_map.mp h
    obtain ⟨rfl, rfl⟩ := Prod.mk.inj heq
    exact mem_block.mp he
  · intro h
    refine ⟨swqosType, List.mem_filter.mpr ⟨hash.perm.mem_iff.mpr (SwqosType.mem_values _), ?_⟩, ?_⟩
    · exact hasType_iff.mpr ⟨strategyType, by rw [h]; rfl⟩
    · exact List.mem_map.mpr ⟨(strategyType, value), mem_block.mpr h, rfl⟩

/-- The services listed, each once. -/
def strategyTypes (hash : HashOrder) (m : StrategyMap) (tradeType : TradeType) : List SwqosType :=
  hash.order.filter (m.hasType tradeType)

theorem strategyTypes_nodup : (strategyTypes hash m tradeType).Nodup :=
  (hash.perm.nodup_iff.mpr SwqosType.values_nodup).filter _

/-- **Each key is listed once.** -/
theorem getStrategies_nodup :
    ((getStrategies hash m tradeType).map fun e => (e.1, e.2.1)).Nodup := by
  have hkeys : (getStrategies hash m tradeType).map (fun e => (e.1, e.2.1)) =
      (strategyTypes hash m tradeType).flatMap fun sw =>
        (GasFeeStrategyType.values.filter fun st => (m (sw, tradeType, st)).isSome).map (sw, ·) := by
    unfold getStrategies strategyTypes
    rw [List.map_flatMap]
    refine List.flatMap_congr fun sw _ => ?_
    rw [← block_types, List.map_map, List.map_map]
    rfl
  rw [hkeys, List.nodup_flatMap]
  constructor
  · intro sw _
    have hvalues : GasFeeStrategyType.values.Nodup := by decide
    exact (hvalues.filter _).map fun _ _ h => (Prod.mk.inj h).2
  · refine strategyTypes_nodup.imp fun {sw sw'} hne => ?_
    change List.Disjoint _ _
    rw [List.disjoint_left]
    intro e he he'
    obtain ⟨st, -, rfl⟩ := List.mem_map.mp he
    obtain ⟨st', -, heq⟩ := List.mem_map.mp he'
    exact hne (Prod.mk.inj heq).1.symm

/-- The strategies of a service are the normal one alone, or some of the low and the high one. -/
def BlockShape (types : List GasFeeStrategyType) : Prop :=
  types = [.normal] ∨ types ≠ [] ∧ types.Sublist [.lowTipHighCuPrice, .highTipLowCuPrice]

theorem block_shape (hm : m.Exclusive) {swqosType : SwqosType} (h : m.hasType tradeType swqosType) :
    BlockShape ((m.block tradeType swqosType).map Prod.fst) := by
  obtain ⟨st, hst⟩ := hasType_iff.mp h
  have hex := hm swqosType tradeType
  rw [block_types]
  by_cases hn : (m (swqosType, tradeType, .normal)).isSome
  · left
    have hlow : ¬ (m (swqosType, tradeType, .lowTipHighCuPrice)).isSome := fun h => hex ⟨hn, Or.inl h⟩
    have hhigh : ¬ (m (swqosType, tradeType, .highTipLowCuPrice)).isSome := fun h => hex ⟨hn, Or.inr h⟩
    simp [GasFeeStrategyType.values, hn, hlow, hhigh]
  · right
    have hfilter : GasFeeStrategyType.values.filter (fun st => (m (swqosType, tradeType, st)).isSome) =
        [.lowTipHighCuPrice, .highTipLowCuPrice].filter
          fun st => (m (swqosType, tradeType, st)).isSome := List.filter_cons_of_neg hn
    refine ⟨?_, by rw [hfilter]; exact List.filter_sublist⟩
    exact List.ne_nil_of_mem (List.mem_filter.mpr ⟨by cases st <;> decide, hst⟩)

/-- **The fee strategies after any calls made one after the other.** No service and trade type has a
normal strategy beside a high or a low one. In whatever order the services come, the read-out of a
trade type has each stored strategy once and nothing else, in one block for each service, which is
the normal strategy alone or some of the low and the high one in this order. -/
theorem getStrategies_applyCalls (calls : List Call) :
    (applyCalls calls GasFeeStrategy.new).Exclusive ∧ ∀ (hash : HashOrder) (tradeType : TradeType),
      (∀ swqosType strategyType value,
        (swqosType, strategyType, value) ∈
            getStrategies hash (applyCalls calls GasFeeStrategy.new) tradeType ↔
          applyCalls calls GasFeeStrategy.new (swqosType, tradeType, strategyType) = some value) ∧
      ((getStrategies hash (applyCalls calls GasFeeStrategy.new) tradeType).map
        fun e => (e.1, e.2.1)).Nodup ∧
      ∃ blocks : List (SwqosType × List (GasFeeStrategyType × GasFeeStrategyValue)),
        (blocks.map Prod.fst).Nodup ∧ (∀ b ∈ blocks, BlockShape (b.2.map Prod.fst)) ∧
        getStrategies hash (applyCalls calls GasFeeStrategy.new) tradeType =
          blocks.flatMap fun b => b.2.map fun e => (b.1, e) := by
  have hm := applyCalls_exclusive calls new_exclusive
  generalize applyCalls calls GasFeeStrategy.new = m at hm ⊢
  refine ⟨hm, fun hash tradeType => ⟨fun _ _ _ => mem_getStrategies, getStrategies_nodup, ?_⟩⟩
  refine ⟨(strategyTypes hash m tradeType).map fun sw => (sw, m.block tradeType sw), ?_, ?_, ?_⟩
  · rw [List.map_map]
    exact strategyTypes_nodup.map fun _ _ h => h
  · intro b hb
    obtain ⟨sw, hsw, rfl⟩ := List.mem_map.mp hb
    exact block_shape hm (List.mem_filter.mp hsw).2
  · rw [List.flatMap_map]
    rfl

end PumpTrade
