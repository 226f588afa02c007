import Mathlib.Logic.Function.Basic
import PumpTrade.Base.F64
import PumpTrade.Base.Interleave
import PumpTrade.Swqos.Types

/-!
# The gas fee strategy

`GasFeeStrategy` of `common/gas_fee_strategy.rs`: one map, shared by all clones, from a service, a
trade type and a strategy type to fees. Each method is a program of atomic steps on the map, one for
each `rcu` or `store` of the source.

* `StrategyMap`, `RcuStep`: the map and its atomic updates;
* `Call`, `Call.steps`: the methods and their programs;
* `getStrategies`: the read-out for a trade type, through a set of services in any order.
-/

namespace PumpTrade

open Base

/-- How a strategy weighs the tip against the price of the compute units. -/
inductive GasFeeStrategyType where
  | normal | lowTipHighCuPrice | highTipLowCuPrice
  deriving DecidableEq, Repr

/-- All types, in the order of their declaration. -/
def GasFeeStrategyType.values : List GasFeeStrategyType := [.normal, .lowTipHighCuPrice, .highTipLowCuPrice]

/-- The limit and the price of the compute units, and the tip in SOL. -/
structure GasFeeStrategyValue where
  cuLimit : UInt32
  cuPrice : UInt64
  tip : F64
  deriving DecidableEq, Repr

/-- The service, the trade and the type that a strategy is for. -/
abbrev StrategyKey := SwqosType × TradeType × GasFeeStrategyType

/-- The stored strategies. -/
abbrev StrategyMap := StrategyKey → Option GasFeeStrategyValue

/-- An atomic update of the shared map. -/
inductive RcuStep where
  | insert (key : StrategyKey) (value : GasFeeStrategyValue)
  | del (key : StrategyKey)
  | delAll (swqosType : SwqosType) (tradeType : TradeType)
  | updateTip (tradeType : TradeType) (tip : F64)
  | updateCuPrice (tradeType : TradeType) (cuPrice : UInt64)
  | clear
  deriving DecidableEq, Repr

/-- Change the values stored for a trade type. -/
def StrategyMap.modify (m : StrategyMap) (tradeType : TradeType)
    (f : GasFeeStrategyValue → GasFeeStrategyValue) : StrategyMap :=
  fun key => if key.2.1 = tradeType then (m key).map f else m key

theorem map_modify {α : Type} {f : GasFeeStrategyValue → GasFeeStrategyValue} {g : GasFeeStrategyValue → α}
    (hg : ∀ value, g (f value) = g value) (m : StrategyMap) (tradeType : TradeType) (key : StrategyKey) :
    (m.modify tradeType f key).map g = (m key).map g := by
  unfold StrategyMap.modify
  split_ifs
  · rw [Option.map_map]
    exact congrArg (fun h => (m key).map h) (funext hg)
  · rfl

theorem isSome_modify (f : GasFeeStrategyValue → GasFeeStrategyValue) (m : StrategyMap) (tradeType : TradeType)
    (key : StrategyKey) : (m.modify tradeType f key).isSome = (m key).isSome := by
  simpa using congrArg Option.isSome (map_modify (f := f) (g := fun _ => ()) (fun _ => rfl) m tradeType key)

/-- What an atomic update makes of the map. -/
def RcuStep.apply : RcuStep → StrategyMap → StrategyMap
  | .insert key value, m => Function.update m key (some value)
  | .del key, m => Function.update m key none
  | .delAll swqosType tradeType, m =>
    Function.update (Function.update (Function.update m (swqosType, tradeType, .normal) none)
      (swqosType, tradeType, .lowTipHighCuPrice) none) (swqosType, tradeType, .highTipLowCuPrice) none
  | .updateTip tradeType tip, m => m.modify tradeType fun value => { value with tip }
  | .updateCuPrice tradeType cuPrice, m => m.modify tradeType fun value => { value with cuPrice }
  | .clear, _ => fun _ => none

namespace GasFeeStrategy

/-- The empty map. -/
def new : StrategyMap := fun _ => none

/-! ## The methods -/

/-- Store one strategy, removing first what excludes it. -/
def set (swqosType : SwqosType) (tradeType : TradeType) (strategyType : GasFeeStrategyType)
    (cuLimit : UInt32) (cuPrice : UInt64) (tip : F64) : List RcuStep :=
  (if strategyType = .normal then
    [.del (swqosType, tradeType, .highTipLowCuPrice), .del (swqosType, tradeType, .lowTipHighCuPrice)]
  else [.del (swqosType, tradeType, .normal)]) ++
  [.insert (swqosType, tradeType, strategyType) { cuLimit, cuPrice, tip }]

/-- One normal strategy for each service, without a tip for the default one. -/
def setGlobalFeeStrategy (buyCuLimit sellCuLimit : UInt32) (buyCuPrice sellCuPrice : UInt64)
    (buyTip sellTip : F64) : List RcuStep :=
  (SwqosType.values.flatMap fun swqosType =>
    if swqosType = .default then []
    else set swqosType .buy .normal buyCuLimit buyCuPrice buyTip ++
      set swqosType .sell .normal sellCuLimit sellCuPrice sellTip) ++
  set .default .buy .normal buyCuLimit buyCuPrice F64.zero ++
  set .default .sell .normal sellCuLimit sellCuPrice F64.zero

/-- The body of `setHighLowFeeStrategies` for one service. -/
def setHighLow (swqosType : SwqosType) (tradeType : TradeType) (cuLimit : UInt32)
    (lowCuPrice highCuPrice : UInt64) (lowTip highTip : F64) : List RcuStep :=
  [.del (swqosType, tradeType, .normal)] ++
  set swqosType tradeType .lowTipHighCuPrice cuLimit highCuPrice lowTip ++
  set swqosType tradeType .highTipLowCuPrice cuLimit lowCuPrice highTip

/-- High and low strategies for several services; `default` is not skipped here. -/
def setHighLowFeeStrategies (swqosTypes : List SwqosType) (tradeType : TradeType) (cuLimit : UInt32)
    (lowCuPrice highCuPrice : UInt64) (lowTip highTip : F64) : List RcuStep :=
  swqosTypes.flatMap fun swqosType =>
    setHighLow swqosType tradeType cuLimit lowCuPrice highCuPrice lowTip highTip

/-- The two strategies of a service, except the default one. -/
def setHighLowFeeStrategy (swqosType : SwqosType) (tradeType : TradeType) (cuLimit : UInt32)
    (lowCuPrice highCuPrice : UInt64) (lowTip highTip : F64) : List RcuStep :=
  if swqosType = .default then []
  else setHighLow swqosType tradeType cuLimit lowCuPrice highCuPrice lowTip highTip

/-- The normal strategy of a service, in place of all its strategies. -/
def setNormalFeeStrategy (swqosType : SwqosType) (cuLimit : UInt32) (cuPrice : UInt64)
    (buyTip sellTip : F64) : List RcuStep :=
  [.delAll swqosType .buy, .delAll swqosType .sell] ++
  set swqosType .buy .normal cuLimit cuPrice buyTip ++
  set swqosType .sell .normal cuLimit cuPrice sellTip

/-- The normal strategy of each of the services. -/
def setNormalFeeStrategies (swqosTypes : List SwqosType) (cuLimit : UInt32) (cuPrice : UInt64)
    (buyTip sellTip : F64) : List RcuStep :=
  swqosTypes.flatMap fun swqosType => setNormalFeeStrategy swqosType cuLimit cuPrice buyTip sellTip

end GasFeeStrategy

/-- A call of one of the methods that change the map. -/
inductive Call where
  | set (swqosType : SwqosType) (tradeType : TradeType) (strategyType : GasFeeStrategyType)
    (cuLimit : UInt32) (cuPrice : UInt64) (tip : F64)
  | del (swqosType : SwqosType) (tradeType : TradeType) (strategyType : GasFeeStrategyType)
  | delAll (swqosType : SwqosType) (tradeType : TradeType)
  | setGlobalFeeStrategy (buyCuLimit sellCuLimit : UInt32) (buyCuPrice sellCuPrice : UInt64)
    (buyTip sellTip : F64)
  | setHighLowFeeStrategy (swqosType : SwqosType) (tradeType : TradeType) (cuLimit : UInt32)
    (lowCuPrice highCuPrice : UInt64) (lowTip highTip : F64)
  | setHighLowFeeStrategies (swqosTypes : List SwqosType) (tradeType : TradeType) (cuLimit : UInt32)
    (lowCuPrice highCuPrice : UInt64) (lowTip highTip : F64)
  | setNormalFeeStrategy (swqosType : SwqosType) (cuLimit : UInt32) (cuPrice : UInt64)
    (buyTip sellTip : F64)
  | setNormalFeeStrategies (swqosTypes : List SwqosType) (cuLimit : UInt32) (cuPrice : UInt64)
    (buyTip sellTip : F64)
  | clear
  | updateBuyTip (buyTip : F64)
  | updateSellTip (sellTip : F64)
  | updateBuyCuPrice (buyCuPrice : UInt64)
  | updateSellCuPrice (sellCuPrice : UInt64)
  deriving DecidableEq, Repr

/-- The atomic steps of a call. -/
def Call.steps : Call → List RcuStep
  | .set sw tr st limit price tip => GasFeeStrategy.set sw tr st limit price tip
  | .del sw tr st => [.del (sw, tr, st)]
  | .delAll sw tr => [.delAll sw tr]
  | .setGlobalFeeStrategy bl sl bp sp bt st => GasFeeStrategy.setGlobalFeeStrategy bl sl bp sp bt st
  | .setHighLowFeeStrategy sw tr limit lp hp lt ht =>
    GasFeeStrategy.setHighLowFeeStrategy sw tr limit lp hp lt ht
  | .setHighLowFeeStrategies sws tr limit lp hp lt ht =>
    GasFeeStrategy.setHighLowFeeStrategies sws tr limit lp hp lt ht
  | .setNormalFeeStrategy sw limit price bt st => GasFeeStrategy.setNormalFeeStrategy sw limit price bt st
  | .setNormalFeeStrategies sws limit price bt st =>
    GasFeeStrategy.setNormalFeeStrategies sws limit price bt st
  | .clear => [.clear]
  | .updateBuyTip tip => [.updateTip .buy tip]
  | .updateSellTip tip => [.updateTip .sell tip]
  | .updateBuyCuPrice price => [.updateCuPrice .buy price]
  | .updateSellCuPrice price => [.updateCuPrice .sell price]

/-- A call made while no other runs. -/
def Call.apply (c : Call) (m : StrategyMap) : StrategyMap := Interleave.alone RcuStep.apply c.steps m

/-- Calls made one after the other. -/
def applyCalls (calls : List Call) (m : StrategyMap) : StrategyMap := calls.foldl (fun m c => c.apply m) m

/-! ## Reading -/

/-- The order in which a `HashSet` of services is iterated over: some order of all of them, of which
those in the set are visited. -/
structure HashOrder where
  order : List SwqosType
  perm : order.Perm SwqosType.values

/-- The order of the source, as one that may occur. -/
def HashOrder.declared : HashOrder := ⟨SwqosType.values, List.Perm.refl _⟩

/-- A strategy is stored for the service and the trade type. -/
def StrategyMap.hasType (m : StrategyMap) (tradeType : TradeType) (swqosType : SwqosType) : Bool :=
  GasFeeStrategyType.values.any fun strategyType => (m (swqosType, tradeType, strategyType)).isSome

/-- The strategies stored for a service and a trade type, in the order of the strategy types. -/
def StrategyMap.block (m : StrategyMap) (tradeType : TradeType) (swqosType : SwqosType) :
    List (GasFeeStrategyType × GasFeeStrategyValue) :=
  GasFeeStrategyType.values.filterMap fun strategyType =>
    (m (swqosType, tradeType, strategyType)).map fun value => (strategyType, value)

/-- All strategies for a trade type. -/
def getStrategies (hash : HashOrder) (m : StrategyMap) (tradeType : TradeType) :
    List (SwqosType × GasFeeStrategyType × GasFeeStrategyValue) :=
  (hash.order.filter (m.hasType tradeType)).flatMap fun swqosType =>
    (m.block tradeType swqosType).map fun e => (swqosType, e)

end PumpTrade
