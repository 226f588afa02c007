import Mathlib.Data.List.Induction
import PumpTrade.Fee.Model

/-!
# Dynamic updates

`update_buy_tip`, `update_sell_tip`, `update_buy_cu_price` and `update_sell_cu_price`: each one
atomic step that writes one field of every stored value of one side.

* `Update.Frame`: what an update leaves alone;
* `LastWritten`: the last value that a sequence of steps writes by each of the four functions;
* `alone_eq_lastWritten`: a sequence of updates leaves what its last values leave;
* **`updates_orderIndependent`**: so the updates of concurrent clones leave a map that depends on
  nothing else.
-/

namespace PumpTrade

open Base Base.Interleave

/-- The four functions. -/
inductive UpdateFn where
  | buyTip | sellTip | buyCuPrice | sellCuPrice
  deriving DecidableEq, Repr

/-- A call of one of them. -/
inductive Update where
  | buyTip (tip : F64)
  | sellTip (tip : F64)
  | buyCuPrice (cuPrice : UInt64)
  | sellCuPrice (cuPrice : UInt64)
  deriving DecidableEq, Repr

namespace Update

/-- The call of an update. -/
def call : Update → Call
  | buyTip tip => .updateBuyTip tip
  | sellTip tip => .updateSellTip tip
  | buyCuPrice cuPrice => .updateBuyCuPrice cuPrice
  | sellCuPrice cuPrice => .updateSellCuPrice cuPrice

/-- The one atomic step of the call. -/
def step : Update → RcuStep
  | buyTip tip => .updateTip .buy tip
  | sellTip tip => .updateTip .sell tip
  | buyCuPrice cuPrice => .updateCuPrice .buy cuPrice
  | sellCuPrice cuPrice => .updateCuPrice .sell cuPrice

/-- The function of an update. -/
def fn : Update → UpdateFn
  | buyTip _ => .buyTip
  | sellTip _ => .sellTip
  | buyCuPrice _ => .buyCuPrice
  | sellCuPrice _ => .sellCuPrice

theorem call_steps (u : Update) : u.call.steps = [u.step] := by
  cases u <;> rfl

theorem call_apply (u : Update) (m : StrategyMap) : u.call.apply m = u.step.apply m := by
  rw [Call.apply, call_steps]
  rfl

end Update

/-- The trade type whose values a function writes. -/
def UpdateFn.side : UpdateFn → TradeType
  | buyTip | buyCuPrice => .buy
  | sellTip | sellCuPrice => .sell

/-- The function writes tips, and not prices of compute units. -/
def UpdateFn.WritesTip : UpdateFn → Prop
  | buyTip | sellTip => True
  | buyCuPrice | sellCuPrice => False

/-! ## Last values -/

/-- The last value written by each function, where it was called. -/
structure LastWritten where
  buyTip : Option F64
  sellTip : Option F64
  buyCuPrice : Option UInt64
  sellCuPrice : Option UInt64
  deriving DecidableEq, Repr

/-- The last values of a sequence of updates. -/
def lastWritten (us : List Update) : LastWritten where
  buyTip := (us.filterMap fun | .buyTip tip => some tip | _ => none).getLast?
  sellTip := (us.filterMap fun | .sellTip tip => some tip | _ => none).getLast?
  buyCuPrice := (us.filterMap fun | .buyCuPrice cuPrice => some cuPrice | _ => none).getLast?
  sellCuPrice := (us.filterMap fun | .sellCuPrice cuPrice => some cuPrice | _ => none).getLast?

/-- The value with the written fields in place of its own. -/
def overwrite (tip : Option F64) (cuPrice : Option UInt64) (value : GasFeeStrategyValue) :
    GasFeeStrategyValue :=
  { value with tip := tip.getD value.tip, cuPrice := cuPrice.getD value.cuPrice }

/-- What the last values leave of a map. -/
def LastWritten.apply (last : LastWritten) (m : StrategyMap) : StrategyMap := fun key =>
  match key.2.1 with
  | .buy => (m key).map (overwrite last.buyTip last.buyCuPrice)
  | .sell => (m key).map (overwrite last.sellTip last.sellCuPrice)
  | _ => m key

/-- One more update. -/
def LastWritten.record (last : LastWritten) : Update → LastWritten
  | .buyTip tip => { last with buyTip := some tip }
  | .sellTip tip => { last with sellTip := some tip }
  | .buyCuPrice cuPrice => { last with buyCuPrice := some cuPrice }
  | .sellCuPrice cuPrice => { last with sellCuPrice := some cuPrice }

theorem lastWritten_concat (us : List Update) (u : Update) :
    lastWritten (us ++ [u]) = (lastWritten us).record u := by
  cases u <;> simp [lastWritten, LastWritten.record]

theorem lastWritten_nil_apply (m : StrategyMap) : (lastWritten []).apply m = m := by
  have hid : overwrite none none = id := rfl
  funext key
  obtain ⟨sw, tr, st⟩ := key
  cases tr <;> simp [lastWritten, LastWritten.apply, hid]

/-- **An update writes over what was written before.** -/
theorem record_apply (last : LastWritten) (u : Update) (m : StrategyMap) :
    (last.record u).apply m = u.step.apply (last.apply m) := by
  funext key
  obtain ⟨sw, tr, st⟩ := key
  cases u <;> cases tr <;>
    simp [LastWritten.record, LastWritten.apply, Update.step, RcuStep.apply, StrategyMap.modify] <;> rfl

/-- **A sequence of updates leaves what its last values leave.** -/
theorem alone_eq_lastWritten (us : List Update) (m : StrategyMap) :
    alone RcuStep.apply (us.map Update.step) m = (lastWritten us).apply m := by
  induction us using List.reverseRecOn with
  | nil => exact (lastWritten_nil_apply m).symm
  | append_singleton us u ih =>
    rw [List.map_append, alone_append, ih, lastWritten_concat, record_apply]
    rfl

/-! ## Two updates -/

theorem applyCalls_eq_lastWritten (us : List Update) (m : StrategyMap) :
    applyCalls (us.map Update.call) m = (lastWritten us).apply m := by
  have hsteps : us.map Update.step = us.flatMap fun u => u.call.steps := by
    simp only [Update.call_steps, List.map_eq_flatMap]
  rw [← alone_eq_lastWritten, hsteps, alone_flatMap, applyCalls, List.foldl_map]
  rfl

theorem Update.commute {u v : Update} (h : u.fn ≠ v.fn) (m : StrategyMap) :
    u.call.apply (v.call.apply m) = v.call.apply (u.call.apply m) := by
  have hlast : lastWritten [v, u] = lastWritten [u, v] := by
    cases u <;> cases v <;> simp_all [lastWritten, Update.fn]
  have hleft := applyCalls_eq_lastWritten [v, u] m
  rw [hlast, ← applyCalls_eq_lastWritten] at hleft
  exact hleft

theorem Update.overwritten {u v : Update} (h : u.fn = v.fn) (m : StrategyMap) :
    v.call.apply (u.call.apply m) = v.call.apply m := by
  have hlast : lastWritten [u, v] = lastWritten [v] := by
    cases u <;> cases v <;> simp_all [lastWritten, Update.fn]
  have hleft := applyCalls_eq_lastWritten [u, v] m
  rw [hlast, ← applyCalls_eq_lastWritten] at hleft
  exact hleft

/-- What an update leaves alone: the keys, the limits, the field that it does not write, and every
entry of another trade type. -/
structure Update.Frame (u : Update) (m m' : StrategyMap) : Prop where
  keys : ∀ key, (m' key).isSome = (m key).isSome
  cuLimit : ∀ key, (m' key).map GasFeeStrategyValue.cuLimit = (m key).map GasFeeStrategyValue.cuLimit
  cuPrice : u.fn.WritesTip → ∀ key,
    (m' key).map GasFeeStrategyValue.cuPrice = (m key).map GasFeeStrategyValue.cuPrice
  tip : ¬ u.fn.WritesTip → ∀ key, (m' key).map GasFeeStrategyValue.tip = (m key).map GasFeeStrategyValue.tip
  otherTypes : ∀ key, key.2.1 ≠ u.fn.side → m' key = m key

theorem Update.frame (u : Update) (m : StrategyMap) : u.Frame m (u.call.apply m) := by
  have hstep : ∃ f : GasFeeStrategyValue → GasFeeStrategyValue, u.call.apply m = m.modify u.fn.side f ∧
      (∀ value, (f value).cuLimit = value.cuLimit) ∧
      (u.fn.WritesTip → ∀ value, (f value).cuPrice = value.cuPrice) ∧
      (¬ u.fn.WritesTip → ∀ value, (f value).tip = value.tip) := by
    rw [call_apply]
    cases u with
    | buyTip tip | sellTip tip =>
      exact ⟨_, rfl, fun _ => rfl, fun _ _ => rfl, fun h => absurd trivial h⟩
    | buyCuPrice cuPrice | sellCuPrice cuPrice =>
      exact ⟨_, rfl, fun _ => rfl, fun h => h.elim, fun _ _ => rfl⟩
  obtain ⟨f, hf, hlimit, hprice, htip⟩ := hstep
  rw [hf]
  constructor
  · exact isSome_modify f m _
  · exact map_modify hlimit m _
  · exact fun h => map_modify (hprice h) m _
  · exact fun h => map_modify (htip h) m _
  · exact fun key hkey => if_neg hkey

/-! ## Concurrent clones -/

/-- The update that a step makes, if any. -/
def RcuStep.update? : RcuStep → Option Update
  | .updateTip .buy tip => some (.buyTip tip)
  | .updateTip .sell tip => some (.sellTip tip)
  | .updateCuPrice .buy cuPrice => some (.buyCuPrice cuPrice)
  | .updateCuPrice .sell cuPrice => some (.sellCuPrice cuPrice)
  | _ => none

section Clones

variable {ι : Type} [DecidableEq ι] (clones : ι → List Update) (m : StrategyMap)

/-- Each clone is about to make its calls, on a map they share. -/
def clonesStart : Interleave.State ι RcuStep StrategyMap :=
  ⟨fun i => (clones i).flatMap fun u => u.call.steps, m⟩

/-- The updates of a run in the order in which they were made. -/
def updatesMade (acts : List ι) : List Update :=
  (executed RcuStep.apply (clonesStart clones m) acts).filterMap RcuStep.update?

theorem step_update? (u : Update) : u.step.update? = some u := by
  cases u <;> rfl

theorem map_step_updatesMade (acts : List ι) :
    (updatesMade clones m acts).map Update.step = executed RcuStep.apply (clonesStart clones m) acts := by
  have hall : ∀ b ∈ executed RcuStep.apply (clonesStart clones m) acts, ∃ u : Update, u.step = b := by
    intro b hb
    obtain ⟨i, hi⟩ := mem_executed hb
    obtain ⟨u, -, hu⟩ := List.mem_flatMap.mp hi
    rw [Update.call_steps] at hu
    exact ⟨u, (List.mem_singleton.mp hu).symm⟩
  unfold updatesMade
  generalize executed RcuStep.apply (clonesStart clones m) acts = steps at hall ⊢
  induction steps with
  | nil => rfl
  | cons b bs ih =>
    obtain ⟨u, rfl⟩ := hall b List.mem_cons_self
    rw [List.filterMap_cons_some (step_update? u), List.map_cons,
      ih fun c hc => hall c (List.mem_cons_of_mem _ hc)]

variable {clones m}

/-- **The map of concurrent clones is what their last values leave.** -/
theorem clones_shared_eq {acts : List ι} {t : Interleave.State ι RcuStep StrategyMap}
    (h : run (Interleave.step RcuStep.apply) (clonesStart clones m) acts = some t) :
    t.shared = (lastWritten (updatesMade clones m acts)).apply m := by
  rw [run_shared_eq h, ← map_step_updatesMade, alone_eq_lastWritten]
  rfl

end Clones

/-- The updates of a map do not depend on their order. -/
structure OrderIndependent (m : StrategyMap) : Prop where
  commute : ∀ u v : Update, u.fn ≠ v.fn → u.call.apply (v.call.apply m) = v.call.apply (u.call.apply m)
  overwritten : ∀ u v : Update, u.fn = v.fn → v.call.apply (u.call.apply m) = v.call.apply m
  idempotent : ∀ u : Update, u.call.apply (u.call.apply m) = u.call.apply m
  frame : ∀ u : Update, u.Frame m (u.call.apply m)
  lastValues : ∀ {ι κ : Type} [DecidableEq ι] [DecidableEq κ] (clones : ι → List Update)
    (clones' : κ → List Update) acts acts' t t',
    run (Interleave.step RcuStep.apply) (clonesStart clones m) acts = some t →
    run (Interleave.step RcuStep.apply) (clonesStart clones' m) acts' = some t' →
    lastWritten (updatesMade clones m acts) = lastWritten (updatesMade clones' m acts') → t.shared = t'.shared

/-- **Dynamic updates are independent of order.** -/
theorem updates_orderIndependent (m : StrategyMap) : OrderIndependent m where
  commute u v h := Update.commute h m
  overwritten u v h := Update.overwritten h m
  idempotent u := Update.overwritten rfl m
  frame u := u.frame m
  lastValues clones clones' acts acts' t t' h h' hlast := by
    rw [clones_shared_eq h, clones_shared_eq h', hlast]

end PumpTrade
