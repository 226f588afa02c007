import Mathlib.Tactic.Tauto
import PumpTrade.Fee.Model

/-!
# Exclusive strategies

A `normal` strategy excludes the high and low ones of its service and trade type.

* `RcuStep.Inserts`, `RcuStep.Removes`: what an atomic update may do to one key;
* `Call.Stores`: the keys that a call stores, read off its arguments;
* `Call.steps_guarded`: a call that stores a key first removes each key that excludes it;
* **`applyCalls_exclusive`**: calls made one after the other keep the map exclusive.
-/

namespace PumpTrade

open Base Base.Interleave

/-- No service and trade type has a normal strategy together with a high or a low one. -/
def StrategyMap.Exclusive (m : StrategyMap) : Prop := ∀ swqosType tradeType,
  ¬ ((m (swqosType, tradeType, .normal)).isSome ∧
    ((m (swqosType, tradeType, .lowTipHighCuPrice)).isSome ∨
      (m (swqosType, tradeType, .highTipLowCuPrice)).isSome))

/-- Two keys of one service and trade type of which exactly one is `normal`. -/
def Excludes (k k' : StrategyKey) : Prop :=
  k.1 = k'.1 ∧ k.2.1 = k'.2.1 ∧ (k.2.2 = .normal ↔ k'.2.2 ≠ .normal)

/-- The two keys are not both stored. -/
def StrategyMap.NotBoth (m : StrategyMap) (k k' : StrategyKey) : Prop :=
  ¬ ((m k).isSome ∧ (m k').isSome)

theorem Excludes.symm {k k' : StrategyKey} (h : Excludes k k') : Excludes k' k :=
  ⟨h.1.symm, h.2.1.symm, by have := h.2.2; tauto⟩

theorem StrategyMap.exclusive_iff {m : StrategyMap} :
    m.Exclusive ↔ ∀ k k', Excludes k k' → m.NotBoth k k' := by
  constructor
  · rintro h ⟨sw, tr, st⟩ ⟨sw', tr', st'⟩ ⟨hsw, htr, hst⟩ ⟨hk, hk'⟩
    obtain rfl : sw = sw' := hsw
    obtain rfl : tr = tr' := htr
    have := h sw tr
    cases st <;> cases st' <;> simp_all
  · rintro h sw tr ⟨hn, hlow | hhigh⟩
    · exact h (sw, tr, .normal) (sw, tr, .lowTipHighCuPrice) ⟨rfl, rfl, by simp⟩ ⟨hn, hlow⟩
    · exact h (sw, tr, .normal) (sw, tr, .highTipLowCuPrice) ⟨rfl, rfl, by simp⟩ ⟨hn, hhigh⟩

/-! ## Atomic updates, at one key -/

namespace RcuStep

/-- The update stores a value under the key. -/
def Inserts (k : StrategyKey) : RcuStep → Prop
  | insert key _ => key = k
  | _ => False

/-- The update leaves nothing under the key. -/
def Removes (k : StrategyKey) : RcuStep → Prop
  | del key => key = k
  | delAll swqosType tradeType => swqosType = k.1 ∧ tradeType = k.2.1
  | clear => True
  | _ => False

variable {k : StrategyKey} {b : RcuStep}

theorem apply_of_inserts (h : b.Inserts k) (m : StrategyMap) : (b.apply m k).isSome := by
  cases b with
  | insert key value => obtain rfl : key = k := h; simp [apply]
  | _ => exact h.elim

theorem apply_delAll (swqosType : SwqosType) (tradeType : TradeType) (m : StrategyMap) (k : StrategyKey) :
    (delAll swqosType tradeType).apply m k =
      if swqosType = k.1 ∧ tradeType = k.2.1 then none else m k := by
  obtain ⟨sw, tr, st⟩ := k
  simp only [apply, Function.update_apply, Prod.mk.injEq]
  cases st <;> simp [eq_comm]

theorem apply_of_removes (h : b.Removes k) (m : StrategyMap) : b.apply m k = none := by
  cases b with
  | del key => obtain rfl : key = k := h; simp [apply]
  | delAll swqosType tradeType => exact (apply_delAll _ _ m k).trans (if_pos h)
  | clear => rfl
  | _ => exact h.elim

/-- An update that neither stores nor removes leaves the key as stored as it was. -/
theorem isSome_apply (hins : ¬ b.Inserts k) (hrem : ¬ b.Removes k) (m : StrategyMap) :
    (b.apply m k).isSome = (m k).isSome := by
  cases b with
  | insert key value => rw [apply, Function.update_of_ne (Ne.symm hins)]
  | del key => rw [apply, Function.update_of_ne (Ne.symm hrem)]
  | delAll swqosType tradeType => exact congrArg Option.isSome ((apply_delAll _ _ m k).trans (if_neg hrem))
  | updateTip tradeType tip => exact isSome_modify _ _ _ _
  | updateCuPrice tradeType cuPrice => exact isSome_modify _ _ _ _
  | clear => exact absurd trivial hrem

theorem apply_none (hins : ¬ b.Inserts k) {m : StrategyMap} (h : m k = none) : b.apply m k = none := by
  by_cases hrem : b.Removes k
  · exact apply_of_removes hrem m
  · have := isSome_apply hins hrem m
    rw [h] at this
    exact Option.not_isSome_iff_eq_none.mp (by rw [this]; exact Bool.false_ne_true)

theorem apply_isSome (hrem : ¬ b.Removes k) {m : StrategyMap} (h : (m k).isSome) :
    (b.apply m k).isSome := by
  by_cases hins : b.Inserts k
  · exact apply_of_inserts hins m
  · rwa [isSome_apply hins hrem]

end RcuStep

/-! ## What the calls store -/

/-- The keys a call stores. -/
def Call.Stores : Call → StrategyKey → Prop
  | .set sw tr st _ _ _, k => k = (sw, tr, st)
  | .setGlobalFeeStrategy .., k => (k.2.1 = .buy ∨ k.2.1 = .sell) ∧ k.2.2 = .normal
  | .setHighLowFeeStrategy sw tr .., k => sw ≠ .default ∧ k.1 = sw ∧ k.2.1 = tr ∧ k.2.2 ≠ .normal
  | .setHighLowFeeStrategies sws tr .., k => k.1 ∈ sws ∧ k.2.1 = tr ∧ k.2.2 ≠ .normal
  | .setNormalFeeStrategy sw .., k => k.1 = sw ∧ (k.2.1 = .buy ∨ k.2.1 = .sell) ∧ k.2.2 = .normal
  | .setNormalFeeStrategies sws .., k => k.1 ∈ sws ∧ (k.2.1 = .buy ∨ k.2.1 = .sell) ∧ k.2.2 = .normal
  | _, _ => False

theorem Call.not_stores_of_excludes {c : Call} {k k' : StrategyKey} (h : Excludes k k') (hk : c.Stores k) :
    ¬ c.Stores k' := by
  intro hk'
  obtain ⟨-, -, hst⟩ := h
  cases c <;> simp only [Call.Stores] at hk hk' <;> grind

namespace GasFeeStrategy

variable {k k' : StrategyKey} {swqosType : SwqosType} {tradeType : TradeType}
  {strategyType : GasFeeStrategyType} {cuLimit : UInt32} {cuPrice : UInt64} {tip : F64} {b : RcuStep}

/-- The steps of `set`: it stores its key and removes keys that exclude it. -/
theorem mem_set (hb : b ∈ set swqosType tradeType strategyType cuLimit cuPrice tip) :
    b = .insert (swqosType, tradeType, strategyType) { cuLimit, cuPrice, tip } ∨
      ∃ st, (strategyType = .normal ↔ st ≠ .normal) ∧ b = .del (swqosType, tradeType, st) := by
  rcases List.mem_append.mp hb with hdel | hins
  · right
    split_ifs at hdel with hst
    · obtain rfl | rfl : b = .del (swqosType, tradeType, .highTipLowCuPrice) ∨
          b = .del (swqosType, tradeType, .lowTipHighCuPrice) := by simpa using hdel
      · exact ⟨.highTipLowCuPrice, by simp [hst], rfl⟩
      · exact ⟨.lowTipHighCuPrice, by simp [hst], rfl⟩
    · exact ⟨.normal, by simp [hst], List.mem_singleton.mp hdel⟩
  · exact Or.inl (List.mem_singleton.mp hins)

theorem set_inserts (hb : b ∈ set swqosType tradeType strategyType cuLimit cuPrice tip)
    (hins : b.Inserts k) : k = (swqosType, tradeType, strategyType) := by
  rcases mem_set hb with rfl | ⟨st, -, rfl⟩
  · exact hins.symm
  · exact hins.elim

/-- `set` removes each key that excludes the one it stores, before it stores it. -/
theorem set_guarded (h : Excludes k k') (swqosType : SwqosType) (tradeType : TradeType)
    (strategyType : GasFeeStrategyType) (cuLimit : UInt32) (cuPrice : UInt64) (tip : F64) :
    Guarded (RcuStep.Inserts k) (RcuStep.Removes k')
      (set swqosType tradeType strategyType cuLimit cuPrice tip) := by
  by_cases hk : k = (swqosType, tradeType, strategyType)
  · subst hk
    obtain ⟨sw', tr', st'⟩ := k'
    obtain ⟨rfl, rfl, hst⟩ := h
    cases strategyType <;> cases st' <;> simp_all [set, Guarded, RcuStep.Inserts, RcuStep.Removes]
  · exact guarded_of_forall_not fun b hb hins => hk (set_inserts hb hins)

end GasFeeStrategy

namespace Call

variable {c : Call} {k k' : StrategyKey}

/-- **Every call removes each key that excludes the one it is about to store.** -/
theorem steps_guarded (h : Excludes k k') (c : Call) :
    Guarded (RcuStep.Inserts k) (RcuStep.Removes k') c.steps := by
  have hset := GasFeeStrategy.set_guarded h
  have hhigh : ∀ sw tr limit lp hp lt ht, Guarded (RcuStep.Inserts k) (RcuStep.Removes k')
      (GasFeeStrategy.setHighLow sw tr limit lp hp lt ht) := fun sw tr limit lp hp lt ht =>
    ((guarded_of_forall_not (by simp [RcuStep.Inserts])).append (hset ..)).append (hset ..)
  have hnormal : ∀ sw limit price bt st, Guarded (RcuStep.Inserts k) (RcuStep.Removes k')
      (GasFeeStrategy.setNormalFeeStrategy sw limit price bt st) := fun sw limit price bt st =>
    ((guarded_of_forall_not (by simp [RcuStep.Inserts])).append (hset ..)).append (hset ..)
  cases c with
  | set => exact hset ..
  | setGlobalFeeStrategy =>
    refine ((Guarded.flatMap fun sw _ => ?_).append (hset ..)).append (hset ..)
    split_ifs
    · trivial
    · exact (hset ..).append (hset ..)
  | setHighLowFeeStrategy =>
    simp only [steps, GasFeeStrategy.setHighLowFeeStrategy]
    split_ifs
    · trivial
    · exact hhigh ..
  | setHighLowFeeStrategies => exact Guarded.flatMap fun sw _ => hhigh ..
  | setNormalFeeStrategy => exact hnormal ..
  | setNormalFeeStrategies => exact Guarded.flatMap fun sw _ => hnormal ..
  | _ => exact guarded_of_forall_not (by simp [steps, RcuStep.Inserts])

theorem setHighLow_inserts {sw : SwqosType} {tr : TradeType} {limit : UInt32} {lp hp : UInt64}
    {lt ht : F64} {b : RcuStep} (hb : b ∈ GasFeeStrategy.setHighLow sw tr limit lp hp lt ht)
    (hins : b.Inserts k) : k.1 = sw ∧ k.2.1 = tr ∧ k.2.2 ≠ .normal := by
  rcases List.mem_append.mp hb with hb | hb
  · rcases List.mem_append.mp hb with hb | hb
    · obtain rfl := List.mem_singleton.mp hb
      exact hins.elim
    · obtain rfl := GasFeeStrategy.set_inserts hb hins
      exact ⟨rfl, rfl, by simp⟩
  · obtain rfl := GasFeeStrategy.set_inserts hb hins
    exact ⟨rfl, rfl, by simp⟩

theorem setNormal_inserts {sw : SwqosType} {limit : UInt32} {price : UInt64} {bt st : F64} {b : RcuStep}
    (hb : b ∈ GasFeeStrategy.setNormalFeeStrategy sw limit price bt st) (hins : b.Inserts k) :
    k.1 = sw ∧ (k.2.1 = .buy ∨ k.2.1 = .sell) ∧ k.2.2 = .normal := by
  rcases List.mem_append.mp hb with hb | hb
  · rcases List.mem_append.mp hb with hb | hb
    · obtain rfl | rfl : b = .delAll sw .buy ∨ b = .delAll sw .sell := by simpa using hb
      · exact hins.elim
      · exact hins.elim
    · obtain rfl := GasFeeStrategy.set_inserts hb hins
      exact ⟨rfl, Or.inl rfl, rfl⟩
  · obtain rfl := GasFeeStrategy.set_inserts hb hins
    exact ⟨rfl, Or.inr rfl, rfl⟩

theorem stores_of_inserts {b : RcuStep} (hb : b ∈ c.steps) (hins : b.Inserts k) : c.Stores k := by
  cases c with
  | set => exact GasFeeStrategy.set_inserts hb hins
  | setGlobalFeeStrategy bl sl bp sp bt st =>
    rcases List.mem_append.mp hb with hb | hb
    · rcases List.mem_append.mp hb with hb | hb
      · obtain ⟨sw, -, hb⟩ := List.mem_flatMap.mp hb
        split_ifs at hb
        · cases hb
        · rcases List.mem_append.mp hb with hb | hb
          · obtain rfl := GasFeeStrategy.set_inserts hb hins
            exact ⟨Or.inl rfl, rfl⟩
          · obtain rfl := GasFeeStrategy.set_inserts hb hins
            exact ⟨Or.inr rfl, rfl⟩
      · obtain rfl := GasFeeStrategy.set_inserts hb hins
        exact ⟨Or.inl rfl, rfl⟩
    · obtain rfl := GasFeeStrategy.set_inserts hb hins
      exact ⟨Or.inr rfl, rfl⟩
  | setHighLowFeeStrategy =>
    simp only [steps, GasFeeStrategy.setHighLowFeeStrategy] at hb
    split_ifs at hb with hsw
    · cases hb
    · exact ⟨hsw, setHighLow_inserts hb hins⟩
  | setHighLowFeeStrategies =>
    obtain ⟨sw, hsw, hb⟩ := List.mem_flatMap.mp hb
    obtain ⟨rfl, hrest⟩ := setHighLow_inserts hb hins
    exact ⟨hsw, hrest⟩
  | setNormalFeeStrategy => exact setNormal_inserts hb hins
  | setNormalFeeStrategies =>
    obtain ⟨sw, hsw, hb⟩ := List.mem_flatMap.mp hb
    obtain ⟨rfl, hrest⟩ := setNormal_inserts hb hins
    exact ⟨hsw, hrest⟩
  | _ =>
    obtain rfl := List.mem_singleton.mp hb
    exact hins.elim

end Call

/-! ## Interleaved calls -/

/-- **Calls of which none stores `k'` never leave it beside `k`**, however their steps
interleave. -/
theorem interleaved_notBoth {ι : Type} [DecidableEq ι] {calls : ι → Call} {k k' : StrategyKey}
    (h : Excludes k k') (hk' : ∀ i, ¬ (calls i).Stores k') {m : StrategyMap} (hm : m.NotBoth k k')
    {acts : List ι} {t : Interleave.State ι RcuStep StrategyMap}
    (hrun : run (Interleave.step RcuStep.apply) ⟨fun i => (calls i).steps, m⟩ acts = some t) :
    t.shared.NotBoth k k' := by
  have hno : ∀ i, ∀ b ∈ (calls i).steps, ¬ b.Inserts k' := fun i b hb hins =>
    hk' i (Call.stores_of_inserts hb hins)
  refine run_guarded (fun b : RcuStep => b.Inserts k ∨ b.Inserts k') (RcuStep.Removes k')
    (fun m : StrategyMap => m k' = none) (fun m => m.NotBoth k k') ?_ ?_ ?_ hm ?_ ?_ hrun
  · intro m hnone hboth
    rw [hnone] at hboth
    exact Bool.false_ne_true hboth.2
  · exact fun b m hb => RcuStep.apply_of_removes hb m
  · rintro b m hb hsafe ⟨hsk, hsk'⟩
    rw [not_or] at hb
    -- an update that stores neither key cannot have brought one back
    have hback : ∀ key, ¬ b.Inserts key → (b.apply m key).isSome → (m key).isSome := fun key hins hs => by
      by_contra hnone
      rw [RcuStep.apply_none hins (Option.not_isSome_iff_eq_none.mp hnone)] at hs
      exact Bool.false_ne_true hs
    exact hsafe ⟨hback k hb.1 hsk, hback k' hb.2 hsk'⟩
  · exact fun i b hb m hnone => RcuStep.apply_none (hno i b hb) hnone
  · exact fun i => (Call.steps_guarded h (calls i)).mono fun b hb hins => hins.resolve_right (hno i b hb)

/-- Interleaved calls that store no keys excluding each other keep the map exclusive. -/
theorem interleaved_exclusive {ι : Type} [DecidableEq ι] (calls : ι → Call)
    (hcalls : ∀ k k', Excludes k k' → ∀ i j, (calls i).Stores k → ¬ (calls j).Stores k')
    {m : StrategyMap} (hm : m.Exclusive) {acts : List ι} {t : Interleave.State ι RcuStep StrategyMap}
    (hrun : run (Interleave.step RcuStep.apply) ⟨fun i => (calls i).steps, m⟩ acts = some t) :
    t.shared.Exclusive := by
  rw [StrategyMap.exclusive_iff] at hm ⊢
  intro k k' h
  by_cases hk : ∃ i, (calls i).Stores k
  · obtain ⟨i, hi⟩ := hk
    exact interleaved_notBoth h (fun j => hcalls k k' h i j hi) (hm k k' h) hrun
  · rw [not_exists] at hk
    exact fun hboth => interleaved_notBoth h.symm hk (hm k' k h.symm) hrun hboth.symm

/-- **One call** keeps the map exclusive. -/
theorem Call.apply_exclusive (c : Call) {m : StrategyMap} (hm : m.Exclusive) : (c.apply m).Exclusive :=
  interleaved_exclusive (fun _ : Unit => c)
    (fun _ _ h _ _ hk => Call.not_stores_of_excludes h hk) hm
    (run_thread RcuStep.apply (fun _ : Unit => c.steps) () c.steps [] (List.append_nil _).symm m)

/-- **Calls made one after the other** keep the map exclusive. -/
theorem applyCalls_exclusive (calls : List Call) {m : StrategyMap} (hm : m.Exclusive) :
    (applyCalls calls m).Exclusive := by
  induction calls generalizing m with
  | nil => exact hm
  | cons c calls ih => exact ih (c.apply_exclusive hm)

theorem new_exclusive : GasFeeStrategy.new.Exclusive := fun _ _ h => Bool.false_ne_true h.1

end PumpTrade
