import Mathlib.Data.List.Basic
import Mathlib.Data.List.Perm.Basic
import Mathlib.Logic.Function.Basic
import PumpTrade.Base.Run

/-!
# Parties that log what they do

Parties share a state. Each is at a point of its own program; from there an action of it leads to at
most one next point and next shared state, and adds events to one log, under the name of the party.

* `Logged.step`: a party acts;
* `entriesOf`: the part of the log that one party wrote;
* **`run_keeps`**: what relates each party to its own entries, and the shared state to all entries,
  holds after every run where every action keeps it;
* `run_alone`: a party may act alone;
* **`perm_of_entriesOf`**, `perm_flatMap_of_entriesOf`: logs to which each party contributed the same
  have the same entries.
-/

namespace Base

/-! ## Entries -/

section Entries

variable {ι ε : Type} [DecidableEq ι]

/-- What party `i` logged, in its order. -/
def entriesOf (i : ι) (log : List (ι × ε)) : List ε := (log.filter fun x => x.1 = i).map Prod.snd

@[simp] theorem entriesOf_nil (i : ι) : entriesOf i ([] : List (ι × ε)) = [] := rfl

theorem entriesOf_append (i : ι) (log log' : List (ι × ε)) :
    entriesOf i (log ++ log') = entriesOf i log ++ entriesOf i log' := by
  rw [entriesOf, List.filter_append, List.map_append]
  rfl

theorem entriesOf_map_self (i : ι) (events : List ε) : entriesOf i (events.map (Prod.mk i)) = events := by
  rw [entriesOf, List.filter_eq_self.mpr (by simp), List.map_map]
  exact List.map_id events

theorem entriesOf_map_of_ne {i j : ι} (h : i ≠ j) (events : List ε) :
    entriesOf j (events.map (Prod.mk i)) = [] := by
  rw [entriesOf, List.filter_eq_nil_iff.mpr (by simp [h])]
  rfl

theorem entriesOf_cons_self (i : ι) (e : ε) (log : List (ι × ε)) :
    entriesOf i ((i, e) :: log) = e :: entriesOf i log := by
  simp [entriesOf]

/-- **The parties contribute the entries**: where each contributed the same to two logs, the logs have
the same entries. -/
theorem perm_of_entriesOf {log log' : List (ι × ε)} (h : ∀ i, (entriesOf i log).Perm (entriesOf i log')) :
    (log.map Prod.snd).Perm (log'.map Prod.snd) := by
  classical
  suffices hlogs : log.Perm log' from hlogs.map Prod.snd
  refine List.perm_iff_count.mpr fun x => ?_
  have hcount : ∀ l : List (ι × ε), List.count x l = List.count x.2 (entriesOf x.1 l) := by
    intro l
    induction l with
    | nil => rfl
    | cons y l ih =>
      obtain ⟨j, e⟩ := y
      by_cases hj : j = x.1
      · subst hj
        rw [entriesOf_cons_self, List.count_cons, List.count_cons, ih]
        simp [Prod.ext_iff]
      · have hne : ((j, e) == x) = false := beq_eq_false_iff_ne.mpr fun he => hj (congrArg Prod.fst he)
        rw [List.count_cons, hne, ih, entriesOf, entriesOf, List.filter_cons_of_neg (by simpa using hj)]
        rfl
  rw [hcount, hcount]
  exact (h x.1).count_eq x.2

theorem entriesOf_flatMap {β : Type} (f : ε → List β) (i : ι) (log : List (ι × ε)) :
    entriesOf i (log.flatMap fun x => (f x.2).map (Prod.mk x.1)) = (entriesOf i log).flatMap f := by
  induction log with
  | nil => rfl
  | cons x log ih =>
    obtain ⟨j, e⟩ := x
    rw [List.flatMap_cons, entriesOf_append, ih]
    by_cases hj : j = i
    · subst hj
      rw [entriesOf_map_self, entriesOf_cons_self, List.flatMap_cons]
    · rw [entriesOf_map_of_ne hj, List.nil_append]
      simp [entriesOf, hj]

/-- Two readings of the entries on which each party agrees have the same values. -/
theorem perm_flatMap_of_entriesOf {β : Type} {f g : ε → List β} {log : List (ι × ε)}
    (h : ∀ i, ((entriesOf i log).flatMap f).Perm ((entriesOf i log).flatMap g)) :
    ((log.map Prod.snd).flatMap f).Perm ((log.map Prod.snd).flatMap g) := by
  have hmap : ∀ f : ε → List β, (log.flatMap fun x => (f x.2).map (Prod.mk x.1)).map Prod.snd =
      (log.map Prod.snd).flatMap f := by
    intro f
    rw [List.map_flatMap, List.flatMap_map]
    exact List.flatMap_congr fun x _ => by rw [List.map_map]; exact List.map_id _
  rw [← hmap f, ← hmap g]
  exact perm_of_entriesOf fun i => by rw [entriesOf_flatMap, entriesOf_flatMap]; exact h i

end Entries

/-! ## Parties -/

/-- The shared state, the point where each party is, and the log. -/
structure Logged (ι σ κ ε : Type) where
  shared : σ
  point : ι → κ
  log : List (ι × ε)

namespace Logged

variable {ι σ κ ε α : Type} [DecidableEq ι] (next : σ → κ → α → Option (σ × κ × List ε))

/-- No party has acted. -/
def initial (shared : σ) (point : κ) : Logged ι σ κ ε := ⟨shared, fun _ => point, []⟩

/-- Party `i` acts. -/
def step (s : Logged ι σ κ ε) : ι × α → Option (Logged ι σ κ ε)
  | (i, a) => (next s.shared (s.point i) a).map fun (shared, point, events) =>
    { shared
      point := Function.update s.point i point
      log := s.log ++ events.map (Prod.mk i) }

variable {next}

theorem step_eq_some {s s' : Logged ι σ κ ε} {i : ι} {a : α} : step next s (i, a) = some s' ↔
    ∃ shared point events, next s.shared (s.point i) a = some (shared, point, events) ∧
      s' = ⟨shared, Function.update s.point i point, s.log ++ events.map (Prod.mk i)⟩ := by
  rw [step, Option.map_eq_some_iff]
  constructor
  · rintro ⟨⟨shared, point, events⟩, hnext, rfl⟩
    exact ⟨shared, point, events, hnext, rfl⟩
  · rintro ⟨shared, point, events, hnext, rfl⟩
    exact ⟨(shared, point, events), hnext, rfl⟩

/-- All events, in the order in which they came about. -/
def events (s : Logged ι σ κ ε) : List ε := s.log.map Prod.snd

/-- **Every run keeps** what relates each party to its entries and the shared state to all entries,
where every action keeps both. -/
theorem run_keeps {G : σ → List ε → Prop} {L : κ → List ε → Prop}
    (hstep : ∀ shared point a shared' point' new all own, G shared all → L point own →
      next shared point a = some (shared', point', new) → G shared' (all ++ new) ∧ L point' (own ++ new))
    {s t : Logged ι σ κ ε} {acts : List (ι × α)} (hshared : G s.shared s.events)
    (hparty : ∀ i, L (s.point i) (entriesOf i s.log)) (h : run (step next) s acts = some t) :
    G t.shared t.events ∧ ∀ i, L (t.point i) (entriesOf i t.log) := by
  refine run_inv (I := fun s => G s.shared s.events ∧ ∀ i, L (s.point i) (entriesOf i s.log)) ?_
    ⟨hshared, hparty⟩ h
  rintro s ⟨i, a⟩ s' ⟨hshared, hparty⟩ hs
  obtain ⟨shared, point, new, hnext, rfl⟩ := step_eq_some.mp hs
  obtain ⟨hshared', hpoint⟩ := hstep _ _ _ _ _ _ _ _ hshared (hparty i) hnext
  constructor
  · show G shared ((s.log ++ new.map (Prod.mk i)).map Prod.snd)
    rw [List.map_append, List.map_map]
    exact (List.map_id new).symm ▸ hshared'
  · intro j
    show L (Function.update s.point i point j) (entriesOf j (s.log ++ new.map (Prod.mk i)))
    rw [entriesOf_append]
    by_cases hj : i = j
    · subst hj
      rw [Function.update_self, entriesOf_map_self]
      exact hpoint
    · rw [Function.update_of_ne (Ne.symm hj), entriesOf_map_of_ne hj, List.append_nil]
      exact hparty j

/-! ## A party alone -/

variable (next) in
/-- A party that acts alone, with what it has logged. -/
def alone (r : σ × κ × List ε) (a : α) : Option (σ × κ × List ε) :=
  (next r.1 r.2.1 a).map fun (shared, point, events) => (shared, point, r.2.2 ++ events)

/-- **What a party can do alone** it can do among the others, while they wait. -/
theorem run_alone {s : Logged ι σ κ ε} {i : ι} {acts : List α} {own : List ε} {r : σ × κ × List ε}
    (h : run (alone next) (s.shared, s.point i, own) acts = some r) :
    ∃ new, r.2.2 = own ++ new ∧ run (step next) s (acts.map (Prod.mk i)) =
      some ⟨r.1, Function.update s.point i r.2.1, s.log ++ new.map (Prod.mk i)⟩ := by
  induction acts generalizing s own with
  | nil =>
    obtain rfl := Option.some.inj h
    refine ⟨[], (List.append_nil own).symm, ?_⟩
    rw [Function.update_eq_self, List.map_nil, List.map_nil, List.append_nil]
    rfl
  | cons a acts ih =>
    obtain ⟨r', ha, h⟩ := run_cons_eq_some.mp h
    obtain ⟨⟨shared, point, events⟩, hnext, rfl⟩ := Option.map_eq_some_iff.mp ha
    have hs := step_eq_some.mpr ⟨shared, point, events, hnext, rfl⟩
    have h : run (alone next) (shared, Function.update s.point i point i, own ++ events) acts = some r := by
      rw [Function.update_self]
      exact h
    obtain ⟨new, hnew, hrun⟩ := ih
      (s := ⟨shared, Function.update s.point i point, s.log ++ events.map (Prod.mk i)⟩) h
    refine ⟨events ++ new, by rw [hnew, List.append_assoc], ?_⟩
    rw [List.map_cons, run_cons hs, hrun, Function.update_idem, List.map_append, List.append_assoc]

end Logged

end Base
