import Mathlib.Logic.Basic
import Mathlib.Order.Basic

/-!
# Runs of a partial machine

A machine is a function `step : σ → α → Option σ`: from a state an action leads to at most one next
state, and `none` says that the action is not enabled there.

* `run`: a list of actions taken in turn;
* **`run_inv`**: what every step preserves, every run preserves;
* **`run_rel`**: what every step relates, every run relates, for a reflexive transitive relation;
* `exists_run_stuck`: a machine with a decreasing measure runs to a state where it is stuck;
* **`always_iff`**: where one condition decides whether a step keeps a property, it decides whether
  a whole run does; `meets_iff_split`: a run meets it where each of its steps does;
* **`ends_of_measure`**: a machine with a decreasing measure ends, whatever it does.
-/

namespace Base

variable {σ α β : Type} (step : σ → α → Option σ)

/-- Take the actions in turn; `none` as soon as one of them is not enabled. -/
def run : σ → List α → Option σ
  | s, [] => some s
  | s, a :: as => (step s a).bind fun s' => run s' as

/-- No action is enabled. -/
def Stuck (s : σ) : Prop := ∀ a, step s a = none

variable {step}

@[simp] theorem run_nil (s : σ) : run step s [] = some s := rfl

theorem run_cons_eq_some {s t : σ} {a : α} {as : List α} :
    run step s (a :: as) = some t ↔ ∃ s', step s a = some s' ∧ run step s' as = some t :=
  Option.bind_eq_some_iff

theorem run_cons {s s' : σ} {a : α} (h : step s a = some s') (as : List α) :
    run step s (a :: as) = run step s' as := by
  simp [run, h]

theorem run_append (s : σ) (as bs : List α) :
    run step s (as ++ bs) = (run step s as).bind fun t => run step t bs := by
  induction as generalizing s with
  | nil => rfl
  | cons a as ih =>
    simp only [List.cons_append, run, Option.bind_assoc]
    exact Option.bind_congr fun s' _ => ih s'

theorem run_append_of {s t u : σ} {as bs : List α} (h : run step s as = some t)
    (h' : run step t bs = some u) : run step s (as ++ bs) = some u := by
  rw [run_append, h, Option.bind_some, h']

theorem run_concat_eq_some {s t : σ} {as : List α} {a : α} :
    run step s (as ++ [a]) = some t ↔ ∃ u, run step s as = some u ∧ step u a = some t := by
  rw [run_append, Option.bind_eq_some_iff]
  simp [run]

/-- **Invariant rule.** What every step preserves, every run preserves. -/
theorem run_inv {I : σ → Prop} (hstep : ∀ s a s', I s → step s a = some s' → I s') {s t : σ}
    {as : List α} (hs : I s) (h : run step s as = some t) : I t := by
  induction as generalizing s with
  | nil => rwa [← Option.some.inj h]
  | cons a as ih =>
    obtain ⟨s', ha, h'⟩ := run_cons_eq_some.mp h
    exact ih (hstep s a s' hs ha) h'

variable (step) in
/-- **Relation rule.** Along a run that keeps `I`, the last state is related to the first. -/
theorem run_rel {I : σ → Prop} {R : σ → σ → Prop} (refl : ∀ s, R s s)
    (trans : ∀ s t u, R s t → R t u → R s u)
    (hstep : ∀ s a s', I s → step s a = some s' → I s' ∧ R s s') {s t : σ} {as : List α}
    (hs : I s) (h : run step s as = some t) : R s t := by
  induction as generalizing s with
  | nil => rw [← Option.some.inj h]; exact refl s
  | cons a as ih =>
    obtain ⟨s', ha, h'⟩ := run_cons_eq_some.mp h
    obtain ⟨hI, hR⟩ := hstep s a s' hs ha
    exact trans s s' t hR (ih hI h')

/-- A run of a machine embedded in a larger one is a run of the larger one. -/
theorem run_map {step' : σ → β → Option σ} (f : α → β) (hf : ∀ s a, step' s (f a) = step s a) (s : σ)
    (as : List α) : run step' s (as.map f) = run step s as := by
  induction as generalizing s with
  | nil => rfl
  | cons a as ih =>
    simp only [List.map_cons, run, hf]
    exact Option.bind_congr fun s' _ => ih s'

variable (step) in
theorem exists_run_stuck (μ : σ → ℕ) (hμ : ∀ s a s', step s a = some s' → μ s' < μ s) (s : σ) :
    ∃ as t, run step s as = some t ∧ Stuck step t := by
  by_cases hs : Stuck step s
  · exact ⟨[], s, rfl, hs⟩
  · obtain ⟨a, ha⟩ := not_forall.mp hs
    obtain ⟨s', hs'⟩ := Option.ne_none_iff_exists'.mp ha
    have := hμ s a s' hs'
    obtain ⟨as, t, hrun, ht⟩ := exists_run_stuck μ hμ s'
    exact ⟨a :: as, t, run_cons_eq_some.mpr ⟨s', hs', hrun⟩, ht⟩
termination_by μ s

/-! ## Properties of every state of a run -/

section Always

variable (step) (P : σ → Prop) (C : σ → α → Prop)

/-- The property holds at the start of the run and after each of its steps. -/
def Always : σ → List α → Prop
  | s, [] => P s
  | s, a :: as => P s ∧ ∀ s', step s a = some s' → Always s' as

/-- Each step of the run is taken under the condition. -/
def Meets : σ → List α → Prop
  | _, [] => True
  | s, a :: as => ∀ s', step s a = some s' → C s a ∧ Meets s' as

variable {step P C}

theorem Always.first {s : σ} {as : List α} (h : Always step P s as) : P s := by
  cases as with
  | nil => exact h
  | cons a as => exact h.1

theorem Always.last {s t : σ} {as : List α} (h : Always step P s as) (hrun : run step s as = some t) :
    P t := by
  induction as generalizing s with
  | nil => rw [← Option.some.inj hrun]; exact h
  | cons a as ih =>
    obtain ⟨s', ha, hrun⟩ := run_cons_eq_some.mp hrun
    exact ih (h.2 s' ha) hrun

/-- **A condition on the steps decides a property of the states**, by induction on the run. -/
theorem always_iff {I : σ → Prop} (hI : ∀ s a s', I s → step s a = some s' → I s')
    (hP : ∀ s a s', I s → P s → step s a = some s' → (P s' ↔ C s a)) {s : σ} (as : List α) (hs : I s)
    (h : P s) : Always step P s as ↔ Meets step C s as := by
  induction as generalizing s with
  | nil => exact iff_of_true h trivial
  | cons a as ih =>
    constructor
    · intro hal s' ha
      have hs' := hal.2 s' ha
      have hC := (hP s a s' hs h ha).mp hs'.first
      exact ⟨hC, (ih (hI s a s' hs ha) hs'.first).mp hs'⟩
    · intro hme
      refine ⟨h, fun s' ha => ?_⟩
      obtain ⟨hC, hme⟩ := hme s' ha
      exact (ih (hI s a s' hs ha) ((hP s a s' hs h ha).mpr hC)).mpr hme

/-- A property whose failure is final holds all along a run at whose end it holds. -/
theorem always_of_last {I : σ → Prop} (hI : ∀ s a s', I s → step s a = some s' → I s')
    (hfinal : ∀ s a s', I s → step s a = some s' → P s' → P s) {s t : σ} {as : List α} (hs : I s)
    (hrun : run step s as = some t) (ht : P t) : Always step P s as := by
  induction as generalizing s with
  | nil =>
    rw [← Option.some.inj hrun] at ht
    exact ht
  | cons a as ih =>
    obtain ⟨s', ha, hrun⟩ := run_cons_eq_some.mp hrun
    have hal := ih (hI s a s' hs ha) hrun
    refine ⟨hfinal s a s' hs ha hal.first, fun s'' ha' => ?_⟩
    rwa [← Option.some.inj (ha.symm.trans ha')]

theorem meets_cons_of_none {s : σ} {a : α} (h : step s a = none) (as : List α) : Meets step C s (a :: as) :=
  fun s' ha => by rw [h] at ha; cases ha

theorem meets_cons_of_some {s s' : σ} {a : α} (h : step s a = some s') (as : List α) :
    Meets step C s (a :: as) ↔ C s a ∧ Meets step C s' as := by
  constructor
  · exact fun hmeets => hmeets s' h
  · intro hmeets t ht
    rwa [← Option.some.inj (h.symm.trans ht)]

instance decidableMeets [∀ s a, Decidable (C s a)] : (s : σ) → (as : List α) → Decidable (Meets step C s as)
  | _, [] => isTrue trivial
  | s, a :: as =>
    match h : step s a with
    | none => isTrue (meets_cons_of_none h as)
    | some s' =>
      have := decidableMeets s' as
      decidable_of_iff _ (meets_cons_of_some h as).symm

theorem meets_iff_split {s : σ} {as : List α} : Meets step C s as ↔
    ∀ before a after t t', as = before ++ a :: after → run step s before = some t → step t a = some t' →
      C t a := by
  induction as generalizing s with
  | nil => exact iff_of_true trivial fun before a after _ _ h => by simp at h
  | cons a as ih =>
    constructor
    · intro h before b after t t' has hbefore hb
      cases before with
      | nil =>
        obtain ⟨rfl, -⟩ := List.cons.inj has
        obtain rfl := Option.some.inj hbefore
        exact (h t' hb).1
      | cons c before =>
        obtain ⟨rfl, hrest⟩ := List.cons.inj has
        obtain ⟨s', ha, hbefore⟩ := run_cons_eq_some.mp hbefore
        exact ih.mp (h s' ha).2 before b after t t' hrest hbefore hb
    · intro h s' ha
      refine ⟨h [] a as s s' rfl rfl ha, ih.mpr fun before b after t t' has hbefore hb => ?_⟩
      exact h (a :: before) b after t t' (congrArg (a :: ·) has) (run_cons_eq_some.mpr ⟨s', ha, hbefore⟩) hb

theorem meets_congr {I : σ → Prop} {C' : σ → α → Prop} (hI : ∀ s a s', I s → step s a = some s' → I s')
    (hC : ∀ s a s', I s → step s a = some s' → (C s a ↔ C' s a)) {s : σ} (as : List α) (hs : I s) :
    Meets step C s as ↔ Meets step C' s as := by
  induction as generalizing s with
  | nil => exact Iff.rfl
  | cons a as ih =>
    exact forall₂_congr fun s' ha => and_congr (hC s a s' hs ha) (ih (hI s a s' hs ha))

/-- Where the invariant gives the condition on every step, every run meets it. -/
theorem meets_of_inv {I : σ → Prop} (hI : ∀ s a s', I s → step s a = some s' → I s')
    (hC : ∀ s a s', I s → step s a = some s' → C s a) {s : σ} (as : List α) (hs : I s) :
    Meets step C s as := by
  induction as generalizing s with
  | nil => trivial
  | cons a as ih => exact fun s' ha => ⟨hC s a s' hs ha, ih (hI s a s' hs ha)⟩

end Always

/-! ## Machines that end -/

variable (step) in
/-- From the state the machine takes boundedly many steps, and `Q` holds when it can take none. -/
def Ends (Q : σ → Prop) (s : σ) : Prop :=
  (∃ n, ∀ as t, run step s as = some t → as.length ≤ n) ∧
    ∀ as t, run step s as = some t → Stuck step t → Q t

/-- **A decreasing measure ends the machine**, in a state that the invariant leaves it in. -/
theorem ends_of_measure {I Q : σ → Prop} (μ : σ → ℕ) (hI : ∀ s a s', I s → step s a = some s' → I s')
    (hμ : ∀ s a s', I s → step s a = some s' → μ s' < μ s) (hQ : ∀ s, I s → Stuck step s → Q s) {s : σ}
    (hs : I s) : Ends step Q s := by
  refine ⟨⟨μ s, fun as t h => ?_⟩, fun as t h hstuck => hQ t (run_inv hI hs h) hstuck⟩
  induction as generalizing s with
  | nil => exact Nat.zero_le _
  | cons a as ih =>
    obtain ⟨s', ha, h'⟩ := run_cons_eq_some.mp h
    calc as.length + 1 ≤ μ s' + 1 := Nat.succ_le_succ (ih (hI s a s' hs ha) h')
      _ ≤ μ s := hμ s a s' hs ha

end Base
