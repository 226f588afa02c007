import PumpTrade.Base.Shared

/-!
# What a program establishes beside others

A program that runs beside others can rely on what none of their steps undoes.

* `Stable`: what is kept by the steps of the others;
* `Prog.Establishes`: whatever the others do between its steps, the program has established a
  condition when it returns;
* `establishes_modify_bind`, `Establishes.map`: the rules of the logic;
* `Keeps.frame`: what the steps of a confined program keep besides;
* `Prog.EndsWithin`, `EndsWithin.bind`, `endsWithin_memo`: how many steps a program takes at most;
* **`Threads.run_establishes`**: where a thread has returned, its condition holds from then on;
* `Threads.run_confined`, `Threads.prog_of_notMem`, `Threads.count_le`: what is left of the threads of a run.
-/

namespace Base

/-- The condition is kept by what the others may do. -/
def Stable {σ : Type} (rely : σ → σ → Prop) (p : σ → Prop) : Prop := ∀ s s', rely s s' → p s → p s'

namespace Prog

variable {σ α β : Type} {rely : σ → σ → Prop} {pre post : σ → Prop}

/-- Started in a state with `pre`, the program returns in a state with `post` only. What it knows
between two steps is stable. -/
def Establishes (rely : σ → σ → Prop) (post : σ → Prop) : Prog σ α → (pre : σ → Prop) → Prop
  | ret _, pre => ∀ s, pre s → post s
  | panic _, _ => True
  | step write next, pre =>
    ∀ s, pre s → ∃ mid : σ → Prop, Stable rely mid ∧ mid (write s) ∧ (next s).Establishes rely post mid

theorem establishes_ret {a : α} (h : ∀ s, pre s → post s) : (ret a : Prog σ α).Establishes rely post pre := h

theorem establishes_modify_bind {f : σ → σ} {p : Prog σ β} {mid : σ → Prop} (hstable : Stable rely mid)
    (hf : ∀ s, pre s → mid (f s)) (hp : p.Establishes rely post mid) :
    (modify f >>= fun _ => p).Establishes rely post pre :=
  fun s hs => ⟨mid, hstable, hf s hs, hp⟩

theorem Establishes.map {p : Prog σ α} (h : p.Establishes rely post pre) (f : α → β) :
    (f <$> p).Establishes rely post pre := by
  induction p generalizing pre with
  | ret a => exact h
  | panic msg => trivial
  | step write next ih =>
    intro s hs
    obtain ⟨mid, hstable, hmid, hnext⟩ := h s hs
    exact ⟨mid, hstable, hmid, ih s hnext⟩

/-- A program that is confined to changes under which a condition is stable keeps it too. -/
theorem Keeps.frame {γ : Type} {view : σ → γ} {I J : σ → Prop} {P : Outcome α → Prop} {p : Prog σ α}
    (h : p.Keeps I P) (hconfined : p.Confined view rely) (hstable : Stable rely J) :
    p.Keeps (fun s => I s ∧ J s) P := by
  induction p with
  | ret a => exact h
  | panic msg => exact h
  | step write next ih =>
    rintro s ⟨hI, hJ⟩
    obtain ⟨hwrite, hnext⟩ := h s hI
    obtain ⟨hframe, -, hconfinedNext⟩ := hconfined s
    exact ⟨⟨hwrite, hstable _ _ hframe hJ⟩, ih s hnext hconfinedNext⟩

/-! ## The steps of a program -/

/-- Whatever it finds, the program takes at most `n` steps. -/
def EndsWithin : Prog σ α → (n : ℕ) → Prop
  | step _ next, n + 1 => ∀ s, (next s).EndsWithin n
  | step _ _, 0 => False
  | _, _ => True

theorem endsWithin_ret (a : α) (n : ℕ) : (ret a : Prog σ α).EndsWithin n := by
  cases n <;> trivial

theorem endsWithin_lift (o : Outcome α) (n : ℕ) : (lift o : Prog σ α).EndsWithin n := by
  cases o <;> cases n <;> trivial

theorem endsWithin_read (f : σ → α) : (read f).EndsWithin 1 := fun _ => trivial

theorem endsWithin_modify (f : σ → σ) : (modify f).EndsWithin 1 := fun _ => trivial

theorem EndsWithin.mono {p : Prog σ α} {m n : ℕ} (h : p.EndsWithin m) (hmn : m ≤ n) : p.EndsWithin n := by
  induction p generalizing m n with
  | ret a => exact endsWithin_ret a n
  | panic msg => cases n <;> trivial
  | step write next ih =>
    cases m with
    | zero => exact h.elim
    | succ m =>
      cases n with
      | zero => exact absurd hmn (Nat.not_succ_le_zero m)
      | succ n => exact fun s => ih s (h s) (Nat.le_of_succ_le_succ hmn)

theorem EndsWithin.bind {p : Prog σ α} {f : α → Prog σ β} {m n : ℕ} (h : p.EndsWithin m)
    (hf : ∀ a, (f a).EndsWithin n) : (p >>= f).EndsWithin (n + m) := by
  induction p generalizing m with
  | ret a => exact (hf a).mono (Nat.le_add_right n m)
  | panic msg => cases hnm : n + m <;> trivial
  | step write next ih =>
    cases m with
    | zero => exact h.elim
    | succ m => exact fun s => ih s (h s)

theorem endsWithin_memo {get : σ → Option α} {put : α → σ → σ} {compute : Prog σ α} {n : ℕ}
    (hcompute : compute.EndsWithin n) : (memo get put compute).EndsWithin (n + 2) := by
  rw [show n + 2 = 1 + n + 1 by omega]
  refine (endsWithin_read get).bind fun found => ?_
  cases found with
  | some a => exact endsWithin_ret a _
  | none => exact hcompute.bind fun a => (endsWithin_modify (put a)).bind fun _ => endsWithin_ret a 0

end Prog

namespace Threads

variable {ι σ α γ : Type} [DecidableEq ι] {view : σ → γ} {rely : σ → σ → Prop} {pre post : σ → Prop}

/-- What a thread still has to establish, while the others keep within what it relies on. -/
structure Relies (view : σ → γ) (rely : σ → σ → Prop) (post : σ → Prop) (i : ι) (t : Threads ι σ α) : Prop where
  others : ∀ j, j ≠ i → (t.prog j).Confined view rely
  own : ∃ pre : σ → Prop, Stable rely pre ∧ pre t.shared ∧ (t.prog i).Establishes rely post pre

theorem Relies.step {i j : ι} {t t' : Threads ι σ α} (h : Relies view rely post i t)
    (hstep : t.step j = some t') : Relies view rely post i t' := by
  obtain ⟨write, next, hj, rfl⟩ := step_eq_some.mp hstep
  obtain ⟨pre, hstable, hpre, hestablishes⟩ := h.own
  by_cases hij : j = i
  · subst hij
    rw [hj] at hestablishes
    obtain ⟨mid, hmid, hwrite, hnext⟩ := hestablishes t.shared hpre
    refine ⟨fun k hk => ?_, mid, hmid, hwrite, ?_⟩
    · show (Function.update t.prog j (next t.shared) k).Confined view rely
      rw [Function.update_of_ne hk]
      exact h.others k hk
    · show (Function.update t.prog j (next t.shared) j).Establishes rely post mid
      rw [Function.update_self]
      exact hnext
  · have hconfined := h.others j hij
    rw [hj] at hconfined
    obtain ⟨hframe, -, hnext⟩ := hconfined t.shared
    refine ⟨?_, pre, hstable, hstable _ _ hframe hpre, ?_⟩
    · exact (Function.forall_update_iff t.prog fun k p => k ≠ i → p.Confined view rely).mpr
        ⟨fun _ => hnext, fun k _ => h.others k⟩
    · show (Function.update t.prog j (next t.shared) i).Establishes rely post pre
      rw [Function.update_of_ne fun hi => hij hi.symm]
      exact hestablishes

/-- **In every interleaving**, where a thread has returned its condition holds, in whatever state the
others have led to since. -/
theorem run_establishes {i : ι} {t t' : Threads ι σ α} {acts : List ι}
    (hothers : ∀ j, j ≠ i → (t.prog j).Confined view rely) (hstable : Stable rely pre) (hpre : pre t.shared)
    (hown : (t.prog i).Establishes rely post pre) (hrun : run step t acts = some t') {a : α}
    (hended : t'.Ended i (.ret a)) : post t'.shared := by
  have hrelies : Relies view rely post i t' :=
    run_inv (fun _ _ _ h hstep => h.step hstep) ⟨hothers, pre, hstable, hpre, hown⟩ hrun
  obtain ⟨pre', -, hpre', hestablishes⟩ := hrelies.own
  rw [show t'.prog i = .ret a from hended] at hestablishes
  exact hestablishes t'.shared hpre'

theorem run_confined {t t' : Threads ι σ α} {acts : List ι} (hconfined : ∀ i, (t.prog i).Confined view rely)
    (hrun : run step t acts = some t') (i : ι) : (t'.prog i).Confined view rely := by
  refine run_inv (I := fun t => ∀ i, (t.prog i).Confined view rely) ?_ hconfined hrun i
  intro t j t' h hstep
  obtain ⟨write, next, hj, rfl⟩ := step_eq_some.mp hstep
  have hown := h j
  rw [hj] at hown
  obtain ⟨-, -, hnext⟩ := hown t.shared
  exact (Function.forall_update_iff t.prog fun _ p => p.Confined view rely).mpr ⟨hnext, fun k _ => h k⟩

theorem prog_of_notMem {t t' : Threads ι σ α} {acts : List ι} {i : ι} (hi : i ∉ acts)
    (hrun : run step t acts = some t') : t'.prog i = t.prog i := by
  induction acts generalizing t with
  | nil => rw [← Option.some.inj hrun]
  | cons j acts ih =>
    obtain ⟨hj, hacts⟩ := not_or.mp (mt List.mem_cons.mpr hi)
    obtain ⟨t₁, hstep, hrest⟩ := run_cons_eq_some.mp hrun
    obtain ⟨write, next, -, rfl⟩ := step_eq_some.mp hstep
    exact (ih hacts hrest).trans (Function.update_of_ne hj _ _)

theorem count_le {t t' : Threads ι σ α} {acts : List ι} {i : ι} {n : ℕ} (hends : (t.prog i).EndsWithin n)
    (hrun : run step t acts = some t') : acts.count i ≤ n := by
  induction acts generalizing t n with
  | nil => exact Nat.zero_le n
  | cons j acts ih =>
    obtain ⟨t₁, hstep, hrest⟩ := run_cons_eq_some.mp hrun
    obtain ⟨write, next, hj, rfl⟩ := step_eq_some.mp hstep
    by_cases hij : j = i
    · subst hij
      rw [hj] at hends
      cases n with
      | zero => exact hends.elim
      | succ n =>
        rw [List.count_cons_self]
        refine Nat.succ_le_succ (ih ?_ hrest)
        show (Function.update t.prog j (next t.shared) j).EndsWithin n
        rw [Function.update_self]
        exact hends t.shared
    · rw [List.count_cons_of_ne hij]
      refine ih ?_ hrest
      show (Function.update t.prog j (next t.shared) i).EndsWithin n
      rwa [Function.update_of_ne fun hi => hij hi.symm]

theorem exists_ended {t : Threads ι σ α} {i : ι} (h : t.step i = none) : ∃ o, t.Ended i o := by
  unfold step at h
  cases hprog : t.prog i with
  | ret a => exact ⟨.ret a, hprog⟩
  | panic msg => exact ⟨.panic msg, hprog⟩
  | step write next =>
    rw [hprog] at h
    cases h

end Threads

end Base
