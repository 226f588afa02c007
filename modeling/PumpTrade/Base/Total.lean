import PumpTrade.Base.Shared

/-!
# Programs that return

Whether a program over a shared state returns when it runs alone, as a condition that does not
mention the program.

* `Prog.Succeeds`, `succeeds_bind`: the program returns from a state;
* `Prog.Yields`: it returns a value that satisfies `P`, whatever states within `I` its steps find;
* `Prog.beside`, **`Yields.beside`**: a program among others, in any interleaving;
* `Prog.Total`: it returns from each state in `I`, and leaves a state in `J`;
* `Keeps.total`, `Total.frame`: totality from the logic of shared states, and what it leaves
  unchanged;
* **`ReturnsIff.bind`**, `Total.bind_returnsIff`, `returnsIff_lift_bind`: the condition for a
  sequence.
-/

namespace Base.Prog

variable {σ α β γ : Type} {I J K : σ → Prop} {c d : Prop}

/-- Run alone from `s` the program returns. -/
def Succeeds (p : Prog σ α) (s : σ) : Prop := ∃ a, (p.run s).1 = .ret a

theorem succeeds_ret (a : α) (s : σ) : (ret a : Prog σ α).Succeeds s := ⟨a, rfl⟩

theorem run_bind_ret {p : Prog σ α} {f : α → Prog σ β} {s : σ} {a : α} (h : (p.run s).1 = .ret a) :
    (p >>= f).run s = (f a).run (p.run s).2 := by
  rw [run_bind]
  rcases hrun : p.run s with ⟨o, s'⟩
  rw [hrun] at h
  subst h
  rfl

/-- **A sequence returns** where its parts do, one after the other. -/
theorem succeeds_bind {p : Prog σ α} {f : α → Prog σ β} {s : σ} :
    (p >>= f).Succeeds s ↔ ∃ a, (p.run s).1 = .ret a ∧ (f a).Succeeds (p.run s).2 := by
  constructor
  · intro h
    cases hout : (p.run s).1 with
    | ret a =>
      refine ⟨a, rfl, ?_⟩
      rwa [Succeeds, run_bind_ret hout] at h
    | panic msg =>
      obtain ⟨b, hb⟩ := h
      rw [run_bind] at hb
      rcases hrun : p.run s with ⟨o, s'⟩
      rw [hrun] at hout hb
      subst hout
      cases hb
  · rintro ⟨a, ha, h⟩
    rwa [Succeeds, run_bind_ret ha]

/-! ## Programs that return beside others -/

/-- Whatever state within the invariant its steps find, the program keeps it and returns a value that
satisfies `P`. -/
def Yields (I : σ → Prop) (P : α → Prop) (p : Prog σ α) : Prop := p.Keeps I fun o => ∃ a, o = .ret a ∧ P a

section Yields

variable {P Q : α → Prop} {R : β → Prop}

theorem yields_ret {a : α} (h : P a) : (ret a : Prog σ α).Yields I P := ⟨a, rfl, h⟩

theorem yields_lift {o : Outcome α} (h : ∃ a, o = .ret a ∧ P a) : (lift o : Prog σ α).Yields I P := keeps_lift h

theorem yields_read {f : σ → α} (h : ∀ s, I s → P (f s)) : (read f).Yields I P :=
  keeps_read fun s hs => ⟨f s, rfl, h s hs⟩

theorem Yields.mono {p : Prog σ α} (h : p.Yields I P) (hPQ : ∀ a, P a → Q a) : p.Yields I Q :=
  Keeps.mono h fun _ ⟨a, ho, ha⟩ => ⟨a, ho, hPQ a ha⟩

/-- **Sequencing.** -/
theorem Yields.bind {p : Prog σ α} {f : α → Prog σ β} (h : p.Yields I P) (hf : ∀ a, P a → (f a).Yields I R) :
    (p >>= f).Yields I R := by
  refine Keeps.bind h (fun a ho => ?_) fun msg ho => ?_
  · obtain ⟨a', ha', hP⟩ := ho
    obtain rfl := Outcome.ret.inj ha'
    exact hf a hP
  · obtain ⟨a, ho, -⟩ := ho
    cases ho

theorem Gives.yields {p : Prog σ α} {o : Outcome α} (h : p.Gives I o) (ho : ∃ a, o = .ret a) :
    p.Yields I fun a => o = .ret a := by
  obtain ⟨a, rfl⟩ := ho
  exact Keeps.mono h fun _ ho => ⟨a, ho, rfl⟩

end Yields

/-- A program of interest, thread zero, beside others that return nothing. -/
def beside (p : Prog σ α) (others : ℕ → Prog σ Unit) : ℕ → Prog σ (Option α)
  | 0 => some <$> p
  | i + 1 => (fun _ => none) <$> others i

/-- **What a program yields beside others** that keep the invariant, once it has ended. -/
theorem Yields.beside {P : α → Prop} {p : Prog σ α} {others : ℕ → Prog σ Unit} (h : p.Yields I P)
    (hothers : ∀ i, (others i).Keeps I fun _ => True) {s : σ} (hs : I s) {acts : List ℕ}
    {t : Threads ℕ σ (Option α)} (hrun : Base.run Threads.step ⟨p.beside others, s⟩ acts = some t)
    {o : Outcome (Option α)} (hended : t.Ended 0 o) : ∃ a, o = .ret (some a) ∧ P a := by
  have hkeeps : ∀ i, (p.beside others i).Keeps I fun o => i = 0 → ∃ a, o = .ret (some a) ∧ P a := by
    intro i
    cases i with
    | zero =>
      refine Keeps.mono (h.bind fun a ha => yields_ret (P := fun b => ∃ a, b = some a ∧ P a) ⟨a, rfl, ha⟩) ?_
      rintro _ ⟨_, rfl, a, rfl, ha⟩ -
      exact ⟨a, rfl, ha⟩
    | succ i => exact Keeps.bind (hothers i) (fun _ _ => nofun) fun _ _ => nofun
  exact hended.of_keeps (P := fun i o => i = 0 → ∃ a, o = .ret (some a) ∧ P a)
    ((Threads.run_keeps hs hkeeps hrun).2 0) rfl

/-! ## Total programs -/

/-- Run alone from a state in `I` the program returns, and leaves a state in `J`. -/
def Total (I J : σ → Prop) (p : Prog σ α) : Prop := ∀ s, I s → p.Succeeds s ∧ J (p.run s).2

theorem total_ret (a : α) : (ret a : Prog σ α).Total I I := fun s hs => ⟨succeeds_ret a s, hs⟩

theorem Total.bind {p : Prog σ α} {f : α → Prog σ β} (h : p.Total I J) (hf : ∀ a, (f a).Total J K) :
    (p >>= f).Total I K := by
  intro s hs
  obtain ⟨⟨a, ha⟩, hJ⟩ := h s hs
  obtain ⟨hsucceeds, hK⟩ := hf a _ hJ
  rw [run_bind_ret ha]
  exact ⟨succeeds_bind.mpr ⟨a, ha, hsucceeds⟩, hK⟩

theorem Keeps.total {p : Prog σ α} (h : p.Keeps I fun o => ∃ a, o = .ret a) : p.Total I I :=
  fun _ hs => Keeps.run h hs

theorem Gives.total {p : Prog σ α} {a : α} (h : p.Gives I (.ret a)) : p.Total I I :=
  Keeps.total (Keeps.mono h fun _ ho => ⟨a, ho⟩)

/-- **The frame rule.** What a confined program may change decides what else it leaves as it was. -/
theorem Total.frame {view : σ → γ} {frame : σ → σ → Prop} {p : Prog σ α} (h : p.Total I J)
    (hconfined : p.Confined view frame) (hrefl : ∀ s, frame s s)
    (htrans : ∀ s s' s'', frame s s' → frame s' s'' → frame s s'')
    (hK : ∀ s s', frame s s' → K s → K s') : p.Total (fun s => I s ∧ K s) fun s => J s ∧ K s :=
  fun s hs => ⟨(h s hs.1).1, (h s hs.1).2, hK s _ (hconfined.run hrefl htrans s) hs.2⟩

/-! ## Programs that return under a condition -/

/-- Run alone from a state in `I` the program returns exactly under the condition. -/
def ReturnsIff (I : σ → Prop) (c : Prop) (p : Prog σ α) : Prop := ∀ s, I s → (p.Succeeds s ↔ c)

theorem returnsIff_ret (a : α) : (ret a : Prog σ α).ReturnsIff I True :=
  fun s _ => iff_true_intro (succeeds_ret a s)

theorem ReturnsIff.congr {p : Prog σ α} (h : p.ReturnsIff I c) (hcd : c ↔ d) : p.ReturnsIff I d :=
  fun s hs => (h s hs).trans hcd

/-- **Sequencing** of two programs with a condition each. -/
theorem ReturnsIff.bind {p : Prog σ α} {f : α → Prog σ β} (h : p.ReturnsIff I c)
    (hleaves : ∀ s, I s → p.Succeeds s → J (p.run s).2) (hf : ∀ a, (f a).ReturnsIff J d) :
    (p >>= f).ReturnsIff I (c ∧ d) := by
  intro s hs
  rw [succeeds_bind]
  constructor
  · rintro ⟨a, ha, hsucceeds⟩
    exact ⟨(h s hs).mp ⟨a, ha⟩, (hf a _ (hleaves s hs ⟨a, ha⟩)).mp hsucceeds⟩
  · rintro ⟨hc, hd⟩
    obtain ⟨a, ha⟩ := (h s hs).mpr hc
    exact ⟨a, ha, (hf a _ (hleaves s hs ⟨a, ha⟩)).mpr hd⟩

theorem Total.bind_returnsIff {p : Prog σ α} {f : α → Prog σ β} (h : p.Total I J)
    (hf : ∀ a, (f a).ReturnsIff J d) : (p >>= f).ReturnsIff I d := by
  have hp : p.ReturnsIff I True := fun s hs => iff_true_intro (h s hs).1
  exact (hp.bind (fun s hs _ => (h s hs).2) hf).congr (Iff.of_eq (true_and d))

/-- A computation before a program: it has to return, and what follows may depend on its value. -/
theorem returnsIff_lift_bind {o : Outcome α} {f : α → Prog σ β} {c : α → Prop}
    (hf : ∀ a, o = .ret a → (f a).ReturnsIff I (c a)) :
    (lift o >>= f).ReturnsIff I (∃ a, o = .ret a ∧ c a) := by
  intro s hs
  rw [succeeds_bind, run_lift]
  constructor
  · rintro ⟨a, ha, hsucceeds⟩
    exact ⟨a, ha, (hf a ha s hs).mp hsucceeds⟩
  · rintro ⟨a, ha, hc⟩
    exact ⟨a, ha, (hf a ha s hs).mpr hc⟩

end Base.Prog
