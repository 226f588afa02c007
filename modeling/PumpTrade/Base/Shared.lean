import Mathlib.Logic.Function.Basic
import PumpTrade.Base.Outcome
import PumpTrade.Base.Run

/-!
# Programs over a shared state

A program returns, panics, or takes an atomic step on a state that it shares with other programs:
what it does next depends on the state it finds. Programs are sequenced with `>>=`.

* `Prog.run`: a program run alone;
* `Prog.Keeps`: whatever the others do within an invariant, each step keeps it and the outcome is as
  wanted;
* `Keeps.bind`, `keeps_read`, `keeps_modify`, `keeps_memo`: the rules of the logic;
* `Prog.Returns` with `Returns.bind`: what holds of the value a program returns, if it returns;
* `Prog.Confined`: a program that reads and changes a part of the state only;
* **`Threads.run_keeps`**: programs that keep the invariant each keep it in every interleaving.
-/

namespace Base

/-- A program over a state `σ`. An atomic step writes the state and reads it as it was before. -/
inductive Prog (σ α : Type) where
  | ret (a : α)
  | panic (msg : String)
  | step (write : σ → σ) (next : σ → Prog σ α)

namespace Prog

variable {σ α β : Type}

/-- One program after the other; a panic ends both. -/
def bind : Prog σ α → (α → Prog σ β) → Prog σ β
  | ret a, f => f a
  | panic msg, _ => panic msg
  | step write next, f => step write fun s => (next s).bind f

instance : Monad (Prog σ) where
  pure := ret
  bind := bind

/-- Read a part of the state. -/
def read (f : σ → α) : Prog σ α := step id fun s => ret (f s)

/-- Write the state. -/
def modify (f : σ → σ) : Prog σ Unit := step f fun _ => ret ()

/-- A computation that does not touch the state. -/
def lift : Outcome α → Prog σ α
  | .ret a => ret a
  | .panic msg => panic msg

/-- Look a value up, or compute and store it. -/
def memo (get : σ → Option α) (put : α → σ → σ) (compute : Prog σ α) : Prog σ α := do
  match ← read get with
  | some a => ret a
  | none =>
    let a ← compute
    modify (put a)
    ret a

/-- The program run alone: its outcome and the state it leaves. -/
def run : Prog σ α → σ → Outcome α × σ
  | ret a, s => (.ret a, s)
  | panic msg, s => (.panic msg, s)
  | step write next, s => (next s).run (write s)

@[simp] theorem pure_eq (a : α) : (pure a : Prog σ α) = ret a := rfl

@[simp] theorem ret_bind (a : α) (f : α → Prog σ β) : (ret a >>= f) = f a := rfl

@[simp] theorem panic_bind (msg : String) (f : α → Prog σ β) : (panic msg >>= f) = panic msg := rfl

@[simp] theorem step_bind (write : σ → σ) (next : σ → Prog σ α) (f : α → Prog σ β) :
    (step write next >>= f) = step write fun s => next s >>= f := rfl

@[simp] theorem lift_ret (a : α) : (lift (.ret a) : Prog σ α) = ret a := rfl

@[simp] theorem lift_panic (msg : String) : (lift (.panic msg) : Prog σ α) = panic msg := rfl

@[simp] theorem run_ret (a : α) (s : σ) : (ret a : Prog σ α).run s = (.ret a, s) := rfl

@[simp] theorem run_panic (msg : String) (s : σ) : (panic msg : Prog σ α).run s = (.panic msg, s) := rfl

@[simp] theorem run_read (f : σ → α) (s : σ) : (read f).run s = (.ret (f s), s) := rfl

@[simp] theorem run_modify (f : σ → σ) (s : σ) : (modify f).run s = (.ret (), f s) := rfl

@[simp] theorem run_lift (o : Outcome α) (s : σ) : (lift o).run s = (o, s) := by
  cases o <;> rfl

theorem run_bind (p : Prog σ α) (f : α → Prog σ β) (s : σ) :
    (p >>= f).run s = match p.run s with
      | (.ret a, s') => (f a).run s'
      | (.panic msg, s') => (.panic msg, s') := by
  induction p generalizing s with
  | ret a => rfl
  | panic msg => rfl
  | step write next ih => exact ih s (write s)

theorem run_memo (get : σ → Option α) (put : α → σ → σ) (compute : Prog σ α) (s : σ) :
    (memo get put compute).run s = match get s with
      | some a => (.ret a, s)
      | none => match compute.run s with
        | (.ret a, s') => (.ret a, put a s')
        | (.panic msg, s') => (.panic msg, s') := by
  unfold memo
  rw [run_bind, run_read]
  cases h : get s with
  | some a => simp
  | none =>
    simp only [run_bind]
    cases compute.run s with
    | mk o s' => cases o <;> simp

/-! ## The logic -/

variable (I : σ → Prop)

/-- Each step keeps the invariant, whatever state within it the step finds, and the outcome
satisfies `P`. -/
def Keeps (P : Outcome α → Prop) : Prog σ α → Prop
  | ret a => P (.ret a)
  | panic msg => P (.panic msg)
  | step write next => ∀ s, I s → I (write s) ∧ (next s).Keeps P

variable {I} {P Q : Outcome α → Prop} {R : Outcome β → Prop}

@[simp] theorem keeps_ret {a : α} : (ret a : Prog σ α).Keeps I P ↔ P (.ret a) := Iff.rfl

@[simp] theorem keeps_panic {msg : String} : (panic msg : Prog σ α).Keeps I P ↔ P (.panic msg) := Iff.rfl

theorem keeps_lift {o : Outcome α} (h : P o) : (lift o : Prog σ α).Keeps I P := by
  cases o with
  | ret a => exact h
  | panic msg => exact h

theorem keeps_read {f : σ → α} (h : ∀ s, I s → P (.ret (f s))) : (read f).Keeps I P :=
  fun s hs => ⟨hs, h s hs⟩

theorem keeps_modify {f : σ → σ} {P : Outcome Unit → Prop} (hf : ∀ s, I s → I (f s)) (h : P (.ret ())) :
    (modify f).Keeps I P :=
  fun s hs => ⟨hf s hs, h⟩

theorem Keeps.mono {p : Prog σ α} (h : p.Keeps I P) (hPQ : ∀ o, P o → Q o) : p.Keeps I Q := by
  induction p with
  | ret a => exact hPQ _ h
  | panic msg => exact hPQ _ h
  | step write next ih => exact fun s hs => ⟨(h s hs).1, ih s (h s hs).2⟩

/-- **Sequencing.** -/
theorem Keeps.bind {p : Prog σ α} {f : α → Prog σ β} (h : p.Keeps I P)
    (hret : ∀ a, P (.ret a) → (f a).Keeps I R) (hpanic : ∀ msg, P (.panic msg) → R (.panic msg)) :
    (p >>= f).Keeps I R := by
  induction p with
  | ret a => exact hret a h
  | panic msg => exact hpanic msg h
  | step write next ih => exact fun s hs => ⟨(h s hs).1, ih s (h s hs).2⟩

/-- **Memoising.** What is stored is as wanted, and what is computed may be stored. -/
theorem keeps_memo {get : σ → Option α} {put : α → σ → σ} {compute : Prog σ α}
    (hget : ∀ s a, I s → get s = some a → P (.ret a)) (hput : ∀ s a, I s → P (.ret a) → I (put a s))
    (hcompute : compute.Keeps I P) : (memo get put compute).Keeps I P := by
  have hread : (read get).Keeps I fun o => ∃ found, o = .ret found ∧ ∀ a, found = some a → P (.ret a) :=
    keeps_read fun s hs => ⟨get s, rfl, fun a ha => hget s a hs ha⟩
  refine hread.bind (fun found hfound => ?_) (by simp)
  obtain ⟨_, ⟨⟩, hstored⟩ := hfound
  cases found with
  | some a => exact hstored a rfl
  | none =>
    refine hcompute.bind (fun a ha => ?_) fun msg hmsg => hmsg
    have hmodify : (modify (put a)).Keeps I (· = .ret ()) := keeps_modify (fun s hs => hput s a hs ha) rfl
    exact hmodify.bind (fun _ _ => ha) (by simp)

theorem Keeps.run {p : Prog σ α} (h : p.Keeps I P) {s : σ} (hs : I s) :
    P (p.run s).1 ∧ I (p.run s).2 := by
  induction p generalizing s with
  | ret a => exact ⟨h, hs⟩
  | panic msg => exact ⟨h, hs⟩
  | step write next ih => exact ih s (h s hs).2 (h s hs).1

/-- The program comes to `o`, whatever state within the invariant its steps find. -/
def Gives (I : σ → Prop) (p : Prog σ α) (o : Outcome α) : Prop := p.Keeps I (· = o)

theorem gives_ret (a : α) : (ret a : Prog σ α).Gives I (.ret a) := rfl

theorem gives_lift (o : Outcome α) : (lift o : Prog σ α).Gives I o := keeps_lift rfl

theorem Gives.bind {p : Prog σ α} {f : α → Prog σ β} {o : Outcome α} {g : α → Outcome β}
    (h : p.Gives I o) (hf : ∀ a, o = .ret a → (f a).Gives I (g a)) : (p >>= f).Gives I (o >>= g) := by
  refine Keeps.bind h (fun a ha => ?_) fun msg hmsg => ?_
  · rw [← ha]
    exact hf a ha.symm
  · rw [← hmsg, Outcome.panic_bind]

theorem Gives.map {p : Prog σ α} {o : Outcome α} (h : p.Gives I o) (f : α → β) :
    (f <$> p).Gives I (f <$> o) :=
  Gives.bind h fun a _ => gives_ret (f a)

theorem Gives.keeps {p : Prog σ α} {o : Outcome α} (h : p.Gives I o) (ho : P o) : p.Keeps I P :=
  Keeps.mono h fun _ he => he ▸ ho

/-! ## What a program returns -/

variable (I) in
/-- Whatever the program returns satisfies `P`; a panic is allowed. -/
def Returns (P : α → Prop) (p : Prog σ α) : Prop := p.Keeps I fun o => ∀ a, o = .ret a → P a

section Returns

variable {P Q : α → Prop} {R : β → Prop}

theorem returns_ret {a : α} (h : P a) : (ret a : Prog σ α).Returns I P := by
  intro b hb
  cases hb
  exact h

theorem Returns.mono {p : Prog σ α} (h : p.Returns I P) (hPQ : ∀ a, P a → Q a) : p.Returns I Q :=
  Keeps.mono h fun _ ho a ha => hPQ a (ho a ha)

theorem Returns.bind {p : Prog σ α} {f : α → Prog σ β} (h : p.Returns I P)
    (hf : ∀ a, P a → (f a).Returns I R) : (p >>= f).Returns I R := by
  refine Keeps.bind h (fun a ha => hf a (ha a rfl)) fun msg _ b hb => ?_
  cases hb

theorem returns_lift (o : Outcome α) : (lift o : Prog σ α).Returns I fun a => o = .ret a :=
  keeps_lift fun _ ha => ha

theorem Gives.returns {p : Prog σ α} {o : Outcome α} (h : p.Gives I o) : p.Returns I fun a => o = .ret a :=
  Gives.keeps h fun _ ha => ha

theorem returns_ite {c : Prop} [Decidable c] {p q : Prog σ α} (hp : c → p.Returns I P)
    (hq : ¬ c → q.Returns I P) : (if c then p else q).Returns I P := by
  split_ifs with hc
  · exact hp hc
  · exact hq hc

theorem Returns.run {p : Prog σ α} (h : p.Returns I P) {s : σ} (hs : I s) {a : α}
    (ha : (p.run s).1 = .ret a) : P a :=
  (Keeps.run h hs).1 a ha

end Returns

/-! ## Frames -/

variable {γ : Type} {view : σ → γ} {frame : σ → σ → Prop}

variable (view frame) in
/-- Each step reads the state through `view` only, and changes it only as `frame` allows. -/
def Confined : Prog σ α → Prop
  | ret _ => True
  | panic _ => True
  | step write next =>
    ∀ s, frame s (write s) ∧ (∀ s', view s = view s' → next s = next s') ∧ (next s).Confined

@[simp] theorem confined_ret (a : α) : (ret a : Prog σ α).Confined view frame := trivial

theorem confined_lift (o : Outcome α) : (lift o : Prog σ α).Confined view frame := by
  cases o with
  | ret a => trivial
  | panic msg => trivial

theorem confined_read {f : σ → α} (hrefl : ∀ s, frame s s) (hf : ∀ s s', view s = view s' → f s = f s') :
    (read f).Confined view frame :=
  fun s => ⟨hrefl s, fun s' hs' => congrArg ret (hf s s' hs'), trivial⟩

theorem confined_modify {f : σ → σ} (hf : ∀ s, frame s (f s)) : (modify f).Confined view frame :=
  fun s => ⟨hf s, fun _ _ => rfl, trivial⟩

theorem Confined.bind {p : Prog σ α} {f : α → Prog σ β} (h : p.Confined view frame)
    (hf : ∀ a, (f a).Confined view frame) : (p >>= f).Confined view frame := by
  induction p with
  | ret a => exact hf a
  | panic msg => trivial
  | step write next ih =>
    intro s
    obtain ⟨hframe, hview, hnext⟩ := h s
    exact ⟨hframe, fun s' hs' => congrArg (Prog.bind · f) (hview s' hs'), ih s hnext⟩

theorem Confined.map {p : Prog σ α} (h : p.Confined view frame) (f : α → β) :
    (f <$> p).Confined view frame :=
  h.bind fun _ => trivial

theorem Confined.run {p : Prog σ α} (h : p.Confined view frame) (hrefl : ∀ s, frame s s)
    (htrans : ∀ s s' s'', frame s s' → frame s' s'' → frame s s'') (s : σ) : frame s (p.run s).2 := by
  induction p generalizing s with
  | ret a => exact hrefl s
  | panic msg => exact hrefl s
  | step write next ih =>
    obtain ⟨hframe, -, hnext⟩ := h s
    exact htrans s (write s) _ hframe (ih s hnext (write s))

theorem confined_memo {get : σ → Option α} {put : α → σ → σ} {compute : Prog σ α} (hrefl : ∀ s, frame s s)
    (hget : ∀ s s', view s = view s' → get s = get s') (hput : ∀ s a, frame s (put a s))
    (hcompute : compute.Confined view frame) : (memo get put compute).Confined view frame := by
  refine (confined_read hrefl hget).bind fun found => ?_
  cases found with
  | some a => trivial
  | none => exact hcompute.bind fun a => (confined_modify fun s => hput s a).bind fun _ => trivial

end Prog

/-! ## Interleavings -/

/-- Programs that run over one state. -/
structure Threads (ι σ α : Type) where
  prog : ι → Prog σ α
  shared : σ

namespace Threads

variable {ι σ α : Type} [DecidableEq ι]

/-- Thread `i` takes its next atomic step. -/
def step (t : Threads ι σ α) (i : ι) : Option (Threads ι σ α) :=
  match t.prog i with
  | .step write next => some ⟨Function.update t.prog i (next t.shared), write t.shared⟩
  | _ => none

/-- The thread has ended with this outcome. -/
def Ended (t : Threads ι σ α) (i : ι) : Outcome α → Prop
  | .ret a => t.prog i = .ret a
  | .panic msg => t.prog i = .panic msg

theorem step_eq_some {t t' : Threads ι σ α} {i : ι} : t.step i = some t' ↔
    ∃ write next, t.prog i = .step write next ∧
      t' = ⟨Function.update t.prog i (next t.shared), write t.shared⟩ := by
  unfold step
  constructor
  · intro h
    split at h
    · exact ⟨_, _, ‹_›, (Option.some.inj h).symm⟩
    · cases h
  · rintro ⟨write, next, hprog, rfl⟩
    rw [hprog]

variable {I : σ → Prop} {P : ι → Outcome α → Prop}

/-- **Every interleaving** of programs that keep the invariant keeps it, and what is left of each of
them is still a program that does. -/
theorem run_keeps {t t' : Threads ι σ α} {acts : List ι} (hshared : I t.shared)
    (hprog : ∀ i, (t.prog i).Keeps I (P i)) (h : run step t acts = some t') :
    I t'.shared ∧ ∀ i, (t'.prog i).Keeps I (P i) := by
  refine run_inv (I := fun t => I t.shared ∧ ∀ i, (t.prog i).Keeps I (P i)) ?_ ⟨hshared, hprog⟩ h
  rintro t i t' ⟨hshared, hprog⟩ hstep
  obtain ⟨write, next, hi, rfl⟩ := step_eq_some.mp hstep
  have hkeeps := hprog i
  rw [hi] at hkeeps
  obtain ⟨hwrite, hnext⟩ := hkeeps t.shared hshared
  have hothers : ∀ j, j ≠ i → (t.prog j).Keeps I (P j) := fun j _ => hprog j
  exact ⟨hwrite, (Function.forall_update_iff t.prog fun j p => p.Keeps I (P j)).mpr ⟨hnext, hothers⟩⟩

omit [DecidableEq ι] in
theorem Ended.of_keeps {t : Threads ι σ α} {i : ι} {o : Outcome α} (h : t.Ended i o)
    (hkeeps : (t.prog i).Keeps I (P i)) : P i o := by
  cases o with
  | ret a =>
    rw [show t.prog i = .ret a from h] at hkeeps
    exact hkeeps
  | panic msg =>
    rw [show t.prog i = .panic msg from h] at hkeeps
    exact hkeeps

end Threads

end Base
