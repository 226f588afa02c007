import Mathlib.Logic.Function.Basic
import PumpTrade.Base.Run

/-!
# Interleaved programs

Threads are lists of atomic steps over one shared state. An action of the machine names the thread
that takes its next step, so a run is an interleaving of the programs.

* `run_thread`: a thread may run alone through a prefix of its program;
* `exists_run_rest`: the threads of a list may all be run to their ends;
* `exists_run_split`: a thread may be split around another;
* `executed`, **`run_shared_eq`**: a run leaves what its steps leave one after the other;
* **`run_guarded`**: where every dangerous step comes after a step of its own thread that
  establishes a stable guard, every interleaving keeps what only unguarded dangerous steps break;
* `Settles`: what the last decisive step of a program leaves is there at its end.
-/

namespace Base.Interleave

variable {ι β σ : Type} [DecidableEq ι] (effect : β → σ → σ)

/-- What each thread has still to do, and the shared state. -/
structure State (ι β σ : Type) where
  todo : ι → List β
  shared : σ

/-- Thread `i` takes its next step. -/
def step (s : State ι β σ) (i : ι) : Option (State ι β σ) :=
  match s.todo i with
  | [] => none
  | b :: rest => some ⟨Function.update s.todo i rest, effect b s.shared⟩

/-- A program run alone. -/
def alone : List β → σ → σ
  | [], s => s
  | b :: bs, s => alone bs (effect b s)

/-- All threads have finished. -/
def Done (s : State ι β σ) : Prop := ∀ i, s.todo i = []

variable {effect}

theorem alone_append (as bs : List β) (s : σ) :
    alone effect (as ++ bs) s = alone effect bs (alone effect as s) := by
  induction as generalizing s with
  | nil => rfl
  | cons a as ih => exact ih _

theorem alone_flatMap {α : Type} (f : α → List β) (xs : List α) (s : σ) :
    alone effect (xs.flatMap f) s = xs.foldl (fun s x => alone effect (f x) s) s := by
  induction xs generalizing s with
  | nil => rfl
  | cons x xs ih =>
    rw [List.flatMap_cons, alone_append, ih]
    rfl

theorem step_eq_some {s s' : State ι β σ} {i : ι} : step effect s i = some s' ↔
    ∃ b rest, s.todo i = b :: rest ∧ s' = ⟨Function.update s.todo i rest, effect b s.shared⟩ := by
  unfold step
  constructor
  · intro h
    split at h
    · cases h
    · exact ⟨_, _, ‹_›, (Option.some.inj h).symm⟩
  · rintro ⟨b, rest, hi, rfl⟩
    rw [hi]

theorem mem_of_mem_update {todo : ι → List β} {i j : ι} {b c : β} {rest : List β} (hi : todo i = c :: rest)
    (h : b ∈ Function.update todo i rest j) : b ∈ todo j := by
  by_cases hj : j = i
  · subst hj
    rw [Function.update_self] at h
    rw [hi]
    exact List.mem_cons_of_mem c h
  · rwa [Function.update_of_ne hj] at h

variable (effect) in
/-- **A thread runs alone** through a prefix of its program. -/
theorem run_thread (todo : ι → List β) (i : ι) (pre post : List β) (hi : todo i = pre ++ post) (m : σ) :
    run (step effect) ⟨todo, m⟩ (List.replicate pre.length i) =
      some ⟨Function.update todo i post, alone effect pre m⟩ := by
  induction pre generalizing todo m with
  | nil =>
    rw [List.nil_append] at hi
    rw [← hi, Function.update_eq_self]
    rfl
  | cons b pre ih =>
    have hb : step effect ⟨todo, m⟩ i = some ⟨Function.update todo i (pre ++ post), effect b m⟩ :=
      step_eq_some.mpr ⟨b, pre ++ post, hi, rfl⟩
    rw [List.length_cons, List.replicate_succ, run_cons hb, ih _ (Function.update_self i _ _)]
    rw [Function.update_idem]
    rfl

variable (effect) in
theorem exists_run_rest (is : List ι) (todo : ι → List β) (m : σ) :
    ∃ acts m', run (step effect) ⟨todo, m⟩ acts =
      some ⟨fun i => if i ∈ is then [] else todo i, m'⟩ := by
  induction is generalizing todo m with
  | nil => exact ⟨[], m, by simp⟩
  | cons j is ih =>
    obtain ⟨acts, m', h⟩ := ih (Function.update todo j []) (alone effect (todo j) m)
    refine ⟨List.replicate (todo j).length j ++ acts, m', ?_⟩
    rw [run_append_of (run_thread effect todo j (todo j) [] (List.append_nil _).symm m) h]
    congr 2
    funext i
    by_cases hi : i = j
    · subst hi; simp
    · simp [hi]

/-- **A thread split around another.** The other threads run first, then thread `i` through `pre`,
then the whole of thread `j`, then the rest of thread `i`. -/
theorem exists_run_split {is : List ι} (his : ∀ l, l ∈ is) (todo : ι → List β) {i j : ι} (hne : j ≠ i)
    {pre post : List β} (hi : todo i = pre ++ post) (m : σ) :
    ∃ acts t m₁, run (step effect) ⟨todo, m⟩ acts = some t ∧ Done t ∧
      t.shared = alone effect post (alone effect (todo j) (alone effect pre m₁)) := by
  let others := is.filter fun l => l ≠ i ∧ l ≠ j
  let rest : ι → List β := fun l => if l ∈ others then [] else todo l
  have hmem : ∀ l, l ∈ others ↔ l ≠ i ∧ l ≠ j := fun l => by simp [others, his]
  have hresti : rest i = pre ++ post := by simp [rest, hmem, hi]
  have hrestj : Function.update rest i post j = todo j ++ [] := by simp [rest, hmem, hne]
  obtain ⟨acts, m₁, hothers⟩ := exists_run_rest effect others todo m
  have hpre := run_thread effect rest i pre post hresti m₁
  have hj := run_thread effect (Function.update rest i post) j (todo j) [] hrestj (alone effect pre m₁)
  have hpost := run_thread effect (Function.update (Function.update rest i post) j []) i post []
    (by simp [hne.symm]) (alone effect (todo j) (alone effect pre m₁))
  refine ⟨_, _, m₁, run_append_of hothers (run_append_of hpre (run_append_of hj hpost)), fun l => ?_, rfl⟩
  by_cases hli : l = i
  · simp [hli]
  · by_cases hlj : l = j
    · simp [hlj, hne]
    · simp [rest, hmem, hli, hlj]

/-! ## The order of the steps -/

variable (effect) in
/-- The atomic steps of a run in the order in which they were taken. -/
def executed (s : State ι β σ) : List ι → List β
  | [] => []
  | i :: acts =>
    match s.todo i with
    | [] => []
    | b :: rest => b :: executed ⟨Function.update s.todo i rest, effect b s.shared⟩ acts

theorem executed_cons {s : State ι β σ} {i : ι} {b : β} {rest : List β} (hi : s.todo i = b :: rest)
    (acts : List ι) : executed effect s (i :: acts) =
      b :: executed effect ⟨Function.update s.todo i rest, effect b s.shared⟩ acts := by
  simp only [executed, hi]

/-- **A run leaves what its steps leave one after the other**, in the order in which they were
taken. -/
theorem run_shared_eq {s t : State ι β σ} {acts : List ι} (h : run (step effect) s acts = some t) :
    t.shared = alone effect (executed effect s acts) s.shared := by
  induction acts generalizing s with
  | nil =>
    cases h
    rfl
  | cons i acts ih =>
    obtain ⟨s', hstep, hrun⟩ := run_cons_eq_some.mp h
    obtain ⟨b, rest, hi, rfl⟩ := step_eq_some.mp hstep
    rw [executed_cons hi]
    exact ih hrun

theorem mem_executed {s : State ι β σ} {acts : List ι} {b : β} (h : b ∈ executed effect s acts) :
    ∃ i, b ∈ s.todo i := by
  induction acts generalizing s with
  | nil => cases h
  | cons i acts ih =>
    cases hi : s.todo i with
    | nil =>
      simp only [executed, hi] at h
      cases h
    | cons c rest =>
      rw [executed_cons hi] at h
      rcases List.mem_cons.mp h with rfl | h
      · exact ⟨i, by rw [hi]; exact List.mem_cons_self⟩
      · obtain ⟨j, hj⟩ := ih h
        exact ⟨j, mem_of_mem_update hi hj⟩

/-! ## Guarded steps -/

/-- Every dangerous step comes after a step that establishes the guard. -/
def Guarded (danger guard : β → Prop) : List β → Prop
  | [] => True
  | b :: bs => guard b ∨ (¬ danger b ∧ Guarded danger guard bs)

theorem Guarded.append {danger guard : β → Prop} {as bs : List β} (ha : Guarded danger guard as)
    (hb : Guarded danger guard bs) : Guarded danger guard (as ++ bs) := by
  induction as with
  | nil => exact hb
  | cons a as ih => exact ha.imp_right fun h => ⟨h.1, ih h.2⟩

theorem guarded_of_forall_not {danger guard : β → Prop} {bs : List β} (h : ∀ b ∈ bs, ¬ danger b) :
    Guarded danger guard bs := by
  induction bs with
  | nil => trivial
  | cons b bs ih =>
    exact Or.inr ⟨h b List.mem_cons_self, ih fun c hc => h c (List.mem_cons_of_mem b hc)⟩

theorem Guarded.mono {danger danger' guard : β → Prop} {bs : List β}
    (hd : ∀ b ∈ bs, danger' b → danger b) (h : Guarded danger guard bs) : Guarded danger' guard bs := by
  induction bs with
  | nil => trivial
  | cons b bs ih =>
    refine h.imp_right fun hb => ⟨fun hb' => hb.1 (hd b List.mem_cons_self hb'), ?_⟩
    exact ih (fun c hc => hd c (List.mem_cons_of_mem b hc)) hb.2

theorem Guarded.flatMap {α : Type} {danger guard : β → Prop} {f : α → List β} {xs : List α}
    (h : ∀ x ∈ xs, Guarded danger guard (f x)) : Guarded danger guard (xs.flatMap f) := by
  induction xs with
  | nil => trivial
  | cons x xs ih =>
    rw [List.flatMap_cons]
    exact (h x List.mem_cons_self).append (ih fun y hy => h y (List.mem_cons_of_mem x hy))

section Rule

variable (danger guard : β → Prop) (A Safe : σ → Prop)

variable (effect) in
/-- The invariant of `run_guarded`: each thread still has its guard ahead, or the guard holds. -/
def GuardInv (s : State ι β σ) : Prop :=
  Safe s.shared ∧ (∀ i, ∀ b ∈ s.todo i, ∀ m, A m → A (effect b m)) ∧
    (A s.shared ∨ ∀ i, Guarded danger guard (s.todo i))

/-- **Guarded interleavings are safe.** `A` is kept by every step and implies `Safe`; a guarding
step establishes `A`; a step that is not dangerous keeps `Safe`. -/
theorem run_guarded (hA : ∀ m, A m → Safe m) (hguard : ∀ b m, guard b → A (effect b m))
    (hsafe : ∀ b m, ¬ danger b → Safe m → Safe (effect b m)) {s t : State ι β σ} {acts : List ι}
    (hs : Safe s.shared) (hstable : ∀ i, ∀ b ∈ s.todo i, ∀ m, A m → A (effect b m))
    (hg : ∀ i, Guarded danger guard (s.todo i)) (h : run (step effect) s acts = some t) :
    Safe t.shared := by
  refine (run_inv (I := GuardInv effect danger guard A Safe) ?_ ⟨hs, hstable, Or.inr hg⟩ h).1
  rintro s i s' ⟨hs, hstable, hg⟩ hstep
  obtain ⟨b, rest, hi, rfl⟩ := step_eq_some.mp hstep
  have hb : b ∈ s.todo i := by rw [hi]; exact List.mem_cons_self
  have hstable' : ∀ j, ∀ c ∈ Function.update s.todo i rest j, ∀ m, A m → A (effect c m) :=
    fun j c hc => hstable j c (mem_of_mem_update hi hc)
  rcases hg with hAs | hg
  · have hA' := hstable i b hb _ hAs
    exact ⟨hA _ hA', hstable', Or.inl hA'⟩
  · have hgi := hg i
    rw [hi] at hgi
    rcases hgi with hgb | ⟨hd, hrest⟩
    · exact ⟨hA _ (hguard b _ hgb), hstable', Or.inl (hguard b _ hgb)⟩
    · have hg' : ∀ j, Guarded danger guard (Function.update s.todo i rest j) := by
        intro j
        by_cases hj : j = i
        · subst hj; rw [Function.update_self]; exact hrest
        · rw [Function.update_of_ne hj]; exact hg j
      exact ⟨hsafe b _ hd hs, hstable', Or.inr hg'⟩

end Rule

/-! ## Last writes -/

section Settles

variable {good bad : β → Prop} {P : σ → Prop}

variable (bad P) in
theorem alone_keeps (hkeep : ∀ b m, ¬ bad b → P m → P (effect b m)) {bs : List β}
    (hbs : ∀ b ∈ bs, ¬ bad b) {m : σ} (hm : P m) : P (alone effect bs m) := by
  induction bs generalizing m with
  | nil => exact hm
  | cons b bs ih =>
    exact ih (fun c hc => hbs c (List.mem_cons_of_mem b hc)) (hkeep b m (hbs b List.mem_cons_self) hm)

/-- The program takes a `good` step and no `bad` step after it. -/
def Settles (good bad : β → Prop) (bs : List β) : Prop :=
  ∃ pre b post, bs = pre ++ b :: post ∧ good b ∧ ∀ c ∈ post, ¬ bad c

theorem Settles.append {as bs : List β} (h : Settles good bad as) (hbs : ∀ c ∈ bs, ¬ bad c) :
    Settles good bad (as ++ bs) := by
  obtain ⟨pre, b, post, rfl, hb, hpost⟩ := h
  refine ⟨pre, b, post ++ bs, by simp, hb, fun c hc => ?_⟩
  exact (List.mem_append.mp hc).elim (hpost c) (hbs c)

theorem Settles.append_left {bs : List β} (as : List β) (h : Settles good bad bs) :
    Settles good bad (as ++ bs) := by
  obtain ⟨pre, b, post, rfl, hb, hpost⟩ := h
  exact ⟨as ++ pre, b, post, by simp, hb, hpost⟩

/-- A program of parts that each settle or are not bad settles where one part does. -/
theorem Settles.flatMap {α : Type} {f : α → List β} {xs : List α}
    (h : ∀ x ∈ xs, Settles good bad (f x) ∨ ∀ c ∈ f x, ¬ bad c)
    (hx : ∃ x ∈ xs, Settles good bad (f x)) : Settles good bad (xs.flatMap f) := by
  induction xs with
  | nil => obtain ⟨x, hx, -⟩ := hx; cases hx
  | cons y ys ih =>
    rw [List.flatMap_cons]
    by_cases hys : ∃ x ∈ ys, Settles good bad (f x)
    · exact (ih (fun x hx => h x (List.mem_cons_of_mem y hx)) hys).append_left _
    · obtain ⟨x, hmem, hfx⟩ := hx
      rcases List.mem_cons.mp hmem with rfl | hmem
      · refine hfx.append fun c hc => ?_
        obtain ⟨z, hz, hcz⟩ := List.mem_flatMap.mp hc
        exact ((h z (List.mem_cons_of_mem _ hz)).resolve_left fun hfz => hys ⟨z, hz, hfz⟩) c hcz
      · exact absurd ⟨x, hmem, hfx⟩ hys

theorem Settles.alone (hgood : ∀ b m, good b → P (effect b m))
    (hkeep : ∀ b m, ¬ bad b → P m → P (effect b m)) {bs : List β} (h : Settles good bad bs) (m : σ) :
    P (alone effect bs m) := by
  obtain ⟨pre, b, post, rfl, hb, hpost⟩ := h
  rw [alone_append]
  exact alone_keeps bad P hkeep hpost (hgood b _ hb)

end Settles

end Base.Interleave
