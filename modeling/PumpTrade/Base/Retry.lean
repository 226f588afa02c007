import Mathlib.Data.List.Basic
import Mathlib.Data.Nat.Notation

/-!
# Loops that stop early

A loop that tries something a bounded number of times and stops at the first success, and one that goes
through a list and stops at the first failure.

* `retryUpTo`: the first loop, with what each attempt leaves behind;
* `retry_eq_none_iff`, `retry_eq_some`: how it ends;
* **`retry_trace`**: what it leaves behind is that of the attempts up to the first success;
* `tryEach`: the second loop;
* `tryEach_eq_ok`, **`tryEach_eq_error`**: how it ends.
-/

namespace Base

variable {α ε : Type}

/-- Attempts from `k` on. An attempt leaves something behind, and an error unless it succeeds. -/
def retryUpTo (attempt : ℕ → α × Option ε) : (remaining k : ℕ) → (lastError : Option ε) → List α × Option ε
  | 0, _, lastError => ([], lastError)
  | remaining + 1, k, _ =>
    match (attempt k).2 with
    | none => ([(attempt k).1], none)
    | some e =>
      let rest := retryUpTo attempt remaining (k + 1) (some e)
      ((attempt k).1 :: rest.1, rest.2)

variable {attempt : ℕ → α × Option ε} {remaining k : ℕ} {lastError : Option ε}

theorem retry_of_none (h : (attempt k).2 = none) :
    retryUpTo attempt (remaining + 1) k lastError = ([(attempt k).1], none) := by
  simp only [retryUpTo, h]

theorem retry_of_some {e : ε} (h : (attempt k).2 = some e) :
    retryUpTo attempt (remaining + 1) k lastError =
      ((attempt k).1 :: (retryUpTo attempt remaining (k + 1) (some e)).1,
        (retryUpTo attempt remaining (k + 1) (some e)).2) := by
  simp only [retryUpTo, h]

/-- The loop ends without an error exactly if it has none to begin with and makes no attempt, or an
attempt succeeds. -/
theorem retry_eq_none_iff : (retryUpTo attempt remaining k lastError).2 = none ↔
    (remaining = 0 ∧ lastError = none) ∨ ∃ i < remaining, (attempt (k + i)).2 = none := by
  induction remaining generalizing k lastError with
  | zero => simp [retryUpTo]
  | succ remaining ih =>
    cases h : (attempt k).2 with
    | none =>
      rw [retry_of_none h]
      exact iff_of_true rfl (.inr ⟨0, Nat.succ_pos _, h⟩)
    | some e =>
      have hshift : (∃ i < remaining + 1, (attempt (k + i)).2 = none) ↔
          ∃ i < remaining, (attempt (k + 1 + i)).2 = none := by
        constructor
        · rintro ⟨_ | i, hi, hnone⟩
          · rw [Nat.add_zero, h] at hnone
            cases hnone
          · exact ⟨i, Nat.lt_of_succ_lt_succ hi, by rwa [Nat.add_assoc, Nat.add_comm 1 i]⟩
        · rintro ⟨i, hi, hnone⟩
          exact ⟨i + 1, Nat.succ_lt_succ hi, by rwa [Nat.add_comm i 1, ← Nat.add_assoc]⟩
      rw [retry_of_some h, ih, hshift]
      simp

theorem retry_eq_some {e : ε} (h : (retryUpTo attempt (remaining + 1) k lastError).2 = some e) :
    (attempt (k + remaining)).2 = some e := by
  induction remaining generalizing k lastError with
  | zero =>
    cases hk : (attempt k).2 with
    | none =>
      rw [retry_of_none hk] at h
      cases h
    | some e' =>
      rw [retry_of_some hk] at h
      exact h
  | succ remaining ih =>
    cases hk : (attempt k).2 with
    | none =>
      rw [retry_of_none hk] at h
      cases h
    | some e' =>
      rw [retry_of_some hk] at h
      have hrest : (attempt (k + 1 + remaining)).2 = some e := ih h
      rwa [Nat.add_assoc, Nat.add_comm 1 remaining] at hrest

/-- **What is left behind** is that of the attempts up to the first success, or of all. -/
theorem retry_trace (attempt : ℕ → α × Option ε) (remaining k : ℕ) (lastError : Option ε) : ∃ n ≤ remaining,
    (retryUpTo attempt remaining k lastError).1 = (List.range n).map (fun i => (attempt (k + i)).1) ∧
    (∀ i < n, (attempt (k + i)).2 = none → i + 1 = n) ∧
    (n < remaining → ∃ i, i + 1 = n ∧ (attempt (k + i)).2 = none) := by
  induction remaining generalizing k lastError with
  | zero => exact ⟨0, Nat.le_refl 0, rfl, nofun, nofun⟩
  | succ remaining ih =>
    cases hk : (attempt k).2 with
    | none =>
      rw [retry_of_none hk]
      refine ⟨1, Nat.succ_le_succ (Nat.zero_le _), rfl, fun i hi _ => by omega, fun _ => ⟨0, rfl, hk⟩⟩
    | some e =>
      rw [retry_of_some hk]
      obtain ⟨n, hn, htrace, hfirst, hlast⟩ := ih (k + 1) (some e)
      have hshift : ∀ i, k + 1 + i = k + (i + 1) := fun i => by omega
      refine ⟨n + 1, Nat.succ_le_succ hn, ?_, fun i hi hnone => ?_, fun hlt => ?_⟩
      · rw [List.range_succ_eq_map, List.map_cons, List.map_map, htrace]
        simp only [hshift]
        rfl
      · cases i with
        | zero =>
          rw [Nat.add_zero, hk] at hnone
          cases hnone
        | succ i => rw [hfirst i (Nat.lt_of_succ_lt_succ hi) (by rwa [hshift])]
      · obtain ⟨i, hi, hnone⟩ := hlast (Nat.lt_of_succ_lt_succ hlt)
        exact ⟨i + 1, by rw [hi], by rwa [← hshift]⟩

/-! ## Through a list -/

section TryEach

variable {β : Type} {f : ℕ → β → Except ε Unit}

/-- The elements in turn, the first of them under the number `n`. -/
def tryEach (f : ℕ → β → Except ε Unit) : (n : ℕ) → List β → Except ε Unit
  | _, [] => .ok ()
  | n, x :: xs => do
    f n x
    tryEach f (n + 1) xs

theorem tryEach_cons_of_ok {n : ℕ} {x : β} (h : f n x = .ok ()) (xs : List β) :
    tryEach f n (x :: xs) = tryEach f (n + 1) xs := by
  rw [tryEach, h]
  rfl

theorem tryEach_cons_of_error {n : ℕ} {x : β} {e : ε} (h : f n x = .error e) (xs : List β) :
    tryEach f n (x :: xs) = .error e := by
  rw [tryEach, h]
  rfl

/-- **The loop succeeds** where each element does. -/
theorem tryEach_eq_ok {n : ℕ} {xs : List β} :
    tryEach f n xs = .ok () ↔ ∀ i x, xs[i]? = some x → f (n + i) x = .ok () := by
  induction xs generalizing n with
  | nil => simp [tryEach]
  | cons x xs ih =>
    cases hx : f n x with
    | error e =>
      rw [tryEach_cons_of_error hx]
      refine iff_of_false (fun h => by cases h) fun h => ?_
      have h0 := h 0 x rfl
      rw [Nat.add_zero, hx] at h0
      cases h0
    | ok u =>
      rw [tryEach_cons_of_ok hx, ih]
      constructor
      · rintro h (_ | i) y hy
        · obtain rfl := Option.some.inj hy
          exact hx
        · rw [Nat.add_comm i 1, ← Nat.add_assoc]
          exact h i y hy
      · intro h i y hy
        rw [Nat.add_assoc, Nat.add_comm 1 i]
        exact h (i + 1) y hy

/-- **The loop fails** with the error of the first element that does. -/
theorem tryEach_eq_error {n : ℕ} {xs : List β} {e : ε} :
    tryEach f n xs = .error e ↔ ∃ i x, xs[i]? = some x ∧ f (n + i) x = .error e ∧
      ∀ j y, j < i → xs[j]? = some y → f (n + j) y = .ok () := by
  induction xs generalizing n with
  | nil => simp [tryEach]
  | cons x xs ih =>
    cases hx : f n x with
    | error e' =>
      rw [tryEach_cons_of_error hx]
      constructor
      · rintro h
        exact ⟨0, x, rfl, hx.trans h, fun j y hj => absurd hj (Nat.not_lt_zero j)⟩
      · rintro ⟨_ | i, y, hy, hfail, hbefore⟩
        · obtain rfl := Option.some.inj hy
          exact hx.symm.trans hfail
        · have hok := hbefore 0 x (Nat.succ_pos i) rfl
          rw [Nat.add_zero, hx] at hok
          cases hok
    | ok u =>
      rw [tryEach_cons_of_ok hx, ih]
      constructor
      · rintro ⟨i, y, hy, hfail, hbefore⟩
        refine ⟨i + 1, y, hy, by rwa [Nat.add_comm i 1, ← Nat.add_assoc], ?_⟩
        rintro (_ | j) z hj hz
        · obtain rfl := Option.some.inj hz
          exact hx
        · rw [Nat.add_comm j 1, ← Nat.add_assoc]
          exact hbefore j z (Nat.lt_of_succ_lt_succ hj) hz
      · rintro ⟨_ | i, y, hy, hfail, hbefore⟩
        · obtain rfl := Option.some.inj hy
          rw [Nat.add_zero, hx] at hfail
          cases hfail
        · refine ⟨i, y, hy, by rwa [Nat.add_assoc, Nat.add_comm 1 i], fun j z hj hz => ?_⟩
          rw [Nat.add_assoc, Nat.add_comm 1 j]
          exact hbefore (j + 1) z (Nat.succ_lt_succ hj) hz

end TryEach

end Base
