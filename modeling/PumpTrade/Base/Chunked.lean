import Mathlib.Order.Basic

/-!
# Loops over chunks

A loop `while offset + width <= len` takes a chunk of `width` places after another, and a loop over
single places takes what is left. The bodies may rely on the bound of their loop.

* `wholeChunks`: the loop over chunks, with the offset at which it ends; `chunked`: both loops;
* `Covers`: a relation for the places that a part of a loop has dealt with;
* **`chunked_covers`**: where each body covers its places, both loops cover all of them.
-/

namespace Base

variable {σ : Type} {width len : ℕ}

/-- `while offset + width <= len { body(offset); offset += width }`. -/
def wholeChunks (hwidth : 0 < width) (len : ℕ) (body : (offset : ℕ) → offset + width ≤ len → σ → σ)
    (offset : ℕ) (s : σ) : ℕ × σ :=
  if h : offset + width ≤ len then wholeChunks hwidth len body (offset + width) (body offset h s)
  else (offset, s)
termination_by len - offset

/-- Whole chunks from the start on, and then the places after them one by one. -/
def chunked (hwidth : 0 < width) (len : ℕ) (body : (offset : ℕ) → offset + width ≤ len → σ → σ)
    (rest : (offset : ℕ) → offset < len → σ → σ) (s : σ) : σ :=
  let (offset, s) := wholeChunks hwidth len body 0 s
  (wholeChunks Nat.one_pos len rest offset s).2

/-- `R offset n s s'` says what has become of the `n` places from `offset` on. -/
structure Covers (R : ℕ → ℕ → σ → σ → Prop) : Prop where
  none : ∀ offset s, R offset 0 s s
  append : ∀ offset m n s₀ s₁ s₂, R offset m s₀ s₁ → R (offset + m) n s₁ s₂ → R offset (m + n) s₀ s₂

variable {R : ℕ → ℕ → σ → σ → Prop} {body : (offset : ℕ) → offset + width ≤ len → σ → σ}

/-- A loop over chunks covers the places up to where it ends, which is less than a chunk before the
end, by induction on the chunks left. -/
theorem wholeChunks_covers (hR : Covers R) (hwidth : 0 < width)
    (hbody : ∀ offset h s, R offset width s (body offset h s)) (offset : ℕ) (hle : offset ≤ len) (s : σ) :
    ∃ n, (wholeChunks hwidth len body offset s).1 = offset + n ∧ offset + n ≤ len ∧ len < offset + n + width ∧
      R offset n s (wholeChunks hwidth len body offset s).2 := by
  induction offset, s using wholeChunks.induct hwidth len body with
  | case1 offset s h ih =>
    obtain ⟨n, hend, hinside, hlast, hrest⟩ := ih h
    rw [wholeChunks, dif_pos h]
    refine ⟨width + n, by rw [hend, Nat.add_assoc], by omega, by omega, ?_⟩
    exact hR.append offset width n s _ _ (hbody offset h s) hrest
  | case2 offset s h =>
    rw [wholeChunks, dif_neg h]
    exact ⟨0, rfl, hle, by omega, hR.none offset s⟩

/-- **Both loops cover all places.** -/
theorem chunked_covers (hR : Covers R) (hwidth : 0 < width) {rest : (offset : ℕ) → offset < len → σ → σ}
    (hbody : ∀ offset h s, R offset width s (body offset h s))
    (hrest : ∀ offset h s, R offset 1 s (rest offset h s)) (s : σ) :
    R 0 len s (chunked hwidth len body rest s) := by
  obtain ⟨m, hend, hinside, -, hchunks⟩ := wholeChunks_covers hR hwidth hbody 0 (Nat.zero_le len) s
  rw [Nat.zero_add] at hend hinside
  obtain ⟨n, -, hle, hlast, hplaces⟩ :=
    wholeChunks_covers hR Nat.one_pos hrest m hinside (wholeChunks hwidth len body 0 s).2
  have hall := hR.append 0 m n s _ _ hchunks (by rwa [Nat.zero_add])
  rw [show m + n = len by omega] at hall
  simp only [chunked, hend]
  exact hall

end Base
