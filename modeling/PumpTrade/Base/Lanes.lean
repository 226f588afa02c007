import Mathlib.Algebra.BigOperators.Group.List.Basic

/-!
# Lanes

A vector register holds `w` lanes, which are loaded from `w` elements of a vector in a row and
stored to as many. An access carries the proof that it is inside the vector.

* `load`, `store`, with the elements of each and `toList_load`;
* `addLanes`: addition lane by lane, and **`sum_addLanes`**: the lanes of a sum add up to the sums;
* **`sum_foldl_load`**: adding up the chunks lane by lane and then the lanes is adding up the
  elements.
-/

namespace Base.Lanes

variable {α : Type} {n w i : ℕ}

/-- The `w` elements from the `i`-th on. -/
def load (w : ℕ) (xs : Vector α n) (i : ℕ) (h : i + w ≤ n) : Vector α w :=
  Vector.ofFn fun k => xs[i + k]

/-- The vector after the lanes are stored from the `i`-th element on. -/
def store (xs : Vector α n) (i : ℕ) (_ : i + w ≤ n) (v : Vector α w) : Vector α n :=
  Vector.ofFn fun j => if h : i ≤ j ∧ j < i + w then v[j - i] else xs[j]

/-- Add lane by lane. -/
def addLanes [Add α] (u v : Vector α w) : Vector α w := Vector.zipWith (· + ·) u v

@[simp] theorem getElem_load (xs : Vector α n) (h : i + w ≤ n) (k : ℕ) (hk : k < w) :
    (load w xs i h)[k] = xs[i + k] := by
  rw [load, Vector.getElem_ofFn]

@[simp] theorem getElem_store (xs : Vector α n) (h : i + w ≤ n) (v : Vector α w) (j : ℕ) (hj : j < n) :
    (store xs i h v)[j] = if h : i ≤ j ∧ j < i + w then v[j - i] else xs[j] := by
  rw [store, Vector.getElem_ofFn]
  rfl

@[simp] theorem getElem_addLanes [Add α] (u v : Vector α w) (k : ℕ) (hk : k < w) :
    (addLanes u v)[k] = u[k] + v[k] := by
  rw [addLanes, Vector.getElem_zipWith]

theorem toList_load (xs : Vector α n) (h : i + w ≤ n) :
    (load w xs i h).toList = (xs.toList.drop i).take w := by
  apply List.ext_getElem
  · simp only [Vector.length_toList, List.length_take, List.length_drop]
    omega
  · intro k hk _
    rw [Vector.length_toList] at hk
    rw [Vector.getElem_toList, getElem_load, List.getElem_take, List.getElem_drop, Vector.getElem_toList]

variable [AddCommMonoid α]

theorem sum_addLanes (u v : Vector α w) : (addLanes u v).toList.sum = u.toList.sum + v.toList.sum := by
  have hlength : u.toList.length = v.toList.length := by rw [Vector.length_toList, Vector.length_toList]
  rw [addLanes, Vector.toList_zipWith, ← List.sum_add_sum_eq_sum_zipWith_of_length_eq _ _ hlength]

/-- **Chunk by chunk and lane by lane** the first `chunks` chunks are added up, by induction on
their number. -/
theorem sum_foldl_load (xs : Vector α n) {chunks : ℕ} (h : chunks * w ≤ n)
    (hchunk : ∀ i : Fin chunks, i * w + w ≤ n) :
    (Fin.foldl chunks (fun acc i => addLanes acc (load w xs (i * w) (hchunk i)))
      (Vector.replicate w 0)).toList.sum = (xs.toList.take (chunks * w)).sum := by
  induction chunks with
  | zero => simp
  | succ chunks ih =>
    have hle : chunks * w + w ≤ n := by rwa [Nat.succ_mul] at h
    have hrest := ih (by omega) fun i => hchunk i.castSucc
    rw [Fin.foldl_succ_last, sum_addLanes, Nat.succ_mul, List.take_add, List.sum_append]
    simp only [Fin.val_castSucc, Fin.val_last] at hrest ⊢
    rw [hrest, toList_load]

end Base.Lanes
