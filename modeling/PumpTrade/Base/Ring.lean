import Mathlib.Data.List.Basic
import Mathlib.Data.Nat.ModEq
import Mathlib.Logic.Function.Basic

/-!
# Rings of cells

A ring of `size` cells, of which those in use follow each other from a start on and go on at the
first cell after the last one.

* `window`: the cells in use, in order;
* `window_add`, `window_mod`: parts of a window, and starts beyond the size;
* **`window_congr`**: a window is its cells; with `add_mod_ne`, writing another cell leaves it alone;
* `exists_add_mod_eq`: one turn comes to every cell.
-/

namespace Base

variable {α : Type}

/-- The contents of `count` cells from `start` on, around a ring. -/
def window (cells : ℕ → α) (size start count : ℕ) : List α :=
  (List.range count).map fun i => cells ((start + i) % size)

variable {cells cells' : ℕ → α} {size start count : ℕ}

@[simp] theorem length_window (cells : ℕ → α) (size start count : ℕ) :
    (window cells size start count).length = count := by
  rw [window, List.length_map, List.length_range]

@[simp] theorem window_zero (cells : ℕ → α) (size start : ℕ) : window cells size start 0 = [] := rfl

theorem window_congr (h : ∀ i < count, cells ((start + i) % size) = cells' ((start + i) % size)) :
    window cells size start count = window cells' size start count :=
  List.map_congr_left fun i hi => h i (List.mem_range.mp hi)

theorem window_add (cells : ℕ → α) (size start m n : ℕ) :
    window cells size start (m + n) = window cells size start m ++ window cells size (start + m) n := by
  unfold window
  rw [List.range_add, List.map_append, List.map_map]
  congr 1
  exact List.map_congr_left fun i _ => by rw [Function.comp_apply, Nat.add_assoc]

theorem take_window {m : ℕ} (h : m ≤ count) (cells : ℕ → α) (size start : ℕ) :
    (window cells size start count).take m = window cells size start m := by
  obtain ⟨n, rfl⟩ := Nat.exists_eq_add_of_le h
  rw [window_add, List.take_left' (length_window cells size start m)]

theorem drop_window {m : ℕ} (h : m ≤ count) (cells : ℕ → α) (size start : ℕ) :
    (window cells size start count).drop m = window cells size (start + m) (count - m) := by
  obtain ⟨n, rfl⟩ := Nat.exists_eq_add_of_le h
  rw [window_add, List.drop_left' (length_window cells size start m), Nat.add_sub_cancel_left]

theorem window_mod (cells : ℕ → α) (size start count : ℕ) :
    window cells size (start % size) count = window cells size start count :=
  List.map_congr_left fun i _ => by rw [Nat.mod_add_mod]

theorem add_mod_ne {i j : ℕ} (hi : i < size) (hj : j < size) (hne : i ≠ j) (start : ℕ) :
    (start + i) % size ≠ (start + j) % size := by
  intro h
  have hmod : i ≡ j [MOD size] := Nat.ModEq.add_left_cancel' start h
  rw [Nat.ModEq, Nat.mod_eq_of_lt hi, Nat.mod_eq_of_lt hj] at hmod
  exact hne hmod

theorem exists_add_mod_eq {i : ℕ} (hi : i < size) (start : ℕ) : ∃ j < size, (start + j) % size = i := by
  have hstart := Nat.mod_lt start (Nat.zero_lt_of_lt hi)
  by_cases hle : start % size ≤ i
  · refine ⟨i - start % size, by omega, ?_⟩
    rw [← Nat.mod_add_mod, Nat.add_sub_cancel' hle, Nat.mod_eq_of_lt hi]
  · refine ⟨i + size - start % size, by omega, ?_⟩
    rw [← Nat.mod_add_mod, Nat.add_sub_cancel' (by omega), Nat.add_mod_right, Nat.mod_eq_of_lt hi]

theorem window_succ (cells : ℕ → α) (size start count : ℕ) :
    window cells size start (count + 1) = cells (start % size) :: window cells size (start + 1) count := by
  rw [Nat.add_comm, window_add]
  rfl

end Base
