import Mathlib.Data.Nat.Notation
import Mathlib.Tactic.SplitIfs
import PumpTrade.Base.Outcome

/-!
# Bounded queues

A lock-free queue of fixed capacity, each of whose operations is one atomic step: first in, first
out. Its capacity is positive and bounds its length, by construction.
-/

namespace Base

/-- A queue of bounded length. -/
structure ArrayQueue (α : Type) where
  capacity : ℕ
  items : List α
  capacity_pos : 0 < capacity
  length_le : items.length ≤ capacity

namespace ArrayQueue

variable {α : Type}

/-- An empty queue; a capacity of zero panics. -/
def new (α : Type) (capacity : ℕ) : Outcome (ArrayQueue α) :=
  if h : 0 < capacity then .ret ⟨capacity, [], h, Nat.zero_le _⟩
  else .panic "capacity must be non-zero"

/-- Add an element at the end, or give it back where the queue is full. -/
def push (q : ArrayQueue α) (a : α) : Except α (ArrayQueue α) :=
  if h : q.items.length < q.capacity then
    .ok ⟨q.capacity, q.items ++ [a], q.capacity_pos, by rw [List.length_append]; exact h⟩
  else .error a

/-- Take the first element out. -/
def pop (q : ArrayQueue α) : Option (α × ArrayQueue α) :=
  match h : q.items with
  | [] => none
  | a :: rest => some (a, ⟨q.capacity, rest, q.capacity_pos, by
      have := q.length_le
      rw [h, List.length_cons] at this
      exact Nat.le_of_succ_le this⟩)

theorem new_eq_ret {n : ℕ} {q : ArrayQueue α} :
    new α n = .ret q ↔ 0 < n ∧ q.capacity = n ∧ q.items = [] := by
  unfold new
  constructor
  · intro h
    split_ifs at h with hn
    obtain rfl := Outcome.ret.inj h
    exact ⟨hn, rfl, rfl⟩
  · rintro ⟨hn, hc, hi⟩
    obtain ⟨capacity, items, _, _⟩ := q
    obtain rfl : capacity = n := hc
    obtain rfl : items = [] := hi
    exact dif_pos hn

theorem exists_push {q : ArrayQueue α} (h : q.items.length < q.capacity) (a : α) :
    ∃ q', q.push a = .ok q' ∧ q'.capacity = q.capacity ∧ q'.items = q.items ++ [a] :=
  ⟨_, dif_pos h, rfl, rfl⟩

theorem pop_eq_none {q : ArrayQueue α} : q.pop = none ↔ q.items = [] := by
  unfold pop
  split
  · next h => simp [h]
  · next h => simp [h]

theorem pop_eq_some {q : ArrayQueue α} {p : α × ArrayQueue α} (h : q.pop = some p) :
    q.items = p.1 :: p.2.items ∧ p.2.capacity = q.capacity := by
  unfold pop at h
  split at h
  · cases h
  · next hi =>
    obtain rfl := Option.some.inj h
    exact ⟨hi, rfl⟩

theorem exists_pop {q : ArrayQueue α} {a : α} {rest : List α} (h : q.items = a :: rest) :
    ∃ q', q.pop = some (a, q') ∧ q'.items = rest := by
  cases hpop : q.pop with
  | none =>
    rw [pop_eq_none.mp hpop] at h
    cases h
  | some p =>
    have hitems := (pop_eq_some hpop).1
    rw [h] at hitems
    obtain ⟨rfl, rfl⟩ := List.cons.inj hitems
    exact ⟨p.2, rfl, rfl⟩

end ArrayQueue

end Base
