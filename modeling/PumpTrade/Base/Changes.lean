import Mathlib.Data.Set.Insert
import Mathlib.Tactic.Tauto

/-!
# Changes of a set

A set whose members come and go: a change puts members in and then takes members out. Changes are
made one after the other.

* `Change`, `Change.apply`, `applyAll`: a change, and a list of changes;
* `applyAll_append`, `applyAll_of_puts`, `applyAll_of_takes`: lists of changes that only put in or only
  take out;
* **`mem_applyAll_iff`**: a member is there if the last change that is about it puts it in.
-/

namespace Base

/-- Members that are put in, and then members that are taken out. -/
structure Change (α : Type) where
  put : Set α
  take : Set α

variable {α : Type} {a : α}

/-- What is put in, and then what is taken out. -/
def Change.apply (c : Change α) (s : Set α) : Set α := (s ∪ c.put) \ c.take

theorem Change.mem_apply {c : Change α} {s : Set α} : a ∈ c.apply s ↔ (a ∈ s ∨ a ∈ c.put) ∧ a ∉ c.take := Iff.rfl

/-- The changes, the first one first. -/
def applyAll : List (Change α) → Set α → Set α
  | [], s => s
  | c :: cs, s => applyAll cs (c.apply s)

@[simp] theorem applyAll_nil (s : Set α) : applyAll [] s = s := rfl

@[simp] theorem applyAll_cons (c : Change α) (cs : List (Change α)) (s : Set α) :
    applyAll (c :: cs) s = applyAll cs (c.apply s) := rfl

theorem applyAll_append (cs ds : List (Change α)) (s : Set α) :
    applyAll (cs ++ ds) s = applyAll ds (applyAll cs s) := by
  induction cs generalizing s with
  | nil => rfl
  | cons c cs ih => exact ih (c.apply s)

theorem applyAll_of_puts {cs : List (Change α)} (h : ∀ c ∈ cs, c.take = ∅) (s : Set α) :
    applyAll cs s = s ∪ {a | ∃ c ∈ cs, a ∈ c.put} := by
  induction cs generalizing s with
  | nil => simp
  | cons c cs ih =>
    obtain ⟨hc, hcs⟩ := List.forall_mem_cons.mp h
    ext a
    rw [applyAll_cons, ih hcs]
    simp [Change.apply, hc, or_assoc]

theorem applyAll_of_takes {cs : List (Change α)} (h : ∀ c ∈ cs, c.put = ∅) (s : Set α) :
    applyAll cs s = s \ {a | ∃ c ∈ cs, a ∈ c.take} := by
  induction cs generalizing s with
  | nil =>
    ext a
    simp
  | cons c cs ih =>
    obtain ⟨hc, hcs⟩ := List.forall_mem_cons.mp h
    ext a
    rw [applyAll_cons, ih hcs]
    simp [Change.apply, hc, and_assoc]

/-- Some element of the list is as wanted, with those after it. -/
def SplitAt {β : Type} (l : List β) (P : β → List β → Prop) : Prop :=
  ∃ before b after, l = before ++ b :: after ∧ P b after

section Split

variable {β γ : Type} {b : β} {l : List β} {P : β → List β → Prop}

theorem splitAt_cons : SplitAt (b :: l) P ↔ P b l ∨ SplitAt l P := by
  constructor
  · rintro ⟨before, d, after, heq, hP⟩
    cases before with
    | nil =>
      obtain ⟨rfl, rfl⟩ := List.cons.inj heq
      exact Or.inl hP
    | cons c before =>
      obtain ⟨-, rfl⟩ := List.cons.inj heq
      exact Or.inr ⟨before, d, after, rfl, hP⟩
  · rintro (hP | ⟨before, d, after, rfl, hP⟩)
    · exact ⟨[], b, l, rfl, hP⟩
    · exact ⟨b :: before, d, after, rfl, hP⟩

@[simp] theorem not_splitAt_nil : ¬ SplitAt [] P := by
  rintro ⟨before, b, after, heq, -⟩
  simp at heq

theorem splitAt_map {f : β → γ} {Q : γ → List γ → Prop} :
    SplitAt (l.map f) Q ↔ SplitAt l fun b after => Q (f b) (after.map f) := by
  induction l with
  | nil => simp
  | cons b l ih => rw [List.map_cons, splitAt_cons, splitAt_cons, ih]

end Split

/-- **What is there in the end**: what some change puts in, or was there before, and no change from then
on takes out. -/
theorem mem_applyAll_iff {cs : List (Change α)} {s : Set α} : a ∈ applyAll cs s ↔
    SplitAt cs (fun c after => a ∈ c.put ∧ a ∉ c.take ∧ ∀ d ∈ after, a ∉ d.take) ∨
      (a ∈ s ∧ ∀ d ∈ cs, a ∉ d.take) := by
  induction cs generalizing s with
  | nil => simp
  | cons c cs ih =>
    rw [applyAll_cons, ih, splitAt_cons, Change.mem_apply, List.forall_mem_cons]
    tauto

end Base
