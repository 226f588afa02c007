import Mathlib.Logic.Basic

/-!
# Calls that may panic

An `Outcome` is what a call comes to: a value, or the message of a panic that ended the task it ran
in. A function that also has an error value of its own returns an `Outcome` of an `Except`.
-/

namespace Base

/-- What a call that may panic comes to. -/
inductive Outcome (α : Type) where
  | ret (a : α)
  | panic (msg : String)
  deriving DecidableEq, Repr

namespace Outcome

variable {α β : Type}

instance : Monad Outcome where
  pure := ret
  bind x f := match x with
    | ret a => f a
    | panic msg => panic msg

/-- The value of a call that did not panic. -/
def value? : Outcome α → Option α
  | ret a => some a
  | panic _ => none

/-- `Option::unwrap` and `expect`: a panic with `msg` where there is no value. -/
def ofOption (msg : String) : Option α → Outcome α
  | some a => ret a
  | none => panic msg

/-- `Option::unwrap`. -/
def unwrap (x : Option α) : Outcome α := ofOption "called `Option::unwrap()` on a `None` value" x

@[simp] theorem pure_eq (a : α) : (pure a : Outcome α) = ret a := rfl

@[simp] theorem ret_bind (a : α) (f : α → Outcome β) : (ret a >>= f) = f a := rfl

@[simp] theorem panic_bind (msg : String) (f : α → Outcome β) : (panic msg >>= f) = panic msg := rfl

@[simp] theorem ret_map (f : α → β) (a : α) : f <$> ret a = ret (f a) := rfl

@[simp] theorem panic_map (f : α → β) (msg : String) : f <$> (panic msg : Outcome α) = panic msg := rfl

@[simp] theorem value?_ret (a : α) : (ret a).value? = some a := rfl

@[simp] theorem value?_panic (msg : String) : (panic msg : Outcome α).value? = none := rfl

@[simp] theorem ofOption_some (msg : String) (a : α) : ofOption msg (some a) = ret a := rfl

@[simp] theorem ofOption_none (msg : String) : ofOption msg (none : Option α) = panic msg := rfl

@[simp] theorem unwrap_some (a : α) : unwrap (some a) = ret a := rfl

theorem bind_eq_ret {x : Outcome α} {f : α → Outcome β} {b : β} :
    (x >>= f) = ret b ↔ ∃ a, x = ret a ∧ f a = ret b := by
  cases x with
  | ret a => simp
  | panic msg => simp

theorem bind_assoc {γ : Type} (x : Outcome α) (f : α → Outcome β) (g : β → Outcome γ) :
    (x >>= f >>= g) = x >>= fun a => f a >>= g := by
  cases x with
  | ret a => rfl
  | panic msg => rfl

/-- Where a call has no result to go on with, what follows it is an error exactly where the call is
one. -/
theorem bind_eq_error_iff {ε : Type} {x : Outcome (Except ε α)} {f : α → Except ε β}
    (hnone : ∀ a, x ≠ ret (.ok a)) :
    (∃ e, (x >>= fun r => ret (r >>= f)) = ret (.error e)) ↔ ∃ e, x = ret (.error e) := by
  cases x with
  | panic msg => simp
  | ret r =>
    cases r with
    | error e => simp [bind, Except.bind]
    | ok a => exact absurd rfl (hnone a)

/-- A sequence of calls that may fail has a result exactly where each of them has one. -/
theorem run_bind_eq_ok {ε : Type} {x : ExceptT ε Outcome α} {f : α → ExceptT ε Outcome β} {b : β} :
    (x >>= f).run = ret (.ok b) ↔ ∃ a, x.run = ret (.ok a) ∧ (f a).run = ret (.ok b) := by
  rw [ExceptT.run_bind]
  cases x.run with
  | panic msg => simp
  | ret r =>
    cases r with
    | error e => simp
    | ok a => simp

theorem map_eq_ret {x : Outcome α} {f : α → β} {b : β} :
    f <$> x = ret b ↔ ∃ a, x = ret a ∧ f a = b := by
  cases x with
  | ret a => simp
  | panic msg => simp

theorem value?_eq_some {x : Outcome α} {a : α} : x.value? = some a ↔ x = ret a := by
  cases x with
  | ret b => simp
  | panic msg => simp

end Outcome

end Base
