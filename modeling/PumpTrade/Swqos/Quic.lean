import Mathlib.Logic.Function.Basic
import PumpTrade.Base.Run
import PumpTrade.Swqos.Client

/-!
# Reconnecting over QUIC

Calls of `send_transaction` of one `SoyasClient` or `SpeedlandingClient`, any number of them at
once. They share a connection, which may break at any time, and a lock that is held while
reconnecting. Connections are numbered in the order in which they are established.

* `QuicSys.step`: the steps of the calls, in any order;
* `Submitted.result`: how a call ends, by `submitQuic`;
* `Keeps`: a call fails only for a failed reconnect or a failed second write over a connection that
  is newer than its first failure;
* **`keeps_iff`**: a run is such where no call tries the lock while another one holds it.
-/

namespace PumpTrade

open Base

/-- The error of a first write, and the number of connections that had been established by then. -/
structure FirstFailure where
  error : Error
  established : ℕ
  deriving DecidableEq

/-- How the submission of a call ended. -/
inductive Submitted where
  | sent
  | locked (first : FirstFailure)
  | notConnected (first : FirstFailure) (e : Error)
  | resent (first : FirstFailure) (connection : ℕ)
  | notResent (first : FirstFailure) (connection : ℕ) (e : Error)
  deriving DecidableEq

namespace Submitted

/-- `TryLockError`. -/
def tryLockError : Error := .other "operation would block"

/-- What the writes and the reconnecting of the call came to; what was not tried does not matter. -/
def answers : Submitted → QuicAnswers
  | sent => ⟨.ok (), .ok (), .ok ()⟩
  | locked first => ⟨.error first.error, .error tryLockError, .ok ()⟩
  | notConnected first e => ⟨.error first.error, .error e, .ok ()⟩
  | resent first _ => ⟨.error first.error, .ok (), .ok ()⟩
  | notResent first _ e => ⟨.error first.error, .ok (), .error e⟩

/-- What the call returns. -/
def result (s : Submitted) : Except Error Unit := submitQuic s.answers

/-- The reconnecting of the call failed, or its second write over a connection established after the
first. -/
def Justified : Submitted → Prop
  | notConnected _ _ => True
  | notResent first connection _ => first.established ≤ connection
  | _ => False

end Submitted

/-- The next step of a call. -/
inductive QuicCall where
  | load
  | send (connection : ℕ)
  | tryLock (first : FirstFailure)
  | connect (first : FirstFailure)
  | store (first : FirstFailure) (connection : ℕ)
  | release (first : FirstFailure) (reconnected : Except Error Unit)
  | reload (first : FirstFailure)
  | resend (first : FirstFailure) (connection : ℕ)
  | done (submitted : Submitted)

/-- The shared connection, the number of connections established so far, those that are broken, the
call that holds the lock, and all calls. -/
structure QuicSys (ι : Type) where
  connection : ℕ
  established : ℕ
  broken : ℕ → Bool
  reconnect : Option ι
  call : ι → QuicCall

/-- A step of a call, or the end of a connection. -/
inductive QuicAct (ι : Type) where
  | load (i : ι)
  | send (i : ι) (written : Except Error Unit)
  | tryLock (i : ι)
  | connect (i : ι) (connected : Except Error Unit)
  | store (i : ι)
  | release (i : ι)
  | reload (i : ι)
  | resend (i : ι) (written : Except Error Unit)
  | lose (connection : ℕ)

namespace QuicSys

variable {ι : Type} [DecidableEq ι]

/-- A new client has one connection. -/
def initial : QuicSys ι := ⟨0, 1, fun _ => false, none, fun _ => .load⟩

/-- Call `i` goes on. -/
def setCall (s : QuicSys ι) (i : ι) (call : QuicCall) : QuicSys ι :=
  { s with call := Function.update s.call i call }

/-- A step of one call, or a connection breaks. Nothing is written to a broken connection. -/
def step (s : QuicSys ι) : QuicAct ι → Option (QuicSys ι)
  | .load i =>
    match s.call i with
    | .load => some (s.setCall i (.send s.connection))
    | _ => none
  | .send i written =>
    match s.call i, written with
    | .send connection, .ok () => if s.broken connection then none else some (s.setCall i (.done .sent))
    | .send _, .error e => some (s.setCall i (.tryLock ⟨e, s.established⟩))
    | _, _ => none
  | .tryLock i =>
    match s.call i with
    | .tryLock first =>
      match s.reconnect with
      | none => some { s.setCall i (.connect first) with reconnect := some i }
      | some _ => some (s.setCall i (.done (.locked first)))
    | _ => none
  | .connect i connected =>
    match s.call i, connected with
    | .connect first, .ok () =>
      some { s.setCall i (.store first s.established) with established := s.established + 1 }
    | .connect first, .error e => some (s.setCall i (.release first (.error e)))
    | _, _ => none
  | .store i =>
    match s.call i with
    | .store first connection => some { s.setCall i (.release first (.ok ())) with connection }
    | _ => none
  | .release i =>
    match s.call i with
    | .release first (.ok ()) => some { s.setCall i (.reload first) with reconnect := none }
    | .release first (.error e) => some { s.setCall i (.done (.notConnected first e)) with reconnect := none }
    | _ => none
  | .reload i =>
    match s.call i with
    | .reload first => some (s.setCall i (.resend first s.connection))
    | _ => none
  | .resend i written =>
    match s.call i, written with
    | .resend first connection, .ok () =>
      if s.broken connection then none else some (s.setCall i (.done (.resent first connection)))
    | .resend first connection, .error e => some (s.setCall i (.done (.notResent first connection e)))
    | _, _ => none
  | .lose connection => some { s with broken := Function.update s.broken connection true }

/-- A call that ended with an error had a reason. -/
def Keeps (s : QuicSys ι) : Prop :=
  ∀ i submitted e, s.call i = .done submitted → submitted.result = .error e → submitted.Justified

/-- A call that tries the lock finds it free. -/
def FindsFree (s : QuicSys ι) (a : QuicAct ι) : Prop := ∀ i, a = .tryLock i → s.reconnect = none

/-! ## The invariant -/

/-- What holds of call `i` before its next step. -/
def CallInv (s : QuicSys ι) (i : ι) : QuicCall → Prop
  | .tryLock first => first.established ≤ s.established
  | .connect first => first.established ≤ s.established ∧ s.reconnect = some i
  | .store first connection =>
    first.established ≤ connection ∧ s.connection < connection ∧ connection < s.established ∧
      s.reconnect = some i
  | .release first (.ok ()) => first.established ≤ s.connection ∧ s.reconnect = some i
  | .release _ (.error _) => s.reconnect = some i
  | .reload first => first.established ≤ s.connection
  | .resend first connection => first.established ≤ connection
  | .done (.notResent first connection _) => first.established ≤ connection
  | _ => True

/-- The shared connection is established, and it is replaced by newer ones only: by the call that
holds the lock. -/
structure Inv (s : QuicSys ι) : Prop where
  connection_lt : s.connection < s.established
  call : ∀ i, s.CallInv i (s.call i)

variable {s s' : QuicSys ι} {i : ι} {c : QuicCall}

omit [DecidableEq ι] in
/-- What holds of a call is kept while the others do not take the lock from it. -/
theorem CallInv.mono (h : s.CallInv i c) (hestablished : s.established ≤ s'.established)
    (hconnection : s.connection ≤ s'.connection)
    (hlock : s.reconnect = some i → s'.reconnect = some i ∧ s'.connection = s.connection) : s'.CallInv i c := by
  cases c with
  | load => trivial
  | send connection => trivial
  | tryLock first => exact Nat.le_trans h hestablished
  | connect first => exact ⟨Nat.le_trans h.1 hestablished, (hlock h.2).1⟩
  | store first connection =>
    obtain ⟨hfirst, hlt, hlt', hheld⟩ := h
    exact ⟨hfirst, (hlock hheld).2 ▸ hlt, Nat.lt_of_lt_of_le hlt' hestablished, (hlock hheld).1⟩
  | release first reconnected =>
    cases reconnected with
    | ok => exact ⟨Nat.le_trans h.1 hconnection, (hlock h.2).1⟩
    | error e => exact (hlock h).1
  | reload first => exact Nat.le_trans h hconnection
  | resend first connection => exact h
  | done submitted =>
    cases submitted with
    | notResent first connection e => exact h
    | _ => trivial

/-- The call found the lock held. -/
def Locked : QuicCall → Prop
  | .done (.locked _) => True
  | _ => False

/-- What a step of call `i` does: it goes on with `c`, and the others keep what they know. Only a
call that tries the lock while another one holds it finds it held. -/
structure Moves (s s' : QuicSys ι) (i : ι) (c : QuicCall) (a : QuicAct ι) : Prop where
  call_eq : s'.call = Function.update s.call i c
  call : s'.CallInv i c
  connection_lt : s'.connection < s'.established
  established_le : s.established ≤ s'.established
  connection_le : s.connection ≤ s'.connection
  lock : ∀ j ≠ i, s.reconnect = some j → s'.reconnect = some j ∧ s'.connection = s.connection
  locked_iff : ¬ Locked c ↔ s.FindsFree a

theorem Moves.inv {a : QuicAct ι} (hmoves : s.Moves s' i c a) (h : s.Inv) : s'.Inv where
  connection_lt := hmoves.connection_lt
  call := fun j => by
    rw [hmoves.call_eq]
    by_cases hj : j = i
    · subst hj
      rw [Function.update_self]
      exact hmoves.call
    · rw [Function.update_of_ne hj]
      exact (h.call j).mono hmoves.established_le hmoves.connection_le (hmoves.lock j hj)

theorem Inv.moves_setCall {a : QuicAct ι} (h : s.Inv) (hc : s.CallInv i c)
    (hlocked : ¬ Locked c ↔ s.FindsFree a) : s.Moves (s.setCall i c) i c a where
  call_eq := rfl
  call := hc.mono le_rfl le_rfl fun hi => ⟨hi, rfl⟩
  connection_lt := h.connection_lt
  established_le := le_rfl
  connection_le := le_rfl
  lock := fun _ _ hj => ⟨hj, rfl⟩
  locked_iff := hlocked

omit [DecidableEq ι] in
theorem findsFree_of_ne {a : QuicAct ι} (s : QuicSys ι) (hc : ¬ Locked c) (ha : ∀ j, a ≠ .tryLock j) :
    ¬ Locked c ↔ s.FindsFree a :=
  iff_of_true hc fun j hj => absurd hj (ha j)

omit [DecidableEq ι] in
theorem inv_initial : (initial : QuicSys ι).Inv := ⟨Nat.one_pos, fun _ => trivial⟩

/-! ## Steps -/

theorem moves_load (h : s.Inv) (hstep : s.step (.load i) = some s') : ∃ c, s.Moves s' i c (.load i) := by
  unfold step at hstep
  simp only at hstep
  split at hstep
  case h_1 =>
    cases hstep
    exact ⟨_, h.moves_setCall trivial (findsFree_of_ne s not_false nofun)⟩
  case h_2 => cases hstep

theorem moves_send {written : Except Error Unit} (h : s.Inv) (hstep : s.step (.send i written) = some s') :
    ∃ c, s.Moves s' i c (.send i written) := by
  unfold step at hstep
  simp only at hstep
  split at hstep
  case h_1 connection hcall =>
    split_ifs at hstep
    cases hstep
    exact ⟨_, h.moves_setCall trivial (findsFree_of_ne s not_false nofun)⟩
  case h_2 connection e hcall =>
    cases hstep
    exact ⟨_, h.moves_setCall (Nat.le_refl s.established) (findsFree_of_ne s not_false nofun)⟩
  case h_3 => cases hstep

theorem moves_tryLock (h : s.Inv) (hstep : s.step (.tryLock i) = some s') :
    ∃ c, s.Moves s' i c (.tryLock i) := by
  unfold step at hstep
  simp only at hstep
  split at hstep
  case h_1 first hcall =>
    have hinv := h.call i
    rw [hcall] at hinv
    split at hstep
    case h_1 hfree =>
      cases hstep
      refine ⟨_, rfl, ⟨hinv, rfl⟩, h.connection_lt, le_rfl, le_rfl, fun j _ hj => ?_,
        iff_of_true not_false fun _ _ => hfree⟩
      rw [hfree] at hj
      cases hj
    case h_2 j hheld =>
      cases hstep
      refine ⟨_, h.moves_setCall trivial (iff_of_false (not_not.mpr trivial) fun hfree => ?_)⟩
      rw [hfree i rfl] at hheld
      cases hheld
  case h_2 => cases hstep

theorem moves_connect {connected : Except Error Unit} (h : s.Inv)
    (hstep : s.step (.connect i connected) = some s') : ∃ c, s.Moves s' i c (.connect i connected) := by
  unfold step at hstep
  simp only at hstep
  split at hstep
  case h_1 first hcall =>
    have hinv := h.call i
    rw [hcall] at hinv
    cases hstep
    refine ⟨_, rfl, ?_, Nat.lt_succ_of_lt h.connection_lt, Nat.le_succ _, le_rfl, fun j _ hj => ⟨hj, rfl⟩,
      findsFree_of_ne s not_false nofun⟩
    exact ⟨hinv.1, h.connection_lt, Nat.lt_succ_self _, hinv.2⟩
  case h_2 first e hcall =>
    have hinv := h.call i
    rw [hcall] at hinv
    cases hstep
    exact ⟨_, h.moves_setCall hinv.2 (findsFree_of_ne s not_false nofun)⟩
  case h_3 => cases hstep

/-- The connection that is stored is newer than the one it replaces, and no other call is about to
store one. -/
theorem moves_store (h : s.Inv) (hstep : s.step (.store i) = some s') : ∃ c, s.Moves s' i c (.store i) := by
  unfold step at hstep
  simp only at hstep
  split at hstep
  case h_1 first connection hcall =>
    have hinv := h.call i
    rw [hcall] at hinv
    obtain ⟨hfirst, hlt, hlt', hheld⟩ := hinv
    cases hstep
    refine ⟨_, rfl, ⟨hfirst, hheld⟩, hlt', le_rfl, Nat.le_of_lt hlt, fun j hj hheld' => ?_,
      findsFree_of_ne s not_false nofun⟩
    exact absurd (Option.some.inj (hheld'.symm.trans hheld)) hj
  case h_2 => cases hstep

theorem moves_release (h : s.Inv) (hstep : s.step (.release i) = some s') :
    ∃ c, s.Moves s' i c (.release i) := by
  have hother : ∀ {j : ι}, s.reconnect = some i → j ≠ i → s.reconnect ≠ some j := fun hheld hj hheld' =>
    hj (Option.some.inj (hheld'.symm.trans hheld))
  unfold step at hstep
  simp only at hstep
  split at hstep
  case h_1 first hcall =>
    have hinv := h.call i
    rw [hcall] at hinv
    cases hstep
    exact ⟨_, rfl, hinv.1, h.connection_lt, le_rfl, le_rfl,
      fun j hj hheld => absurd hheld (hother hinv.2 hj), findsFree_of_ne s not_false nofun⟩
  case h_2 first e hcall =>
    have hinv := h.call i
    rw [hcall] at hinv
    cases hstep
    exact ⟨_, rfl, trivial, h.connection_lt, le_rfl, le_rfl,
      fun j hj hheld => absurd hheld (hother hinv hj), findsFree_of_ne s not_false nofun⟩
  case h_3 => cases hstep

theorem moves_reload (h : s.Inv) (hstep : s.step (.reload i) = some s') :
    ∃ c, s.Moves s' i c (.reload i) := by
  unfold step at hstep
  simp only at hstep
  split at hstep
  case h_1 first hcall =>
    have hinv := h.call i
    rw [hcall] at hinv
    cases hstep
    exact ⟨_, h.moves_setCall hinv (findsFree_of_ne s not_false nofun)⟩
  case h_2 => cases hstep

theorem moves_resend {written : Except Error Unit} (h : s.Inv) (hstep : s.step (.resend i written) = some s') :
    ∃ c, s.Moves s' i c (.resend i written) := by
  unfold step at hstep
  simp only at hstep
  split at hstep
  case h_1 first connection hcall =>
    split_ifs at hstep
    cases hstep
    exact ⟨_, h.moves_setCall trivial (findsFree_of_ne s not_false nofun)⟩
  case h_2 first connection e hcall =>
    have hinv := h.call i
    rw [hcall] at hinv
    cases hstep
    exact ⟨_, h.moves_setCall hinv (findsFree_of_ne s not_false nofun)⟩
  case h_3 => cases hstep

/-- **Every step** is one of a call, or a connection breaks. -/
theorem step_moves {a : QuicAct ι} (h : s.Inv) (hstep : s.step a = some s') :
    (∃ i c, s.Moves s' i c a) ∨
      ∃ connection, a = .lose connection ∧
        s' = { s with broken := Function.update s.broken connection true } := by
  cases a with
  | load i => exact Or.inl ⟨i, moves_load h hstep⟩
  | send i written => exact Or.inl ⟨i, moves_send h hstep⟩
  | tryLock i => exact Or.inl ⟨i, moves_tryLock h hstep⟩
  | connect i connected => exact Or.inl ⟨i, moves_connect h hstep⟩
  | store i => exact Or.inl ⟨i, moves_store h hstep⟩
  | release i => exact Or.inl ⟨i, moves_release h hstep⟩
  | reload i => exact Or.inl ⟨i, moves_reload h hstep⟩
  | resend i written => exact Or.inl ⟨i, moves_resend h hstep⟩
  | lose connection => exact Or.inr ⟨connection, rfl, (Option.some.inj hstep).symm⟩

theorem inv_step {a : QuicAct ι} (h : s.Inv) (hstep : s.step a = some s') : s'.Inv := by
  rcases step_moves h hstep with ⟨i, c, hmoves⟩ | ⟨connection, rfl, rfl⟩
  · exact hmoves.inv h
  · exact ⟨h.connection_lt, fun j => (h.call j).mono le_rfl le_rfl fun hj => ⟨hj, rfl⟩⟩

/-! ## Failures -/

omit [DecidableEq ι] in
/-- Of all the ways in which a call fails, only finding the lock held is without a reason. -/
theorem Inv.keeps_iff_locked (h : s.Inv) : s.Keeps ↔ ∀ i, ¬ Locked (s.call i) := by
  constructor
  · intro hkeeps i hlocked
    unfold Locked at hlocked
    split at hlocked
    · exact hkeeps i _ _ ‹_› rfl
    · exact hlocked
  · intro hfree i submitted e hcall hresult
    have hinv := h.call i
    have hi := hfree i
    rw [hcall] at hinv hi
    cases submitted with
    | sent => cases hresult
    | locked first => exact (hi trivial).elim
    | notConnected first e' => trivial
    | resent first connection => cases hresult
    | notResent first connection e' => exact hinv

/-- **A step lets a call fail without a reason** exactly where it finds the lock held. -/
theorem keeps_step_iff {a : QuicAct ι} (h : s.Inv) (hkeeps : s.Keeps) (hstep : s.step a = some s') :
    s'.Keeps ↔ s.FindsFree a := by
  have hfree := h.keeps_iff_locked.mp hkeeps
  rw [(inv_step h hstep).keeps_iff_locked]
  rcases step_moves h hstep with ⟨i, c, hmoves⟩ | ⟨connection, rfl, rfl⟩
  · rw [← hmoves.locked_iff, hmoves.call_eq]
    constructor
    · intro hall
      have hi := hall i
      rwa [Function.update_self] at hi
    · intro hc j
      by_cases hj : j = i
      · subst hj
        rwa [Function.update_self]
      · rw [Function.update_of_ne hj]
        exact hfree j
  · exact iff_of_true hfree fun j hj => by cases hj

/-- **Main result.** For any number of calls, whose steps come in any order, and connections that
break at any time: in every state of the run each call that failed had a reason, exactly where no
step of the run tries the lock while another call holds it. -/
theorem keeps_iff (acts : List (QuicAct ι)) :
    Always step Keeps (initial : QuicSys ι) acts ↔ Meets step FindsFree (initial : QuicSys ι) acts := by
  have hkeeps : (initial : QuicSys ι).Keeps := fun i submitted e hcall => by cases hcall
  exact always_iff (fun _ _ _ => inv_step) (fun _ _ _ => keeps_step_iff) acts inv_initial hkeeps

/-- Two calls find the connection broken; one reconnects, and the other finds it at that. -/
def lostRace : List (QuicAct Bool) :=
  [.load true, .load false, .lose 0, .send true (.error (.other "connection lost")),
    .send false (.error (.other "connection lost")), .tryLock true, .tryLock false, .connect true (.ok ()),
    .store true, .release true, .reload true, .resend true (.ok ())]

/-- Reconnecting and the second write succeed, and yet one of the calls fails. -/
theorem lostRace_locked :
    ∃ s first, run step (initial : QuicSys Bool) lostRace = some s ∧ s.call true = .done (.resent first 1) ∧
      s.call false = .done (.locked first) ∧ ¬ s.Keeps := by
  refine ⟨_, ⟨.other "connection lost", 1⟩, rfl, rfl, rfl, fun hkeeps => ?_⟩
  exact hkeeps false (.locked ⟨.other "connection lost", 1⟩) Submitted.tryLockError rfl rfl

end QuicSys

end PumpTrade
