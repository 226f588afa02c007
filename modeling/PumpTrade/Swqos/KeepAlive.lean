import PumpTrade.Base.Run

/-!
# Keep-alive pings

Temporal, Node1, BlockRazor and Astralane keep their connection open with a ping task. `new` spawns
a starter task that owns a clone of the client; the starter spawns the ping task, stores its handle
and ends, which drops the clone. `Drop` is run for every clone: it raises `stop_ping`, which all
clones share, and spawns a task that aborts whatever handle is stored.

* `KeepAlive`: the shared flag and handle, the client values of the caller and the tasks;
* `KeepAlive.step`: what the caller and each task do between two awaits, in any order;
* `KeepAlive.Inv`: the stop signal is up wherever a client was dropped;
* `KeepAlive.Kept`: pings as long as there is a client value, and a stopped ping task after the last
  one;
* **`PingClient.kept_iff`**: a run keeps that exactly where every drop leaves no client value
  behind.

The tasks access the handle under its mutex and without awaiting there, so that each access is one
step. The requests and the timer of the ping task always answer.
-/

namespace PumpTrade

open Base

/-- Where the ping task waits: for the answer to a ping, for the tick of its interval, or no
more. -/
inductive PingPhase where
  | sending
  | ticking
  | ended
  deriving DecidableEq, Repr

/-- A spawned ping task. An aborted task is dropped when it is next scheduled. -/
structure PingTask where
  phase : PingPhase
  aborted : Bool
  deriving DecidableEq, Repr

/-- The ping task, from one await to the next: after the tick it reads `stop_ping`. -/
def PingTask.poll (stopPing : Bool) (p : PingTask) : Option PingTask :=
  match p.phase, p.aborted with
  | .ended, _ => none
  | _, true => some ⟨.ended, true⟩
  | .sending, false => some ⟨.ticking, false⟩
  | .ticking, false => some ⟨if stopPing then .ended else .sending, false⟩

/-- Where the starter task stands: not yet run, waiting for the lock of `ping_handle`, about to drop
its clone of the client, done. -/
inductive Starter where
  | created
  | spawned
  | registered
  | finished
  deriving DecidableEq, Repr

/-- A client whose ping task may send a first ping before its interval begins. -/
structure PingClient where
  firstPing : Bool

/-- The four clients that ping. -/
def TemporalClient : PingClient := ⟨true⟩
def Node1Client : PingClient := ⟨true⟩
def BlockRazorClient : PingClient := ⟨true⟩
def AstralaneClient : PingClient := ⟨false⟩

/-- What the clones of one client share, the number of client values that the caller has, and the
tasks. `pingHandle` says that the handle of the ping task is stored, `aborts` counts the tasks that
`Drop` spawned and that have not run. -/
structure KeepAlive where
  stopPing : Bool
  pingHandle : Bool
  users : ℕ
  starter : Starter
  ping : Option PingTask
  aborts : ℕ
  deriving DecidableEq, Repr

/-- One step: the caller clones or drops a client value; the starter, a task spawned by `Drop` or
the ping task goes on. -/
inductive PingStep where
  | clone
  | drop
  | starter
  | abort
  | ping
  deriving DecidableEq, Repr

namespace KeepAlive

/-- `new`: the client is returned, the starter task is spawned with a clone of it. -/
def new : KeepAlive := ⟨false, false, 1, .created, none, 0⟩

/-- `Drop`, for a client value of the caller and for the clone of the starter alike. -/
def dropClient (s : KeepAlive) : KeepAlive := { s with stopPing := true, aborts := s.aborts + 1 }

/-- Abort the task whose handle is stored, if one is. -/
def abortStored (s : KeepAlive) : Option PingTask :=
  if s.pingHandle then s.ping.map fun p => { p with aborted := true } else s.ping

/-- `start_ping_task`, and the drop of the clone at the end of the task that runs it. -/
def stepStarter (c : PingClient) (s : KeepAlive) : Option KeepAlive :=
  match s.starter with
  | .created =>
    some { s with
      starter := .spawned
      ping := some ⟨if c.firstPing then .sending else .ticking, false⟩ }
  | .spawned => some { s with starter := .registered, ping := s.abortStored, pingHandle := true }
  | .registered => some { s.dropClient with starter := .finished }
  | .finished => none

/-- The ping task goes on, where it is spawned and has not ended. -/
def stepPing (s : KeepAlive) : Option KeepAlive := do
  let p ← s.ping
  let q ← p.poll s.stopPing
  some { s with ping := some q }

/-- One step of the caller or of a task; `none` where there is nothing to take it. -/
def step (c : PingClient) (s : KeepAlive) : PingStep → Option KeepAlive
  | .clone => if 0 < s.users then some { s with users := s.users + 1 } else none
  | .drop => if 0 < s.users then some { s.dropClient with users := s.users - 1 } else none
  | .starter => s.stepStarter c
  | .abort =>
    if 0 < s.aborts then
      some { s with aborts := s.aborts - 1, ping := s.abortStored, pingHandle := false }
    else none
  | .ping => s.stepPing

end KeepAlive

/-! ## The ping task -/

namespace PingTask

variable {p q : PingTask} {stopPing : Bool}

/-- How many steps a ping task that finds the stop signal still takes. -/
def left (p : PingTask) : ℕ :=
  match p.phase with
  | .sending => 2
  | .ticking => 1
  | .ended => 0

theorem left_le (p : PingTask) : p.left ≤ 2 := by
  unfold left
  split <;> decide

theorem poll_eq_none : p.poll stopPing = none ↔ p.phase = .ended := by
  obtain ⟨phase, aborted⟩ := p
  cases phase <;> cases aborted <;> simp [poll]

theorem poll_aborted (h : p.poll stopPing = some q) : q.aborted = p.aborted := by
  obtain ⟨phase, aborted⟩ := p
  cases phase <;> cases aborted <;> simp [poll] at h <;> simp [← h]

theorem poll_ended (h : p.poll stopPing = some q) (hq : q.phase = .ended) : p.aborted ∨ stopPing := by
  obtain ⟨phase, aborted⟩ := p
  cases phase <;> cases aborted <;> simp [poll] at h <;> subst h <;> simp_all

theorem poll_left (h : p.poll true = some q) : q.left < p.left := by
  obtain ⟨phase, aborted⟩ := p
  cases phase <;> cases aborted <;> simp [poll] at h <;> subst h <;> simp [left]

end PingTask

namespace KeepAlive

variable {c : PingClient} {s s' : KeepAlive} {a : PingStep}

/-! ## What a step does -/

/-- The steps one by one, each with what enables it. -/
inductive Steps (c : PingClient) (s : KeepAlive) : PingStep → KeepAlive → Prop where
  | clone (h : 0 < s.users) : Steps c s .clone { s with users := s.users + 1 }
  | drop (h : 0 < s.users) : Steps c s .drop { s.dropClient with users := s.users - 1 }
  | spawn (h : s.starter = .created) : Steps c s .starter { s with
      starter := .spawned
      ping := some ⟨if c.firstPing then .sending else .ticking, false⟩ }
  | register (h : s.starter = .spawned) : Steps c s .starter
      { s with starter := .registered, ping := s.abortStored, pingHandle := true }
  | finish (h : s.starter = .registered) : Steps c s .starter
      { s.dropClient with starter := .finished }
  | abort (h : 0 < s.aborts) : Steps c s .abort
      { s with aborts := s.aborts - 1, ping := s.abortStored, pingHandle := false }
  | ping {p q : PingTask} (hp : s.ping = some p) (hq : p.poll s.stopPing = some q) :
      Steps c s .ping { s with ping := some q }

theorem steps_of_step (h : s.step c a = some s') : Steps c s a s' := by
  cases a with
  | clone =>
    obtain ⟨hu, h⟩ := Option.ite_none_right_eq_some.mp h
    cases h
    exact .clone hu
  | drop =>
    obtain ⟨hu, h⟩ := Option.ite_none_right_eq_some.mp h
    cases h
    exact .drop hu
  | starter =>
    simp only [step, stepStarter] at h
    split at h
    · cases h
      exact .spawn ‹_›
    · cases h
      exact .register ‹_›
    · cases h
      exact .finish ‹_›
    · cases h
  | abort =>
    obtain ⟨ha, h⟩ := Option.ite_none_right_eq_some.mp h
    cases h
    exact .abort ha
  | ping =>
    obtain ⟨p, hp, h⟩ := Option.bind_eq_some_iff.mp h
    obtain ⟨q, hq, h⟩ := Option.bind_eq_some_iff.mp h
    cases h
    exact .ping hp hq

theorem abortStored_of_not (h : s.pingHandle = false) : s.abortStored = s.ping := by
  simp [abortStored, h]

theorem abortStored_eq_none : s.abortStored = none ↔ s.ping = none := by
  unfold abortStored
  split
  · exact Option.map_eq_none_iff
  · exact Iff.rfl

/-! ## The invariant -/

/-- No handle is stored before the starter stores it, and the stop signal is up once a client was
dropped. -/
structure Inv (s : KeepAlive) : Prop where
  handle : s.starter = .created ∨ s.starter = .spawned → s.pingHandle = false
  spawned : s.ping = none → s.starter = .created
  aborts : 0 < s.aborts → s.stopPing
  finished : s.starter = .finished → s.stopPing
  users : s.users = 0 → s.stopPing
  aborted : ∀ p, s.ping = some p → p.aborted → s.stopPing
  ended : ∀ p, s.ping = some p → p.phase = .ended → s.stopPing

theorem inv_new : Inv new := by
  constructor <;> simp [new]

theorem Inv.of_stop (hstop : s.stopPing)
    (handle : s.starter = .created ∨ s.starter = .spawned → s.pingHandle = false)
    (spawned : s.ping = none → s.starter = .created) : Inv s where
  handle := handle
  spawned := spawned
  aborts _ := hstop
  finished _ := hstop
  users _ := hstop
  aborted _ _ _ := hstop
  ended _ _ _ := hstop

theorem Inv.step (hs : Inv s) (h : s.step c a = some s') : Inv s' := by
  cases steps_of_step h with
  | clone hu => exact { hs with users := nofun }
  | drop hu => exact .of_stop rfl hs.handle hs.spawned
  | spawn hst =>
    refine ⟨fun _ => hs.handle (Or.inl hst), nofun, hs.aborts, nofun, hs.users, ?_, ?_⟩
    · intro p hp
      cases hp
      exact nofun
    · intro p hp
      cases hp
      split <;> exact nofun
  | register hst =>
    have hping : s.abortStored = s.ping := abortStored_of_not (hs.handle (Or.inr hst))
    rw [hping]
    refine ⟨nofun, fun hp => ?_, hs.aborts, nofun, hs.users, hs.aborted, hs.ended⟩
    have := hst.symm.trans (hs.spawned hp)
    cases this
  | finish hst =>
    refine .of_stop rfl nofun fun hp => ?_
    have := hst.symm.trans (hs.spawned hp)
    cases this
  | abort ha =>
    exact .of_stop (hs.aborts ha) (fun _ => rfl) fun hp => hs.spawned (abortStored_eq_none.mp hp)
  | @ping p q hp hq =>
    refine { hs with spawned := nofun, aborted := ?_, ended := ?_ }
    · intro r hr hab
      cases hr
      exact hs.aborted p hp (PingTask.poll_aborted hq ▸ hab)
    · intro r hr hend
      cases hr
      exact (PingTask.poll_ended hq hend).elim (hs.aborted p hp) id

theorem inv_run {acts : List PingStep} (h : run (step c) new acts = some s) : Inv s :=
  run_inv (fun _ _ _ => Inv.step) inv_new h

/-- Where the starter has ended the stop signal is up, whatever client values the caller has. -/
theorem stopPing_of_finished {acts : List PingStep} (h : run (step c) new acts = some s)
    (hst : s.starter = .finished) : s.stopPing :=
  (inv_run h).finished hst

/-! ## After the last drop -/

/-- How many steps the tasks still take once the stop signal is up and no client value is left. -/
def left (s : KeepAlive) : ℕ :=
  s.aborts + (s.ping.map PingTask.left).getD 0 + match s.starter with
    | .created => 6
    | .spawned => 3
    | .registered => 2
    | .finished => 0

/-- The ping task was spawned and has ended. -/
def PingEnded (s : KeepAlive) : Prop := ∃ p, s.ping = some p ∧ p.phase = .ended

/-- No client value is left. -/
def Dropped (s : KeepAlive) : Prop := Inv s ∧ s.users = 0

theorem Dropped.step (hs : Dropped s) (h : s.step c a = some s') : Dropped s' := by
  refine ⟨hs.1.step h, ?_⟩
  cases steps_of_step h with
  | clone hu => exact absurd hs.2 (Nat.ne_of_gt hu)
  | drop hu => exact absurd hs.2 (Nat.ne_of_gt hu)
  | _ => exact hs.2

theorem left_abortStored : (s.abortStored.map PingTask.left).getD 0 = (s.ping.map PingTask.left).getD 0 := by
  unfold abortStored
  split
  · rw [Option.map_map]
    rfl
  · rfl

theorem Dropped.left_lt (hs : Dropped s) (h : s.step c a = some s') : s'.left < s.left := by
  cases steps_of_step h with
  | clone hu => exact absurd hs.2 (Nat.ne_of_gt hu)
  | drop hu => exact absurd hs.2 (Nat.ne_of_gt hu)
  | spawn hst =>
    simp only [left, hst, Option.map_some, Option.getD_some]
    have := PingTask.left_le ⟨if c.firstPing then .sending else .ticking, false⟩
    omega
  | register hst => simp [left, left_abortStored, hst]
  | finish hst =>
    simp only [left, dropClient, hst]
    omega
  | abort ha =>
    simp only [left, left_abortStored]
    omega
  | @ping p q hp hq =>
    rw [hs.1.users hs.2] at hq
    have := PingTask.poll_left hq
    simp only [left, hp, Option.map_some, Option.getD_some]
    omega

theorem Dropped.pingEnded (hs : Dropped s) (h : Stuck (KeepAlive.step c) s) : PingEnded s := by
  have hstarter : s.starter = .finished := by
    have hst := h .starter
    simp only [KeepAlive.step, stepStarter] at hst
    split at hst
    · cases hst
    · cases hst
    · cases hst
    · assumption
  have hping : s.ping ≠ none := by
    intro hp
    have hst := hstarter.symm.trans (hs.1.spawned hp)
    cases hst
  obtain ⟨p, hp⟩ := Option.ne_none_iff_exists'.mp hping
  have hpoll := h .ping
  simp only [KeepAlive.step, stepPing, hp, Option.bind_eq_bind, Option.bind_some,
    Option.bind_eq_none_iff, reduceCtorEq, imp_false] at hpoll
  exact ⟨p, hp, PingTask.poll_eq_none.mp (Option.eq_none_iff_forall_ne_some.mpr hpoll)⟩

/-- **After the last drop** the tasks end, and the ping task with them. -/
theorem Dropped.ends (c : PingClient) (hs : Dropped s) : Ends (KeepAlive.step c) PingEnded s :=
  ends_of_measure left (fun _ _ _ => Dropped.step) (fun _ _ _ => Dropped.left_lt)
    (fun _ => Dropped.pingEnded) hs

/-! ## Pings as long as the client -/

/-- While there is a client value the pings go on, neither told to stop nor aborted; once there is
none the tasks end, and the ping task with them. -/
def Kept (c : PingClient) (s : KeepAlive) : Prop :=
  (0 < s.users → s.stopPing = false ∧ ∀ p, s.ping = some p → p.aborted = false) ∧
    (s.users = 0 → Ends (KeepAlive.step c) PingEnded s)

/-- A drop, of a client value of the caller or of the clone of the starter, leaves no client value
behind. -/
def DropsLast (s : KeepAlive) : PingStep → Prop
  | .drop => s.users = 1
  | .starter => s.starter = .registered → s.users = 0
  | _ => True

theorem Inv.kept_iff_stopPing (hs : Inv s) : Kept c s ↔ (0 < s.users → s.stopPing = false) := by
  constructor
  · exact fun hk hu => (hk.1 hu).1
  · intro hstop
    refine ⟨fun hu => ⟨hstop hu, fun p hp => ?_⟩, fun hu => Dropped.ends c ⟨hs, hu⟩⟩
    rw [← Bool.not_eq_true]
    intro hab
    have := hs.aborted p hp hab
    rw [hstop hu] at this
    cases this

/-- **One step** keeps the promise exactly where a drop leaves no client value behind. -/
theorem kept_step_iff (hs : Inv s) (hk : Kept c s) (h : s.step c a = some s') :
    Kept c s' ↔ DropsLast s a := by
  have hstop := hs.kept_iff_stopPing.mp hk
  rw [(hs.step h).kept_iff_stopPing]
  cases steps_of_step h with
  | clone hu => exact iff_of_true (fun _ => hstop hu) trivial
  | drop hu =>
    have : DropsLast s .drop ↔ ¬ 0 < s.users - 1 := by
      simp only [DropsLast]
      omega
    rw [this]
    simp [dropClient]
  | spawn hst => exact iff_of_true hstop fun hr => by cases hst.symm.trans hr
  | register hst => exact iff_of_true hstop fun hr => by cases hst.symm.trans hr
  | finish hst => simp [dropClient, DropsLast, hst]
  | abort ha => exact iff_of_true hstop trivial
  | ping hp hq => exact iff_of_true hstop trivial

end KeepAlive

/-- **Main result.** A run keeps the pings alive as long as the client, and no longer, exactly where
each of its drops leaves no client value behind: the starter drops its clone only after the last
client value of the caller, and the caller drops no value but the last. -/
theorem PingClient.kept_iff (c : PingClient) (acts : List PingStep) :
    Always (KeepAlive.step c) (KeepAlive.Kept c) KeepAlive.new acts ↔
      Meets (KeepAlive.step c) KeepAlive.DropsLast KeepAlive.new acts := by
  have hnew : KeepAlive.Kept c KeepAlive.new := KeepAlive.inv_new.kept_iff_stopPing.mpr fun _ => rfl
  exact always_iff (fun _ _ _ => KeepAlive.Inv.step) (fun _ _ _ => KeepAlive.kept_step_iff) acts
    KeepAlive.inv_new hnew

/-- The caller keeps its client and does nothing. The starter ends, the drop of its clone raises the
stop signal and has the ping task aborted. -/
theorem TemporalClient.pings_stop :
    run (KeepAlive.step TemporalClient) KeepAlive.new [.starter, .starter, .starter, .abort, .ping] =
        some ⟨true, false, 1, .finished, some ⟨.ended, true⟩, 0⟩ ∧
      ¬ Always (KeepAlive.step TemporalClient) (KeepAlive.Kept TemporalClient) KeepAlive.new
        [.starter, .starter, .starter, .abort, .ping] := by
  have hrun : run (KeepAlive.step TemporalClient) KeepAlive.new
      [.starter, .starter, .starter, .abort, .ping] =
        some ⟨true, false, 1, .finished, some ⟨.ended, true⟩, 0⟩ := by decide
  refine ⟨hrun, fun h => ?_⟩
  have hstop := ((h.last hrun).1 Nat.one_pos).1
  cases hstop

end PumpTrade
