import PumpTrade.Base.Run

/-!
# The keep-alive of Stellium

`StelliumClient` of `swqos/stellium.rs`. All clones of a client share `keep_alive_running`. `new`
raises it and spawns a starter task that owns a clone; the starter spawns the ping loop and ends,
which drops the clone. `stop_ping_task` and every drop lower the flag. The loop ends where it finds
the flag raised.

* `Stellium.step`: what the caller, the starter and the ping loop do, in any order;
* `Stellium.Over`: `stop_ping_task` was called, or the last client value was dropped;
* `Stellium.Obeys`: the loop has not ended before that, and no ping follows its next flag test after
  that;
* **`Stellium.obeys_iff`**: a run obeys exactly where the flag is tested lowered, and before that;
* `Stellium.endless`: once the flag is lowered, a loop that has not ended never does.

The loop tests the flag and sends its ping without awaiting in between, which is one step: what
others do meanwhile may as well come after it. A request is always answered, if only by its timeout.
-/

namespace PumpTrade

open Base

/-- Where the starter task stands: not yet run, about to drop its clone of the client, done. -/
inductive StelliumStarter where
  | created
  | spawned
  | finished
  deriving DecidableEq, Repr

/-- Where the ping loop stands: before its first ping, before a flag test, ended. -/
inductive PingLoop where
  | spawned
  | ticking
  | ended
  deriving DecidableEq, Repr

/-- The flag that the clones share, the client values of the caller and the tasks. `stopped` says
that `stop_ping_task` was called; `tested` is the number of pings that had been sent when the loop
first tested the flag after the end. -/
structure Stellium where
  keepAliveRunning : Bool
  users : ℕ
  starter : StelliumStarter
  loop : Option PingLoop
  stopped : Bool
  pings : ℕ
  tested : Option ℕ
  deriving DecidableEq, Repr

/-- A step of a client value, the starter or the ping task. -/
inductive StelliumStep where
  | clone
  | drop
  | stopPingTask
  | starter
  | loop
  deriving DecidableEq, Repr

namespace Stellium

/-- `new`: the client is returned, the starter task is spawned with a clone of it. -/
def new : Stellium := ⟨true, 1, .created, none, false, 0, none⟩

/-- `stop_ping_task` was called, or no client value is left, that of the starter included. -/
def Over (s : Stellium) : Prop := s.stopped = true ∨ (s.users = 0 ∧ s.starter = .finished)

instance (s : Stellium) : Decidable s.Over := inferInstanceAs (Decidable (_ ∨ _))

/-- `Drop`, for a client value of the caller and for the clone of the starter alike. -/
def dropClient (s : Stellium) : Stellium := { s with keepAliveRunning := false }

/-- `start_ping_task`, and the drop of the clone at the end of the task that runs it. -/
def stepStarter (s : Stellium) : Option Stellium :=
  match s.starter with
  | .created => some { s with starter := .spawned, loop := some .spawned }
  | .spawned => some { s.dropClient with starter := .finished }
  | .finished => none

/-- A ping is sent, and the loop waits for its tick. -/
def ping (s : Stellium) : Stellium := { s with loop := some .ticking, pings := s.pings + 1 }

/-- What the record of the first flag test after the end is after one more test. -/
def testFlag (s : Stellium) : Stellium :=
  { s with tested := if s.Over then some (s.tested.getD s.pings) else s.tested }

/-- The first ping, or a flag test with what follows it. -/
def stepLoop (s : Stellium) : Option Stellium :=
  match s.loop with
  | some .spawned => some s.ping
  | some .ticking =>
    if s.keepAliveRunning then some { s.testFlag with loop := some .ended } else some s.testFlag.ping
  | some .ended | none => none

/-- One step of the caller or of a task; `none` where there is nothing to take it. -/
def step (s : Stellium) : StelliumStep → Option Stellium
  | .clone => if 0 < s.users then some { s with users := s.users + 1 } else none
  | .drop => if 0 < s.users then some { s.dropClient with users := s.users - 1 } else none
  | .stopPingTask => if 0 < s.users then some { s with keepAliveRunning := false, stopped := true } else none
  | .starter => s.stepStarter
  | .loop => s.stepLoop

/-- The ping loop has not ended while a client value was left and not stopped, and after the end no
ping has followed its next flag test. -/
structure Obeys (s : Stellium) : Prop where
  runs : s.loop = some .ended → s.Over
  stops : ∀ n, s.tested = some n → s.pings = n

/-- A flag test finds the flag lowered, and comes before the end. -/
def TestedBefore (s : Stellium) (a : StelliumStep) : Prop :=
  a = .loop → s.loop = some .ticking → s.keepAliveRunning = false ∧ ¬ s.Over

/-! ## What a step does -/

variable {s s' : Stellium} {a : StelliumStep}

/-- The steps one by one, each with what enables it. -/
inductive Steps (s : Stellium) : StelliumStep → Stellium → Prop where
  | clone (h : 0 < s.users) : Steps s .clone { s with users := s.users + 1 }
  | drop (h : 0 < s.users) : Steps s .drop { s.dropClient with users := s.users - 1 }
  | stopPingTask (h : 0 < s.users) :
    Steps s .stopPingTask { s with keepAliveRunning := false, stopped := true }
  | spawn (h : s.starter = .created) : Steps s .starter { s with starter := .spawned, loop := some .spawned }
  | finish (h : s.starter = .spawned) : Steps s .starter { s.dropClient with starter := .finished }
  | firstPing (h : s.loop = some .spawned) : Steps s .loop s.ping
  | exit (h : s.loop = some .ticking) (hflag : s.keepAliveRunning = true) :
    Steps s .loop { s.testFlag with loop := some .ended }
  | ping (h : s.loop = some .ticking) (hflag : s.keepAliveRunning = false) : Steps s .loop s.testFlag.ping

theorem steps_of_step (h : s.step a = some s') : Steps s a s' := by
  cases a with
  | clone =>
    obtain ⟨hu, h⟩ := Option.ite_none_right_eq_some.mp h
    cases h
    exact .clone hu
  | drop =>
    obtain ⟨hu, h⟩ := Option.ite_none_right_eq_some.mp h
    cases h
    exact .drop hu
  | stopPingTask =>
    obtain ⟨hu, h⟩ := Option.ite_none_right_eq_some.mp h
    cases h
    exact .stopPingTask hu
  | starter =>
    simp only [step, stepStarter] at h
    split at h
    · cases h
      exact .spawn ‹_›
    · cases h
      exact .finish ‹_›
    · cases h
  | loop =>
    simp only [step, stepLoop] at h
    split at h
    · cases h
      exact .firstPing ‹_›
    · split_ifs at h with hflag
      · cases h
        exact .exit ‹_› hflag
      · cases h
        exact .ping ‹_› (eq_false_of_ne_true hflag)
    · cases h
    · cases h

/-! ## The invariant -/

/-- A raised flag says that no client value was dropped and none stopped. The flag is tested by a
loop that was spawned. -/
structure Inv (s : Stellium) : Prop where
  raised : s.keepAliveRunning = true → s.stopped = false ∧ 0 < s.users ∧ s.starter ≠ .finished
  tested : s.tested ≠ none → s.Over
  spawned : s.starter = .created → s.loop = none
  first : s.loop = none ∨ s.loop = some .spawned → s.tested = none

theorem inv_new : Inv new := by
  constructor <;> simp [new]

theorem Inv.not_over (h : s.Inv) (hflag : s.keepAliveRunning = true) : ¬ s.Over := by
  obtain ⟨hstopped, husers, -⟩ := h.raised hflag
  rintro (hstop | ⟨hzero, -⟩)
  · exact absurd (hstopped.symm.trans hstop) (by decide)
  · omega

theorem Inv.ne_created (h : s.Inv) {loop : PingLoop} (hl : s.loop = some loop) : s.starter ≠ .created := by
  intro hst
  cases hl.symm.trans (h.spawned hst)

theorem Inv.of_testFlag (h : s.Inv) (htested : s.testFlag.tested ≠ none) : s.Over := by
  simp only [testFlag] at htested
  split_ifs at htested with hover
  · exact hover
  · exact h.tested htested

/-- **The end is final.** -/
theorem over_step (hs : s.Over) (h : s.step a = some s') : s'.Over := by
  cases steps_of_step h with
  | clone hu => exact hs.imp id fun hzero => absurd hzero.1 (Nat.ne_of_gt hu)
  | drop hu => exact hs.imp id fun hzero => absurd hzero.1 (Nat.ne_of_gt hu)
  | stopPingTask hu => exact Or.inl rfl
  | spawn hst => exact hs.imp id fun hzero => by cases hst.symm.trans hzero.2
  | finish hst => exact hs.imp id fun hzero => by cases hst.symm.trans hzero.2
  | firstPing hl => exact hs
  | exit hl hflag => exact hs
  | ping hl hflag => exact hs

theorem Inv.step (hs : s.Inv) (h : s.step a = some s') : s'.Inv := by
  have hover : s.Over → s'.Over := fun hover => over_step hover h
  cases steps_of_step h with
  | clone hu =>
    refine ⟨fun hflag => ?_, fun htested => hover (hs.tested htested), hs.spawned, hs.first⟩
    obtain ⟨hstopped, -, hstarter⟩ := hs.raised hflag
    exact ⟨hstopped, Nat.succ_pos _, hstarter⟩
  | drop hu => exact ⟨nofun, fun htested => hover (hs.tested htested), hs.spawned, hs.first⟩
  | stopPingTask hu => exact ⟨nofun, fun htested => hover (hs.tested htested), hs.spawned, hs.first⟩
  | spawn hst =>
    have htested := hs.first (Or.inl (hs.spawned hst))
    refine ⟨fun hflag => ?_, fun hne => absurd htested hne, nofun, fun _ => htested⟩
    obtain ⟨hstopped, husers, -⟩ := hs.raised hflag
    exact ⟨hstopped, husers, nofun⟩
  | finish hst => exact ⟨nofun, fun htested => hover (hs.tested htested), nofun, hs.first⟩
  | firstPing hl =>
    have htested := hs.first (Or.inr hl)
    exact ⟨hs.raised, fun hne => absurd htested hne, fun hst => absurd hst (hs.ne_created hl),
      fun _ => htested⟩
  | exit hl hflag => exact ⟨hs.raised, hs.of_testFlag, fun hst => absurd hst (hs.ne_created hl), nofun⟩
  | ping hl hflag => exact ⟨hs.raised, hs.of_testFlag, fun hst => absurd hst (hs.ne_created hl), nofun⟩

/-! ## Runs -/

/-- While no ping follows the first flag test after the end, each test counts the same pings. -/
theorem Obeys.tested_testFlag (h : s.Obeys) (hover : s.Over) : s.testFlag.tested = some s.pings := by
  simp only [testFlag, if_pos hover]
  cases htested : s.tested with
  | none => rfl
  | some n => rw [Option.getD_some, h.stops n htested]

/-- **One step** of a run that obeys: it obeys still exactly where a flag test finds the flag lowered
and comes before the end. -/
theorem obeys_step_iff (hs : s.Inv) (ho : s.Obeys) (h : s.step a = some s') :
    s'.Obeys ↔ s.TestedBefore a := by
  have hover : s.Over → s'.Over := fun hover => over_step hover h
  cases steps_of_step h with
  | clone hu => exact iff_of_true ⟨fun hl => hover (ho.runs hl), ho.stops⟩ nofun
  | drop hu => exact iff_of_true ⟨fun hl => hover (ho.runs hl), ho.stops⟩ nofun
  | stopPingTask hu => exact iff_of_true ⟨fun hl => hover (ho.runs hl), ho.stops⟩ nofun
  | spawn hst => exact iff_of_true ⟨nofun, ho.stops⟩ nofun
  | finish hst => exact iff_of_true ⟨fun hl => hover (ho.runs hl), ho.stops⟩ nofun
  | firstPing hl =>
    have htested := hs.first (Or.inr hl)
    refine iff_of_true ⟨nofun, fun n hn => ?_⟩ fun _ hticking => ?_
    · cases htested.symm.trans hn
    · cases hl.symm.trans hticking
  | exit hl hflag =>
    -- a raised flag means that the end has not come
    refine iff_of_false (fun ho' => hs.not_over hflag (ho'.runs rfl)) fun hbefore => ?_
    exact absurd (hflag.symm.trans (hbefore rfl hl).1) (by decide)
  | ping hl hflag =>
    constructor
    · refine fun ho' _ _ => ⟨hflag, fun hend => ?_⟩
      have hstops := ho'.stops _ (ho.tested_testFlag hend)
      exact absurd hstops (Nat.succ_ne_self s.pings)
    · intro hbefore
      refine ⟨nofun, fun n hn => ?_⟩
      have hend := hs.of_testFlag (Option.ne_none_iff_exists'.mpr ⟨n, hn⟩)
      exact absurd hend (hbefore rfl hl).2

/-- **Main result.** A run obeys exactly where each flag test finds the flag lowered and comes
before the end. -/
theorem obeys_iff (steps : List StelliumStep) :
    Always step Obeys new steps ↔ Meets step TestedBefore new steps :=
  always_iff (fun _ _ _ => Inv.step) (fun _ _ _ => obeys_step_iff) steps inv_new ⟨nofun, nofun⟩

/-- The flag is lowered and the loop has not ended. -/
def Deaf (s : Stellium) : Prop := s.keepAliveRunning = false ∧ s.loop ≠ some .ended

theorem Deaf.step (hs : s.Deaf) (h : s.step a = some s') : s'.Deaf := by
  obtain ⟨hflag, hloop⟩ := hs
  cases steps_of_step h with
  | clone hu => exact ⟨hflag, hloop⟩
  | drop hu => exact ⟨rfl, hloop⟩
  | stopPingTask hu => exact ⟨rfl, hloop⟩
  | spawn hst => exact ⟨hflag, nofun⟩
  | finish hst => exact ⟨rfl, hloop⟩
  | firstPing hl => exact ⟨hflag, nofun⟩
  | exit hl hraised => exact absurd (hflag.symm.trans hraised) (by decide)
  | ping hl hlowered => exact ⟨hflag, nofun⟩

/-- **A lowered flag keeps the loop going**, whatever is done after that. -/
theorem endless {steps : List StelliumStep} (hs : s.Deaf) (h : run step s steps = some s') :
    s'.loop ≠ some .ended :=
  (run_inv (fun _ _ _ => Deaf.step) hs h).2

/-- The loop tests the flag before the starter has dropped its clone, and ends while the caller has
its client. Where the starter comes first, the loop goes on after `stop_ping_task` and the last
drop. -/
theorem keep_alive_inverted :
    run step new [.starter, .loop, .loop] = some ⟨true, 1, .spawned, some .ended, false, 1, none⟩ ∧
      ¬ Always step Obeys new [.starter, .loop, .loop] ∧
      run step new [.starter, .starter, .loop, .stopPingTask, .drop, .loop] =
        some ⟨false, 0, .finished, some .ticking, true, 2, some 1⟩ ∧
      ¬ Always step Obeys new [.starter, .starter, .loop, .stopPingTask, .drop, .loop] := by
  have hearly : run step new [.starter, .loop, .loop] =
      some ⟨true, 1, .spawned, some .ended, false, 1, none⟩ := by decide
  have hlate : run step new [.starter, .starter, .loop, .stopPingTask, .drop, .loop] =
      some ⟨false, 0, .finished, some .ticking, true, 2, some 1⟩ := by decide
  refine ⟨hearly, fun h => ?_, hlate, fun h => ?_⟩
  · have hover := (h.last hearly).runs rfl
    revert hover
    decide
  · have hstops := (h.last hlate).stops 1 rfl
    cases hstops

end Stellium

end PumpTrade
