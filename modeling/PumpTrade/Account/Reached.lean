import PumpTrade.Account.Transparent

/-!
# Reached states

The states of the shared maps and rents that any interleaving of calls leads to.

* `SharedCall`: the calls that touch the shared state;
* **`Reached.coherent`**: the caches are coherent in every reached state.
-/

namespace PumpTrade

open Base

/-- A call that touches the shared state. The others are made of these. -/
inductive SharedCall where
  | cache (call : CacheCall)
  | create (payer owner mint tokenProgramId : Pubkey) (useSeed : Bool)
  | closeWsol (payer wsolTokenAccount : Pubkey)
  | updateRents (rent rent2022 : Except Error UInt64)

variable (D : Derivations)

/-- The call, without what it returns. -/
def SharedCall.prog : SharedCall → Cached Unit
  | cache call => (fun _ => ()) <$> call.prog D
  | create payer owner mint tokenProgramId useSeed =>
    (fun _ => ()) <$> createAssociatedTokenAccountIdempotentFastUseSeed D payer owner mint tokenProgramId useSeed
  | closeWsol payer wsolTokenAccount => (fun _ => ()) <$> getCachedCloseWsol payer wsolTokenAccount
  | updateRents rent rent2022 => (fun _ => ()) <$> PumpTrade.updateRents rent rent2022

/-- The state comes about from empty maps when calls run in some order of their steps. -/
def Reached (g : Globals) : Prop :=
  ∃ (calls : ℕ → SharedCall) (acts : List ℕ) (t : Threads ℕ Globals Unit),
    run Threads.step ⟨fun i => (calls i).prog D, .initial⟩ acts = some t ∧ t.shared = g

theorem reached_initial : Reached D .initial :=
  ⟨fun _ => .closeWsol default default, [], _, rfl, rfl⟩

/-- The state after a first update of the rents. -/
def Globals.withRents (rent : UInt64) : Globals :=
  { Globals.initial with splTokenRent := rent, splToken2022Rent := rent }

theorem reached_withRents (rent : UInt64) : Reached D (.withRents rent) :=
  ⟨fun _ => .updateRents (.ok rent) (.ok rent), [0, 0], _, rfl, rfl⟩

variable {D}

theorem SharedCall.keeps (c : SharedCall) : (c.prog D).Keeps (Coherent D) fun _ => True := by
  have hmap : ∀ {α : Type} {P : Outcome α → Prop} {p : Cached α}, p.Keeps (Coherent D) P →
      Prog.Keeps (Coherent D) (fun _ => True) ((fun _ => ()) <$> p) :=
    fun h => Prog.Keeps.bind h (fun _ _ => trivial) fun _ _ => trivial
  cases c with
  | cache call => exact hmap call.gives
  | create payer owner mint tokenProgramId useSeed =>
    exact hmap (keeps_create payer owner mint tokenProgramId useSeed)
  | closeWsol payer wsolTokenAccount => exact hmap (gives_closeWsol payer wsolTokenAccount)
  | updateRents rent rent2022 => exact hmap (keeps_updateRents rent rent2022)

/-- **Reached caches are coherent.** -/
theorem Reached.coherent {g : Globals} (h : Reached D g) : Coherent D g := by
  obtain ⟨calls, acts, t, hrun, rfl⟩ := h
  exact (Threads.run_keeps (P := fun _ _ => True) (coherent_initial D) (fun i => (calls i).keeps) hrun).1

end PumpTrade
