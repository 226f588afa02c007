import Mathlib.Data.List.Induction
import PumpTrade.Account.Coherent

/-!
# Rent updates and cached creations

Histories of completed rent updates and of calls that create token accounts. The instruction cache
keeps the instructions of the first call for good, with the rent of that time.

* `create_run`: what one call returns and what it caches;
* `cached_after`: what is cached was made by an earlier call with the same arguments;
* **`transparent_iff_steady`**: every call returns what it would without the cache exactly where
  calls with the same arguments find the same rent.
-/

namespace PumpTrade

open Base

/-- The arguments of a call that creates an account. -/
structure CreateArgs where
  payer : Pubkey
  owner : Pubkey
  mint : Pubkey
  tokenProgramId : Pubkey
  useSeed : Bool
  deriving DecidableEq, Repr

/-- A completed update of both rents, or a call. -/
inductive RentEvent where
  | updateRents (rent rent2022 : UInt64)
  | create (args : CreateArgs)
  deriving DecidableEq, Repr

namespace CreateArgs

variable (D : Derivations) (args : CreateArgs)

/-- The key under which the creation is cached. -/
def key : InstructionCacheKey :=
  .createAssociatedTokenAccount args.payer args.owner args.mint args.tokenProgramId args.useSeed

/-- The call. -/
def call : Cached (List Instruction) :=
  createAssociatedTokenAccountIdempotentFastUseSeed D args.payer args.owner args.mint args.tokenProgramId
    args.useSeed

/-- What the call would return without the cache, for a rent. -/
def fresh (rent : UInt64) : Outcome (List Instruction) :=
  createInstructions D rent args.payer args.owner args.mint args.tokenProgramId args.useSeed

/-- The account is addressed by a seed, and the address can be derived. -/
def Seeded : Prop :=
  usesSeed args.mint args.tokenProgramId args.useSeed ∧
    ∃ ataLike, D.createWithSeed args.payer (mintSeed D args.mint) args.tokenProgramId = .ok ataLike

end CreateArgs

/-! ## Histories -/

/-- The rent for the accounts of a token program after an event. -/
def RentEvent.rent (tokenProgramId : Pubkey) (rent : UInt64) : RentEvent → UInt64
  | updateRents splToken splToken2022 => if tokenProgramId = tokenProgram2022 then splToken2022 else splToken
  | create _ => rent

/-- The rent last stored for the accounts of a token program. -/
def rentAfter (tokenProgramId : Pubkey) (history : List RentEvent) : UInt64 :=
  history.foldl (RentEvent.rent tokenProgramId) noRent

variable (D : Derivations)

/-- The shared state after an event. -/
def RentEvent.next (g : Globals) : RentEvent → Globals
  | updateRents rent rent2022 => ((PumpTrade.updateRents (.ok rent) (.ok rent2022)).run g).2
  | create args => ((args.call D).run g).2

/-- The caches and the rents after a history. -/
def stateAfter (history : List RentEvent) : Globals := history.foldl (RentEvent.next D) .initial

/-- Every call returns what it would without the cache, for the rent stored at the time. -/
def Transparent (history : List RentEvent) : Prop :=
  ∀ before args after, history = before ++ .create args :: after →
    ((args.call D).run (stateAfter D before)).1 =
      args.fresh D ((stateAfter D before).rent args.tokenProgramId)

/-- Two calls with the same arguments find the same rent, where the account is addressed by a seed
and a rent is known at the first. -/
def Steady (history : List RentEvent) : Prop :=
  ∀ before args mid after, history = before ++ .create args :: (mid ++ .create args :: after) →
    args.Seeded D → rentAfter args.tokenProgramId before ≠ noRent →
      rentAfter args.tokenProgramId before = rentAfter args.tokenProgramId (before ++ .create args :: mid)

theorem rentAfter_append (tokenProgramId : Pubkey) (before : List RentEvent) (event : RentEvent) :
    rentAfter tokenProgramId (before ++ [event]) =
      event.rent tokenProgramId (rentAfter tokenProgramId before) := by
  simp [rentAfter]

theorem stateAfter_append (before : List RentEvent) (event : RentEvent) :
    stateAfter D (before ++ [event]) = event.next D (stateAfter D before) := by
  simp [stateAfter]

variable {D}

/-! ## One call -/

/-- The instruction cache and the rents are the same. -/
structure SameInstructions (g g' : Globals) : Prop where
  instructionCache : g'.instructionCache = g.instructionCache
  splTokenRent : g'.splTokenRent = g.splTokenRent
  splToken2022Rent : g'.splToken2022Rent = g.splToken2022Rent

theorem SameInstructions.refl (g : Globals) : SameInstructions g g := ⟨rfl, rfl, rfl⟩

theorem SameInstructions.trans (g g' g'' : Globals) (h : SameInstructions g g') (h' : SameInstructions g' g'') :
    SameInstructions g g'' :=
  ⟨h'.1.trans h.1, h'.2.trans h.2, h'.3.trans h.3⟩

theorem SameInstructions.rent {g g' : Globals} (h : SameInstructions g g') (tokenProgramId : Pubkey) :
    g'.rent tokenProgramId = g.rent tokenProgramId := by
  rw [Globals.rent, Globals.rent, h.splTokenRent, h.splToken2022Rent]

theorem compute_run {g : Globals} (hg : Coherent D g) (args : CreateArgs) :
    ∃ compute, args.call D = getCachedInstructions args.key compute ∧
      (compute.run g).1 = args.fresh D (g.rent args.tokenProgramId) ∧
      SameInstructions g (compute.run g).2 := by
  unfold CreateArgs.call CreateArgs.fresh createAssociatedTokenAccountIdempotentFastUseSeed createInstructions
  by_cases hseed : usesSeed args.mint args.tokenProgramId args.useSeed
  · simp only [if_pos hseed]
    refine ⟨_, rfl, ?_⟩
    have hrun : ((do
        let instructions ← createAssociatedTokenAccountUseSeed D args.payer args.owner args.mint
          args.tokenProgramId
        Prog.lift (unwrapOk instructions)).run g) = (unwrapOk (createUseSeed D (g.rent args.tokenProgramId)
          args.payer args.owner args.mint args.tokenProgramId), g) := Prog.run_lift _ g
    rw [hrun]
    exact ⟨rfl, .refl g⟩
  · simp only [if_neg hseed]
    have haddress := gives_ata (D := D) args.owner args.mint args.tokenProgramId false
    rw [ataAddress_false] at haddress
    have hconfined : (getAssociatedTokenAddressWithProgramIdFast D args.owner args.mint
        args.tokenProgramId).Confined id SameInstructions :=
      Prog.confined_memo SameInstructions.refl (fun g g' h => by rw [show g = g' from h])
        (fun g ata => ⟨rfl, rfl, rfl⟩) (Prog.confined_lift _)
    refine ⟨_, rfl, ?_, ?_⟩
    · exact ((haddress.bind fun address _ => Prog.gives_ret _).run hg).1
    · exact (hconfined.bind fun address => Prog.confined_ret _).run SameInstructions.refl
        SameInstructions.trans g

/-- **What one call does.** It returns what is cached, and else what it would without the cache,
which it then caches. The rents stay. -/
theorem create_run {g : Globals} (hg : Coherent D g) (args : CreateArgs) :
    (∀ tokenProgramId, (((args.call D).run g).2).rent tokenProgramId = g.rent tokenProgramId) ∧
    match g.instructionCache args.key with
    | some instructions => ((args.call D).run g).1 = .ret instructions ∧
        (((args.call D).run g).2).instructionCache = g.instructionCache
    | none => ((args.call D).run g).1 = args.fresh D (g.rent args.tokenProgramId) ∧
        ∀ key, (((args.call D).run g).2).instructionCache key =
          if key = args.key then (args.fresh D (g.rent args.tokenProgramId)).value?
          else g.instructionCache key := by
  obtain ⟨compute, hcall, hfresh, hsame⟩ := compute_run hg args
  rw [hcall, getCachedInstructions, Prog.run_memo]
  cases hcached : g.instructionCache args.key with
  | some instructions => exact ⟨fun _ => rfl, rfl, rfl⟩
  | none =>
    rcases hrun : compute.run g with ⟨o, g'⟩
    rw [hrun] at hfresh hsame
    have hcache : g'.instructionCache = g.instructionCache := hsame.instructionCache
    rw [← show o = args.fresh D (g.rent args.tokenProgramId) from hfresh]
    cases o with
    | ret instructions =>
      refine ⟨fun tokenProgramId => hsame.rent tokenProgramId, rfl, fun key => ?_⟩
      by_cases hkey : key = args.key
      · subst hkey
        simp [Globals.insertInstructions]
      · simp [Globals.insertInstructions, hkey, hcache]
    | panic msg =>
      refine ⟨fun tokenProgramId => hsame.rent tokenProgramId, rfl, fun key => ?_⟩
      by_cases hkey : key = args.key
      · subst hkey
        simp [hcache, hcached]
      · simp [hkey, hcache]

/-! ## Runs -/

theorem coherent_after (history : List RentEvent) : Coherent D (stateAfter D history) := by
  induction history using List.reverseRecOn with
  | nil => exact coherent_initial D
  | append_singleton before event ih =>
    rw [stateAfter_append]
    cases event with
    | updateRents rent rent2022 => exact ((keeps_updateRents (.ok rent) (.ok rent2022)).run ih).2
    | create args => exact ((keeps_create _ _ _ _ _).run ih).2

theorem rent_after (tokenProgramId : Pubkey) (history : List RentEvent) :
    (stateAfter D history).rent tokenProgramId = rentAfter tokenProgramId history := by
  induction history using List.reverseRecOn with
  | nil => simp [stateAfter, rentAfter, Globals.initial, Globals.rent]
  | append_singleton before event ih =>
    rw [stateAfter_append, rentAfter_append]
    cases event with
    | updateRents rent rent2022 => rfl
    | create args =>
      rw [RentEvent.next, (create_run (coherent_after before) args).1, ih]
      rfl

theorem CreateArgs.key_injective : Function.Injective CreateArgs.key := by
  intro args args' h
  cases args
  cases args'
  simpa [CreateArgs.key] using h

/-- **What is cached** was made by an earlier call with the same arguments, for the rent of that
time. -/
theorem cached_after (history : List RentEvent) (args : CreateArgs) (instructions : List Instruction)
    (h : (stateAfter D history).instructionCache args.key = some instructions) :
    ∃ before after, history = before ++ .create args :: after ∧
      args.fresh D (rentAfter args.tokenProgramId before) = .ret instructions := by
  induction history using List.reverseRecOn with
  | nil => cases h
  | append_singleton history event ih =>
    have hearlier : (stateAfter D history).instructionCache args.key = some instructions →
        ∃ before after, history ++ [event] = before ++ .create args :: after ∧
          args.fresh D (rentAfter args.tokenProgramId before) = .ret instructions := by
      intro hcached
      obtain ⟨before, after, rfl, hfresh⟩ := ih hcached
      exact ⟨before, after ++ [event], by simp, hfresh⟩
    rw [stateAfter_append] at h
    cases event with
    | updateRents rent rent2022 => exact hearlier h
    | create args' =>
      have hrun := (create_run (coherent_after (D := D) history) args').2
      cases hcached : (stateAfter D history).instructionCache args'.key with
      | some instructions' =>
        rw [hcached] at hrun
        rw [RentEvent.next, hrun.2] at h
        exact hearlier h
      | none =>
        rw [hcached] at hrun
        rw [RentEvent.next, hrun.2] at h
        by_cases hkey : args.key = args'.key
        · obtain rfl := CreateArgs.key_injective hkey
          rw [if_pos rfl, rent_after] at h
          exact ⟨history, [], rfl, Outcome.value?_eq_some.mp h⟩
        · rw [if_neg hkey] at h
          exact hearlier h

theorem cached_of_ret {before : List RentEvent} {args : CreateArgs} {instructions : List Instruction}
    (h : ((args.call D).run (stateAfter D before)).1 = .ret instructions) (mid : List RentEvent) :
    (stateAfter D (before ++ .create args :: mid)).instructionCache args.key = some instructions := by
  induction mid using List.reverseRecOn with
  | nil =>
    have hrun := (create_run (coherent_after (D := D) before) args).2
    rw [stateAfter_append, RentEvent.next]
    cases hcached : (stateAfter D before).instructionCache args.key with
    | some instructions' =>
      rw [hcached] at hrun
      rw [hrun.2, hcached, Outcome.ret.inj (hrun.1.symm.trans h)]
    | none =>
      rw [hcached] at hrun
      rw [hrun.2, if_pos rfl, ← hrun.1, h, Outcome.value?_ret]
  | append_singleton mid event ih =>
    rw [← List.cons_append, ← List.append_assoc, stateAfter_append]
    cases event with
    | updateRents rent rent2022 => exact ih
    | create args' =>
      have hrun := (create_run (coherent_after (D := D) (before ++ .create args :: mid)) args').2
      rw [RentEvent.next]
      cases hcached : (stateAfter D (before ++ .create args :: mid)).instructionCache args'.key with
      | some instructions' =>
        rw [hcached] at hrun
        rw [hrun.2, ih]
      | none =>
        rw [hcached] at hrun
        have hkey : args.key ≠ args'.key := by
          intro hkey
          rw [← hkey, ih] at hcached
          cases hcached
        rw [hrun.2, if_neg hkey, ih]

/-! ## Rents -/

theorem fresh_eq_of_not_usesSeed {args : CreateArgs}
    (h : ¬ usesSeed args.mint args.tokenProgramId args.useSeed) (rent rent' : UInt64) :
    args.fresh D rent = args.fresh D rent' := by
  simp only [CreateArgs.fresh, createInstructions, if_neg h]

/-- With a seed the instructions are made where a rent is known and the address can be derived. -/
theorem fresh_seeded {args : CreateArgs} {rent : UInt64} {instructions : List Instruction}
    (hseed : usesSeed args.mint args.tokenProgramId args.useSeed) :
    args.fresh D rent = .ret instructions ↔ rent ≠ noRent ∧
      ∃ ataLike, D.createWithSeed args.payer (mintSeed D args.mint) args.tokenProgramId = .ok ataLike ∧
        instructions = seedInstructions D args.payer ataLike args.owner args.mint args.tokenProgramId rent := by
  rw [CreateArgs.fresh, createInstructions, if_pos hseed, createUseSeed]
  by_cases hrent : rent = noRent
  · simp [hrent, unwrapOk]
  · rw [if_neg hrent]
    cases D.createWithSeed args.payer (mintSeed D args.mint) args.tokenProgramId with
    | error e => simp [unwrapOk]
    | ok ataLike =>
      simp only [unwrapOk, Outcome.ret.injEq, Except.ok.injEq, exists_eq_left', hrent, ne_eq,
        not_false_eq_true, true_and]
      exact eq_comm

theorem seedInstructions_inj {payer ataLike owner mint tokenProgramId : Pubkey} {rent rent' : UInt64}
    (h : seedInstructions D payer ataLike owner mint tokenProgramId rent =
      seedInstructions D payer ataLike owner mint tokenProgramId rent') : rent = rent' := by
  have hdata := congrArg Instruction.data (List.cons.inj h).1
  simp only [createAccountWithSeed, List.append_cancel_right_eq, List.append_cancel_left_eq] at hdata
  have hrent := congrArg ofLeBytes hdata
  rw [ofLeBytes_u64, ofLeBytes_u64] at hrent
  exact UInt64.toNat_inj.mp hrent

theorem Transparent.steady {history : List RentEvent} (h : Transparent D history) : Steady D history := by
  rintro before args mid after hsplit ⟨hseed, ataLike, hataLike⟩ hrent
  have hfirst := h before args (mid ++ .create args :: after) hsplit
  have hsecond := h (before ++ .create args :: mid) args after (by simp [hsplit])
  rw [rent_after] at hfirst hsecond
  have hfresh := (fresh_seeded hseed).mpr ⟨hrent, ataLike, hataLike, rfl⟩
  rw [hfresh] at hfirst
  have hcached := cached_of_ret hfirst mid
  have hrun := (create_run (coherent_after (D := D) (before ++ .create args :: mid)) args).2
  rw [hcached] at hrun
  rw [hrun.1] at hsecond
  obtain ⟨-, ataLike', hataLike', hmade⟩ := (fresh_seeded hseed).mp hsecond.symm
  obtain rfl := Except.ok.inj (hataLike.symm.trans hataLike')
  exact seedInstructions_inj hmade

theorem Steady.transparent {history : List RentEvent} (h : Steady D history) : Transparent D history := by
  intro before args after hsplit
  have hrun := (create_run (coherent_after (D := D) before) args).2
  cases hcached : (stateAfter D before).instructionCache args.key with
  | none =>
    rw [hcached] at hrun
    exact hrun.1
  | some instructions =>
    rw [hcached] at hrun
    rw [hrun.1, rent_after]
    obtain ⟨earlier, mid, rfl, hfresh⟩ := cached_after before args instructions hcached
    by_cases hseed : usesSeed args.mint args.tokenProgramId args.useSeed
    · obtain ⟨hrent, ataLike, hataLike, -⟩ := (fresh_seeded hseed).mp hfresh
      rw [← h earlier args mid after (by simp [hsplit]) ⟨hseed, ataLike, hataLike⟩ hrent, hfresh]
    · rw [← hfresh, fresh_eq_of_not_usesSeed hseed]

/-- **When the instruction cache is transparent.** -/
theorem transparent_iff_steady (D : Derivations) (history : List RentEvent) :
    Transparent D history ↔ Steady D history :=
  ⟨Transparent.steady, Steady.transparent⟩

/-- A rent update between two calls for the same account, and the second still gets the first
rent. -/
theorem not_transparent_update : ¬ Transparent sampleDerivations
    [.updateRents 2039280 2039280, .create ⟨⟨1⟩, ⟨1⟩, ⟨5⟩, tokenProgram, true⟩, .updateRents 1019640 1019640,
      .create ⟨⟨1⟩, ⟨1⟩, ⟨5⟩, tokenProgram, true⟩] := by
  intro h
  have hrent := h.steady [.updateRents 2039280 2039280] ⟨⟨1⟩, ⟨1⟩, ⟨5⟩, tokenProgram, true⟩
    [.updateRents 1019640 1019640] [] rfl ⟨by decide, _, rfl⟩ (by decide)
  exact absurd hrent (by decide)

end PumpTrade
