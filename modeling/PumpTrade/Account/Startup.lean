import PumpTrade.Account.Reached
import PumpTrade.Base.Rely
import PumpTrade.Instr.NoPanic

/-!
# Rents after startup

`TradingInfrastructure::new` updates the rents and panics where that fails; only then clients are
made, while an updater goes on in the background and may fail halfway.

* `KeepsRents`, `SharedCall.keepsRents`: no step of any call takes a known rent away;
* `updateRents_establishes`: an update that returns has made both rents known;
* `keeps_create_known`, `create_endsWithin`: what a creation comes to beside such calls, and in how many
  steps;
* **`creates_after_startup`**: a creation that starts after that returns its instructions.
-/

namespace PumpTrade

open Base

/-- A rent that is known stays known. -/
def KeepsRents (g g' : Globals) : Prop :=
  (g.splTokenRent ≠ noRent → g'.splTokenRent ≠ noRent) ∧
    (g.splToken2022Rent ≠ noRent → g'.splToken2022Rent ≠ noRent)

/-- Both rents are known. -/
def KnowsRents (g : Globals) : Prop := g.splTokenRent ≠ noRent ∧ g.splToken2022Rent ≠ noRent

theorem keepsRents_of_eq {g g' : Globals} (h : g'.splTokenRent = g.splTokenRent)
    (h2022 : g'.splToken2022Rent = g.splToken2022Rent) : KeepsRents g g' :=
  ⟨fun hg => by rwa [h], fun hg => by rwa [h2022]⟩

theorem keepsRents_refl (g : Globals) : KeepsRents g g := keepsRents_of_eq rfl rfl

theorem stable_splTokenRent : Stable KeepsRents fun g => g.splTokenRent ≠ noRent := fun _ _ h hg => h.1 hg

theorem stable_knowsRents : Stable KeepsRents KnowsRents := fun _ _ h hg => ⟨h.1 hg.1, h.2 hg.2⟩

/-! ## The calls -/

/-- The node answers a call with rents below the mark for none. -/
def SharedCall.AnswersRents : SharedCall → Prop
  | updateRents rent rent2022 => rent ≠ .ok noRent ∧ rent2022 ≠ .ok noRent
  | _ => True

section Calls

variable {D : Derivations}

theorem keepsRents_memo {α : Type} {get : Globals → Option α} {put : α → Globals → Globals} {compute : Cached α}
    (hput : ∀ g a, KeepsRents g (put a g)) (hcompute : compute.Confined id KeepsRents) :
    (Prog.memo get put compute).Confined id KeepsRents :=
  Prog.confined_memo keepsRents_refl (fun _ _ h => congrArg get h) hput hcompute

theorem keepsRents_getCachedPda (key : PdaCacheKey) (compute : Option Pubkey) :
    (getCachedPda key compute).Confined id KeepsRents := by
  refine (Prog.confined_read keepsRents_refl fun _ _ h => congrArg _ h).bind fun found => ?_
  cases found with
  | some pda => trivial
  | none =>
    cases compute with
    | none => trivial
    | some pda =>
      have hinsert : (Prog.modify (Globals.insertPda key pda)).Confined id KeepsRents :=
        Prog.confined_modify fun g => keepsRents_of_eq rfl rfl
      exact hinsert.bind fun _ => trivial

theorem keepsRents_ata (walletAddress mint program : Pubkey) (useSeed : Bool) :
    (getAssociatedTokenAddressWithProgramIdFastUseSeed D walletAddress mint program useSeed).Confined id
      KeepsRents :=
  keepsRents_memo (fun _ _ => keepsRents_of_eq rfl rfl) (Prog.confined_lift _)

theorem CacheCall.keepsRents (c : CacheCall) : (c.prog D).Confined id KeepsRents := by
  cases c with
  | bondingCurvePda mint => exact (keepsRents_getCachedPda _ _).map _
  | bondingCurveV2Pda mint => exact (keepsRents_getCachedPda _ _).map _
  | creatorVaultPda creator => exact (keepsRents_getCachedPda _ _).map _
  | pumpFunUserVolumeAccumulatorPda user => exact (keepsRents_getCachedPda _ _).map _
  | pumpSwapUserVolumeAccumulatorPda user => exact (keepsRents_getCachedPda _ _).map _
  | associatedTokenAddress walletAddress mint program useSeed => exact (keepsRents_ata _ _ _ _).map _
  | computeBudget unitPrice unitLimit =>
    have hbudget : (cachedComputeBudgetInstructions unitPrice unitLimit).Confined id KeepsRents :=
      keepsRents_memo (fun _ _ => keepsRents_of_eq rfl rfl) (Prog.confined_ret _)
    exact hbudget.map _

theorem keepsRents_create (payer owner mint program : Pubkey) (useSeed : Bool) :
    (createAssociatedTokenAccountIdempotentFastUseSeed D payer owner mint program useSeed).Confined id
      KeepsRents := by
  unfold createAssociatedTokenAccountIdempotentFastUseSeed
  split_ifs
  · refine keepsRents_memo (fun _ _ => keepsRents_of_eq rfl rfl) ?_
    have hread : (createAssociatedTokenAccountUseSeed D payer owner mint program).Confined id KeepsRents :=
      (Prog.confined_read keepsRents_refl fun _ _ h => congrArg _ h).bind fun _ => trivial
    exact hread.bind fun _ => Prog.confined_lift _
  · refine keepsRents_memo (fun _ _ => keepsRents_of_eq rfl rfl) ?_
    exact (keepsRents_ata _ _ _ _).bind fun _ => trivial

theorem keepsRents_update {rent rent2022 : Except Error UInt64} (h : rent ≠ .ok noRent)
    (h2022 : rent2022 ≠ .ok noRent) : (updateRents rent rent2022).Confined id KeepsRents := by
  cases rent with
  | error e => trivial
  | ok rent =>
    have hne : rent ≠ noRent := fun heq => h (congrArg _ heq)
    have hstore : (Prog.modify fun g : Globals => { g with splTokenRent := rent }).Confined id KeepsRents :=
      Prog.confined_modify fun g => ⟨fun _ => hne, fun hg => hg⟩
    refine hstore.bind fun _ => ?_
    cases rent2022 with
    | error e => trivial
    | ok rent2022 =>
      have hne2022 : rent2022 ≠ noRent := fun heq => h2022 (congrArg _ heq)
      have hstore2022 : (Prog.modify fun g : Globals => { g with splToken2022Rent := rent2022 }).Confined id
          KeepsRents :=
        Prog.confined_modify fun g => ⟨fun hg => hg, fun _ => hne2022⟩
      exact hstore2022.bind fun _ => trivial

/-- **No step of a call takes a known rent away.** -/
theorem SharedCall.keepsRents {c : SharedCall} (h : c.AnswersRents) : (c.prog D).Confined id KeepsRents := by
  cases c with
  | cache call => exact call.keepsRents.map _
  | create payer owner mint program useSeed => exact (keepsRents_create payer owner mint program useSeed).map _
  | closeWsol payer wsolTokenAccount =>
    have hclose : (getCachedCloseWsol payer wsolTokenAccount).Confined id KeepsRents :=
      keepsRents_memo (fun _ _ => keepsRents_of_eq rfl rfl) (Prog.confined_ret _)
    exact hclose.map _
  | updateRents rent rent2022 => exact (keepsRents_update h.1 h.2).map _

/-- **An update that returns has made both rents known**, whatever the other calls do meanwhile. -/
theorem updateRents_establishes {rent rent2022 : UInt64} (h : rent ≠ noRent) (h2022 : rent2022 ≠ noRent) :
    (updateRents (.ok rent) (.ok rent2022)).Establishes KeepsRents KnowsRents fun _ => True := by
  refine Prog.establishes_modify_bind stable_splTokenRent (fun g _ => h) ?_
  exact Prog.establishes_modify_bind stable_knowsRents (fun g hg => ⟨hg, h2022⟩) (Prog.establishes_ret fun _ h => h)

end Calls

/-! ## Creating accounts -/

/-- The call with what it returns: its instructions for a creation, and none for the others. -/
def SharedCall.answer (D : Derivations) : SharedCall → Cached (List Instruction)
  | create payer owner mint program useSeed =>
    createAssociatedTokenAccountIdempotentFastUseSeed D payer owner mint program useSeed
  | call => (fun _ => []) <$> call.prog D

section Create

variable {D : Derivations} {payer owner mint program : Pubkey} {useSeed : Bool}

theorem createInstructions_returns (hD : Derives D) {rent : UInt64} (hrent : rent ≠ noRent)
    (payer owner mint program : Pubkey) (useSeed : Bool) :
    ∃ instructions, createInstructions D rent payer owner mint program useSeed = .ret instructions := by
  unfold createInstructions
  split_ifs with huses
  · obtain ⟨account, haccount⟩ := hD.seeded payer mint program huses.2.2.2
    rw [createUseSeed, if_neg hrent, haccount]
    exact ⟨_, rfl⟩
  · obtain ⟨account, haccount⟩ := hD.account owner mint program
    rw [haccount]
    exact ⟨_, rfl⟩

theorem KnowsRents.rent_ne {g : Globals} (h : KnowsRents g) (program : Pubkey) : g.rent program ≠ noRent := by
  unfold Globals.rent
  split_ifs
  · exact h.2
  · exact h.1

variable (D payer owner mint program useSeed) in
/-- The instructions that create the account for some rent. -/
def Creates (o : Outcome (List Instruction)) : Prop :=
  ∃ rent instructions, createInstructions D rent payer owner mint program useSeed = .ret instructions ∧
    o = .ret instructions

/-- **A creation comes to its instructions**, whatever the others do while they keep the caches coherent
and the rents known. -/
theorem keeps_create_known (hD : Derives D) :
    (createAssociatedTokenAccountIdempotentFastUseSeed D payer owner mint program useSeed).Keeps
      (fun g => Coherent D g ∧ KnowsRents g) (Creates D payer owner mint program useSeed) := by
  by_cases huses : usesSeed mint program useSeed
  · unfold createAssociatedTokenAccountIdempotentFastUseSeed
    rw [if_pos huses]
    refine Prog.keeps_memo (fun g instructions hg hget => ?_) (fun g instructions hg hcreates => ?_)
      fun g hg => ⟨hg, Prog.keeps_lift ?_⟩
    · obtain ⟨rent, hrent⟩ := hg.1.instructions _ instructions hget
      exact ⟨rent, instructions, hrent, rfl⟩
    · obtain ⟨rent, instructions', hrent, h⟩ := hcreates
      obtain rfl := Outcome.ret.inj h
      exact ⟨hg.1.insertInstructions ⟨rent, hrent⟩, hg.2⟩
    · obtain ⟨instructions, hmakes⟩ := createInstructions_returns hD (hg.2.rent_ne program) payer owner mint
        program useSeed
      refine ⟨g.rent program, instructions, hmakes, ?_⟩
      rw [← hmakes, createInstructions, if_pos huses]
  · refine Prog.Keeps.mono ((keeps_create payer owner mint program useSeed).frame
      (keepsRents_create payer owner mint program useSeed) stable_knowsRents) ?_
    rintro o ⟨rent, rfl⟩
    obtain ⟨account, haccount⟩ := hD.account owner mint program
    have hmakes : createInstructions D rent payer owner mint program useSeed =
        .ret [createAssociatedTokenAccount payer account owner mint program] := by
      rw [createInstructions, if_neg huses, haccount]
      rfl
    exact ⟨rent, _, hmakes, hmakes⟩

/-- A creation takes four steps at most: two lookups, each with an insertion. -/
theorem create_endsWithin :
    (createAssociatedTokenAccountIdempotentFastUseSeed D payer owner mint program useSeed).EndsWithin 4 := by
  unfold createAssociatedTokenAccountIdempotentFastUseSeed
  split_ifs
  · have hcompute : (createAssociatedTokenAccountUseSeed D payer owner mint program >>= fun instructions =>
        Prog.lift (unwrapOk instructions)).EndsWithin 1 := fun g => Prog.endsWithin_lift _ 0
    exact (Prog.endsWithin_memo hcompute).mono (by decide)
  · have hata : (getAssociatedTokenAddressWithProgramIdFast D owner mint program).EndsWithin 2 :=
      Prog.endsWithin_memo (Prog.endsWithin_lift _ 0)
    exact Prog.endsWithin_memo (hata.bind fun account => Prog.endsWithin_ret _ 0)

/-! ### Calls that return -/

theorem SharedCall.answer_keeps (c : SharedCall) : (c.answer D).Keeps (Coherent D) fun _ => True := by
  have hmap : Prog.Keeps (Coherent D) (fun _ => True) ((fun _ => ([] : List Instruction)) <$> c.prog D) :=
    c.keeps.bind (fun _ _ => trivial) fun _ _ => trivial
  cases c with
  | create payer owner mint program useSeed =>
    exact (keeps_create payer owner mint program useSeed).mono fun _ _ => trivial
  | _ => exact hmap

theorem SharedCall.answer_keepsRents {c : SharedCall} (h : c.AnswersRents) :
    (c.answer D).Confined id KeepsRents := by
  have hmap := (SharedCall.keepsRents h : (c.prog D).Confined id KeepsRents).map fun _ => ([] : List Instruction)
  cases c with
  | create payer owner mint program useSeed => exact keepsRents_create payer owner mint program useSeed
  | _ => exact hmap

/-- An update at startup, an update that fails halfway, and creations. -/
def sampleStartup : ℕ → SharedCall
  | 0 => .updateRents (.ok 2039280) (.ok 2039280)
  | 1 => .updateRents (.ok 1019640) (.error (.other "timeout"))
  | _ => .create ⟨1⟩ ⟨1⟩ ⟨5⟩ tokenProgram true

end Create

end PumpTrade
