import PumpTrade.Account.FastFn
import PumpTrade.Exec.Build

/-!
# Coherent caches

The caches are coherent when each entry is what its key stands for. An entry for the creation of an
account may have been made for a rent of the past, but its address does not depend on the rent.

* `gives_getCachedPda`, `gives_ata`, `gives_computeBudget`: a call of an address or of a compute
  budget comes to what it computes without a cache, in every coherent state;
* `keeps_create`: the creation of an account comes to what it is without a cache for some rent;
* all calls keep the caches coherent.
-/

namespace PumpTrade

open Base

/-! ## The compute budget -/

/-- `compute_budget_instructions` with its cache. -/
def cachedComputeBudgetInstructions (unitPrice : UInt64) (unitLimit : UInt32) : Cached (List Instruction) :=
  let key : ComputeBudgetCacheKey := { unitPrice, unitLimit }
  Prog.memo (fun g => g.computeBudgetCache key) (Globals.insertComputeBudget key)
    (return computeBudgetInstructions unitPrice unitLimit)

/-! ## The invariant -/

variable (D : Derivations)

/-- The address that a key stands for. -/
def AtaCacheKey.derive (key : AtaCacheKey) : Outcome Pubkey :=
  ataAddress D key.walletAddress key.tokenMintAddress key.tokenProgramId key.useSeed

/-- The instructions that a key stands for. -/
def InstructionCacheKey.Makes : InstructionCacheKey → List Instruction → Prop
  | createAssociatedTokenAccount payer owner mint tokenProgram useSeed, instructions =>
    ∃ rent, createInstructions D rent payer owner mint tokenProgram useSeed = .ret instructions
  | closeWsolAccount payer wsolTokenAccount, instructions =>
    instructions = closeWsolInstructions payer wsolTokenAccount

/-- Each entry is what its key stands for. -/
structure Coherent (g : Globals) : Prop where
  instructions : ∀ key instructions, g.instructionCache key = some instructions → key.Makes D instructions
  pda : ∀ key pda, g.pdaCache key = some pda → key.derive D = some pda
  ata : ∀ key ata, g.ataCache key = some ata → key.derive D = .ret ata
  computeBudget : ∀ key instructions, g.computeBudgetCache key = some instructions →
    instructions = computeBudgetInstructions key.unitPrice key.unitLimit

theorem coherent_initial : Coherent D .initial where
  instructions := nofun
  pda := nofun
  ata := nofun
  computeBudget := nofun

variable {D} {g : Globals}

theorem update_eq_some {κ ν : Type} [DecidableEq κ] {m : κ → Option ν} {key key' : κ} {v w : ν}
    (h : Function.update m key (some v) key' = some w) : (key' = key ∧ w = v) ∨ m key' = some w := by
  by_cases hkey : key' = key
  · subst hkey
    rw [Function.update_self] at h
    exact Or.inl ⟨rfl, (Option.some.inj h).symm⟩
  · rw [Function.update_of_ne hkey] at h
    exact Or.inr h

theorem Coherent.insertInstructions (h : Coherent D g) {key : InstructionCacheKey}
    {instructions : List Instruction} (hkey : key.Makes D instructions) :
    Coherent D (g.insertInstructions key instructions) :=
  { h with
    instructions := fun key' instructions' hget => by
      rcases update_eq_some hget with ⟨rfl, rfl⟩ | hget
      · exact hkey
      · exact h.instructions key' instructions' hget }

theorem Coherent.insertPda (h : Coherent D g) {key : PdaCacheKey} {pda : Pubkey}
    (hkey : key.derive D = some pda) : Coherent D (g.insertPda key pda) :=
  { h with
    pda := fun key' pda' hget => by
      rcases update_eq_some hget with ⟨rfl, rfl⟩ | hget
      · exact hkey
      · exact h.pda key' pda' hget }

theorem Coherent.insertAta (h : Coherent D g) {key : AtaCacheKey} {ata : Pubkey}
    (hkey : key.derive D = .ret ata) : Coherent D (g.insertAta key ata) :=
  { h with
    ata := fun key' ata' hget => by
      rcases update_eq_some hget with ⟨rfl, rfl⟩ | hget
      · exact hkey
      · exact h.ata key' ata' hget }

theorem Coherent.insertComputeBudget (h : Coherent D g) {key : ComputeBudgetCacheKey} :
    Coherent D (g.insertComputeBudget key (computeBudgetInstructions key.unitPrice key.unitLimit)) :=
  { h with
    computeBudget := fun key' instructions hget => by
      rcases update_eq_some hget with ⟨rfl, rfl⟩ | hget
      · rfl
      · exact h.computeBudget key' instructions hget }

/-! ## The calls -/

/-- **A cached address is the derived one**; where the derivation fails nothing is cached. -/
theorem gives_getCachedPda (key : PdaCacheKey) :
    (getCachedPda key (key.derive D)).Gives (Coherent D) (.ret (key.derive D)) := by
  have hread : (Prog.read fun g : Globals => g.pdaCache key).Keeps (Coherent D)
      fun o => ∃ found, o = .ret found ∧ ∀ pda, found = some pda → key.derive D = some pda :=
    Prog.keeps_read fun g hg => ⟨g.pdaCache key, rfl, fun pda hpda => hg.pda key pda hpda⟩
  refine Prog.Keeps.bind hread (fun found hfound => ?_) (by simp)
  obtain ⟨_, ⟨⟩, hcached⟩ := hfound
  cases found with
  | some pda =>
    rw [hcached pda rfl]
    exact Prog.gives_ret (some pda)
  | none =>
    cases hderive : key.derive D with
    | none => exact Prog.gives_ret none
    | some pda => exact fun g hg => ⟨hg.insertPda hderive, rfl⟩

/-- **A cached token account address is the derived one.** -/
theorem gives_ata (walletAddress tokenMintAddress tokenProgramId : Pubkey) (useSeed : Bool) :
    (getAssociatedTokenAddressWithProgramIdFastUseSeed D walletAddress tokenMintAddress tokenProgramId
      useSeed).Gives (Coherent D) (ataAddress D walletAddress tokenMintAddress tokenProgramId useSeed) := by
  refine Prog.keeps_memo (fun g ata hg hget => ?_) (fun g ata hg hata => ?_) (Prog.gives_lift _)
  · exact (hg.ata _ ata hget).symm
  · exact hg.insertAta hata.symm

theorem gives_computeBudget (unitPrice : UInt64) (unitLimit : UInt32) :
    (cachedComputeBudgetInstructions unitPrice unitLimit).Gives (Coherent D)
      (.ret (computeBudgetInstructions unitPrice unitLimit)) := by
  refine Prog.keeps_memo (fun g instructions hg hget => ?_) (fun g instructions hg heq => ?_) rfl
  · rw [hg.computeBudget _ instructions hget]
  · obtain rfl := Outcome.ret.inj heq
    exact hg.insertComputeBudget

theorem not_usesSeed_false (mint tokenProgramId : Pubkey) : ¬ usesSeed mint tokenProgramId false := by
  simp [usesSeed]

theorem ataAddress_false (walletAddress tokenMintAddress tokenProgramId : Pubkey) :
    ataAddress D walletAddress tokenMintAddress tokenProgramId false =
      getAssociatedTokenAddressWithProgramId D walletAddress tokenMintAddress tokenProgramId :=
  if_neg (not_usesSeed_false _ _)

theorem ataAddress_congr {mint tokenProgramId : Pubkey} {useSeed useSeed' : Bool}
    (h : usesSeed mint tokenProgramId useSeed ↔ usesSeed mint tokenProgramId useSeed') (walletAddress : Pubkey) :
    ataAddress D walletAddress mint tokenProgramId useSeed =
      ataAddress D walletAddress mint tokenProgramId useSeed' := by
  unfold ataAddress
  by_cases huses : usesSeed mint tokenProgramId useSeed'
  · rw [if_pos (h.mpr huses), if_pos huses]
  · rw [if_neg (mt h.mp huses), if_neg huses]

variable (D) in
/-- Two derivations of an owner's account come to one address only if they are of the same mint and
token program, and both or neither use a seed. -/
def Separates (owner mint tokenProgramId : Pubkey) (useSeed : Bool) (mint' tokenProgramId' : Pubkey)
    (useSeed' : Bool) : Prop :=
  ∀ account, ataAddress D owner mint tokenProgramId useSeed = .ret account →
    ataAddress D owner mint' tokenProgramId' useSeed' = .ret account →
      mint = mint' ∧ tokenProgramId = tokenProgramId' ∧
        (usesSeed mint tokenProgramId useSeed ↔ usesSeed mint' tokenProgramId' useSeed')

/-- **When another derivation comes to a known address**, where derivations are distinct. -/
theorem Separates.ret_iff {owner mint tokenProgramId mint' tokenProgramId' account : Pubkey}
    {useSeed useSeed' : Bool}
    (hseparates : Separates D owner mint tokenProgramId useSeed mint' tokenProgramId' useSeed')
    (h : ataAddress D owner mint tokenProgramId useSeed = .ret account) :
    ataAddress D owner mint' tokenProgramId' useSeed' = .ret account ↔
      mint = mint' ∧ tokenProgramId = tokenProgramId' ∧
        (usesSeed mint tokenProgramId useSeed ↔ usesSeed mint' tokenProgramId' useSeed') := by
  constructor
  · exact hseparates account h
  · rintro ⟨rfl, rfl, hiff⟩
    rw [← ataAddress_congr hiff, h]

/-- **A created account is the one that is created without a cache**, for some rent. -/
theorem keeps_create (payer owner mint tokenProgramId : Pubkey) (useSeed : Bool) :
    (createAssociatedTokenAccountIdempotentFastUseSeed D payer owner mint tokenProgramId useSeed).Keeps
      (Coherent D)
      fun o => ∃ rent, o = createInstructions D rent payer owner mint tokenProgramId useSeed := by
  have hcached : ∀ compute : Cached (List Instruction),
      compute.Keeps (Coherent D) (fun o => ∃ rent,
        o = createInstructions D rent payer owner mint tokenProgramId useSeed) →
      (getCachedInstructions (.createAssociatedTokenAccount payer owner mint tokenProgramId useSeed)
        compute).Keeps (Coherent D) fun o => ∃ rent,
          o = createInstructions D rent payer owner mint tokenProgramId useSeed := by
    intro compute hcompute
    refine Prog.keeps_memo (fun g instructions hg hget => ?_) (fun g instructions hg hmakes => ?_) hcompute
    · obtain ⟨rent, hrent⟩ := hg.instructions _ instructions hget
      exact ⟨rent, hrent.symm⟩
    · obtain ⟨rent, hrent⟩ := hmakes
      exact hg.insertInstructions ⟨rent, hrent.symm⟩
  unfold createAssociatedTokenAccountIdempotentFastUseSeed createInstructions at *
  by_cases hseed : usesSeed mint tokenProgramId useSeed
  · simp only [if_pos hseed] at hcached ⊢
    refine hcached _ fun g hg => ⟨hg, ?_⟩
    exact Prog.keeps_lift ⟨g.rent tokenProgramId, rfl⟩
  · simp only [if_neg hseed] at hcached ⊢
    refine hcached _ (Prog.Keeps.mono ?_ fun o ho => ⟨noRent, ho⟩)
    rw [← ataAddress_false]
    exact (gives_ata owner mint tokenProgramId false).bind fun address _ => Prog.gives_ret _

theorem gives_closeWsol (payer wsolTokenAccount : Pubkey) :
    (getCachedCloseWsol payer wsolTokenAccount).Gives (Coherent D)
      (.ret (closeWsolInstructions payer wsolTokenAccount)) := by
  refine Prog.keeps_memo (fun g instructions hg hget => ?_) (fun g instructions hg heq => ?_) rfl
  · rw [hg.instructions _ instructions hget]
  · exact hg.insertInstructions (Outcome.ret.inj heq)

theorem keeps_updateRents (rent rent2022 : Except Error UInt64) :
    (updateRents rent rent2022).Keeps (Coherent D) fun _ => True := by
  cases rent with
  | error e => trivial
  | ok rent =>
    refine fun g hg => ⟨{ hg with }, ?_⟩
    cases rent2022 with
    | error e => trivial
    | ok rent2022 => exact fun g hg => ⟨{ hg with }, trivial⟩

end PumpTrade
