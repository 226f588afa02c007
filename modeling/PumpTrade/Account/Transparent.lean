import PumpTrade.Account.Coherent

/-!
# Transparent caches

The calls for addresses and compute budgets as threads over the shared maps, each call a thread of
its own, interleaved at every lookup and insertion.

* `CacheCall.gives`: each call comes to what it computes without a cache;
* `CacheCall.confined`: every step of a call reads and writes the call's own slot only;
* **`caches_transparent`**: so it is in every interleaving that starts from empty caches.
-/

namespace PumpTrade

open Base

/-- A call for an address or for compute budget instructions. -/
inductive CacheCall where
  | bondingCurvePda (mint : Pubkey)
  | bondingCurveV2Pda (mint : Pubkey)
  | creatorVaultPda (creator : Pubkey)
  | pumpFunUserVolumeAccumulatorPda (user : Pubkey)
  | pumpSwapUserVolumeAccumulatorPda (user : Pubkey)
  | associatedTokenAddress (walletAddress tokenMintAddress tokenProgramId : Pubkey) (useSeed : Bool)
  | computeBudget (unitPrice : UInt64) (unitLimit : UInt32)
  deriving DecidableEq, Repr

/-- What such a call returns. -/
inductive CacheResult where
  | pda (pda : Option Pubkey)
  | address (address : Pubkey)
  | instructions (instructions : List Instruction)
  deriving DecidableEq, Repr

/-- A place in one of the maps. -/
inductive CacheSlot where
  | pda (key : PdaCacheKey)
  | ata (key : AtaCacheKey)
  | computeBudget (key : ComputeBudgetCacheKey)
  deriving DecidableEq, Repr

/-- What is cached in a slot. -/
def Globals.stored (g : Globals) : CacheSlot → Option CacheResult
  | .pda key => (g.pdaCache key).map fun pda => .pda (some pda)
  | .ata key => (g.ataCache key).map .address
  | .computeBudget key => (g.computeBudgetCache key).map .instructions

namespace CacheCall

/-- The slot of a call. -/
def slot : CacheCall → CacheSlot
  | bondingCurvePda mint => .pda (.pumpFunBondingCurve mint)
  | bondingCurveV2Pda mint => .pda (.pumpFunBondingCurveV2 mint)
  | creatorVaultPda creator => .pda (.pumpFunCreatorVault creator)
  | pumpFunUserVolumeAccumulatorPda user => .pda (.pumpFunUserVolume user)
  | pumpSwapUserVolumeAccumulatorPda user => .pda (.pumpSwapUserVolume user)
  | associatedTokenAddress walletAddress tokenMintAddress tokenProgramId useSeed =>
    .ata { walletAddress, tokenMintAddress, tokenProgramId, useSeed }
  | computeBudget unitPrice unitLimit => .computeBudget { unitPrice, unitLimit }

variable (D : Derivations)

/-- The call with its cache. -/
def prog : CacheCall → Cached CacheResult
  | bondingCurvePda mint => .pda <$> PumpFun.getBondingCurvePda D mint
  | bondingCurveV2Pda mint => .pda <$> PumpFun.getBondingCurveV2Pda D mint
  | creatorVaultPda creator => .pda <$> PumpFun.getCreatorVaultPda D creator
  | pumpFunUserVolumeAccumulatorPda user => .pda <$> PumpFun.getUserVolumeAccumulatorPda D user
  | pumpSwapUserVolumeAccumulatorPda user => .pda <$> PumpSwap.getUserVolumeAccumulatorPda D user
  | associatedTokenAddress walletAddress tokenMintAddress tokenProgramId useSeed =>
    .address <$> getAssociatedTokenAddressWithProgramIdFastUseSeed D walletAddress tokenMintAddress
      tokenProgramId useSeed
  | computeBudget unitPrice unitLimit =>
    .instructions <$> cachedComputeBudgetInstructions unitPrice unitLimit

/-- What the call computes without a cache. -/
def uncached : CacheCall → Outcome CacheResult
  | bondingCurvePda mint =>
    .ret (.pda (D.tryFindProgramAddress [PumpFun.bondingCurveSeed, mint.toBytes] PumpFun.pumpfun))
  | bondingCurveV2Pda mint =>
    .ret (.pda (D.tryFindProgramAddress [PumpFun.bondingCurveV2Seed, mint.toBytes] PumpFun.pumpfun))
  | creatorVaultPda creator =>
    .ret (.pda (D.tryFindProgramAddress [PumpFun.creatorVaultSeed, creator.toBytes] PumpFun.pumpfun))
  | pumpFunUserVolumeAccumulatorPda user =>
    .ret (.pda (D.tryFindProgramAddress [userVolumeAccumulatorSeed, user.toBytes] PumpFun.pumpfun))
  | pumpSwapUserVolumeAccumulatorPda user =>
    .ret (.pda (D.tryFindProgramAddress [userVolumeAccumulatorSeed, user.toBytes] PumpSwap.ammProgram))
  | associatedTokenAddress walletAddress tokenMintAddress tokenProgramId useSeed =>
    .address <$> ataAddress D walletAddress tokenMintAddress tokenProgramId useSeed
  | computeBudget unitPrice unitLimit => .ret (.instructions (computeBudgetInstructions unitPrice unitLimit))

theorem slot_injective : Function.Injective slot := by
  intro c c' h
  cases c <;> cases c' <;> simp_all [slot]

variable {D}

/-- **Each call comes to what it computes without a cache**, and keeps the caches coherent. -/
theorem gives (c : CacheCall) : (c.prog D).Gives (Coherent D) (c.uncached D) := by
  cases c with
  | bondingCurvePda mint => exact (gives_getCachedPda (.pumpFunBondingCurve mint)).map _
  | bondingCurveV2Pda mint => exact (gives_getCachedPda (.pumpFunBondingCurveV2 mint)).map _
  | creatorVaultPda creator => exact (gives_getCachedPda (.pumpFunCreatorVault creator)).map _
  | pumpFunUserVolumeAccumulatorPda user => exact (gives_getCachedPda (.pumpFunUserVolume user)).map _
  | pumpSwapUserVolumeAccumulatorPda user => exact (gives_getCachedPda (.pumpSwapUserVolume user)).map _
  | associatedTokenAddress walletAddress tokenMintAddress tokenProgramId useSeed =>
    exact (gives_ata walletAddress tokenMintAddress tokenProgramId useSeed).map _
  | computeBudget unitPrice unitLimit => exact (gives_computeBudget unitPrice unitLimit).map _

/-- A change of one slot at most. -/
def Elsewhere (slot : CacheSlot) (g g' : Globals) : Prop :=
  ∀ other, other ≠ slot → g'.stored other = g.stored other

theorem elsewhere_insertPda (key : PdaCacheKey) (pda : Pubkey) (g : Globals) :
    Elsewhere (.pda key) g (g.insertPda key pda) := by
  intro other hother
  cases other with
  | pda key' =>
    have hkey : key' ≠ key := fun h => hother (by rw [h])
    simp [Globals.stored, Globals.insertPda, Function.update_of_ne hkey]
  | ata key' => rfl
  | computeBudget key' => rfl

theorem elsewhere_insertAta (key : AtaCacheKey) (ata : Pubkey) (g : Globals) :
    Elsewhere (.ata key) g (g.insertAta key ata) := by
  intro other hother
  cases other with
  | pda key' => rfl
  | ata key' =>
    have hkey : key' ≠ key := fun h => hother (by rw [h])
    simp [Globals.stored, Globals.insertAta, Function.update_of_ne hkey]
  | computeBudget key' => rfl

theorem elsewhere_insertComputeBudget (key : ComputeBudgetCacheKey) (instructions : List Instruction)
    (g : Globals) : Elsewhere (.computeBudget key) g (g.insertComputeBudget key instructions) := by
  intro other hother
  cases other with
  | pda key' => rfl
  | ata key' => rfl
  | computeBudget key' =>
    have hkey : key' ≠ key := fun h => hother (by rw [h])
    simp [Globals.stored, Globals.insertComputeBudget, Function.update_of_ne hkey]

theorem stored_pda_inj {key : PdaCacheKey} {g g' : Globals} (h : g.stored (.pda key) = g'.stored (.pda key)) :
    g.pdaCache key = g'.pdaCache key :=
  Option.map_injective (fun a b hab => by simpa using hab) h

theorem stored_ata_inj {key : AtaCacheKey} {g g' : Globals} (h : g.stored (.ata key) = g'.stored (.ata key)) :
    g.ataCache key = g'.ataCache key :=
  Option.map_injective (fun a b hab => by simpa using hab) h

theorem stored_computeBudget_inj {key : ComputeBudgetCacheKey} {g g' : Globals}
    (h : g.stored (.computeBudget key) = g'.stored (.computeBudget key)) :
    g.computeBudgetCache key = g'.computeBudgetCache key :=
  Option.map_injective (fun a b hab => by simpa using hab) h

theorem confined_getCachedPda (key : PdaCacheKey) (compute : Option Pubkey) :
    (getCachedPda key compute).Confined (fun g => g.stored (.pda key)) (Elsewhere (.pda key)) := by
  refine (Prog.confined_read (fun g other _ => rfl) fun g g' h => stored_pda_inj h).bind fun found => ?_
  cases found with
  | some pda => trivial
  | none =>
    cases compute with
    | none => trivial
    | some pda => exact (Prog.confined_modify (elsewhere_insertPda key pda)).bind fun _ => trivial

/-- **Every step of a call** reads and writes the call's own slot only. -/
theorem confined (c : CacheCall) :
    (c.prog D).Confined (fun g => g.stored c.slot) (Elsewhere c.slot) := by
  cases c with
  | bondingCurvePda mint => exact (confined_getCachedPda (.pumpFunBondingCurve mint) _).map _
  | bondingCurveV2Pda mint => exact (confined_getCachedPda (.pumpFunBondingCurveV2 mint) _).map _
  | creatorVaultPda creator => exact (confined_getCachedPda (.pumpFunCreatorVault creator) _).map _
  | pumpFunUserVolumeAccumulatorPda user => exact (confined_getCachedPda (.pumpFunUserVolume user) _).map _
  | pumpSwapUserVolumeAccumulatorPda user => exact (confined_getCachedPda (.pumpSwapUserVolume user) _).map _
  | associatedTokenAddress walletAddress tokenMintAddress tokenProgramId useSeed =>
    exact (Prog.confined_memo (fun g other _ => rfl) (fun g g' h => stored_ata_inj h)
      (fun g ata => elsewhere_insertAta _ ata g) (Prog.confined_lift _)).map _
  | computeBudget unitPrice unitLimit =>
    exact (Prog.confined_memo (fun g other _ => rfl) (fun g g' h => stored_computeBudget_inj h)
      (fun g is => elsewhere_insertComputeBudget _ is g) (Prog.confined_ret _)).map _

/-- What is cached for a call is the value of its derivation, and no failure is cached. -/
theorem stored_slot {g : Globals} (hg : Coherent D g) {c : CacheCall} {r : CacheResult}
    (h : g.stored c.slot = some r) : c.uncached D = .ret r ∧ r ≠ .pda none := by
  have hpda : ∀ key : PdaCacheKey, g.stored (.pda key) = some r →
      Outcome.ret (CacheResult.pda (key.derive D)) = .ret r ∧ r ≠ .pda none := by
    intro key hkey
    obtain ⟨pda, hpda, rfl⟩ := Option.map_eq_some_iff.mp hkey
    rw [hg.pda key pda hpda]
    exact ⟨rfl, by simp⟩
  cases c with
  | bondingCurvePda mint => exact hpda _ h
  | bondingCurveV2Pda mint => exact hpda _ h
  | creatorVaultPda creator => exact hpda _ h
  | pumpFunUserVolumeAccumulatorPda user => exact hpda _ h
  | pumpSwapUserVolumeAccumulatorPda user => exact hpda _ h
  | associatedTokenAddress walletAddress tokenMintAddress tokenProgramId useSeed =>
    obtain ⟨ata, hata, rfl⟩ := Option.map_eq_some_iff.mp h
    have hderive := hg.ata _ ata hata
    exact ⟨congrArg (CacheResult.address <$> ·) hderive, by simp⟩
  | computeBudget unitPrice unitLimit =>
    obtain ⟨instructions, hinstructions, rfl⟩ := Option.map_eq_some_iff.mp h
    rw [hg.computeBudget _ instructions hinstructions]
    exact ⟨rfl, by simp⟩

end CacheCall

/-- **The caches are transparent.** In every interleaving of calls over caches that were empty at
first, each call that ends comes to what it computes without a cache. Its steps read and write the
slot of the call alone, no two different calls share a slot, and a slot holds the value of its call,
never a failure. -/
theorem caches_transparent {ι : Type} [DecidableEq ι] (D : Derivations) (calls : ι → CacheCall)
    (acts : List ι) (t : Threads ι Globals CacheResult)
    (h : run Threads.step ⟨fun i => (calls i).prog D, .initial⟩ acts = some t) :
    (∀ i o, t.Ended i o → o = (calls i).uncached D) ∧
    (∀ c : CacheCall, (c.prog D).Confined (fun g => g.stored c.slot) (CacheCall.Elsewhere c.slot)) ∧
    (∀ c c' : CacheCall, c.slot = c'.slot → c = c') ∧
    ∀ (c : CacheCall) (r : CacheResult), t.shared.stored c.slot = some r →
      c.uncached D = .ret r ∧ r ≠ .pda none := by
  have hgives : ∀ i, ((calls i).prog D).Keeps (Coherent D) fun o => o = (calls i).uncached D :=
    fun i => (calls i).gives
  obtain ⟨hshared, hprog⟩ := Threads.run_keeps (P := fun i o => o = (calls i).uncached D)
    (t := ⟨fun i => (calls i).prog D, .initial⟩) (coherent_initial D) hgives h
  refine ⟨fun i o hi => hi.of_keeps (P := fun i o => o = (calls i).uncached D) (hprog i), fun c => c.confined,
    fun c c' hslot => ?_, fun c r hstored => ?_⟩
  · exact CacheCall.slot_injective hslot
  · exact CacheCall.stored_slot hshared hstored

/-- Two calls for the same address race: both look it up before either inserts it. -/
theorem caches_transparent_race : ∃ t, run Threads.step
      ⟨fun _ : Bool => (CacheCall.bondingCurvePda ⟨5⟩).prog sampleDerivations, .initial⟩
      [false, true, false, true] = some t ∧
    ∀ i o, t.Ended i o → o = (CacheCall.bondingCurvePda ⟨5⟩).uncached sampleDerivations := by
  obtain ⟨t, ht⟩ : ∃ t, run Threads.step
      ⟨fun _ : Bool => (CacheCall.bondingCurvePda ⟨5⟩).prog sampleDerivations, .initial⟩
      [false, true, false, true] = some t := ⟨_, rfl⟩
  exact ⟨t, ht, (caches_transparent sampleDerivations (fun _ => .bondingCurvePda ⟨5⟩) _ t ht).1⟩

end PumpTrade
