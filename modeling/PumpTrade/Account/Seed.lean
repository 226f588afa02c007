import Mathlib.Data.Nat.ModEq
import Mathlib.Tactic.IntervalCases
import PumpTrade.Account.Coherent
import PumpTrade.Chain.Pool

/-!
# Addresses with a seed

The seed of a mint's account is the lower half of the mint's hash, in eight hexadecimal digits; the
rest of the mint does not enter the address.

* `eq_of_digits`: a number is known by its digits;
* `mintSeed_inj`: the seed gives back the lower half of the hash, and nothing more;
* **`seedAddress_ne_iff`**: two mints have different accounts exactly when the lower halves of their
  hashes differ;
* `seedAddress_collides`: two mints with one account.
-/

namespace PumpTrade

open Base

/-! ## Digits -/

/-- A number is known, up to a power of the base, by its digits below that power. -/
theorem eq_of_digits {b m n : ℕ} {count : ℕ} (h : ∀ k < count, m / b ^ k % b = n / b ^ k % b) :
    m % b ^ count = n % b ^ count := by
  induction count with
  | zero => rw [pow_zero, Nat.mod_one, Nat.mod_one]
  | succ count ih =>
    have hlow := ih fun k hk => h k (Nat.lt_succ_of_lt hk)
    have hdigit := h count (Nat.lt_succ_self count)
    rw [Nat.mod_pow_succ, Nat.mod_pow_succ, hlow, hdigit]

theorem toNat_hexDigit {a : UInt8} (ha : a.toNat < 16) :
    (hexDigit a).toNat = if a.toNat ≤ 9 then 48 + a.toNat else 87 + a.toNat := by
  unfold hexDigit
  by_cases hdigit : a.toNat ≤ 9
  · rw [if_pos hdigit, if_pos (UInt8.le_iff_toNat_le.mpr hdigit), UInt8.toNat_add]
    exact Nat.mod_eq_of_lt (show 48 + a.toNat < 256 by omega)
  · have hten : (10 : UInt8) ≤ a := UInt8.le_iff_toNat_le.mpr (Nat.lt_of_not_le hdigit)
    rw [if_neg hdigit, if_neg (mt UInt8.le_iff_toNat_le.mp hdigit), UInt8.toNat_add,
      UInt8.toNat_sub_of_le _ _ hten]
    change (97 + (a.toNat - 10)) % 256 = 87 + a.toNat
    omega

theorem hexDigit_inj {a b : UInt8} (ha : a.toNat < 16) (hb : b.toNat < 16) (h : hexDigit a = hexDigit b) :
    a.toNat = b.toNat := by
  have hchar := congrArg UInt8.toNat h
  rw [toNat_hexDigit ha, toNat_hexDigit hb] at hchar
  split_ifs at hchar <;> omega

/-! ## Seeds -/

variable (D : Derivations)

/-- The lower half of the hash of a mint. -/
def mintHash (mint : Pubkey) : UInt32 := (D.fnvHash mint.toBytes &&& 0xffffffff).toUInt32

/-- The digit of a number that the loop writes at place `i`. -/
def seedNibble (v : UInt32) (i : ℕ) : UInt8 := ((v >>> (28 - UInt32.ofNat i * 4)) &&& 0xf).toUInt8

theorem mintSeed_eq (mint : Pubkey) :
    mintSeed D mint = (List.range 8).map fun i => hexDigit (seedNibble (mintHash D mint) i) := rfl

@[simp] theorem length_mintSeed (mint : Pubkey) : (mintSeed D mint).length = 8 := by
  rw [mintSeed_eq, List.length_map, List.length_range]

theorem toNat_seedNibble (v : UInt32) {i : ℕ} (hi : i < 8) :
    (seedNibble v i).toNat = v.toNat / 16 ^ (7 - i) % 16 := by
  have hmask : ∀ n, n % 256 &&& 15 = n % 16 := fun n =>
    calc n % 256 &&& 15 = n % 256 % 16 := Nat.and_two_pow_sub_one_eq_mod _ 4
      _ = n % 16 := Nat.mod_mod_of_dvd n (by decide)
  unfold seedNibble
  interval_cases i <;> simp [Nat.shiftRight_eq_div_pow, hmask]

variable {D}

/-- **The seed gives back the lower half of the hash.** -/
theorem mintSeed_inj {mint mint' : Pubkey} :
    mintSeed D mint = mintSeed D mint' ↔ mintHash D mint = mintHash D mint' := by
  refine ⟨fun h => ?_, fun h => by rw [mintSeed_eq, mintSeed_eq, h]⟩
  rw [mintSeed_eq, mintSeed_eq, List.map_inj_left] at h
  have hdigits : ∀ k < 8, (mintHash D mint).toNat / 16 ^ k % 16 = (mintHash D mint').toNat / 16 ^ k % 16 := by
    intro k hk
    have hi : 7 - k < 8 := by omega
    have hdigit := toNat_seedNibble (mintHash D mint) hi
    have hdigit' := toNat_seedNibble (mintHash D mint') hi
    rw [show 7 - (7 - k) = k by omega] at hdigit hdigit'
    rw [← hdigit, ← hdigit']
    exact hexDigit_inj (hdigit ▸ Nat.mod_lt _ (by decide)) (hdigit' ▸ Nat.mod_lt _ (by decide))
      (h (7 - k) (List.mem_range.mpr hi))
  have hmod : (mintHash D mint).toNat % 2 ^ 32 = (mintHash D mint').toNat % 2 ^ 32 :=
    eq_of_digits (b := 16) hdigits
  rw [Nat.mod_eq_of_lt (mintHash D mint).toNat_lt, Nat.mod_eq_of_lt (mintHash D mint').toNat_lt] at hmod
  exact UInt32.toNat_inj.mp hmod

/-! ## Addresses -/

variable (D) in
/-- For one base and owner, different seeds of the length that is used give different addresses. -/
def SeedsApart : Prop :=
  ∀ base owner account seed seed', seed.length = 8 → seed'.length = 8 →
    D.createWithSeed base seed owner = .ok account → D.createWithSeed base seed' owner = .ok account → seed = seed'

/-- The instructions that create an account all open the account of the address. -/
theorem opens_createUseSeed {payer owner mint tokenProgramId account : Pubkey} {rent : UInt64}
    {instructions : List Instruction} (hseed : usesSeed mint tokenProgramId true)
    (haccount : getAssociatedTokenAddressWithProgramIdUseSeed D payer mint tokenProgramId = .ok account)
    (h : createUseSeed D rent payer owner mint tokenProgramId = .ok instructions) :
    instructions ≠ [] ∧ ∀ i ∈ instructions, i.opens = some account := by
  unfold createUseSeed at h
  split_ifs at h with hrent
  rw [← getAssociatedTokenAddressWithProgramIdUseSeed, haccount] at h
  obtain rfl := Except.ok.inj h
  have hinit : (initializeAccount3 tokenProgramId account mint owner).opens = some account := by
    rcases hseed.2.2.2 with rfl | rfl
    · rfl
    · rfl
  simp [seedInstructions, hinit]

theorem seedsApart_sample : SeedsApart sampleDerivations := by
  intro base owner account seed seed' hlength hlength' h h'
  have hbits := congrArg Pubkey.bits ((Except.ok.inj h).trans (Except.ok.inj h').symm)
  have hmod := congrArg BitVec.toNat hbits
  rw [BitVec.toNat_ofNat, BitVec.toNat_ofNat] at hmod
  have hsum := Nat.ModEq.add_left_cancel' _ (Nat.ModEq.add_right_cancel' _ hmod)
  have hlt := ofLeBytes_lt seed
  have hlt' := ofLeBytes_lt seed'
  rw [hlength] at hlt
  rw [hlength'] at hlt'
  have heq : ofLeBytes seed = ofLeBytes seed' := Nat.ModEq.eq_of_lt_of_lt hsum
    (hlt.trans (by decide)) (hlt'.trans (by decide))
  rw [← leBytes_ofLeBytes seed, ← leBytes_ofLeBytes seed', heq, hlength, hlength']

/-- **Different accounts for different mints**, exactly where the lower halves of their hashes
differ. -/
theorem seedAddress_ne_iff (hapart : SeedsApart D) {wallet mint mint' tokenProgramId account account' : Pubkey}
    (hseed : usesSeed mint tokenProgramId true) (hseed' : usesSeed mint' tokenProgramId true)
    (h : getAssociatedTokenAddressWithProgramIdUseSeed D wallet mint tokenProgramId = .ok account)
    (h' : getAssociatedTokenAddressWithProgramIdUseSeed D wallet mint' tokenProgramId = .ok account') :
    (account ≠ account' ↔ mintHash D mint ≠ mintHash D mint') ∧
      ∀ rent rent' owner owner' instructions instructions',
        createUseSeed D rent wallet owner mint tokenProgramId = .ok instructions →
        createUseSeed D rent' wallet owner' mint' tokenProgramId = .ok instructions' →
        ((∀ i ∈ instructions, ∀ i' ∈ instructions', i.opens ≠ i'.opens) ↔ mintHash D mint ≠ mintHash D mint') := by
  have hiff : account ≠ account' ↔ mintHash D mint ≠ mintHash D mint' := by
    rw [ne_eq, ne_eq, not_iff_not, ← mintSeed_inj]
    constructor
    · rintro rfl
      exact hapart _ _ _ _ _ (length_mintSeed D mint) (length_mintSeed D mint') h h'
    · intro hsame
      unfold getAssociatedTokenAddressWithProgramIdUseSeed at h h'
      rw [hsame, h'] at h
      exact (Except.ok.inj h).symm
  refine ⟨hiff, fun rent rent' owner owner' instructions instructions' hmake hmake' => ?_⟩
  obtain ⟨hne, hopens⟩ := opens_createUseSeed hseed h hmake
  obtain ⟨hne', hopens'⟩ := opens_createUseSeed hseed' h' hmake'
  rw [← hiff]
  constructor
  · intro hdistinct heq
    refine hdistinct _ (List.head_mem hne) _ (List.head_mem hne') ?_
    rw [hopens _ (List.head_mem hne), hopens' _ (List.head_mem hne'), heq]
  · intro hdistinct i hi i' hi'
    rw [hopens i hi, hopens' i' hi']
    exact fun heq => hdistinct (Option.some.inj heq)

/-- Two mints with different accounts. -/
theorem seedAddress_ne_sample : ∃ account account',
    getAssociatedTokenAddressWithProgramIdUseSeed sampleDerivations ⟨1⟩ ⟨5⟩ tokenProgram = .ok account ∧
      getAssociatedTokenAddressWithProgramIdUseSeed sampleDerivations ⟨1⟩ ⟨6⟩ tokenProgram = .ok account' ∧
      account ≠ account' :=
  ⟨_, _, rfl, rfl,
    (seedAddress_ne_iff seedsApart_sample (by decide) (by decide) rfl rfl).1.mpr (by decide +kernel)⟩

/-- **Two mints with one account**: the lower halves of their hashes are the same. -/
theorem seedAddress_collides :
    SeedsApart sampleDerivations ∧ (⟨241538241090⟩ : Pubkey) ≠ ⟨10151777210⟩ ∧
      usesSeed ⟨241538241090⟩ tokenProgram true ∧ usesSeed ⟨10151777210⟩ tokenProgram true ∧
      ∃ account,
        getAssociatedTokenAddressWithProgramIdUseSeed sampleDerivations ⟨1⟩ ⟨241538241090⟩ tokenProgram =
          .ok account ∧
        getAssociatedTokenAddressWithProgramIdUseSeed sampleDerivations ⟨1⟩ ⟨10151777210⟩ tokenProgram =
          .ok account := by
  refine ⟨seedsApart_sample, by decide, by decide, by decide, _, rfl, ?_⟩
  decide +kernel

end PumpTrade
