import Mathlib.Data.List.Sort
import PumpTrade.Instr.PoolParams

/-!
# Searches for pools

`find_by_base_mint`, `find_by_quote_mint` and `find_by_mint` of `instruction/utils/pumpswap.rs`. The
node compares the bytes at an offset of each account; what it returns is decoded, and the pool with
the largest supply is taken.

* `findByFilter` and its two instances; `decodeScanned`: what is read of an account that the node
  returned;
* `decodeScanned_eq_some_iff`: the data that is decoded;
* `matches_baseMint_iff`, `matches_quoteMint_iff`: the offsets are those of the decoded mints;
* **`poolDecode_exact`**: both together, with the round trips.
-/

namespace PumpTrade

open Base

/-! ## Texts -/

/-- The digits of base 58. -/
def base58Alphabet : List Char := "123456789ABCDEFGHJKLMNPQRSTUVWXYZabcdefghijkmnopqrstuvwxyz".toList

/-- The digits of a number in base 58, without leading zeros. -/
def base58Digits : (count : ℕ) → ℕ → List Char
  | 0, _ => []
  | count + 1, n => if n = 0 then [] else base58Digits count (n / 58) ++ [base58Alphabet.getD (n % 58) '1']

/-- A key as text; each leading zero byte is a digit of its own. -/
def Pubkey.toText (key : Pubkey) : String :=
  String.ofList ((key.toBytes.takeWhile (· = 0)).map (fun _ => '1') ++ base58Digits 44 key.bits.toNat)

/-! ## The search -/

/-- `RpcFilterType::Memcmp`: the data has these bytes at an offset. -/
structure Memcmp where
  offset : ℕ
  bytes : List UInt8
  deriving DecidableEq, Repr

/-- The data has the bytes of the filter at its offset. -/
def Memcmp.Matches (filter : Memcmp) (data : List UInt8) : Prop :=
  (data.drop filter.offset).take filter.bytes.length = filter.bytes

instance (filter : Memcmp) (data : List UInt8) : Decidable (filter.Matches data) :=
  inferInstanceAs (Decidable (_ = _))

namespace PumpSwap

/-- The answers of a node about the accounts of a program that pass all filters. -/
abbrev ProgramAccounts : Type := Pubkey → List Memcmp → Except Error (List (Pubkey × ChainAccount))

/-- What is read of the data of an account that the node returned. -/
def decodeScanned (data : List UInt8) : Option Pool :=
  if 8 < data.length then poolDecode (data.drop 8) else none

/-- The pools among the accounts that a node returned. -/
def decodeAccounts (accounts : List (Pubkey × ChainAccount)) : List (Pubkey × Pool) :=
  accounts.filterMap fun a => (decodeScanned a.2.data).map fun pool => (a.1, pool)

/-- The pool with the largest supply among those that pass the filter, the first of equals. -/
def findByFilter (getProgramAccounts : ProgramAccounts) (filter : Memcmp) (label : String) (mint : Pubkey) :
    Except Error (Pubkey × Pool) :=
  match getProgramAccounts ammProgram [filter] with
  | .error e => .error e
  | .ok accounts =>
    if accounts.isEmpty then .error (.other ("No pool found for mint " ++ mint.toText))
    else
      match (decodeAccounts accounts).mergeSort fun a b => b.2.lpSupply ≤ a.2.lpSupply with
      | [] => .error (.other ("No valid pool decoded for " ++ label ++ " " ++ mint.toText ++ " (found " ++
          toString accounts.length ++ " accounts but all decode failed)"))
      | first :: _ => .ok first

/-- Pools of a base mint, and of a quote mint. -/
def baseMintFilter (baseMint : Pubkey) : Memcmp := ⟨43, baseMint.toBytes⟩

def quoteMintFilter (quoteMint : Pubkey) : Memcmp := ⟨75, quoteMint.toBytes⟩

/-- The pool of a base mint with the largest supply. -/
def findByBaseMint (getProgramAccounts : ProgramAccounts) (baseMint : Pubkey) : Except Error (Pubkey × Pool) :=
  findByFilter getProgramAccounts (baseMintFilter baseMint) "mint" baseMint

/-- The pool of a quote mint with the largest supply. -/
def findByQuoteMint (getProgramAccounts : ProgramAccounts) (quoteMint : Pubkey) : Except Error (Pubkey × Pool) :=
  findByFilter getProgramAccounts (quoteMintFilter quoteMint) "quote_mint" quoteMint

/-- The pool of a mint as its base, or else as its quote. -/
def findByMint (getProgramAccounts : ProgramAccounts) (mint : Pubkey) : Except Error (Pubkey × Pool) :=
  match findByBaseMint getProgramAccounts mint with
  | .ok found => .ok found
  | .error _ =>
    match findByQuoteMint getProgramAccounts mint with
    | .ok found => .ok found
    | .error _ => .error (.other ("No pool found for mint " ++ mint.toText))

/-! ## What the filters select -/

/-- The scan strips the discriminator of every account that is long enough for a pool. -/
theorem decodeScanned_eq_some_iff {data : List UInt8} {pool : Pool} :
    decodeScanned data = some pool ↔ poolDecode (data.drop 8) = some pool := by
  unfold decodeScanned
  by_cases hlong : 8 < data.length
  · rw [if_pos hlong]
  · rw [if_neg hlong]
    refine iff_of_false nofun fun h => ?_
    have hlength := (exists_poolDecode_iff.mp ⟨pool, h⟩).1
    rw [List.length_drop] at hlength
    omega

theorem toBytes_inj {key key' : Pubkey} : key.toBytes = key'.toBytes ↔ key = key' := by
  refine ⟨fun h => ?_, congrArg _⟩
  have hdecode := Codec.pubkey.decode_encode key
  change Codec.pubkey.decode key.toBytes = some key at hdecode
  rw [h] at hdecode
  exact (Option.some.inj ((Codec.pubkey.decode_encode key').symm.trans hdecode)).symm

theorem length_toBytes (key : Pubkey) : key.toBytes.length = 32 := Codec.pubkey.length_encode key

variable {data : List UInt8} {pool : Pool}

/-- Behind a discriminator the first mint is at the offset of the search by base mint. -/
theorem take_drop_baseMint (h : poolDecode (data.drop 8) = some pool) :
    (data.drop 43).take 32 = pool.baseMint.toBytes := by
  obtain ⟨rest, hrest⟩ := poolDecode_eq_some_iff.mp h
  rw [show data.drop 43 = (data.drop 8).drop 35 by rw [List.drop_drop], hrest, take_baseMint]

theorem take_drop_quoteMint (h : poolDecode (data.drop 8) = some pool) :
    (data.drop 75).take 32 = pool.quoteMint.toBytes := by
  obtain ⟨rest, hrest⟩ := poolDecode_eq_some_iff.mp h
  rw [show data.drop 75 = (data.drop 8).drop 67 by rw [List.drop_drop], hrest, take_quoteMint]

theorem matches_baseMint_iff (h : poolDecode (data.drop 8) = some pool) (baseMint : Pubkey) :
    (baseMintFilter baseMint).Matches data ↔ pool.baseMint = baseMint := by
  rw [Memcmp.Matches, baseMintFilter, length_toBytes, take_drop_baseMint h, toBytes_inj]

theorem matches_quoteMint_iff (h : poolDecode (data.drop 8) = some pool) (quoteMint : Pubkey) :
    (quoteMintFilter quoteMint).Matches data ↔ pool.quoteMint = quoteMint := by
  rw [Memcmp.Matches, quoteMintFilter, length_toBytes, take_drop_quoteMint h, toBytes_inj]

theorem decodeAccounts_cons_none {a : Pubkey × ChainAccount} (h : decodeScanned a.2.data = none)
    (accounts : List (Pubkey × ChainAccount)) : decodeAccounts (a :: accounts) = decodeAccounts accounts :=
  List.filterMap_cons_none (by rw [h, Option.map_none])

theorem decodeAccounts_cons_some {a : Pubkey × ChainAccount} (h : decodeScanned a.2.data = some pool)
    (accounts : List (Pubkey × ChainAccount)) :
    decodeAccounts (a :: accounts) = (a.1, pool) :: decodeAccounts accounts :=
  List.filterMap_cons_some (by rw [h, Option.map_some])

/-- **A filter that compares a decoded field selects by that field.** -/
theorem decodeAccounts_filter {filter : Memcmp} {field : Pool → Pubkey} {mint : Pubkey}
    (hfilter : ∀ data pool, poolDecode (data.drop 8) = some pool → (filter.Matches data ↔ field pool = mint))
    (accounts : List (Pubkey × ChainAccount)) :
    decodeAccounts (accounts.filter fun a => filter.Matches a.2.data) =
      (decodeAccounts accounts).filter fun p => field p.2 = mint := by
  induction accounts with
  | nil => rfl
  | cons a accounts ih =>
    cases hdecode : decodeScanned a.2.data with
    | none =>
      rw [decodeAccounts_cons_none hdecode, ← ih]
      by_cases hmatch : filter.Matches a.2.data
      · rw [List.filter_cons_of_pos (by simpa using hmatch), decodeAccounts_cons_none hdecode]
      · rw [List.filter_cons_of_neg (by simpa using hmatch)]
    | some pool =>
      have hiff := hfilter a.2.data pool (decodeScanned_eq_some_iff.mp hdecode)
      rw [decodeAccounts_cons_some hdecode]
      by_cases hmatch : filter.Matches a.2.data
      · rw [List.filter_cons_of_pos (by simpa using hmatch), decodeAccounts_cons_some hdecode, ih,
          List.filter_cons_of_pos (by simpa using hiff.mp hmatch)]
      · rw [List.filter_cons_of_neg (by simpa using hmatch), ih,
          List.filter_cons_of_neg (by simpa using mt hiff.mpr hmatch)]

/-- **Decoding is exact, and the filters hit the decoded mints.** -/
theorem poolDecode_exact :
    (∀ data, (∃ pool, poolDecode data = some pool) ↔
      237 ≤ data.length ∧ FlagAt data 235 ∧ FlagAt data 236) ∧
    (∀ pool rest, poolDecode (Pool.codec.encode pool ++ rest) = some pool) ∧
    (∀ data pool, poolDecode data = some pool → Pool.codec.encode pool = data.take 237) ∧
    (∀ data pool, poolDecode (data.drop 8) = some pool →
      (data.drop 43).take 32 = pool.baseMint.toBytes ∧ (data.drop 75).take 32 = pool.quoteMint.toBytes ∧
        ∀ mint, ((baseMintFilter mint).Matches data ↔ pool.baseMint = mint) ∧
          ((quoteMintFilter mint).Matches data ↔ pool.quoteMint = mint)) ∧
    ∀ accounts mint,
      decodeAccounts (accounts.filter fun a => (baseMintFilter mint).Matches a.2.data) =
        (decodeAccounts accounts).filter (fun p => p.2.baseMint = mint) ∧
      decodeAccounts (accounts.filter fun a => (quoteMintFilter mint).Matches a.2.data) =
        (decodeAccounts accounts).filter fun p => p.2.quoteMint = mint := by
  refine ⟨fun data => exists_poolDecode_iff, fun pool rest => ?_, fun data pool h => ?_,
    fun data pool h => ⟨?_, ?_, fun mint => ?_⟩, fun accounts mint => ⟨?_, ?_⟩⟩
  · exact poolDecode_eq_some_iff.mpr ⟨rest, rfl⟩
  · obtain ⟨rest, rfl⟩ := poolDecode_eq_some_iff.mp h
    exact (List.take_left' (Pool.codec.length_encode pool)).symm
  · exact take_drop_baseMint h
  · exact take_drop_quoteMint h
  · exact ⟨matches_baseMint_iff h mint, matches_quoteMint_iff h mint⟩
  · exact decodeAccounts_filter (fun data pool h => matches_baseMint_iff h mint) accounts
  · exact decodeAccounts_filter (fun data pool h => matches_quoteMint_iff h mint) accounts

end PumpSwap

end PumpTrade
