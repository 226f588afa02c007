import PumpTrade.Base.Codec
import PumpTrade.Chain.Dex

/-!
# Pools of the AMM

`instruction/utils/pumpswap_types.rs`: the account of a pool, as it is read off the chain. Borsh
writes the fields in the order of their declaration, integers with the low byte first, and a flag as
one byte, 0 or 1.

* `Codec.u8`, `Codec.u16`, `Codec.u64`, `Codec.pubkey`, `Codec.flag`: the encodings of the fields;
* `Pool.codec`, `poolDecode`: the encoding of a pool, and its decoder;
* `poolDecode_eq_some_iff`: what is decoded is what the data starts with;
* `exists_poolDecode_iff`: which data is decoded;
* `take_baseMint`, `take_quoteMint`: where the mints stand.
-/

namespace PumpTrade

open Base

/-! ## Fields -/

theorem leBytes_ofLeBytes (bytes : List UInt8) : leBytes (ofLeBytes bytes) bytes.length = bytes := by
  induction bytes with
  | nil => rfl
  | cons b bytes ih =>
    have hlow : UInt8.ofNat (b.toNat + 256 * ofLeBytes bytes) = b := by
      apply UInt8.toNat_inj.mp
      rw [UInt8.toNat_ofNat', Nat.add_mul_mod_self_left, Nat.mod_eq_of_lt b.toNat_lt]
    have hhigh : (b.toNat + 256 * ofLeBytes bytes) / 256 = ofLeBytes bytes := by
      have hb := b.toNat_lt
      omega
    rw [List.length_cons, ofLeBytes, leBytes, hlow, hhigh, ih]

theorem ofLeBytes_lt (bytes : List UInt8) : ofLeBytes bytes < 256 ^ bytes.length := by
  have h := ofLeBytes_leBytes (ofLeBytes bytes) bytes.length
  rw [leBytes_ofLeBytes] at h
  rw [h]
  exact Nat.mod_lt _ (Nat.pow_pos (by decide))

namespace Codec

/-- A number of this many bytes, the low byte first. -/
def le {α : Type} (count : ℕ) (ofNat : ℕ → α) (toNat : α → ℕ) (hlt : ∀ a, toNat a < 256 ^ count)
    (hof : ∀ a, ofNat (toNat a) = a) (hto : ∀ n, n < 256 ^ count → toNat (ofNat n) = n) : Codec α where
  size := count
  encode a := leBytes (toNat a) count
  decode bytes := if bytes.length = count then some (ofNat (ofLeBytes bytes)) else none
  length_encode a := length_leBytes _ _
  decode_encode a := by
    rw [if_pos (length_leBytes _ _), ofLeBytes_leBytes, Nat.mod_eq_of_lt (hlt a), hof]
  encode_of_decode {bytes a} h := by
    split_ifs at h with hlength
    obtain rfl := Option.some.inj h
    rw [hto _ (hlength ▸ ofLeBytes_lt bytes), ← hlength, leBytes_ofLeBytes]

/-- A byte. -/
def u8 : Codec UInt8 :=
  le 1 UInt8.ofNat UInt8.toNat (fun a => a.toNat_lt) (fun _ => UInt8.ofNat_toNat)
    fun _ h => UInt8.toNat_ofNat_of_lt' h

/-- Two bytes, the low one first. -/
def u16 : Codec UInt16 :=
  le 2 UInt16.ofNat UInt16.toNat (fun a => a.toNat_lt) (fun _ => UInt16.ofNat_toNat)
    fun _ h => UInt16.toNat_ofNat_of_lt' h

/-- Eight bytes, the low one first. -/
def u64 : Codec UInt64 :=
  le 8 UInt64.ofNat UInt64.toNat (fun a => a.toNat_lt) (fun _ => UInt64.ofNat_toNat)
    fun _ h => UInt64.toNat_ofNat_of_lt' h

/-- A key is read as its 32 bytes, the high byte first. -/
def pubkey : Codec Pubkey where
  size := 32
  encode := Pubkey.toBytes
  decode bytes := if bytes.length = 32 then some ⟨BitVec.ofNat 256 (ofLeBytes bytes.reverse)⟩ else none
  length_encode key := by rw [Pubkey.toBytes, List.length_reverse, length_leBytes]
  decode_encode key := by
    have hlt : key.bits.toNat < 256 ^ 32 := key.bits.isLt
    rw [if_pos (by rw [Pubkey.toBytes, List.length_reverse, length_leBytes]), Pubkey.toBytes,
      List.reverse_reverse, ofLeBytes_leBytes, Nat.mod_eq_of_lt hlt, BitVec.ofNat_toNat, BitVec.setWidth_eq]
  encode_of_decode {bytes key} h := by
    split_ifs at h with hlength
    obtain rfl := Option.some.inj h
    have hreverse : bytes.reverse.length = 32 := by rw [List.length_reverse, hlength]
    have hlt := ofLeBytes_lt bytes.reverse
    rw [hreverse] at hlt
    rw [Pubkey.toBytes, BitVec.toNat_ofNat, Nat.mod_eq_of_lt (show _ < 2 ^ 256 from hlt), ← hreverse,
      leBytes_ofLeBytes, List.reverse_reverse]

/-- A flag is one byte, and only 0 and 1 are read. -/
def flag : Codec Bool :=
  u8.filter (fun b => if b = 0 then some false else if b = 1 then some true else none)
    (fun b => if b then 1 else 0) (fun b => by cases b <;> rfl) fun {a b} h => by
      split_ifs at h with hzero hone
      · obtain rfl := Option.some.inj h
        exact hzero.symm
      · obtain rfl := Option.some.inj h
        exact hone.symm

theorem total_le {α : Type} {count : ℕ} {ofNat : ℕ → α} {toNat : α → ℕ} (hlt : ∀ a, toNat a < 256 ^ count)
    (hof : ∀ a, ofNat (toNat a) = a) (hto : ∀ n, n < 256 ^ count → toNat (ofNat n) = n) :
    (le count ofNat toNat hlt hof hto).Total :=
  fun _ h => ⟨_, if_pos h⟩

theorem total_u8 : u8.Total := total_le _ _ _

theorem total_u16 : u16.Total := total_le _ _ _

theorem total_u64 : u64.Total := total_le _ _ _

theorem total_pubkey : pubkey.Total := fun _ h => ⟨_, if_pos h⟩

theorem encode_flag (b : Bool) : flag.encode b = [if b then 1 else 0] := by
  cases b <;> rfl

theorem flag_reads_iff {bytes : List UInt8} : flag.Reads bytes ↔ bytes = [0] ∨ bytes = [1] := by
  simp only [Codec.Reads, Codec.decode_eq_some_iff, encode_flag]
  simp

end Codec

/-! ## Pools -/

/-- The data of a pool. -/
structure Pool where
  poolBump : UInt8
  index : UInt16
  creator : Pubkey
  baseMint : Pubkey
  quoteMint : Pubkey
  lpMint : Pubkey
  poolBaseTokenAccount : Pubkey
  poolQuoteTokenAccount : Pubkey
  lpSupply : UInt64
  coinCreator : Pubkey
  isMayhemMode : Bool
  isCashbackCoin : Bool
  deriving DecidableEq, Repr, Inhabited

/-- The number of bytes that are read: those before the flags, and the flags. -/
def poolSize : ℕ := 1 + 2 + 32 * 6 + 8 + 32 + 1 + 1

open Codec in
/-- The fields in the order of their declaration. -/
def Pool.codec : Codec Pool :=
  (u8.pair (u16.pair (pubkey.pair (pubkey.pair (pubkey.pair (pubkey.pair (pubkey.pair (pubkey.pair
    (u64.pair (pubkey.pair (flag.pair flag))))))))))).map
    (fun (poolBump, index, creator, baseMint, quoteMint, lpMint, poolBaseTokenAccount, poolQuoteTokenAccount,
        lpSupply, coinCreator, isMayhemMode, isCashbackCoin) =>
      { poolBump, index, creator, baseMint, quoteMint, lpMint, poolBaseTokenAccount, poolQuoteTokenAccount,
        lpSupply, coinCreator, isMayhemMode, isCashbackCoin })
    (fun p => (p.poolBump, p.index, p.creator, p.baseMint, p.quoteMint, p.lpMint, p.poolBaseTokenAccount,
      p.poolQuoteTokenAccount, p.lpSupply, p.coinCreator, p.isMayhemMode, p.isCashbackCoin))
    (fun _ => rfl) fun _ => rfl

theorem Pool.size_codec : Pool.codec.size = poolSize := rfl

/-- The pool at the front of the data, if there is one. -/
def poolDecode (data : List UInt8) : Option Pool :=
  if data.length < poolSize then none else Pool.codec.decode (data.take poolSize)

/-- **What is decoded** is what the data starts with. -/
theorem poolDecode_eq_some_iff {data : List UInt8} {pool : Pool} :
    poolDecode data = some pool ↔ ∃ rest, data = Pool.codec.encode pool ++ rest :=
  Pool.codec.decodePrefix_eq_some_iff

/-- The byte at the place is that of a flag. -/
def FlagAt (data : List UInt8) (i : ℕ) : Prop := data[i]? = some 0 ∨ data[i]? = some 1

instance (data : List UInt8) (i : ℕ) : Decidable (FlagAt data i) := inferInstanceAs (Decidable (_ ∨ _))

open Codec in
theorem poolCodec_reads_iff {bytes : List UInt8} :
    Pool.codec.Reads bytes ↔ 235 ≤ bytes.length ∧ (flag.pair flag).Reads (bytes.drop 235) := by
  unfold Pool.codec
  rw [map_reads_iff, total_u8.pair_reads_iff, total_u16.pair_reads_iff, total_pubkey.pair_reads_iff,
    total_pubkey.pair_reads_iff, total_pubkey.pair_reads_iff, total_pubkey.pair_reads_iff,
    total_pubkey.pair_reads_iff, total_pubkey.pair_reads_iff, total_u64.pair_reads_iff,
    total_pubkey.pair_reads_iff]
  simp only [List.drop_drop, List.length_drop]
  change 1 ≤ bytes.length ∧ 2 ≤ bytes.length - 1 ∧ 32 ≤ bytes.length - 3 ∧ 32 ≤ bytes.length - 35 ∧
    32 ≤ bytes.length - 67 ∧ 32 ≤ bytes.length - 99 ∧ 32 ≤ bytes.length - 131 ∧ 32 ≤ bytes.length - 163 ∧
    8 ≤ bytes.length - 195 ∧ 32 ≤ bytes.length - 203 ∧ (flag.pair flag).Reads (bytes.drop 235) ↔ _
  constructor
  · rintro ⟨_, _, _, _, _, _, _, _, _, _, hflags⟩
    exact ⟨by omega, hflags⟩
  · rintro ⟨_, hflags⟩
    exact ⟨by omega, by omega, by omega, by omega, by omega, by omega, by omega, by omega, by omega, by omega,
      hflags⟩

/-- **Which data is decoded**: it is long enough for a pool, and both flags are 0 or 1. -/
theorem exists_poolDecode_iff {data : List UInt8} :
    (∃ pool, poolDecode data = some pool) ↔ 237 ≤ data.length ∧ FlagAt data 235 ∧ FlagAt data 236 := by
  have hreads : (∃ pool, poolDecode data = some pool) ↔ Pool.codec.Reads (data.take 237) :=
    Codec.exists_decodePrefix (c := Pool.codec)
  rw [hreads, poolCodec_reads_iff, Codec.pair_reads_iff, Codec.flag_reads_iff, Codec.flag_reads_iff,
    List.length_take]
  by_cases hlong : 237 ≤ data.length
  · have hfirst : data[235]? = some data[235] := List.getElem?_eq_getElem _
    have hsecond : data[236]? = some data[236] := List.getElem?_eq_getElem _
    have hflags : (data.take 237).drop 235 = [data[235], data[236]] := by
      rw [List.drop_take, List.drop_eq_getElem_cons (by omega), List.drop_eq_getElem_cons (by omega)]
      rfl
    rw [hflags, FlagAt, FlagAt, hfirst, hsecond]
    change 235 ≤ min 237 data.length ∧ ([data[235]] = [0] ∨ [data[235]] = [1]) ∧
      ([data[236]] = [0] ∨ [data[236]] = [1]) ↔ _
    simp only [List.cons.injEq, and_true, Option.some.injEq]
    exact and_congr_left' (by omega)
  · refine iff_of_false (fun ⟨hlength, _, hsecond⟩ => ?_) fun h => hlong h.1
    have hbyte : ((data.take 237).drop 235).drop 1 = [] := by
      rw [List.drop_drop]
      exact List.drop_eq_nil_of_le (by rw [List.length_take]; omega)
    change ((data.take 237).drop 235).drop 1 = [0] ∨ ((data.take 237).drop 235).drop 1 = [1] at hsecond
    rw [hbyte] at hsecond
    simp at hsecond

open Codec in
theorem take_baseMint (pool : Pool) (rest : List UInt8) :
    ((Pool.codec.encode pool ++ rest).drop 35).take 32 = pool.baseMint.toBytes := by
  change (((u8.pair (u16.pair (pubkey.pair (pubkey.pair _)))).encode (_, _, _, pool.baseMint, _) ++ rest).drop
    (u8.size + (u16.size + (pubkey.size + 0)))).take pubkey.size = _
  rw [drop_pair, drop_pair, drop_pair, List.drop_zero, take_pair]
  rfl

open Codec in
theorem take_quoteMint (pool : Pool) (rest : List UInt8) :
    ((Pool.codec.encode pool ++ rest).drop 67).take 32 = pool.quoteMint.toBytes := by
  change (((u8.pair (u16.pair (pubkey.pair (pubkey.pair (pubkey.pair _))))).encode
    (_, _, _, _, pool.quoteMint, _) ++ rest).drop
    (u8.size + (u16.size + (pubkey.size + (pubkey.size + 0))))).take pubkey.size = _
  rw [drop_pair, drop_pair, drop_pair, drop_pair, List.drop_zero, take_pair]
  rfl

end PumpTrade
