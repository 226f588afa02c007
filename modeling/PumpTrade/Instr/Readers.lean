import PumpTrade.Account.Coherent
import PumpTrade.Curve.BondingCurve
import PumpTrade.Instr.PoolSearch

/-!
# Readers of accounts

`fetch_pool` of `instruction/utils/pumpswap.rs` beside the scan of the searches, and
`fetch_bonding_curve_account` of `instruction/utils/pumpfun.rs`. The first two strip the
discriminator by different code; the deserialization of a curve is a parameter.

* `fetchPool_eq`: the direct reader agrees with the scan on data that has a discriminator;
* **`readers_total_iff`**: the direct readers panic exactly on data that is cut off inside the
  discriminator.
-/

namespace PumpTrade

open Base

namespace PumpFun

/-- The data of an account without its discriminator, deserialized; data shorter than that
panics. -/
def readCurve (tryFromSlice : List UInt8 → Except String BondingCurveAccount) (data : List UInt8) :
    Outcome (Except Error BondingCurveAccount) :=
  if data.isEmpty then .ret (.error (.other "Bonding curve not found"))
  else if data.length < 8 then
    .panic ("range start index 8 out of range for slice of length " ++ toString data.length)
  else
    match tryFromSlice (data.drop 8) with
    | .error e => .ret (.error (.other ("Failed to deserialize bonding curve account: " ++ e)))
    | .ok bondingCurve => .ret (.ok bondingCurve)

variable (D : Derivations) (node : PoolNode) (tryFromSlice : List UInt8 → Except String BondingCurveAccount)

/-- The curve of a mint and its address, as the node shows them. -/
def fetchBondingCurveAccount (mint : Pubkey) : Cached (Except Error (BondingCurveAccount × Pubkey)) := do
  match ← getBondingCurvePda D mint with
  | none => return .error (.other "Bonding curve not found")
  | some bondingCurvePda =>
    match node.getAccount bondingCurvePda with
    | .error e => return .error e
    | .ok account => do
      let bondingCurve ← Prog.lift (readCurve tryFromSlice account.data)
      return bondingCurve.map fun curve => (curve, bondingCurvePda)

theorem exists_readCurve_iff {data : List UInt8} :
    (∃ r, readCurve tryFromSlice data = .ret r) ↔ data = [] ∨ 8 ≤ data.length := by
  unfold readCurve
  cases data with
  | nil => simp
  | cons b bytes =>
    simp only [List.isEmpty_cons, Bool.false_eq_true, if_false, reduceCtorEq, false_or]
    by_cases hshort : (b :: bytes).length < 8
    · rw [if_pos hshort]
      exact iff_of_false (by simp) (Nat.not_le.mpr hshort)
    · rw [if_neg hshort]
      refine iff_of_true ?_ (Nat.not_lt.mp hshort)
      cases tryFromSlice ((b :: bytes).drop 8) with
      | error e => exact ⟨_, rfl⟩
      | ok curve => exact ⟨_, rfl⟩

variable {D} {node} {mint bondingCurvePda : Pubkey} {account : ChainAccount}

/-- With its address and account found, the curve is what its data reads as, whatever the caches
hold. -/
theorem gives_fetchBondingCurveAccount (hpda : (PdaCacheKey.pumpFunBondingCurve mint).derive D = some bondingCurvePda)
    (haccount : node.getAccount bondingCurvePda = .ok account) :
    (fetchBondingCurveAccount D node tryFromSlice mint).Gives (Coherent D)
      ((fun r => r.map fun curve => (curve, bondingCurvePda)) <$> readCurve tryFromSlice account.data) := by
  have hfetch : (fetchBondingCurveAccount D node tryFromSlice mint).Gives (Coherent D)
      (.ret (some bondingCurvePda) >>= fun _ =>
        (fun r => r.map fun curve => (curve, bondingCurvePda)) <$> readCurve tryFromSlice account.data) := by
    refine Prog.Gives.bind (hpda ▸ gives_getCachedPda (.pumpFunBondingCurve mint)) fun found hfound => ?_
    obtain rfl := Outcome.ret.inj hfound
    simp only [haccount]
    exact (Prog.gives_lift _).map _
  exact hfetch

end PumpFun

namespace PumpSwap

variable {node : PoolNode} {poolAddress : Pubkey} {data : List UInt8}

theorem fetchPool_eq (haccount : node.getAccount poolAddress = .ok ⟨ammProgram, data⟩) (hlong : 8 ≤ data.length) :
    fetchPool node poolAddress =
      .ret (match decodeScanned data with
        | none => .error (.other "Failed to decode pool")
        | some pool => .ok pool) := by
  have hscan : decodeScanned data = poolDecode (data.drop 8) :=
    Option.ext fun pool => decodeScanned_eq_some_iff
  simp only [fetchPool, haccount, ne_eq, not_true_eq_false, if_false, if_neg (Nat.not_lt.mpr hlong), hscan]
  cases poolDecode (data.drop 8) with
  | none => rfl
  | some pool => rfl

theorem fetchPool_short (haccount : node.getAccount poolAddress = .ok ⟨ammProgram, data⟩)
    (hshort : data.length < 8) : ∃ msg, fetchPool node poolAddress = .panic msg := by
  simp only [fetchPool, haccount, ne_eq, not_true_eq_false, if_false, if_pos hshort]
  exact ⟨_, rfl⟩

variable (node poolAddress data) in
/-- The direct reader returns the pool that the scan keeps, and an error where the scan keeps
none. -/
def AgreesWithScan : Prop :=
  (∀ pool, fetchPool node poolAddress = .ret (.ok pool) ↔ decodeScanned data = some pool) ∧
    (decodeScanned data = none → ∃ e, fetchPool node poolAddress = .ret (.error e))

theorem agreesWithScan_iff (haccount : node.getAccount poolAddress = .ok ⟨ammProgram, data⟩) :
    AgreesWithScan node poolAddress data ↔ 8 ≤ data.length := by
  constructor
  · intro h
    by_contra hshort
    have hscan : decodeScanned data = none := if_neg (by omega)
    obtain ⟨msg, hpanic⟩ := fetchPool_short haccount (Nat.not_le.mp hshort)
    obtain ⟨e, he⟩ := h.2 hscan
    rw [hpanic] at he
    cases he
  · intro hlong
    rw [AgreesWithScan, fetchPool_eq haccount hlong]
    cases decodeScanned data with
    | none => simp
    | some pool => simp

end PumpSwap

open PumpFun PumpSwap

/-- **When accounts are read without a panic**: a pool's data has a whole discriminator, and a
curve's data has one or is empty. -/
theorem readers_total_iff (D : Derivations) (node : PoolNode)
    (tryFromSlice : List UInt8 → Except String BondingCurveAccount) (mint : Pubkey)
    {poolAddress bondingCurvePda owner : Pubkey} {poolData curveData : List UInt8}
    (hpool : node.getAccount poolAddress = .ok ⟨ammProgram, poolData⟩)
    (hpda : (PdaCacheKey.pumpFunBondingCurve mint).derive D = some bondingCurvePda)
    (hcurve : node.getAccount bondingCurvePda = .ok ⟨owner, curveData⟩) :
    (AgreesWithScan node poolAddress poolData ↔ 8 ≤ poolData.length) ∧
      ((∃ r, (fetchBondingCurveAccount D node tryFromSlice mint).Gives (Coherent D) (.ret r)) ↔
        curveData = [] ∨ 8 ≤ curveData.length) := by
  refine ⟨agreesWithScan_iff hpool, ?_⟩
  rw [← exists_readCurve_iff tryFromSlice]
  have hgives := gives_fetchBondingCurveAccount tryFromSlice hpda hcurve
  constructor
  · rintro ⟨r, hr⟩
    have hsame := (hgives.run (coherent_initial D)).1.symm.trans (hr.run (coherent_initial D)).1
    obtain ⟨curve, hread, -⟩ := Outcome.map_eq_ret.mp hsame
    exact ⟨curve, hread⟩
  · rintro ⟨curve, hread⟩
    rw [hread] at hgives
    exact ⟨_, hgives⟩

/-- A node with one byte of data in every account. -/
def closedNode : PoolNode where
  getAccount _ := .ok ⟨ammProgram, [0]⟩
  getTokenAccountBalance _ := .ok "0"

/-- A pool of 245 zero bytes is read by both. -/
theorem readers_total_zeros :
    AgreesWithScan { closedNode with getAccount := fun _ => .ok ⟨ammProgram, List.replicate 245 0⟩ } ⟨1⟩
      (List.replicate 245 0) :=
  (readers_total_iff sampleDerivations _ (fun _ => .error "Unexpected length of input") ⟨2⟩ rfl rfl rfl).1.mpr
    (by rw [List.length_replicate]; decide)

/-- **One byte of data** panics both readers, where the scan keeps no pool. -/
theorem readers_panic_short :
    decodeScanned [0] = none ∧
      fetchPool closedNode ⟨1⟩ = .panic "range start index 8 out of range for slice of length 1" ∧
      ((fetchBondingCurveAccount sampleDerivations closedNode
          (fun _ => .error "Unexpected length of input") ⟨2⟩).run .initial).1 =
        .panic "range start index 8 out of range for slice of length 1" := by
  refine ⟨rfl, rfl, ?_⟩
  obtain ⟨pda, hpda⟩ : ∃ pda, (PdaCacheKey.pumpFunBondingCurve ⟨2⟩).derive sampleDerivations = some pda := ⟨_, rfl⟩
  have haccount : closedNode.getAccount pda = .ok ⟨ammProgram, [0]⟩ := rfl
  exact ((gives_fetchBondingCurveAccount _ hpda haccount).run (coherent_initial sampleDerivations)).1

end PumpTrade
