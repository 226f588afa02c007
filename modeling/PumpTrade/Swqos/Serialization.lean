import PumpTrade.Base.ArrayQueue
import PumpTrade.Base.Run
import PumpTrade.Chain.Key
import PumpTrade.Swqos.Error

/-!
# Serialization with pooled buffers

`swqos/serialization.rs`. A call takes a buffer out of a pool and is to give it back; which of its
exits do is what decides whether the pool keeps its size. How a value is serialized and how bytes
are encoded is left to the packages that do so.

* `ZeroAllocSerializer`: the pool, with the operations that take and return a buffer;
* `SerializerCall.step`: the four calls, as far as they complete;
* `available_step`: the size of the pool after a call;
* **`keepsPool_iff`**: no call of a run makes the pool smaller exactly where each one finds the pool
  empty or gives its buffer back.
-/

namespace PumpTrade

open Base

/-! ## The pool -/

/-- The buffers that can be taken, and their size. -/
structure ZeroAllocSerializer where
  bufferPool : ArrayQueue (List UInt8)
  bufferSize : ℕ

/-- What other packages do with a transaction or a value: `bincode`, its signature, and two
encodings of bytes. -/
structure SerializerSdk (T : Type) where
  serialize : T → Except Error (List UInt8)
  getSignature : T → Outcome Signature
  base58 : List UInt8 → String
  base64 : List UInt8 → String

/-- How a transaction is encoded as a text. -/
inductive UiTransactionEncoding where
  | binary
  | base64
  | base58
  | json
  | jsonParsed
  deriving DecidableEq, Repr

namespace ZeroAllocSerializer

/-- Push this many buffers; one that does not fit is dropped. -/
def fill (buffer : List UInt8) : ℕ → ArrayQueue (List UInt8) → ArrayQueue (List UInt8)
  | 0, pool => pool
  | count + 1, pool =>
    fill buffer count (match pool.push buffer with
      | .ok pool => pool
      | .error _ => pool)

/-- A pool of buffers of zeros. -/
def new (poolSize bufferSize : ℕ) : Outcome ZeroAllocSerializer := do
  let pool ← ArrayQueue.new (List UInt8) poolSize
  return { bufferPool := fill (List.replicate bufferSize 0) poolSize pool, bufferSize }

variable {T : Type} (sdk : SerializerSdk T) (s : ZeroAllocSerializer)

/-- The number of buffers in the pool, the first of `get_pool_stats`. -/
def available : ℕ := s.bufferPool.items.length

/-- A buffer is taken out, or made where there is none, before the value is serialized into it. -/
def serializeZeroAlloc (data : T) : Except Error (List UInt8) × ZeroAllocSerializer :=
  let taken := match s.bufferPool.pop with
    | some (_, pool) => { s with bufferPool := pool }
    | none => s
  match sdk.serialize data with
  | .error e => (.error e, taken)
  | .ok serialized => (.ok serialized, taken)

/-- A buffer that does not fit is dropped. -/
def returnBuffer (buffer : List UInt8) : ZeroAllocSerializer :=
  match s.bufferPool.push buffer with
  | .ok pool => { s with bufferPool := pool }
  | .error _ => s

end ZeroAllocSerializer

/-! ## The calls -/

section Calls

variable {T : Type} (sdk : SerializerSdk T)

/-- The text of the bytes, where the encoding is supported. -/
def SerializerSdk.encode : UiTransactionEncoding → List UInt8 → Except Error String
  | .base58, serialized => .ok (sdk.base58 serialized)
  | .base64, serialized => .ok (sdk.base64 serialized)
  | _, _ => .error (.other "Unsupported encoding")

/-- `Base64Encoder::serialize_and_encode`: the buffer is not given back. -/
def serializeAndEncode (value : T) (s : ZeroAllocSerializer) : Except Error String × ZeroAllocSerializer :=
  match s.serializeZeroAlloc sdk value with
  | (.error e, s) => (.error e, s)
  | (.ok serialized, s) => (.ok (sdk.base64 serialized), s)

/-- A buffer is given back once it has been encoded. -/
def serializeTransaction (transaction : T) (encoding : UiTransactionEncoding) (s : ZeroAllocSerializer) :
    Except Error String × ZeroAllocSerializer :=
  match s.serializeZeroAlloc sdk transaction with
  | (.error e, s) => (.error e, s)
  | (.ok serialized, s) =>
    match sdk.encode encoding serialized with
    | .error e => (.error e, s)
    | .ok encoded => (.ok encoded, s.returnBuffer serialized)

/-- Serialize into a buffer of the pool, encode, and give the buffer back. -/
def serializeTransactionSync (transaction : T) (encoding : UiTransactionEncoding) (s : ZeroAllocSerializer) :
    Outcome (Except Error (String × Signature) × ZeroAllocSerializer) := do
  let signature ← sdk.getSignature transaction
  let (result, s) := serializeTransaction sdk transaction encoding s
  return (result.map fun encoded => (encoded, signature), s)

/-- The first error ends the batch. -/
def serializeTransactionsBatchSync (encoding : UiTransactionEncoding) :
    List T → ZeroAllocSerializer → Except Error (List String) × ZeroAllocSerializer
  | [], s => (.ok [], s)
  | transaction :: transactions, s =>
    match serializeTransaction sdk transaction encoding s with
    | (.error e, s) => (.error e, s)
    | (.ok encoded, s) =>
      let (results, s) := serializeTransactionsBatchSync encoding transactions s
      (results.map fun results => encoded :: results, s)

/-- `serialize_transaction_bincode_sync`; its guard holds the buffer. -/
def serializeTransactionBincodeSync (transaction : T) (s : ZeroAllocSerializer) :
    Outcome (Except Error (List UInt8 × Signature) × ZeroAllocSerializer) := do
  let signature ← sdk.getSignature transaction
  let (result, s) := s.serializeZeroAlloc sdk transaction
  return (result.map fun serialized => (serialized, signature), s)

/-- `PooledTxBufGuard::drop`: an empty buffer is not given back. -/
def dropGuard (buffer : List UInt8) (s : ZeroAllocSerializer) : ZeroAllocSerializer :=
  if !buffer.isEmpty then s.returnBuffer buffer else s

end Calls

/-- A call, of values of type `T`. -/
inductive SerializerCall (T : Type) where
  | serializeAndEncode (value : T)
  | transaction (transaction : T) (encoding : UiTransactionEncoding)
  | batch (transactions : List T) (encoding : UiTransactionEncoding)
  | bincode (transaction : T)

namespace SerializerCall

variable {T : Type} (sdk : SerializerSdk T)

/-- What a call leaves of the pool, where it completes. The guard of a serialized transaction is
dropped. -/
def step (s : ZeroAllocSerializer) : SerializerCall T → Option ZeroAllocSerializer
  | serializeAndEncode value => some (PumpTrade.serializeAndEncode sdk value s).2
  | transaction tx encoding => (Prod.snd <$> serializeTransactionSync sdk tx encoding s).value?
  | batch transactions encoding => some (serializeTransactionsBatchSync sdk encoding transactions s).2
  | bincode tx =>
    match serializeTransactionBincodeSync sdk tx s with
    | .ret (.ok (serialized, _), s) => some (dropGuard serialized s)
    | .ret (.error _, s) => some s
    | .panic _ => none

/-- The transaction is serialized, and its encoding is one of the two that are supported. -/
def Encodes (encoding : UiTransactionEncoding) (transaction : T) : Prop :=
  (∃ serialized, sdk.serialize transaction = .ok serialized) ∧ (encoding = .base58 ∨ encoding = .base64)

/-- The call gives each buffer back that it takes. -/
def GivesBack : SerializerCall T → Prop
  | serializeAndEncode _ => False
  | transaction tx encoding => Encodes sdk encoding tx
  | batch transactions encoding => ∀ tx ∈ transactions, Encodes sdk encoding tx
  | bincode tx => ∃ serialized, sdk.serialize tx = .ok serialized ∧ serialized ≠ []

end SerializerCall

/-! ## The size of the pool -/

section Available

variable {T : Type} {sdk : SerializerSdk T} {s : ZeroAllocSerializer}

open ZeroAllocSerializer

theorem snd_serializeZeroAlloc (data : T) : (s.serializeZeroAlloc sdk data).2 =
    match s.bufferPool.pop with
    | some (_, pool) => { s with bufferPool := pool }
    | none => s := by
  unfold serializeZeroAlloc
  cases sdk.serialize data with
  | error e => rfl
  | ok serialized => rfl

theorem available_serializeZeroAlloc (data : T) :
    (s.serializeZeroAlloc sdk data).2.available = s.available - 1 := by
  rw [snd_serializeZeroAlloc]
  cases hpop : s.bufferPool.pop with
  | none => simp [available, ArrayQueue.pop_eq_none.mp hpop]
  | some p => simp [available, (ArrayQueue.pop_eq_some hpop).1]

theorem fst_serializeZeroAlloc (data : T) : (s.serializeZeroAlloc sdk data).1 = sdk.serialize data := by
  unfold serializeZeroAlloc
  cases sdk.serialize data with
  | error e => rfl
  | ok serialized => rfl

theorem room_serializeZeroAlloc (data : T) :
    (s.serializeZeroAlloc sdk data).2.available < (s.serializeZeroAlloc sdk data).2.bufferPool.capacity := by
  have hcapacity : (s.serializeZeroAlloc sdk data).2.bufferPool.capacity = s.bufferPool.capacity := by
    rw [snd_serializeZeroAlloc]
    cases hpop : s.bufferPool.pop with
    | none => rfl
    | some p => exact (ArrayQueue.pop_eq_some hpop).2
  rw [available_serializeZeroAlloc, hcapacity]
  have hpos := s.bufferPool.capacity_pos
  have hle : s.available ≤ s.bufferPool.capacity := s.bufferPool.length_le
  omega

theorem available_returnBuffer (h : s.available < s.bufferPool.capacity) (buffer : List UInt8) :
    (s.returnBuffer buffer).available = s.available + 1 := by
  obtain ⟨pool, hpush, -, hitems⟩ := ArrayQueue.exists_push h buffer
  rw [returnBuffer, hpush]
  simp [available, hitems]

/-- Taken and given back: an empty pool gains a buffer. -/
theorem available_taken_returned (data : T) (buffer : List UInt8) :
    ((s.serializeZeroAlloc sdk data).2.returnBuffer buffer).available = max s.available 1 := by
  rw [available_returnBuffer (room_serializeZeroAlloc data), available_serializeZeroAlloc]
  omega

open SerializerCall

theorem encode_eq_ok_iff {encoding : UiTransactionEncoding} {serialized : List UInt8} :
    (∃ encoded, sdk.encode encoding serialized = .ok encoded) ↔ encoding = .base58 ∨ encoding = .base64 := by
  cases encoding <;> simp [SerializerSdk.encode]

theorem serializeTransaction_ok {encoding : UiTransactionEncoding} {transaction : T}
    (h : Encodes sdk encoding transaction) :
    (∃ encoded, (serializeTransaction sdk transaction encoding s).1 = .ok encoded) ∧
      (serializeTransaction sdk transaction encoding s).2.available = max s.available 1 := by
  obtain ⟨⟨serialized, hserialized⟩, hencoding⟩ := h
  obtain ⟨encoded, hencoded⟩ : ∃ encoded, sdk.encode encoding serialized = .ok encoded :=
    encode_eq_ok_iff.mpr hencoding
  have htaken : s.serializeZeroAlloc sdk transaction =
      (.ok serialized, (s.serializeZeroAlloc sdk transaction).2) :=
    Prod.ext ((fst_serializeZeroAlloc transaction).trans hserialized) rfl
  have heq : serializeTransaction sdk transaction encoding s =
      (.ok encoded, (s.serializeZeroAlloc sdk transaction).2.returnBuffer serialized) := by
    rw [serializeTransaction, htaken]
    simp only [hencoded]
  rw [heq]
  exact ⟨⟨encoded, rfl⟩, available_taken_returned transaction serialized⟩

theorem serializeTransaction_error {encoding : UiTransactionEncoding} {transaction : T}
    (h : ¬ Encodes sdk encoding transaction) :
    (∃ e, (serializeTransaction sdk transaction encoding s).1 = .error e) ∧
      (serializeTransaction sdk transaction encoding s).2.available = s.available - 1 := by
  have hfst : (s.serializeZeroAlloc sdk transaction).1 = sdk.serialize transaction :=
    fst_serializeZeroAlloc transaction
  have hsnd : (s.serializeZeroAlloc sdk transaction).2.available = s.available - 1 :=
    available_serializeZeroAlloc transaction
  unfold serializeTransaction
  generalize s.serializeZeroAlloc sdk transaction = taken at hfst hsnd
  obtain ⟨result, s'⟩ := taken
  simp only at hfst hsnd
  cases result with
  | error e => exact ⟨⟨e, rfl⟩, hsnd⟩
  | ok serialized =>
    cases hencode : sdk.encode encoding serialized with
    | error e => simpa [hencode] using hsnd
    | ok encoded => exact absurd ⟨⟨serialized, hfst.symm⟩, encode_eq_ok_iff.mp ⟨encoded, hencode⟩⟩ h

theorem snd_batch_cons_ok {encoding : UiTransactionEncoding} {transaction : T} {encoded : String}
    (h : (serializeTransaction sdk transaction encoding s).1 = .ok encoded) (transactions : List T) :
    (serializeTransactionsBatchSync sdk encoding (transaction :: transactions) s).2 =
      (serializeTransactionsBatchSync sdk encoding transactions
        (serializeTransaction sdk transaction encoding s).2).2 := by
  rw [serializeTransactionsBatchSync]
  generalize serializeTransaction sdk transaction encoding s = taken at h
  obtain ⟨result, s'⟩ := taken
  obtain rfl : result = .ok encoded := h
  rfl

theorem snd_batch_cons_error {encoding : UiTransactionEncoding} {transaction : T} {e : Error}
    (h : (serializeTransaction sdk transaction encoding s).1 = .error e) (transactions : List T) :
    (serializeTransactionsBatchSync sdk encoding (transaction :: transactions) s).2 =
      (serializeTransaction sdk transaction encoding s).2 := by
  rw [serializeTransactionsBatchSync]
  generalize serializeTransaction sdk transaction encoding s = taken at h
  obtain ⟨result, s'⟩ := taken
  obtain rfl : result = .error e := h
  rfl

theorem available_batch (encoding : UiTransactionEncoding) (transactions : List T) :
    s.available ≤ (serializeTransactionsBatchSync sdk encoding transactions s).2.available ↔
      s.available = 0 ∨ ∀ transaction ∈ transactions, Encodes sdk encoding transaction := by
  induction transactions generalizing s with
  | nil => exact iff_of_true le_rfl (Or.inr (by simp))
  | cons transaction transactions ih =>
    rw [List.forall_mem_cons]
    by_cases hencodes : Encodes sdk encoding transaction
    · obtain ⟨⟨encoded, hok⟩, havailable⟩ := serializeTransaction_ok (s := s) hencodes
      have hrest := ih (s := (serializeTransaction sdk transaction encoding s).2)
      rw [snd_batch_cons_ok hok]
      by_cases hall : ∀ tx ∈ transactions, Encodes sdk encoding tx
      · have := hrest.mpr (Or.inr hall)
        exact iff_of_true (by omega) (Or.inr ⟨hencodes, hall⟩)
      · have := mt hrest.mp (not_or.mpr ⟨by omega, hall⟩)
        constructor
        · intro hle
          exact Or.inl (by omega)
        · rintro (hzero | ⟨-, h⟩)
          · omega
          · exact absurd h hall
    · obtain ⟨⟨e, herror⟩, havailable⟩ := serializeTransaction_error (s := s) hencodes
      rw [snd_batch_cons_error herror, havailable]
      constructor
      · intro hle
        exact Or.inl (by omega)
      · rintro (hzero | ⟨h, -⟩)
        · omega
        · exact absurd h hencodes

/-- The guard keeps a buffer that holds no bytes, as a failure keeps the one it took. -/
theorem available_bincode {transaction : T} {s' : ZeroAllocSerializer}
    (h : step sdk s (.bincode transaction) = some s') :
    s.available ≤ s'.available ↔
      s.available = 0 ∨ ∃ serialized, sdk.serialize transaction = .ok serialized ∧ serialized ≠ [] := by
  have hfst : (s.serializeZeroAlloc sdk transaction).1 = sdk.serialize transaction :=
    fst_serializeZeroAlloc transaction
  have htaken : (s.serializeZeroAlloc sdk transaction).2.available = s.available - 1 :=
    available_serializeZeroAlloc transaction
  have hreturned : ∀ buffer, ((s.serializeZeroAlloc sdk transaction).2.returnBuffer buffer).available =
      max s.available 1 := available_taken_returned transaction
  unfold step serializeTransactionBincodeSync at h
  cases hsignature : sdk.getSignature transaction with
  | panic msg => simp [hsignature] at h
  | ret signature =>
    simp only [hsignature, Outcome.ret_bind, Outcome.pure_eq] at h
    rw [← hfst]
    generalize s.serializeZeroAlloc sdk transaction = taken at h htaken hreturned
    obtain ⟨result, s₁⟩ := taken
    cases result with
    | error e =>
      obtain rfl := Option.some.inj h
      simp only [htaken, reduceCtorEq, false_and, exists_false, or_false]
      omega
    | ok serialized =>
      obtain rfl := Option.some.inj h
      simp only [Except.ok.injEq, exists_eq_left']
      cases serialized with
      | nil =>
        simp only [dropGuard, List.isEmpty_nil, Bool.not_true, Bool.false_eq_true, if_false, htaken, ne_eq,
          not_true_eq_false, or_false]
        omega
      | cons b bytes =>
        simp only [dropGuard, List.isEmpty_cons, Bool.not_false, if_true, hreturned]
        exact iff_of_true (le_max_left _ _) (Or.inr (List.cons_ne_nil b bytes))

/-- **The pool after a call** is as large as before unless it had a buffer that the call does not
give back. -/
theorem available_step {call : SerializerCall T} {s' : ZeroAllocSerializer} (h : step sdk s call = some s') :
    s.available ≤ s'.available ↔ s.available = 0 ∨ call.GivesBack sdk := by
  cases call with
  | serializeAndEncode value =>
    obtain rfl := Option.some.inj h
    have htaken : (s.serializeZeroAlloc sdk value).2.available = s.available - 1 :=
      available_serializeZeroAlloc value
    have heq : (serializeAndEncode sdk value s).2 = (s.serializeZeroAlloc sdk value).2 := by
      unfold serializeAndEncode
      generalize s.serializeZeroAlloc sdk value = taken
      obtain ⟨result, s₁⟩ := taken
      cases result with
      | error e => rfl
      | ok serialized => rfl
    simp only [heq, htaken, GivesBack, or_false]
    omega
  | transaction tx encoding =>
    have hstep : s' = (serializeTransaction sdk tx encoding s).2 := by
      simp only [step, serializeTransactionSync] at h
      cases hsignature : sdk.getSignature tx with
      | panic msg => simp [hsignature] at h
      | ret signature => simpa [hsignature] using h.symm
    rw [hstep, GivesBack]
    by_cases hencodes : Encodes sdk encoding tx
    · rw [(serializeTransaction_ok hencodes).2]
      exact iff_of_true (le_max_left _ _) (Or.inr hencodes)
    · rw [(serializeTransaction_error hencodes).2, or_iff_left hencodes]
      omega
  | batch transactions encoding =>
    obtain rfl := Option.some.inj h
    exact available_batch encoding transactions
  | bincode tx => exact available_bincode h

end Available

/-! ## Runs -/

variable {T : Type} (sdk : SerializerSdk T)

/-- After each call of the run the pool has at least as many buffers as before it. -/
def KeepsPool (s : ZeroAllocSerializer) (calls : List (SerializerCall T)) : Prop :=
  Meets (SerializerCall.step sdk)
    (fun s call => ∀ s', call.step sdk s = some s' → s.available ≤ s'.available) s calls

/-- **When a run never drains the pool.** -/
theorem keepsPool_iff (s : ZeroAllocSerializer) (calls : List (SerializerCall T)) :
    KeepsPool sdk s calls ↔
      Meets (SerializerCall.step sdk) (fun s call => s.available = 0 ∨ call.GivesBack sdk) s calls := by
  refine meets_congr (I := fun _ => True) (fun _ _ _ _ _ => trivial) (fun s call s' _ h => ?_) calls trivial
  rw [← available_step h]
  constructor
  · exact fun hall => hall s' h
  · intro hle s'' h''
    rwa [← Option.some.inj (h.symm.trans h'')]

theorem available_fill (buffer : List UInt8) (count : ℕ) {pool : ArrayQueue (List UInt8)}
    (h : pool.items.length + count ≤ pool.capacity) :
    (ZeroAllocSerializer.fill buffer count pool).items.length = pool.items.length + count := by
  induction count generalizing pool with
  | zero => rfl
  | succ count ih =>
    obtain ⟨pool', hpush, hcapacity, hitems⟩ := ArrayQueue.exists_push (q := pool) (by omega) buffer
    have hlength : pool'.items.length = pool.items.length + 1 := by simp [hitems]
    rw [ZeroAllocSerializer.fill, hpush]
    simp only
    rw [ih (by omega), hlength]
    omega

theorem exists_new {poolSize : ℕ} (hpos : 0 < poolSize) (bufferSize : ℕ) :
    ∃ s, ZeroAllocSerializer.new poolSize bufferSize = .ret s ∧ s.available = poolSize := by
  obtain ⟨pool, hpool⟩ : ∃ pool, ArrayQueue.new (List UInt8) poolSize = .ret pool := ⟨_, dif_pos hpos⟩
  obtain ⟨-, hcapacity, hitems⟩ := ArrayQueue.new_eq_ret.mp hpool
  have hlength : pool.items.length = 0 := by rw [hitems, List.length_nil]
  refine ⟨_, by rw [ZeroAllocSerializer.new, hpool]; rfl, ?_⟩
  rw [ZeroAllocSerializer.available, available_fill _ _ (by omega), hlength, Nat.zero_add]

/-- Bytes that are their own serialization. -/
def sampleSerializerSdk : SerializerSdk (List UInt8) where
  serialize bytes := .ok bytes
  getSignature _ := .ret default
  base58 _ := ""
  base64 _ := ""

/-- **One call of `serialize_and_encode`** on the serializer of the crate keeps a buffer. -/
theorem serializeAndEncode_drains : ∃ s s', ZeroAllocSerializer.new 10000 (256 * 1024) = .ret s ∧
    SerializerCall.step sampleSerializerSdk s (.serializeAndEncode [7]) = some s' ∧
    s.available = 10000 ∧ s'.available = 9999 := by
  obtain ⟨s, hs, havailable⟩ := exists_new (show 0 < 10000 by decide) (256 * 1024)
  refine ⟨s, _, hs, rfl, havailable, ?_⟩
  change (s.serializeZeroAlloc sampleSerializerSdk [7]).2.available = 9999
  rw [available_serializeZeroAlloc, havailable]

end PumpTrade
