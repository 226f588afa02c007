import PumpTrade.Base.ArrayQueue
import PumpTrade.Base.Shared
import PumpTrade.Exec.Build

/-!
# The pool of message builders

`trading/core/transaction_pool.rs` with `build_versioned_transaction`. Messages are built in vectors
that a queue shares among all tasks; a build that panics does not give its builder back.

* `acquireBuilder`, `releaseBuilder`, `buildPooledTransaction`: the pool as the state that tasks share,
  with a count of the builders that are out;
* `BuilderPool.Inv`: what is in the pool is empty, and only so many builders are ever missing;
* **`builders_transparent`**: in any interleaving each build comes to what it is without a pool.
-/

namespace PumpTrade

open Base

/-- A builder, with what it holds from its last use. -/
structure PreallocatedTxBuilder where
  instructions : List Instruction
  lookupTables : List AddressLookupTableAccount

namespace PreallocatedTxBuilder

/-- A builder that holds nothing. -/
def new : PreallocatedTxBuilder := ⟨[], []⟩

/-- Empty the builder. -/
def reset (_builder : PreallocatedTxBuilder) : PreallocatedTxBuilder := ⟨[], []⟩

/-- The message of the instructions that the builder holds, once these are put into it. -/
def buildZeroAlloc (sdk : Sdk) (builder : PreallocatedTxBuilder) (payer : Pubkey) (instructions : List Instruction)
    (lookupTable : Option AddressLookupTableAccount) (recentBlockhash : Hash) :
    Outcome (VersionedMessage × PreallocatedTxBuilder) := do
  let builder := { builder.reset with instructions := builder.reset.instructions ++ instructions }
  let message ← PumpTrade.buildZeroAlloc sdk payer builder.instructions lookupTable recentBlockhash
  return (message, builder)

end PreallocatedTxBuilder

/-- The queue, the number of builders that were taken and not given back, and for each builder that was
made because there was none how many were out. -/
structure BuilderPool where
  queue : ArrayQueue PreallocatedTxBuilder
  out : ℕ
  made : List ℕ

namespace BuilderPool

/-- Push this many new builders. -/
def fill : ℕ → ArrayQueue PreallocatedTxBuilder → ArrayQueue PreallocatedTxBuilder
  | 0, queue => queue
  | count + 1, queue =>
    fill count (match queue.push .new with
      | .ok queue => queue
      | .error _ => queue)

/-- `TX_BUILDER_POOL`. -/
def new : Outcome BuilderPool := do
  let queue ← ArrayQueue.new PreallocatedTxBuilder 1000
  return ⟨fill 100 queue, 0, []⟩

/-- Take a builder of the queue, or a new one. -/
def take (pool : BuilderPool) : PreallocatedTxBuilder × BuilderPool :=
  match pool.queue.pop with
  | some (builder, queue) => (builder, { pool with queue, out := pool.out + 1 })
  | none => (.new, { pool with out := pool.out + 1, made := pool.out :: pool.made })

/-- Empty a builder and put it back; a full queue drops it. -/
def giveBack (builder : PreallocatedTxBuilder) (pool : BuilderPool) : BuilderPool :=
  match pool.queue.push builder.reset with
  | .ok queue => { pool with queue, out := pool.out - 1 }
  | .error _ => { pool with out := pool.out - 1 }

end BuilderPool

/-- A builder out of the pool, or a new one where the pool is empty. -/
def acquireBuilder : Prog BuilderPool PreallocatedTxBuilder :=
  .step (fun pool => pool.take.2) fun pool => .ret pool.take.1

/-- Give a builder back. -/
def releaseBuilder (builder : PreallocatedTxBuilder) : Prog BuilderPool Unit :=
  Prog.modify (BuilderPool.giveBack builder)

/-- `build_versioned_transaction`, with the pool. -/
def buildPooledTransaction (sdk : Sdk) (payer : Keypair) (instructions : List Instruction)
    (lookupTable : Option AddressLookupTableAccount) (blockhash : Hash) (middlewareManager : Option MiddlewareManager)
    (protocolName : String) (isBuy : Bool) : Prog BuilderPool (Except Error VersionedTransaction) :=
  match fullInstructions middlewareManager instructions protocolName isBuy with
  | .error e => return .error e
  | .ok full => do
    let builder ← acquireBuilder
    let (message, builder) ← Prog.lift (builder.buildZeroAlloc sdk payer.pubkey full lookupTable blockhash)
    releaseBuilder builder
    return .ok { signatures := [sdk.signMessage payer message], message }

/-! ## The pool -/

/-- What is in the pool is empty, a hundred builders are there or out, and a builder is made only while
so many are out. -/
structure BuilderPool.Inv (pool : BuilderPool) : Prop where
  empty : ∀ builder ∈ pool.queue.items, builder = .new
  capacity : pool.queue.capacity = 1000
  enough : 100 ≤ pool.queue.items.length + pool.out
  made : ∀ out ∈ pool.made, 100 ≤ out

namespace BuilderPool

theorem fill_items {count : ℕ} {queue : ArrayQueue PreallocatedTxBuilder}
    (h : queue.items.length + count ≤ queue.capacity) :
    (fill count queue).items = queue.items ++ List.replicate count .new ∧
      (fill count queue).capacity = queue.capacity := by
  induction count generalizing queue with
  | zero => simp [fill]
  | succ count ih =>
    obtain ⟨queue', hpush, hcapacity, hitems⟩ := ArrayQueue.exists_push (q := queue) (by omega) .new
    have hroom : queue'.items.length + count ≤ queue'.capacity := by
      rw [hitems, hcapacity, List.length_append]
      simp only [List.length_singleton]
      omega
    obtain ⟨hrest, hrestCapacity⟩ := ih hroom
    simp only [fill, hpush]
    refine ⟨?_, hrestCapacity.trans hcapacity⟩
    rw [hrest, hitems, List.append_assoc, List.replicate_succ]
    rfl

theorem inv_new {pool : BuilderPool} (h : new = .ret pool) : pool.Inv := by
  obtain ⟨queue, hqueue, hpool⟩ := Outcome.bind_eq_ret.mp h
  obtain rfl := Outcome.ret.inj hpool
  obtain ⟨-, hcapacity, hitems⟩ := ArrayQueue.new_eq_ret.mp hqueue
  have hroom : queue.items.length + 100 ≤ queue.capacity := by simp [hitems, hcapacity]
  obtain ⟨hfill, hfillCapacity⟩ := fill_items hroom
  rw [hitems, List.nil_append] at hfill
  refine ⟨?_, hfillCapacity.trans hcapacity, ?_, nofun⟩
  · intro builder hbuilder
    rw [hfill] at hbuilder
    exact List.eq_of_mem_replicate hbuilder
  · show 100 ≤ (fill 100 queue).items.length + 0
    rw [hfill, List.length_replicate]

/-- **Taking a builder** gives an empty one. -/
theorem Inv.take {pool : BuilderPool} (h : pool.Inv) : pool.take.1 = .new ∧ pool.take.2.Inv := by
  unfold BuilderPool.take
  cases hpop : pool.queue.pop with
  | none =>
    have hnil : pool.queue.items = [] := ArrayQueue.pop_eq_none.mp hpop
    have hout : 100 ≤ pool.out := by
      have := h.enough
      rw [hnil] at this
      simpa using this
    refine ⟨rfl, h.empty, h.capacity, h.enough.trans (by simp), ?_⟩
    exact List.forall_mem_cons.mpr ⟨hout, h.made⟩
  | some p =>
    obtain ⟨hitems, hcapacity⟩ := ArrayQueue.pop_eq_some hpop
    have hempty := h.empty
    rw [hitems, List.forall_mem_cons] at hempty
    refine ⟨hempty.1, hempty.2, hcapacity.trans h.capacity, ?_, h.made⟩
    have := h.enough
    rw [hitems, List.length_cons] at this
    show 100 ≤ p.2.items.length + (pool.out + 1)
    omega

/-- **Giving a builder back** empties it; it is dropped where the pool is full. -/
theorem Inv.giveBack {pool : BuilderPool} (h : pool.Inv) (builder : PreallocatedTxBuilder) :
    (pool.giveBack builder).Inv := by
  have henough := h.enough
  unfold BuilderPool.giveBack
  by_cases hroom : pool.queue.items.length < pool.queue.capacity
  · obtain ⟨queue, hpush, hcapacity, hitems⟩ := ArrayQueue.exists_push hroom builder.reset
    simp only [hpush]
    refine ⟨?_, hcapacity.trans h.capacity, ?_, h.made⟩
    · rw [hitems]
      exact List.forall_mem_append.mpr ⟨h.empty, List.forall_mem_singleton.mpr rfl⟩
    · show 100 ≤ queue.items.length + (pool.out - 1)
      rw [hitems, List.length_append, List.length_singleton]
      omega
  · have hfull : pool.queue.push builder.reset = .error builder.reset := dif_neg hroom
    have hcapacity := h.capacity
    simp only [hfull]
    exact ⟨h.empty, h.capacity, by show 100 ≤ pool.queue.items.length + (pool.out - 1); omega, h.made⟩

end BuilderPool

/-! ## Builds -/

section Builds

variable {sdk : Sdk} {payer : Keypair} {instructions : List Instruction}
  {lookupTable : Option AddressLookupTableAccount} {blockhash : Hash} {mm : Option MiddlewareManager}
  {protocolName : String} {isBuy : Bool}

theorem buildZeroAlloc_eq_plain (builder : PreallocatedTxBuilder) :
    ((fun built => built.1) <$> builder.buildZeroAlloc sdk payer.pubkey instructions lookupTable blockhash) =
      buildZeroAlloc sdk payer.pubkey instructions lookupTable blockhash := by
  show (fun built => built.1) <$> (buildZeroAlloc sdk payer.pubkey ([] ++ instructions) lookupTable blockhash >>=
    fun message => Outcome.ret (message, _)) = _
  rw [List.nil_append]
  cases buildZeroAlloc sdk payer.pubkey instructions lookupTable blockhash <;> rfl

/-- **A build with a builder of the pool** comes to what it is without a pool, and leaves the pool in
order. -/
theorem buildPooledTransaction_gives :
    (buildPooledTransaction sdk payer instructions lookupTable blockhash mm protocolName isBuy).Gives
      BuilderPool.Inv
      (buildVersionedTransaction sdk payer instructions lookupTable blockhash mm protocolName isBuy) := by
  unfold buildPooledTransaction buildVersionedTransaction
  cases fullInstructions mm instructions protocolName isBuy with
  | error e => exact Prog.gives_ret _
  | ok full =>
    have hacquire : acquireBuilder.Keeps BuilderPool.Inv fun o => ∃ builder, o = .ret builder :=
      fun pool hpool => ⟨hpool.take.2, _, rfl⟩
    have hrelease : ∀ builder, (releaseBuilder builder).Gives BuilderPool.Inv (.ret ()) :=
      fun builder => Prog.keeps_modify (fun pool hpool => hpool.giveBack builder) rfl
    refine Prog.Keeps.bind hacquire (fun builder _ => ?_) (by simp)
    have hplain : (fun built => built.1) <$> builder.buildZeroAlloc sdk payer.pubkey full lookupTable blockhash =
        buildZeroAlloc sdk payer.pubkey full lookupTable blockhash := buildZeroAlloc_eq_plain builder
    show Prog.Keeps _ (· = (buildZeroAlloc sdk payer.pubkey full lookupTable blockhash >>= _)) _
    rw [← hplain]
    cases builder.buildZeroAlloc sdk payer.pubkey full lookupTable blockhash with
    | panic msg => exact rfl
    | ret built => exact (hrelease built.2).bind fun _ _ => Prog.gives_ret _

end Builds

/-- The arguments of a build. -/
structure BuildCall where
  payer : Keypair
  instructions : List Instruction
  lookupTable : Option AddressLookupTableAccount
  blockhash : Hash
  middlewareManager : Option MiddlewareManager
  protocolName : String
  isBuy : Bool

variable (sdk : Sdk)

/-- The call with a builder of the pool. -/
def BuildCall.pooled (c : BuildCall) : Prog BuilderPool (Except Error VersionedTransaction) :=
  buildPooledTransaction sdk c.payer c.instructions c.lookupTable c.blockhash c.middlewareManager c.protocolName
    c.isBuy

/-- The call with a builder of its own. -/
def BuildCall.plain (c : BuildCall) : Outcome (Except Error VersionedTransaction) :=
  buildVersionedTransaction sdk c.payer c.instructions c.lookupTable c.blockhash c.middlewareManager c.protocolName
    c.isBuy

/-- **The pool is transparent.** Any number of tasks build over one pool, in any interleaving, and some
of them may panic: a task that has ended has come to what its build is without a pool, of its own
arguments only. What is in the pool is empty, never more than a thousand builders, and a builder was
made only while a hundred were out. -/
theorem builders_transparent {ι : Type} [DecidableEq ι] (calls : ι → BuildCall) {pool : BuilderPool}
    (hnew : BuilderPool.new = .ret pool) {acts : List ι} {t : Threads ι BuilderPool (Except Error VersionedTransaction)}
    (hrun : run Threads.step ⟨fun i => (calls i).pooled sdk, pool⟩ acts = some t) :
    (∀ i o, t.Ended i o → o = (calls i).plain sdk) ∧
      (∀ builder ∈ t.shared.queue.items, builder = .new) ∧ t.shared.queue.items.length ≤ 1000 ∧
      ∀ out ∈ t.shared.made, 100 ≤ out := by
  have hcalls : ∀ i, ((calls i).pooled sdk).Keeps BuilderPool.Inv fun o => o = (calls i).plain sdk :=
    fun i => buildPooledTransaction_gives
  obtain ⟨hinv, hkeeps⟩ := Threads.run_keeps (P := fun i o => o = (calls i).plain sdk) (BuilderPool.inv_new hnew)
    hcalls hrun
  refine ⟨fun i o hended => hended.of_keeps (P := fun i o => o = (calls i).plain sdk) (hkeeps i), hinv.empty, ?_,
    hinv.made⟩
  exact hinv.capacity ▸ t.shared.queue.length_le

/-- Packages that compile a message only if it has instructions. -/
def sampleBuilderSdk : Sdk where
  solToLamports _ := none
  compiles _ instructions _ := !instructions.isEmpty
  signMessage _ message := ⟨BitVec.ofNat 512 message.body.instructions.length⟩
  parsePubkey _ := none

/-- One task builds a message of two instructions, the other one an empty message. -/
def sampleBuilds (i : Bool) : BuildCall where
  payer := ⟨⟨1⟩⟩
  instructions := if i then [setComputeUnitPrice 1, setComputeUnitLimit 2] else []
  lookupTable := none
  blockhash := ⟨5⟩
  middlewareManager := none
  protocolName := "PumpFun"
  isBuy := true

set_option maxRecDepth 4000 in
/-- Both have taken a builder when one of them panics; its builder is lost. -/
theorem builders_transparent_lost : ∃ pool t, BuilderPool.new = .ret pool ∧
    run Threads.step ⟨fun i => (sampleBuilds i).pooled sampleBuilderSdk, pool⟩ [false, true, true] = some t ∧
    t.shared.out = 1 ∧
    t.Ended false (.panic "overflow when compiling message keys") ∧
    Outcome.panic "overflow when compiling message keys" = (sampleBuilds false).plain sampleBuilderSdk ∧
    t.shared.queue.items.length ≤ 1000 := by
  obtain ⟨pool, hnew⟩ : ∃ pool, BuilderPool.new = .ret pool := ⟨_, rfl⟩
  obtain ⟨t, hrun, hout, hended⟩ : ∃ t,
      run Threads.step ⟨fun i => (sampleBuilds i).pooled sampleBuilderSdk, pool⟩ [false, true, true] = some t ∧
      t.shared.out = 1 ∧ t.Ended false (.panic "overflow when compiling message keys") := by
    obtain rfl := Outcome.ret.inj hnew
    exact ⟨_, rfl, rfl, rfl⟩
  obtain ⟨hplain, -, hlength, -⟩ := builders_transparent sampleBuilderSdk sampleBuilds hnew hrun
  exact ⟨pool, t, hnew, hrun, hout, hended, hplain false _ hended, hlength⟩

end PumpTrade
