import PumpTrade.Exec.Parallel

/-!
# The durable nonce of a trade

Transactions that carry one durable nonce exclude each other on chain: whichever lands first
consumes it.

* `CarriesNonce`, `ExcludeEachOther`: the transactions of a trade all carry its durable nonce;
* `buildTransaction` with a durable nonce: `carriesNonce_of_build`;
* **`excludeEachOther_iff`**: a trade over several tasks without middlewares has this exactly when
  it is a buy, has a durable nonce, or builds nothing.
-/

namespace PumpTrade

open Base

/-- The first instruction advances the nonce account, and the blockhash is the value stored
there. -/
def CarriesNonce (payer : Keypair) (nonceAccount : Pubkey) (hash : Hash)
    (transaction : VersionedTransaction) : Prop :=
  transaction.message.body.recentBlockhash = hash ∧
    transaction.message.body.instructions.head? = some (advanceNonceAccount nonceAccount payer.pubkey)

/-- All transactions that the tasks build carry the durable nonce of the trade. -/
def ExcludeEachOther (sdk : Sdk) (args : TradeArgs) (tasks : List Task) : Prop :=
  ∃ nonceAccount hash, ∀ task ∈ tasks, ∀ transaction, task.build sdk args = .ret (.ok transaction) →
    args.durableNonce = some ⟨some nonceAccount, some hash⟩ ∧
      CarriesNonce args.payer nonceAccount hash transaction

variable {sdk : Sdk} {args : TradeArgs}

theorem carriesNonce_of_build (hmm : args.middlewareManager = none) {nonceAccount : Pubkey} {hash : Hash}
    (hnonce : args.durableNonce = some ⟨some nonceAccount, some hash⟩) {task : Task}
    {transaction : VersionedTransaction} (h : task.build sdk args = .ret (.ok transaction)) :
    CarriesNonce args.payer nonceAccount hash transaction := by
  obtain ⟨nonceInstructions, blockhash, full, hlife, hfull, -, rfl⟩ := Task.build_eq_ok.mp h
  rw [hnonce] at hlife
  obtain ⟨rfl, rfl⟩ := Prod.mk.inj (Option.some.inj hlife)
  rw [hmm] at hfull
  obtain rfl := Except.ok.inj hfull
  simp [CarriesNonce, signed]

theorem durableNonce_of_build {nonce : DurableNonceInfo} (hnonce : args.durableNonce = some nonce)
    {task : Task} {transaction : VersionedTransaction} (h : task.build sdk args = .ret (.ok transaction)) :
    ∃ nonceAccount hash, nonce = ⟨some nonceAccount, some hash⟩ := by
  obtain ⟨_, _, _, hlife, -⟩ := Task.build_eq_ok.mp h
  rw [hnonce] at hlife
  match nonce, hlife with
  | ⟨some nonceAccount, some hash⟩, _ => exact ⟨nonceAccount, hash, rfl⟩

theorem excludeEachOther_of_durableNonce (hmm : args.middlewareManager = none)
    (hnonce : args.durableNonce.isSome) (tasks : List Task) : ExcludeEachOther sdk args tasks := by
  obtain ⟨nonce, hnonce⟩ := Option.isSome_iff_exists.mp hnonce
  by_cases hbuilt : ∃ task ∈ tasks, ∃ transaction, task.build sdk args = .ret (.ok transaction)
  · obtain ⟨_, -, _, hbuild⟩ := hbuilt
    obtain ⟨nonceAccount, hash, rfl⟩ := durableNonce_of_build hnonce hbuild
    exact ⟨nonceAccount, hash, fun _ _ _ h => ⟨hnonce, carriesNonce_of_build hmm hnonce h⟩⟩
  · exact ⟨default, default, fun task htask transaction h => absurd ⟨task, htask, transaction, h⟩ hbuilt⟩

/-- Without a durable nonce a task builds a transaction exactly with a recent blockhash. -/
theorem exists_build_iff (hmm : args.middlewareManager = none) (hnonce : args.durableNonce = none)
    (task : Task) : (∃ transaction, task.build sdk args = .ret (.ok transaction)) ↔
      args.recentBlockhash.isSome ∧
        sdk.compiles args.payer.pubkey (task.body sdk args) args.addressLookupTableAccount := by
  constructor
  · rintro ⟨transaction, h⟩
    obtain ⟨nonceInstructions, blockhash, full, hlife, hfull, hcompiles, -⟩ := Task.build_eq_ok.mp h
    rw [hnonce] at hlife
    obtain ⟨hash, hhash, heq⟩ := Option.map_eq_some_iff.mp hlife
    obtain ⟨rfl, rfl⟩ := Prod.mk.inj heq
    rw [hmm] at hfull
    obtain rfl := Except.ok.inj hfull
    exact ⟨by rw [hhash]; rfl, hcompiles⟩
  · rintro ⟨hhash, hcompiles⟩
    obtain ⟨hash, hhash⟩ := Option.isSome_iff_exists.mp hhash
    refine ⟨_, Task.build_eq_ok.mpr ⟨[], hash, task.body sdk args, ?_, ?_, hcompiles, rfl⟩⟩
    · rw [hnonce, hhash]
      rfl
    · rw [hmm]
      rfl

/-- **At most one transaction of a trade can land.** Of the trades over two or more tasks without
middlewares, the transactions exclude each other exactly in these: a buy, a trade with a durable
nonce, and one that builds no transaction at all. -/
theorem excludeEachOther_iff (sdk : Sdk) (args : TradeArgs) (world : World)
    (hmm : args.middlewareManager = none) (hlen : 2 ≤ (args.launch sdk world).1.length) :
    ExcludeEachOther sdk args (args.launch sdk world).1 ↔
      args.isBuy = true ∨ args.durableNonce.isSome ∨ args.recentBlockhash = none ∨
        ∀ task ∈ (args.launch sdk world).1,
          ¬ sdk.compiles args.payer.pubkey (task.body sdk args) args.addressLookupTableAccount := by
  cases hnonce : args.durableNonce with
  | some nonce =>
    have hsome : args.durableNonce.isSome := by rw [hnonce]; rfl
    exact ⟨fun _ => Or.inr (Or.inl rfl), fun _ => excludeEachOther_of_durableNonce hmm hsome _⟩
  | none =>
    have hsell : ¬ args.isBuy = true := fun hbuy => by
      have := launch_buy_nonce hlen hbuy
      rw [hnonce] at this
      cases this
    constructor
    · rintro ⟨nonceAccount, hash, hall⟩
      by_contra hcon
      obtain ⟨-, -, hhash, hcompiles⟩ := by simpa only [not_or] using hcon
      obtain ⟨task, htask, hcompile⟩ : ∃ task ∈ (args.launch sdk world).1,
          sdk.compiles args.payer.pubkey (task.body sdk args) args.addressLookupTableAccount := by
        simpa using hcompiles
      obtain ⟨transaction, hbuild⟩ := (exists_build_iff hmm hnonce task).mpr
        ⟨Option.isSome_iff_ne_none.mpr hhash, hcompile⟩
      have := (hall task htask transaction hbuild).1
      rw [hnonce] at this
      cases this
    · intro hcon
      refine ⟨default, default, fun task htask transaction hbuild => ?_⟩
      obtain ⟨hhash, hcompile⟩ := (exists_build_iff hmm hnonce task).mp ⟨transaction, hbuild⟩
      rcases hcon with hbuy | hnone | hnohash | hno
      · exact absurd hbuy hsell
      · cases hnone
      · rw [hnohash] at hhash
        cases hhash
      · exact absurd hcompile (hno task htask)

/-- With a durable nonce both transactions of the small trade carry it. -/
theorem excludeEachOther_iff_sell :
    let args := { sampleArgs with durableNonce := some ⟨some ⟨3⟩, some ⟨4⟩⟩ }
    let world := sampleWorld fun _ _ => sampleNet 200 ""
    (args.launch sampleSdk world).1.length = 2 ∧
      ExcludeEachOther sampleSdk args (args.launch sampleSdk world).1 := by
  intro args world
  have hlen : (args.launch sampleSdk world).1.length = 2 := by decide
  exact ⟨hlen, (excludeEachOther_iff sampleSdk args world rfl hlen.ge).mpr (Or.inr (Or.inl rfl))⟩

/-- With a recent blockhash instead, a sell builds two transactions that can both land. -/
theorem sell_not_excludeEachOther :
    let args := { sampleArgs with recentBlockhash := some ⟨5⟩ }
    let world := sampleWorld fun _ _ => sampleNet 200 ""
    args.middlewareManager = none ∧ (args.launch sampleSdk world).1.length = 2 ∧
      (∀ task ∈ (args.launch sampleSdk world).1, ∃ transaction,
        task.build sampleSdk args = .ret (.ok transaction)) ∧
      ¬ ExcludeEachOther sampleSdk args (args.launch sampleSdk world).1 := by
  intro args world
  have hlen : (args.launch sampleSdk world).1.length = 2 := by decide
  have hbuild : ∀ task : Task, ∃ transaction, task.build sampleSdk args = .ret (.ok transaction) :=
    fun task => (exists_build_iff rfl rfl task).mpr ⟨rfl, rfl⟩
  refine ⟨rfl, hlen, fun task _ => hbuild task, ?_⟩
  rintro ⟨nonceAccount, hash, hall⟩
  obtain ⟨task, htask⟩ := List.exists_mem_of_length_pos (hlen ▸ Nat.two_pos)
  obtain ⟨transaction, htransaction⟩ := hbuild task
  cases (hall task htask transaction htransaction).1

end PumpTrade
