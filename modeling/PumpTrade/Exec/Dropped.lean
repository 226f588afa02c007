import PumpTrade.Exec.Agree
import PumpTrade.Exec.Triple

/-!
# Swaps whose middlewares leave nothing

A swap checks that there are instructions before its middlewares run, and not again. The
transactions that follow carry a nonce advance, a tip and a compute budget of their own.

* `DropsAll`, `TakesOut`, `FailsAt`: one of the middlewares drops everything, takes the last of some
  instructions out, or fails, by what it is given itself;
* `applyMiddlewares_eq_nil_iff`, **`applyMiddlewares_without_iff`**, `applyMiddlewares_eq_error_iff`: what
  the chain comes to then;
* `SwapParams.Builds`, `builds_iff`: the transactions that a swap builds, each of which it simulates
  or submits;
* `SendsBusiness`: nothing is sent without an instruction that the protocol middlewares returned;
* **`sendsBusiness_iff`**: that holds exactly where no protocol middleware drops everything, or the swap
  is `Refused` for another reason and left `Unbuilt`, and no full middleware takes the last such
  instruction out.
-/

namespace PumpTrade

open Base

/-! ## The middlewares -/

/-- One of the middlewares is given instructions, and leaves none. -/
def DropsAll (process : InstructionMiddleware → List Instruction → Except Error (List Instruction))
    (middlewares : List InstructionMiddleware) (instructions : List Instruction) : Prop :=
  ∃ earlier m later left, middlewares = earlier ++ m :: later ∧
    applyMiddlewares process earlier instructions = .ok left ∧ left ≠ [] ∧ process m left = .ok []

/-- One of the middlewares fails on what those before it have left. -/
def FailsAt (process : InstructionMiddleware → List Instruction → Except Error (List Instruction))
    (middlewares : List InstructionMiddleware) (instructions : List Instruction) : Prop :=
  ∃ earlier m later left e, middlewares = earlier ++ m :: later ∧
    applyMiddlewares process earlier instructions = .ok left ∧ (earlier ≠ [] → left ≠ []) ∧ process m left = .error e

/-- The list has one of these instructions. -/
def HasSome (wanted instructions : List Instruction) : Prop := ∃ instruction ∈ wanted, instruction ∈ instructions

/-- The middlewares that still run hand none of these instructions on; `full` is what they leave. -/
def StaysOut (process : InstructionMiddleware → List Instruction → Except Error (List Instruction))
    (wanted : List Instruction) : List InstructionMiddleware → List Instruction → (full : List Instruction) → Prop
  | [], instructions, full => full = instructions
  | m :: later, instructions, full => (instructions = [] ∧ full = []) ∨
      (instructions ≠ [] ∧ ∃ processed, process m instructions = .ok processed ∧ ¬ HasSome wanted processed ∧
        StaysOut process wanted later processed full)

/-- One of the middlewares takes the last of these instructions out, and none is put back. -/
def TakesOut (process : InstructionMiddleware → List Instruction → Except Error (List Instruction))
    (wanted : List Instruction) (middlewares : List InstructionMiddleware) (instructions full : List Instruction) :
    Prop :=
  ∃ earlier m later left processed, middlewares = earlier ++ m :: later ∧
    applyMiddlewares process earlier instructions = .ok left ∧ HasSome wanted left ∧
    process m left = .ok processed ∧ ¬ HasSome wanted processed ∧ StaysOut process wanted later processed full

section Middlewares

variable {process : InstructionMiddleware → List Instruction → Except Error (List Instruction)}
  {m : InstructionMiddleware} {middlewares earlier later : List InstructionMiddleware}
  {instructions processed left wanted full : List Instruction}

theorem applyMiddlewares_cons (h : process m instructions = .ok processed) (hne : processed ≠ []) :
    applyMiddlewares process (m :: middlewares) instructions =
      applyMiddlewares process middlewares processed := by
  obtain ⟨first, rest, rfl⟩ := List.exists_cons_of_ne_nil hne
  simp only [applyMiddlewares, h]

theorem applyMiddlewares_cons_nil (h : process m instructions = .ok []) :
    applyMiddlewares process (m :: middlewares) instructions = .ok [] := by
  simp only [applyMiddlewares, h]

theorem applyMiddlewares_cons_error {e : Error} (h : process m instructions = .error e) :
    applyMiddlewares process (m :: middlewares) instructions = .error e := by
  simp only [applyMiddlewares, h]

/-- Where the first middlewares leave instructions, the others go on from these. -/
theorem applyMiddlewares_append (h : applyMiddlewares process earlier instructions = .ok left)
    (hleft : earlier ≠ [] → left ≠ []) :
    applyMiddlewares process (earlier ++ later) instructions = applyMiddlewares process later left := by
  induction earlier generalizing instructions with
  | nil => rw [Except.ok.inj h, List.nil_append]
  | cons m earlier ih =>
    have hne := hleft (List.cons_ne_nil _ _)
    cases hm : process m instructions with
    | error e => cases (applyMiddlewares_cons_error hm).symm.trans h
    | ok processed =>
      by_cases hnil : processed = []
      · subst hnil
        exact absurd (Except.ok.inj ((applyMiddlewares_cons_nil hm).symm.trans h)).symm hne
      · rw [List.cons_append, applyMiddlewares_cons hm hnil]
        rw [applyMiddlewares_cons hm hnil] at h
        exact ih h fun _ => hne

theorem DropsAll.applyMiddlewares_eq (hdrops : DropsAll process middlewares instructions) :
    applyMiddlewares process middlewares instructions = .ok [] := by
  obtain ⟨earlier, m, later, left, rfl, hearlier, hleft, hm⟩ := hdrops
  rw [applyMiddlewares_append hearlier fun _ => hleft, applyMiddlewares_cons_nil hm]

/-- **Instructions are all gone exactly where one of the middlewares drops everything.** -/
theorem applyMiddlewares_eq_nil_iff (hne : instructions ≠ []) :
    applyMiddlewares process middlewares instructions = .ok [] ↔ DropsAll process middlewares instructions := by
  refine ⟨fun h => ?_, DropsAll.applyMiddlewares_eq⟩
  induction middlewares generalizing instructions with
  | nil => exact absurd (Except.ok.inj h) hne
  | cons m middlewares ih =>
    cases hm : process m instructions with
    | error e => cases (applyMiddlewares_cons_error hm).symm.trans h
    | ok processed =>
      by_cases hnil : processed = []
      · subst hnil
        exact ⟨[], m, middlewares, instructions, rfl, rfl, hne, hm⟩
      · rw [applyMiddlewares_cons hm hnil] at h
        obtain ⟨earlier, m', later, left, rfl, hearlier, hleft, hm'⟩ := ih hnil h
        exact ⟨m :: earlier, m', later, left, rfl, (applyMiddlewares_cons hm hnil).trans hearlier, hleft, hm'⟩

/-- **A chain fails exactly where one of its middlewares does.** -/
theorem applyMiddlewares_eq_error_iff :
    (∃ e, applyMiddlewares process middlewares instructions = .error e) ↔
      FailsAt process middlewares instructions := by
  constructor
  · rintro ⟨e, h⟩
    induction middlewares generalizing instructions with
    | nil => cases h
    | cons m middlewares ih =>
      cases hm : process m instructions with
      | error e' => exact ⟨[], m, middlewares, instructions, e', rfl, rfl, absurd rfl, hm⟩
      | ok processed =>
        by_cases hnil : processed = []
        · subst hnil
          cases (applyMiddlewares_cons_nil hm).symm.trans h
        · rw [applyMiddlewares_cons hm hnil] at h
          obtain ⟨earlier, m', later, left, e', rfl, hearlier, hleft, hm'⟩ := ih h
          refine ⟨m :: earlier, m', later, left, e', rfl, (applyMiddlewares_cons hm hnil).trans hearlier, ?_, hm'⟩
          intro _
          by_cases hearlierNil : earlier = []
          · subst hearlierNil
            exact Except.ok.inj hearlier ▸ hnil
          · exact hleft hearlierNil
  · rintro ⟨earlier, m, later, left, e, rfl, hearlier, hleft, hm⟩
    exact ⟨e, by rw [applyMiddlewares_append hearlier hleft, applyMiddlewares_cons_error hm]⟩

theorem HasSome.ne_nil (h : HasSome wanted instructions) : instructions ≠ [] := by
  obtain ⟨instruction, -, hmem⟩ := h
  exact List.ne_nil_of_mem hmem

theorem StaysOut.eq_nil (h : StaysOut process wanted middlewares [] full) : full = [] := by
  cases middlewares <;> simpa [StaysOut] using h

theorem StaysOut.applyMiddlewares_eq (h : StaysOut process wanted middlewares instructions full)
    (hne : instructions ≠ []) (hout : ¬ HasSome wanted instructions) :
    applyMiddlewares process middlewares instructions = .ok full ∧ ¬ HasSome wanted full := by
  induction middlewares generalizing instructions with
  | nil =>
    obtain rfl : full = instructions := h
    exact ⟨rfl, hout⟩
  | cons m later ih =>
    rcases h with ⟨hnil, -⟩ | ⟨-, processed, hm, hprocessed, hlater⟩
    · exact absurd hnil hne
    · by_cases hnil : processed = []
      · subst hnil
        obtain rfl := hlater.eq_nil
        exact ⟨applyMiddlewares_cons_nil hm, hprocessed⟩
      · rw [applyMiddlewares_cons hm hnil]
        exact ih hlater hnil hprocessed

/-- A chain that leaves none of these instructions has taken them out, or has never had them. -/
theorem takesOut_or_staysOut (hne : instructions ≠ [])
    (h : applyMiddlewares process middlewares instructions = .ok full) (hout : ¬ HasSome wanted full) :
    TakesOut process wanted middlewares instructions full ∨
      (¬ HasSome wanted instructions ∧ StaysOut process wanted middlewares instructions full) := by
  induction middlewares generalizing instructions with
  | nil =>
    obtain rfl := Except.ok.inj h
    exact Or.inr ⟨hout, rfl⟩
  | cons m later ih =>
    cases hm : process m instructions with
    | error e => cases (applyMiddlewares_cons_error hm).symm.trans h
    | ok processed =>
      -- what the chain does from the instructions that this middleware leaves
      have hrest : TakesOut process wanted later processed full ∧ processed ≠ [] ∨
          (¬ HasSome wanted processed ∧ StaysOut process wanted later processed full) := by
        by_cases hnil : processed = []
        · subst hnil
          obtain rfl : full = [] := (Except.ok.inj ((applyMiddlewares_cons_nil hm).symm.trans h)).symm
          exact Or.inr ⟨hout, by cases later <;> simp [StaysOut]⟩
        · rw [applyMiddlewares_cons hm hnil] at h
          exact (ih hnil h).imp_left fun htakes => ⟨htakes, hnil⟩
      rcases hrest with ⟨⟨earlier, m', later', left, processed', rfl, hearlier, htakes⟩, hnil⟩ | ⟨hprocessed, hlater⟩
      · exact Or.inl ⟨m :: earlier, m', later', left, processed', rfl,
          (applyMiddlewares_cons hm hnil).trans hearlier, htakes⟩
      · by_cases hhas : HasSome wanted instructions
        · exact Or.inl ⟨[], m, later, instructions, processed, rfl, rfl, hhas, hm, hprocessed, hlater⟩
        · exact Or.inr ⟨hhas, Or.inr ⟨hne, processed, hm, hprocessed, hlater⟩⟩

/-- **A chain that is given some of these instructions leaves none of them** exactly where one of its
middlewares takes the last one out. -/
theorem applyMiddlewares_without_iff (h : HasSome wanted instructions) :
    (applyMiddlewares process middlewares instructions = .ok full ∧ ¬ HasSome wanted full) ↔
      TakesOut process wanted middlewares instructions full := by
  constructor
  · rintro ⟨happly, hout⟩
    exact (takesOut_or_staysOut h.ne_nil happly hout).resolve_right fun hstays => hstays.1 h
  · rintro ⟨earlier, m, later, left, processed, rfl, hearlier, hhas, hm, hprocessed, hlater⟩
    rw [applyMiddlewares_append hearlier fun _ => hhas.ne_nil]
    by_cases hnil : processed = []
    · subst hnil
      obtain rfl := hlater.eq_nil
      exact ⟨applyMiddlewares_cons_nil hm, hprocessed⟩
    · rw [applyMiddlewares_cons hm hnil]
      exact hlater.applyMiddlewares_eq hnil hprocessed

end Middlewares

theorem subset_bodyInstructions (sdk : Sdk) (payer : Keypair) (unitLimit : UInt32) (unitPrice : UInt64)
    (businessInstructions : List Instruction) (withTip : Bool) (tipAccount : Pubkey) (tipAmount : F64) :
    businessInstructions ⊆ bodyInstructions sdk payer unitLimit unitPrice businessInstructions withTip
      tipAccount tipAmount :=
  List.subset_append_right _ _

/-! ## The transactions of a swap -/

namespace SwapParams

variable (sdk : Sdk) (world : World) (params : SwapParams) (protocolName : String)

/-- Building the transaction that is simulated, with the fees of the default service. -/
def simulationBuild (fees : GasFeeStrategyValue) (instructions : List Instruction) :
    Outcome (Except Error VersionedTransaction) :=
  buildTransaction sdk params.payer fees.cuLimit fees.cuPrice instructions params.addressLookupTableAccount
    params.recentBlockhash params.middlewareManager protocolName params.isBuy false default
    (if params.tips then fees.tip else F64.zero) params.durableNonce

/-- The fees of a simulation, where there is a node to simulate. -/
def simulationFees : Option GasFeeStrategyValue :=
  params.rpc.bind fun _ => defaultFees (world.hash 0) (world.strategies 0) params.isBuy

/-- The swap builds the transaction from these instructions. A simulation is of the transaction
built, and every spawned task submits the one it has built. -/
def Builds (instructions : List Instruction) (transaction : VersionedTransaction) : Prop :=
  if params.simulate then
    ∃ fees ∈ params.simulationFees world,
      params.simulationBuild sdk protocolName fees instructions = .ret (.ok transaction)
  else
    ∃ task ∈ ((params.tradeArgs protocolName instructions).launch sdk world).1,
      task.build sdk (params.tradeArgs protocolName instructions) = .ret (.ok transaction)

/-- What follows the nonce advance in each transaction of the swap, before the middlewares. -/
def bodies (instructions : List Instruction) : List (List Instruction) :=
  if params.simulate then
    (params.simulationFees world).toList.map fun fees =>
      bodyInstructions sdk params.payer fees.cuLimit fees.cuPrice instructions false default
        (if params.tips then fees.tip else F64.zero)
  else
    ((params.tradeArgs protocolName instructions).launch sdk world).1.map fun task =>
      task.body sdk (params.tradeArgs protocolName instructions)

/-- The middlewares leave the full instructions for a transaction of the swap, and they compile. -/
def Leaves (instructions full : List Instruction) : Prop :=
  ∃ nonceInstructions blockhash,
    lifetime params.payer params.recentBlockhash params.durableNonce = some (nonceInstructions, blockhash) ∧
    ∃ body ∈ params.bodies sdk world protocolName instructions,
      fullInstructions params.middlewareManager (nonceInstructions ++ body) protocolName params.isBuy = .ok full ∧
      sdk.compiles params.payer.pubkey full params.addressLookupTableAccount

/-- One of the middlewares fails on the transaction with this body. -/
def FullFails (body : List Instruction) : Prop :=
  ∃ nonceInstructions blockhash mm,
    lifetime params.payer params.recentBlockhash params.durableNonce = some (nonceInstructions, blockhash) ∧
    params.middlewareManager = some mm ∧
    FailsAt (fun m is => m.processFullInstructions is protocolName params.isBuy) mm.middlewares
      (nonceInstructions ++ body)

/-- The swap with these instructions ends with an error whatever its middlewares have dropped. There is
nothing to simulate with, or one of the middlewares fails on the transaction that is to be simulated; or
the submission is rejected before its tasks are waited for, and the swap does not confirm. -/
def Refused (instructions : List Instruction) : Prop :=
  if params.simulate then
    params.rpc = none ∨ defaultFees (world.hash 0) (world.strategies 0) params.isBuy = none ∨
      ∀ body ∈ params.bodies sdk world protocolName instructions, params.FullFails protocolName body
  else
    params.waitTransactionConfirmed = false ∧ (params.tradeArgs protocolName instructions).Rejected world

/-- No transaction with these instructions is built: for none of those that are begun a lifetime is
given and the middlewares leave what compiles. -/
def Unbuilt (instructions : List Instruction) : Prop :=
  ∀ body ∈ params.bodies sdk world protocolName instructions, ∀ nonceInstructions blockhash,
    lifetime params.payer params.recentBlockhash params.durableNonce = some (nonceInstructions, blockhash) →
    ∀ full, fullInstructions params.middlewareManager (nonceInstructions ++ body) protocolName params.isBuy = .ok full →
      ¬ sdk.compiles params.payer.pubkey full params.addressLookupTableAccount

variable {sdk world params protocolName}

/-- A transaction that a swap builds is one of its bodies after the nonce advance and the
middlewares. -/
theorem builds_iff_signed {instructions : List Instruction} {transaction : VersionedTransaction} :
    params.Builds sdk world protocolName instructions transaction ↔
    ∃ body ∈ params.bodies sdk world protocolName instructions, ∃ nonceInstructions blockhash full,
      lifetime params.payer params.recentBlockhash params.durableNonce = some (nonceInstructions, blockhash) ∧
      fullInstructions params.middlewareManager (nonceInstructions ++ body) protocolName params.isBuy = .ok full ∧
      sdk.compiles params.payer.pubkey full params.addressLookupTableAccount ∧
      transaction = signed sdk params.payer full blockhash params.addressLookupTableAccount := by
  unfold Builds bodies
  cases params.simulate with
  | true => simp only [if_true, simulationBuild, buildTransaction_eq_ok, List.mem_map,
      exists_exists_and_eq_and, Option.mem_toList, Option.mem_def]
  | false =>
    simp only [Bool.false_eq_true, if_false, Task.build_eq_ok, List.mem_map, exists_exists_and_eq_and]
    rfl

/-- **What a swap builds**: a transaction for each list that the middlewares leave and that
compiles. -/
theorem builds_iff {instructions full : List Instruction} :
    (∃ transaction, params.Builds sdk world protocolName instructions transaction ∧
      transaction.message.body.instructions = full) ↔
    params.Leaves sdk world protocolName instructions full := by
  constructor
  · rintro ⟨transaction, hbuilds, rfl⟩
    obtain ⟨body, hbody, nonceInstructions, blockhash, full, hlife, hfull, hcompiles, rfl⟩ :=
      builds_iff_signed.mp hbuilds
    refine ⟨nonceInstructions, blockhash, hlife, body, hbody, ?_⟩
    simpa [signed] using ⟨hfull, hcompiles⟩
  · rintro ⟨nonceInstructions, blockhash, hlife, body, hbody, hfull, hcompiles⟩
    refine ⟨signed sdk params.payer full blockhash params.addressLookupTableAccount,
      builds_iff_signed.mpr ?_, by simp [signed]⟩
    exact ⟨body, hbody, nonceInstructions, blockhash, full, hlife, hfull, hcompiles, rfl⟩

theorem subset_of_mem_bodies {instructions body : List Instruction}
    (hbody : body ∈ params.bodies sdk world protocolName instructions) : instructions ⊆ body := by
  unfold bodies at hbody
  cases hsimulate : params.simulate with
  | true =>
    rw [hsimulate, if_pos rfl] at hbody
    obtain ⟨fees, -, rfl⟩ := List.mem_map.mp hbody
    exact subset_bodyInstructions _ _ _ _ _ _ _ _
  | false =>
    rw [hsimulate, if_neg Bool.false_ne_true] at hbody
    obtain ⟨task, -, rfl⟩ := List.mem_map.mp hbody
    exact subset_bodyInstructions _ _ _ _ _ _ _ _

theorem fullFails_iff {body : List Instruction} : params.FullFails protocolName body ↔
    ∃ e nonceInstructions blockhash,
      lifetime params.payer params.recentBlockhash params.durableNonce = some (nonceInstructions, blockhash) ∧
      fullInstructions params.middlewareManager (nonceInstructions ++ body) protocolName params.isBuy = .error e := by
  unfold FullFails fullInstructions MiddlewareManager.applyMiddlewaresProcessFullInstructions
  cases params.middlewareManager with
  | none => simp
  | some mm =>
    simp only [Option.some.injEq, exists_and_left, exists_eq_left', ← applyMiddlewares_eq_error_iff]
    tauto

theorem unbuilt_iff {instructions : List Instruction} : params.Unbuilt sdk world protocolName instructions ↔
    ∀ transaction, ¬ params.Builds sdk world protocolName instructions transaction := by
  simp only [builds_iff_signed]
  constructor
  · rintro h transaction ⟨body, hbody, nonceInstructions, blockhash, full, hlife, hfull, hcompiles, -⟩
    exact h body hbody nonceInstructions blockhash hlife full hfull hcompiles
  · intro h body hbody nonceInstructions blockhash hlife full hfull hcompiles
    exact h _ ⟨body, hbody, nonceInstructions, blockhash, full, hlife, hfull, hcompiles, rfl⟩

/-- Without middlewares every transaction has all the business instructions. -/
theorem Leaves.subset {instructions full : List Instruction}
    (h : params.Leaves sdk world protocolName instructions full) (hnone : params.middlewareManager = none) :
    instructions ⊆ full := by
  obtain ⟨nonceInstructions, blockhash, -, body, hbody, hfull, -⟩ := h
  rw [hnone] at hfull
  obtain rfl := Except.ok.inj hfull
  exact List.Subset.trans (subset_of_mem_bodies hbody) (List.subset_append_right _ _)

end SwapParams

/-! ## Errors without a transaction -/

section Refused

variable {sdk : Sdk} {world : World} {params : SwapParams} {protocolName : String}
  {instructions : List Instruction}

/-- A simulation that builds nothing is an error exactly where the middlewares fail on what it would
build. -/
theorem simulateTransaction_error_iff (hsimulate : params.simulate = true)
    (hnothing : ∀ transaction, ¬ params.Builds sdk world protocolName instructions transaction) :
    (∃ e, simulateTransaction sdk params protocolName world instructions = .ret (.error e)) ↔
      params.Refused sdk world protocolName instructions := by
  unfold SwapParams.Builds at hnothing
  unfold SwapParams.Refused SwapParams.bodies simulateTransaction
  simp only [hsimulate, if_true] at hnothing ⊢
  cases hrpc : params.rpc with
  | none => simp [SwapParams.simulationFees, hrpc]
  | some rpc =>
    cases hfees : defaultFees (world.hash 0) (world.strategies 0) params.isBuy with
    | none => simp [SwapParams.simulationFees, hrpc, hfees]
    | some fees =>
      have hsome : params.simulationFees world = some fees := by
        rw [SwapParams.simulationFees, hrpc, Option.bind_some, hfees]
      simp only [hsome, Option.mem_def, Option.some.injEq, exists_eq_left', Option.toList_some, List.map_cons,
        List.map_nil, List.mem_singleton, forall_eq, reduceCtorEq, false_or, SwapParams.fullFails_iff] at hnothing ⊢
      exact (Outcome.bind_eq_error_iff hnothing).trans (exists_congr fun e => buildTransaction_eq_error)

/-- A call that does not wait for confirmation is an error along every schedule exactly where it is
rejected before it waits for its tasks. -/
theorem executeParallel_error_iff {args : TradeArgs} (hwait : args.waitTransactionConfirmed = false) :
    (∀ schedule, ∃ e, executeParallel sdk args world schedule = some (.error e)) ↔ args.Rejected world := by
  refine Iff.trans ?_ (launch_error_iff : (∃ e, (args.launch sdk world).2 = some e) ↔ _)
  unfold executeParallel
  rcases args.launch sdk world with ⟨tasks, _ | e⟩
  · simp only [hwait, Bool.false_eq_true, if_false]
    constructor
    · intro h
      obtain ⟨e, he⟩ := h fun _ => []
      obtain ⟨s, -, hs⟩ := Option.bind_eq_some_iff.mp he
      split at hs <;> cases hs
    · rintro ⟨e, he⟩
      cases he
  · exact ⟨fun _ => ⟨e, rfl⟩, fun _ _ => ⟨e, rfl⟩⟩

end Refused

/-! ## Business instructions in every transaction -/

namespace GenericTradeExecutor

variable (executor : GenericTradeExecutor) (sdk : Sdk) (texts : Texts) (world : World) (params : SwapParams)

/-- The instructions of the protocol, before any check. -/
def builtInstructions : Outcome (Except Error (List Instruction)) :=
  if params.isBuy then executor.instructionBuilder.buildBuyInstructions params
  else executor.instructionBuilder.buildSellInstructions params

/-- There are instructions, and one of the protocol middlewares drops all that it is given. -/
def DropsBusiness : Prop := ∃ built mm, executor.builtInstructions params = .ret (.ok built) ∧ built ≠ [] ∧
  params.middlewareManager = some mm ∧
  DropsAll (fun m is => m.processProtocolInstructions is executor.protocolName params.isBuy) mm.middlewares built

/-- Where the protocol middlewares leave nothing, the swap is an error and builds no transaction;
and each transaction that it builds, to simulate or to submit it, contains an instruction that they
have left. -/
structure SendsBusiness : Prop where
  refuses : executor.Submits params [] →
    (∀ schedule, ∃ e, executor.swap params sdk texts world schedule = some (.error e)) ∧
    ∀ transaction, ¬ params.Builds sdk world executor.protocolName [] transaction
  contains : ∀ instructions transaction, executor.Submits params instructions →
    params.Builds sdk world executor.protocolName instructions transaction →
      ∃ instruction ∈ instructions, instruction ∈ transaction.message.body.instructions

/-- No protocol middleware drops everything, or the swap without business instructions is refused for
another reason and builds nothing. Of the instructions that the protocol middlewares have left, no
full middleware takes out the last one in a transaction that compiles. -/
structure KeepsBusiness : Prop where
  refused : executor.DropsBusiness params → params.Refused sdk world executor.protocolName []
  unbuilt : executor.DropsBusiness params → params.Unbuilt sdk world executor.protocolName []
  kept : ∀ mm instructions, params.middlewareManager = some mm → executor.Submits params instructions →
    instructions ≠ [] → ∀ body ∈ params.bodies sdk world executor.protocolName instructions,
    ∀ nonceInstructions blockhash,
      lifetime params.payer params.recentBlockhash params.durableNonce = some (nonceInstructions, blockhash) →
    ∀ full, TakesOut (fun m is => m.processFullInstructions is executor.protocolName params.isBuy) instructions
        mm.middlewares (nonceInstructions ++ body) full →
      ¬ sdk.compiles params.payer.pubkey full params.addressLookupTableAccount

variable {executor sdk texts world params}

/-- The instructions that a swap hands on: built, not empty, and after the middlewares. -/
theorem submits_iff {instructions : List Instruction} : executor.Submits params instructions ↔
    ∃ built, executor.builtInstructions params = .ret (.ok built) ∧ built ≠ [] ∧
      protocolInstructions params.middlewareManager built executor.protocolName params.isBuy =
        .ok instructions := by
  have hfinal : executor.finalInstructions params = executor.builtInstructions params >>= fun built =>
      .ret (built >>= fun instructions => preprocess instructions >>= fun _ =>
        protocolInstructions params.middlewareManager instructions executor.protocolName params.isBuy) := by
    unfold finalInstructions builtInstructions
    cases params.isBuy <;> rfl
  rw [Submits, hfinal, Outcome.bind_eq_ret]
  constructor
  · rintro ⟨built, hbuilt, h⟩
    cases built with
    | error e => cases h
    | ok built =>
      have hne : built ≠ [] := fun hnil => by
        subst hnil
        cases h
      refine ⟨built, hbuilt, hne, ?_⟩
      simpa [preprocess, hne, bind, Except.bind] using h
  · rintro ⟨built, hbuilt, hne, h⟩
    refine ⟨.ok built, hbuilt, ?_⟩
    simpa [preprocess, hne, bind, Except.bind] using h

/-- A swap is left with nothing exactly where a middleware drops the business instructions. -/
theorem submits_nil_iff : executor.Submits params [] ↔ executor.DropsBusiness params := by
  rw [submits_iff]
  constructor
  · rintro ⟨built, hbuilt, hne, h⟩
    cases hmm : params.middlewareManager with
    | none =>
      rw [hmm] at h
      exact absurd (Except.ok.inj h) hne
    | some mm =>
      rw [hmm] at h
      exact ⟨built, mm, hbuilt, hne, hmm, (applyMiddlewares_eq_nil_iff hne).mp h⟩
  · rintro ⟨built, mm, hbuilt, hne, hmm, hdrops⟩
    refine ⟨built, hbuilt, hne, ?_⟩
    rw [hmm]
    exact hdrops.applyMiddlewares_eq

theorem Submits.ne_nil {instructions : List Instruction} (h : executor.Submits params instructions)
    (hnone : params.middlewareManager = none) : instructions ≠ [] := by
  rintro rfl
  obtain ⟨_, mm, -, -, hmm, -⟩ := submits_nil_iff.mp h
  rw [hnone] at hmm
  cases hmm

/-- A swap that builds nothing is an error along every schedule exactly where it is refused. -/
theorem swap_error_iff {instructions : List Instruction} (hsubmits : executor.Submits params instructions)
    (hnothing : ∀ transaction, ¬ params.Builds sdk world executor.protocolName instructions transaction) :
    (∀ schedule, ∃ e, executor.swap params sdk texts world schedule = some (.error e)) ↔
      params.Refused sdk world executor.protocolName instructions := by
  have hfinal : executor.finalInstructions params = .ret (.ok instructions) := hsubmits
  cases hsimulate : params.simulate with
  | true =>
    rw [← simulateTransaction_error_iff hsimulate hnothing]
    simp only [swap, hfinal, hsimulate, if_true, Outcome.value?_eq_some, forall_const]
  | false =>
    unfold swap SwapParams.Refused
    simp only [hfinal, hsimulate, Bool.false_eq_true, if_false]
    have hrejected : (∀ schedule, ∃ e, executeParallel sdk (params.tradeArgs executor.protocolName instructions)
        world schedule = some (.error e)) ↔ _ := executeParallel_error_iff rfl
    rw [← hrejected]
    cases params.waitTransactionConfirmed with
    | true =>
      -- a swap that confirms is never an error once it submits
      refine ⟨fun h => ?_, fun h => absurd h.1 (by decide)⟩
      obtain ⟨e, he⟩ := h fun _ => []
      obtain ⟨result, -, hresult⟩ := Option.bind_eq_some_iff.mp he
      cases hresult
    | false => simp

/-- What is built lacks the business instructions exactly where a full middleware has taken out the
last one. -/
theorem leaves_without_iff {mm : MiddlewareManager} {instructions full : List Instruction}
    (hmm : params.middlewareManager = some mm) (hne : instructions ≠ []) :
    (params.Leaves sdk world executor.protocolName instructions full ∧ ¬ HasSome instructions full) ↔
      ∃ body ∈ params.bodies sdk world executor.protocolName instructions, ∃ nonceInstructions blockhash,
        lifetime params.payer params.recentBlockhash params.durableNonce = some (nonceInstructions, blockhash) ∧
        TakesOut (fun m is => m.processFullInstructions is executor.protocolName params.isBuy) instructions
          mm.middlewares (nonceInstructions ++ body) full ∧
        sdk.compiles params.payer.pubkey full params.addressLookupTableAccount := by
  obtain ⟨first, hfirst⟩ := List.exists_mem_of_ne_nil _ hne
  -- the instructions are all there when the full middlewares start
  have hhas : ∀ body ∈ params.bodies sdk world executor.protocolName instructions, ∀ nonceInstructions,
      HasSome instructions (nonceInstructions ++ body) := fun body hbody _ =>
    ⟨first, hfirst, List.mem_append_right _ (SwapParams.subset_of_mem_bodies hbody hfirst)⟩
  constructor
  · rintro ⟨⟨nonceInstructions, blockhash, hlife, body, hbody, hfull, hcompiles⟩, hout⟩
    rw [hmm] at hfull
    refine ⟨body, hbody, nonceInstructions, blockhash, hlife, ?_, hcompiles⟩
    exact (applyMiddlewares_without_iff (hhas body hbody _)).mp ⟨hfull, hout⟩
  · rintro ⟨body, hbody, nonceInstructions, blockhash, hlife, htakes, hcompiles⟩
    obtain ⟨hfull, hout⟩ := (applyMiddlewares_without_iff (hhas body hbody _)).mpr htakes
    refine ⟨⟨nonceInstructions, blockhash, hlife, body, hbody, ?_, hcompiles⟩, hout⟩
    rw [hmm]
    exact hfull

/-- Each transaction of the swap has an instruction that the protocol middlewares have left, if no full
middleware takes the last one out and nothing is built where none is left. -/
theorem KeepsBusiness.contains (h : executor.KeepsBusiness sdk world params) {instructions : List Instruction}
    {transaction : VersionedTransaction} (hsubmits : executor.Submits params instructions)
    (hbuilds : params.Builds sdk world executor.protocolName instructions transaction) :
    HasSome instructions transaction.message.body.instructions := by
  have hleaves := SwapParams.builds_iff.mp ⟨transaction, hbuilds, rfl⟩
  by_cases hne : instructions = []
  · subst hne
    exact absurd hbuilds (SwapParams.unbuilt_iff.mp (h.unbuilt (submits_nil_iff.mp hsubmits)) transaction)
  · cases hmm : params.middlewareManager with
    | some mm =>
      by_contra hout
      obtain ⟨body, hbody, nonceInstructions, blockhash, hlife, htakes, hcompiles⟩ :=
        (leaves_without_iff hmm hne).mp ⟨hleaves, hout⟩
      exact h.kept mm instructions hmm hsubmits hne body hbody nonceInstructions blockhash hlife _ htakes hcompiles
    | none =>
      obtain ⟨instruction, hmem⟩ := List.exists_mem_of_ne_nil _ hne
      exact ⟨instruction, hmem, hleaves.subset hmm hmem⟩

/-- **Business instructions are sent exactly where the middlewares keep them.** -/
theorem sendsBusiness_iff (executor : GenericTradeExecutor) (sdk : Sdk) (texts : Texts) (world : World)
    (params : SwapParams) :
    executor.SendsBusiness sdk texts world params ↔ executor.KeepsBusiness sdk world params := by
  constructor
  · intro h
    have hdropped : executor.DropsBusiness params → params.Unbuilt sdk world executor.protocolName [] :=
      fun hdrops => SwapParams.unbuilt_iff.mpr (h.refuses (submits_nil_iff.mpr hdrops)).2
    refine ⟨fun hdrops => ?_, hdropped, ?_⟩
    · exact (swap_error_iff (submits_nil_iff.mpr hdrops) (SwapParams.unbuilt_iff.mp (hdropped hdrops))).mp
        (h.refuses (submits_nil_iff.mpr hdrops)).1
    · intro mm instructions hmm hsubmits hne body hbody nonceInstructions blockhash hlife full htakes hcompiles
      obtain ⟨hleaves, hout⟩ := (leaves_without_iff hmm hne).mpr
        ⟨body, hbody, nonceInstructions, blockhash, hlife, htakes, hcompiles⟩
      obtain ⟨transaction, hbuilds, rfl⟩ := SwapParams.builds_iff.mpr hleaves
      exact hout (h.contains instructions transaction hsubmits hbuilds)
  · intro h
    refine ⟨fun hnil => ?_, fun instructions transaction => h.contains⟩
    have hnothing := SwapParams.unbuilt_iff.mp (h.unbuilt (submits_nil_iff.mp hnil))
    exact ⟨(swap_error_iff hnil hnothing).mpr (h.refused (submits_nil_iff.mp hnil)), hnothing⟩

/-- A middleware that drops the instructions of the protocol and keeps all others. -/
def droppingMiddleware : InstructionMiddleware where
  processProtocolInstructions _ _ _ := .ok []
  processFullInstructions instructions _ _ := .ok instructions

/-- A sell through Jito and the RPC node with a middleware that drops the sale: both transactions go
out, the one through Jito with its tip, and the swap is reported as a success. -/
theorem sendsBusiness_dropped :
    let world := sampleWorld fun _ _ => sampleNet 200 ""
    let params := { (sampleParams sampleArgs.swqosClients).waiting false with
      middlewareManager := some ⟨[droppingMiddleware]⟩ }
    sampleExecutor.builtInstructions params = .ret (.ok sampleArgs.instructions) ∧
    sampleExecutor.Submits params [] ∧
    (∃ tipAccount transaction, params.Builds sampleSdk world "PumpFun" [] transaction ∧
      transaction.message.body.instructions =
        [transfer sampleArgs.payer.pubkey tipAccount 1000000, setComputeUnitPrice 100000,
          setComputeUnitLimit 200000]) ∧
    sampleExecutor.swap params sampleSdk sampleClientSdk.toTexts world (sampleSchedule 0 1) =
      some (.ok ⟨true, [⟨3⟩, ⟨2⟩], none⟩) ∧
    ¬ sampleExecutor.SendsBusiness sampleSdk sampleClientSdk.toTexts world params := by
  intro world params
  have hswap : sampleExecutor.swap params sampleSdk sampleClientSdk.toTexts world (sampleSchedule 0 1) =
      some (.ok ⟨true, [⟨3⟩, ⟨2⟩], none⟩) := by decide +kernel
  have hbuilds : ∃ tipAccount transaction, params.Builds sampleSdk world "PumpFun" [] transaction ∧
      transaction.message.body.instructions =
        [transfer sampleArgs.payer.pubkey tipAccount 1000000, setComputeUnitPrice 100000,
          setComputeUnitLimit 200000] := by
    refine ⟨⟨0x78521cb179cebb8589b556a2d5ec94d2498682fdf9bb2af5ad64e491cc4153da⟩, SwapParams.builds_iff.mpr ?_⟩
    refine ⟨[], ⟨5⟩, rfl, [transfer sampleArgs.payer.pubkey _ 1000000, setComputeUnitPrice 100000,
      setComputeUnitLimit 200000], ?_, rfl, rfl⟩
    decide +kernel
  refine ⟨rfl, rfl, hbuilds, hswap, fun h => ?_⟩
  obtain ⟨e, he⟩ := (h.refuses rfl).1 (sampleSchedule 0 1)
  rw [hswap] at he
  cases he

end GenericTradeExecutor

end PumpTrade
