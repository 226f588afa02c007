import PumpTrade.Exec.Swap

/-!
# Swaps that submit nothing

What a swap returns where the checks of `execute_parallel` end it before anything is spawned, with
and without waiting for confirmation.

* `TradeArgs.Passes`: the checks before the first task, read off the arguments;
* `launch_eq_error_iff`: nothing is spawned exactly where a check fails;
* `AgreesOnFailure`: with either flag such a swap is the same error, and no other is a triple;
* **`agreesOnFailure_iff`**: that holds exactly where a swap that confirms never fails a check.
-/

namespace PumpTrade

open Base

/-! ## The checks -/

namespace TradeArgs

variable (args : TradeArgs) (world : World)

/-- The checks before the first task pass: there are clients, the RPC node among them for a trade
without a tip, some strategy is left, several for a buy only with a durable nonce, and the client of
the first has a tip account. -/
structure Passes : Prop where
  clients : args.swqosClients ≠ []
  default : args.withTip = false → ∃ client ∈ args.swqosClients, client.swqosType = .default
  strategy : args.taskConfigs world ≠ []
  nonce : args.isBuy = true → 1 < (args.taskConfigs world).length → args.durableNonce.isSome
  tipAccount : ∀ config ∈ (args.taskConfigs world).head?,
    ∃ tipAccount, config.client.getTipAccount (world.draw 0) = .ok tipAccount

variable {args world}

theorem prepare_eq_ok_iff {configs : List TaskConfig} : args.prepare world = .ok configs ↔
    args.swqosClients ≠ [] ∧
      (args.withTip = false → ∃ client ∈ args.swqosClients, client.swqosType = .default) ∧
      args.taskConfigs world ≠ [] ∧
      (args.isBuy = true → 1 < (args.taskConfigs world).length → args.durableNonce.isSome) ∧
      configs = args.taskConfigs world := by
  constructor
  · intro h
    have hclients : args.swqosClients ≠ [] := fun hnil => by
      simp [prepare, hnil] at h
    have hdefault : args.withTip = false → ∃ client ∈ args.swqosClients, client.swqosType = .default := by
      intro htip
      by_contra hnone
      have hany : (args.swqosClients.any fun client => client.swqosType = .default) = false := by
        simpa using hnone
      simp [prepare, hclients, htip, hany] at h
    obtain ⟨rfl, hne, hnonce⟩ := prepare_eq_ok h
    exact ⟨hclients, hdefault, hne, hnonce, rfl⟩
  · rintro ⟨hclients, hdefault, hne, hnonce, rfl⟩
    have hany : (!args.withTip && !args.swqosClients.any fun client => client.swqosType = .default) = false := by
      cases htip : args.withTip with
      | true => rfl
      | false => simpa using hdefault htip
    have hmultiple : (args.isBuy && decide (1 < (args.taskConfigs world).length) &&
        args.durableNonce.isNone) = false := by
      cases hbuy : args.isBuy with
      | false => rfl
      | true =>
        by_cases hlen : 1 < (args.taskConfigs world).length
        · have hsome := hnonce hbuy hlen
          cases hn : args.durableNonce with
          | none => simp [hn] at hsome
          | some nonce => simp
        · simp [hlen]
    simp [prepare, hclients, hne, hany, hmultiple]

end TradeArgs

section Launch

variable {sdk : Sdk} {args : TradeArgs} {world : World}

/-- The loop spawns nothing exactly where its first client has no tip account. -/
theorem spawn_eq_nil_iff {k : ℕ} {configs : List TaskConfig} :
    (TradeArgs.spawn sdk world k configs).1 = [] ↔
      ∀ config ∈ configs.head?, ∀ tipAccount, config.client.getTipAccount (world.draw k) ≠ .ok tipAccount := by
  cases configs with
  | nil => simp [TradeArgs.spawn]
  | cons config configs =>
    unfold TradeArgs.spawn
    cases hc : config.client.getTipAccount (world.draw k) with
    | error e => simp [hc]
    | ok tipAccount => simp [hc]

variable (sdk) in
/-- **Some task is spawned exactly where the checks pass.** -/
theorem launch_ne_nil_iff : (args.launch sdk world).1 ≠ [] ↔ args.Passes world := by
  unfold TradeArgs.launch
  cases hprep : args.prepare world with
  | error e =>
    refine ⟨fun h => absurd rfl h, fun h => ?_⟩
    have hok := TradeArgs.prepare_eq_ok_iff.mpr ⟨h.clients, h.default, h.strategy, h.nonce, rfl⟩
    rw [hprep] at hok
    cases hok
  | ok configs =>
    obtain ⟨hclients, hdefault, hne, hnonce, rfl⟩ := TradeArgs.prepare_eq_ok_iff.mp hprep
    obtain ⟨config, hconfig⟩ := Option.isSome_iff_exists.mp (List.isSome_head?.mpr hne)
    rw [Ne, spawn_eq_nil_iff]
    constructor
    · intro h
      refine ⟨hclients, hdefault, hne, hnonce, fun first hfirst => ?_⟩
      by_contra hnone
      refine h fun config' hconfig' tipAccount htip => hnone ⟨tipAccount, ?_⟩
      rwa [Option.mem_unique hfirst hconfig']
    · intro h hnone
      obtain ⟨tipAccount, htip⟩ := h.tipAccount config hconfig
      exact hnone config hconfig tipAccount htip

theorem launch_eq_error (h : (args.launch sdk world).1 = []) : ∃ e, args.launch sdk world = ([], some e) := by
  rcases hlaunch : args.launch sdk world with ⟨tasks, _ | e⟩
  · rw [hlaunch] at h
    have hpos := launch_length_pos hlaunch
    rw [show tasks = [] from h] at hpos
    exact absurd hpos (lt_irrefl 0)
  · rw [hlaunch] at h
    exact ⟨e, Prod.ext h rfl⟩

variable (sdk) in
/-- **Nothing is spawned, and the call is an error, exactly where a check fails.** -/
theorem launch_eq_error_iff : (∃ e, args.launch sdk world = ([], some e)) ↔ ¬ args.Passes world := by
  rw [← launch_ne_nil_iff sdk, not_not]
  constructor
  · rintro ⟨e, h⟩
    rw [h]
  · exact launch_eq_error

end Launch

/-! ## Both flags -/

/-- The parameters of the same swap that waits for confirmation, or does not. -/
def SwapParams.waiting (params : SwapParams) (waitTransactionConfirmed : Bool) : SwapParams :=
  { params with waitTransactionConfirmed }

namespace GenericTradeExecutor

section Agree

variable (executor : GenericTradeExecutor) (sdk : Sdk) (texts : Texts) (world : World) (params : SwapParams)

/-- The swap submits these instructions. -/
def Submits (instructions : List Instruction) : Prop :=
  executor.finalInstructions params = .ret (.ok instructions)

/-- The swap comes to submitting, and fails there before any task is spawned. -/
def FailsUnspawned : Prop := ∃ instructions e, executor.Submits params instructions ∧
  (params.tradeArgs executor.protocolName instructions).launch sdk world = ([], some e)

/-- The swap comes to submitting, and spawns a task. -/
def SpawnsTask : Prop := ∃ instructions, executor.Submits params instructions ∧
  ((params.tradeArgs executor.protocolName instructions).launch sdk world).1 ≠ []

/-- Where submitting fails before any task is spawned, the swap is an error with the same message
with and without waiting for confirmation; a triple is returned only after a task was spawned. -/
structure AgreesOnFailure : Prop where
  failure : (∀ wait, executor.FailsUnspawned sdk world (params.waiting wait)) →
    ∀ schedule schedule', ∃ e e',
      executor.swap (params.waiting true) sdk texts world schedule = some (.error e) ∧
      executor.swap (params.waiting false) sdk texts world schedule' = some (.error e') ∧
      e.toText = e'.toText
  spawned : ∀ wait schedule result,
    executor.swap (params.waiting wait) sdk texts world schedule = some (.ok result) →
      executor.SpawnsTask sdk world (params.waiting wait)

variable {executor sdk texts world params}

/-- A swap that fails before any task is spawned: an error without confirmation, and with it a
triple without a signature that carries the text of the error. -/
theorem swap_unspawned {instructions : List Instruction} {e : Error} (hsimulate : params.simulate = false)
    (hsubmits : executor.Submits params instructions)
    (hlaunch : (params.tradeArgs executor.protocolName instructions).launch sdk world = ([], some e))
    (schedule : (n : ℕ) → List (Action n)) :
    executor.swap params sdk texts world schedule =
      if params.waitTransactionConfirmed then some (.ok ⟨false, [], some (.other e.toText)⟩)
      else some (.error e) := by
  have hcall : executeParallel sdk (params.tradeArgs executor.protocolName instructions) world schedule =
      some (.error e) := by
    unfold executeParallel
    rw [hlaunch]
  have hconfirm : confirm texts params.rpc (.error e) = ⟨false, [], some (.other e.toText)⟩ := by
    unfold confirm
    cases params.rpc with
    | none => rfl
    | some rpc => rfl
  have hfinal : executor.finalInstructions params = .ret (.ok instructions) := hsubmits
  cases hwait : params.waitTransactionConfirmed with
  | false => simp [swap, hfinal, hsimulate, hcall, hwait]
  | true => simp [swap, hfinal, hsimulate, hcall, hwait, hconfirm]

theorem exists_submits {schedule : (n : ℕ) → List (Action n)} {result : SwapResult}
    (h : executor.swap params sdk texts world schedule = some (.ok result)) :
    ∃ instructions, executor.Submits params instructions := by
  unfold swap at h
  unfold Submits
  cases hfinal : executor.finalInstructions params with
  | panic msg =>
    rw [hfinal] at h
    cases h
  | ret final =>
    cases final with
    | error e =>
      rw [hfinal] at h
      cases h
    | ok instructions => exact ⟨instructions, rfl⟩

/-- Without confirmation a triple is returned only after a task was spawned. -/
theorem spawnsTask_of_ok (hsimulate : params.simulate = false)
    (hwait : params.waitTransactionConfirmed = false) {schedule : (n : ℕ) → List (Action n)}
    {result : SwapResult} (h : executor.swap params sdk texts world schedule = some (.ok result)) :
    executor.SpawnsTask sdk world params := by
  obtain ⟨instructions, hsubmits⟩ := exists_submits h
  refine ⟨instructions, hsubmits, fun hnil => ?_⟩
  obtain ⟨e, hlaunch⟩ := launch_eq_error hnil
  rw [swap_unspawned hsimulate hsubmits hlaunch, hwait] at h
  cases h

/-- **The flags agree exactly where a swap that confirms never fails a check.** Elsewhere the swap
that confirms is a triple, though nothing was submitted. -/
theorem agreesOnFailure_iff (executor : GenericTradeExecutor) (sdk : Sdk) (texts : Texts) (world : World)
    (params : SwapParams) (hsimulate : params.simulate = false) :
    executor.AgreesOnFailure sdk texts world params ↔
      ∀ instructions, executor.Submits (params.waiting true) instructions →
        ((params.waiting true).tradeArgs executor.protocolName instructions).Passes world := by
  constructor
  · intro h instructions hsubmits
    by_contra hfails
    obtain ⟨e, hlaunch⟩ := (launch_eq_error_iff sdk).mpr hfails
    obtain ⟨instructions', hsubmits', hspawned⟩ := h.spawned true (fun _ => []) _
      (swap_unspawned (show (params.waiting true).simulate = false from hsimulate) hsubmits hlaunch _)
    obtain rfl : instructions = instructions' := by
      have heq := hsubmits.symm.trans hsubmits'
      exact Except.ok.inj (Outcome.ret.inj heq)
    exact hspawned (congrArg Prod.fst hlaunch)
  · intro h
    constructor
    · intro hfails
      obtain ⟨instructions, e, hsubmits, hlaunch⟩ := hfails true
      exact absurd (h instructions hsubmits) ((launch_eq_error_iff sdk).mp ⟨e, hlaunch⟩)
    · intro wait schedule result hswap
      cases wait with
      | false => exact spawnsTask_of_ok hsimulate rfl hswap
      | true =>
        obtain ⟨instructions, hsubmits⟩ := exists_submits hswap
        exact ⟨instructions, hsubmits, (launch_ne_nil_iff sdk).mpr (h instructions hsubmits)⟩

end Agree

end GenericTradeExecutor

/-! ## A small swap -/

/-- An executor that builds one instruction. -/
def sampleExecutor : GenericTradeExecutor where
  instructionBuilder :=
    { buildBuyInstructions := fun _ => .ret (.ok sampleArgs.instructions)
      buildSellInstructions := fun _ => .ret (.ok sampleArgs.instructions) }
  protocolName := "PumpFun"

/-- A sell with a tip through these clients. -/
def sampleParams (swqosClients : List SwqosClient) : SwapParams where
  rpc := none
  payer := sampleArgs.payer
  tradeType := .sell
  addressLookupTableAccount := none
  recentBlockhash := some ⟨5⟩
  waitTransactionConfirmed := true
  swqosClients
  middlewareManager := none
  durableNonce := none
  withTip := true
  simulate := false
  checkMinTip := false

namespace GenericTradeExecutor

/-- With Jito and the RPC node the checks pass, and the flags agree. -/
theorem agreesOnFailure_iff_passing :
    sampleExecutor.AgreesOnFailure sampleSdk sampleClientSdk.toTexts
      (sampleWorld fun _ _ => sampleNet 200 "") (sampleParams sampleArgs.swqosClients) := by
  refine (agreesOnFailure_iff _ _ _ _ _ rfl).mpr fun instructions hsubmits => ?_
  obtain rfl : sampleArgs.instructions = instructions := Except.ok.inj (Outcome.ret.inj hsubmits)
  have hspawned : 0 < ((sampleParams sampleArgs.swqosClients).tradeArgs "PumpFun" sampleArgs.instructions
      |>.launch sampleSdk (sampleWorld fun _ _ => sampleNet 200 "")).1.length := by decide +kernel
  exact (launch_ne_nil_iff sampleSdk).mp (List.ne_nil_of_length_pos hspawned)

/-- No clients: the swap is an error without confirmation and a triple with it. -/
theorem not_agreesOnFailure_no_clients :
    let world := sampleWorld fun _ _ => sampleNet 200 ""
    (sampleParams []).simulate = false ∧
    (∀ wait, sampleExecutor.FailsUnspawned sampleSdk world ((sampleParams []).waiting wait)) ∧
    sampleExecutor.swap ((sampleParams []).waiting false) sampleSdk sampleClientSdk.toTexts world
      (fun _ => []) = some (.error (.other "swqos_clients is empty")) ∧
    sampleExecutor.swap ((sampleParams []).waiting true) sampleSdk sampleClientSdk.toTexts world
      (fun _ => []) = some (.ok ⟨false, [], some (.other "swqos_clients is empty")⟩) ∧
    ¬ sampleExecutor.AgreesOnFailure sampleSdk sampleClientSdk.toTexts world (sampleParams []) := by
  intro world
  refine ⟨rfl, fun wait => ⟨sampleArgs.instructions, .other "swqos_clients is empty", rfl, rfl⟩, rfl, rfl, ?_⟩
  intro hagrees
  obtain ⟨instructions, -, hspawned⟩ := hagrees.spawned true (fun _ => []) _ rfl
  exact hspawned rfl

end GenericTradeExecutor

end PumpTrade
