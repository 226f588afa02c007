import PumpTrade.Swqos.Client

/-!
# Services from their configurations

`SwqosConfig` of `swqos/mod.rs` and the loop of `TradingInfrastructure::new` over the configurations: a
service on the blacklist is left out, and one that cannot be connected to is left out with a log.

* `SwqosConfig`, `SwqosConfig.getEndpoint`: the configurations and the endpoints;
* `SwqosConfig.getSwqosClient`, `newSwqosClients`: the clients;
* `SwqosConfig.started`, `SwqosConfig.started_swqosType`, `SwqosConfig.started_paysCommunity`: the client
  that comes of a configuration, its service and whether it has the special key of Temporal;
* **`newSwqosClients_eq`**: the clients are those, in the order of the configurations.
-/

namespace PumpTrade

open Base

/-- Where a service is reached. -/
inductive SwqosRegion where
  | newYork | frankfurt | amsterdam | slc | tokyo | london | losAngeles | default
  deriving DecidableEq, Repr

/-- The place of a region in the tables. -/
def SwqosRegion.index : SwqosRegion → ℕ
  | newYork => 0
  | frankfurt => 1
  | amsterdam => 2
  | slc => 3
  | tokyo => 4
  | london => 5
  | losAngeles => 6
  | default => 7

/-- A configured service: its token, the region and an endpoint of the user's own. -/
inductive SwqosConfig where
  | default (endpoint : String)
  | jito (uuid : String) (region : SwqosRegion) (customUrl : Option String)
  | nextBlock (apiToken : String) (region : SwqosRegion) (customUrl : Option String)
  | bloxroute (apiToken : String) (region : SwqosRegion) (customUrl : Option String)
  | temporal (apiToken : String) (region : SwqosRegion) (customUrl : Option String)
  | zeroSlot (apiToken : String) (region : SwqosRegion) (customUrl : Option String)
  | node1 (apiToken : String) (region : SwqosRegion) (customUrl : Option String)
  | flashBlock (apiToken : String) (region : SwqosRegion) (customUrl : Option String)
  | blockRazor (apiToken : String) (region : SwqosRegion) (customUrl : Option String)
  | astralane (apiToken : String) (region : SwqosRegion) (customUrl : Option String)
  | stellium (apiToken : String) (region : SwqosRegion) (customUrl : Option String)
  | lightspeed (apiKey : String) (region : SwqosRegion) (customUrl : Option String)
  | soyas (apiToken : String) (region : SwqosRegion) (customUrl : Option String)
  | speedlanding (apiKey : String) (region : SwqosRegion) (customUrl : Option String)
  | helius (apiKey : String) (region : SwqosRegion) (customUrl : Option String) (swqosOnly : Option Bool)
  deriving DecidableEq, Repr

/-- `SWQOS_BLACKLIST`. -/
def swqosBlacklist : List SwqosType := [.nextBlock]

/-- The endpoints of a service, by region; two services have none. -/
def swqosEndpoints : SwqosType → List String
  | .jito =>
    ["https://ny.mainnet.block-engine.jito.wtf", "https://frankfurt.mainnet.block-engine.jito.wtf",
      "https://amsterdam.mainnet.block-engine.jito.wtf", "https://slc.mainnet.block-engine.jito.wtf",
      "https://tokyo.mainnet.block-engine.jito.wtf", "https://london.mainnet.block-engine.jito.wtf",
      "https://ny.mainnet.block-engine.jito.wtf", "https://mainnet.block-engine.jito.wtf"]
  | .nextBlock =>
    ["http://ny.nextblock.io", "http://frankfurt.nextblock.io", "http://amsterdam.nextblock.io",
      "http://slc.nextblock.io", "http://tokyo.nextblock.io", "http://london.nextblock.io",
      "http://singapore.nextblock.io", "http://frankfurt.nextblock.io"]
  | .zeroSlot =>
    ["http://ny.0slot.trade", "http://de2.0slot.trade", "http://ams.0slot.trade", "http://ny.0slot.trade",
      "http://jp.0slot.trade", "http://ams.0slot.trade", "http://la.0slot.trade", "http://de2.0slot.trade"]
  | .temporal =>
    ["http://ewr1.nozomi.temporal.xyz", "http://fra2.nozomi.temporal.xyz",
      "http://ams1.nozomi.temporal.xyz", "http://ewr1.nozomi.temporal.xyz",
      "http://tyo1.nozomi.temporal.xyz", "http://sgp1.nozomi.temporal.xyz",
      "http://pit1.nozomi.temporal.xyz", "http://fra2.nozomi.temporal.xyz"]
  | .bloxroute =>
    ["https://ny.solana.dex.blxrbdn.com", "https://germany.solana.dex.blxrbdn.com",
      "https://amsterdam.solana.dex.blxrbdn.com", "https://ny.solana.dex.blxrbdn.com",
      "https://tokyo.solana.dex.blxrbdn.com", "https://uk.solana.dex.blxrbdn.com",
      "https://la.solana.dex.blxrbdn.com", "https://global.solana.dex.blxrbdn.com"]
  | .node1 =>
    ["http://ny.node1.me", "http://fra.node1.me", "http://ams.node1.me", "http://ny.node1.me",
      "http://tk.node1.me", "http://lon.node1.me", "http://ny.node1.me", "http://fra.node1.me"]
  | .flashBlock =>
    ["http://ny.flashblock.trade", "http://fra.flashblock.trade", "http://ams.flashblock.trade",
      "http://slc.flashblock.trade", "http://singapore.flashblock.trade", "http://london.flashblock.trade",
      "http://ny.flashblock.trade", "http://ny.flashblock.trade"]
  | .blockRazor =>
    ["http://newyork.solana.blockrazor.xyz:443/v2/sendTransaction",
      "http://frankfurt.solana.blockrazor.xyz:443/v2/sendTransaction",
      "http://amsterdam.solana.blockrazor.xyz:443/v2/sendTransaction",
      "http://newyork.solana.blockrazor.xyz:443/v2/sendTransaction",
      "http://tokyo.solana.blockrazor.xyz:443/v2/sendTransaction",
      "http://london.solana.blockrazor.xyz:443/v2/sendTransaction",
      "http://newyork.solana.blockrazor.xyz:443/v2/sendTransaction",
      "http://frankfurt.solana.blockrazor.xyz:443/v2/sendTransaction"]
  | .astralane =>
    ["http://ny.gateway.astralane.io/irisb", "http://fr.gateway.astralane.io/irisb",
      "http://ams.gateway.astralane.io/irisb", "http://ny.gateway.astralane.io/irisb",
      "http://jp.gateway.astralane.io/irisb", "http://ny.gateway.astralane.io/irisb",
      "http://lax.gateway.astralane.io/irisb", "http://lim.gateway.astralane.io/irisb"]
  | .stellium =>
    ["http://ewr1.flashrpc.com", "http://fra1.flashrpc.com", "http://ams1.flashrpc.com",
      "http://ewr1.flashrpc.com", "http://tyo1.flashrpc.com", "http://lhr1.flashrpc.com",
      "http://ewr1.flashrpc.com", "http://fra1.flashrpc.com"]
  | .soyas =>
    ["nyc.landing.soyas.xyz:9000", "fra.landing.soyas.xyz:9000", "ams.landing.soyas.xyz:9000",
      "nyc.landing.soyas.xyz:9000", "tyo.landing.soyas.xyz:9000", "lon.landing.soyas.xyz:9000",
      "nyc.landing.soyas.xyz:9000", "fra.landing.soyas.xyz:9000"]
  | .speedlanding =>
    ["nyc.speedlanding.trade:17778", "fra.speedlanding.trade:17778", "ams.speedlanding.trade:17778",
      "nyc.speedlanding.trade:17778", "tyo.speedlanding.trade:17778", "fra.speedlanding.trade:17778",
      "nyc.speedlanding.trade:17778", "fra.speedlanding.trade:17778"]
  | .helius =>
    ["http://ewr-sender.helius-rpc.com/fast", "http://fra-sender.helius-rpc.com/fast",
      "http://ams-sender.helius-rpc.com/fast", "http://slc-sender.helius-rpc.com/fast",
      "http://tyo-sender.helius-rpc.com/fast", "http://lon-sender.helius-rpc.com/fast",
      "http://sg-sender.helius-rpc.com/fast", "https://sender.helius-rpc.com/fast"]
  | .lightspeed => []
  | .default => []

namespace SwqosConfig

/-- The configured service. -/
def swqosType : SwqosConfig → SwqosType
  | default _ => .default
  | jito _ _ _ => .jito
  | nextBlock _ _ _ => .nextBlock
  | bloxroute _ _ _ => .bloxroute
  | temporal _ _ _ => .temporal
  | zeroSlot _ _ _ => .zeroSlot
  | node1 _ _ _ => .node1
  | flashBlock _ _ _ => .flashBlock
  | blockRazor _ _ _ => .blockRazor
  | astralane _ _ _ => .astralane
  | stellium _ _ _ => .stellium
  | lightspeed _ _ _ => .lightspeed
  | soyas _ _ _ => .soyas
  | speedlanding _ _ _ => .speedlanding
  | helius _ _ _ _ => .helius

/-- The service is on the blacklist. -/
def isBlacklisted (config : SwqosConfig) : Bool := swqosBlacklist.contains config.swqosType

/-- The endpoint of the user, or that of the region. -/
def getEndpoint (swqosType : SwqosType) (region : SwqosRegion) (url : Option String) : Outcome String :=
  match url, swqosType with
  | some customUrl, _ => .ret customUrl
  | none, .lightspeed => .ret ""
  | none, .default => .ret ""
  | none, swqosType => Outcome.ofOption "index out of bounds" (swqosEndpoints swqosType)[region.index]?

/-- Connecting to a QUIC service with a key: it fails, or panics where the key is no keypair. -/
structure Connector where
  connect : (swqosType : SwqosType) → (endpoint apiKey : String) → Outcome (Except Error Unit)

variable (connector : Connector)

/-- A client that sends over HTTP. -/
def httpClient (swqosType : SwqosType) (authToken : String) (region : SwqosRegion) (url : Option String)
    (swqosOnly : Bool) : Outcome (Except Error Provider) := do
  let _endpoint ← getEndpoint swqosType region url
  .ret (.ok ⟨swqosType, authToken, swqosOnly⟩)

/-- A client that connects over QUIC first, with a key that it does not keep. -/
def quicClient (swqosType : SwqosType) (region : SwqosRegion) (url : Option String) (apiKey : String) :
    Outcome (Except Error Provider) := do
  let endpoint ← getEndpoint swqosType region url
  match ← connector.connect swqosType endpoint apiKey with
  | .error e => .ret (.error e)
  | .ok () => .ret (.ok ⟨swqosType, "", false⟩)

/-- The client of a configuration. -/
def getSwqosClient : SwqosConfig → Outcome (Except Error Provider)
  | jito authToken region url => httpClient .jito authToken region url false
  | nextBlock authToken region url => httpClient .nextBlock authToken region url false
  | zeroSlot authToken region url => httpClient .zeroSlot authToken region url false
  | temporal authToken region url => httpClient .temporal authToken region url false
  | bloxroute authToken region url => httpClient .bloxroute authToken region url false
  | node1 authToken region url => httpClient .node1 authToken region url false
  | flashBlock authToken region url => httpClient .flashBlock authToken region url false
  | blockRazor authToken region url => httpClient .blockRazor authToken region url false
  | astralane authToken region url => httpClient .astralane authToken region url false
  | stellium authToken region url => httpClient .stellium authToken region url false
  | lightspeed authToken region url => httpClient .lightspeed authToken region url false
  | soyas authToken region url => quicClient connector .soyas region url authToken
  | speedlanding authToken region url => quicClient connector .speedlanding region url authToken
  | helius apiKey region url swqosOnly => httpClient .helius apiKey region url (swqosOnly.getD false)
  | default _ => .ret (.ok ⟨.default, "", false⟩)

end SwqosConfig

/-- A configuration of Temporal with the special key. -/
def SwqosConfig.PaysCommunity (sdk : ClientSdk) : SwqosConfig → Prop
  | .temporal apiToken _ _ => isSpecialApiKey sdk apiToken = true
  | _ => False

/-- The loop of `TradingInfrastructure::new`. -/
def newSwqosClients (connector : SwqosConfig.Connector) : List SwqosConfig → Outcome (List Provider)
  | [] => .ret []
  | config :: configs =>
    if config.isBlacklisted then newSwqosClients connector configs
    else do
      match ← config.getSwqosClient connector with
      | .error _ => newSwqosClients connector configs
      | .ok client => do
        let clients ← newSwqosClients connector configs
        .ret (client :: clients)

namespace SwqosConfig

/-! ## What is started -/

/-- Every service has an endpoint for every region, so that no table is read beyond its end. -/
theorem getEndpoint_returns (swqosType : SwqosType) (region : SwqosRegion) (url : Option String) :
    ∃ endpoint, getEndpoint swqosType region url = .ret endpoint := by
  cases url with
  | some customUrl => exact ⟨customUrl, rfl⟩
  | none => cases swqosType <;> cases region <;> exact ⟨_, rfl⟩

/-- The client that comes of a configuration: none for a service on the blacklist, and none where it
cannot be connected to. -/
def started (connector : Connector) (config : SwqosConfig) : Option Provider :=
  if config.isBlacklisted then none
  else match config.getSwqosClient connector with
    | .ret (.ok client) => some client
    | _ => none

variable {connector : Connector} {config : SwqosConfig} {client : Provider}

theorem httpClient_eq (swqosType : SwqosType) (authToken : String) (region : SwqosRegion) (url : Option String)
    (swqosOnly : Bool) :
    httpClient swqosType authToken region url swqosOnly = .ret (.ok ⟨swqosType, authToken, swqosOnly⟩) := by
  obtain ⟨endpoint, h⟩ := getEndpoint_returns swqosType region url
  rw [httpClient, h]
  rfl

theorem quicClient_eq_ok {swqosType : SwqosType} {region : SwqosRegion} {url : Option String} {apiKey : String}
    (h : quicClient connector swqosType region url apiKey = .ret (.ok client)) :
    client = ⟨swqosType, "", false⟩ := by
  obtain ⟨endpoint, -, h⟩ := Outcome.bind_eq_ret.mp h
  obtain ⟨r, -, h⟩ := Outcome.bind_eq_ret.mp h
  cases r with
  | error e => cases h
  | ok u => exact (Except.ok.inj (Outcome.ret.inj h)).symm

theorem getSwqosClient_swqosType (h : config.getSwqosClient connector = .ret (.ok client)) :
    client.swqosType = config.swqosType := by
  cases config with
  | soyas apiToken region url => rw [quicClient_eq_ok h]; rfl
  | speedlanding apiKey region url => rw [quicClient_eq_ok h]; rfl
  | default endpoint => rw [← Except.ok.inj (Outcome.ret.inj h)]; rfl
  | _ =>
    rw [← Except.ok.inj (Outcome.ret.inj ((httpClient_eq ..).symm.trans h))]
    rfl

theorem started_eq_some : config.started connector = some client ↔
    config.isBlacklisted = false ∧ config.getSwqosClient connector = .ret (.ok client) := by
  unfold started
  cases hblack : config.isBlacklisted with
  | true => simp
  | false =>
    simp only [Bool.false_eq_true, if_false, true_and]
    split
    · next client' heq => rw [heq]; simp
    · next hne => exact ⟨nofun, fun h => absurd h (hne client)⟩

/-- What is started is a client of the configured service, which is not on the blacklist. -/
theorem started_swqosType (h : config.started connector = some client) :
    client.swqosType = config.swqosType ∧ client.swqosType ∉ swqosBlacklist := by
  obtain ⟨hblack, hclient⟩ := started_eq_some.mp h
  have htype := getSwqosClient_swqosType hclient
  refine ⟨htype, fun hmem => ?_⟩
  rw [htype] at hmem
  have hblacklisted : config.isBlacklisted = true := List.contains_iff_mem.mpr hmem
  rw [hblack] at hblacklisted
  cases hblacklisted

theorem started_paysCommunity (sdk : ClientSdk) (h : config.started connector = some client) :
    client.paysCommunity sdk ↔ config.PaysCommunity sdk := by
  obtain ⟨-, hclient⟩ := started_eq_some.mp h
  have htype := getSwqosClient_swqosType hclient
  cases config with
  | temporal apiToken region url =>
    rw [← Except.ok.inj (Outcome.ret.inj ((httpClient_eq ..).symm.trans hclient))]
    exact ⟨And.right, fun hkey => ⟨rfl, hkey⟩⟩
  | _ => exact iff_of_false (fun hpays => nomatch htype.symm.trans hpays.1) id

end SwqosConfig

/-- **The clients of the infrastructure**: those that are started, in the order of the configurations.
Starting returns where no client panics on its key. -/
theorem newSwqosClients_eq {connector : SwqosConfig.Connector} {configs : List SwqosConfig}
    {clients : List Provider} :
    newSwqosClients connector configs = .ret clients ↔
      (∀ config ∈ configs, config.isBlacklisted = false → ∃ r, config.getSwqosClient connector = .ret r) ∧
      clients = configs.filterMap (SwqosConfig.started connector) := by
  induction configs generalizing clients with
  | nil =>
    rw [newSwqosClients, Outcome.ret.injEq]
    exact ⟨fun h => ⟨fun config hmem => absurd hmem List.not_mem_nil, h.symm⟩, fun h => h.2.symm⟩
  | cons config configs ih =>
    unfold newSwqosClients
    cases hblack : config.isBlacklisted with
    | true =>
      have hnone : config.started connector = none := by simp [SwqosConfig.started, hblack]
      simp [ih, hblack, List.filterMap_cons_none hnone]
    | false =>
      cases hclient : config.getSwqosClient connector with
      | panic msg => simp [hblack, hclient]
      | ret r =>
        cases r with
        | error e =>
          have hnone : config.started connector = none := by simp [SwqosConfig.started, hblack, hclient]
          simp [ih, hclient, List.filterMap_cons_none hnone]
        | ok client =>
          have hsome : config.started connector = some client := SwqosConfig.started_eq_some.mpr ⟨hblack, hclient⟩
          simp only [Bool.false_eq_true, if_false, Outcome.ret_bind, Outcome.bind_eq_ret, ih,
            Outcome.ret.injEq, List.filterMap_cons_some hsome, List.forall_mem_cons, hclient, exists_eq',
            implies_true, true_and]
          constructor
          · rintro ⟨rest, ⟨hrest, rfl⟩, rfl⟩
            exact ⟨hrest, rfl⟩
          · rintro ⟨hrest, rfl⟩
            exact ⟨_, ⟨hrest, rfl⟩, rfl⟩

end PumpTrade
