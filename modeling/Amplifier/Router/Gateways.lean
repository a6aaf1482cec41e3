import Amplifier.Router.Execute

/-!
# Amplifier.Router.Gateways — one chain per gateway

`GatewayIndex::load_chain_by_gateway` panics when two chains are stored under
one gateway address. It cannot happen: `GatewaysInv` says the gateway index
agrees with the endpoints, every endpoint is stored under its own name, and no
two chains share a gateway. It holds of the empty map, and every handler keeps
it:

* `register_chain` and `upgrade_gateway` write a gateway that the index showed
  to be free (`GatewaysInv.free_of_loadChainByGateway`), under a chain whose
  name the endpoint carries (`registerChain_effects`, `upgradeGateway_effects`);
* a freeze or an unfreeze rewrites an endpoint with its own gateway and name
  (`updateFrozenStatus_effects`), and a whole request is a fold of those
  (`updateChains_effects`);
* routing and the killswitch do not touch the endpoints.

Under the invariant, every gateway resolves to nothing or to the one chain that
has it (`GatewaysInv.loadChainByGateway_eq`). The handlers' effects on
`gatewayOf`, the gateway of each chain, say also which call gave a chain its
gateway: only a registration or an upgrade of that chain, to that gateway.
-/

namespace Amplifier.Router

open WasmStd RouterApi

/-- The gateway of a chain, if the chain is registered. -/
def gatewayOf (m : IndexedMap ChainName ChainEndpoint String) (chain : ChainName) :
    Option String :=
  (m.primary.lookup chain).map ChainEndpoint.gatewayAddress

/-- The invariant of the endpoints: the gateway index agrees with them, each is
stored under its own name, and no two chains have the same gateway. -/
structure GatewaysInv (m : IndexedMap ChainName ChainEndpoint String) : Prop where
  agrees : m.Agrees ChainEndpoint.gatewayAddress
  name_eq : ∀ k e, m.primary.lookup k = some e → e.name = k
  injective : ∀ k k' e e', m.primary.lookup k = some e → m.primary.lookup k' = some e' →
    e.gatewayAddress = e'.gatewayAddress → k = k'

theorem gatewaysInv_empty : GatewaysInv IndexedMap.empty where
  agrees := IndexedMap.agrees_empty _
  name_eq := by
    intro k e h
    simp [IndexedMap.empty] at h
  injective := by
    intro k k' e e' h
    simp [IndexedMap.empty] at h

section Inv

variable {m m' : IndexedMap ChainName ChainEndpoint String}

/-- Under the invariant the index never panics: a gateway no chain has gives
nothing, and any other gives the one chain that has it. -/
theorem GatewaysInv.loadChainByGateway_eq (h : GatewaysInv m) (g : String) :
    (GatewayIndex.loadChainByGateway m g = .ok none ∧
        ∀ k e, m.primary.lookup k = some e → e.gatewayAddress ≠ g) ∨
      ∃ k e, GatewayIndex.loadChainByGateway m g = .ok (some e) ∧ m.primary.lookup k = some e ∧
        e.name = k ∧ e.gatewayAddress = g := by
  have hunique : ∀ k k' e e', m.primary.lookup k = some e → m.primary.lookup k' = some e' →
      e.gatewayAddress = g → e'.gatewayAddress = g → k = k' :=
    fun k k' e e' hk hk' he he' => h.injective k k' e e' hk hk' (he.trans he'.symm)
  rcases IndexedMap.prefixRange_eq_of_unique ChainName.key h.agrees hunique with hnil | ⟨k, e, hone, hk, he⟩
  · -- nothing under the prefix: no chain has the gateway
    left
    refine ⟨by rw [GatewayIndex.loadChainByGateway, hnil], ?_⟩
    intro k e hk he
    have hmem := (IndexedMap.mem_prefixRange ChainName.key h.agrees g k e).mpr ⟨hk, he⟩
    rw [hnil] at hmem
    exact List.not_mem_nil hmem
  · right
    exact ⟨k, e, by rw [GatewayIndex.loadChainByGateway, hone], hk, h.name_eq k e hk, he⟩

/-- A gateway the index does not know is no chain's. -/
theorem GatewaysInv.free_of_loadChainByGateway (h : GatewaysInv m) {g : String}
    (hnone : GatewayIndex.loadChainByGateway m g = .ok none) :
    ∀ k e, m.primary.lookup k = some e → e.gatewayAddress ≠ g := by
  rcases h.loadChainByGateway_eq g with ⟨-, hfree⟩ | ⟨k, e, hsome, -⟩
  · exact hfree
  · rw [hnone] at hsome
    cases hsome

/-- A chain's gateway resolves to that chain. -/
theorem GatewaysInv.loadChainByGateway_of_lookup (h : GatewaysInv m) {k : ChainName}
    {e : ChainEndpoint} (hk : m.primary.lookup k = some e) :
    GatewayIndex.loadChainByGateway m e.gatewayAddress = .ok (some e) := by
  rcases h.loadChainByGateway_eq e.gatewayAddress with ⟨-, hfree⟩ | ⟨k', e', hload, hk', -, he'⟩
  · exact absurd rfl (hfree k e hk)
  · -- the chain found has the same gateway, so it is the same chain
    have hkk' : k' = k := h.injective k' k e' e hk' hk he'
    subst hkk'
    rw [hk, Option.some.injEq] at hk'
    rw [hload, hk']

/-- A write that stores, under a chain, an endpoint of that name whose gateway no
other chain has keeps the invariant. -/
theorem GatewaysInv.update {ε : Type} {k : ChainName}
    {action : Option ChainEndpoint → Except ε ChainEndpoint} {v : ChainEndpoint}
    (h : GatewaysInv m) (hup : m.update ChainEndpoint.gatewayAddress k action = .ok (m', v))
    (hname : v.name = k)
    (hfree : ∀ k' e', m.primary.lookup k' = some e' → k' ≠ k → e'.gatewayAddress ≠ v.gatewayAddress) :
    GatewaysInv m' := by
  obtain ⟨hagrees, -, hprimary⟩ := h.agrees.update hup
  refine ⟨hagrees, ?_, ?_⟩
  · intro k₁ e₁ h₁
    rw [hprimary, Map.lookup_insert_eq_some] at h₁
    rcases h₁ with ⟨rfl, rfl⟩ | ⟨-, h₁⟩
    · exact hname
    · exact h.name_eq k₁ e₁ h₁
  · -- the written chain against the others, whose gateways are not its own
    intro k₁ k₂ e₁ e₂ h₁ h₂ hg
    rw [hprimary, Map.lookup_insert_eq_some] at h₁ h₂
    rcases h₁ with ⟨rfl, rfl⟩ | ⟨hne₁, h₁⟩ <;> rcases h₂ with ⟨rfl, rfl⟩ | ⟨hne₂, h₂⟩
    · rfl
    · exact absurd hg.symm (hfree k₂ e₂ h₂ hne₂)
    · exact absurd hg (hfree k₁ e₁ h₁ hne₁)
    · exact h.injective k₁ k₂ e₁ e₂ h₁ h₂ hg

/-- What a committed `update` leaves as the gateways of the chains. -/
theorem gatewayOf_update {ε : Type} {k : ChainName}
    {action : Option ChainEndpoint → Except ε ChainEndpoint} {v : ChainEndpoint}
    (hup : m.update ChainEndpoint.gatewayAddress k action = .ok (m', v)) (k' : ChainName) :
    gatewayOf m' k' = if k' = k then some v.gatewayAddress else gatewayOf m k' := by
  obtain ⟨-, rfl⟩ := IndexedMap.update_eq_ok.mp hup
  unfold gatewayOf
  split_ifs with hk
  · subst hk
    simp
  · simp [AList.lookup_insert_ne hk]

end Inv

/-! ## The handlers' effects on the endpoints -/

section Handlers

variable {ext : Externals} {s s' : State} {r : Response}

/-- A committed `register_chain` keeps the invariant and gives the chain the
requested gateway. -/
theorem registerChain_effects {name : ChainName} {gateway : String}
    {msgIdFormat : MessageIdFormat} (h : GatewaysInv s.chainEndpoints)
    (hok : registerChain ext s name gateway msgIdFormat = .ok (s', r)) :
    GatewaysInv s'.chainEndpoints ∧
      ∀ k, gatewayOf s'.chainEndpoints k =
        if k = name then some gateway else gatewayOf s.chainEndpoints k := by
  unfold registerChain at hok
  simp only [bind_eq_ok, ensure_eq_ok, okOr_eq_ok, mapError_eq_ok, pure, Except.pure,
    Except.ok.injEq] at hok
  obtain ⟨existing, hfind, -, hnone, -, -, -, -, ⟨m', v⟩, hup, hstate⟩ := hok
  have hfree : findChainForGateway s gateway = .ok none := by
    rw [hfind, Option.isNone_iff_eq_none.mp hnone]
  -- the closure commits only for a new chain, and returns its endpoint
  obtain ⟨haction, -⟩ := IndexedMap.update_eq_ok.mp hup
  have hv : v = ⟨name, ⟨gateway⟩, .ofDirection .none, msgIdFormat⟩ := by
    cases hlook : s.chainEndpoints.primary.lookup name with
    | none =>
        rw [hlook] at haction
        exact (Except.ok.inj haction).symm
    | some e =>
        rw [hlook] at haction
        cases haction
  subst hv
  obtain ⟨rfl, -⟩ := Prod.mk.inj hstate
  refine ⟨h.update hup rfl ?_, gatewayOf_update hup⟩
  intro k' e' hk' _
  exact h.free_of_loadChainByGateway hfree k' e' hk'

/-- A committed `upgrade_gateway` keeps the invariant and gives the chain the
new gateway. -/
theorem upgradeGateway_effects {chain : ChainName} {contractAddress : String}
    (h : GatewaysInv s.chainEndpoints)
    (hok : upgradeGateway s chain contractAddress = .ok (s', r)) :
    GatewaysInv s'.chainEndpoints ∧
      ∀ k, gatewayOf s'.chainEndpoints k =
        if k = chain then some contractAddress else gatewayOf s.chainEndpoints k := by
  unfold upgradeGateway at hok
  simp only [bind_eq_ok, ensure_eq_ok, mapError_eq_ok, pure, Except.pure,
    Except.ok.injEq] at hok
  obtain ⟨existing, hfind, -, hnone, ⟨m', v⟩, hup, hstate⟩ := hok
  have hfree : findChainForGateway s contractAddress = .ok none := by
    rw [hfind, Option.isNone_iff_eq_none.mp hnone]
  -- the closure commits only for a registered chain, and moves it to the new gateway
  obtain ⟨haction, -⟩ := IndexedMap.update_eq_ok.mp hup
  obtain ⟨e, hlook, rfl⟩ : ∃ e, s.chainEndpoints.primary.lookup chain = some e ∧
      v = { e with gateway := { e.gateway with address := contractAddress } } := by
    cases hlook : s.chainEndpoints.primary.lookup chain with
    | none =>
        rw [hlook] at haction
        cases haction
    | some e =>
        rw [hlook] at haction
        exact ⟨e, rfl, (Except.ok.inj haction).symm⟩
  obtain ⟨rfl, -⟩ := Prod.mk.inj hstate
  refine ⟨h.update hup (h.name_eq chain e hlook) ?_, gatewayOf_update hup⟩
  intro k' e' hk' _
  exact h.free_of_loadChainByGateway hfree k' e' hk'

/-- A committed freeze or unfreeze of one chain keeps the invariant and every
chain's gateway. -/
theorem updateFrozenStatus_effects {op : FlagSet → GatewayDirection → FlagSet}
    {event : ChainName → GatewayDirection → Event}
    {m m' : IndexedMap ChainName ChainEndpoint String} {chain : ChainName}
    {direction : GatewayDirection} {ev : Event} (h : GatewaysInv m)
    (hok : updateFrozenStatus op event m chain direction = .ok (m', ev)) :
    GatewaysInv m' ∧ ∀ k, gatewayOf m' k = gatewayOf m k := by
  unfold updateFrozenStatus at hok
  simp only [bind_eq_ok, pure, Except.pure, Except.ok.injEq] at hok
  obtain ⟨⟨m₁, v⟩, hup, hstate⟩ := hok
  obtain ⟨haction, -⟩ := IndexedMap.update_eq_ok.mp hup
  obtain ⟨e, hlook, rfl⟩ : ∃ e, m.primary.lookup chain = some e ∧
      v = { e with frozenStatus := op e.frozenStatus direction } := by
    cases hlook : m.primary.lookup chain with
    | none =>
        rw [hlook] at haction
        cases haction
    | some e =>
        rw [hlook] at haction
        exact ⟨e, rfl, (Except.ok.inj haction).symm⟩
  obtain ⟨rfl, -⟩ := Prod.mk.inj hstate
  refine ⟨h.update hup (h.name_eq chain e hlook) ?_, ?_⟩
  · -- the endpoint keeps its gateway, which no other chain has
    intro k' e' hk' hne hg
    exact hne (h.injective k' chain e' e hk' hlook hg)
  · intro k
    rw [gatewayOf_update hup k]
    split_ifs with hk
    · subst hk
      simp [gatewayOf, hlook, ChainEndpoint.gatewayAddress]
    · rfl

/-- A committed `freeze_chains` or `unfreeze_chains` keeps the invariant and every
chain's gateway, as each of its steps does. -/
theorem updateChains_effects
    {specific : IndexedMap ChainName ChainEndpoint String → ChainName → GatewayDirection →
      Except Error (IndexedMap ChainName ChainEndpoint String × Event)}
    (hspecific : ∀ m m' chain direction ev, GatewaysInv m →
      specific m chain direction = .ok (m', ev) → GatewaysInv m' ∧ ∀ k, gatewayOf m' k = gatewayOf m k)
    {chains : Map ChainName GatewayDirection} (h : GatewaysInv s.chainEndpoints)
    (hok : updateChains specific s chains = .ok (s', r)) :
    GatewaysInv s'.chainEndpoints ∧ ∀ k, gatewayOf s'.chainEndpoints k = gatewayOf s.chainEndpoints k := by
  unfold updateChains at hok
  simp only [bind_eq_ok, mapError_eq_ok, pure, Except.pure, Except.ok.injEq] at hok
  obtain ⟨result, hfold, hstate⟩ := hok
  obtain ⟨rfl, -⟩ := Prod.mk.inj hstate
  -- the loop invariant: the endpoints so far keep the invariant and every gateway
  refine foldlM_inv (fun acc => GatewaysInv acc.1 ∧ ∀ k, gatewayOf acc.1 k = gatewayOf s.chainEndpoints k)
    ?_ ⟨h, fun _ => rfl⟩ hfold
  rintro ⟨m, events⟩ ⟨chain, direction⟩ acc' ⟨hm, hgw⟩ hstep
  simp only [updateChainsStep, bind_eq_ok, pure, Except.pure, Except.ok.injEq] at hstep
  obtain ⟨⟨m', ev⟩, hspec, rfl⟩ := hstep
  obtain ⟨hm', hgw'⟩ := hspecific m m' chain direction ev hm hspec
  exact ⟨hm', fun k => (hgw' k).trans (hgw k)⟩

theorem disableRouting_chainEndpoints (s : State) :
    (disableRouting s).1.chainEndpoints = s.chainEndpoints := by
  unfold disableRouting
  cases s.killswitch.engage
  rfl

theorem enableRouting_chainEndpoints (s : State) :
    (enableRouting s).1.chainEndpoints = s.chainEndpoints := by
  unfold enableRouting
  cases s.killswitch.disengage
  rfl

/-- A handler that gives one chain one gateway changes no other chain's. -/
theorem gatewayOf_eq_or_of_write {m m' : IndexedMap ChainName ChainEndpoint String}
    {chain : ChainName} {g : String}
    (hgw : ∀ k, gatewayOf m' k = if k = chain then some g else gatewayOf m k) (k : ChainName) :
    gatewayOf m' k = gatewayOf m k ∨ (k = chain ∧ gatewayOf m' k = some g) := by
  by_cases hk : k = chain
  · exact .inr ⟨hk, by rw [hgw, if_pos hk]⟩
  · exact .inl (by rw [hgw, if_neg hk])

/-- One committed handler keeps the invariant, and changes a chain's gateway only
by a registration or an upgrade of that chain, to the gateway it names. -/
theorem dispatch_effects {sender : String} {msg : ExecuteMsg} (h : GatewaysInv s.chainEndpoints)
    (hok : dispatch ext s sender msg = .ok (s', r)) :
    GatewaysInv s'.chainEndpoints ∧ ∀ k, gatewayOf s'.chainEndpoints k = gatewayOf s.chainEndpoints k ∨
      ∃ g, ((∃ f, msg = .registerChain k g f) ∨ msg = .upgradeGateway k g) ∧
        gatewayOf s'.chainEndpoints k = some g := by
  -- the handlers that leave the endpoints as they are
  have hsame : s'.chainEndpoints = s.chainEndpoints → GatewaysInv s'.chainEndpoints ∧
      ∀ k, gatewayOf s'.chainEndpoints k = gatewayOf s.chainEndpoints k ∨
        ∃ g, ((∃ f, msg = .registerChain k g f) ∨ msg = .upgradeGateway k g) ∧
          gatewayOf s'.chainEndpoints k = some g := by
    intro heq
    rw [heq]
    exact ⟨h, fun _ => .inl rfl⟩
  cases msg with
  | registerChain chain gatewayAddress msgIdFormat =>
      obtain ⟨hinv, hgw⟩ := registerChain_effects h hok
      refine ⟨hinv, fun k => ?_⟩
      rcases gatewayOf_eq_or_of_write hgw k with hkeep | ⟨rfl, hnew⟩
      · exact .inl hkeep
      · exact .inr ⟨gatewayAddress, .inl ⟨msgIdFormat, rfl⟩, hnew⟩
  | upgradeGateway chain contractAddress =>
      obtain ⟨hinv, hgw⟩ := upgradeGateway_effects h hok
      refine ⟨hinv, fun k => ?_⟩
      rcases gatewayOf_eq_or_of_write hgw k with hkeep | ⟨rfl, hnew⟩
      · exact .inl hkeep
      · exact .inr ⟨contractAddress, .inr rfl, hnew⟩
  | freezeChains chains =>
      obtain ⟨hinv, hgw⟩ := updateChains_effects (fun _ _ _ _ _ => updateFrozenStatus_effects) h hok
      exact ⟨hinv, fun k => .inl (hgw k)⟩
  | unfreezeChains chains =>
      obtain ⟨hinv, hgw⟩ := updateChains_effects (fun _ _ _ _ _ => updateFrozenStatus_effects) h hok
      exact ⟨hinv, fun k => .inl (hgw k)⟩
  | routeMessages msgs =>
      -- routing reads the storage and writes nothing
      obtain ⟨response, -, hstate⟩ := map_eq_ok.mp hok
      exact hsame (congrArg (·.1.chainEndpoints) hstate).symm
  | disableRouting =>
      obtain ⟨rfl, -⟩ := Prod.mk.inj (Except.ok.inj hok)
      exact hsame (disableRouting_chainEndpoints s)
  | enableRouting =>
      obtain ⟨rfl, -⟩ := Prod.mk.inj (Except.ok.inj hok)
      exact hsame (enableRouting_chainEndpoints s)

/-- `execute` commits only what the handler commits: the relay, permission and
address checks write nothing. -/
theorem dispatch_of_execute {c : Call} (hok : execute ext s c = .ok (s', r)) :
    dispatch ext s c.sender c.msg = .ok (s', r) := by
  unfold execute at hok
  cases hrelayer : c.relayer with
  | none =>
      simp only [hrelayer, bind_eq_ok] at hok
      obtain ⟨-, -, -, -, hdispatch⟩ := hok
      exact hdispatch
  | some relayer =>
      simp only [hrelayer, bind_eq_ok] at hok
      obtain ⟨-, -, -, -, -, -, hdispatch⟩ := hok
      exact hdispatch

end Handlers

/-- The invariant holds in every reachable state of the router. -/
theorem gatewaysInv_reachable {ext : Externals} {admin governance : String} {config : Config}
    {s : State} (hs : Reachable (execute ext) (instantiate admin governance config) s) :
    GatewaysInv s.chainEndpoints :=
  Reachable.induction_inv (fun s => GatewaysInv s.chainEndpoints) gatewaysInv_empty
    (fun _ _ _ _ h hok => (dispatch_effects h (dispatch_of_execute hok)).1) hs


/-- In every reachable state of the router, no two chains share a gateway and the
gateway index agrees with the endpoints; so `load_chain_by_gateway` never panics,
it resolves every gateway to nothing or to the one chain that has it, and a
committed call changes a chain's gateway only by registering or upgrading that
chain to a gateway that then resolves to it. -/
theorem router_gateway_uniqueness {ext : Externals} {admin governance : String}
    {config : Config} {s : State}
    (hs : Reachable (execute ext) (instantiate admin governance config) s) :
    (∀ k k' e e', s.chainEndpoints.primary.lookup k = some e →
      s.chainEndpoints.primary.lookup k' = some e' → e.gatewayAddress = e'.gatewayAddress →
        k = k') ∧
    s.chainEndpoints.Agrees ChainEndpoint.gatewayAddress ∧
    (∀ g, (GatewayIndex.loadChainByGateway s.chainEndpoints g = .ok none ∧
        ∀ k e, s.chainEndpoints.primary.lookup k = some e → e.gatewayAddress ≠ g) ∨
      ∃ k e, GatewayIndex.loadChainByGateway s.chainEndpoints g = .ok (some e) ∧
        s.chainEndpoints.primary.lookup k = some e ∧ e.name = k ∧ e.gatewayAddress = g) ∧
    (∀ c s' r, execute ext s c = .ok (s', r) →
      ∀ k, gatewayOf s'.chainEndpoints k ≠ gatewayOf s.chainEndpoints k →
        ∃ g, ((∃ f, c.msg = .registerChain k g f) ∨ c.msg = .upgradeGateway k g) ∧
          ∃ e, s'.chainEndpoints.primary.lookup k = some e ∧ e.name = k ∧
            e.gatewayAddress = g ∧
            GatewayIndex.loadChainByGateway s'.chainEndpoints g = .ok (some e)) := by
  have h := gatewaysInv_reachable hs
  refine ⟨h.injective, h.agrees, h.loadChainByGateway_eq, ?_⟩
  intro c s' r hok k hne
  obtain ⟨h', hgw⟩ := dispatch_effects h (dispatch_of_execute hok)
  rcases hgw k with hkeep | ⟨g, hmsg, hnew⟩
  · exact absurd hkeep hne
  · -- the new gateway is the one stored for the chain, and resolves to it
    obtain ⟨e, hk, he⟩ := Option.map_eq_some_iff.mp hnew
    refine ⟨g, hmsg, e, hk, h'.name_eq k e hk, he, ?_⟩
    rw [← he]
    exact h'.loadChainByGateway_of_lookup hk

/-- The configuration of the example: the axelarnet gateway and the coordinator. -/
def routerConfig : Config := ⟨"axelarnet-gateway", "coordinator"⟩

/-- Externals for which no chain is registered in core and every message id and
address is valid. -/
def routerExternals : Externals := ⟨fun _ => some false, fun _ _ => true, fun _ => true⟩

def fantom : ChainName := ⟨"fantom", by decide, by decide⟩

def linea : ChainName := ⟨"linea", by decide, by decide⟩

/-- Governance registers two chains and moves the first to a new gateway. -/
def routerCalls : List Call :=
  [⟨"governance", none, .registerChain fantom "gateway-fantom" .hexTxHashAndEventIndex⟩,
    ⟨"governance", none, .registerChain linea "gateway-linea" .hexTxHash⟩,
    ⟨"governance", none, .upgradeGateway fantom "gateway-fantom-v2"⟩]

theorem router_gateway_uniqueness_after_upgrade :
    let s := (run (execute routerExternals) (instantiate "admin" "governance" routerConfig)
      routerCalls).1
    Reachable (execute routerExternals) (instantiate "admin" "governance" routerConfig) s ∧
    gatewayOf s.chainEndpoints fantom = some "gateway-fantom-v2" ∧
    gatewayOf s.chainEndpoints linea = some "gateway-linea" ∧
    (∀ k k' e e', s.chainEndpoints.primary.lookup k = some e →
      s.chainEndpoints.primary.lookup k' = some e' → e.gatewayAddress = e'.gatewayAddress →
        k = k') ∧
    s.chainEndpoints.Agrees ChainEndpoint.gatewayAddress ∧
    (∀ g, (GatewayIndex.loadChainByGateway s.chainEndpoints g = .ok none ∧
        ∀ k e, s.chainEndpoints.primary.lookup k = some e → e.gatewayAddress ≠ g) ∨
      ∃ k e, GatewayIndex.loadChainByGateway s.chainEndpoints g = .ok (some e) ∧
        s.chainEndpoints.primary.lookup k = some e ∧ e.name = k ∧ e.gatewayAddress = g) ∧
    (∀ c s' r, execute routerExternals s c = .ok (s', r) →
      ∀ k, gatewayOf s'.chainEndpoints k ≠ gatewayOf s.chainEndpoints k →
        ∃ g, ((∃ f, c.msg = .registerChain k g f) ∨ c.msg = .upgradeGateway k g) ∧
          ∃ e, s'.chainEndpoints.primary.lookup k = some e ∧ e.name = k ∧
            e.gatewayAddress = g ∧
            GatewayIndex.loadChainByGateway s'.chainEndpoints g = .ok (some e)) := by
  intro s
  have hs : Reachable (execute routerExternals) (instantiate "admin" "governance" routerConfig) s :=
    run_reachable _ .init routerCalls
  exact ⟨hs, by decide, by decide, router_gateway_uniqueness hs⟩

end Amplifier.Router
