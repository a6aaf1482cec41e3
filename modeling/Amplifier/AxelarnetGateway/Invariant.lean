import Amplifier.AxelarnetGateway.Spec

/-!
# Amplifier.AxelarnetGateway.Invariant — the gateway's stores over whole runs

Every committed call changes the storage in the ways `Step` lists: the config
stays; routable messages are only added, under their own id of this chain;
executable messages are never removed, an approved one may be executed and an
executed one stays so, and a new one is a message for this chain under its own
id. From that, over every run from instantiation:

* the stores hold each message under its own id, routable ones with an id of this
  chain, executable ones for this chain (`Inv`), and a later storage keeps every
  routable message and every executable one, executed ones executed
  (`axelarnet_gateway_stores`);
* `Execute` goes through at most once for an id: after it, every later `Execute`
  of the id is refused as already executed (`execute_at_most_once`);
* `RouteMessages` from anyone but the router writes nothing and forwards only
  messages this gateway stored from a contract call
  (`route_messages_forwards_only_called`);
* `RouteMessages` from the router sends each message to the nexus module or stores
  it executable for this chain, and is refused when that would meet another
  message under the id (`router_messages_delivered`).
-/

namespace Amplifier.AxelarnetGateway

open WasmStd RouterApi Execute

/-! ## What an executable entry may become -/

/-- An approved message stays approved or is executed; an executed one stays
executed. -/
def ExecutableMessage.Becomes : ExecutableMessage → ExecutableMessage → Prop
  | .approved m, e => e = .approved m ∨ e = .executed m
  | .executed m, e => e = .executed m

namespace ExecutableMessage

theorem Becomes.refl : ∀ e : ExecutableMessage, e.Becomes e
  | .approved _ => .inl rfl
  | .executed _ => rfl

theorem Becomes.trans :
    ∀ {e₁ e₂ e₃ : ExecutableMessage}, e₁.Becomes e₂ → e₂.Becomes e₃ → e₁.Becomes e₃
  | .approved _, _, _, .inl rfl, h => h
  | .approved _, _, _, .inr rfl, rfl => .inr rfl
  | .executed _, _, _, rfl, h => h

theorem Becomes.msg_eq : ∀ {e e' : ExecutableMessage}, e.Becomes e' → e'.msg = e.msg
  | .approved _, _, .inl rfl => rfl
  | .approved _, _, .inr rfl => rfl
  | .executed _, _, rfl => rfl

end ExecutableMessage

/-! ## One committed call -/

/-- What one committed call may do to the storage. -/
structure Step (s s' : State) : Prop where
  config : s'.config = s.config
  routable : Map.Extends s.routableMessages s'.routableMessages
  routableAdded : ∀ k m, s'.routableMessages.lookup k = some m →
    s.routableMessages.lookup k = some m ∨
      (m.ccId = k ∧ k.sourceChain = chainNameRaw s.config.chainName)
  executable : Map.Evolves ExecutableMessage.Becomes s.executableMessages s'.executableMessages
  executableAdded : ∀ k e, s'.executableMessages.lookup k = some e →
    s.executableMessages.lookup k = none →
      e.msg.ccId = k ∧ e.msg.destinationChain = s.config.chainName

namespace Step

theorem refl (s : State) : Step s s where
  config := rfl
  routable := Map.Extends.refl _
  routableAdded _ _ h := .inl h
  executable := Map.Evolves.refl ExecutableMessage.Becomes.refl _
  executableAdded _ _ h hnone := by rw [hnone] at h; cases h

theorem trans {s₁ s₂ s₃ : State} (h₁₂ : Step s₁ s₂) (h₂₃ : Step s₂ s₃) : Step s₁ s₃ where
  config := h₂₃.config.trans h₁₂.config
  routable := h₁₂.routable.trans h₂₃.routable
  routableAdded k m h := by
    rcases h₂₃.routableAdded k m h with h₂ | hnew
    · exact h₁₂.routableAdded k m h₂
    · rw [h₁₂.config] at hnew
      exact .inr hnew
  executable := Map.Evolves.trans (R := ExecutableMessage.Becomes)
    (fun _ _ _ => ExecutableMessage.Becomes.trans) h₁₂.executable h₂₃.executable
  executableAdded k e h hnone := by
    cases h₂ : s₂.executableMessages.lookup k with
    | none =>
        rw [← h₁₂.config]
        exact h₂₃.executableAdded k e h h₂
    | some e₂ =>
        -- the entry came in the first call, and the second only moved it
        obtain ⟨e₃, h₃, hbecomes⟩ := h₂₃.executable k e₂ h₂
        rw [h, Option.some.injEq] at h₃
        subst h₃
        rw [hbecomes.msg_eq]
        exact h₁₂.executableAdded k e₂ h₂ hnone

/-- Routing writes only executable messages, as the router's batch saves them. -/
theorem of_routesFromRouter {nexus : NexusQuerier} {msgs : List Message} {s s' : State}
    {out out' : List CosmosMsg} (hconfig : s'.config = s.config)
    (hroutable : s'.routableMessages = s.routableMessages)
    (h : RoutesFromRouter nexus s.config.chainName msgs s.executableMessages s'.executableMessages
      out out') :
    Step s s' where
  config := hconfig
  routable := hroutable ▸ Map.Extends.refl _
  routableAdded k m hk := .inl (hroutable ▸ hk)
  executable k e hk := ⟨e, h.saves.1 k e hk, ExecutableMessage.Becomes.refl e⟩
  executableAdded k e hk hnone := by
    rcases h.saves.2 k e hk with hold | ⟨m, -, rfl, rfl, hdest⟩
    · rw [hnone] at hold
      cases hold
    · exact ⟨rfl, hdest⟩

theorem of_routeMessages {nexus : NexusQuerier} {s s' : State} {sender : String}
    {msgs : List Message} {r : Response} (h : routeMessages nexus s sender msgs = .ok (s', r)) :
    Step s s' := by
  by_cases hs : sender = s.config.router
  · subst hs
    obtain ⟨hconfig, hroutable, -, hroute⟩ := routeMessages_of_router h
    exact of_routesFromRouter hconfig hroutable hroute
  · obtain ⟨-, -, rfl, -⟩ := (routeMessages_of_ne_router hs).mp h
    exact refl _

/-- Saving a new routable message under its own id of this chain. -/
theorem of_insert_routable {s : State} {msg : Message}
    (hchain : msg.ccId.sourceChain = chainNameRaw s.config.chainName)
    (hnone : s.routableMessages.lookup msg.ccId = none) :
    Step s ⟨s.config, s.routableMessages.insert msg.ccId msg, s.executableMessages⟩ where
  config := rfl
  routable := Map.extends_insert hnone msg
  routableAdded k m hk := by
    by_cases hkk : k = msg.ccId
    · subst hkk
      rw [AList.lookup_insert, Option.some.injEq] at hk
      subst hk
      exact .inr ⟨rfl, hchain⟩
    · rw [AList.lookup_insert_ne hkk] at hk
      exact .inl hk
  executable := Map.Evolves.refl ExecutableMessage.Becomes.refl _
  executableAdded _ _ h hnone' := by
    simp only at h
    rw [hnone'] at h
    cases h

theorem of_callContract {ext : Externals} {nexus : NexusQuerier} {s s' : State}
    {sender : String} {data : CallContractData} {r : Response}
    (h : callContract ext nexus s sender data = .ok (s', r)) : Step s s' := by
  obtain ⟨txHash, nonce, sourceAddress, -, -, -, hnone, r₀, hroute, -⟩ := callContract_eq_ok.mp h
  exact (of_insert_routable rfl hnone).trans (of_routeMessages hroute)

theorem of_execute {ext : Externals} {s s' : State} {ccId : CrossChainId} {payload : ByteArray}
    {r : Response} (h : Execute.execute ext s ccId payload = .ok (s', r)) : Step s s' := by
  obtain ⟨msg, hlook, -, -, rfl, -⟩ := execute_eq_ok.mp h
  refine ⟨rfl, Map.Extends.refl _, fun _ _ h => .inl h, ?_, ?_⟩
  · -- the approved entry is executed, the others stay
    exact Map.evolves_insert ExecutableMessage.Becomes.refl fun e he => by
      rw [hlook, Option.some.injEq] at he
      subst he
      exact .inr rfl
  · intro k e hk hnone
    have hkk : k ≠ ccId := by
      rintro rfl
      rw [hlook] at hnone
      cases hnone
    simp only [AList.lookup_insert_ne hkk] at hk
    rw [hnone] at hk
    cases hk

end Step

/-- Every committed call is a `Step`. -/
theorem step_of_execute {ext : Externals} {s s' : State} {call : Call} {r : Response}
    (h : AxelarnetGateway.execute ext s call = .ok (s', r)) : Step s s' := by
  rcases execute_cases h with ⟨_, _, _, -, hcall⟩ | ⟨_, -, hroute⟩ | ⟨_, _, -, hexec⟩ |
    ⟨_, -, -, hnexus⟩
  · exact Step.of_callContract hcall
  · exact Step.of_routeMessages hroute
  · exact Step.of_execute hexec
  · obtain ⟨rfl, -⟩ := routeMessagesFromNexus_eq_ok.mp hnexus
    exact Step.refl _

/-! ## The invariant -/

/-- The stores hold each message under its own id; routable messages have ids of
this chain, executable ones are for this chain. -/
structure Inv (s : State) : Prop where
  routableKeyed : ∀ k m, s.routableMessages.lookup k = some m → m.ccId = k
  routableChain : ∀ k m, s.routableMessages.lookup k = some m →
    k.sourceChain = chainNameRaw s.config.chainName
  executableKeyed : ∀ k e, s.executableMessages.lookup k = some e → e.msg.ccId = k
  executableChain : ∀ k e, s.executableMessages.lookup k = some e →
    e.msg.destinationChain = s.config.chainName

theorem inv_instantiate (config : Config) : Inv (instantiate config) where
  routableKeyed _ _ h := nomatch h
  routableChain _ _ h := nomatch h
  executableKeyed _ _ h := nomatch h
  executableChain _ _ h := nomatch h

theorem Inv.step {s s' : State} (hinv : Inv s) (hstep : Step s s') : Inv s' where
  routableKeyed k m h := by
    rcases hstep.routableAdded k m h with hold | ⟨hk, -⟩
    · exact hinv.routableKeyed k m hold
    · exact hk
  routableChain k m h := by
    rw [hstep.config]
    rcases hstep.routableAdded k m h with hold | ⟨-, hchain⟩
    · exact hinv.routableChain k m hold
    · exact hchain
  executableKeyed k e h := by
    cases hold : s.executableMessages.lookup k with
    | none => exact (hstep.executableAdded k e h hold).1
    | some e₀ =>
        obtain ⟨e₁, h₁, hbecomes⟩ := hstep.executable k e₀ hold
        rw [h, Option.some.injEq] at h₁
        subst h₁
        rw [hbecomes.msg_eq]
        exact hinv.executableKeyed k e₀ hold
  executableChain k e h := by
    rw [hstep.config]
    cases hold : s.executableMessages.lookup k with
    | none => exact (hstep.executableAdded k e h hold).2
    | some e₀ =>
        obtain ⟨e₁, h₁, hbecomes⟩ := hstep.executable k e₀ hold
        rw [h, Option.some.injEq] at h₁
        subst h₁
        rw [hbecomes.msg_eq]
        exact hinv.executableChain k e₀ hold

/-! ## Fixed inputs -/

/-- A gateway for the chain `axelarnet`. -/
def exampleConfig : Config := ⟨⟨"axelarnet", by decide, by decide⟩, "axelar1router", "axelar1nexus"⟩

/-- A constant hash, and every address valid. -/
def exampleExternals : Externals := ⟨fun _ => Vector.replicate 32 0, fun _ => true⟩

/-- A nexus module that knows no chain and hands out the zero hash and nonce 0. -/
def exampleNexus : NexusQuerier := ⟨some (Vector.replicate 32 0, 0), fun _ => some false⟩

/-- A message from `polygon` for a contract on `axelarnet`, of the zero payload hash. -/
def exampleMessage : Message where
  ccId := ⟨⟨"polygon", by decide⟩, ⟨"0xfeed-23", by decide⟩⟩
  sourceAddress := ⟨"0xcafe", by decide⟩
  destinationChain := exampleConfig.chainName
  destinationAddress := ⟨"axelar1executable", by decide⟩
  payloadHash := Vector.replicate 32 0

/-- The storage after the router delivered `exampleMessage`. -/
def exampleDelivered : State :=
  ⟨exampleConfig, ∅, (∅ : Map CrossChainId ExecutableMessage).insert exampleMessage.ccId
    (.approved exampleMessage)⟩

theorem execute_example_delivery :
    execute exampleExternals (instantiate exampleConfig)
      ⟨exampleConfig.router, .routeMessages [exampleMessage], exampleNexus⟩ =
      .ok (exampleDelivered, ⟨[], [.routing exampleMessage]⟩) :=
  rfl

/-- Another message under `exampleMessage`'s id, from another source address. -/
def exampleForgery : Message :=
  { exampleMessage with sourceAddress := ⟨"0xcafe01", by decide⟩ }

/-- The contract call `axelar1dapp` makes: an empty payload for `0xbeef` on `moonbeam`. -/
def exampleCallData : CallContractData :=
  ⟨⟨"moonbeam", by decide, by decide⟩, ⟨"0xbeef", by decide⟩, ByteArray.empty⟩

/-- The message of that call, under the id the nexus module's zero hash and nonce 0 make. -/
def exampleCalled : Message :=
  callMessage exampleExternals exampleConfig.chainName exampleCallData (Vector.replicate 32 0) 0
    ⟨"axelar1dapp", by decide⟩

/-- The storage after `axelar1dapp`'s call, from `exampleDelivered`. -/
def exampleCalledState : State :=
  ⟨exampleConfig, (∅ : Map CrossChainId Message).insert exampleCalled.ccId exampleCalled,
    exampleDelivered.executableMessages⟩

theorem execute_example_call :
    execute exampleExternals exampleDelivered
      ⟨"axelar1dapp", .callContract exampleCallData.destinationChain
        exampleCallData.destinationAddress exampleCallData.payload, exampleNexus⟩ =
      .ok (exampleCalledState, ⟨[.routeMessages [exampleCalled]],
        [.routing exampleCalled, .contractCalled exampleCalled ByteArray.empty]⟩) :=
  rfl

theorem reachable_exampleDelivered :
    Reachable (execute exampleExternals) (instantiate exampleConfig) exampleDelivered :=
  .step .init execute_example_delivery

theorem reachable_exampleCalledState :
    Reachable (execute exampleExternals) (instantiate exampleConfig) exampleCalledState :=
  .step reachable_exampleDelivered execute_example_call

section Runs

variable {ext : Externals} {config : Config}

theorem reachable_inv {s : State} (hs : Reachable (execute ext) (instantiate config) s) : Inv s :=
  Reachable.induction_inv Inv (inv_instantiate config)
    (fun _ _ _ _ hinv h => hinv.step (step_of_execute h)) hs

/-- A later storage is a `Step` away. -/
theorem step_of_later {s t : State} (hs : Reachable (execute ext) (instantiate config) s)
    (hst : Later (execute ext) s t) : Step s t :=
  Later.rel Step Step.refl (fun _ _ _ => Step.trans) (fun _ _ _ _ _ h => step_of_execute h) hs hst

theorem axelarnet_gateway_stores {s : State}
    (hs : Reachable (execute ext) (instantiate config) s) :
    Inv s ∧ ∀ t, Later (execute ext) s t →
      t.config = s.config ∧ Map.Extends s.routableMessages t.routableMessages ∧
        Map.Evolves ExecutableMessage.Becomes s.executableMessages t.executableMessages := by
  refine ⟨reachable_inv hs, fun t hst => ?_⟩
  have hstep := step_of_later hs hst
  exact ⟨hstep.config, hstep.routable, hstep.executable⟩

/-- After the router's delivery and `axelar1dapp`'s call, both stores hold a
message, and every later storage keeps them: the called message as it is, the
delivered one approved or executed. -/
theorem axelarnet_gateway_stores_after_call :
    Reachable (execute exampleExternals) (instantiate exampleConfig) exampleCalledState ∧
    Inv exampleCalledState ∧
    ∀ t, Later (execute exampleExternals) exampleCalledState t →
      t.config = exampleConfig ∧
      t.routableMessages.lookup exampleCalled.ccId = some exampleCalled ∧
      ∃ e, t.executableMessages.lookup exampleMessage.ccId = some e ∧
        (ExecutableMessage.approved exampleMessage).Becomes e := by
  obtain ⟨hinv, hlater⟩ := axelarnet_gateway_stores reachable_exampleCalledState
  refine ⟨reachable_exampleCalledState, hinv, fun t hst => ?_⟩
  obtain ⟨hconfig, hroutable, hexecutable⟩ := hlater t hst
  exact ⟨hconfig, hroutable _ _ (AList.lookup_insert _),
    hexecutable _ _ (AList.lookup_insert _)⟩

/-! ## Execution at most once -/

theorem execute_execute (ext : Externals) (s : State) (sender : String) (ccId : CrossChainId)
    (payload : ByteArray) (nexus : NexusQuerier) :
    execute ext s ⟨sender, .execute ccId payload, nexus⟩ =
      changeContext (.contract .execute) (Execute.execute ext s ccId payload) :=
  rfl

/-- `Execute` of an id goes through only for an approved message whose payload
hash the payload has, and calls the destination contract with it; from then on
every `Execute` of the id is refused as already executed. -/
theorem execute_at_most_once {s s₁ : State} (hs : Reachable (execute ext) (instantiate config) s)
    {sender : String} {ccId : CrossChainId} {payload : ByteArray} {nexus : NexusQuerier}
    {r : Response} (h : execute ext s ⟨sender, .execute ccId payload, nexus⟩ = .ok (s₁, r)) :
    (∃ msg, s.executableMessages.lookup ccId = some (.approved msg) ∧
      msg.payloadHash = ext.keccak256 payload ∧
      r = ⟨[.execute msg.destinationAddress.val ⟨ccId, msg.sourceAddress, payload⟩],
        [.messageExecuted msg]⟩) ∧
    ∀ t, Later (execute ext) s₁ t → ∀ sender' payload' nexus',
      execute ext t ⟨sender', .execute ccId payload', nexus'⟩ = .error (.error
        [.contract .execute, .execute (.markExecuted ccId), .state (.messageAlreadyExecuted ccId)]) := by
  have hs₁ := hs.later (Later.single h)
  rw [execute_execute] at h
  obtain ⟨msg, hlook, hhash, -, rfl, rfl⟩ := execute_eq_ok.mp (changeContext_eq_ok.mp h)
  refine ⟨⟨msg, hlook, hhash, rfl⟩, fun t hst sender' payload' nexus' => ?_⟩
  -- the entry is executed now, and an executed entry stays executed
  obtain ⟨e, he, hbecomes⟩ :=
    (step_of_later hs₁ hst).executable ccId (.executed msg) (AList.lookup_insert _)
  have hexecuted : t.executableMessages.lookup ccId = some (.executed msg) := by
    rw [he, show e = .executed msg from hbecomes]
  rw [execute_execute, execute_of_executed hexecuted]
  rfl

theorem execute_example_execution :
    execute exampleExternals exampleDelivered
      ⟨"axelar1caller", .execute exampleMessage.ccId ByteArray.empty, exampleNexus⟩ =
      .ok (⟨exampleConfig, ∅, exampleDelivered.executableMessages.insert exampleMessage.ccId
          (.executed exampleMessage)⟩,
        ⟨[.execute "axelar1executable" ⟨exampleMessage.ccId, exampleMessage.sourceAddress,
          ByteArray.empty⟩], [.messageExecuted exampleMessage]⟩) :=
  rfl

theorem execute_at_most_once_example :
    Reachable (execute exampleExternals) (instantiate exampleConfig) exampleDelivered ∧
    execute exampleExternals exampleDelivered
      ⟨"axelar1caller", .execute exampleMessage.ccId ByteArray.empty, exampleNexus⟩ =
      .ok (⟨exampleConfig, ∅, exampleDelivered.executableMessages.insert exampleMessage.ccId
          (.executed exampleMessage)⟩,
        ⟨[.execute "axelar1executable" ⟨exampleMessage.ccId, exampleMessage.sourceAddress,
          ByteArray.empty⟩], [.messageExecuted exampleMessage]⟩) ∧
    ((∃ msg, exampleDelivered.executableMessages.lookup exampleMessage.ccId = some (.approved msg) ∧
      msg.payloadHash = exampleExternals.keccak256 ByteArray.empty ∧
      (⟨[.execute "axelar1executable" ⟨exampleMessage.ccId, exampleMessage.sourceAddress,
          ByteArray.empty⟩], [.messageExecuted exampleMessage]⟩ : Response) =
        ⟨[.execute msg.destinationAddress.val ⟨exampleMessage.ccId, msg.sourceAddress,
          ByteArray.empty⟩], [.messageExecuted msg]⟩) ∧
    ∀ t, Later (execute exampleExternals) ⟨exampleConfig, ∅,
        exampleDelivered.executableMessages.insert exampleMessage.ccId (.executed exampleMessage)⟩ t →
      ∀ sender' payload' nexus',
        execute exampleExternals t ⟨sender', .execute exampleMessage.ccId payload', nexus'⟩ =
          .error (.error [.contract .execute, .execute (.markExecuted exampleMessage.ccId),
            .state (.messageAlreadyExecuted exampleMessage.ccId)])) :=
  ⟨reachable_exampleDelivered, execute_example_execution,
    execute_at_most_once reachable_exampleDelivered execute_example_execution⟩

/-! ## Routing -/

/-- A message of a batch that this gateway stored from a contract call. -/
def Called (s : State) (msgs : List Message) (m : Message) : Prop :=
  m ∈ msgs ∧ s.routableMessages.lookup m.ccId = some m ∧
    m.ccId.sourceChain = chainNameRaw s.config.chainName

/-- `RouteMessages` from anyone but the router writes nothing and forwards exactly
the messages of the batch that this gateway stored from a contract call: each to
the nexus module when core knows its destination, else to the router, and each
with a `Routing` event. -/
theorem route_messages_forwards_only_called {s s' : State}
    (hs : Reachable (execute ext) (instantiate config) s) {sender : String}
    (hsender : sender ≠ s.config.router) {msgs : List Message} {nexus : NexusQuerier}
    {r : Response} (h : execute ext s ⟨sender, .routeMessages msgs, nexus⟩ = .ok (s', r)) :
    s' = s ∧
    r.events = (msgs.eraseDups.filter fun m => (s.routableMessages.lookup m.ccId).isSome).map
      .routing ∧
    (∀ c ∈ r.messages,
      (∃ m, c = .nexus (AxelarCoreStd.Nexus.ofRouterMessage m) ∧ Called s msgs m ∧
        nexus.isChainRegistered m.destinationChain = some true) ∨
      (∃ run, c = .routeMessages run ∧ ∀ m ∈ run, Called s msgs m ∧
        nexus.isChainRegistered m.destinationChain = some false)) ∧
    ∀ m, Called s msgs m →
      .nexus (AxelarCoreStd.Nexus.ofRouterMessage m) ∈ r.messages ∨
        ∃ run, .routeMessages run ∈ r.messages ∧ m ∈ run := by
  have hinv := reachable_inv hs
  have hroute : routeMessages nexus s sender msgs = .ok (s', r) := changeContext_eq_ok.mp h
  obtain ⟨hstored, hall, hs', rfl⟩ := (routeMessages_of_ne_router hsender).mp hroute
  subst s'
  -- a message of a run is a stored message of the batch, with the run's destination
  have hcalled : ∀ chunk ∈ Router.chunkBy Message.destinationChain
      (msgs.eraseDups.filter fun m => (s.routableMessages.lookup m.ccId).isSome),
      ∀ m ∈ chunk.2, Called s msgs m ∧ m.destinationChain = chunk.1 := by
    intro chunk hchunk m hm
    have hbatch : m ∈ msgs.eraseDups.filter fun m => (s.routableMessages.lookup m.ccId).isSome := by
      rw [← flatMap_snd_chunkBy (msgs.eraseDups.filter _)]
      exact List.mem_flatMap.mpr ⟨chunk, hchunk, hm⟩
    obtain ⟨hmem, hsome⟩ := List.mem_filter.mp hbatch
    obtain ⟨stored, hlook⟩ := Option.isSome_iff_exists.mp hsome
    have hmsgs := List.mem_eraseDups.mp hmem
    have hsm := hstored m hmsgs stored hlook
    subst stored
    exact ⟨⟨hmsgs, hlook, hinv.routableKeyed _ _ hlook ▸ hinv.routableChain _ _ hlook⟩,
      Router.key_of_mem_chunkBy Message.destinationChain hchunk m hm⟩
  refine ⟨rfl, rfl, fun c hc => ?_, fun m hm => ?_⟩
  · obtain ⟨chunk, hchunk, hc⟩ := List.mem_flatMap.mp hc
    obtain ⟨registered, hq⟩ := Option.isSome_iff_exists.mp (hall chunk hchunk)
    rw [hq, Option.getD_some] at hc
    cases registered
    · -- core does not know the chain: the run goes to the router
      simp only [forwardRun, Bool.false_eq_true, if_false, routeToRouter, route] at hc
      split_ifs at hc
      · cases hc
      · rw [List.mem_singleton.mp hc]
        exact .inr ⟨chunk.2, rfl, fun m hm => ⟨(hcalled chunk hchunk m hm).1,
          (hcalled chunk hchunk m hm).2 ▸ hq⟩⟩
    · simp only [forwardRun, if_true, routeToNexus, List.mem_map] at hc
      obtain ⟨m, hm, rfl⟩ := hc
      exact .inl ⟨m, rfl, (hcalled chunk hchunk m hm).1, (hcalled chunk hchunk m hm).2 ▸ hq⟩
  · obtain ⟨hmsgs, hlook, -⟩ := hm
    have hbatch : m ∈ msgs.eraseDups.filter fun m => (s.routableMessages.lookup m.ccId).isSome :=
      List.mem_filter.mpr ⟨List.mem_eraseDups.mpr hmsgs, by simp [hlook]⟩
    rw [← flatMap_snd_chunkBy (msgs.eraseDups.filter _)] at hbatch
    obtain ⟨chunk, hchunk, hm⟩ := List.mem_flatMap.mp hbatch
    obtain ⟨registered, hq⟩ := Option.isSome_iff_exists.mp (hall chunk hchunk)
    cases registered
    · refine .inr ⟨chunk.2, List.mem_flatMap.mpr ⟨chunk, hchunk, ?_⟩, hm⟩
      have hne : chunk.2 ≠ [] := List.ne_nil_of_mem hm
      simp [hq, forwardRun, routeToRouter, route, hne]
    · refine .inl (List.mem_flatMap.mpr ⟨chunk, hchunk, ?_⟩)
      simp only [hq, Option.getD_some, forwardRun, if_true, routeToNexus]
      exact List.mem_map_of_mem hm

/-- After `axelar1dapp`'s call, a relayer's batch of the called message and the
delivered one forwards the called message to the router, and only it: the
delivered message was never called through this gateway. -/
theorem route_messages_forwards_only_called_after_call :
    ∃ r, execute exampleExternals exampleCalledState
        ⟨"axelar1relayer", .routeMessages [exampleCalled, exampleMessage], exampleNexus⟩ =
          .ok (exampleCalledState, r) ∧
      r.events = [.routing exampleCalled] ∧
      (∃ run, .routeMessages run ∈ r.messages ∧ exampleCalled ∈ run) ∧
      ∀ c ∈ r.messages, ∃ run, c = .routeMessages run ∧ exampleMessage ∉ run := by
  have hsender : "axelar1relayer" ≠ exampleCalledState.config.router := by decide
  obtain ⟨r, hrun⟩ : ∃ r, execute exampleExternals exampleCalledState
      ⟨"axelar1relayer", .routeMessages [exampleCalled, exampleMessage], exampleNexus⟩ =
        .ok (exampleCalledState, r) := ⟨_, rfl⟩
  obtain ⟨-, hevents, hsent, hforwarded⟩ := route_messages_forwards_only_called
    reachable_exampleCalledState hsender hrun
  -- the delivered message came from another chain, so it was never called here
  have huncalled : ¬ Called exampleCalledState [exampleCalled, exampleMessage] exampleMessage :=
    fun ⟨_, _, hchain⟩ => absurd hchain (by decide)
  have hcalled : Called exampleCalledState [exampleCalled, exampleMessage] exampleCalled :=
    ⟨List.mem_cons_self, AList.lookup_insert _, rfl⟩
  have hbatch : ([exampleCalled, exampleMessage].eraseDups.filter fun m =>
      (exampleCalledState.routableMessages.lookup m.ccId).isSome) = [exampleCalled] := by decide
  refine ⟨r, hrun, by rw [hevents, hbatch]; rfl, ?_, fun c hc => ?_⟩
  · rcases hforwarded exampleCalled hcalled with hnexus | hrouter
    · -- core knows no chain, so nothing goes to the nexus module
      rcases hsent _ hnexus with ⟨m, -, -, hreg⟩ | ⟨run, hc, -⟩
      · simp [exampleNexus] at hreg
      · cases hc
    · exact hrouter
  · rcases hsent c hc with ⟨m, -, -, hreg⟩ | ⟨run, rfl, hrun⟩
    · simp [exampleNexus] at hreg
    · exact ⟨run, rfl, fun hm => huncalled (hrun _ hm).1⟩

/-! ## Contract calls -/

theorem execute_callContract (ext : Externals) (s : State) (sender : String)
    (destinationChain : ChainName) (destinationAddress : Address) (payload : ByteArray)
    (nexus : NexusQuerier) :
    execute ext s ⟨sender, .callContract destinationChain destinationAddress payload, nexus⟩ =
      changeContext (.contract .callContract)
        (callContract ext nexus s sender ⟨destinationChain, destinationAddress, payload⟩) :=
  rfl

/-- Routing one stored message from anyone but the router forwards it. -/
theorem routeMessages_single_of_ne_router {nexus : NexusQuerier} {s s' : State} {sender : String}
    (hsender : sender ≠ s.config.router) {msg : Message}
    (hstored : s.routableMessages.lookup msg.ccId = some msg) {r : Response} :
    routeMessages nexus s sender [msg] = .ok (s', r) ↔
      ∃ registered, nexus.isChainRegistered msg.destinationChain = some registered ∧ s' = s ∧
        r = ⟨forwardRun registered [msg], [.routing msg]⟩ := by
  have hbatch : ([msg].eraseDups.filter fun m => (s.routableMessages.lookup m.ccId).isSome) =
      [msg] := by
    simp [List.eraseDups_cons, hstored]
  have hchunks : Router.chunkBy Message.destinationChain [msg] = [(msg.destinationChain, [msg])] :=
    rfl
  rw [routeMessages_of_ne_router hsender, hbatch, hchunks]
  constructor
  · rintro ⟨-, hall, rfl, rfl⟩
    obtain ⟨registered, hq⟩ := Option.isSome_iff_exists.mp (hall _ List.mem_cons_self)
    exact ⟨registered, hq, rfl, by simp [hq]⟩
  · rintro ⟨registered, hq, rfl, rfl⟩
    refine ⟨fun m hm stored hs => ?_, fun chunk hchunk => ?_, rfl, by simp [hq]⟩
    · rw [List.mem_singleton.mp hm, hstored, Option.some.injEq] at hs
      rw [List.mem_singleton.mp hm, hs]
    · rw [List.mem_singleton.mp hchunk, hq]
      rfl

/-- `CallContract` from anyone but the router goes through exactly when the nexus
module hands out a hash and a nonce below `2 ^ 32`, the caller is an address, the
id they make is not taken and core answers for the destination. It then stores
the call's message as routable under that id and forwards it: to the nexus module
when core knows the destination, else to the router; with a `Routing` and a
`ContractCalled` event. A taken id is a panic. -/
theorem call_contract_from_caller {s : State} {sender : String}
    (hsender : sender ≠ s.config.router) {destinationChain : ChainName}
    {destinationAddress : Address} {payload : ByteArray} {nexus : NexusQuerier} :
    (∀ s' r, execute ext s ⟨sender, .callContract destinationChain destinationAddress payload, nexus⟩ =
        .ok (s', r) ↔
      ∃ txHash nonce sourceAddress registered msg,
        nexus.txHashAndNonce = some (txHash, nonce) ∧ nonce.toNat < 2 ^ 32 ∧
        addressFromStr sender = some sourceAddress ∧
        msg = callMessage ext s.config.chainName ⟨destinationChain, destinationAddress, payload⟩
          txHash nonce sourceAddress ∧
        s.routableMessages.lookup msg.ccId = none ∧
        nexus.isChainRegistered destinationChain = some registered ∧
        s' = ⟨s.config, s.routableMessages.insert msg.ccId msg, s.executableMessages⟩ ∧
        r = ⟨forwardRun registered [msg], [.routing msg, .contractCalled msg payload]⟩) ∧
    ∀ txHash nonce sourceAddress, nexus.txHashAndNonce = some (txHash, nonce) →
      nonce.toNat < 2 ^ 32 → addressFromStr sender = some sourceAddress →
      (s.routableMessages.lookup (callMessage ext s.config.chainName
        ⟨destinationChain, destinationAddress, payload⟩ txHash nonce sourceAddress).ccId).isSome →
      ∃ msg, execute ext s ⟨sender, .callContract destinationChain destinationAddress payload,
        nexus⟩ = .error (.panic msg) := by
  refine ⟨fun s' r => ?_, fun txHash nonce sourceAddress hq hlt haddr htaken => ?_⟩
  · rw [execute_callContract, changeContext_eq_ok, callContract_eq_ok]
    constructor
    · rintro ⟨txHash, nonce, sourceAddress, hq, hlt, haddr, hnone, r₀, hroute, rfl⟩
      generalize hmsg : callMessage ext s.config.chainName ⟨destinationChain, destinationAddress,
        payload⟩ txHash nonce sourceAddress = msg at hnone hroute ⊢
      have hdest : msg.destinationChain = destinationChain := by rw [← hmsg]; rfl
      -- the message is stored before it is routed
      have hstored : (⟨s.config, s.routableMessages.insert msg.ccId msg, s.executableMessages⟩ :
          State).routableMessages.lookup msg.ccId = some msg := AList.lookup_insert _
      obtain ⟨registered, hreg, rfl, rfl⟩ := (routeMessages_single_of_ne_router
        (s := ⟨s.config, s.routableMessages.insert msg.ccId msg, s.executableMessages⟩) hsender
        hstored).mp hroute
      exact ⟨txHash, nonce, sourceAddress, registered, msg, hq, hlt, haddr, hmsg.symm, hnone,
        hdest ▸ hreg, rfl, rfl⟩
    · rintro ⟨txHash, nonce, sourceAddress, registered, msg, hq, hlt, haddr, hmsg, hnone, hreg,
        rfl, rfl⟩
      have hdest : msg.destinationChain = destinationChain := by rw [hmsg]; rfl
      have hstored : (⟨s.config, s.routableMessages.insert msg.ccId msg, s.executableMessages⟩ :
          State).routableMessages.lookup msg.ccId = some msg := AList.lookup_insert _
      refine ⟨txHash, nonce, sourceAddress, hq, hlt, haddr, ?_⟩
      rw [← hmsg]
      exact ⟨hnone, ⟨forwardRun registered [msg], [.routing msg]⟩,
        (routeMessages_single_of_ne_router
          (s := ⟨s.config, s.routableMessages.insert msg.ccId msg, s.executableMessages⟩) hsender
          hstored).mpr ⟨registered, hdest ▸ hreg, rfl, rfl⟩, rfl⟩
  · rw [execute_callContract, callContract_eq_panic hq hlt haddr htaken]
    exact ⟨_, rfl⟩

/-- `axelar1dapp`'s call from `exampleDelivered` goes through with the id the
nexus module's hash and nonce make, which was free; made again once the message is
stored, the same call meets the taken id and panics. -/
theorem call_contract_from_caller_example :
    (∃ txHash nonce sourceAddress registered,
      exampleNexus.txHashAndNonce = some (txHash, nonce) ∧
      exampleNexus.isChainRegistered exampleCallData.destinationChain = some registered ∧
      exampleCalled = callMessage exampleExternals exampleConfig.chainName exampleCallData txHash
        nonce sourceAddress ∧
      exampleDelivered.routableMessages.lookup exampleCalled.ccId = none) ∧
    ∃ msg, execute exampleExternals exampleCalledState
      ⟨"axelar1dapp", .callContract exampleCallData.destinationChain
        exampleCallData.destinationAddress exampleCallData.payload, exampleNexus⟩ =
        .error (.panic msg) := by
  have hsender : "axelar1dapp" ≠ exampleDelivered.config.router := by decide
  obtain ⟨txHash, nonce, sourceAddress, registered, msg, hq, -, -, hmsg, hnone, hreg, -, hr⟩ :=
    ((call_contract_from_caller hsender).1 _ _).mp execute_example_call
  -- the response's events name the message the call made
  have hcalled : exampleCalled = msg := by
    simp only [Response.mk.injEq, List.cons.injEq, Event.routing.injEq] at hr
    exact hr.2.1
  subst hcalled
  refine ⟨⟨txHash, nonce, sourceAddress, registered, hq, hreg, hmsg, hnone⟩, ?_⟩
  have hsender' : "axelar1dapp" ≠ exampleCalledState.config.router := by decide
  exact (call_contract_from_caller hsender').2 (Vector.replicate 32 0) 0 ⟨"axelar1dapp", by decide⟩
    rfl (by decide) rfl (by decide)

/-- `RouteMessages` from the router is refused when a message of the batch that core
does not send on to the nexus module has the id of a stored executable message
with other content. When it goes through, it writes no routable message, sends
only the batch's messages for chains core knows to the nexus module, and stores
every other message of the batch executable for this chain; it stays stored with
the same content at every later storage. -/
theorem router_messages_delivered {s : State}
    (hs : Reachable (execute ext) (instantiate config) s) {msgs : List Message}
    {nexus : NexusQuerier} :
    (∀ m ∈ msgs, nexus.isChainRegistered m.destinationChain ≠ some true →
      ∀ e, s.executableMessages.lookup m.ccId = some e → e.msg ≠ m →
      ∀ s' r, execute ext s ⟨s.config.router, .routeMessages msgs, nexus⟩ ≠ .ok (s', r)) ∧
    ∀ s' r, execute ext s ⟨s.config.router, .routeMessages msgs, nexus⟩ = .ok (s', r) →
      s'.routableMessages = s.routableMessages ∧ r.events = msgs.map .routing ∧
      (∀ c ∈ r.messages, ∃ m ∈ msgs, c = .nexus (AxelarCoreStd.Nexus.ofRouterMessage m) ∧
        nexus.isChainRegistered m.destinationChain = some true) ∧
      ∀ m ∈ msgs,
        (nexus.isChainRegistered m.destinationChain = some true ∧
          .nexus (AxelarCoreStd.Nexus.ofRouterMessage m) ∈ r.messages) ∨
        (nexus.isChainRegistered m.destinationChain = some false ∧
          m.destinationChain = s.config.chainName ∧
          ∀ t, Later (execute ext) s' t →
            ∃ e, t.executableMessages.lookup m.ccId = some e ∧ e.msg = m) := by
  refine ⟨fun m hm hreg e he hne s' r h => ?_, fun s' r h => ?_⟩
  · obtain ⟨-, -, -, hroute⟩ := routeMessages_of_router (changeContext_eq_ok.mp h)
    rcases hroute.delivered m hm with ⟨hq, -⟩ | ⟨-, -, e', he', hmsg⟩
    · exact hreg hq
    · -- the stored entry stays, so the message saved under the id is the stored one
      rw [hroute.saves.1 _ _ he, Option.some.injEq] at he'
      exact hne (he' ▸ hmsg)
  · have hs' := hs.later (Later.single h)
    obtain ⟨-, hroutable, hevents, hroute⟩ := routeMessages_of_router (changeContext_eq_ok.mp h)
    obtain ⟨extra, hextra, hsent⟩ := hroute.sent
    rw [List.nil_append] at hextra
    refine ⟨hroutable, hevents, hextra ▸ hsent, fun m hm => ?_⟩
    rcases hroute.delivered m hm with hnexus | ⟨hq, hdest, e, he, hmsg⟩
    · exact .inl hnexus
    · refine .inr ⟨hq, hdest, fun t hst => ?_⟩
      -- the stored entry only moves as `Becomes` allows, which keeps its message
      obtain ⟨e', he', hbecomes⟩ := (step_of_later hs' hst).executable m.ccId e he
      exact ⟨e', he', hbecomes.msg_eq.trans hmsg⟩

/-- The router's delivery of `exampleMessage` stays stored; once it is, the router's
forgery under its id is refused. -/
theorem router_messages_delivered_example :
    (∀ t, Later (execute exampleExternals) exampleDelivered t →
      ∃ e, t.executableMessages.lookup exampleMessage.ccId = some e ∧ e.msg = exampleMessage) ∧
    ∀ s' r, execute exampleExternals exampleDelivered
      ⟨exampleConfig.router, .routeMessages [exampleForgery], exampleNexus⟩ ≠ .ok (s', r) := by
  have hunknown : exampleNexus.isChainRegistered exampleMessage.destinationChain = some false :=
    rfl
  refine ⟨fun t hst => ?_, ?_⟩
  · rcases ((router_messages_delivered .init).2 _ _ execute_example_delivery).2.2.2 exampleMessage
        List.mem_cons_self with ⟨hq, -⟩ | ⟨-, -, hlater⟩
    · simp [hunknown] at hq
    · exact hlater t hst
  · have hforgery : (ExecutableMessage.approved exampleMessage).msg ≠ exampleForgery := by decide
    exact (router_messages_delivered reachable_exampleDelivered).1 exampleForgery List.mem_cons_self
      (by simp [exampleForgery, hunknown]) _ (AList.lookup_insert _) hforgery

end Runs

end Amplifier.AxelarnetGateway
