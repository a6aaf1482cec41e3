import Amplifier.Router.State

/-!
# Amplifier.Router.Execute — the router's handlers

The handlers of `contract/execute.rs` and the dispatch of `contract.rs`:

* `RegisterChain` and `UpgradeGateway` first ask the gateway index whether the
  gateway is taken (`find_chain_for_gateway`), then write the endpoint through
  `IndexedMap::update`, whose closure fails for a chain that exists (register)
  or does not (upgrade);
* `FreezeChains` and `UnfreezeChains` update the frozen status of each chain of
  the request in turn, and fail as a whole at the first unknown chain;
* `DisableRouting` and `EnableRouting` flip the killswitch;
* `RouteMessages` writes nothing: it checks the batch against the sender's
  chain and sends each run of messages with one destination to that chain's
  gateway (or to the axelarnet gateway for a chain only core knows).

A request's `HashMap` of chains is a `Map` here, iterated in its own order, which
is one of the orders the `HashMap` may yield. A handler that fails leaves the
storage as it was, as the transaction is reverted.
-/

namespace Amplifier.Router

open WasmStd RouterApi

/-- The events of the router. -/
inductive Event where
  | chainRegistered (name : ChainName) (gateway : String)
  | gatewayUpgraded (chain : ChainName) (gatewayAddress : String)
  | chainFrozen (name : ChainName) (direction : GatewayDirection)
  | chainUnfrozen (name : ChainName) (direction : GatewayDirection)
  | routingDisabled
  | routingEnabled
  | messageRouted (msg : Message)

/-- `Response`: the `RouteMessages` calls to gateways, and the events. -/
structure Response where
  messages : List (String × List Message)
  events : List Event

/-! ## Chains and gateways -/

/-- `find_chain_for_gateway`. -/
def findChainForGateway (s : State) (contractAddress : String) :
    Except Failure (Option ChainEndpoint) :=
  GatewayIndex.loadChainByGateway s.chainEndpoints contractAddress

/-- `register_chain`: the gateway must be free and the chain unknown to core and
to the router. -/
def registerChain (ext : Externals) (s : State) (name : ChainName) (gateway : String)
    (msgIdFormat : MessageIdFormat) : Except Failure (State × Response) := do
  let existing ← findChainForGateway s gateway
  ensure existing.isNone (.error (.router .gatewayAlreadyRegistered))
  let registered ← okOr (ext.isChainRegistered name) (.error (.router .nexus))
  ensure (!registered) (.error (.router .chainAlreadyExists))
  let updated ← (s.chainEndpoints.update ChainEndpoint.gatewayAddress name fun
      | some _ => .error .chainAlreadyExists
      | none => .ok
          { name := name, gateway := ⟨gateway⟩, frozenStatus := .ofDirection .none,
            msgIdFormat := msgIdFormat }).mapError (.error ∘ .router)
  return ({ s with chainEndpoints := updated.1 }, ⟨[], [.chainRegistered name gateway]⟩)

/-- `upgrade_gateway`: the new gateway must be free and the chain registered. -/
def upgradeGateway (s : State) (chain : ChainName) (contractAddress : String) :
    Except Failure (State × Response) := do
  let existing ← findChainForGateway s contractAddress
  ensure existing.isNone (.error (.router .gatewayAlreadyRegistered))
  let updated ← (s.chainEndpoints.update ChainEndpoint.gatewayAddress chain fun
      | none => .error .chainNotFound
      | some endpoint => .ok { endpoint with gateway := { endpoint.gateway with
          address := contractAddress } }).mapError (.error ∘ .router)
  return ({ s with chainEndpoints := updated.1 }, ⟨[], [.gatewayUpgraded chain contractAddress]⟩)

/-- The body of `freeze_specific_chain` and `unfreeze_specific_chain`: the frozen
status of a registered chain changed by `op`, and the event made by `event`. -/
def updateFrozenStatus (op : FlagSet → GatewayDirection → FlagSet)
    (event : ChainName → GatewayDirection → Event)
    (chainEndpoints : IndexedMap ChainName ChainEndpoint String) (chain : ChainName)
    (direction : GatewayDirection) :
    Except Error (IndexedMap ChainName ChainEndpoint String × Event) := do
  let updated ← chainEndpoints.update ChainEndpoint.gatewayAddress chain fun
    | none => .error .chainNotFound
    | some endpoint => .ok { endpoint with frozenStatus := op endpoint.frozenStatus direction }
  return (updated.1, event chain direction)

/-- `freeze_specific_chain`: the direction's bits set. -/
def freezeSpecificChain := updateFrozenStatus FlagSet.union Event.chainFrozen

/-- `unfreeze_specific_chain`: the direction's bits cleared. -/
def unfreezeSpecificChain := updateFrozenStatus FlagSet.diff Event.chainUnfrozen

/-- One chain of `freeze_chains` or `unfreeze_chains`: the endpoints so far
updated, its event added to those so far. -/
def updateChainsStep
    (specific : IndexedMap ChainName ChainEndpoint String → ChainName → GatewayDirection →
      Except Error (IndexedMap ChainName ChainEndpoint String × Event))
    (acc : IndexedMap ChainName ChainEndpoint String × List Event)
    (entry : Σ _ : ChainName, GatewayDirection) :
    Except Error (IndexedMap ChainName ChainEndpoint String × List Event) := do
  let updated ← specific acc.1 entry.1 entry.2
  pure (updated.1, acc.2 ++ [updated.2])

/-- The body of `freeze_chains` and `unfreeze_chains`: one chain after the other,
the first failure failing the whole request. -/
def updateChains
    (specific : IndexedMap ChainName ChainEndpoint String → ChainName → GatewayDirection →
      Except Error (IndexedMap ChainName ChainEndpoint String × Event))
    (s : State) (chains : Map ChainName GatewayDirection) : Except Failure (State × Response) := do
  let result ← (chains.entries.foldlM (updateChainsStep specific) (s.chainEndpoints, [])).mapError
    (.error ∘ .router)
  return ({ s with chainEndpoints := result.1 }, ⟨[], result.2⟩)

/-- `freeze_chains`. -/
def freezeChains := updateChains freezeSpecificChain

/-- `unfreeze_chains`. -/
def unfreezeChains := updateChains unfreezeSpecificChain

/-- `disable_routing`: the killswitch engaged. -/
def disableRouting (s : State) : State × Response :=
  let (killswitch, changed) := s.killswitch.engage
  ({ s with killswitch := killswitch }, ⟨[], if changed then [.routingDisabled] else []⟩)

/-- `enable_routing`: the killswitch disengaged. -/
def enableRouting (s : State) : State × Response :=
  let (killswitch, changed) := s.killswitch.disengage
  ({ s with killswitch := killswitch }, ⟨[], if changed then [.routingEnabled] else []⟩)

/-! ## Routing -/

/-- `Itertools::chunk_by`, as itertools documents it: consecutive elements with
one key form a group, the groups in order; each run with its key. -/
def chunkBy {α β : Type} [DecidableEq β] (key : α → β) : List α → List (β × List α)
  | [] => []
  | a :: as =>
      match chunkBy key as with
      | (k, run) :: rest =>
          if key a = k then (k, a :: run) :: rest else (key a, [a]) :: (k, run) :: rest
      | [] => [(key a, [a])]

/-- `verify_msg_ids`: every message id in the expected format. -/
def verifyMsgIds (ext : Externals) (msgs : List Message) (expectedFormat : MessageIdFormat) :
    Except Failure Unit :=
  ensure (msgs.all fun msg => ext.verifyMsgId msg.ccId.messageId.val expectedFormat)
    (.error (.router .invalidMessageId))

/-- `validate_msgs`: messages from the axelarnet gateway need only hex message
ids; any other sender must be the gateway of an unfrozen chain, the source chain
of every message. -/
def validateMsgs (ext : Externals) (s : State) (sender : String) (msgs : List Message) :
    Except Failure (List Message) :=
  if sender = s.config.axelarnetGateway then do
    verifyMsgIds ext msgs .hexTxHashAndEventIndex
    return msgs
  else do
    let sourceChain ← loadChainByGateway s sender
    ensure (!sourceChain.incomingFrozen) (.error (.router (.chainFrozen sourceChain.name)))
    ensure (!msgs.any fun msg => msg.ccId.sourceChain.val ≠ sourceChain.name.val)
      (.error (.router .wrongSourceChain))
    verifyMsgIds ext msgs sourceChain.msgIdFormat
    return msgs

/-- The gateway a run of messages to one destination chain goes to: the chain's
own unless it is frozen outgoing, the axelarnet gateway for a chain only core
knows. -/
def destinationGateway (ext : Externals) (s : State) (destinationChain : ChainName) :
    Except Failure String :=
  match loadChainByChainName s destinationChain with
  | some destination =>
      if destination.outgoingFrozen then .error (.error (.router (.chainFrozen destination.name)))
      else .ok destination.gateway.address
  | none => do
      let registered ← okOr (ext.isChainRegistered destinationChain) (.error (.router .nexus))
      if registered then .ok s.config.axelarnetGateway else .error (.error (.router .chainNotFound))

/-- `route_messages`: with routing enabled, the validated batch is sent run by
run of destination chain. -/
def routeMessages (ext : Externals) (s : State) (sender : String) (msgs : List Message) :
    Except Failure Response := do
  ensure s.killswitch.isContractActive (.error (.router .routingDisabled))
  let msgs ← validateMsgs ext s sender msgs
  let wasmMsgs ← (chunkBy Message.destinationChain msgs).mapM fun run => do
    let gateway ← destinationGateway ext s run.1
    pure (gateway, run.2)
  return ⟨wasmMsgs, msgs.map .messageRouted⟩

/-- `query::chain_info`. -/
def chainInfo (s : State) (chain : ChainName) : Except Error ChainEndpoint :=
  okOr (loadChainByChainName s chain) .chainNotFound

/-! ## Permissions and dispatch -/

/-- `ExecuteMsg`. -/
inductive ExecuteMsg where
  | registerChain (chain : ChainName) (gatewayAddress : String) (msgIdFormat : MessageIdFormat)
  | upgradeGateway (chain : ChainName) (contractAddress : String)
  | freezeChains (chains : Map ChainName GatewayDirection)
  | unfreezeChains (chains : Map ChainName GatewayDirection)
  | disableRouting
  | enableRouting
  | routeMessages (msgs : List Message)

/-- A call: the sender, the contract that relayed it, if any, and the message. -/
structure Call where
  sender : String
  relayer : Option String
  msg : ExecuteMsg

/-- `find_gateway_address`: the specific permission of `RouteMessages`. It admits
every sender that does not make the index panic, an unknown gateway included;
`route_messages` then rejects those. -/
def findGatewayAddress (s : State) (sender : String) : Except Failure Bool :=
  if s.config.axelarnetGateway = sender then .ok true
  else
    match loadChainByGateway s sender with
    | .ok _ => .ok true
    | .error (.error (.router .gatewayNotRegistered)) => .ok true
    | .error e => .error e

/-- `ExecuteMsg::ensure_permissions`: `RouteMessages` is for gateways, the
registration of chains and gateways for governance, the others for an elevated
role. -/
def ExecuteMsg.ensurePermissions (msg : ExecuteMsg) (s : State) (sender : String) :
    Except Failure Unit :=
  match msg with
  | .registerChain .. | .upgradeGateway .. =>
      (ensureGeneral {.governance} s.admin s.governance sender).mapError (.error ∘ .permission)
  | .freezeChains _ | .unfreezeChains _ | .disableRouting | .enableRouting =>
      (ensureGeneral Permission.elevated s.admin s.governance sender).mapError
        (.error ∘ .permission)
  | .routeMessages _ => do
      let allowed ← findGatewayAddress s sender
      ensure allowed (.error (.permission (.specificPermissionDenied ["gateway"])))

/-- `verify_external_executor` with `validate_external_contract`: only the
coordinator relays, and only `RegisterChain`. -/
def ExecuteMsg.verifyExternalExecutor (msg : ExecuteMsg) (s : State) (relayer : String) :
    Except PermissionError Unit :=
  match msg with
  | .registerChain .. => if relayer = s.config.coordinator then .ok () else .error .unauthorized
  | _ => .error .unauthorized

/-- The address of a message that `execute` validates before its handler. -/
def ExecuteMsg.validateAddresses (ext : Externals) : ExecuteMsg → Except Failure Unit
  | .registerChain _ gatewayAddress _ =>
      ensure (ext.isValidAddress gatewayAddress) (.error (.invalidAddress gatewayAddress))
  | .upgradeGateway _ contractAddress =>
      ensure (ext.isValidAddress contractAddress) (.error (.invalidAddress contractAddress))
  | _ => .ok ()

/-- The handler of a message, once its sender is admitted. -/
def dispatch (ext : Externals) (s : State) (sender : String) :
    ExecuteMsg → Except Failure (State × Response)
  | .registerChain chain gatewayAddress msgIdFormat =>
      registerChain ext s chain gatewayAddress msgIdFormat
  | .upgradeGateway chain contractAddress => upgradeGateway s chain contractAddress
  | .freezeChains chains => freezeChains s chains
  | .unfreezeChains chains => unfreezeChains s chains
  | .routeMessages msgs => (fun r => (s, r)) <$> routeMessages ext s sender msgs
  | .disableRouting => .ok (disableRouting s)
  | .enableRouting => .ok (enableRouting s)

/-- `execute`: the relay check, the permission check, the validation of the
message's address, and the handler. -/
def execute (ext : Externals) (s : State) (c : Call) : Except Failure (State × Response) := do
  match c.relayer with
  | some relayer => (c.msg.verifyExternalExecutor s relayer).mapError (.error ∘ .permission)
  | none => pure ()
  c.msg.ensurePermissions s c.sender
  c.msg.validateAddresses ext
  dispatch ext s c.sender c.msg

end Amplifier.Router
