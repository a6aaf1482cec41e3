import Amplifier.AxelarCoreStd.Nexus
import Amplifier.AxelarnetGateway.State
import Amplifier.Router.Routing

/-!
# Amplifier.AxelarnetGateway.Execute — the axelarnet gateway's handlers

The handlers of `contract/execute.rs` and the dispatch of `contract.rs`:

* `CallContract` makes a message from the caller's call: its id is this chain
  with the transaction's hash and a nonce the nexus module hands out
  (`unique_cross_chain_id`); it saves it as routable (a taken id is a panic) and
  routes it;
* `RouteMessages` routes a batch. From the router, the batch is taken as
  verified; from anyone else, only the batch's messages stored as routable are
  routed (each once), and one that differs from the stored message under its id
  fails the batch. Each run of messages to one destination chain goes to the
  nexus module when core knows the chain, else, from the router, to this chain
  (saved executable), else to the router;
* `Execute` marks an approved message executed when the payload hashes to its
  payload hash, and calls the destination contract on Axelar with it;
* `RouteMessagesFromNexus`, only from the nexus module, hands the nexus's
  messages to the router.

The nexus module's answers to a transaction's queries are part of the call: the
transaction's hash and the nonce differ from call to call. A handler that fails
leaves the storage as it was, as the transaction is reverted.
-/

namespace Amplifier.AxelarnetGateway

open WasmStd RouterApi WasmStd.MsgId

/-! ## Errors, externals and responses -/

/-- `contract::execute::Error`: the variants the handlers attach. -/
inductive ExecuteError where
  | saveExecutableMessage
  | messageMismatch (ccId : CrossChainId)
  | markExecuted (ccId : CrossChainId)
  | invalidDestination (expected actual : ChainName)
  | saveRoutableMessage
  | invalidSourceAddress (addr : String)
  | invalidDestinationAddress (addr : String)
  | nexus
  | nonceOverflow
  | invalidRoutingDestination
  | invalidNexusMessageForRouter

/-- `contract::Error`: the context `execute` gives each handler. -/
inductive ContractError where
  | callContract
  | routeMessages
  | execute

/-- `nexus::Error`: the errors of the nexus module's queries. -/
inductive NexusQueryError where
  | queryTxHashAndNonce
  | queryIsChainRegistered

/-- A context of an error_stack report. -/
inductive Error where
  | contract (err : ContractError)
  | execute (err : ExecuteError)
  | state (err : StateError)
  | nexusQuery (err : NexusQueryError)
  | nexus (err : AxelarCoreStd.Nexus.Error)
  | permission (err : PermissionError)
  | invalidAddress (address : String)

/-- A report: its contexts, outermost first. -/
abbrev Report := List Error

/-- How a handler fails: with a report, or with a panic and its message. -/
inductive Failure where
  | error (report : Report)
  | panic (msg : String)

/-- `ResultExt::change_context`: a new outermost context; a panic stays a panic. -/
def changeContext {α : Type} (e : Error) (x : Except Failure α) : Except Failure α :=
  x.mapError fun
    | .error report => .error (e :: report)
    | .panic msg => .panic msg

/-- What the contract takes from outside the repository. -/
structure Externals where
  /-- Keccak-256, for a payload's hash. -/
  keccak256 : ByteArray → Hash
  /-- `address::validate_cosmwasm_address`. -/
  isValidAddress : String → Bool

/-- The nexus module's answers to a transaction's queries, `none` when a query
fails: `tx_hash_and_nonce`, the transaction's hash and a nonce; and
`is_chain_registered`. -/
structure NexusQuerier where
  txHashAndNonce : Option (Hash × UInt64)
  isChainRegistered : ChainName → Option Bool

/-- `AxelarExecutableMsg`: what a contract on Axelar is executed with. -/
structure AxelarExecutableMsg where
  ccId : CrossChainId
  sourceAddress : Address
  payload : ByteArray

/-- The messages of a response. -/
inductive CosmosMsg where
  /-- The router's `RouteMessages`. -/
  | routeMessages (msgs : List Message)
  /-- A message for the nexus module (`CosmosMsg::Custom`). -/
  | nexus (msg : AxelarCoreStd.Nexus.Message)
  /-- `Execute` at a contract on Axelar. -/
  | execute (destination : String) (msg : AxelarExecutableMsg)

/-- `AxelarnetGatewayEvent`. -/
inductive Event where
  | contractCalled (msg : Message) (payload : ByteArray)
  | routing (msg : Message)
  | messageExecuted (msg : Message)

/-- `Response`. -/
structure Response where
  messages : List CosmosMsg
  events : List Event

/-- `router_api::Client::route`: nothing for an empty batch. -/
def route (msgs : List Message) : List CosmosMsg :=
  if msgs.isEmpty then [] else [.routeMessages msgs]

/-- `From<ChainName> for ChainNameRaw`. -/
def chainNameRaw (name : ChainName) : ChainNameRaw := ⟨name.val, name.valid⟩

/-- `Address::from_str`. -/
def addressFromStr (s : String) : Option Address :=
  if h : isAddress s = true then some ⟨s, h⟩ else none

/-! ## The handlers -/

namespace Execute

/-- `CallContractData`. -/
structure CallContractData where
  destinationChain : ChainName
  destinationAddress : Address
  payload : ByteArray

/-- `CallContractData::to_message`. -/
def CallContractData.toMessage (ext : Externals) (data : CallContractData) (id : CrossChainId)
    (sourceAddress : Address) : Message where
  ccId := id
  sourceAddress := sourceAddress
  destinationChain := data.destinationChain
  destinationAddress := data.destinationAddress
  payloadHash := ext.keccak256 data.payload

/-- `RoutingDestination`. -/
inductive RoutingDestination where
  | nexus
  | router
  /-- Messages for contracts on Axelar. -/
  | this
  deriving DecidableEq

/-- `unique_cross_chain_id`: this chain, and the transaction's hash with the
nonce as event index; the nonce must fit a `u32`. -/
def uniqueCrossChainId (nexus : NexusQuerier) (chainName : ChainName) :
    Except Failure CrossChainId := do
  let (txHash, nonce) ← okOr nexus.txHashAndNonce
    (.error [.execute .nexus, .nexusQuery .queryTxHashAndNonce])
  ensure (decide (nonce.toNat < 2 ^ 32)) (.error [.execute .nonceOverflow])
  return ⟨chainNameRaw chainName, (HexTxHashAndEventIndex.mk txHash nonce.toUInt32.toUInt64).toNonemptyString⟩

/-- `save_unique_routable_msg` as `call_contract` calls it: a taken id is a panic
(`panic_if_already_exists`). -/
def saveRoutable (store : Map CrossChainId Message) (msg : Message) :
    Except Failure (Map CrossChainId Message) :=
  match saveUniqueRoutableMsg store msg.ccId msg with
  | .ok store => .ok store
  | .error (.messageAlreadyExists ccId) =>
      .error (.panic ("violated invariant: message with ID " ++ ccId.toString ++ " already exists"))
  | .error e => .error (.error [.execute .saveRoutableMessage, .state e])

/-- `try_load_routable_msg`: the stored message under the id, which must be the
one to route; nothing for an id without one. -/
def tryLoadRoutableMsg (store : Map CrossChainId Message) (msg : Message) :
    Except Failure (Option Message) :=
  match store.lookup msg.ccId with
  | some stored =>
      if stored ≠ msg then .error (.error [.execute (.messageMismatch msg.ccId)])
      else .ok (some stored)
  | none => .ok none

/-- `determine_routing_destination`: the nexus module for a chain core knows;
else this chain, from the router, which must be the destination; else the
router. -/
def determineRoutingDestination (nexus : NexusQuerier) (sender : String) (destChain : ChainName)
    (router : String) (thisChain : ChainName) : Except Failure RoutingDestination := do
  let registered ← okOr (nexus.isChainRegistered destChain)
    (.error [.execute .nexus, .nexusQuery .queryIsChainRegistered])
  if registered then pure .nexus
  else if sender = router then do
    ensure (decide (destChain = thisChain)) (.error [.execute .invalidRoutingDestination])
    pure .this
  else pure .router

/-- One message of `prepare_for_execution`: for this chain, saved executable. -/
def prepareStep (chainName : ChainName) (store : Map CrossChainId ExecutableMessage)
    (msg : Message) : Except Failure (Map CrossChainId ExecutableMessage) := do
  ensure (decide (chainName = msg.destinationChain))
    (.error [.execute (.invalidDestination chainName msg.destinationChain)])
  (saveExecutableMsg store msg.ccId msg).mapError fun e =>
    .error [.execute .saveExecutableMessage, .state e]

/-- `prepare_for_execution`: every message saved executable; a `Routing` event
each, no message. -/
def prepareForExecution (store : Map CrossChainId ExecutableMessage) (chainName : ChainName)
    (msgs : List Message) :
    Except Failure (Map CrossChainId ExecutableMessage × List CosmosMsg × List Event) := do
  let store ← msgs.foldlM (prepareStep chainName) store
  return (store, [], msgs.map .routing)

/-- `route_to_router`. -/
def routeToRouter (msgs : List Message) : List CosmosMsg × List Event :=
  (route msgs, msgs.map .routing)

/-- `route_to_nexus`: each message as the nexus module's. -/
def routeToNexus (msgs : List Message) : List CosmosMsg × List Event :=
  (msgs.map fun msg => .nexus (AxelarCoreStd.Nexus.ofRouterMessage msg), msgs.map .routing)

/-- The batch `route_messages` routes: the router's as it is; anyone else's
without repeats (`unique`), and only the messages stored as routable. -/
def routableBatch (s : State) (sender : String) (msgs : List Message) :
    Except Failure (List Message) :=
  if sender ≠ s.config.router then
    List.reduceOption <$> msgs.eraseDups.mapM (tryLoadRoutableMsg s.routableMessages)
  else pure msgs

/-- One run of messages to one destination chain, in the `try_fold` of
`route_messages`: the executable store so far and the response so far. -/
def routeChunk (nexus : NexusQuerier) (s : State) (sender : String)
    (acc : Map CrossChainId ExecutableMessage × Response) (chunk : ChainName × List Message) :
    Except Failure (Map CrossChainId ExecutableMessage × Response) := do
  let destination ← determineRoutingDestination nexus sender chunk.1 s.config.router
    s.config.chainName
  let (store, messages, events) ← match destination with
    | .this => prepareForExecution acc.1 s.config.chainName chunk.2
    | .nexus => pure (acc.1, routeToNexus chunk.2)
    | .router => pure (acc.1, routeToRouter chunk.2)
  return (store, ⟨acc.2.messages ++ messages, acc.2.events ++ events⟩)

/-- `route_messages`. -/
def routeMessages (nexus : NexusQuerier) (s : State) (sender : String) (msgs : List Message) :
    Except Failure (State × Response) := do
  let msgs ← routableBatch s sender msgs
  let (store, response) ← (Router.chunkBy Message.destinationChain msgs).foldlM
    (routeChunk nexus s sender) (s.executableMessages, ⟨[], []⟩)
  return ({ s with executableMessages := store }, response)

/-- `call_contract`: the message saved as routable, then routed, with a
`ContractCalled` event. -/
def callContract (ext : Externals) (nexus : NexusQuerier) (s : State) (sender : String)
    (data : CallContractData) : Except Failure (State × Response) := do
  let id ← uniqueCrossChainId nexus s.config.chainName
  let sourceAddress ← okOr (addressFromStr sender) (.error [.execute (.invalidSourceAddress sender)])
  let msg := data.toMessage ext id sourceAddress
  let routable ← saveRoutable s.routableMessages msg
  let (s', response) ← routeMessages nexus { s with routableMessages := routable } sender [msg]
  return (s', { response with events := response.events ++ [.contractCalled msg data.payload] })

/-- `ensure_same_payload_hash`. -/
def ensureSamePayloadHash (payloadHash : Hash) (msg : Message) : Except StateError Unit :=
  if payloadHash ≠ msg.payloadHash then .error .payloadHashMismatch else .ok ()

/-- `execute`: the approved message under the id, whose payload hash the payload
must have, marked executed; the destination contract is called with it. -/
def execute (ext : Externals) (s : State) (ccId : CrossChainId) (payload : ByteArray) :
    Except Failure (State × Response) := do
  let (store, msg) ← (markAsExecuted s.executableMessages ccId
    (ensureSamePayloadHash (ext.keccak256 payload))).mapError fun e =>
      .error [.execute (.markExecuted ccId), .state e]
  ensure (ext.isValidAddress msg.destinationAddress.val)
    (.error [.execute (.invalidDestinationAddress msg.destinationAddress.val),
      .invalidAddress msg.destinationAddress.val])
  return ({ s with executableMessages := store },
    ⟨[.execute msg.destinationAddress.val ⟨ccId, msg.sourceAddress, payload⟩], [.messageExecuted msg]⟩)

/-- `route_messages_from_nexus`: the nexus's messages, as the router's, to the
router. -/
def routeMessagesFromNexus (s : State) (msgs : List AxelarCoreStd.Nexus.Message) :
    Except Failure (State × Response) := do
  let msgs ← (msgs.mapM AxelarCoreStd.Nexus.Message.toRouterMessage).mapError fun e =>
    .error [.execute .invalidNexusMessageForRouter, .nexus e]
  return (s, ⟨route msgs, []⟩)

end Execute

/-! ## Permissions and dispatch -/

/-- `ExecuteMsg`. -/
inductive ExecuteMsg where
  | routeMessages (msgs : List Message)
  | execute (ccId : CrossChainId) (payload : ByteArray)
  | callContract (destinationChain : ChainName) (destinationAddress : Address) (payload : ByteArray)
  | routeMessagesFromNexus (msgs : List AxelarCoreStd.Nexus.Message)

/-- `ExecuteMsg::ensure_permissions` with `match_nexus`: `RouteMessagesFromNexus`
is for the nexus module only, the others for anyone. -/
def ExecuteMsg.ensurePermissions (msg : ExecuteMsg) (s : State) (sender : String) :
    Except Failure Unit :=
  match msg with
  | .routeMessagesFromNexus _ =>
      ensure (decide (sender = s.config.nexus))
        (.error [.permission (.specificPermissionDenied ["nexus"])])
  | .routeMessages _ | .execute .. | .callContract .. => pure ()

/-- A call: the sender, the message, and the nexus module's answers to the
transaction's queries. -/
structure Call where
  sender : String
  msg : ExecuteMsg
  nexus : NexusQuerier

/-- `contract::execute`. -/
def execute (ext : Externals) (s : State) (call : Call) : Except Failure (State × Response) := do
  call.msg.ensurePermissions s call.sender
  match call.msg with
  | .callContract destinationChain destinationAddress payload =>
      changeContext (.contract .callContract) (Execute.callContract ext call.nexus s call.sender
        ⟨destinationChain, destinationAddress, payload⟩)
  | .routeMessages msgs =>
      changeContext (.contract .routeMessages) (Execute.routeMessages call.nexus s call.sender msgs)
  | .execute ccId payload =>
      changeContext (.contract .execute) (Execute.execute ext s ccId payload)
  | .routeMessagesFromNexus msgs => Execute.routeMessagesFromNexus s msgs

end Amplifier.AxelarnetGateway
