import Amplifier.Lib.IndexedMap
import Amplifier.WasmStd.Access
import Amplifier.RouterApi.Primitives

/-!
# Amplifier.Router.State — storage of the router

The router forwards messages from the gateway of their source chain to the
gateway of their destination chain. Its storage (`state.rs`):

* `CONFIG` — the axelarnet gateway and the coordinator;
* `chain_endpoints` — an `IndexedMap` from chain name to `ChainEndpoint`, with
  the `MultiIndex` `gateways` by the endpoint's gateway address;
* the admin and governance addresses of `permission_control`, and the
  killswitch that switches routing off.

`GatewayIndex::load_chain_by_gateway` reads the chains stored under one gateway
address through the index, and panics when there is more than one; whether it
can is what `Router.Gateways` settles.

What the contract takes from outside the repository is a parameter
(`Externals`): the nexus module's query whether a chain is registered in core,
`verify_msg_id`, and `validate_cosmwasm_address`.
-/

namespace Amplifier.Router

open WasmStd RouterApi

/-- `msg_id::MessageIdFormat`. The `prefix` of `Bech32m` is `hrp` here. -/
inductive MessageIdFormat where
  | fieldElementAndEventIndex
  | hexTxHashAndEventIndex
  | base58TxDigestAndEventIndex
  | base58SolanaTxSignatureAndEventIndex
  | hexTxHash
  | bech32m (hrp : NonemptyString) (length : UInt32)
  deriving DecidableEq

/-- `GatewayDirection`, the flags of a frozen status: `Incoming` and `Outgoing`
are the two bits, `None` is neither and `Bidirectional` is both. -/
inductive GatewayDirection where
  | none
  | incoming
  | outgoing
  | bidirectional
  deriving DecidableEq, Repr

/-- `FlagSet<GatewayDirection>`: which of the two bits are set. -/
structure FlagSet where
  incoming : Bool
  outgoing : Bool
  deriving DecidableEq, Repr

namespace FlagSet

/-- `FlagSet::from(direction)`. -/
def ofDirection : GatewayDirection → FlagSet
  | .none => ⟨false, false⟩
  | .incoming => ⟨true, false⟩
  | .outgoing => ⟨false, true⟩
  | .bidirectional => ⟨true, true⟩

/-- `|= direction`: the bits of the direction set. -/
def union (f : FlagSet) (direction : GatewayDirection) : FlagSet :=
  ⟨f.incoming || (ofDirection direction).incoming, f.outgoing || (ofDirection direction).outgoing⟩

/-- `-= direction`: the bits of the direction cleared. -/
def diff (f : FlagSet) (direction : GatewayDirection) : FlagSet :=
  ⟨f.incoming && !(ofDirection direction).incoming,
    f.outgoing && !(ofDirection direction).outgoing⟩

end FlagSet

/-- `Gateway`. -/
structure Gateway where
  address : String
  deriving DecidableEq

/-- `ChainEndpoint`. -/
structure ChainEndpoint where
  name : ChainName
  gateway : Gateway
  frozenStatus : FlagSet
  msgIdFormat : MessageIdFormat
  deriving DecidableEq

namespace ChainEndpoint

/-- `ChainEndpoint::incoming_frozen`. -/
def incomingFrozen (c : ChainEndpoint) : Bool := c.frozenStatus.incoming

/-- `ChainEndpoint::outgoing_frozen`. -/
def outgoingFrozen (c : ChainEndpoint) : Bool := c.frozenStatus.outgoing

/-- The index function of `chain_endpoints`: an endpoint is indexed by its
gateway's address. -/
def gatewayAddress (c : ChainEndpoint) : String := c.gateway.address

end ChainEndpoint

/-- `Config`. -/
structure Config where
  axelarnetGateway : String
  coordinator : String

/-- The contract's storage. -/
structure State where
  config : Config
  admin : String
  governance : String
  chainEndpoints : IndexedMap ChainName ChainEndpoint String
  killswitch : Killswitch

/-- `instantiate`: the configuration and the two privileged addresses, no chain
registered, routing enabled. -/
def instantiate (admin governance : String) (config : Config) : State where
  config := config
  admin := admin
  governance := governance
  chainEndpoints := IndexedMap.empty
  killswitch := .disengaged

/-- `router_api::error::Error`: the variants the handlers return. -/
inductive Error where
  | routingDisabled
  | chainAlreadyExists
  | invalidMessageId
  | chainNotFound
  | gatewayNotRegistered
  | gatewayAlreadyRegistered
  | chainFrozen (chain : ChainName)
  | wrongSourceChain
  | nexus

/-- `ContractError`, with the errors of the packages `execute` wraps. -/
inductive ContractError where
  | router (err : Error)
  | permission (err : PermissionError)
  | invalidAddress (address : String)

/-- How a handler fails: with an error, or with a panic and its message. -/
inductive Failure where
  | error (err : ContractError)
  | panic (msg : String)

/-- What the contract takes from outside the repository. -/
structure Externals where
  /-- The nexus module's `is_chain_registered`; `none` when the query fails. -/
  isChainRegistered : ChainName → Option Bool
  /-- `msg_id::verify_msg_id`. -/
  verifyMsgId : String → MessageIdFormat → Bool
  /-- `address::validate_cosmwasm_address`. -/
  isValidAddress : String → Bool

/-! ## Loading endpoints -/

/-- `PrimaryKey for ChainName`: the name's bytes. -/
def ChainName.key (chainName : ChainName) : List UInt8 := chainName.val.toUTF8.data.toList

/-- `GatewayIndex::load_chain_by_gateway`: the chains under the gateway's prefix
of the index; more than one is a panic. -/
def GatewayIndex.loadChainByGateway (chainEndpoints : IndexedMap ChainName ChainEndpoint String)
    (contractAddress : String) : Except Failure (Option ChainEndpoint) :=
  match chainEndpoints.prefixRange ChainName.key contractAddress with
  | [] => .ok none
  | [(_, chain)] => .ok (some chain)
  | _ => .error (.panic "More than one gateway for chain")

/-- `state::load_chain_by_gateway`: an unknown gateway is an error. -/
def loadChainByGateway (s : State) (gateway : String) : Except Failure ChainEndpoint := do
  let chain ← GatewayIndex.loadChainByGateway s.chainEndpoints gateway
  okOr chain (.error (.router .gatewayNotRegistered))

/-- `state::load_chain_by_chain_name`. -/
def loadChainByChainName (s : State) (chainName : ChainName) : Option ChainEndpoint :=
  s.chainEndpoints.primary.lookup chainName

end Amplifier.Router
