import Amplifier.Lib.Bank
import Amplifier.ServiceRegistry.State

/-!
# Amplifier.ServiceRegistry.Execute — the messages of the service registry

The handlers of `contract/execute.rs` and the dispatch of `contract.rs`. Governance
registers and updates services, overrides their parameters per chain and
authorizes, unauthorizes or jails verifiers; a verifier bonds, unbonds and
claims its stake back, and registers the chains it supports.

Two answers come from outside the repository and are parameters
(`Externals`): the chain's address check, and the coordinator's answer to
`ready_to_unbond`, which is `none` when the query fails. A run of the contract
pairs each call with the answers it got, so the coordinator may answer each
call differently.
-/

namespace Amplifier.ServiceRegistry

open WasmStd RouterApi

namespace Events

/-- `events::Event`. -/
inductive Event where
  | chainsSupportRegistered (verifier serviceName : String) (chains : List ChainName)
  | chainsSupportDeregistered (verifier serviceName : String) (chains : List ChainName)

end Events

/-- `Response`: the bank messages and the events. -/
structure Response where
  messages : List BankMsg
  events : List Events.Event

/-- `Response::new()`. -/
def Response.empty : Response := ⟨[], []⟩

/-- `ExecuteMsg`. -/
inductive ExecuteMsg where
  | registerService (serviceName coordinatorContract : String) (minNumVerifiers : ℕ)
      (maxNumVerifiers : Option ℕ) (minVerifierBond : {n : ℕ // 0 < n}) (bondDenom : String)
      (unbondingPeriodDays : ℕ) (description : String)
  | updateService (serviceName : String) (updatedServiceParams : UpdatedServiceParams)
  | overrideServiceParams (serviceName : String) (chainName : ChainName)
      (serviceParamsOverride : ServiceParamsOverride)
  | removeServiceParamsOverride (serviceName : String) (chainName : ChainName)
  | authorizeVerifiers (verifiers : List String) (serviceName : String)
  | unauthorizeVerifiers (verifiers : List String) (serviceName : String)
  | jailVerifiers (verifiers : List String) (serviceName : String)
  | registerChainSupport (serviceName : String) (chains : List ChainName)
  | deregisterChainSupport (serviceName : String) (chains : List ChainName)
  | bondVerifier (serviceName : String)
  | unbondVerifier (serviceName : String)
  | claimStake (serviceName : String)

/-- A call: the block time in nanoseconds, the sender, the funds attached and
the message. -/
structure Call where
  blockTime : ℕ
  sender : String
  funds : List Coin
  msg : ExecuteMsg

/-- What the contract takes from outside the repository: the chain's address
check, and the coordinator's `ready_to_unbond` for a coordinator contract and a
verifier (`none` when the query fails). -/
structure Externals where
  isValidAddress : String → Bool
  readyToUnbond : String → String → Option Bool

/-- An address the chain accepts. -/
def validateAddress (ext : Externals) (address : String) : Except Failure String :=
  if ext.isValidAddress address then .ok address else .error (.error (.invalidAddress address))

/-! ## Permissions -/

/-- `match_verifier`: the whitelist of `RegisterChainSupport` and
`DeregisterChainSupport` is the verifier stored under the sender. A missing
verifier is `Unauthorized` whether or not the service exists (the service check
only changes the report's inner context). -/
def matchVerifier (s : State) (sender serviceName : String) : Except PermissionError Bool :=
  match s.verifiers.lookup (serviceName, sender) with
  | some verifier => .ok (verifier.address = sender)
  | none => .error .unauthorized

/-- `ExecuteMsg::ensure_permissions`: the chain support messages need the
`Specific(verifier)` whitelist, bonding, unbonding and claiming are open to
`Any` sender, and every other message needs `Governance`. With no admin stored,
a sender's role is `Governance` for the governance address and `NoPrivilege`
for everyone else. -/
def ExecuteMsg.ensurePermissions (s : State) (sender : String) :
    ExecuteMsg → Except PermissionError Unit
  | .registerChainSupport serviceName _ | .deregisterChainSupport serviceName _ =>
      match matchVerifier s sender serviceName with
      | .ok true => .ok ()
      | .ok false => .error (.specificPermissionDenied ["verifier"])
      | .error _ => .error (.whitelistNotFound sender)
  | .bondVerifier _ | .unbondVerifier _ | .claimStake _ => .ok ()
  | _ =>
      if s.governance = sender then .ok ()
      else .error (.generalPermissionDenied {.governance} {.noPrivilege})

/-! ## Handlers -/

namespace Execute

/-- `ensure_service_exists`. -/
def ensureServiceExists (s : State) (serviceName : String) : Except Failure Unit :=
  ensure (s.services.lookup serviceName).isSome (.error .serviceNotFound)

/-- `ensure_authorization_max_limit_respected`: the authorized verifiers stay
within the service's maximum, when it has one. -/
def ensureAuthorizationMaxLimitRespected (s : State) (serviceName : String) :
    Except Failure Unit := do
  let maxLimit := (← service s serviceName none).maxNumVerifiers
  match maxLimit with
  | some maxLimit => do
      let authorizedVerifierCount ← numberOfAuthorizedVerifiers s serviceName
      ensure (authorizedVerifierCount ≤ maxLimit) (.error .verifierLimitExceeded)
  | none => pure ()

/-- `execute::update_verifier_authorization_status`: an authorization must keep
the count within the maximum. -/
def updateVerifierAuthorizationStatus (s : State) (verifiers : List String)
    (serviceName : String) (authState : AuthorizationState) : Except Failure State := do
  ensureServiceExists s serviceName
  let s' ← ServiceRegistry.updateVerifierAuthorizationStatus s serviceName authState verifiers
  (if authState = .authorized then ensureAuthorizationMaxLimitRespected s' serviceName
    else pure ())
  return s'

/-- The bond a `BondVerifier` call brings: the first coin of the bond denom
(`WrongDenom` if there is none), which must be nonzero; no funds at all bring
no bond, and rebond what is unbonding. -/
def bond (service : Service) (funds : List Coin) : Except Failure (Option {n : ℕ // 0 < n}) :=
  if funds.isEmpty then .ok none
  else do
    let coin ← okOr (funds.find? fun coin => coin.denom = service.bondDenom) (.error .wrongDenom)
    if h : 0 < coin.amount then .ok (some ⟨coin.amount, h⟩) else .error (.error .nonEmpty)

/-- `execute::bond_verifier`: a new verifier is bonded and not authorized. -/
def bondVerifier (s : State) (c : Call) (serviceName : String) : Except Failure State := do
  let service ← service s serviceName none
  let bond ← bond service c.funds
  let verifier ← (match s.verifiers.lookup (serviceName, c.sender) with
    | some verifier => ServiceRegistry.bondVerifier verifier bond
    | none => do
        let amount ← okOr bond (.error .noFundsToBond)
        pure ⟨c.sender, .bonded amount, .notAuthorized, serviceName⟩)
  return { s with verifiers := s.verifiers.insert (serviceName, c.sender) verifier }

/-- `execute::unbond_verifier`: the coordinator says whether the verifier can
start unbonding now. -/
def unbondVerifier (ext : Externals) (s : State) (c : Call) (serviceName : String) :
    Except Failure State := do
  let service ← service s serviceName none
  let verifier ← okOr (s.verifiers.lookup (serviceName, c.sender)) (.error .verifierNotFound)
  let readyToUnbond ← okOr (ext.readyToUnbond service.coordinatorContract verifier.address)
    (.error .failedToUnbondVerifier)
  let verifier ← ServiceRegistry.unbondVerifier verifier readyToUnbond c.blockTime
  return { s with verifiers := s.verifiers.insert (serviceName, c.sender) verifier }

/-- `execute::claim_stake`: the released bond is sent back to the sender in the
bond denom. -/
def claimStake (s : State) (c : Call) (serviceName : String) :
    Except Failure (State × Response) := do
  let service ← service s serviceName none
  let verifier ← okOr (s.verifiers.lookup (serviceName, c.sender)) (.error .verifierNotFound)
  let claimed ← claimVerifierStake verifier c.blockTime service.unbondingPeriodDays
  return ({ s with verifiers := s.verifiers.insert (serviceName, c.sender) claimed.1 },
    ⟨[⟨c.sender, [⟨service.bondDenom, claimed.2.val⟩]⟩], []⟩)

end Execute

/-- The handler of each message, after the permission check. -/
def dispatch (ext : Externals) (s : State) (c : Call) : Except Failure (State × Response) :=
  match c.msg with
  | .registerService serviceName coordinatorContract minNumVerifiers maxNumVerifiers
      minVerifierBond bondDenom unbondingPeriodDays description => do
      let coordinatorContract ← validateAddress ext coordinatorContract
      let s' ← saveNewService s serviceName ⟨serviceName, coordinatorContract, minNumVerifiers,
        maxNumVerifiers, minVerifierBond, bondDenom, unbondingPeriodDays, description⟩
      return (s', .empty)
  | .updateService serviceName updatedServiceParams => do
      let s' ← updateService s serviceName updatedServiceParams
      return (s', .empty)
  | .overrideServiceParams serviceName chainName serviceParamsOverride => do
      let s' ← saveServiceOverride s serviceName chainName serviceParamsOverride
      return (s', .empty)
  | .removeServiceParamsOverride serviceName chainName => do
      let s' ← removeServiceOverride s serviceName chainName
      return (s', .empty)
  | .authorizeVerifiers verifiers serviceName => do
      let verifiers ← verifiers.mapM (validateAddress ext)
      let s' ← Execute.updateVerifierAuthorizationStatus s verifiers serviceName .authorized
      return (s', .empty)
  | .unauthorizeVerifiers verifiers serviceName => do
      let verifiers ← verifiers.mapM (validateAddress ext)
      let s' ← Execute.updateVerifierAuthorizationStatus s verifiers serviceName .notAuthorized
      return (s', .empty)
  | .jailVerifiers verifiers serviceName => do
      let verifiers ← verifiers.mapM (validateAddress ext)
      let s' ← Execute.updateVerifierAuthorizationStatus s verifiers serviceName .jailed
      return (s', .empty)
  | .registerChainSupport serviceName chains => do
      Execute.ensureServiceExists s serviceName
      return (registerChainsSupport s serviceName chains c.sender,
        ⟨[], [.chainsSupportRegistered c.sender serviceName chains]⟩)
  | .deregisterChainSupport serviceName chains => do
      Execute.ensureServiceExists s serviceName
      return (deregisterChainsSupport s serviceName chains c.sender,
        ⟨[], [.chainsSupportDeregistered c.sender serviceName chains]⟩)
  | .bondVerifier serviceName => do
      let s' ← Execute.bondVerifier s c serviceName
      return (s', .empty)
  | .unbondVerifier serviceName => do
      let s' ← Execute.unbondVerifier ext s c serviceName
      return (s', .empty)
  | .claimStake serviceName => Execute.claimStake s c serviceName

/-- `execute`: the permission check, then the handler. -/
def execute (ext : Externals) (s : State) (c : Call) : Except Failure (State × Response) := do
  (c.msg.ensurePermissions s c.sender).mapError (.error ∘ .permission)
  dispatch ext s c

end Amplifier.ServiceRegistry
