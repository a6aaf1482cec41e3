import Amplifier.Lib.Bank
import Amplifier.Lib.Store
import Amplifier.Lib.Transaction
import Amplifier.RouterApi.Primitives
import Amplifier.WasmStd.Access
import Amplifier.WasmStd.Threshold

/-!
# Amplifier.ServiceRegistry.State — storage of the service registry

The service registry keeps, for each service (a set of verifiers that serve a
kind of chain), its parameters and its verifiers: what each verifier has
bonded and whether governance has authorized it. Its storage (`state.rs`):

* `SERVICES` and `SERVICE_OVERRIDES` — each service's parameters, and the
  per-chain overrides of its minimum and maximum number of verifiers;
* `VERIFIERS` — each verifier of each service, with its bonding state and its
  authorization state;
* `AUTHORIZED_VERIFIER_COUNT` — how many verifiers of each service are
  authorized, kept up to date by `update_verifier_authorization_status` through
  a signed `i16` change and a `u16` counter;
* `VERIFIERS_PER_CHAIN` — the chains each verifier of a service supports.

The bonding state of a verifier moves `Unbonded → Bonded → (RequestedUnbonding)
→ Unbonding → Unbonded`: bonding adds funds (or rebonds what is unbonding),
unbonding asks the coordinator whether the verifier still signs for a prover,
and claiming releases the funds once the unbonding period has passed.
-/

namespace Amplifier.ServiceRegistry

open WasmStd RouterApi

/-- `u16::MAX`, the bound of the authorized verifier count. -/
def uint16Max : ℕ := 2 ^ 16 - 1

/-- `AuthorizationState`. -/
inductive AuthorizationState where
  | notAuthorized
  | authorized
  | jailed
  deriving DecidableEq

/-- `BondingState`: the bonded amounts are `nonempty::Uint128`, and an unbonding
starts at a block time in nanoseconds. -/
inductive BondingState where
  | bonded (amount : {n : ℕ // 0 < n})
  | requestedUnbonding (amount : {n : ℕ // 0 < n})
  | unbonding (amount : {n : ℕ // 0 < n}) (unbondedAt : ℕ)
  | unbonded

/-- The funds a bonding state holds: its amount, or nothing once unbonded. -/
def BondingState.amount : BondingState → ℕ
  | .bonded amount | .requestedUnbonding amount | .unbonding amount _ => amount.val
  | .unbonded => 0

/-- `ContractError` of `service-registry-api`, with the errors of the packages
it wraps that the handlers can return. -/
inductive ContractError where
  | overflow
  | nonEmpty
  | authorizedVerifiersIntegerOverflow
  | verifierLimitExceeded
  | maxVerifiersSetBelowCurrent (limit current : ℕ)
  | serviceAlreadyExists
  | serviceNotFound
  | serviceOverrideNotFound
  | wrongDenom
  | verifierNotFound
  | invalidBondingState (bondingState : BondingState)
  | noFundsToBond
  | verifierJailed
  | failedToUnbondVerifier
  | notEnoughVerifiers
  | storageError
  | permission (err : PermissionError)
  | invalidAddress (address : String)

/-- How a handler fails: with an error, or with a panic and its message. -/
inductive Failure where
  | error (err : ContractError)
  | panic (msg : String)

/-- `Verifier`. -/
structure Verifier where
  address : String
  bondingState : BondingState
  authorizationState : AuthorizationState
  serviceName : String

/-- `Service`: the `u16` parameters are natural numbers that the messages bound. -/
structure Service where
  name : String
  coordinatorContract : String
  minNumVerifiers : ℕ
  maxNumVerifiers : Option ℕ
  minVerifierBond : {n : ℕ // 0 < n}
  bondDenom : String
  unbondingPeriodDays : ℕ
  description : String

/-- `UpdatedServiceParams`: every field given overwrites the stored one. -/
structure UpdatedServiceParams where
  minNumVerifiers : Option ℕ
  maxNumVerifiers : Option (Option ℕ)
  minVerifierBond : Option {n : ℕ // 0 < n}
  unbondingPeriodDays : Option ℕ

/-- `ServiceParamsOverride`: the bounds on the number of verifiers for one chain. -/
structure ServiceParamsOverride where
  minNumVerifiers : Option ℕ
  maxNumVerifiers : Option (Option ℕ)

/-- The contract's storage, with the governance address of `permission_control`. -/
structure State where
  governance : String
  services : Map String Service
  serviceOverrides : Map (String × ChainName) ServiceParamsOverride
  authorizedVerifierCount : Map String ℕ
  verifiers : Map (String × String) Verifier
  verifiersPerChain : Map (String × ChainName × String) Unit

/-- `instantiate`: no service yet. -/
def instantiate (governance : String) : State :=
  ⟨governance, ∅, ∅, ∅, ∅, ∅⟩

/-! ## Services -/

/-- `state::service`: a service's parameters, with the overrides of a chain. -/
def service (s : State) (serviceName : String) (chain : Option ChainName) :
    Except Failure Service := do
  let service ← okOr (s.services.lookup serviceName) (.error .serviceNotFound)
  let paramsOverride := chain.bind fun chain => s.serviceOverrides.lookup (serviceName, chain)
  match paramsOverride with
  | some paramsOverride => .ok { service with
      minNumVerifiers := paramsOverride.minNumVerifiers.getD service.minNumVerifiers
      maxNumVerifiers := paramsOverride.maxNumVerifiers.getD service.maxNumVerifiers }
  | none => .ok service

/-- `save_new_service`: a new name only, with no authorized verifier yet. -/
def saveNewService (s : State) (serviceName : String) (service : Service) :
    Except Failure State := do
  ensure (s.authorizedVerifierCount.lookup serviceName).isNone (.error .storageError)
  ensure (s.services.lookup serviceName).isNone (.error .serviceAlreadyExists)
  return { s with
    authorizedVerifierCount := s.authorizedVerifierCount.insert serviceName 0
    services := s.services.insert serviceName service }

/-- `number_of_authorized_verifiers`. -/
def numberOfAuthorizedVerifiers (s : State) (serviceName : String) : Except Failure ℕ :=
  okOr (s.authorizedVerifierCount.lookup serviceName) (.error .serviceNotFound)

/-- The parameters after an update: each field given replaces the stored one. -/
def UpdatedServiceParams.apply (params : UpdatedServiceParams) (service : Service) : Service :=
  { service with
    minNumVerifiers := params.minNumVerifiers.getD service.minNumVerifiers
    maxNumVerifiers := params.maxNumVerifiers.getD service.maxNumVerifiers
    minVerifierBond := params.minVerifierBond.getD service.minVerifierBond
    unbondingPeriodDays := params.unbondingPeriodDays.getD service.unbondingPeriodDays }

/-- `update_service`: a new maximum may not be below the authorized verifiers. -/
def updateService (s : State) (serviceName : String)
    (updatedServiceParams : UpdatedServiceParams) : Except Failure State := do
  (match updatedServiceParams.maxNumVerifiers with
    | some (some maxVerifiersLimit) => do
        let currentAuthorized ← numberOfAuthorizedVerifiers s serviceName
        ensure (currentAuthorized ≤ maxVerifiersLimit)
          (.error (.maxVerifiersSetBelowCurrent maxVerifiersLimit currentAuthorized))
    | _ => pure ())
  let service ← okOr (s.services.lookup serviceName) (.error .serviceNotFound)
  return { s with services := s.services.insert serviceName (updatedServiceParams.apply service) }

/-- `save_service_override`. -/
def saveServiceOverride (s : State) (serviceName : String) (chain : ChainName)
    (serviceParamsOverride : ServiceParamsOverride) : Except Failure State := do
  ensure (s.services.lookup serviceName).isSome (.error .serviceNotFound)
  return { s with
    serviceOverrides := s.serviceOverrides.insert (serviceName, chain) serviceParamsOverride }

/-- `remove_service_override`. -/
def removeServiceOverride (s : State) (serviceName : String) (chain : ChainName) :
    Except Failure State := do
  ensure (s.serviceOverrides.lookup (serviceName, chain)).isSome
    (.error .serviceOverrideNotFound)
  return { s with serviceOverrides := s.serviceOverrides.erase (serviceName, chain) }

/-! ## Authorization -/

/-- `calculate_auth_verifier_count_change`: how one verifier's new state moves
the count of authorized verifiers. -/
def calculateAuthVerifierCountChange (previousState : Option AuthorizationState)
    (authState : AuthorizationState) : ℤ :=
  match previousState, authState with
  | some .authorized, .authorized => 0
  | some .authorized, _ => -1
  | _, .authorized => 1
  | _, _ => 0

/-- `i16::checked_add`. -/
def checkedAddI16 (a b : ℤ) : Option ℤ :=
  if -2 ^ 15 ≤ a + b ∧ a + b < 2 ^ 15 then some (a + b) else none

/-- One verifier of `update_verifier_authorization_status`'s loop: the verifier
takes the new state (a new one is created unbonded), and the change to the
count is accumulated. An overflow of the `i16` fails the update, which the code
reports as a storage error. -/
def authorizeStep (serviceName : String) (authState : AuthorizationState)
    (acc : Map (String × String) Verifier × ℤ) (verifierAddr : String) :
    Except Failure (Map (String × String) Verifier × ℤ) := do
  let existingVerifier := acc.1.lookup (serviceName, verifierAddr)
  let change ← okOr (checkedAddI16 acc.2 (calculateAuthVerifierCountChange
    (existingVerifier.map Verifier.authorizationState) authState)) (.error .storageError)
  let newVerifier := match existingVerifier with
    | some verifier => { verifier with authorizationState := authState }
    | none => ⟨verifierAddr, .unbonded, authState, serviceName⟩
  return (acc.1.insert (serviceName, verifierAddr) newVerifier, change)

/-- `apply_authorized_count_change`: the count moves by the change, within `u16`. -/
def applyAuthorizedCountChange (s : State) (serviceName : String) (change : ℤ) :
    Except Failure State :=
  if change = 0 then .ok s
  else do
    let current ← okOr (s.authorizedVerifierCount.lookup serviceName) (.error .storageError)
    ensure (0 ≤ (current : ℤ) + change ∧ (current : ℤ) + change ≤ uint16Max) (.error .storageError)
    return { s with
      authorizedVerifierCount :=
        s.authorizedVerifierCount.insert serviceName ((current : ℤ) + change).toNat }

/-- `update_verifier_authorization_status`: every verifier of the list (a
verifier listed twice is updated twice) takes the new state, then the count
moves by the accumulated change. -/
def updateVerifierAuthorizationStatus (s : State) (serviceName : String)
    (authState : AuthorizationState) (verifiers : List String) : Except Failure State := do
  let updated ← verifiers.foldlM (authorizeStep serviceName authState) (s.verifiers, 0)
  applyAuthorizedCountChange { s with verifiers := updated.1 } serviceName updated.2

/-! ## Bonding -/

/-- `state::bond_verifier`: the funds join what is bonded, unbonding or
requested to unbond; an unbonded verifier needs funds. Either way it is bonded
again. -/
def bondVerifier (verifier : Verifier) (toAdd : Option {n : ℕ // 0 < n}) :
    Except Failure Verifier := do
  let amount ← (match verifier.bondingState with
    | .bonded amount | .requestedUnbonding amount | .unbonding amount _ => do
        let sum ← okOr (checkedAdd uint128Max amount.val ((toAdd.map Subtype.val).getD 0))
          (.error .overflow)
        -- the conversion back to `nonempty::Uint128`
        if h : 0 < sum then pure (⟨sum, h⟩ : {n : ℕ // 0 < n}) else .error (.error .nonEmpty)
    | .unbonded => okOr toAdd (.error .noFundsToBond))
  return { verifier with bondingState := .bonded amount }

/-- `state::unbond_verifier`: a bonded verifier (or one that asked before)
starts unbonding now if the coordinator lets it, and asks otherwise. -/
def unbondVerifier (verifier : Verifier) (canUnbond : Bool) (time : ℕ) :
    Except Failure Verifier := do
  ensure (verifier.authorizationState ≠ .jailed) (.error .verifierJailed)
  let bondingState ← (match verifier.bondingState with
    | .bonded amount | .requestedUnbonding amount =>
        pure (if canUnbond then .unbonding amount time else .requestedUnbonding amount)
    | bondingState => .error (.error (.invalidBondingState bondingState)))
  return { verifier with bondingState := bondingState }

/-- Nanoseconds in a day. -/
def nanosPerDay : ℕ := 86400 * 1000000000

/-- `Timestamp::plus_days`, which panics past `u64::MAX` nanoseconds. -/
def plusDays (time days : ℕ) : Except Failure ℕ :=
  okOr (checkedAdd uint64Max time (days * nanosPerDay)) (.panic "attempt to add with overflow")

/-- `state::claim_verifier_stake`: an unbonding verifier that is not jailed gets
its amount back once the unbonding period has passed, and is unbonded. -/
def claimVerifierStake (verifier : Verifier) (time unbondingPeriodDays : ℕ) :
    Except Failure (Verifier × {n : ℕ // 0 < n}) := do
  ensure (verifier.authorizationState ≠ .jailed) (.error .verifierJailed)
  match verifier.bondingState with
  | .unbonding amount unbondedAt =>
      let unlockedAt ← plusDays unbondedAt unbondingPeriodDays
      if unlockedAt ≤ time then .ok ({ verifier with bondingState := .unbonded }, amount)
      else .error (.error (.invalidBondingState verifier.bondingState))
  | bondingState => .error (.error (.invalidBondingState bondingState))

/-! ## Chains -/

/-- `register_chains_support`. -/
def registerChainsSupport (s : State) (serviceName : String) (chains : List ChainName)
    (verifier : String) : State :=
  let verifiersPerChain :=
    chains.foldl (fun m chain => m.insert (serviceName, chain, verifier) ()) s.verifiersPerChain
  { s with verifiersPerChain := verifiersPerChain }

/-- `deregister_chains_support`. -/
def deregisterChainsSupport (s : State) (serviceName : String) (chains : List ChainName)
    (verifier : String) : State :=
  let verifiersPerChain :=
    chains.foldl (fun m chain => m.erase (serviceName, chain, verifier)) s.verifiersPerChain
  { s with verifiersPerChain := verifiersPerChain }

end Amplifier.ServiceRegistry
