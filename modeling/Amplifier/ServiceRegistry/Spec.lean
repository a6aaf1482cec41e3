import Amplifier.ServiceRegistry.Execute

/-!
# Amplifier.ServiceRegistry.Spec — what each handler does when it commits

One inversion lemma per function of `Amplifier.ServiceRegistry.State` and per
handler of `Amplifier.ServiceRegistry.Execute`, saying which checks passed and
what was written, and one per message of `dispatch`. The ledgers of the
registry (`Amplifier.ServiceRegistry.Accounting`) are proved from these lemmas,
never by unfolding a handler again.

* `authorizeStep_eq_ok`, `applyAuthorizedCountChange_eq_ok` — one verifier of
  an authorization update, and the move of the count;
* `Execute.bondVerifier_eq_ok`, `Execute.unbondVerifier_eq_ok`,
  `Execute.claimStake_eq_ok` — the verifier entry each of them writes;
* `execute_eq_ok` and the `dispatch_*` lemmas — the permission check, the
  validation of the message's addresses, and the handler.
-/

namespace Amplifier.ServiceRegistry

open WasmStd RouterApi

/-- What a `BondVerifier` call brings in the bond denom: the amount of the first
coin of that denom among its funds, or nothing. -/
def bondedFunds (funds : List Coin) (bondDenom : String) : ℕ :=
  ((funds.find? fun coin => coin.denom = bondDenom).map Coin.amount).getD 0

/-! ## Services -/

theorem service_none_eq_ok {s : State} {serviceName : String} {svc : Service} :
    service s serviceName none = .ok svc ↔ s.services.lookup serviceName = some svc := by
  simp [service, bind_eq_ok]

theorem saveNewService_eq_ok {s s' : State} {serviceName : String} {svc : Service} :
    saveNewService s serviceName svc = .ok s' ↔
      s.authorizedVerifierCount.lookup serviceName = none ∧
      s.services.lookup serviceName = none ∧
      s' = { s with
        authorizedVerifierCount := s.authorizedVerifierCount.insert serviceName 0
        services := s.services.insert serviceName svc } := by
  simp only [saveNewService, bind_eq_ok, ensure_eq_ok, Option.isNone_iff_eq_none, pure,
    Except.pure, Except.ok.injEq, Unique.exists_iff]
  constructor
  · rintro ⟨hcount, hsvc, rfl⟩
    exact ⟨hcount, hsvc, rfl⟩
  · rintro ⟨hcount, hsvc, rfl⟩
    exact ⟨hcount, hsvc, rfl⟩

/-- A committed `update_service` kept a new maximum at or above the authorized
verifiers, and replaced the service's parameters. -/
theorem updateService_eq_ok {s s' : State} {serviceName : String}
    {params : UpdatedServiceParams} (h : updateService s serviceName params = .ok s') :
    (∀ maxLimit, params.maxNumVerifiers = some (some maxLimit) →
      ∃ count, s.authorizedVerifierCount.lookup serviceName = some count ∧ count ≤ maxLimit) ∧
    ∃ svc, s.services.lookup serviceName = some svc ∧
      s' = { s with services := s.services.insert serviceName (params.apply svc) } := by
  simp only [updateService, bind_eq_ok, okOr_eq_ok, pure, Except.pure,
    Except.ok.injEq] at h
  obtain ⟨_, hmax, svc, hsvc, rfl⟩ := h
  refine ⟨?_, svc, hsvc, rfl⟩
  intro maxLimit hlimit
  simp only [hlimit, numberOfAuthorizedVerifiers, bind_eq_ok, okOr_eq_ok, ensure_eq_ok,
    decide_eq_true_eq] at hmax
  obtain ⟨count, hcount, hle⟩ := hmax
  exact ⟨count, hcount, hle⟩

theorem saveServiceOverride_eq_ok {s s' : State} {serviceName : String} {chain : ChainName}
    {paramsOverride : ServiceParamsOverride}
    (h : saveServiceOverride s serviceName chain paramsOverride = .ok s') :
    s' = { s with
      serviceOverrides := s.serviceOverrides.insert (serviceName, chain) paramsOverride } := by
  simp only [saveServiceOverride, bind_eq_ok, ensure_eq_ok, pure, Except.pure,
    Except.ok.injEq] at h
  obtain ⟨-, -, rfl⟩ := h
  rfl

theorem removeServiceOverride_eq_ok {s s' : State} {serviceName : String} {chain : ChainName}
    (h : removeServiceOverride s serviceName chain = .ok s') :
    s' = { s with serviceOverrides := s.serviceOverrides.erase (serviceName, chain) } := by
  simp only [removeServiceOverride, bind_eq_ok, ensure_eq_ok, pure, Except.pure,
    Except.ok.injEq] at h
  obtain ⟨-, -, rfl⟩ := h
  rfl

/-! ## Authorization -/

/-- The verifier an authorization update writes: the stored one with the new
state, or a new unbonded one. -/
def authorizedVerifier (serviceName : String) (authState : AuthorizationState)
    (verifierAddr : String) : Option Verifier → Verifier
  | some verifier => { verifier with authorizationState := authState }
  | none => ⟨verifierAddr, .unbonded, authState, serviceName⟩

/-- One verifier of the loop: the change grows by the verifier's own change, and
the verifier is written. -/
theorem authorizeStep_eq_ok {serviceName : String} {authState : AuthorizationState}
    {m m' : Map (String × String) Verifier} {acc acc' : ℤ} {verifierAddr : String}
    (h : authorizeStep serviceName authState (m, acc) verifierAddr = .ok (m', acc')) :
    acc' = acc + calculateAuthVerifierCountChange
      ((m.lookup (serviceName, verifierAddr)).map Verifier.authorizationState) authState ∧
    m' = m.insert (serviceName, verifierAddr)
      (authorizedVerifier serviceName authState verifierAddr (m.lookup (serviceName, verifierAddr))) := by
  simp only [authorizeStep, bind_eq_ok, okOr_eq_ok, checkedAddI16, Option.ite_none_right_eq_some,
    Option.some.injEq, pure, Except.pure, Except.ok.injEq, Prod.mk.injEq] at h
  obtain ⟨change, ⟨-, rfl⟩, rfl, rfl⟩ := h
  refine ⟨rfl, ?_⟩
  cases m.lookup (serviceName, verifierAddr) <;> rfl

/-- A committed count update moved the stored count by the change, within
`u16`; no change writes nothing. -/
theorem applyAuthorizedCountChange_eq_ok {s s' : State} {serviceName : String} {change : ℤ}
    (h : applyAuthorizedCountChange s serviceName change = .ok s') :
    (change = 0 ∧ s' = s) ∨
      ∃ current, s.authorizedVerifierCount.lookup serviceName = some current ∧
        0 ≤ (current : ℤ) + change ∧
        s' = { s with authorizedVerifierCount :=
          s.authorizedVerifierCount.insert serviceName ((current : ℤ) + change).toNat } := by
  unfold applyAuthorizedCountChange at h
  split_ifs at h with hzero
  · exact .inl ⟨hzero, (Except.ok.inj h).symm⟩
  · simp only [bind_eq_ok, okOr_eq_ok, ensure_eq_ok, decide_eq_true_eq, pure, Except.pure,
      Except.ok.injEq] at h
    obtain ⟨current, hcurrent, _, ⟨hpos, -⟩, rfl⟩ := h
    exact .inr ⟨current, hcurrent, hpos, rfl⟩

theorem ensureAuthorizationMaxLimitRespected_eq_ok {s : State} {serviceName : String}
    (h : Execute.ensureAuthorizationMaxLimitRespected s serviceName = .ok ()) :
    ∀ svc, s.services.lookup serviceName = some svc → ∀ maxLimit,
      svc.maxNumVerifiers = some maxLimit →
      ∃ count, s.authorizedVerifierCount.lookup serviceName = some count ∧ count ≤ maxLimit := by
  intro svc hsvc maxLimit hmax
  simp only [Execute.ensureAuthorizationMaxLimitRespected, bind_eq_ok, service_none_eq_ok] at h
  obtain ⟨svc', hsvc', hcheck⟩ := h
  rw [hsvc] at hsvc'
  cases hsvc'
  simp only [hmax, numberOfAuthorizedVerifiers, bind_eq_ok, okOr_eq_ok, ensure_eq_ok,
    decide_eq_true_eq] at hcheck
  obtain ⟨count, hcount, hle⟩ := hcheck
  exact ⟨count, hcount, hle⟩

/-- A committed authorization update: the service exists, the loop over the
verifiers committed, the count moved by its change, and an authorization kept
the count within the maximum. -/
theorem Execute.updateVerifierAuthorizationStatus_eq_ok {s s' : State}
    {verifiers : List String} {serviceName : String} {authState : AuthorizationState}
    (h : Execute.updateVerifierAuthorizationStatus s verifiers serviceName authState = .ok s') :
    (s.services.lookup serviceName).isSome ∧
    ∃ m change, verifiers.foldlM (authorizeStep serviceName authState) (s.verifiers, 0) =
        .ok (m, change) ∧
      applyAuthorizedCountChange { s with verifiers := m } serviceName change = .ok s' ∧
      (authState = .authorized → Execute.ensureAuthorizationMaxLimitRespected s' serviceName = .ok ()) := by
  simp only [Execute.updateVerifierAuthorizationStatus, Execute.ensureServiceExists,
    ServiceRegistry.updateVerifierAuthorizationStatus, bind_eq_ok, ensure_eq_ok, pure,
    Except.pure, Except.ok.injEq] at h
  obtain ⟨_, hexists, s₁, ⟨⟨m, change⟩, hfold, happly⟩, _, hlimit, rfl⟩ := h
  refine ⟨hexists, m, change, hfold, happly, fun hauth => ?_⟩
  simpa [hauth] using hlimit

/-! ## Bonding -/

theorem Execute.bond_eq_ok {svc : Service} {funds : List Coin} {bond : Option {n : ℕ // 0 < n}}
    (h : Execute.bond svc funds = .ok bond) :
    (bond.map Subtype.val).getD 0 = bondedFunds funds svc.bondDenom := by
  unfold Execute.bond at h
  split_ifs at h with hempty
  · cases Except.ok.inj h
    simp [bondedFunds, List.isEmpty_iff.mp hempty]
  · simp only [bind_eq_ok, okOr_eq_ok] at h
    obtain ⟨coin, hcoin, hbond⟩ := h
    split_ifs at hbond with hpos
    cases Except.ok.inj hbond
    simp [bondedFunds, hcoin]

/-- `state::bond_verifier` adds the funds to what the verifier holds, and
leaves it bonded. -/
theorem bondVerifier_eq_ok {verifier verifier' : Verifier} {toAdd : Option {n : ℕ // 0 < n}}
    (h : bondVerifier verifier toAdd = .ok verifier') :
    ∃ amount : {n : ℕ // 0 < n}, verifier' = { verifier with bondingState := .bonded amount } ∧
      amount.val = verifier.bondingState.amount + (toAdd.map Subtype.val).getD 0 := by
  simp only [bondVerifier, bind_eq_ok, pure, Except.pure, Except.ok.injEq] at h
  obtain ⟨amount, hamount, rfl⟩ := h
  refine ⟨amount, rfl, ?_⟩
  -- the three bonded states add with an overflow check; an unbonded one needs funds
  split at hamount
  all_goals first
    | (simp only [bind_eq_ok, okOr_eq_ok, checkedAdd_eq_some] at hamount
       obtain ⟨sum, ⟨-, rfl⟩, hsum⟩ := hamount
       split_ifs at hsum
       cases Except.ok.inj hsum
       simp_all [BondingState.amount])
    | (rw [okOr_eq_ok] at hamount
       simp_all [BondingState.amount])

/-- A committed `execute::bond_verifier` wrote the sender's verifier of the
service: bonded, with the funds of the bond denom added to what it held. A new
verifier is not authorized. -/
theorem Execute.bondVerifier_eq_ok {s s' : State} {c : Call} {serviceName : String}
    (h : Execute.bondVerifier s c serviceName = .ok s') :
    ∃ svc amount verifier, s.services.lookup serviceName = some svc ∧
      verifier.bondingState = .bonded amount ∧
      amount.val = ((s.verifiers.lookup (serviceName, c.sender)).map
        fun v => v.bondingState.amount).getD 0 + bondedFunds c.funds svc.bondDenom ∧
      (match s.verifiers.lookup (serviceName, c.sender) with
        | some v => verifier = { v with bondingState := verifier.bondingState }
        | none => verifier = ⟨c.sender, verifier.bondingState, .notAuthorized, serviceName⟩) ∧
      s' = { s with verifiers := s.verifiers.insert (serviceName, c.sender) verifier } := by
  simp only [Execute.bondVerifier, bind_eq_ok, service_none_eq_ok, pure, Except.pure,
    Except.ok.injEq] at h
  obtain ⟨svc, hsvc, bond, hbond, verifier, hverifier, rfl⟩ := h
  have hfunds := Execute.bond_eq_ok hbond
  -- the stored verifier is bonded further, or a new one is bonded
  cases hstored : s.verifiers.lookup (serviceName, c.sender) with
  | some v =>
      simp only [hstored] at hverifier
      obtain ⟨amount, rfl, hamount⟩ := ServiceRegistry.bondVerifier_eq_ok hverifier
      exact ⟨svc, amount, _, hsvc, rfl, by rw [hamount, hfunds]; rfl, rfl, rfl⟩
  | none =>
      simp only [hstored, bind_eq_ok, okOr_eq_ok, Except.ok.injEq] at hverifier
      obtain ⟨amount, rfl, rfl⟩ := hverifier
      exact ⟨svc, amount, _, hsvc, rfl, by simp [← hfunds], rfl, rfl⟩

/-- `state::unbond_verifier` only moves a verifier that is not jailed between
its bonded states, keeping its amount. -/
theorem unbondVerifier_eq_ok {verifier verifier' : Verifier} {canUnbond : Bool} {time : ℕ}
    (h : unbondVerifier verifier canUnbond time = .ok verifier') :
    verifier.authorizationState ≠ .jailed ∧
      verifier' = { verifier with bondingState := verifier'.bondingState } ∧
      verifier'.bondingState.amount = verifier.bondingState.amount := by
  simp only [unbondVerifier, bind_eq_ok, ensure_eq_ok, decide_eq_true_eq, pure, Except.pure,
    Except.ok.injEq] at h
  obtain ⟨-, hjailed, bondingState, hstate, rfl⟩ := h
  refine ⟨hjailed, rfl, ?_⟩
  split at hstate
  all_goals first
    | (cases Except.ok.inj hstate
       split_ifs <;> simp_all [BondingState.amount])
    | cases hstate

/-- A committed `execute::unbond_verifier` rewrote the bonding state of the
sender's verifier of the service, keeping its amount. -/
theorem Execute.unbondVerifier_eq_ok {ext : Externals} {s s' : State} {c : Call}
    {serviceName : String} (h : Execute.unbondVerifier ext s c serviceName = .ok s') :
    ∃ verifier verifier', s.verifiers.lookup (serviceName, c.sender) = some verifier ∧
      verifier' = { verifier with bondingState := verifier'.bondingState } ∧
      verifier'.bondingState.amount = verifier.bondingState.amount ∧
      s' = { s with verifiers := s.verifiers.insert (serviceName, c.sender) verifier' } := by
  simp only [Execute.unbondVerifier, bind_eq_ok, service_none_eq_ok, okOr_eq_ok, pure,
    Except.pure, Except.ok.injEq] at h
  obtain ⟨_, _, verifier, hstored, _, _, verifier', hunbond, rfl⟩ := h
  obtain ⟨-, hframe, hamount⟩ := ServiceRegistry.unbondVerifier_eq_ok hunbond
  exact ⟨verifier, verifier', hstored, hframe, hamount, rfl⟩

/-- `Timestamp::plus_days` adds the days when the sum fits in a `u64`. -/
theorem plusDays_eq_ok {time days unlockedAt : ℕ} (h : plusDays time days = .ok unlockedAt) :
    unlockedAt = time + days * nanosPerDay := by
  simp only [plusDays, okOr_eq_ok, checkedAdd_eq_some] at h
  exact h.2

/-- `state::claim_verifier_stake` releases the amount of a verifier that is not
jailed, unbonding, and past its unbonding period, and leaves it unbonded. -/
theorem claimVerifierStake_eq_ok {verifier verifier' : Verifier} {time days : ℕ}
    {released : {n : ℕ // 0 < n}}
    (h : claimVerifierStake verifier time days = .ok (verifier', released)) :
    verifier.authorizationState ≠ .jailed ∧
      ∃ unbondedAt, verifier.bondingState = .unbonding released unbondedAt ∧
        unbondedAt + days * nanosPerDay ≤ time ∧
        verifier' = { verifier with bondingState := .unbonded } := by
  simp only [claimVerifierStake, bind_eq_ok, ensure_eq_ok, decide_eq_true_eq] at h
  obtain ⟨-, hjailed, hclaim⟩ := h
  refine ⟨hjailed, ?_⟩
  split at hclaim
  · next amount unbondedAt hstate =>
      rw [bind_eq_ok] at hclaim
      obtain ⟨unlockedAt, hunlock, hpast⟩ := hclaim
      rw [plusDays_eq_ok hunlock] at hpast
      split_ifs at hpast with hle
      simp only [Except.ok.injEq, Prod.mk.injEq] at hpast
      obtain ⟨rfl, rfl⟩ := hpast
      exact ⟨unbondedAt, hstate, hle, rfl⟩
  · cases hclaim

/-- A committed `execute::claim_stake` found the sender's verifier of the
service unbonding past the service's unbonding period and not jailed, left it
unbonded, and sent its amount back to the sender in the bond denom. -/
theorem Execute.claimStake_eq_ok {s s' : State} {c : Call} {serviceName : String} {r : Response}
    (h : Execute.claimStake s c serviceName = .ok (s', r)) :
    ∃ svc verifier amount unbondedAt, s.services.lookup serviceName = some svc ∧
      s.verifiers.lookup (serviceName, c.sender) = some verifier ∧
      verifier.authorizationState ≠ .jailed ∧
      verifier.bondingState = .unbonding amount unbondedAt ∧
      unbondedAt + svc.unbondingPeriodDays * nanosPerDay ≤ c.blockTime ∧
      s' = { s with verifiers :=
        s.verifiers.insert (serviceName, c.sender) { verifier with bondingState := .unbonded } } ∧
      r = ⟨[⟨c.sender, [⟨svc.bondDenom, amount.val⟩]⟩], []⟩ := by
  simp only [Execute.claimStake, bind_eq_ok, service_none_eq_ok, okOr_eq_ok, pure, Except.pure,
    Except.ok.injEq, Prod.mk.injEq] at h
  obtain ⟨svc, hsvc, verifier, hstored, ⟨verifier', amount⟩, hclaim, rfl, rfl⟩ := h
  obtain ⟨hjailed, unbondedAt, hstate, hpast, rfl⟩ := claimVerifierStake_eq_ok hclaim
  exact ⟨svc, verifier, amount, unbondedAt, hsvc, hstored, hjailed, hstate, hpast, rfl, rfl⟩

/-! ## Messages -/

theorem validateAddress_eq_ok {ext : Externals} {address address' : String} :
    validateAddress ext address = .ok address' ↔
      ext.isValidAddress address = true ∧ address' = address := by
  unfold validateAddress
  split_ifs with h <;> simp [h, eq_comm]

theorem execute_eq_ok {ext : Externals} {s s' : State} {c : Call} {r : Response} :
    execute ext s c = .ok (s', r) ↔
      c.msg.ensurePermissions s c.sender = .ok () ∧ dispatch ext s c = .ok (s', r) := by
  simp [execute, bind_eq_ok, mapError_eq_ok, Unique.exists_iff]

theorem dispatch_registerService {ext : Externals} {s s' : State} {c : Call} {r : Response}
    {serviceName coordinatorContract : String} {minNumVerifiers : ℕ} {maxNumVerifiers : Option ℕ}
    {minVerifierBond : {n : ℕ // 0 < n}} {bondDenom : String} {unbondingPeriodDays : ℕ}
    {description : String}
    (hmsg : c.msg = .registerService serviceName coordinatorContract minNumVerifiers
      maxNumVerifiers minVerifierBond bondDenom unbondingPeriodDays description)
    (h : dispatch ext s c = .ok (s', r)) :
    saveNewService s serviceName ⟨serviceName, coordinatorContract, minNumVerifiers,
      maxNumVerifiers, minVerifierBond, bondDenom, unbondingPeriodDays, description⟩ = .ok s' ∧
    r = .empty := by
  simp only [dispatch, hmsg, bind_eq_ok, validateAddress_eq_ok, pure, Except.pure,
    Except.ok.injEq, Prod.mk.injEq] at h
  obtain ⟨_, ⟨-, rfl⟩, _, hsave, rfl, rfl⟩ := h
  exact ⟨hsave, rfl⟩

/-- The messages that commit through a handler of the storage alone, returning
an empty response. -/
theorem dispatch_of_handler {ext : Externals} {s s' : State} {c : Call} {r : Response}
    {handler : Except Failure State} (hmsg : dispatch ext s c = (do let s' ← handler; return (s', .empty)))
    (h : dispatch ext s c = .ok (s', r)) : handler = .ok s' ∧ r = .empty := by
  simp only [hmsg, bind_eq_ok, pure, Except.pure, Except.ok.injEq, Prod.mk.injEq] at h
  obtain ⟨_, hhandler, rfl, rfl⟩ := h
  exact ⟨hhandler, rfl⟩

/-- Authorizing, unauthorizing and jailing validate the verifiers' addresses,
then run the authorization update with the message's state. -/
theorem dispatch_authorization {ext : Externals} {s s' : State} {c : Call} {r : Response}
    {verifiers : List String} {serviceName : String} {authState : AuthorizationState}
    (hmsg : dispatch ext s c = (do
      let verifiers ← verifiers.mapM (validateAddress ext)
      let s' ← Execute.updateVerifierAuthorizationStatus s verifiers serviceName authState
      return (s', .empty)))
    (h : dispatch ext s c = .ok (s', r)) :
    ∃ validated, Execute.updateVerifierAuthorizationStatus s validated serviceName authState =
      .ok s' ∧ r = .empty := by
  simp only [hmsg, bind_eq_ok, pure, Except.pure, Except.ok.injEq, Prod.mk.injEq] at h
  obtain ⟨validated, -, _, hupdate, rfl, rfl⟩ := h
  exact ⟨validated, hupdate, rfl⟩

/-- Registering and deregistering chain support write nothing but the chains. -/
theorem dispatch_chainSupport {ext : Externals} {s s' : State} {c : Call} {r : Response}
    {serviceName : String} {write : State → State}
    {event : Events.Event}
    (hmsg : dispatch ext s c = (do
      Execute.ensureServiceExists s serviceName
      return (write s, ⟨[], [event]⟩)))
    (h : dispatch ext s c = .ok (s', r)) : s' = write s ∧ r = ⟨[], [event]⟩ := by
  simp only [hmsg, bind_eq_ok, pure, Except.pure, Except.ok.injEq, Prod.mk.injEq] at h
  obtain ⟨_, -, rfl, rfl⟩ := h
  exact ⟨rfl, rfl⟩

end Amplifier.ServiceRegistry
