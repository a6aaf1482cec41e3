import Amplifier.ServiceRegistry.Spec

/-!
# Amplifier.ServiceRegistry.Accounting — the ledgers of the registry over a run

Two quantities of each service are kept by the registry and must agree with
its verifiers at every moment of every run:

* the stored `AUTHORIZED_VERIFIER_COUNT`, which `update_verifier_authorization_status`
  moves by a change it accumulates verifier by verifier, is the number of its
  authorized verifiers (`authorizedCount`), and stays within the service's
  maximum (`RegistryInv`, proved invariant from `instantiate`);
* the funds its verifiers hold (`bondedAmount`) are what `BondVerifier` calls
  brought in minus what `ClaimStake` calls sent back (`bonded_step`, summed over
  the run by `runLog_conserves`).

A claim releases an unbonding verifier's amount once: it leaves the verifier
unbonded, and only an `UnbondVerifier` of that verifier starts an unbonding
again (`unbonding_switch`), so between two claims of one verifier there is an
unbonding (`runLog_exists_switch`).
-/

namespace Amplifier.ServiceRegistry

open WasmStd RouterApi

/-! ## Weights of the verifiers -/

/-- `Authorized` counts one. -/
def AuthorizationState.weight (authState : AuthorizationState) : ℕ :=
  if authState = .authorized then 1 else 0

/-- A verifier's share in the authorized count of a service. -/
def authorizedWeight (serviceName : String) (k : String × String) (verifier : Verifier) : ℕ :=
  if k.1 = serviceName then verifier.authorizationState.weight else 0

/-- The number of entries `(serviceName, _)` of `VERIFIERS` that are authorized. -/
def authorizedCount (verifiers : Map (String × String) Verifier) (serviceName : String) : ℕ :=
  Map.sum (authorizedWeight serviceName) verifiers

/-- A verifier's share in the funds bonded to a service. -/
def bondedWeight (serviceName : String) (k : String × String) (verifier : Verifier) : ℕ :=
  if k.1 = serviceName then verifier.bondingState.amount else 0

/-- The funds the verifiers of a service hold: bonded, requested to unbond or
unbonding. -/
def bondedAmount (verifiers : Map (String × String) Verifier) (serviceName : String) : ℕ :=
  Map.sum (bondedWeight serviceName) verifiers

/-- An unbonding in progress. -/
def BondingState.isUnbonding : BondingState → Bool
  | .unbonding _ _ => true
  | _ => false

/-- Whether the verifier stored at a key is unbonding. -/
def unbondingAt (verifiers : Map (String × String) Verifier) (k : String × String) : Bool :=
  ((verifiers.lookup k).map fun verifier => verifier.bondingState.isUnbonding).getD false

/-- `calculate_auth_verifier_count_change` is the new state's weight minus the
previous one's. -/
theorem calculateAuthVerifierCountChange_eq (previousState : Option AuthorizationState)
    (authState : AuthorizationState) :
    calculateAuthVerifierCountChange previousState authState =
      (authState.weight : ℤ) - ((previousState.map AuthorizationState.weight).getD 0 : ℕ) := by
  rcases previousState with _ | ⟨_ | _ | _⟩ <;> cases authState <;> rfl

theorem weightAt_authorizedWeight (serviceName : String) (m : Map (String × String) Verifier)
    (k : String × String) :
    Map.weightAt (authorizedWeight serviceName) m k =
      if k.1 = serviceName then ((m.lookup k).map fun v => v.authorizationState.weight).getD 0
      else 0 := by
  rw [Map.weightAt_eq_getD]
  cases m.lookup k <;> split_ifs <;> simp_all [authorizedWeight]

theorem weightAt_bondedWeight (serviceName : String) (m : Map (String × String) Verifier)
    (k : String × String) :
    Map.weightAt (bondedWeight serviceName) m k =
      if k.1 = serviceName then ((m.lookup k).map fun v => v.bondingState.amount).getD 0
      else 0 := by
  rw [Map.weightAt_eq_getD]
  cases m.lookup k <;> split_ifs <;> simp_all [bondedWeight]

/-- A write that keeps the authorization of the entry it replaces, or adds an
entry that is not authorized, keeps every authorized count. -/
theorem authorizedCount_insert {m : Map (String × String) Verifier} {k : String × String}
    {verifier : Verifier}
    (h : verifier.authorizationState.weight =
      ((m.lookup k).map fun v => v.authorizationState.weight).getD 0) (serviceName : String) :
    authorizedCount (m.insert k verifier) serviceName = authorizedCount m serviceName := by
  apply Map.sum_insert_of_weight
  rw [weightAt_authorizedWeight, authorizedWeight, h]

/-- A write under another service leaves a service's authorized count. -/
theorem authorizedCount_insert_ne {m : Map (String × String) Verifier} {k : String × String}
    {serviceName : String} (hk : k.1 ≠ serviceName) (verifier : Verifier) :
    authorizedCount (m.insert k verifier) serviceName = authorizedCount m serviceName := by
  apply Map.sum_insert_of_weight
  rw [weightAt_authorizedWeight, authorizedWeight, if_neg hk, if_neg hk]

/-- A write that keeps the amount of the entry it replaces, or adds an entry
that holds nothing, keeps every bonded amount. -/
theorem bondedAmount_insert {m : Map (String × String) Verifier} {k : String × String}
    {verifier : Verifier}
    (h : verifier.bondingState.amount = ((m.lookup k).map fun v => v.bondingState.amount).getD 0)
    (serviceName : String) :
    bondedAmount (m.insert k verifier) serviceName = bondedAmount m serviceName := by
  apply Map.sum_insert_of_weight
  rw [weightAt_bondedWeight, bondedWeight, h]

/-- A write under another service leaves a service's bonded amount. -/
theorem bondedAmount_insert_ne {m : Map (String × String) Verifier} {k : String × String}
    {serviceName : String} (hk : k.1 ≠ serviceName) (verifier : Verifier) :
    bondedAmount (m.insert k verifier) serviceName = bondedAmount m serviceName := by
  apply Map.sum_insert_of_weight
  rw [weightAt_bondedWeight, bondedWeight, if_neg hk, if_neg hk]

theorem unbondingAt_insert (m : Map (String × String) Verifier) (k k' : String × String)
    (verifier : Verifier) :
    unbondingAt (m.insert k verifier) k' =
      if k' = k then verifier.bondingState.isUnbonding else unbondingAt m k' := by
  by_cases hk : k' = k
  · subst hk
    simp [unbondingAt]
  · simp [unbondingAt, AList.lookup_insert_ne hk, hk]

/-! ## The authorization loop -/

/-- What the loop of `update_verifier_authorization_status` keeps between the
verifiers it started from and those it has written so far, with the change it
has accumulated: the authorized verifiers of the service moved by the change and
no other service's did, no amount moved and no unbonding started or stopped, a
removal of authorizations never raised the change, and every entry is a stored
one with another authorization state or a new unbonded verifier of the service. -/
structure AuthorizeLoop (serviceName : String) (authState : AuthorizationState)
    (m₀ : Map (String × String) Verifier) (acc : Map (String × String) Verifier × ℤ) : Prop where
  counted : (authorizedCount acc.1 serviceName : ℤ) = authorizedCount m₀ serviceName + acc.2
  others : ∀ name, name ≠ serviceName → authorizedCount acc.1 name = authorizedCount m₀ name
  bonded : ∀ name, bondedAmount acc.1 name = bondedAmount m₀ name
  unbonding : ∀ k, unbondingAt acc.1 k = unbondingAt m₀ k
  nonincreasing : authState ≠ .authorized → acc.2 ≤ 0
  entries : ∀ k v, acc.1.lookup k = some v →
    (∃ v₀, m₀.lookup k = some v₀ ∧ v = { v₀ with authorizationState := v.authorizationState }) ∨
      (k.1 = serviceName ∧ v = ⟨k.2, .unbonded, v.authorizationState, serviceName⟩)

theorem AuthorizeLoop.init (serviceName : String) (authState : AuthorizationState)
    (m₀ : Map (String × String) Verifier) : AuthorizeLoop serviceName authState m₀ (m₀, 0) where
  counted := by simp
  others _ _ := rfl
  bonded _ := rfl
  unbonding _ := rfl
  nonincreasing _ := le_refl 0
  entries k v h := .inl ⟨v, h, rfl⟩

theorem authorizedVerifier_authorizationState (serviceName : String)
    (authState : AuthorizationState) (verifierAddr : String) (stored : Option Verifier) :
    (authorizedVerifier serviceName authState verifierAddr stored).authorizationState = authState := by
  cases stored <;> rfl

theorem authorizedVerifier_bondingState (serviceName : String) (authState : AuthorizationState)
    (verifierAddr : String) (stored : Option Verifier) :
    (authorizedVerifier serviceName authState verifierAddr stored).bondingState =
      (stored.map Verifier.bondingState).getD .unbonded := by
  cases stored <;> rfl

/-- One verifier of the loop keeps `AuthorizeLoop`. -/
theorem AuthorizeLoop.step {serviceName : String} {authState : AuthorizationState}
    {m₀ : Map (String × String) Verifier} {acc acc' : Map (String × String) Verifier × ℤ}
    {verifierAddr : String} (hloop : AuthorizeLoop serviceName authState m₀ acc)
    (h : authorizeStep serviceName authState acc verifierAddr = .ok acc') :
    AuthorizeLoop serviceName authState m₀ acc' := by
  obtain ⟨m, change⟩ := acc
  obtain ⟨m', change'⟩ := acc'
  obtain ⟨rfl, rfl⟩ := authorizeStep_eq_ok h
  -- the written verifier: the stored one with the new state, or a new unbonded one
  set k := (serviceName, verifierAddr) with hk
  set stored := m.lookup k with hstored
  set written := authorizedVerifier serviceName authState verifierAddr stored
  have hauth : written.authorizationState = authState :=
    authorizedVerifier_authorizationState serviceName authState verifierAddr stored
  have hbond : written.bondingState = (stored.map Verifier.bondingState).getD .unbonded :=
    authorizedVerifier_bondingState serviceName authState verifierAddr stored
  have hprev : ((stored.map Verifier.authorizationState).map AuthorizationState.weight).getD 0 =
      (stored.map fun v => v.authorizationState.weight).getD 0 := by
    cases stored <;> rfl
  have hchange := calculateAuthVerifierCountChange_eq (stored.map Verifier.authorizationState)
    authState
  rw [hprev] at hchange
  constructor
  · -- the count moves by the new state's weight minus the old one's
    have hsum := Map.sum_insert (authorizedWeight serviceName) m k written
    rw [weightAt_authorizedWeight, if_pos rfl, authorizedWeight, if_pos rfl, hauth,
      ← hstored] at hsum
    have hcounted := hloop.counted
    simp only [authorizedCount] at hcounted ⊢
    omega
  · intro name hname
    rw [authorizedCount_insert_ne (Ne.symm hname)]
    exact hloop.others name hname
  · -- the written verifier holds what the stored one held, or nothing
    intro name
    rw [bondedAmount_insert ?_ name]
    · exact hloop.bonded name
    · rw [hbond, ← hstored]
      cases stored <;> rfl
  · intro k'
    rw [unbondingAt_insert, ← hloop.unbonding k']
    split_ifs with hk'
    · subst hk'
      rw [hbond]
      simp only [unbondingAt, ← hstored]
      cases stored <;> rfl
    · rfl
  · -- a state other than `Authorized` weighs nothing, so the change only falls
    intro hnot
    have hzero : authState.weight = 0 := by simp [AuthorizationState.weight, hnot]
    have hacc := hloop.nonincreasing hnot
    dsimp only at hacc ⊢
    omega
  · intro k' v hv
    rcases Map.lookup_insert_eq_some.mp hv with ⟨rfl, rfl⟩ | ⟨hne, hv⟩
    · cases hs : stored with
      | some v₁ =>
          -- the stored verifier is itself a stored one or a new one of the loop
          have hwritten : written = { v₁ with authorizationState := authState } := by
            simp only [written, hs, authorizedVerifier]
          rcases hloop.entries _ v₁ (hstored ▸ hs) with ⟨v₀, hv₀, hv₁⟩ | ⟨hk₁, hv₁⟩
          · exact .inl ⟨v₀, hv₀, by rw [hwritten, hv₁]⟩
          · exact .inr ⟨hk₁, by rw [hwritten, hv₁]⟩
      | none =>
          have hwritten : written = ⟨verifierAddr, .unbonded, authState, serviceName⟩ := by
            simp only [written, hs, authorizedVerifier]
          exact .inr ⟨rfl, by rw [hwritten]⟩
    · exact hloop.entries k' v hv

/-- A committed authorization update: the service exists, the loop kept
`AuthorizeLoop` up to the verifiers it wrote, the count moved by its change and
an authorization kept the count within the maximum. -/
theorem updateVerifierAuthorizationStatus_loop {s s' : State} {verifiers : List String}
    {serviceName : String} {authState : AuthorizationState}
    (h : Execute.updateVerifierAuthorizationStatus s verifiers serviceName authState = .ok s') :
    (s.services.lookup serviceName).isSome ∧
    ∃ m change, AuthorizeLoop serviceName authState s.verifiers (m, change) ∧
      applyAuthorizedCountChange { s with verifiers := m } serviceName change = .ok s' ∧
      (authState = .authorized → Execute.ensureAuthorizationMaxLimitRespected s' serviceName = .ok ()) := by
  obtain ⟨hexists, m, change, hfold, happly, hlimit⟩ := Execute.updateVerifierAuthorizationStatus_eq_ok h
  have hloop := foldlM_inv (AuthorizeLoop serviceName authState s.verifiers)
    (fun _ _ _ hacc hstep => hacc.step hstep) (AuthorizeLoop.init serviceName authState s.verifiers)
    hfold
  exact ⟨hexists, m, change, hloop, happly, hlimit⟩

theorem applyAuthorizedCountChange_frame {s s' : State} {serviceName : String} {change : ℤ}
    (h : applyAuthorizedCountChange s serviceName change = .ok s') :
    s'.services = s.services ∧ s'.verifiers = s.verifiers := by
  rcases applyAuthorizedCountChange_eq_ok h with ⟨-, rfl⟩ | ⟨_, -, -, rfl⟩ <;> exact ⟨rfl, rfl⟩

/-! ## The registry invariant -/

/-- What every reachable storage of the registry satisfies: a service has a
count exactly when it is registered, the count is its number of authorized
verifiers and stays within its maximum, and every verifier is stored under its
own address and service, a registered one. -/
structure RegistryInv (s : State) : Prop where
  countKeys : ∀ name,
    (s.authorizedVerifierCount.lookup name).isSome = (s.services.lookup name).isSome
  counted : ∀ name count, s.authorizedVerifierCount.lookup name = some count →
    count = authorizedCount s.verifiers name
  withinMax : ∀ name svc maxLimit, s.services.lookup name = some svc →
    svc.maxNumVerifiers = some maxLimit → authorizedCount s.verifiers name ≤ maxLimit
  entries : ∀ k v, s.verifiers.lookup k = some v →
    v.address = k.2 ∧ v.serviceName = k.1 ∧ (s.services.lookup k.1).isSome

theorem registryInv_instantiate (governance : String) : RegistryInv (instantiate governance) where
  countKeys _ := rfl
  counted _ _ h := by simp [instantiate] at h
  withinMax _ _ _ h := by simp [instantiate] at h
  entries _ _ h := by simp [instantiate] at h

/-- A service that is not registered has no authorized verifier. -/
theorem RegistryInv.authorizedCount_eq_zero {s : State} (hinv : RegistryInv s)
    {serviceName : String} (hnone : s.services.lookup serviceName = none) :
    authorizedCount s.verifiers serviceName = 0 := by
  apply Map.sum_eq_zero
  intro k v hv
  -- every verifier belongs to a registered service, so not to this one
  have hk : k.1 ≠ serviceName := by
    intro hk
    have hreg := (hinv.entries k v hv).2.2
    rw [hk, hnone] at hreg
    exact absurd hreg (by simp)
  simp [authorizedWeight, hk]

/-- Writes that leave the services, the counts and the verifiers keep the invariant. -/
theorem RegistryInv.of_frame {s s' : State} (hinv : RegistryInv s)
    (hservices : s'.services = s.services)
    (hcount : s'.authorizedVerifierCount = s.authorizedVerifierCount)
    (hverifiers : s'.verifiers = s.verifiers) : RegistryInv s' where
  countKeys name := by rw [hservices, hcount]; exact hinv.countKeys name
  counted name count h := by rw [hverifiers]; exact hinv.counted name count (hcount ▸ h)
  withinMax name svc maxLimit hsvc hmax := by
    rw [hverifiers]
    exact hinv.withinMax name svc maxLimit (hservices ▸ hsvc) hmax
  entries k v h := by
    rw [hservices]
    exact hinv.entries k v (hverifiers ▸ h)

/-- Writing a verifier under its own address and a registered service, with the
authorization of the entry it replaces (not authorized, for a new one), keeps the
invariant. -/
theorem RegistryInv.write {s : State} {k : String × String} {v : Verifier}
    (hinv : RegistryInv s) (haddress : v.address = k.2) (hname : v.serviceName = k.1)
    (hreg : (s.services.lookup k.1).isSome)
    (hweight : v.authorizationState.weight =
      ((s.verifiers.lookup k).map fun v => v.authorizationState.weight).getD 0) :
    RegistryInv { s with verifiers := s.verifiers.insert k v } where
  countKeys := hinv.countKeys
  counted name count h := by
    rw [authorizedCount_insert hweight]
    exact hinv.counted name count h
  withinMax name svc maxLimit hsvc hmax := by
    rw [authorizedCount_insert hweight]
    exact hinv.withinMax name svc maxLimit hsvc hmax
  entries k' v' h := by
    rcases Map.lookup_insert_eq_some.mp h with ⟨rfl, rfl⟩ | ⟨-, h⟩
    · exact ⟨haddress, hname, hreg⟩
    · exact hinv.entries k' v' h

theorem isSome_lookup_insert {κ ν : Type} [DecidableEq κ] {m : Map κ ν} {k k' : κ} {v : ν}
    (h : (m.lookup k').isSome) : ((m.insert k v).lookup k').isSome := by
  by_cases hk : k' = k
  · subst hk
    simp
  · rwa [AList.lookup_insert_ne hk]

/-- `register_service` adds a service with no authorized verifier. -/
theorem RegistryInv.saveNewService {s s' : State} {serviceName : String} {svc : Service}
    (hinv : RegistryInv s) (h : saveNewService s serviceName svc = .ok s') : RegistryInv s' := by
  obtain ⟨hcount, hsvc, rfl⟩ := saveNewService_eq_ok.mp h
  have hzero := hinv.authorizedCount_eq_zero hsvc
  constructor
  · intro name
    by_cases hname : name = serviceName
    · subst hname
      simp
    · simp only [AList.lookup_insert_ne hname]
      exact hinv.countKeys name
  · intro name count hlookup
    by_cases hname : name = serviceName
    · subst hname
      simp only [AList.lookup_insert, Option.some.injEq] at hlookup
      rw [← hlookup, hzero]
    · rw [AList.lookup_insert_ne hname] at hlookup
      exact hinv.counted name count hlookup
  · intro name svc' maxLimit hsvc' hmax
    by_cases hname : name = serviceName
    · subst hname
      rw [hzero]
      exact Nat.zero_le _
    · rw [AList.lookup_insert_ne hname] at hsvc'
      exact hinv.withinMax name svc' maxLimit hsvc' hmax
  · intro k v hv
    obtain ⟨haddress, hname, hreg⟩ := hinv.entries k v hv
    exact ⟨haddress, hname, isSome_lookup_insert hreg⟩

/-- `update_service` only sets a maximum the authorized verifiers already meet. -/
theorem RegistryInv.updateService {s s' : State} {serviceName : String}
    {params : UpdatedServiceParams} (hinv : RegistryInv s)
    (h : updateService s serviceName params = .ok s') : RegistryInv s' := by
  obtain ⟨hmax, svc, hsvc, rfl⟩ := updateService_eq_ok h
  have hreg : (s.services.lookup serviceName).isSome := by simp [hsvc]
  constructor
  · intro name
    by_cases hname : name = serviceName
    · subst hname
      simp [hinv.countKeys, hreg]
    · simp only [AList.lookup_insert_ne hname]
      exact hinv.countKeys name
  · exact hinv.counted
  · intro name svc' maxLimit hsvc' hlimit
    by_cases hname : name = serviceName
    · subst hname
      simp only [AList.lookup_insert, Option.some.injEq] at hsvc'
      subst hsvc'
      -- the new maximum is the message's, checked against the count, or the old one
      simp only [UpdatedServiceParams.apply] at hlimit
      rcases hnew : params.maxNumVerifiers with _ | _ | newLimit
      · rw [hnew, Option.getD_none] at hlimit
        exact hinv.withinMax name svc maxLimit hsvc hlimit
      · rw [hnew, Option.getD_some] at hlimit
        cases hlimit
      · rw [hnew, Option.getD_some, Option.some.injEq] at hlimit
        obtain ⟨count, hcount, hle⟩ := hmax newLimit hnew
        rw [← hinv.counted name count hcount]
        exact hlimit ▸ hle
    · rw [AList.lookup_insert_ne hname] at hsvc'
      exact hinv.withinMax name svc' maxLimit hsvc' hlimit
  · intro k v hv
    obtain ⟨haddress, hname, hreg'⟩ := hinv.entries k v hv
    exact ⟨haddress, hname, isSome_lookup_insert hreg'⟩

/-- An authorization update stores the service's new number of authorized
verifiers, within its maximum. -/
theorem RegistryInv.updateVerifierAuthorizationStatus {s s' : State} {verifiers : List String}
    {serviceName : String} {authState : AuthorizationState} (hinv : RegistryInv s)
    (h : Execute.updateVerifierAuthorizationStatus s verifiers serviceName authState = .ok s') :
    RegistryInv s' := by
  obtain ⟨hexists, m, change, hloop, happly, hlimit⟩ := updateVerifierAuthorizationStatus_loop h
  obtain ⟨hservices, hverifiers⟩ := applyAuthorizedCountChange_frame happly
  simp only at hservices hverifiers
  -- the stored counts: the service's moved to its new number, the others stayed
  have hcountKeys : ∀ name, (s'.authorizedVerifierCount.lookup name).isSome =
      (s.authorizedVerifierCount.lookup name).isSome := by
    intro name
    rcases applyAuthorizedCountChange_eq_ok happly with ⟨-, rfl⟩ | ⟨current, hcurrent, -, rfl⟩
    · rfl
    · by_cases hname : name = serviceName
      · subst hname
        simp [hcurrent]
      · simp [AList.lookup_insert_ne hname]
  have hcounted : ∀ name count, s'.authorizedVerifierCount.lookup name = some count →
      count = authorizedCount m name := by
    intro name count hlookup
    have hmoved := hloop.counted
    by_cases hname : name = serviceName
    · subst hname
      rcases applyAuthorizedCountChange_eq_ok happly with ⟨rfl, rfl⟩ | ⟨current, hcurrent, hpos, rfl⟩
      · have := hinv.counted name count hlookup
        simp only at hmoved
        omega
      · simp only [AList.lookup_insert, Option.some.injEq] at hlookup
        have := hinv.counted name current hcurrent
        simp only at hmoved
        omega
    · have hsame : s'.authorizedVerifierCount.lookup name = s.authorizedVerifierCount.lookup name := by
        rcases applyAuthorizedCountChange_eq_ok happly with ⟨-, rfl⟩ | ⟨_, -, -, rfl⟩
        · rfl
        · exact AList.lookup_insert_ne hname
      rw [hinv.counted name count (hsame ▸ hlookup)]
      exact (hloop.others name hname).symm
  constructor
  · intro name
    rw [hcountKeys, hservices]
    exact hinv.countKeys name
  · intro name count hlookup
    rw [hverifiers]
    exact hcounted name count hlookup
  · intro name svc maxLimit hsvc hmax
    rw [hverifiers]
    rw [hservices] at hsvc
    by_cases hname : name = serviceName
    · subst hname
      by_cases hauth : authState = .authorized
      · -- an authorization checked the new count against the maximum
        obtain ⟨count, hcount, hle⟩ := ensureAuthorizationMaxLimitRespected_eq_ok (hlimit hauth)
          svc (hservices ▸ hsvc) maxLimit hmax
        rw [← hcounted name count hcount]
        exact hle
      · -- anything else only removes authorizations
        have hmoved := hloop.counted
        have hfall := hloop.nonincreasing hauth
        have hold := hinv.withinMax name svc maxLimit hsvc hmax
        simp only at hmoved hfall
        omega
    · rw [hloop.others name hname]
      exact hinv.withinMax name svc maxLimit hsvc hmax
  · intro k v hv
    rw [hverifiers] at hv
    rw [hservices]
    rcases hloop.entries k v hv with ⟨v₀, hv₀, hframe⟩ | ⟨hk, hnew⟩
    · obtain ⟨haddress, hname, hreg⟩ := hinv.entries k v₀ hv₀
      rw [hframe]
      exact ⟨haddress, hname, hreg⟩
    · rw [hnew]
      exact ⟨rfl, hk.symm, hk ▸ hexists⟩

/-- A bond writes the sender's verifier: a stored one keeps its authorization,
a new one is not authorized. -/
theorem RegistryInv.bondVerifier {s s' : State} {c : Call} {serviceName : String}
    (hinv : RegistryInv s) (h : Execute.bondVerifier s c serviceName = .ok s') : RegistryInv s' := by
  obtain ⟨svc, amount, verifier, hsvc, -, -, hshape, rfl⟩ := Execute.bondVerifier_eq_ok h
  have hreg : (s.services.lookup serviceName).isSome := by simp [hsvc]
  cases hstored : s.verifiers.lookup (serviceName, c.sender) with
  | some v =>
      rw [hstored] at hshape
      obtain ⟨haddress, hname, -⟩ := hinv.entries _ v hstored
      apply hinv.write _ _ hreg
      · rw [hstored, hshape]
        rfl
      · rw [hshape]
        exact haddress
      · rw [hshape]
        exact hname
  | none =>
      rw [hstored] at hshape
      apply hinv.write _ _ hreg
      · rw [hstored, hshape]
        rfl
      · rw [hshape]
      · rw [hshape]

/-- A write that only changes the bonding state of a stored verifier keeps the
invariant. -/
theorem RegistryInv.rebond {s : State} {k : String × String} {v v' : Verifier}
    (hinv : RegistryInv s) (hstored : s.verifiers.lookup k = some v)
    (hframe : v' = { v with bondingState := v'.bondingState }) :
    RegistryInv { s with verifiers := s.verifiers.insert k v' } := by
  obtain ⟨haddress, hname, hreg⟩ := hinv.entries k v hstored
  apply hinv.write _ _ hreg
  · rw [hstored, hframe]
    rfl
  · rw [hframe]
    exact haddress
  · rw [hframe]
    exact hname

/-- Every committed call keeps the invariant. -/
theorem registryInv_execute {ext : Externals} {s s' : State} {c : Call} {r : Response}
    (hinv : RegistryInv s) (h : execute ext s c = .ok (s', r)) : RegistryInv s' := by
  have hdispatch := (execute_eq_ok.mp h).2
  cases hmsg : c.msg with
  | registerService =>
      exact hinv.saveNewService (dispatch_registerService hmsg hdispatch).1
  | updateService serviceName params =>
      exact hinv.updateService (dispatch_of_handler (by rw [dispatch, hmsg]) hdispatch).1
  | overrideServiceParams serviceName chainName paramsOverride =>
      have hsave := (dispatch_of_handler (by rw [dispatch, hmsg]) hdispatch).1
      rw [saveServiceOverride_eq_ok hsave]
      exact hinv.of_frame rfl rfl rfl
  | removeServiceParamsOverride serviceName chainName =>
      have hremove := (dispatch_of_handler (by rw [dispatch, hmsg]) hdispatch).1
      rw [removeServiceOverride_eq_ok hremove]
      exact hinv.of_frame rfl rfl rfl
  | authorizeVerifiers verifiers serviceName =>
      obtain ⟨_, hupdate, -⟩ := dispatch_authorization (by rw [dispatch, hmsg]) hdispatch
      exact hinv.updateVerifierAuthorizationStatus hupdate
  | unauthorizeVerifiers verifiers serviceName =>
      obtain ⟨_, hupdate, -⟩ := dispatch_authorization (by rw [dispatch, hmsg]) hdispatch
      exact hinv.updateVerifierAuthorizationStatus hupdate
  | jailVerifiers verifiers serviceName =>
      obtain ⟨_, hupdate, -⟩ := dispatch_authorization (by rw [dispatch, hmsg]) hdispatch
      exact hinv.updateVerifierAuthorizationStatus hupdate
  | registerChainSupport serviceName chains =>
      rw [(dispatch_chainSupport (by rw [dispatch, hmsg]) hdispatch).1]
      exact hinv.of_frame rfl rfl rfl
  | deregisterChainSupport serviceName chains =>
      rw [(dispatch_chainSupport (by rw [dispatch, hmsg]) hdispatch).1]
      exact hinv.of_frame rfl rfl rfl
  | bondVerifier serviceName =>
      exact hinv.bondVerifier (dispatch_of_handler (by rw [dispatch, hmsg]) hdispatch).1
  | unbondVerifier serviceName =>
      have hunbond := (dispatch_of_handler (by rw [dispatch, hmsg]) hdispatch).1
      obtain ⟨verifier, verifier', hstored, hframe, -, rfl⟩ := Execute.unbondVerifier_eq_ok hunbond
      exact hinv.rebond hstored hframe
  | claimStake serviceName =>
      simp only [dispatch, hmsg] at hdispatch
      obtain ⟨_, verifier, _, _, -, hstored, -, -, -, rfl, -⟩ := Execute.claimStake_eq_ok hdispatch
      exact hinv.rebond hstored rfl

/-- Every reachable storage of the registry satisfies `RegistryInv`. -/
theorem registryInv_reachable {governance : String} {s : State}
    (hs : Reachable (fun s (q : Externals × Call) => execute q.1 s q.2) (instantiate governance) s) :
    RegistryInv s :=
  Reachable.induction_inv RegistryInv (registryInv_instantiate governance)
    (fun _ _ _ _ hinv h => registryInv_execute hinv h) hs

/-! ## Bonds and claims -/

/-- The service a message bonds to. -/
def ExecuteMsg.bondsTo : ExecuteMsg → Option String
  | .bondVerifier serviceName => some serviceName
  | _ => none

/-- The service a message claims stake from. -/
def ExecuteMsg.claimsFrom : ExecuteMsg → Option String
  | .claimStake serviceName => some serviceName
  | _ => none

/-- The funds a committed call bonded to a service: those of the bond denom
that a `BondVerifier` call for it brought. -/
def accepted (serviceName : String) (e : Committed State (Externals × Call) Response) : ℕ :=
  if e.msg.2.msg.bondsTo = some serviceName then
    ((e.before.services.lookup serviceName).map fun svc =>
      bondedFunds e.msg.2.funds svc.bondDenom).getD 0
  else 0

/-- The funds a committed call released from a service: what a `ClaimStake`
call for it sent. -/
def released (serviceName : String) (e : Committed State (Externals × Call) Response) : ℕ :=
  if e.msg.2.msg.claimsFrom = some serviceName then
    (e.response.messages.map BankMsg.total).sum
  else 0

/-- A committed `ClaimStake` call: `Execute.claimStake_eq_ok` for the sender. -/
theorem claimStake_step {ext : Externals} {s s' : State} {c : Call} {r : Response}
    {serviceName : String} (h : execute ext s c = .ok (s', r))
    (hmsg : c.msg = .claimStake serviceName) :
    ∃ svc verifier amount unbondedAt, s.services.lookup serviceName = some svc ∧
      s.verifiers.lookup (serviceName, c.sender) = some verifier ∧
      verifier.authorizationState ≠ .jailed ∧
      verifier.bondingState = .unbonding amount unbondedAt ∧
      unbondedAt + svc.unbondingPeriodDays * nanosPerDay ≤ c.blockTime ∧
      s' = { s with verifiers :=
        s.verifiers.insert (serviceName, c.sender) { verifier with bondingState := .unbonded } } ∧
      r = ⟨[⟨c.sender, [⟨svc.bondDenom, amount.val⟩]⟩], []⟩ := by
  have hdispatch := (execute_eq_ok.mp h).2
  simp only [dispatch, hmsg] at hdispatch
  exact Execute.claimStake_eq_ok hdispatch

/-- What a committed call does to the verifiers: nothing, or the authorization
loop, for every message that neither bonds nor claims; or one write of the
sender's verifier of a service — bonded further by a bond, moved between bonded
states by an unbond, unbonded by a claim that sends its amount back. -/
theorem verifiers_step {ext : Externals} {s s' : State} {c : Call} {r : Response}
    (h : execute ext s c = .ok (s', r)) :
    (c.msg.bondsTo = none ∧ c.msg.claimsFrom = none ∧
      (s'.verifiers = s.verifiers ∨ ∃ serviceName authState change,
        AuthorizeLoop serviceName authState s.verifiers (s'.verifiers, change))) ∨
    (∃ serviceName svc amount verifier, c.msg = .bondVerifier serviceName ∧
      s.services.lookup serviceName = some svc ∧ verifier.bondingState = .bonded amount ∧
      amount.val = ((s.verifiers.lookup (serviceName, c.sender)).map
        fun v => v.bondingState.amount).getD 0 + bondedFunds c.funds svc.bondDenom ∧
      s'.verifiers = s.verifiers.insert (serviceName, c.sender) verifier) ∨
    (∃ serviceName verifier verifier', c.msg = .unbondVerifier serviceName ∧
      s.verifiers.lookup (serviceName, c.sender) = some verifier ∧
      verifier'.bondingState.amount = verifier.bondingState.amount ∧
      s'.verifiers = s.verifiers.insert (serviceName, c.sender) verifier') ∨
    (∃ serviceName svc verifier amount unbondedAt, c.msg = .claimStake serviceName ∧
      s.services.lookup serviceName = some svc ∧
      s.verifiers.lookup (serviceName, c.sender) = some verifier ∧
      verifier.bondingState = .unbonding amount unbondedAt ∧
      s'.verifiers = s.verifiers.insert (serviceName, c.sender)
        { verifier with bondingState := .unbonded } ∧
      r = ⟨[⟨c.sender, [⟨svc.bondDenom, amount.val⟩]⟩], []⟩) := by
  have hdispatch := (execute_eq_ok.mp h).2
  -- the authorization updates run the loop; the chain and service messages write no verifier
  have hloop : ∀ {verifiers serviceName authState},
      Execute.updateVerifierAuthorizationStatus s verifiers serviceName authState = .ok s' →
      ∃ serviceName authState change,
        AuthorizeLoop serviceName authState s.verifiers (s'.verifiers, change) := by
    intro verifiers serviceName authState hupdate
    obtain ⟨-, m, change, hloop, happly, -⟩ := updateVerifierAuthorizationStatus_loop hupdate
    rw [(applyAuthorizedCountChange_frame happly).2]
    exact ⟨serviceName, authState, change, hloop⟩
  cases hmsg : c.msg with
  | registerService =>
      obtain ⟨hsave, -⟩ := dispatch_registerService hmsg hdispatch
      obtain ⟨-, -, rfl⟩ := saveNewService_eq_ok.mp hsave
      exact .inl ⟨rfl, rfl, .inl rfl⟩
  | updateService serviceName params =>
      have hupdate := (dispatch_of_handler (by rw [dispatch, hmsg]) hdispatch).1
      obtain ⟨-, _, -, rfl⟩ := updateService_eq_ok hupdate
      exact .inl ⟨rfl, rfl, .inl rfl⟩
  | overrideServiceParams serviceName chainName paramsOverride =>
      have hsave := (dispatch_of_handler (by rw [dispatch, hmsg]) hdispatch).1
      rw [saveServiceOverride_eq_ok hsave]
      exact .inl ⟨rfl, rfl, .inl rfl⟩
  | removeServiceParamsOverride serviceName chainName =>
      have hremove := (dispatch_of_handler (by rw [dispatch, hmsg]) hdispatch).1
      rw [removeServiceOverride_eq_ok hremove]
      exact .inl ⟨rfl, rfl, .inl rfl⟩
  | authorizeVerifiers verifiers serviceName =>
      obtain ⟨_, hupdate, -⟩ := dispatch_authorization (by rw [dispatch, hmsg]) hdispatch
      exact .inl ⟨rfl, rfl, .inr (hloop hupdate)⟩
  | unauthorizeVerifiers verifiers serviceName =>
      obtain ⟨_, hupdate, -⟩ := dispatch_authorization (by rw [dispatch, hmsg]) hdispatch
      exact .inl ⟨rfl, rfl, .inr (hloop hupdate)⟩
  | jailVerifiers verifiers serviceName =>
      obtain ⟨_, hupdate, -⟩ := dispatch_authorization (by rw [dispatch, hmsg]) hdispatch
      exact .inl ⟨rfl, rfl, .inr (hloop hupdate)⟩
  | registerChainSupport serviceName chains =>
      rw [(dispatch_chainSupport (by rw [dispatch, hmsg]) hdispatch).1]
      exact .inl ⟨rfl, rfl, .inl rfl⟩
  | deregisterChainSupport serviceName chains =>
      rw [(dispatch_chainSupport (by rw [dispatch, hmsg]) hdispatch).1]
      exact .inl ⟨rfl, rfl, .inl rfl⟩
  | bondVerifier serviceName =>
      have hbond := (dispatch_of_handler (by rw [dispatch, hmsg]) hdispatch).1
      obtain ⟨svc, amount, verifier, hsvc, hstate, hamount, -, rfl⟩ :=
        Execute.bondVerifier_eq_ok hbond
      exact .inr (.inl ⟨serviceName, svc, amount, verifier, rfl, hsvc, hstate, hamount, rfl⟩)
  | unbondVerifier serviceName =>
      have hunbond := (dispatch_of_handler (by rw [dispatch, hmsg]) hdispatch).1
      obtain ⟨verifier, verifier', hstored, -, hamount, rfl⟩ := Execute.unbondVerifier_eq_ok hunbond
      exact .inr (.inr (.inl ⟨serviceName, verifier, verifier', rfl, hstored, hamount, rfl⟩))
  | claimStake serviceName =>
      obtain ⟨svc, verifier, amount, unbondedAt, hsvc, hstored, -, hstate, -, rfl, rfl⟩ :=
        claimStake_step h hmsg
      exact .inr (.inr (.inr ⟨serviceName, svc, verifier, amount, unbondedAt, rfl, hsvc, hstored,
        hstate, rfl, rfl⟩))

/-- The bond ledger of one committed call: what the verifiers of a service hold
afterwards, with what the call released, is what they held with what it brought. -/
theorem bonded_step {ext : Externals} {s s' : State} {c : Call} {r : Response}
    (serviceName : String) (h : execute ext s c = .ok (s', r)) :
    bondedAmount s'.verifiers serviceName + released serviceName ⟨s, (ext, c), s', r⟩ =
      bondedAmount s.verifiers serviceName + accepted serviceName ⟨s, (ext, c), s', r⟩ := by
  rcases verifiers_step h with
    ⟨hbonds, hclaims, hsame | ⟨name, authState, change, hloop⟩⟩ |
    ⟨name, svc, amount, verifier, hmsg, hsvc, hstate, hamount, hverifiers⟩ |
    ⟨name, verifier, verifier', hmsg, hstored, hamount, hverifiers⟩ |
    ⟨name, svc, verifier, amount, unbondedAt, hmsg, hsvc, hstored, hstate, hverifiers, rfl⟩
  · simp [accepted, released, hbonds, hclaims, hsame]
  · simp [accepted, released, hbonds, hclaims, hloop.bonded]
  · -- a bond adds the funds of the bond denom to the sender's verifier
    simp only [accepted, released, hmsg, ExecuteMsg.bondsTo, ExecuteMsg.claimsFrom,
      Option.some.injEq, reduceCtorEq, if_false, Nat.add_zero, hverifiers]
    by_cases hname : name = serviceName
    · subst hname
      have hsum := Map.sum_insert (bondedWeight name) s.verifiers (name, c.sender) verifier
      rw [weightAt_bondedWeight, if_pos rfl, bondedWeight, if_pos rfl, hstate] at hsum
      simp only [BondingState.amount, hamount] at hsum
      simp only [if_true, hsvc, Option.map_some, Option.getD_some, bondedAmount]
      omega
    · rw [bondedAmount_insert_ne hname, if_neg hname, Nat.add_zero]
  · -- an unbond keeps the amount
    simp only [accepted, released, hmsg, ExecuteMsg.bondsTo, ExecuteMsg.claimsFrom,
      reduceCtorEq, if_false, hverifiers]
    rw [bondedAmount_insert (by rw [hstored, hamount]; rfl)]
  · -- a claim sends back the amount it takes out of the sender's verifier
    simp only [accepted, released, hmsg, ExecuteMsg.bondsTo, ExecuteMsg.claimsFrom,
      Option.some.injEq, reduceCtorEq, if_false, Nat.add_zero, hverifiers]
    by_cases hname : name = serviceName
    · subst hname
      have hsum := Map.sum_insert (bondedWeight name) s.verifiers (name, c.sender)
        { verifier with bondingState := .unbonded }
      rw [weightAt_bondedWeight, if_pos rfl, bondedWeight, if_pos rfl, hstored] at hsum
      simp only [BondingState.amount, hstate, Option.map_some, Option.getD_some] at hsum
      simp [bondedAmount, BankMsg.total]
      omega
    · rw [bondedAmount_insert_ne hname, if_neg hname, Nat.add_zero]

/-- Only an `UnbondVerifier` call of a verifier starts its unbonding. -/
theorem unbonding_switch {ext : Externals} {s s' : State} {c : Call} {r : Response}
    {k : String × String} (h : execute ext s c = .ok (s', r))
    (hbefore : unbondingAt s.verifiers k = false) (hafter : unbondingAt s'.verifiers k = true) :
    c.msg = .unbondVerifier k.1 ∧ c.sender = k.2 := by
  -- a write at another key leaves `k` as it was, which contradicts the switch
  have hother : ∀ {k₀ : String × String} {v : Verifier}, s'.verifiers = s.verifiers.insert k₀ v →
      k = k₀ → v.bondingState.isUnbonding = true := by
    intro k₀ v hverifiers
    rw [hverifiers, unbondingAt_insert] at hafter
    split_ifs at hafter with hk
    · exact fun _ => hafter
    · exact absurd (hbefore ▸ hafter) (by simp)
  rcases verifiers_step h with
    ⟨-, -, hsame | ⟨name, authState, change, hloop⟩⟩ |
    ⟨name, svc, amount, verifier, hmsg, -, hstate, -, hverifiers⟩ |
    ⟨name, verifier, verifier', hmsg, -, -, hverifiers⟩ |
    ⟨name, svc, verifier, amount, unbondedAt, hmsg, -, -, -, hverifiers, -⟩
  · rw [hsame, hbefore] at hafter
    cases hafter
  · rw [hloop.unbonding k, hbefore] at hafter
    cases hafter
  · by_cases hk : k = (name, c.sender)
    · have := hother hverifiers hk
      simp [hstate, BondingState.isUnbonding] at this
    · rw [hverifiers, unbondingAt_insert, if_neg hk, hbefore] at hafter
      cases hafter
  · by_cases hk : k = (name, c.sender)
    · subst hk
      exact ⟨hmsg, rfl⟩
    · rw [hverifiers, unbondingAt_insert, if_neg hk, hbefore] at hafter
      cases hafter
  · by_cases hk : k = (name, c.sender)
    · have := hother hverifiers hk
      simp [BondingState.isUnbonding] at this
    · rw [hverifiers, unbondingAt_insert, if_neg hk, hbefore] at hafter
      cases hafter

/-- A committed claim leaves the sender's verifier unbonded, and found it unbonding. -/
theorem claimStake_unbondingAt {ext : Externals} {s s' : State} {c : Call} {r : Response}
    {serviceName : String} (h : execute ext s c = .ok (s', r))
    (hmsg : c.msg = .claimStake serviceName) :
    unbondingAt s.verifiers (serviceName, c.sender) = true ∧
      unbondingAt s'.verifiers (serviceName, c.sender) = false := by
  obtain ⟨_, verifier, _, _, -, hstored, -, hstate, -, rfl, -⟩ := claimStake_step h hmsg
  refine ⟨?_, ?_⟩
  · simp [unbondingAt, hstored, hstate, BondingState.isUnbonding]
  · simp [unbondingAt_insert, BondingState.isUnbonding]

/-! ## Over a run -/

/-- The ledgers of the service registry over every run from `instantiate` (each
call with the coordinator's answers it got): (a) every registered service's
stored count is its number of authorized verifiers and within its maximum, and
a service that is not registered has neither count nor authorized verifier;
(b) what the verifiers of a service hold is everything `BondVerifier` brought to
it minus everything `ClaimStake` sent back; (c) a claim only releases the amount
of a verifier that is not jailed and unbonding past the service's unbonding
period, sends it to the verifier and leaves it unbonded, so two claims of one
verifier have an `UnbondVerifier` of it in between that started an unbonding. -/
theorem registry_accounting (governance : String) (calls : List (Externals × Call)) :
    let run := runLog (fun s (q : Externals × Call) => execute q.1 s q.2)
      (instantiate governance) calls
    (∀ serviceName svc, run.1.services.lookup serviceName = some svc →
      run.1.authorizedVerifierCount.lookup serviceName =
          some (authorizedCount run.1.verifiers serviceName) ∧
        ∀ maxLimit, svc.maxNumVerifiers = some maxLimit →
          authorizedCount run.1.verifiers serviceName ≤ maxLimit) ∧
    (∀ serviceName, run.1.services.lookup serviceName = none →
      run.1.authorizedVerifierCount.lookup serviceName = none ∧
        authorizedCount run.1.verifiers serviceName = 0) ∧
    (∀ serviceName, bondedAmount run.1.verifiers serviceName +
      (run.2.map (released serviceName)).sum = (run.2.map (accepted serviceName)).sum) ∧
    (∀ e ∈ run.2, ∀ serviceName, e.msg.2.msg = .claimStake serviceName →
      ∃ svc verifier amount unbondedAt, e.before.services.lookup serviceName = some svc ∧
        e.before.verifiers.lookup (serviceName, e.msg.2.sender) = some verifier ∧
        verifier.authorizationState ≠ .jailed ∧
        verifier.bondingState = .unbonding amount unbondedAt ∧
        unbondedAt + svc.unbondingPeriodDays * nanosPerDay ≤ e.msg.2.blockTime ∧
        e.response.messages = [⟨e.msg.2.sender, [⟨svc.bondDenom, amount.val⟩]⟩] ∧
        unbondingAt e.after.verifiers (serviceName, e.msg.2.sender) = false) ∧
    (∀ l₁ e₁ l₂ e₂ l₃, run.2 = l₁ ++ e₁ :: (l₂ ++ e₂ :: l₃) → ∀ serviceName,
      e₁.msg.2.msg = .claimStake serviceName → e₂.msg.2.msg = .claimStake serviceName →
      e₂.msg.2.sender = e₁.msg.2.sender →
      ∃ e ∈ l₂, e.msg.2.msg = .unbondVerifier serviceName ∧ e.msg.2.sender = e₁.msg.2.sender ∧
        unbondingAt e.before.verifiers (serviceName, e₁.msg.2.sender) = false ∧
        unbondingAt e.after.verifiers (serviceName, e₁.msg.2.sender) = true) := by
  intro run
  have hinit : Reachable (fun s (q : Externals × Call) => execute q.1 s q.2)
      (instantiate governance) (instantiate governance) := .init
  obtain ⟨hend, hlog⟩ := runLog_reachable calls hinit
  have hinv := registryInv_reachable hend
  refine ⟨?_, ?_, ?_, ?_, ?_⟩
  · -- (a) the count of a registered service is stored, and is its number of authorized verifiers
    intro serviceName svc hsvc
    have hsome : (run.1.authorizedVerifierCount.lookup serviceName).isSome := by
      rw [hinv.countKeys, hsvc]
      rfl
    obtain ⟨count, hcount⟩ := Option.isSome_iff_exists.mp hsome
    refine ⟨?_, fun maxLimit hmax => hinv.withinMax serviceName svc maxLimit hsvc hmax⟩
    rw [hcount, ← hinv.counted serviceName count hcount]
  · intro serviceName hnone
    refine ⟨?_, hinv.authorizedCount_eq_zero hnone⟩
    have hkeys := hinv.countKeys serviceName
    rw [hnone] at hkeys
    simpa using hkeys
  · -- (b) the bond ledger of each call, summed over the run
    intro serviceName
    have hsum := runLog_conserves (fun st : State => bondedAmount st.verifiers serviceName)
      (accepted serviceName) (released serviceName)
      (fun e he => bonded_step serviceName (hlog e he).2)
    have hzero : bondedAmount (instantiate governance).verifiers serviceName = 0 := rfl
    rw [hzero, Nat.zero_add] at hsum
    exact hsum
  · -- (c) each claim, by its handler
    intro e he serviceName hmsg
    obtain ⟨svc, verifier, amount, unbondedAt, hsvc, hstored, hjailed, hstate, hpast, -, hr⟩ :=
      claimStake_step (hlog e he).2 hmsg
    refine ⟨svc, verifier, amount, unbondedAt, hsvc, hstored, hjailed, hstate, hpast,
      by rw [hr], (claimStake_unbondingAt (hlog e he).2 hmsg).2⟩
  · -- between two claims the verifier went from unbonded to unbonding, which only an unbond does
    intro l₁ e₁ l₂ e₂ l₃ hsplit serviceName hmsg₁ hmsg₂ hsender
    have hmem₁ : e₁ ∈ run.2 := by rw [hsplit]; simp
    have hmem₂ : e₂ ∈ run.2 := by rw [hsplit]; simp
    have h₁ := (claimStake_unbondingAt (hlog e₁ hmem₁).2 hmsg₁).2
    have h₂ := (claimStake_unbondingAt (hlog e₂ hmem₂).2 hmsg₂).1
    rw [hsender] at h₂
    obtain ⟨e, he, hoff, hon⟩ := runLog_exists_switch
      (fun st : State => unbondingAt st.verifiers (serviceName, e₁.msg.2.sender) = true) hsplit
      (by simpa using h₁) h₂
    have hmem : e ∈ run.2 := by rw [hsplit]; simp [he]
    obtain ⟨hunbond, hby⟩ := unbonding_switch (hlog e hmem).2 (by simpa using hoff) hon
    exact ⟨e, he, hunbond, hby, by simpa using hoff, hon⟩

end Amplifier.ServiceRegistry
