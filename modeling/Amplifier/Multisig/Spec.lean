import Amplifier.Multisig.Execute

/-!
# Amplifier.Multisig.Spec — what each handler does when it commits

One inversion lemma per handler of `Amplifier.Multisig.Execute`, each saying
everything a committed call did: which checks passed and which storage fields
it wrote. The invariants of the contract are proved from these lemmas, and the
runs of the examples are evaluated with them, never by unfolding a handler
again.

* `startSigningSession_eq_ok` — signing is enabled, the verifier set is
  registered, and one pending session under the next id of the counter;
* `submitSignature_eq_ok` — the sender is a key of the session's verifier set,
  its signature is new and valid before the session expired, and the session
  is saved back as `recalculate_session_state` left it
  (`recalculateSessionState_eq_ok`);
* `execute_eq_ok` — the relay, permission and address checks passed and the
  handler committed.
-/

namespace Amplifier.Multisig

open WasmStd RouterApi

/-! ## Shared steps -/

theorem saveSignature_eq_ok {signatures signatures' : Map (ℕ × String) Signature}
    {sessionId : ℕ} {signature : Signature} {signer : String} :
    saveSignature signatures sessionId signature signer = .ok signatures' ↔
      signatures.lookup (sessionId, signer) = none ∧
        signatures' = signatures.insert (sessionId, signer) signature := by
  unfold saveSignature
  cases signatures.lookup (sessionId, signer) <;> simp [eq_comm]

/-- A committed `recalculate_session_state` summed the signers' weight; it
completes a pending session that reached the threshold, and changes nothing else. -/
theorem recalculateSessionState_eq_ok {session session' : SigningSession}
    {signatures : List (String × Signature)} {verifierSet : VerifierSet} {blockHeight : ℕ} :
    session.recalculateSessionState signatures verifierSet blockHeight = .ok session' ↔
      ∃ weight, signersWeight signatures verifierSet = .ok weight ∧
        session' = if session.state = .pending ∧ verifierSet.threshold ≤ weight then
          { session with state := .completed blockHeight } else session := by
  simp only [SigningSession.recalculateSessionState, bind_eq_ok]
  refine exists_congr fun weight => and_congr_right fun _ => ?_
  split_ifs <;> simp [pure, Except.pure, eq_comm]

/-- Recalculating keeps the session's id and everything but its state, and a
completed session keeps its state. -/
theorem recalculateSessionState_state {session session' : SigningSession}
    {signatures : List (String × Signature)} {verifierSet : VerifierSet} {blockHeight : ℕ}
    (h : session.recalculateSessionState signatures verifierSet blockHeight = .ok session') :
    session' = { session with state := session'.state } ∧
      (session'.state = session.state ∨
        session.state = .pending ∧ session'.state = .completed blockHeight) := by
  obtain ⟨weight, -, rfl⟩ := recalculateSessionState_eq_ok.mp h
  split_ifs with hcomplete
  · exact ⟨rfl, .inr ⟨hcomplete.1, rfl⟩⟩
  · exact ⟨rfl, .inl rfl⟩

/-! ## Handlers -/

theorem startSigningSession_eq_ok {s s' : State} {r : Response} {blockHeight : ℕ}
    {verifierSetId : String} {msg : ByteArray} {chainName : ChainName}
    {sigVerifier : Option String} :
    startSigningSession s blockHeight verifierSetId msg chainName sigVerifier = .ok (s', r) ↔
      s.killswitch = .disengaged ∧
      (∃ verifierSet, s.verifierSets.lookup verifierSetId = some verifierSet ∧
        r = ⟨[], [.signingStarted (s.signingSessionCounter + 1) verifierSetId verifierSet.pubKeys
          msg chainName (blockHeight + s.config.blockExpiry.val)],
          some (s.signingSessionCounter + 1)⟩) ∧
      s.signingSessionCounter + 1 ≤ uint64Max ∧
      blockHeight + s.config.blockExpiry.val ≤ uint64Max ∧
      s' = { s with
        signingSessionCounter := s.signingSessionCounter + 1
        signingSessions := s.signingSessions.insert (s.signingSessionCounter + 1)
          (SigningSession.new (s.signingSessionCounter + 1) verifierSetId chainName msg
            (blockHeight + s.config.blockExpiry.val) sigVerifier) } := by
  simp only [startSigningSession, bind_eq_ok, ensure_eq_ok, okOr_eq_ok, checkedAdd_eq_some,
    Killswitch.isContractActive, decide_eq_true_eq, pure, Except.pure, Except.ok.injEq,
    Prod.mk.injEq]
  constructor
  · rintro ⟨u, hk, verifierSet, hvs, id, ⟨hid, rfl⟩, expiresAt, ⟨hexp, rfl⟩, rfl, rfl⟩
    exact ⟨hk, ⟨verifierSet, hvs, rfl⟩, hid, hexp, rfl⟩
  · rintro ⟨hk, ⟨verifierSet, hvs, rfl⟩, hid, hexp, rfl⟩
    exact ⟨(), hk, verifierSet, hvs, _, ⟨hid, rfl⟩, _, ⟨hexp, rfl⟩, rfl, rfl⟩

theorem submitSignature_eq_ok {ext : Externals} {s s' : State} {r : Response}
    {blockHeight : ℕ} {sender : String} {sessionId : ℕ} {signature : ByteArray} :
    submitSignature ext s blockHeight sender sessionId signature = .ok (s', r) ↔
      s.killswitch = .disengaged ∧
      ∃ session verifierSet signer sig sigVerifierMsg signatures session',
        s.signingSessions.lookup sessionId = some session ∧
        s.verifierSets.lookup session.verifierSetId = some verifierSet ∧
        verifierSet.signers.lookup sender = some signer ∧
        Signature.tryFrom signer.pubKey.keyType signature = .ok sig ∧
        validateSessionSignature ext session sender sig signer.pubKey blockHeight =
          .ok sigVerifierMsg ∧
        saveSignature s.signatures sessionId sig sender = .ok signatures ∧
        session.recalculateSessionState (loadSessionSignatures signatures sessionId) verifierSet
          blockHeight = .ok session' ∧
        s' = { s with
          signatures := signatures
          signingSessions := s.signingSessions.insert session'.id session' } ∧
        r = sigVerifierMsg.elim
          (signingResponse session' (decide (session.state ≠ session'.state)) sender sig
            s.config.rewardsContract)
          (signingResponse session' (decide (session.state ≠ session'.state)) sender sig
            s.config.rewardsContract).addMessage := by
  simp only [submitSignature, bind_eq_ok, ensure_eq_ok, okOr_eq_ok, mapError_eq_ok,
    Killswitch.isContractActive, decide_eq_true_eq, pure, Except.pure, Except.ok.injEq,
    Prod.mk.injEq]
  constructor
  · rintro ⟨u, hk, session, hsession, verifierSet, hvs, signer, hsigner, sig, hsig, msg, hmsg,
      signatures, hsave, session', hrecalc, rfl, rfl⟩
    exact ⟨hk, session, verifierSet, signer, sig, msg, signatures, session', hsession, hvs,
      hsigner, hsig, hmsg, hsave, hrecalc, rfl, rfl⟩
  · rintro ⟨hk, session, verifierSet, signer, sig, msg, signatures, session', hsession, hvs,
      hsigner, hsig, hmsg, hsave, hrecalc, rfl, rfl⟩
    exact ⟨(), hk, session, hsession, verifierSet, hvs, signer, hsigner, sig, hsig, msg, hmsg,
      signatures, hsave, session', hrecalc, rfl, rfl⟩

/-- A committed `execute` passed the relay, permission and address checks, and
its handler committed. -/
theorem execute_eq_ok {ext : Externals} {s s' : State} {c : Call} {r : Response} :
    execute ext s c = .ok (s', r) ↔
      (∀ relayer, c.relayer = some relayer → c.msg.verifyExternalExecutor s relayer = .ok ()) ∧
      c.msg.ensurePermissions s c.sender = .ok () ∧ c.msg.validateAddresses ext = .ok () ∧
      dispatch ext s c.blockHeight c.sender c.msg = .ok (s', r) := by
  unfold execute
  cases c.relayer with
  | none => simp [bind_eq_ok, mapError_eq_ok, Unique.exists_iff]
  | some relayer => simp [bind_eq_ok, mapError_eq_ok, Unique.exists_iff]

/-! ## Calls that commit

The calls a run of the contract is made of, each with the checks of `execute`
discharged: what a call open to everyone, a governance call and a prover's call
evaluate to. -/

/-- `RegisterVerifierSet` is open to every sender and always commits: whatever
was stored under the set's id is replaced. -/
theorem execute_registerVerifierSet (ext : Externals) (s : State) (blockHeight : ℕ)
    (sender : String) (verifierSet : VerifierSet) :
    execute ext s ⟨blockHeight, sender, none, .registerVerifierSet verifierSet⟩ =
      .ok (registerVerifierSet ext s verifierSet) := by
  simp [execute, ExecuteMsg.ensurePermissions, ensureGeneral, ExecuteMsg.validateAddresses,
    dispatch, bind, Except.bind, Except.mapError]

/-- `SubmitSignature` is open to every sender. -/
theorem execute_submitSignature (ext : Externals) (s : State) (blockHeight : ℕ)
    (sender : String) (sessionId : ℕ) (signature : ByteArray) :
    execute ext s ⟨blockHeight, sender, none, .submitSignature sessionId signature⟩ =
      submitSignature ext s blockHeight sender sessionId signature := by
  simp [execute, ExecuteMsg.ensurePermissions, ensureGeneral, ExecuteMsg.validateAddresses,
    dispatch, bind, Except.bind, Except.mapError]

/-- The prover of a chain starts a session without a signature verifier. -/
theorem execute_startSigningSession {ext : Externals} {s : State} {sender : String}
    {chainName : ChainName} (hauth : s.proverChain.lookup sender = some chainName)
    (blockHeight : ℕ) (verifierSetId : String) (msg : ByteArray) :
    execute ext s
        ⟨blockHeight, sender, none, .startSigningSession verifierSetId msg chainName none⟩ =
      startSigningSession s blockHeight verifierSetId msg chainName none := by
  simp [execute, ExecuteMsg.ensurePermissions, callerAuthorized, hauth,
    ExecuteMsg.validateAddresses, dispatch, bind, Except.bind, Except.mapError]

/-- The governance authorizes provers with valid addresses. -/
theorem execute_authorizeCallers {ext : Externals} {s : State} {sender : String}
    {contracts : List (String × ChainName)} (hgov : s.governance = sender)
    (hvalid : ∀ e ∈ contracts, ext.isValidAddress e.1 = true) (blockHeight : ℕ) :
    execute ext s ⟨blockHeight, sender, none, .authorizeCallers contracts⟩ =
      authorizeCallers s contracts := by
  have hfind : (contracts.map Prod.fst).find? (fun a => !ext.isValidAddress a) = none := by
    rw [List.find?_eq_none]
    intro a ha
    obtain ⟨e, he, rfl⟩ := List.mem_map.mp ha
    simp [hvalid e he]
  have hall : validateAll ext (contracts.map Prod.fst) = .ok () := by
    rw [validateAll, hfind]
  have hperm : ensureGeneral {.governance} s.admin s.governance sender = .ok () :=
    ensureGeneral_governance_eq_ok.mpr hgov
  simp [execute, ExecuteMsg.ensurePermissions, hperm, ExecuteMsg.validateAddresses, hall, dispatch,
    bind, Except.bind, Except.mapError]

end Amplifier.Multisig
