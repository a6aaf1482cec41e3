import Amplifier.Multisig.State
import Amplifier.Lib.Transaction

/-!
# Amplifier.Multisig.Execute — the handlers and queries of the multisig contract

`contract.rs`'s `execute` and the handlers of `contract/execute.rs`, each a
function from the storage and the call to the new storage and the response, or
a `Failure`:

* `startSigningSession` — a prover opens a session on a registered verifier
  set, under the next id of the counter;
* `submitSignature` — a key of the session's verifier set signs it: the
  signature is checked and saved, the weight of all the session's signers is
  summed again (`signersWeight`), and a pending session whose weight reaches the
  threshold completes at this height;
* `registerVerifierSet` — anyone saves a verifier set under its id;
* `registerPubKey` — a verifier registers a key by signing its own address;
* the admin operations: `authorizeCallers`, `unauthorizeCallers`, the
  killswitch and `updateSigningParameters`.

`execute` first does what `ensure_permissions` does: a message relayed by the
coordinator must be one the coordinator may relay, then the sender's specific
or general permission is checked.

The `Multisig` query reads a session with its verifier set and signatures;
`optimizeSignatures` picks the heaviest signers until the threshold is met, as
the prover builds its proof from them.
-/

namespace Amplifier.Multisig

open WasmStd RouterApi

/-! ## Events, messages and responses -/

/-- `Event`. -/
inductive Event where
  | signingStarted (sessionId : ℕ) (verifierSetId : String) (pubKeys : List (String × PublicKey))
      (msg : ByteArray) (chainName : ChainName) (expiresAt : ℕ)
  | signatureSubmitted (sessionId : ℕ) (participant : String) (signature : Signature)
  | signingCompleted (sessionId : ℕ) (completedAt : ℕ) (chainName : ChainName)
  | publicKeyRegistered (verifier : String) (publicKey : PublicKey)
  | callerAuthorized (contractAddress : String) (chainName : ChainName)
  | callerUnauthorized (contractAddress : String) (chainName : ChainName)
  | signingEnabled
  | signingDisabled

/-- The messages the contract sends: `RecordParticipation` to the rewards
contract, and the call to a session's signature verifier. -/
inductive CosmosMsg where
  | recordParticipation (rewardsContract : String) (chainName : ChainName) (eventId : String)
      (verifierAddress : String)
  | verifySignature (sigVerifier : String) (signature message pubKey : ByteArray) (signer : String)
      (sessionId : ℕ)

/-- `Response`: messages, events, and the data set by `start_signing_session`. -/
structure Response where
  messages : List CosmosMsg
  events : List Event
  data : Option ℕ

/-- `Response::default()`. -/
def Response.empty : Response := ⟨[], [], none⟩

/-- `Response::add_message`. -/
def Response.addMessage (r : Response) (msg : CosmosMsg) : Response :=
  { r with messages := r.messages ++ [msg] }

/-- `ExecuteMsg`. -/
inductive ExecuteMsg where
  | startSigningSession (verifierSetId : String) (msg : ByteArray) (chainName : ChainName)
      (sigVerifier : Option String)
  | submitSignature (sessionId : ℕ) (signature : ByteArray)
  | registerVerifierSet (verifierSet : VerifierSet)
  | registerPublicKey (publicKey : PublicKey) (signedSenderAddress : ByteArray)
  | authorizeCallers (contracts : List (String × ChainName))
  | unauthorizeCallers (contracts : List String)
  | disableSigning
  | enableSigning
  | updateSigningParameters (blockExpiry : Option {n : ℕ // 0 < n})

/-- A call: the block height, the sender, the contract that relays the message
for the sender (`ExecuteMsgFromProxy::Relay`), and the message. -/
structure Call where
  blockHeight : ℕ
  sender : String
  relayer : Option String
  msg : ExecuteMsg

/-! ## Signing -/

/-- `signers_weight`: the weight of every signer of the session, looked up by its
key in the verifier set; a signer that is not a key is a panic, and so is a sum
above `Uint128::MAX`. -/
def signersWeight (signatures : List (String × Signature)) (verifierSet : VerifierSet) :
    Except Failure ℕ :=
  signatures.foldlM (fun acc e =>
    match verifierSet.signers.lookup e.1 with
    | none => .error (.panic "violated invariant: signature submitted by non-participant")
    | some signer =>
        if acc + signer.weight ≤ uint128Max then .ok (acc + signer.weight)
        else .error (.panic "attempt to add with overflow")) 0

/-- `SigningSession::recalculate_session_state`: a pending session whose signers
weigh at least the threshold completes at this height. -/
def SigningSession.recalculateSessionState (session : SigningSession)
    (signatures : List (String × Signature)) (verifierSet : VerifierSet) (blockHeight : ℕ) :
    Except Failure SigningSession := do
  let weight ← signersWeight signatures verifierSet
  if session.state = .pending ∧ verifierSet.threshold ≤ weight then
    pure { session with state := .completed blockHeight }
  else pure session

/-- `validate_session_signature`: the session must not have expired; a session
with a signature verifier hands the check to it, any other checks the signature
itself. -/
def validateSessionSignature (ext : Externals) (session : SigningSession) (signer : String)
    (signature : Signature) (pubKey : PublicKey) (blockHeight : ℕ) :
    Except ContractError (Option CosmosMsg) :=
  if session.expiresAt < blockHeight then .error (.signingSessionClosed session.id)
  else
    match session.sigVerifier with
    | some sigVerifier =>
        .ok (some (.verifySignature sigVerifier signature.asRef session.msg pubKey.asRef signer
          session.id))
    | none =>
        match signature.verify ext session.msg pubKey with
        | .ok () => .ok none
        | .error _ => .error (.invalidSignature session.id signer)

/-- `signing_response`: participation is recorded with the rewards contract, and
`SigningCompleted` is emitted when this submission completed the session. -/
def signingResponse (session : SigningSession) (stateChanged : Bool) (signer : String)
    (signature : Signature) (rewardsContract : String) : Response :=
  let completed : List Event :=
    match session.state with
    | .completed completedAt =>
        if stateChanged then [.signingCompleted session.id completedAt session.chainName] else []
    | .pending => []
  ⟨[.recordParticipation rewardsContract session.chainName (toString session.id) signer],
    .signatureSubmitted session.id signer signature :: completed, none⟩

/-! ## Handlers -/

/-- `start_signing_session`. -/
def startSigningSession (s : State) (blockHeight : ℕ) (verifierSetId : String)
    (msg : ByteArray) (chainName : ChainName) (sigVerifier : Option String) :
    Except Failure (State × Response) := do
  ensure s.killswitch.isContractActive (.error .signingDisabled)
  let verifierSet ← okOr (s.verifierSets.lookup verifierSetId)
    (.error (.noActiveVerifierSetFound verifierSetId))
  let sessionId ← okOr (checkedAdd uint64Max s.signingSessionCounter 1) (.error .overflow)
  let expiresAt ← okOr (checkedAdd uint64Max blockHeight s.config.blockExpiry.val)
    (.error .overflow)
  let signingSession :=
    SigningSession.new sessionId verifierSetId chainName msg expiresAt sigVerifier
  return ({ s with
      signingSessionCounter := sessionId
      signingSessions := s.signingSessions.insert sessionId signingSession },
    ⟨[], [.signingStarted sessionId verifierSetId verifierSet.pubKeys msg chainName expiresAt],
      some sessionId⟩)

/-- `submit_signature`. -/
def submitSignature (ext : Externals) (s : State) (blockHeight : ℕ) (sender : String)
    (sessionId : ℕ) (signature : ByteArray) : Except Failure (State × Response) := do
  ensure s.killswitch.isContractActive (.error .signingDisabled)
  let session ← okOr (s.signingSessions.lookup sessionId)
    (.error (.signingSessionNotFound sessionId))
  let verifierSet ← okOr (s.verifierSets.lookup session.verifierSetId) (.error .notFound)
  let signer ← okOr (verifierSet.signers.lookup sender)
    (.error (.notAParticipant sessionId sender))
  let signature ← (Signature.tryFrom signer.pubKey.keyType signature).mapError .error
  let sigVerifierMsg ←
    (validateSessionSignature ext session sender signature signer.pubKey blockHeight).mapError
      .error
  let signatures ← (saveSignature s.signatures sessionId signature sender).mapError .error
  let session' ← session.recalculateSessionState (loadSessionSignatures signatures sessionId)
    verifierSet blockHeight
  let response := signingResponse session' (decide (session.state ≠ session'.state)) sender
    signature s.config.rewardsContract
  return ({ s with
      signatures := signatures
      signingSessions := s.signingSessions.insert session'.id session' },
    sigVerifierMsg.elim response response.addMessage)

/-- `register_verifier_set`: the set is saved under its id, over whatever was there. -/
def registerVerifierSet (ext : Externals) (s : State) (verifierSet : VerifierSet) :
    State × Response :=
  ({ s with verifierSets := s.verifierSets.insert (verifierSet.id ext.keccak256) verifierSet },
    Response.empty)

/-- `register_pub_key`: the sender proves it holds the key by signing the
Keccak-256 of its own address. -/
def registerPubKey (ext : Externals) (s : State) (sender : String) (publicKey : PublicKey)
    (signedSenderAddress : ByteArray) : Except Failure (State × Response) := do
  let signedSenderAddress ←
    (Signature.tryFrom publicKey.keyType signedSenderAddress).mapError .error
  let addressHash := ext.keccak256 sender.toUTF8
  (signedSenderAddress.verify ext ⟨addressHash.toArray⟩ publicKey).mapError
    fun _ => .error .invalidPublicKeyRegistrationSignature
  let pubKeys ← (savePubKey s.pubKeys sender publicKey).mapError .error
  return ({ s with pubKeys := pubKeys }, ⟨[], [.publicKeyRegistered sender publicKey], none⟩)

/-- `authorize_callers`: each prover is saved for its chain, in the order given. -/
def authorizeCallers (s : State) (contracts : List (String × ChainName)) :
    Except Failure (State × Response) := do
  let proverChain ← (contracts.foldlM (fun proverChain e => saveProver proverChain e.1 e.2)
    s.proverChain).mapError .error
  return ({ s with proverChain := proverChain },
    ⟨[], contracts.map fun e => .callerAuthorized e.1 e.2, none⟩)

/-- `unauthorize_callers`: each caller that is a prover is removed, with an event. -/
def unauthorizeCallers (s : State) (callers : List String) : State × Response :=
  let removed := callers.foldl (fun acc contract =>
      match acc.1.lookup contract with
      | some chain => (acc.1.erase contract, acc.2 ++ [(contract, chain)])
      | none => acc)
    (s.proverChain, ([] : List (String × ChainName)))
  ({ s with proverChain := removed.1 },
    ⟨[], removed.2.map fun e => .callerUnauthorized e.1 e.2, none⟩)

/-- `disable_signing`: the killswitch is engaged. -/
def disableSigning (s : State) : State × Response :=
  let (killswitch, changed) := s.killswitch.engage
  ({ s with killswitch := killswitch }, ⟨[], if changed then [.signingDisabled] else [], none⟩)

/-- `enable_signing`: the killswitch is disengaged. -/
def enableSigning (s : State) : State × Response :=
  let (killswitch, changed) := s.killswitch.disengage
  ({ s with killswitch := killswitch }, ⟨[], if changed then [.signingEnabled] else [], none⟩)

/-- `update_signing_parameters`: a given block expiry replaces the configured one. -/
def updateSigningParameters (s : State) (blockExpiry : Option {n : ℕ // 0 < n}) :
    State × Response :=
  ({ s with config := { s.config with blockExpiry := blockExpiry.getD s.config.blockExpiry } },
    Response.empty)

/-! ## Permissions and dispatch -/

/-- `ExecuteMsg::ensure_permissions`: `StartSigningSession` is for the prover of
its chain only; `SubmitSignature`, `RegisterVerifierSet` and `RegisterPublicKey`
are for anyone; the others need the governance or an elevated role. -/
def ExecuteMsg.ensurePermissions (msg : ExecuteMsg) (s : State) (sender : String) :
    Except PermissionError Unit :=
  match msg with
  | .startSigningSession _ _ chainName _ =>
      if callerAuthorized s.proverChain sender chainName then .ok ()
      else .error (.specificPermissionDenied ["authorized"])
  | .submitSignature .. | .registerVerifierSet _ | .registerPublicKey .. =>
      ensureGeneral Permission.any s.admin s.governance sender
  | .authorizeCallers _ | .updateSigningParameters _ =>
      ensureGeneral {.governance} s.admin s.governance sender
  | .unauthorizeCallers _ | .disableSigning | .enableSigning =>
      ensureGeneral Permission.elevated s.admin s.governance sender

/-- `verify_external_executor` with `validate_external_contract`: only the
coordinator relays, and only `AuthorizeCallers`. -/
def ExecuteMsg.verifyExternalExecutor (msg : ExecuteMsg) (s : State) (relayer : String) :
    Except PermissionError Unit :=
  match msg with
  | .authorizeCallers _ => if relayer = s.config.coordinator then .ok () else .error .unauthorized
  | _ => .error .unauthorized

/-- `address::validate_cosmwasm_address` on each address, up to the first invalid one. -/
def validateAll (ext : Externals) (addresses : List String) : Except Failure Unit :=
  match addresses.find? (fun a => !ext.isValidAddress a) with
  | some a => .error (.error (.invalidAddress a))
  | none => .ok ()

/-- The addresses of a message that `execute` validates before its handler. -/
def ExecuteMsg.validateAddresses (ext : Externals) : ExecuteMsg → Except Failure Unit
  | .startSigningSession _ _ _ (some sigVerifier) => validateAll ext [sigVerifier]
  | .authorizeCallers contracts => validateAll ext (contracts.map Prod.fst)
  | .unauthorizeCallers contracts => validateAll ext contracts
  | _ => .ok ()

/-- The handler of a message, once its sender is admitted. -/
def dispatch (ext : Externals) (s : State) (blockHeight : ℕ) (sender : String) :
    ExecuteMsg → Except Failure (State × Response)
  | .startSigningSession verifierSetId msg chainName sigVerifier =>
      startSigningSession s blockHeight verifierSetId msg chainName sigVerifier
  | .submitSignature sessionId signature =>
      submitSignature ext s blockHeight sender sessionId signature
  | .registerVerifierSet verifierSet => .ok (registerVerifierSet ext s verifierSet)
  | .registerPublicKey publicKey signedSenderAddress =>
      registerPubKey ext s sender publicKey signedSenderAddress
  | .authorizeCallers contracts => authorizeCallers s contracts
  | .unauthorizeCallers contracts => .ok (unauthorizeCallers s contracts)
  | .disableSigning => .ok (disableSigning s)
  | .enableSigning => .ok (enableSigning s)
  | .updateSigningParameters blockExpiry => .ok (updateSigningParameters s blockExpiry)

/-- `execute`: the relay check, the permission check, the validation of the
message's addresses, and the handler. -/
def execute (ext : Externals) (s : State) (c : Call) : Except Failure (State × Response) := do
  match c.relayer with
  | some relayer => (c.msg.verifyExternalExecutor s relayer).mapError (.error ∘ .permission)
  | none => pure ()
  (c.msg.ensurePermissions s c.sender).mapError (.error ∘ .permission)
  c.msg.validateAddresses ext
  dispatch ext s c.blockHeight c.sender c.msg

/-! ## Queries -/

-- the query's type is `multisig::Multisig`, in the namespace of the contract
set_option linter.dupNamespace false

/-- `Multisig`: a session's state with its verifier set and signatures. -/
structure Multisig where
  state : MultisigState
  verifierSet : VerifierSet
  signatures : List (String × Signature)

/-- `query::multisig`. -/
def multisig (s : State) (sessionId : ℕ) : Except Failure Multisig := do
  let session ← okOr (s.signingSessions.lookup sessionId) (.error .notFound)
  let verifierSet ← okOr (s.verifierSets.lookup session.verifierSetId) (.error .notFound)
  return ⟨session.state, verifierSet, loadSessionSignatures s.signatures session.id⟩

/-- `Multisig::signer`: the signer under a key; a missing key is a panic. -/
def Multisig.signer (m : Multisig) (address : String) : Except Failure Signer :=
  okOr (m.verifierSet.signers.lookup address) (.panic "signer not found in verifier set")

/-- The `scan` of `optimize_signatures`: signers are taken while their running
weight is below the threshold. -/
def takeUntilThreshold (threshold : ℕ) : ℕ → List (Signer × Signature) → List (Signer × Signature)
  | _, [] => []
  | acc, e :: rest =>
      if acc < threshold then e :: takeUntilThreshold threshold (saturatingAdd acc e.1.weight) rest
      else []

/-- `Multisig::optimize_signatures`: the signers, heaviest first (a stable sort),
until their weight meets the threshold. Every signer is looked up, by the sort
or by the scan, so a signature under a key that is not in the verifier set is a
panic. -/
def Multisig.optimizeSignatures (m : Multisig) : Except Failure (List (Signer × Signature)) := do
  let signers ← m.signatures.mapM fun e => do
    let signer ← m.signer e.1
    pure (signer, e.2)
  let sorted := signers.mergeSort fun a b => decide (b.1.weight ≤ a.1.weight)
  return takeUntilThreshold m.verifierSet.threshold 0 sorted

end Amplifier.Multisig
