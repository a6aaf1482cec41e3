import Amplifier.Multisig.VerifierSet
import Amplifier.WasmStd.Access
import Amplifier.WasmStd.Threshold

/-!
# Amplifier.Multisig.State — storage of the multisig contract

The multisig contract collects the signatures of a verifier set on the messages
its provers ask it to sign. Its storage (`state.rs`):

* `CONFIG` — the rewards contract, the block expiry of a session and the
  coordinator;
* `SIGNING_SESSION_COUNTER` and `SIGNING_SESSIONS` — the sessions by id, each
  with the id of the verifier set that signs, the message and its state;
* `VERIFIER_SETS` — the registered verifier sets by id, `VerifierSet::id`;
* `SIGNATURES` — the signature each signer submitted in each session, keyed by
  the session id and the signer's address;
* `pub_keys` — the registered public key of each verifier for each key type,
  unique across all verifiers (`savePubKey`);
* `PROVER_CHAIN` — the provers allowed to start sessions, each for one chain,
  and at most one prover per chain (`saveProver`).

A signature is the bytes the sender submitted, tagged with its scheme by their
length (`Signature.tryFrom`). Whether it verifies is decided by
`cosmwasm_crypto`, which the model takes as a parameter (`Externals.verify`),
as it takes Keccak-256 and the address check of the chain's API.
-/

namespace Amplifier.Multisig

open WasmStd RouterApi

/-- `ContractError`, with the errors of the packages it wraps that the handlers
can return. -/
inductive ContractError where
  | overflow
  | storage
  | notFound
  | noActiveVerifierSetFound (verifierSetId : String)
  | duplicateSignature (sessionId : ℕ) (signer : String)
  | notAParticipant (sessionId : ℕ) (signer : String)
  | signatureVerificationFailed (reason : String)
  | invalidSignature (sessionId : ℕ) (signer : String)
  | invalidPublicKeyRegistrationSignature
  | duplicatePublicKey
  | invalidSignatureFormat (reason : String)
  | signingSessionClosed (sessionId : ℕ)
  | signingSessionNotFound (sessionId : ℕ)
  | keyTypeMismatch
  | signingDisabled
  | uniqueConstraintViolation
  | permission (err : PermissionError)
  | invalidAddress (address : String)

/-- How a handler or a query fails: with an error, or with a panic and its message. -/
inductive Failure where
  | error (err : ContractError)
  | panic (msg : String)

/-- `KeyType`'s `Display`. -/
def KeyType.toString : KeyType → String
  | .ecdsa => "Ecdsa"
  | .ed25519 => "Ed25519"

/-- `Signature`: the submitted bytes, tagged by scheme. -/
inductive Signature where
  | ecdsa (sig : ByteArray)
  | ecdsaRecoverable (sig : ByteArray)
  | ed25519 (sig : ByteArray)
  deriving DecidableEq

namespace Signature

/-- `KeyTyped::key_type` of a signature. -/
def keyType : Signature → KeyType
  | .ecdsa _ | .ecdsaRecoverable _ => .ecdsa
  | .ed25519 _ => .ed25519

/-- `AsRef<[u8]>` of a signature. -/
def asRef : Signature → ByteArray
  | .ecdsa sig | .ecdsaRecoverable sig | .ed25519 sig => sig

/-- `Signature::try_from((KeyType, HexBinary))`: the scheme by the key type and the
length, 65 or 64 bytes for ECDSA and 64 for Ed25519. -/
def tryFrom (keyType : KeyType) (sig : ByteArray) : Except ContractError Signature :=
  match keyType, sig.size with
  | .ecdsa, 65 => .ok (.ecdsaRecoverable sig)
  | .ecdsa, 64 => .ok (.ecdsa sig)
  | .ed25519, 64 => .ok (.ed25519 sig)
  | _, _ => .error (.invalidSignatureFormat ("could not find a match for key type " ++
      keyType.toString ++ " and signature length " ++ toString sig.size))

end Signature

/-- What the contract takes from outside the repository. -/
structure Externals where
  /-- Keccak-256, for `VerifierSet::hash` and the registration of public keys. -/
  keccak256 : ByteArray → Hash
  /-- `ecdsa_verify` and `ed25519_verify` (of `cosmwasm_crypto`), given the key type,
  the message, the signature and the public key; an error counts as a failure. -/
  verify : KeyType → ByteArray → ByteArray → ByteArray → Bool
  /-- `address::validate_cosmwasm_address`. -/
  isValidAddress : String → Bool

/-- `Signature::verify`: the scheme must be the key's, and the signature must verify. -/
def Signature.verify (ext : Externals) (signature : Signature) (msg : ByteArray)
    (pubKey : PublicKey) : Except ContractError Unit :=
  if signature.keyType ≠ pubKey.keyType then .error .keyTypeMismatch
  else if ext.verify signature.keyType msg signature.asRef pubKey.asRef then .ok ()
  else .error (.signatureVerificationFailed "unable to verify signature")

/-- `MultisigState`. -/
inductive MultisigState where
  | pending
  | completed (completedAt : ℕ)
  deriving DecidableEq

/-- `SigningSession`. -/
structure SigningSession where
  id : ℕ
  verifierSetId : String
  chainName : ChainName
  msg : ByteArray
  state : MultisigState
  expiresAt : ℕ
  sigVerifier : Option String
  deriving DecidableEq

/-- `SigningSession::new`: a pending session. -/
def SigningSession.new (sessionId : ℕ) (verifierSetId : String) (chainName : ChainName)
    (msg : ByteArray) (expiresAt : ℕ) (sigVerifier : Option String) : SigningSession :=
  ⟨sessionId, verifierSetId, chainName, msg, .pending, expiresAt, sigVerifier⟩

/-- `Config`. -/
structure Config where
  rewardsContract : String
  blockExpiry : {n : ℕ // 0 < n}
  coordinator : String

/-- The contract's storage, with the admin and governance addresses of
`permission_control` and the state of the killswitch. -/
structure State where
  config : Config
  admin : String
  governance : String
  killswitch : Killswitch
  signingSessionCounter : ℕ
  signingSessions : Map ℕ SigningSession
  verifierSets : Map String VerifierSet
  signatures : Map (ℕ × String) Signature
  pubKeys : Map (String × KeyType) ByteArray
  proverChain : Map String ChainName

/-- `instantiate`: signing enabled, no session, nothing registered. -/
def instantiate (admin governance : String) (config : Config) : State where
  config := config
  admin := admin
  governance := governance
  killswitch := .disengaged
  signingSessionCounter := 0
  signingSessions := ∅
  verifierSets := ∅
  signatures := ∅
  pubKeys := ∅
  proverChain := ∅

/-! ## Storage helpers -/

/-- `load_session_signatures`: the signatures of a session by signer. -/
def loadSessionSignatures (signatures : Map (ℕ × String) Signature) (sessionId : ℕ) :
    List (String × Signature) :=
  signatures.entries.filterMap fun e => if e.1.1 = sessionId then some (e.1.2, e.2) else none

/-- `save_signature`: a signer signs a session once. -/
def saveSignature (signatures : Map (ℕ × String) Signature) (sessionId : ℕ)
    (signature : Signature) (signer : String) : Except ContractError (Map (ℕ × String) Signature) :=
  match signatures.lookup (sessionId, signer) with
  | some _ => .error (.duplicateSignature sessionId signer)
  | none => .ok (signatures.insert (sessionId, signer) signature)

/-- `save_pub_key`: the key's bytes must not be registered for anyone yet. -/
def savePubKey (pubKeys : Map (String × KeyType) ByteArray) (signer : String)
    (pubKey : PublicKey) : Except ContractError (Map (String × KeyType) ByteArray) :=
  if pubKeys.entries.any (fun e => e.2 = pubKey.asRef) then .error .duplicatePublicKey
  else .ok (pubKeys.insert (signer, pubKey.keyType) pubKey.asRef)

/-- `save_prover`: the unique index by chain rejects a second prover for a chain. -/
def saveProver (proverChain : Map String ChainName) (contractAddress : String)
    (chainName : ChainName) : Except ContractError (Map String ChainName) :=
  if proverChain.entries.any (fun e => e.1 ≠ contractAddress ∧ e.2 = chainName) then
    .error .uniqueConstraintViolation
  else .ok (proverChain.insert contractAddress chainName)

/-- `caller_authorized`: the address is the prover of the chain. -/
def callerAuthorized (proverChain : Map String ChainName) (address : String)
    (chainName : ChainName) : Bool :=
  proverChain.lookup address = some chainName

end Amplifier.Multisig
