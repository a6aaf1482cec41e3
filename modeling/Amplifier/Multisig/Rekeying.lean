import Amplifier.Multisig.Spec

/-!
# Amplifier.Multisig.Rekeying — one id, two verifier sets

`VERIFIER_SETS` is keyed by `VerifierSet::id`, which never reads the keys of the
signer map (`VerifierSet.id_eq_of_values`), and `RegisterVerifierSet` is open to
every sender and saves over whatever the id held (`execute_registerVerifierSet`).
So anyone can replace the verifier set of a running session by a copy whose
signers sit under other keys, and `submit_signature` and `signers_weight` look
signers up by key in the replaced set:

* a signer's key can vanish: a signature already stored under it makes every
  later submission to the session panic in `signers_weight`, and the prover's
  `optimize_signatures` panic in `Multisig::signer`
  (`rekeyed_registration_breaks_signing`);
* a key can move to another signer: one signer's signature, replayed under two
  keys, completes a session that needs two signers, and the proof handed to the
  prover pairs the other signer with a signature that is not its own
  (`replayed_signature_completes_session`).

Both runs start the same way (`run_open_session`): the governance authorizes a
prover for a chain, anyone registers a verifier set, and the prover opens a
session on it. Keccak-256, the signature check and the address check stay
parameters throughout.
-/

namespace Amplifier.Multisig

open WasmStd RouterApi

/-- The chain of the examples. -/
def exampleChain : ChainName := ⟨"avalanche", by decide, by decide⟩

/-- The configuration of the examples: sessions expire after twenty blocks. -/
def exampleSigningConfig : Config := ⟨"rewards", ⟨20, by decide⟩, "coordinator"⟩

/-- The message the sessions of the examples sign. -/
def exampleSigningMessage : ByteArray := ⟨Array.replicate 32 0xab⟩

/-- The storage after the opening of the examples: "prover" authorized for the
example chain, `v` registered under its id, and session 1 on it, pending until
height 121. -/
def sessionOpened (ext : Externals) (v : VerifierSet) : State :=
  { instantiate "admin" "governance" exampleSigningConfig with
    signingSessionCounter := 1
    signingSessions := AList.singleton 1
      (SigningSession.new 1 (v.id ext.keccak256) exampleChain exampleSigningMessage 121 none)
    verifierSets := AList.singleton (v.id ext.keccak256) v
    proverChain := AList.singleton "prover" exampleChain }

/-- The opening of the examples: the governance authorizes "prover" for the example
chain, anyone registers `v`, and "prover" opens session 1 on it at height 101. -/
theorem run_open_session (ext : Externals) (v : VerifierSet)
    (hprover : ext.isValidAddress "prover" = true) :
    ∃ rs, run (execute ext) (instantiate "admin" "governance" exampleSigningConfig)
      [⟨100, "governance", none, .authorizeCallers [("prover", exampleChain)]⟩,
       ⟨100, "relayer", none, .registerVerifierSet v⟩,
       ⟨101, "prover", none, .startSigningSession (v.id ext.keccak256) exampleSigningMessage
          exampleChain none⟩] = (sessionOpened ext v, rs) ∧ rs.length = 3 := by
  have hexpiry : exampleSigningConfig.blockExpiry.val = 20 := rfl
  set s₀ := instantiate "admin" "governance" exampleSigningConfig
  set s₁ : State := { s₀ with proverChain := AList.singleton "prover" exampleChain }
  set s₂ := (registerVerifierSet ext s₁ v).1
  have h₁ : execute ext s₀ ⟨100, "governance", none, .authorizeCallers [("prover", exampleChain)]⟩ =
      .ok (s₁, ⟨[], [.callerAuthorized "prover" exampleChain], none⟩) := by
    have hgov : s₀.governance = "governance" := rfl
    rw [execute_authorizeCallers hgov (by simpa using hprover)]
    simp [authorizeCallers, saveProver, s₀, s₁, instantiate, bind, Except.bind, Except.mapError,
      pure, Except.pure]
  have h₂ : execute ext s₁ ⟨100, "relayer", none, .registerVerifierSet v⟩ = .ok (s₂, .empty) :=
    execute_registerVerifierSet ext s₁ 100 "relayer" v
  have h₃ : execute ext s₂ ⟨101, "prover", none, .startSigningSession (v.id ext.keccak256)
      exampleSigningMessage exampleChain none⟩ = .ok (sessionOpened ext v,
        ⟨[], [.signingStarted 1 (v.id ext.keccak256) v.pubKeys exampleSigningMessage exampleChain
          121], some 1⟩) := by
    have hauth : s₂.proverChain.lookup "prover" = some exampleChain := by
      simp [s₂, s₁, registerVerifierSet, AList.lookup, AList.singleton_entries]
    rw [execute_startSigningSession hauth]
    apply startSigningSession_eq_ok.mpr
    refine ⟨rfl, ⟨v, ?_, rfl⟩, ?_, ?_, ?_⟩
    · simp [s₂, s₁, registerVerifierSet]
    · simp [s₂, s₁, s₀, registerVerifierSet, instantiate, uint64Max]
    · simp [s₂, s₁, s₀, registerVerifierSet, instantiate, hexpiry, uint64Max]
    · simp [sessionOpened, s₂, s₁, s₀, registerVerifierSet, instantiate, hexpiry]
  rw [run_cons_ok (execute ext) _ h₁, run_cons_ok (execute ext) _ h₂,
    run_cons_ok (execute ext) _ h₃]
  exact ⟨_, rfl, rfl⟩

/-- Externals for runs on fixed inputs: a constant hash, every address valid, and
one signature that verifies, under one key only. -/
def signingExternals (signature : ByteArray) (key : PublicKey) : Externals :=
  ⟨fun _ => Vector.replicate 32 0, fun _ _ sig k => decide (sig = signature ∧ k = key.asRef),
    fun _ => true⟩

/-- The signature of the examples. -/
def exampleSignature : ByteArray := ⟨Array.replicate 64 0x5a⟩

/-! ## A key that vanishes -/

/-- With its signers under other keys, the verifier set of a session that one of
its signers has signed replaces the registered one under the same id; from then
on every submission to the session panics in `signers_weight`, and so does the
proof the prover reads. -/
theorem rekeyed_registration_breaks_signing (ext : Externals) (signature : ByteArray)
    (hprover : ext.isValidAddress "prover" = true) (hsize : signature.size = 64)
    (hverify :
      ext.verify .ecdsa exampleSigningMessage signature exampleSigner.pubKey.asRef = true) :
    ∃ s₃ s₅ rs₃ rs₅,
      run (execute ext) (instantiate "admin" "governance" exampleSigningConfig)
        [⟨100, "governance", none, .authorizeCallers [("prover", exampleChain)]⟩,
         ⟨100, "relayer", none, .registerVerifierSet exampleVerifierSet⟩,
         ⟨101, "prover", none, .startSigningSession (exampleVerifierSet.id ext.keccak256)
            exampleSigningMessage exampleChain none⟩] = (s₃, rs₃) ∧
      run (execute ext) s₃
        [⟨102, exampleSigner.address, none, .submitSignature 1 signature⟩,
         ⟨103, "relayer", none, .registerVerifierSet rekeyedVerifierSet⟩] = (s₅, rs₅) ∧
      rs₃.length = 3 ∧ rs₅.length = 2 ∧
      s₃.verifierSets.lookup (exampleVerifierSet.id ext.keccak256) = some exampleVerifierSet ∧
      s₅.verifierSets.lookup (exampleVerifierSet.id ext.keccak256) = some rekeyedVerifierSet ∧
      (∃ signer, rekeyedVerifierSet.signers.lookup "a" = some signer ∧ signer.address ≠ "a") ∧
      s₅.signatures.lookup (1, exampleSigner.address) = some (.ecdsa signature) ∧
      rekeyedVerifierSet.includes exampleSigner.address = false ∧
      execute ext s₅ ⟨104, "a", none, .submitSignature 1 signature⟩ =
        .error (.panic "violated invariant: signature submitted by non-participant") ∧
      (multisig s₅ 1 >>= Multisig.optimizeSignatures) =
        .error (.panic "signer not found in verifier set") := by
  -- the copy has the id of the original, whatever Keccak-256 is
  have hid : rekeyedVerifierSet.id ext.keccak256 = exampleVerifierSet.id ext.keccak256 :=
    VerifierSet.id_eq_of_values ext.keccak256 rfl rfl rfl
  have hrewards : exampleSigningConfig.rewardsContract = "rewards" := rfl
  have hkey : exampleSigner.pubKey.keyType = .ecdsa := rfl
  have hweight : exampleSigner.weight = 1 := rfl
  have haddr : exampleSigner.address ≠ "a" := by decide
  have hrekeyed : rekeyedVerifierSet.signers.lookup "a" = some exampleSigner := by
    simp [rekeyedVerifierSet]
  have hmissing : rekeyedVerifierSet.signers.lookup exampleSigner.address = none := by
    simp [rekeyedVerifierSet, haddr]
  obtain ⟨rs₃, hrun₃, hlen₃⟩ := run_open_session ext exampleVerifierSet hprover
  set id := exampleVerifierSet.id ext.keccak256
  set s₃ := sessionOpened ext exampleVerifierSet
  set session : SigningSession :=
    SigningSession.new 1 id exampleChain exampleSigningMessage 121 none
  set s₄ : State := { s₃ with
    signatures := s₃.signatures.insert (1, exampleSigner.address) (.ecdsa signature)
    signingSessions := s₃.signingSessions.insert 1 { session with state := .completed 102 } }
  set s₅ := (registerVerifierSet ext s₄ rekeyedVerifierSet).1
  -- the signer signs, and its weight alone meets the threshold
  have h₄ : execute ext s₃ ⟨102, exampleSigner.address, none, .submitSignature 1 signature⟩ =
      .ok (s₄, ⟨[.recordParticipation "rewards" exampleChain "1" exampleSigner.address],
        [.signatureSubmitted 1 exampleSigner.address (.ecdsa signature),
          .signingCompleted 1 102 exampleChain], none⟩) := by
    rw [execute_submitSignature]
    apply submitSignature_eq_ok.mpr
    refine ⟨rfl, session, exampleVerifierSet, exampleSigner, .ecdsa signature, none,
      s₃.signatures.insert (1, exampleSigner.address) (.ecdsa signature),
      { session with state := .completed 102 }, ?_, ?_, rfl, ?_, ?_, ?_, ?_, rfl, ?_⟩
    · simp [s₃, sessionOpened, session, id, AList.lookup, AList.singleton_entries]
    · simp [s₃, sessionOpened, session, SigningSession.new, id, AList.lookup,
        AList.singleton_entries]
    · simp [Signature.tryFrom, hsize, hkey]
    · simp [validateSessionSignature, session, SigningSession.new, Signature.verify, hverify,
        Signature.keyType, hkey, Signature.asRef]
    · simp [saveSignature, s₃, sessionOpened, instantiate]
    · simp [SigningSession.recalculateSessionState, signersWeight, loadSessionSignatures, s₃,
        sessionOpened, instantiate, session, SigningSession.new, hweight, exampleVerifierSet, bind,
        Except.bind, pure, Except.pure, uint128Max]
    · have hone : toString 1 = "1" := by decide
      simp [signingResponse, session, SigningSession.new, hrewards, hone, s₃, sessionOpened,
        instantiate]
  -- anyone registers the copy over the original
  have h₅ : execute ext s₄ ⟨103, "relayer", none, .registerVerifierSet rekeyedVerifierSet⟩ =
      .ok (s₅, .empty) :=
    execute_registerVerifierSet ext s₄ 103 "relayer" rekeyedVerifierSet
  have hstored : s₅.verifierSets.lookup id = some rekeyedVerifierSet := by
    simp [s₅, registerVerifierSet, hid]
  refine ⟨s₃, s₅, rs₃, _, hrun₃,
    by rw [run_cons_ok (execute ext) _ h₄, run_cons_ok (execute ext) _ h₅]; rfl, hlen₃, rfl, ?_,
    hstored, ⟨exampleSigner, hrekeyed, by decide⟩, ?_, by decide, ?_, ?_⟩
  · simp [s₃, sessionOpened, id, AList.lookup, AList.singleton_entries]
  · simp [s₅, registerVerifierSet, s₄]
  -- the key that signed is gone: the sum over the session's signers panics
  · rw [execute_submitSignature]
    simp [Ne.symm haddr, hmissing, List.dlookup, submitSignature, s₅, registerVerifierSet, s₄, s₃,
      sessionOpened, instantiate, hrekeyed, session, SigningSession.new, Signature.tryFrom, hsize,
      hkey, validateSessionSignature, Signature.verify, hverify, Signature.keyType,
      Signature.asRef, saveSignature, SigningSession.recalculateSessionState, signersWeight,
      loadSessionSignatures, hweight, bind, Except.bind, Except.mapError, uint128Max, id, ensure,
      okOr, Killswitch.isContractActive, hid, AList.lookup,
      AList.singleton_entries]
  -- and so does the lookup of the signer in the proof
  · simp [multisig, Multisig.optimizeSignatures, Multisig.signer, okOr, s₅, registerVerifierSet, s₄,
      s₃, sessionOpened, instantiate, hid, hmissing, loadSessionSignatures, session,
      SigningSession.new, AList.lookup, AList.singleton_entries, bind, Except.bind, pure,
      Except.pure]

theorem rekeyed_registration_breaks_signing_example :
    (signingExternals exampleSignature exampleSigner.pubKey).isValidAddress "prover" = true ∧
    exampleSignature.size = 64 ∧
    (signingExternals exampleSignature exampleSigner.pubKey).verify .ecdsa exampleSigningMessage
      exampleSignature exampleSigner.pubKey.asRef = true ∧
    ∃ s₃ s₅ rs₃ rs₅,
      run (execute (signingExternals exampleSignature exampleSigner.pubKey))
        (instantiate "admin" "governance" exampleSigningConfig)
        [⟨100, "governance", none, .authorizeCallers [("prover", exampleChain)]⟩,
         ⟨100, "relayer", none, .registerVerifierSet exampleVerifierSet⟩,
         ⟨101, "prover", none, .startSigningSession
            (exampleVerifierSet.id
              (signingExternals exampleSignature exampleSigner.pubKey).keccak256)
            exampleSigningMessage exampleChain none⟩] = (s₃, rs₃) ∧
      run (execute (signingExternals exampleSignature exampleSigner.pubKey)) s₃
        [⟨102, exampleSigner.address, none, .submitSignature 1 exampleSignature⟩,
         ⟨103, "relayer", none, .registerVerifierSet rekeyedVerifierSet⟩] = (s₅, rs₅) ∧
      rs₃.length = 3 ∧ rs₅.length = 2 ∧
      s₃.verifierSets.lookup
          (exampleVerifierSet.id
            (signingExternals exampleSignature exampleSigner.pubKey).keccak256) =
        some exampleVerifierSet ∧
      s₅.verifierSets.lookup
          (exampleVerifierSet.id
            (signingExternals exampleSignature exampleSigner.pubKey).keccak256) =
        some rekeyedVerifierSet ∧
      (∃ signer, rekeyedVerifierSet.signers.lookup "a" = some signer ∧ signer.address ≠ "a") ∧
      s₅.signatures.lookup (1, exampleSigner.address) = some (.ecdsa exampleSignature) ∧
      rekeyedVerifierSet.includes exampleSigner.address = false ∧
      execute (signingExternals exampleSignature exampleSigner.pubKey) s₅
          ⟨104, "a", none, .submitSignature 1 exampleSignature⟩ =
        .error (.panic "violated invariant: signature submitted by non-participant") ∧
      (multisig s₅ 1 >>= Multisig.optimizeSignatures) =
        .error (.panic "signer not found in verifier set") :=
  ⟨rfl, rfl, by decide,
    rekeyed_registration_breaks_signing (signingExternals exampleSignature exampleSigner.pubKey)
      exampleSignature rfl rfl (by decide)⟩

/-! ## A key that moves -/

/-- The first verifier of a pair: the generator of secp256k1 as its key. -/
def firstSigner : Signer := { exampleSigner with address := "verifier1" }

/-- The second verifier of a pair: the compressed point `2G` of secp256k1 as its key. -/
def secondSigner : Signer where
  address := "verifier2"
  weight := 1
  pubKey := .ecdsa ⟨#[0x02, 0xc6, 0x04, 0x7f, 0x94, 0x41, 0xed, 0x7d, 0x6d, 0x30, 0x45, 0x40, 0x6e,
    0x95, 0xc0, 0x7c, 0xd8, 0x5c, 0x77, 0x8e, 0x4b, 0x8c, 0xef, 0x3c, 0xa7, 0xab, 0xac, 0x09, 0xb9,
    0x5c, 0x70, 0x9e, 0xe5]⟩

/-- Two verifiers of weight one under their own addresses: both must sign. -/
def pairVerifierSet : VerifierSet :=
  ⟨[("verifier1", firstSigner), ("verifier2", secondSigner)], by decide, 2, 100⟩

/-- The same two verifiers in the same order under keys shifted by one: the key
"verifier2" now holds the first verifier. -/
def shiftedVerifierSet : VerifierSet :=
  ⟨[("verifier2", firstSigner), ("verifier3", secondSigner)], by decide, 2, 100⟩

/-- After the second verifier of a pair has signed, anyone can register the pair
with its keys shifted under the same id and submit the second verifier's
signature again under the new key: the session completes, with one verifier's
signature stored twice, and the proof the prover reads pairs the first verifier
with it. -/
theorem replayed_signature_completes_session (ext : Externals) (signature : ByteArray)
    (hprover : ext.isValidAddress "prover" = true) (hsize : signature.size = 64)
    (hverify : ext.verify .ecdsa exampleSigningMessage signature secondSigner.pubKey.asRef = true)
    (hforeign :
      ext.verify .ecdsa exampleSigningMessage signature firstSigner.pubKey.asRef = false) :
    ∃ s₃ s₆ rs₃ rs₆,
      run (execute ext) (instantiate "admin" "governance" exampleSigningConfig)
        [⟨100, "governance", none, .authorizeCallers [("prover", exampleChain)]⟩,
         ⟨100, "relayer", none, .registerVerifierSet pairVerifierSet⟩,
         ⟨101, "prover", none, .startSigningSession (pairVerifierSet.id ext.keccak256)
            exampleSigningMessage exampleChain none⟩] = (s₃, rs₃) ∧
      run (execute ext) s₃
        [⟨102, "verifier2", none, .submitSignature 1 signature⟩,
         ⟨103, "relayer", none, .registerVerifierSet shiftedVerifierSet⟩,
         ⟨104, "verifier3", none, .submitSignature 1 signature⟩] = (s₆, rs₆) ∧
      rs₃.length = 3 ∧ rs₆.length = 3 ∧
      (s₆.signingSessions.lookup 1).map SigningSession.state = some (.completed 104) ∧
      (∃ r ∈ rs₆, .signingCompleted 1 104 exampleChain ∈ r.events) ∧
      loadSessionSignatures s₆.signatures 1 =
        [("verifier3", .ecdsa signature), ("verifier2", .ecdsa signature)] ∧
      (multisig s₆ 1 >>= Multisig.optimizeSignatures) =
        .ok [(secondSigner, .ecdsa signature), (firstSigner, .ecdsa signature)] ∧
      ∃ e ∈ [(secondSigner, Signature.ecdsa signature), (firstSigner, .ecdsa signature)],
        ext.verify e.2.keyType exampleSigningMessage e.2.asRef e.1.pubKey.asRef = false := by
  -- the shifted pair has the id of the pair, whatever Keccak-256 is
  have hid : shiftedVerifierSet.id ext.keccak256 = pairVerifierSet.id ext.keccak256 :=
    VerifierSet.id_eq_of_values ext.keccak256 rfl rfl rfl
  have hrewards : exampleSigningConfig.rewardsContract = "rewards" := rfl
  have hkey : secondSigner.pubKey.keyType = .ecdsa := rfl
  have hweight₁ : firstSigner.weight = 1 := rfl
  have hweight₂ : secondSigner.weight = 1 := rfl
  have hthreshold₁ : pairVerifierSet.threshold = 2 := rfl
  have hthreshold₂ : shiftedVerifierSet.threshold = 2 := rfl
  have hone : toString 1 = "1" := by decide
  have hpair₁ : pairVerifierSet.signers.lookup "verifier1" = some firstSigner := rfl
  have hpair₂ : pairVerifierSet.signers.lookup "verifier2" = some secondSigner := rfl
  have hshifted₂ : shiftedVerifierSet.signers.lookup "verifier2" = some firstSigner := rfl
  have hshifted₃ : shiftedVerifierSet.signers.lookup "verifier3" = some secondSigner := rfl
  obtain ⟨rs₃, hrun₃, hlen₃⟩ := run_open_session ext pairVerifierSet hprover
  set id := pairVerifierSet.id ext.keccak256
  set s₃ := sessionOpened ext pairVerifierSet
  set session : SigningSession :=
    SigningSession.new 1 id exampleChain exampleSigningMessage 121 none
  set s₄ : State := { s₃ with
    signatures := s₃.signatures.insert (1, "verifier2") (.ecdsa signature)
    signingSessions := s₃.signingSessions.insert 1 session }
  set s₅ := (registerVerifierSet ext s₄ shiftedVerifierSet).1
  set s₆ : State := { s₅ with
    signatures := s₅.signatures.insert (1, "verifier3") (.ecdsa signature)
    signingSessions := s₅.signingSessions.insert 1 { session with state := .completed 104 } }
  -- the second verifier signs; its weight alone is below the threshold
  have h₄ : execute ext s₃ ⟨102, "verifier2", none, .submitSignature 1 signature⟩ =
      .ok (s₄, ⟨[.recordParticipation "rewards" exampleChain "1" "verifier2"],
        [.signatureSubmitted 1 "verifier2" (.ecdsa signature)], none⟩) := by
    rw [execute_submitSignature]
    apply submitSignature_eq_ok.mpr
    refine ⟨rfl, session, pairVerifierSet, secondSigner, .ecdsa signature, none,
      s₃.signatures.insert (1, "verifier2") (.ecdsa signature), session, ?_, ?_, hpair₂, ?_, ?_,
      ?_, ?_, rfl, ?_⟩
    · simp [s₃, sessionOpened, session, id, AList.lookup, AList.singleton_entries]
    · simp [s₃, sessionOpened, session, SigningSession.new, id, AList.lookup,
        AList.singleton_entries]
    · simp [Signature.tryFrom, hsize, hkey]
    · simp [validateSessionSignature, session, SigningSession.new, Signature.verify, hverify,
        Signature.keyType, hkey, Signature.asRef]
    · simp [saveSignature, s₃, sessionOpened, instantiate]
    · simp [SigningSession.recalculateSessionState, signersWeight, loadSessionSignatures, s₃,
        sessionOpened, instantiate, session, SigningSession.new, hpair₂, hweight₂, hthreshold₁,
        bind, Except.bind, pure, Except.pure, uint128Max]
    · simp [signingResponse, session, SigningSession.new, hrewards, hone, s₃, sessionOpened,
        instantiate]
  -- anyone registers the shifted pair over the pair
  have h₅ : execute ext s₄ ⟨103, "relayer", none, .registerVerifierSet shiftedVerifierSet⟩ =
      .ok (s₅, .empty) :=
    execute_registerVerifierSet ext s₄ 103 "relayer" shiftedVerifierSet
  have hstored : s₅.verifierSets.lookup id = some shiftedVerifierSet := by
    simp [s₅, registerVerifierSet, hid]
  -- the second verifier's signature again, under the key that now holds it: the
  -- key it was first stored under counts for the first verifier
  have h₆ : execute ext s₅ ⟨104, "verifier3", none, .submitSignature 1 signature⟩ =
      .ok (s₆, ⟨[.recordParticipation "rewards" exampleChain "1" "verifier3"],
        [.signatureSubmitted 1 "verifier3" (.ecdsa signature),
          .signingCompleted 1 104 exampleChain], none⟩) := by
    rw [execute_submitSignature]
    apply submitSignature_eq_ok.mpr
    refine ⟨rfl, session, shiftedVerifierSet, secondSigner, .ecdsa signature, none,
      s₅.signatures.insert (1, "verifier3") (.ecdsa signature),
      { session with state := .completed 104 }, ?_, ?_, hshifted₃, ?_, ?_, ?_, ?_, rfl, ?_⟩
    · simp [s₅, registerVerifierSet, s₄]
    · simpa [session, SigningSession.new] using hstored
    · simp [Signature.tryFrom, hsize, hkey]
    · simp [validateSessionSignature, session, SigningSession.new, Signature.verify, hverify,
        Signature.keyType, hkey, Signature.asRef]
    · simp [saveSignature, s₅, registerVerifierSet, s₄, s₃, sessionOpened, instantiate,
        AList.lookup, AList.singleton_entries, List.dlookup]
    · simp [SigningSession.recalculateSessionState, signersWeight, loadSessionSignatures, s₅,
        registerVerifierSet, s₄, s₃, sessionOpened, instantiate, session, SigningSession.new,
        hshifted₂, hshifted₃, hweight₁, hweight₂, hthreshold₂, bind, Except.bind, pure,
        Except.pure, uint128Max]
    · simp [signingResponse, session, SigningSession.new, hrewards, hone, s₅, registerVerifierSet,
        s₄, s₃, sessionOpened, instantiate]
  have hsignatures : loadSessionSignatures s₆.signatures 1 =
      [("verifier3", .ecdsa signature), ("verifier2", .ecdsa signature)] := by
    simp [loadSessionSignatures, s₆, s₅, registerVerifierSet, s₄, s₃, sessionOpened, instantiate]
  refine ⟨s₃, s₆, rs₃, _, hrun₃, by
    rw [run_cons_ok (execute ext) _ h₄, run_cons_ok (execute ext) _ h₅,
      run_cons_ok (execute ext) _ h₆]; rfl, hlen₃, rfl, ?_, ⟨_, List.mem_cons_of_mem _
        (List.mem_cons_of_mem _ List.mem_cons_self), by simp⟩, hsignatures, ?_,
    ⟨(firstSigner, .ecdsa signature), by simp, by simpa [Signature.keyType, Signature.asRef]
      using hforeign⟩⟩
  · simp [s₆, session]
  -- the proof pairs each key's signer of the shifted pair with the one signature
  · have hsession₆ :
        s₆.signingSessions.lookup 1 = some { session with state := .completed 104 } := by
      simp [s₆]
    have hstored₆ : s₆.verifierSets.lookup id = some shiftedVerifierSet := hstored
    -- both weigh one, so the stable sort keeps the order of the keys
    have hsorted :
        [(secondSigner, Signature.ecdsa signature), (firstSigner, .ecdsa signature)].mergeSort
          (fun a b => decide (b.1.weight ≤ a.1.weight)) =
          [(secondSigner, .ecdsa signature), (firstSigner, .ecdsa signature)] :=
      List.mergeSort_of_pairwise (by simp [hweight₁, hweight₂])
    simp [multisig, Multisig.optimizeSignatures, Multisig.signer, okOr, hsession₆, hstored₆,
      session, SigningSession.new, hsignatures, hshifted₂, hshifted₃, hsorted, hweight₂,
      hthreshold₂, takeUntilThreshold, saturatingAdd, uint128Max, bind, Except.bind, pure,
      Except.pure]

theorem replayed_signature_completes_session_example :
    (signingExternals exampleSignature secondSigner.pubKey).isValidAddress "prover" = true ∧
    exampleSignature.size = 64 ∧
    (signingExternals exampleSignature secondSigner.pubKey).verify .ecdsa exampleSigningMessage
      exampleSignature secondSigner.pubKey.asRef = true ∧
    (signingExternals exampleSignature secondSigner.pubKey).verify .ecdsa exampleSigningMessage
      exampleSignature firstSigner.pubKey.asRef = false ∧
    ∃ s₃ s₆ rs₃ rs₆,
      run (execute (signingExternals exampleSignature secondSigner.pubKey))
        (instantiate "admin" "governance" exampleSigningConfig)
        [⟨100, "governance", none, .authorizeCallers [("prover", exampleChain)]⟩,
         ⟨100, "relayer", none, .registerVerifierSet pairVerifierSet⟩,
         ⟨101, "prover", none, .startSigningSession
            (pairVerifierSet.id (signingExternals exampleSignature secondSigner.pubKey).keccak256)
            exampleSigningMessage exampleChain none⟩] = (s₃, rs₃) ∧
      run (execute (signingExternals exampleSignature secondSigner.pubKey)) s₃
        [⟨102, "verifier2", none, .submitSignature 1 exampleSignature⟩,
         ⟨103, "relayer", none, .registerVerifierSet shiftedVerifierSet⟩,
         ⟨104, "verifier3", none, .submitSignature 1 exampleSignature⟩] = (s₆, rs₆) ∧
      rs₃.length = 3 ∧ rs₆.length = 3 ∧
      (s₆.signingSessions.lookup 1).map SigningSession.state = some (.completed 104) ∧
      (∃ r ∈ rs₆, .signingCompleted 1 104 exampleChain ∈ r.events) ∧
      loadSessionSignatures s₆.signatures 1 =
        [("verifier3", .ecdsa exampleSignature), ("verifier2", .ecdsa exampleSignature)] ∧
      (multisig s₆ 1 >>= Multisig.optimizeSignatures) =
        .ok [(secondSigner, .ecdsa exampleSignature), (firstSigner, .ecdsa exampleSignature)] ∧
      ∃ e ∈ [(secondSigner, Signature.ecdsa exampleSignature),
          (firstSigner, .ecdsa exampleSignature)],
        (signingExternals exampleSignature secondSigner.pubKey).verify e.2.keyType
          exampleSigningMessage e.2.asRef e.1.pubKey.asRef = false :=
  ⟨rfl, rfl, by decide, by decide,
    replayed_signature_completes_session (signingExternals exampleSignature secondSigner.pubKey)
      exampleSignature rfl rfl (by decide) (by decide)⟩

end Amplifier.Multisig
