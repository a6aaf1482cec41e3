import Amplifier.Multisig.Optimize

/-!
# Amplifier.EvmGateway.Proof — the proof the EVM gateway checks

`evm-gateway` turns a verifier set and the signers `optimize_signatures` picked
into the `Proof` of an `approveMessages` or `rotateSigners` call:

* `weightedSignersOf` — `WeightedSigners::try_from`: every signer as its EVM
  address and weight, sorted by address;
* `Proof.new` — the weighted signers, and the signatures sorted by the EVM
  address of their signers.

The gateway walks both lists together, so the signatures must come in the order
of the signers. `proof_signer_selection` says that they do: the signers picked
are the fewest that reach the threshold, and their addresses, strictly
increasing, are a subsequence of the weighted signers' addresses.

The EVM address of a public key (`evm_address`, Keccak-256 of the key) is a
parameter, `none` where the key is not a valid ECDSA key; addresses are of any
linearly ordered type, as `Address` is ordered by its bytes.
-/

namespace Amplifier.EvmGateway

open Multisig WasmStd

/-! ## `WeightedSigners` and `Proof` -/

variable {Addr : Type} [LinearOrder Addr]

/-- `WeightedSigner`. -/
structure WeightedSigner (Addr : Type) where
  signer : Addr
  weight : ℕ

/-- `WeightedSigners`; the nonce is the verifier set's height, as its 32 bytes. -/
structure WeightedSigners (Addr : Type) where
  signers : List (WeightedSigner Addr)
  threshold : ℕ
  nonce : ℕ

/-- `evm_gateway::error::Error`, as `Proof::new` returns it. -/
inductive Error where
  | invalidPublicKey

/-- An error returned, or a panic. -/
inductive Failure where
  | error (e : Error)
  | panic (msg : String)

/-- `Proof`: the signers and the signatures. -/
structure Proof (Addr : Type) where
  signers : WeightedSigners Addr
  signatures : List ByteArray

/-- `WeightedSigner::try_from(&Signer)`. -/
def weightedSignerOf (evmAddress : PublicKey → Option Addr) (signer : Signer) :
    Except Error (WeightedSigner Addr) :=
  okOr ((evmAddress signer.pubKey).map fun address => ⟨address, signer.weight⟩) .invalidPublicKey

/-- The order of the signers: by address. -/
def byAddress (a b : WeightedSigner Addr) : Bool := decide (a.signer ≤ b.signer)

/-- `WeightedSigners::try_from(&VerifierSet)`: the signers in increasing order of
address (a stable sort). -/
def weightedSignersOf (evmAddress : PublicKey → Option Addr) (v : VerifierSet) :
    Except Error (WeightedSigners Addr) := do
  let signers ← v.values.mapM (weightedSignerOf evmAddress)
  return ⟨signers.mergeSort byAddress, v.threshold, v.createdAt⟩

/-- The order of the signatures: by the address of their signer. -/
def bySignerAddress (a b : Addr × Signer × Signature) : Bool := decide (a.1 ≤ b.1)

/-- `Proof::new`: the signatures sorted by the EVM address of their signers (a
stable sort); an address that cannot be computed is a panic. -/
def Proof.new (evmAddress : PublicKey → Option Addr) (v : VerifierSet)
    (signersWithSigs : List (Signer × Signature)) : Except Failure (Proof Addr) := do
  let signers ← (weightedSignersOf evmAddress v).mapError .error
  let keyed ← signersWithSigs.mapM fun e =>
    okOr ((evmAddress e.1.pubKey).map (·, e)) (.panic "failed to convert pub key to evm address")
  let sorted := keyed.mergeSort bySignerAddress
  return ⟨signers, sorted.map fun a => a.2.2.asRef⟩

/-! ## The order of the signatures -/

section Order

variable (evmAddress : PublicKey → Option Addr) {v : VerifierSet}

/-- With every key a valid ECDSA key, the weighted signers are the verifier set's
signers with their addresses, sorted. -/
theorem weightedSignersOf_eq (hecdsa : ∀ signer ∈ v.values, (evmAddress signer.pubKey).isSome) :
    weightedSignersOf evmAddress v =
      .ok ⟨(v.values.filterMap fun signer => (evmAddress signer.pubKey).map fun address =>
          (⟨address, signer.weight⟩ : WeightedSigner Addr)).mergeSort byAddress,
        v.threshold, v.createdAt⟩ := by
  have hsome : ∀ signer ∈ v.values, ((evmAddress signer.pubKey).map fun address =>
      (⟨address, signer.weight⟩ : WeightedSigner Addr)).isSome := by
    intro signer hsigner
    simpa using hecdsa signer hsigner
  unfold weightedSignersOf weightedSignerOf
  rw [mapM_okOr_eq_ok hsome]
  rfl

/-- With every signer's key a valid ECDSA key, `Proof::new` sorts the signatures
by the addresses of their signers. -/
theorem Proof.new_eq {ws : WeightedSigners Addr} (hws : weightedSignersOf evmAddress v = .ok ws)
    {S : List (Signer × Signature)} (hS : ∀ e ∈ S, (evmAddress e.1.pubKey).isSome) :
    Proof.new evmAddress v S =
      .ok ⟨ws, ((S.filterMap fun e => (evmAddress e.1.pubKey).map (·, e)).mergeSort
        bySignerAddress).map fun a => a.2.2.asRef⟩ := by
  have hsome : ∀ e ∈ S, ((evmAddress e.1.pubKey).map (·, e)).isSome := by
    intro e he
    simpa using hS e he
  simp only [Proof.new, hws, Except.mapError, bind, Except.bind]
  rw [mapM_okOr_eq_ok hsome]
  rfl

omit [LinearOrder Addr] in
/-- Distinct keys with distinct addresses give weighted signers of distinct addresses. -/
theorem nodup_addresses (hkeys : (v.values.map Signer.pubKey).Nodup)
    (hcollision : ∀ s₁ ∈ v.values, ∀ s₂ ∈ v.values,
      evmAddress s₁.pubKey = evmAddress s₂.pubKey → s₁.pubKey = s₂.pubKey) :
    ((v.values.filterMap fun signer => (evmAddress signer.pubKey).map fun address =>
      (⟨address, signer.weight⟩ : WeightedSigner Addr)).map WeightedSigner.signer).Nodup := by
  have haddresses : (v.values.filterMap fun signer => (evmAddress signer.pubKey).map fun address =>
      (⟨address, signer.weight⟩ : WeightedSigner Addr)).map WeightedSigner.signer =
      v.values.filterMap fun signer => evmAddress signer.pubKey := by
    simp only [List.map_filterMap, Option.map_map, Function.comp_def, Option.map_id']
  rw [haddresses]
  refine nodup_filterMap_of_injOn (List.Nodup.of_map _ hkeys) ?_
  intro x hx y hy address hxa hya
  exact List.inj_on_of_nodup_map hkeys hx hy (hcollision x hx y hy (hxa.trans hya.symm))

/-- The signatures of signers of the verifier set come out in strictly
increasing order of their signers' addresses, as a subsequence of the weighted
signers: each signature at the position of its own signer. -/
theorem Proof.new_aligned
    (hecdsa : ∀ signer ∈ v.values, (evmAddress signer.pubKey).isSome)
    (hkeys : (v.values.map Signer.pubKey).Nodup)
    (hcollision : ∀ s₁ ∈ v.values, ∀ s₂ ∈ v.values,
      evmAddress s₁.pubKey = evmAddress s₂.pubKey → s₁.pubKey = s₂.pubKey)
    {S : List (Signer × Signature)} (hS : (S.map Prod.fst).Subperm v.values) :
    ∃ (proof : Proof Addr) (signed : List (Addr × Signer × Signature)),
      Proof.new evmAddress v S = .ok proof ∧
      weightedSignersOf evmAddress v = .ok proof.signers ∧
      (signed.map Prod.snd).Perm S ∧ (∀ x ∈ signed, evmAddress x.2.1.pubKey = some x.1) ∧
      proof.signatures = signed.map (fun x => x.2.2.asRef) ∧
      (signed.map Prod.fst).Pairwise (· < ·) ∧
      (signed.map fun x => (⟨x.1, x.2.1.weight⟩ : WeightedSigner Addr)).Sublist
        proof.signers.signers := by
  set weighted := v.values.filterMap fun signer => (evmAddress signer.pubKey).map fun address =>
    (⟨address, signer.weight⟩ : WeightedSigner Addr) with hweighted
  set keyed := S.filterMap fun e => (evmAddress e.1.pubKey).map (·, e) with hkeyed
  set signed := keyed.mergeSort bySignerAddress
  have hSsome : ∀ e ∈ S, (evmAddress e.1.pubKey).isSome :=
    fun e he => hecdsa e.1 (hS.subset (List.mem_map_of_mem he))
  have hws := weightedSignersOf_eq evmAddress hecdsa
  have hperm : signed.Perm keyed := List.mergeSort_perm keyed _
  -- the signatures with their signers' weighted signers: a selection of them
  let toWeighted (x : Addr × Signer × Signature) : WeightedSigner Addr := ⟨x.1, x.2.1.weight⟩
  have hselection : (keyed.map toWeighted).Subperm weighted := by
    have hmap : keyed.map toWeighted = (S.map Prod.fst).filterMap fun signer =>
        (evmAddress signer.pubKey).map fun address =>
          (⟨address, signer.weight⟩ : WeightedSigner Addr) := by
      simp only [hkeyed, List.map_filterMap, List.filterMap_map, Option.map_map]
      rfl
    rw [hmap]
    exact subperm_filterMap _ hS
  have hsub : (signed.map toWeighted).Subperm (weighted.mergeSort byAddress) :=
    (hperm.map toWeighted).subperm.trans
      (hselection.trans (List.mergeSort_perm weighted byAddress).symm.subperm)
  -- both lists are sorted by address, and no address repeats
  have hnodup : ((weighted.mergeSort byAddress).map WeightedSigner.signer).Nodup :=
    ((List.mergeSort_perm weighted byAddress).map _).nodup_iff.mpr
      (nodup_addresses evmAddress hkeys hcollision)
  have hnodup_signed : ((signed.map toWeighted).map WeightedSigner.signer).Nodup :=
    nodup_of_subperm (subperm_map _ hsub) hnodup
  have hsorted : (weighted.mergeSort byAddress).Pairwise fun a b => a.signer < b.signer :=
    pairwise_lt_of_pairwise_le _ (pairwise_mergeSort_key WeightedSigner.signer weighted) hnodup
  have hsorted_signed : (signed.map toWeighted).Pairwise fun a b => a.signer < b.signer :=
    pairwise_lt_of_pairwise_le _
      (List.pairwise_map.mpr (pairwise_mergeSort_key Prod.fst keyed)) hnodup_signed
  refine ⟨_, signed, Proof.new_eq evmAddress hws hSsome, hws, ?_, ?_, rfl, ?_, ?_⟩
  · -- the signers come back, each with its own signature
    have hsnd : keyed.map Prod.snd = S := by
      rw [hkeyed, List.map_filterMap]
      conv_rhs => rw [← @List.filterMap_some _ S]
      refine List.filterMap_congr fun e he => ?_
      obtain ⟨address, haddress⟩ := Option.isSome_iff_exists.mp (hSsome e he)
      simp [haddress]
    rw [← hsnd]
    exact hperm.map Prod.snd
  · intro x hx
    obtain ⟨e, -, he⟩ := List.mem_filterMap.mp (hperm.subset hx)
    obtain ⟨address, haddress, rfl⟩ := Option.map_eq_some_iff.mp he
    exact haddress
  · simpa [List.pairwise_map] using hsorted_signed
  · exact sublist_of_subperm_of_lt WeightedSigner.signer hsub hsorted_signed hsorted

end Order

/-! ## The signers of a proof -/

/-- The proof `encode_execute_data` builds from a session: `optimize_signatures`
picks distinct submitted signers, each with its own signature, heaviest first and
the fewest that reach the threshold (or all of them when they do not), and
`Proof::new` puts their signatures in strictly increasing order of address, at
the positions of their signers among the weighted signers. -/
theorem proof_signer_selection (evmAddress : PublicKey → Option Addr) (m : Multisig)
    (hsigned : ∀ e ∈ m.signatures, (m.verifierSet.signers.lookup e.1).isSome)
    (hunique : (m.signatures.map Prod.fst).Nodup)
    (hthreshold : m.verifierSet.threshold ≤ uint128Max)
    (hecdsa : ∀ signer ∈ m.verifierSet.values, (evmAddress signer.pubKey).isSome)
    (hkeys : (m.verifierSet.values.map Signer.pubKey).Nodup)
    (hcollision : ∀ s₁ ∈ m.verifierSet.values, ∀ s₂ ∈ m.verifierSet.values,
      evmAddress s₁.pubKey = evmAddress s₂.pubKey → s₁.pubKey = s₂.pubKey) :
    ∃ S, m.optimizeSignatures = .ok S ∧
      S.Subperm (submittedSigners m) ∧ (S.map Prod.fst).Nodup ∧
      (∀ e ∈ S, ∃ key, (key, e.2) ∈ m.signatures ∧ m.verifierSet.signers.lookup key = some e.1) ∧
      S.Pairwise (fun a b => b.1.weight ≤ a.1.weight) ∧
      (m.verifierSet.threshold ≤ ((submittedSigners m).map entryWeight).sum →
        m.verifierSet.threshold ≤ (S.map entryWeight).sum ∧
        (S ≠ [] → (S.dropLast.map entryWeight).sum < m.verifierSet.threshold) ∧
        ∀ T : List (Signer × Signature), T.Subperm (submittedSigners m) →
          m.verifierSet.threshold ≤ (T.map entryWeight).sum → S.length ≤ T.length) ∧
      (((submittedSigners m).map entryWeight).sum < m.verifierSet.threshold →
        S.Perm (submittedSigners m)) ∧
      ∃ (proof : Proof Addr) (signed : List (Addr × Signer × Signature)),
        Proof.new evmAddress m.verifierSet S = .ok proof ∧
        weightedSignersOf evmAddress m.verifierSet = .ok proof.signers ∧
        (signed.map Prod.snd).Perm S ∧ (∀ x ∈ signed, evmAddress x.2.1.pubKey = some x.1) ∧
        proof.signatures = signed.map (fun x => x.2.2.asRef) ∧
        (signed.map Prod.fst).Pairwise (· < ·) ∧
        (signed.map fun x => (⟨x.1, x.2.1.weight⟩ : WeightedSigner Addr)).Sublist
          proof.signers.signers := by
  obtain ⟨S, hS, hsub, hsorted, henough, hshort⟩ := optimizeSignatures_spec hsigned hthreshold
  -- the signers picked are distinct signers of the verifier set
  have hsigners : (S.map Prod.fst).Subperm m.verifierSet.values :=
    (subperm_map Prod.fst hsub).trans (map_fst_submittedSigners_subperm hunique)
  have hdistinct : (S.map Prod.fst).Nodup :=
    nodup_of_subperm hsigners (List.Nodup.of_map _ hkeys)
  have hown : ∀ e ∈ S, ∃ key, (key, e.2) ∈ m.signatures ∧
      m.verifierSet.signers.lookup key = some e.1 :=
    fun e he => mem_submittedSigners.mp (hsub.subset he)
  exact ⟨S, hS, hsub, hdistinct, hown, hsorted, henough, hshort,
    Proof.new_aligned evmAddress hecdsa hkeys hcollision hsigners⟩

/-- A stand-in for the EVM address of a key: the first byte of an ECDSA key. -/
def firstKeyByte : PublicKey → Option ℕ
  | .ecdsa key => key.data.toList.head?.map UInt8.toNat
  | .ed25519 _ => none

/-- Three verifiers of weights one, two and one, threshold two. -/
def aptosVerifierSet : VerifierSet :=
  ⟨[("aptos-1", ⟨"aptos-1", 1, .ecdsa ⟨#[0x03]⟩⟩), ("aptos-2", ⟨"aptos-2", 2, .ecdsa ⟨#[0x02]⟩⟩),
    ("aptos-3", ⟨"aptos-3", 1, .ecdsa ⟨#[0x01]⟩⟩)], by decide, 2, 7⟩

/-- A session of the three, all of whom signed. -/
def aptosSession : Multisig :=
  ⟨.pending, aptosVerifierSet, [("aptos-3", .ecdsa ⟨#[0x13]⟩), ("aptos-1", .ecdsa ⟨#[0x11]⟩),
    ("aptos-2", .ecdsa ⟨#[0x12]⟩)]⟩

/-- The three verifiers of the session, each with a key of its own first byte. -/
theorem proof_signer_selection_aptos :
    ∃ S, aptosSession.optimizeSignatures = .ok S ∧
      S.Subperm (submittedSigners aptosSession) ∧ (S.map Prod.fst).Nodup ∧
      (∀ e ∈ S, ∃ key, (key, e.2) ∈ aptosSession.signatures ∧
        aptosSession.verifierSet.signers.lookup key = some e.1) ∧
      S.Pairwise (fun a b => b.1.weight ≤ a.1.weight) ∧
      (aptosSession.verifierSet.threshold ≤
          ((submittedSigners aptosSession).map entryWeight).sum →
        aptosSession.verifierSet.threshold ≤ (S.map entryWeight).sum ∧
        (S ≠ [] → (S.dropLast.map entryWeight).sum < aptosSession.verifierSet.threshold) ∧
        ∀ T : List (Signer × Signature), T.Subperm (submittedSigners aptosSession) →
          aptosSession.verifierSet.threshold ≤ (T.map entryWeight).sum → S.length ≤ T.length) ∧
      (((submittedSigners aptosSession).map entryWeight).sum <
          aptosSession.verifierSet.threshold →
        S.Perm (submittedSigners aptosSession)) ∧
      ∃ (proof : Proof ℕ) (signed : List (ℕ × Signer × Signature)),
        Proof.new firstKeyByte aptosSession.verifierSet S = .ok proof ∧
        weightedSignersOf firstKeyByte aptosSession.verifierSet = .ok proof.signers ∧
        (signed.map Prod.snd).Perm S ∧ (∀ x ∈ signed, firstKeyByte x.2.1.pubKey = some x.1) ∧
        proof.signatures = signed.map (fun x => x.2.2.asRef) ∧
        (signed.map Prod.fst).Pairwise (· < ·) ∧
        (signed.map fun x => (⟨x.1, x.2.1.weight⟩ : WeightedSigner ℕ)).Sublist
          proof.signers.signers :=
  proof_signer_selection firstKeyByte aptosSession (by decide) (by decide) (by decide)
    (by decide) (by decide) (by decide)

end Amplifier.EvmGateway
