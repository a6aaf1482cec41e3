import Amplifier.Lib.Bytes
import Amplifier.RouterApi.Primitives

/-!
# Amplifier.Multisig.VerifierSet — verifier sets and their hash

`multisig`'s `VerifierSet`: signers in a `BTreeMap<String, Signer>` keyed by
the signer's address, a signing threshold and the block height it was created
at. The map is a list of key–signer pairs whose keys strictly increase, the
order in which a `BTreeMap` iterates them.

`VerifierSet::hash` feeds Keccak-256 the number of signers, then for each signer
in key order its address, public key and weight, then the threshold and the
creation height. It reads the signers through `values()`, so the keys
themselves never reach the hasher (`hashPreimage_eq_of_values`): two sets that
list the same signers in the same order under different keys have one hash, and
one id. The voting-verifier keys its polls by this hash and the multisig
contract keys its registry by this id.

`usize` is 32 bits wide on the `wasm32` target the contracts are built for, so
the signer count is 4 bytes; weights and threshold are `Uint128` (16 bytes) and
the height a `u64` (8 bytes). Public keys are the bytes the JSON decoder
admitted; whether they lie on their curve is decided by the `k256` and
`ed25519-dalek` crates and is not modelled.
-/

namespace Amplifier.Multisig

open RouterApi

/-- `KeyType`. -/
inductive KeyType where
  | ecdsa
  | ed25519
  deriving DecidableEq, Repr

/-- `PublicKey`: the key type and the key's bytes. -/
inductive PublicKey where
  | ecdsa (key : ByteArray)
  | ed25519 (key : ByteArray)
  deriving DecidableEq

/-- `PublicKey`'s `AsRef<[u8]>`: the key's bytes, whatever its type. -/
def PublicKey.asRef : PublicKey → ByteArray
  | .ecdsa key => key
  | .ed25519 key => key

/-- `KeyTyped::key_type` of a public key. -/
def PublicKey.keyType : PublicKey → KeyType
  | .ecdsa _ => .ecdsa
  | .ed25519 _ => .ed25519

/-- `Signer`. -/
structure Signer where
  address : String
  weight : ℕ
  pubKey : PublicKey
  deriving DecidableEq

/-- `VerifierSet`: the signers by key, in the increasing order of the keys. -/
structure VerifierSet where
  signers : List (String × Signer)
  sorted : (signers.map Prod.fst).Pairwise (· < ·)
  threshold : ℕ
  createdAt : ℕ
  deriving DecidableEq

namespace VerifierSet

/-- `signers.values()`: the signers in key order. -/
def values (v : VerifierSet) : List Signer :=
  v.signers.map Prod.snd

/-- The bytes one signer contributes: address, public key, weight. -/
def signerPreimage (signer : Signer) : ByteArray :=
  signer.address.toByteArray ++ signer.pubKey.asRef ++ beBytes 16 signer.weight

/-- The bytes `VerifierSet::hash` feeds to the hasher, in the order of its `update`s. -/
def hashPreimage (v : VerifierSet) : ByteArray :=
  v.values.foldl (fun acc signer => acc ++ signerPreimage signer) (beBytes 4 v.signers.length) ++
    beBytes 16 v.threshold ++ beBytes 8 v.createdAt

/-- `VerifierSet::hash`, for a given Keccak-256. -/
def hash (keccak256 : ByteArray → Hash) (v : VerifierSet) : Hash :=
  keccak256 v.hashPreimage

/-- `VerifierSet::id`: the hash in lower-case hex. -/
def id (keccak256 : ByteArray → Hash) (v : VerifierSet) : String :=
  encodeHex (v.hash keccak256).toList

/-- `VerifierSet::pub_keys`: each signer's public key under its key. -/
def pubKeys (v : VerifierSet) : List (String × PublicKey) :=
  v.signers.map fun e => (e.1, e.2.pubKey)

/-- `VerifierSet::includes`: the address is one of the keys. -/
def includes (v : VerifierSet) (signer : String) : Bool :=
  (v.signers.lookup signer).isSome

/-- The preimage reads the signers only through `values()`: sets with the same
signers in the same order, threshold and height have the same preimage, whatever
their keys. -/
theorem hashPreimage_eq_of_values {v v' : VerifierSet} (hvals : v.values = v'.values)
    (hthreshold : v.threshold = v'.threshold) (hcreated : v.createdAt = v'.createdAt) :
    v.hashPreimage = v'.hashPreimage := by
  have hlen : v.signers.length = v'.signers.length := by
    simpa [values] using congrArg List.length hvals
  rw [hashPreimage, hashPreimage, hvals, hlen, hthreshold, hcreated]

theorem hash_eq_of_values (keccak256 : ByteArray → Hash) {v v' : VerifierSet}
    (hvals : v.values = v'.values) (hthreshold : v.threshold = v'.threshold)
    (hcreated : v.createdAt = v'.createdAt) : v.hash keccak256 = v'.hash keccak256 := by
  rw [hash, hash, hashPreimage_eq_of_values hvals hthreshold hcreated]

theorem id_eq_of_values (keccak256 : ByteArray → Hash) {v v' : VerifierSet}
    (hvals : v.values = v'.values) (hthreshold : v.threshold = v'.threshold)
    (hcreated : v.createdAt = v'.createdAt) : v.id keccak256 = v'.id keccak256 := by
  rw [id, id, hash_eq_of_values keccak256 hvals hthreshold hcreated]

end VerifierSet

/-- The signer of the examples: a verifier with the compressed secp256k1 generator
as its key. -/
def exampleSigner : Signer where
  address := "axelar1ckguw8l9peg6sykx30cy35t6l0wpfu23xycme7"
  weight := 1
  pubKey := .ecdsa ⟨#[0x02, 0x79, 0xbe, 0x66, 0x7e, 0xf9, 0xdc, 0xbb, 0xac, 0x55, 0xa0, 0x62, 0x95,
    0xce, 0x87, 0x0b, 0x07, 0x02, 0x9b, 0xfc, 0xdb, 0x2d, 0xce, 0x28, 0xd9, 0x59, 0xf2, 0x81, 0x5b,
    0x16, 0xf8, 0x17, 0x98]⟩

/-- A verifier set of one signer, under its own address. -/
def exampleVerifierSet : VerifierSet :=
  ⟨[(exampleSigner.address, exampleSigner)], by decide, 1, 100⟩

/-- The same signer under another key. -/
def rekeyedVerifierSet : VerifierSet :=
  ⟨[("a", exampleSigner)], by decide, 1, 100⟩

end Amplifier.Multisig
