import Mathlib

/-!
# Amplifier.RouterApi.Primitives — messages and their hash preimage

The data types of `router-api`'s `primitives.rs` and `axelar-wasm-std`'s
`chain.rs`, each a structure that carries its validation as a field, so that
only values the JSON decoder admits can be built:

* `ChainNameRaw` — nonempty, at most 20 bytes, ASCII, without `FIELD_DELIMITER`;
* `ChainName` — a raw chain name that is also lower case (`normalize`);
* `Address` — a nonempty string without `FIELD_DELIMITER`;
* `NonemptyString` — `nonempty::String`, the type of a message id, which may
  contain the delimiter;
* `CrossChainId` and `Message`.

`Message.hashPreimage` is the byte string `Message::hash` feeds to Keccak-256,
update by update. Keccak-256 itself lives in the `sha3` crate, outside the
repository, so `Message.hash` takes it as a parameter.
-/

namespace Amplifier.RouterApi

/-- `FIELD_DELIMITER`. -/
def fieldDelimiter : Char := '_'

/-- `[FIELD_DELIMITER as u8]`, the delimiter as the hasher receives it. -/
def delimiterBytes : ByteArray := ⟨#[fieldDelimiter.toNat.toUInt8]⟩

/-- `ChainNameRaw::is_raw_chain_name`. -/
def isRawChainName (s : String) : Bool :=
  !s.isEmpty && decide (s.utf8ByteSize ≤ 20) && s.toList.all (fun c => decide (c.toNat < 128)) &&
    !s.toList.contains fieldDelimiter

/-- `Address::is_address`. -/
def isAddress (s : String) : Bool :=
  !s.isEmpty && !s.toList.contains fieldDelimiter

/-- `ChainNameRaw`. -/
structure ChainNameRaw where
  val : String
  valid : isRawChainName val = true
  deriving DecidableEq

/-- `ChainName`: a raw chain name in lower case, as `normalize` leaves it (the name
is ASCII, so lower case is `Char.toLower` letter by letter). -/
structure ChainName where
  val : String
  valid : isRawChainName val = true
  lowercase : val.toList.all (fun c => decide (c.toLower = c)) = true
  deriving DecidableEq

/-- `Address`. -/
structure Address where
  val : String
  valid : isAddress val = true
  deriving DecidableEq

/-- `nonempty::String`. -/
structure NonemptyString where
  val : String
  nonempty : val ≠ ""
  deriving DecidableEq

/-- `Hash`: 32 bytes. -/
abbrev Hash := Vector UInt8 32

/-- `CrossChainId`. -/
structure CrossChainId where
  sourceChain : ChainNameRaw
  messageId : NonemptyString
  deriving DecidableEq

/-- `CrossChainId`'s `Display`: `{source_chain}{FIELD_DELIMITER}{message_id}`. -/
def CrossChainId.toString (id : CrossChainId) : String :=
  id.sourceChain.val ++ String.singleton fieldDelimiter ++ id.messageId.val

/-- `Message`. -/
structure Message where
  ccId : CrossChainId
  sourceAddress : Address
  destinationChain : ChainName
  destinationAddress : Address
  payloadHash : Hash
  deriving DecidableEq

/-- The bytes `Message::hash` feeds to the hasher, in the order of its `update`s. -/
def Message.hashPreimage (m : Message) : ByteArray :=
  m.ccId.toString.toByteArray ++ delimiterBytes ++
    m.sourceAddress.val.toByteArray ++ delimiterBytes ++
    m.destinationChain.val.toByteArray ++ delimiterBytes ++
    m.destinationAddress.val.toByteArray ++ delimiterBytes ++
    ⟨m.payloadHash.toArray⟩

/-- `Message::hash`, for a given Keccak-256. -/
def Message.hash (keccak256 : ByteArray → Hash) (m : Message) : Hash :=
  keccak256 m.hashPreimage

end Amplifier.RouterApi
