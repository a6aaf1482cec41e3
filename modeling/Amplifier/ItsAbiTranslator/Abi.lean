import Amplifier.Its.Scaling
import Amplifier.Lib.Abi

/-!
# Amplifier.ItsAbiTranslator.Abi — the hub's messages as ABI payloads

The messages of `interchain-token-service-std` (`primitives.rs`) and the codec
of `its-abi-translator` (`abi.rs`) that turns them into the ABI payloads the
ITS edge contracts exchange with the hub, and back:

* `Message`, `HubMessage` — the messages, each field of the type the source
  gives it: `nonempty` bytes and strings, a nonzero amount, a valid raw chain
  name, so that only messages the hub accepts can be built;
* the `sol!` structs, and `SolAbi`: alloy-sol-types' codec of each of them and
  its `MessageType::abi_decode` of a word, a parameter carrying what alloy
  documents of them (`Lib.Abi.SolCodec`);
* `messageAbiEncode`, `messageAbiDecode`, `hubMessageAbiEncode`,
  `hubMessageAbiDecode` — the translation over any `SolAbi`: optional bytes go to
  empty bytes and back, amounts through their little-endian bytes, the message
  type is read from the first word, and a hub message carries its message
  ABI-encoded a second time, as bytes;
* `hub_message_abi_round_trip` — for every `SolAbi`, decoding a message's
  encoding gives it back;
* `packedAbi` — a `SolAbi` that meets the laws, built from the fields of each
  struct (`Codec.packed`).
-/

namespace Amplifier.Its

open RouterApi

/-! ## Messages -/

/-- `nonempty::HexBinary`. -/
structure NonemptyBytes where
  bytes : List UInt8
  nonempty : bytes ≠ []
  deriving DecidableEq

/-- `InterchainTransfer`. -/
structure InterchainTransfer where
  tokenId : TokenId
  sourceAddress : NonemptyBytes
  destinationAddress : NonemptyBytes
  amount : NonemptyUint256
  data : Option NonemptyBytes
  deriving DecidableEq

/-- `DeployInterchainToken`. -/
structure DeployInterchainToken where
  tokenId : TokenId
  name : NonemptyString
  symbol : NonemptyString
  decimals : UInt8
  minter : Option NonemptyBytes
  deriving DecidableEq

/-- `LinkToken`. -/
structure LinkToken where
  tokenId : TokenId
  tokenManagerType : Uint256
  sourceTokenAddress : NonemptyBytes
  destinationTokenAddress : NonemptyBytes
  params : Option NonemptyBytes
  deriving DecidableEq

/-- `Message`. -/
inductive Message where
  | interchainTransfer (m : InterchainTransfer)
  | deployInterchainToken (m : DeployInterchainToken)
  | linkToken (m : LinkToken)
  deriving DecidableEq

/-- `RegisterTokenMetadata`. -/
structure RegisterTokenMetadata where
  decimals : UInt8
  tokenAddress : NonemptyBytes
  deriving DecidableEq

/-- `HubMessage`. -/
inductive HubMessage where
  | sendToHub (destinationChain : ChainNameRaw) (message : Message)
  | receiveFromHub (sourceChain : ChainNameRaw) (message : Message)
  | registerTokenMetadata (m : RegisterTokenMetadata)
  deriving DecidableEq

end Amplifier.Its

namespace Amplifier.ItsAbiTranslator

open Its Abi

/-! ## The `sol!` types -/

/-- `MessageType`. -/
inductive MessageType where
  | interchainTransfer
  | deployInterchainToken
  | deployTokenManager
  | sendToHub
  | receiveFromHub
  | linkToken
  | registerTokenMetadata
  deriving DecidableEq

/-- `value as u8`. -/
def MessageType.index : MessageType → ℕ
  | .interchainTransfer => 0
  | .deployInterchainToken => 1
  | .deployTokenManager => 2
  | .sendToHub => 3
  | .receiveFromHub => 4
  | .linkToken => 5
  | .registerTokenMetadata => 6

/-- The `MessageType` of a `u8`, as `sol!` derives it. -/
def MessageType.ofIndex : ℕ → Option MessageType
  | 0 => some .interchainTransfer
  | 1 => some .deployInterchainToken
  | 2 => some .deployTokenManager
  | 3 => some .sendToHub
  | 4 => some .receiveFromHub
  | 5 => some .linkToken
  | 6 => some .registerTokenMetadata
  | _ => none

theorem MessageType.index_lt (t : MessageType) : t.index < 7 := by
  cases t <;> decide

@[simp]
theorem MessageType.ofIndex_index (t : MessageType) : MessageType.ofIndex t.index = some t := by
  cases t <;> rfl

/-- `From<MessageType> for U256`. -/
def MessageType.toU256 (t : MessageType) : Uint256 :=
  ⟨t.index, lt_trans t.index_lt (by norm_num [uint256Bound])⟩

namespace Sol

/-- The `sol!` struct `InterchainTransfer`. -/
structure InterchainTransfer where
  messageType : Uint256
  tokenId : Vector UInt8 32
  sourceAddress : List UInt8
  destinationAddress : List UInt8
  amount : Uint256
  data : List UInt8

/-- The `sol!` struct `DeployInterchainToken`. -/
structure DeployInterchainToken where
  messageType : Uint256
  tokenId : Vector UInt8 32
  name : String
  symbol : String
  decimals : UInt8
  minter : List UInt8

/-- The `sol!` struct `LinkToken`. -/
structure LinkToken where
  messageType : Uint256
  tokenId : Vector UInt8 32
  tokenManagerType : Uint256
  sourceToken : List UInt8
  destinationToken : List UInt8
  params : List UInt8

/-- The `sol!` structs `SendToHub` and `ReceiveFromHub`, of one layout: the
message type, the true destination or source chain, and the message. -/
structure ChainMessage where
  messageType : Uint256
  chain : String
  message : List UInt8

/-- The `sol!` struct `RegisterTokenMetadata`. -/
structure RegisterTokenMetadata where
  messageType : Uint256
  tokenAddress : List UInt8
  decimals : UInt8

end Sol

/-- The alloy-sol-types functions the translator calls, outside the repository:
the codec `sol!` derives for each struct, and `MessageType::abi_decode` of a word,
which reads the word as a `uint8` and takes the variant of that index. Each is a
parameter carrying what alloy documents of it. -/
structure SolAbi where
  interchainTransfer : SolCodec Sol.InterchainTransfer Sol.InterchainTransfer.messageType
  deployInterchainToken : SolCodec Sol.DeployInterchainToken Sol.DeployInterchainToken.messageType
  linkToken : SolCodec Sol.LinkToken Sol.LinkToken.messageType
  chainMessage : SolCodec Sol.ChainMessage Sol.ChainMessage.messageType
  registerTokenMetadata : SolCodec Sol.RegisterTokenMetadata Sol.RegisterTokenMetadata.messageType
  decodeMessageType : List UInt8 → Option MessageType
  decodeMessageType_word : ∀ t : MessageType, decodeMessageType (word t.index) = some t

/-! ## The translation -/

/-- `nonempty::Error`. -/
inductive NonemptyError where
  | invalidValue (value : String)
  deriving DecidableEq

/-- `Error`. -/
inductive Error where
  | insufficientMessageLength
  | invalidMessageType
  | invalidChainName
  | nonEmpty (e : NonemptyError)
  | abiDecodeFailed
  deriving DecidableEq

/-- `nonempty::HexBinary::try_from(Vec<u8>)`. -/
def tryNonemptyBytes (value : List UInt8) : Except Error NonemptyBytes :=
  if h : value = [] then .error (.nonEmpty (.invalidValue "empty")) else .ok ⟨value, h⟩

/-- `nonempty::String::try_from(String)`. -/
def tryNonemptyString (value : String) : Except Error RouterApi.NonemptyString :=
  if h : value = "" then .error (.nonEmpty (.invalidValue "empty")) else .ok ⟨value, h⟩

/-- `nonempty::Uint256::try_from(Uint256)`: zero is refused, by its text. -/
def tryNonemptyUint256 (value : Uint256) : Except Error NonemptyUint256 :=
  okOr (tryFromNonempty value) (.nonEmpty (.invalidValue "0"))

/-- `ChainNameRaw::try_from(String)`, its error changed to `InvalidChainName`. -/
def tryChainNameRaw (value : String) : Except Error RouterApi.ChainNameRaw :=
  if h : RouterApi.isRawChainName value = true then .ok ⟨value, h⟩ else .error .invalidChainName

/-- `into_vec`: no value is empty bytes. -/
def intoVec (value : Option NonemptyBytes) : List UInt8 :=
  (value.map NonemptyBytes.bytes).getD []

/-- `from_vec`: empty bytes are no value. -/
def fromVec (value : List UInt8) : Except Error (Option NonemptyBytes) :=
  if h : value = [] then .ok none else .ok (some ⟨value, h⟩)

/-- The `InterchainTransfer` struct `message_abi_encode` encodes: no data is
empty bytes, and the amount goes through its little-endian bytes. -/
def Sol.InterchainTransfer.ofMessage (m : Its.InterchainTransfer) : Sol.InterchainTransfer :=
  { messageType := MessageType.interchainTransfer.toU256
    tokenId := m.tokenId
    sourceAddress := m.sourceAddress.bytes
    destinationAddress := m.destinationAddress.bytes
    amount := fromLeBytes (toLeBytes m.amount.val)
    data := intoVec m.data }

/-- The `DeployInterchainToken` struct `message_abi_encode` encodes. -/
def Sol.DeployInterchainToken.ofMessage (m : Its.DeployInterchainToken) :
    Sol.DeployInterchainToken :=
  { messageType := MessageType.deployInterchainToken.toU256
    tokenId := m.tokenId
    name := m.name.val
    symbol := m.symbol.val
    decimals := m.decimals
    minter := intoVec m.minter }

/-- The `LinkToken` struct `message_abi_encode` encodes. -/
def Sol.LinkToken.ofMessage (m : Its.LinkToken) : Sol.LinkToken :=
  { messageType := MessageType.linkToken.toU256
    tokenId := m.tokenId
    destinationToken := m.destinationTokenAddress.bytes
    sourceToken := m.sourceTokenAddress.bytes
    tokenManagerType := fromLeBytes (toLeBytes m.tokenManagerType)
    params := intoVec m.params }

/-- `message_abi_encode`. -/
def messageAbiEncode (abi : SolAbi) : Message → List UInt8
  | .interchainTransfer m => abi.interchainTransfer.encode (.ofMessage m)
  | .deployInterchainToken m => abi.deployInterchainToken.encode (.ofMessage m)
  | .linkToken m => abi.linkToken.encode (.ofMessage m)

/-- `message_abi_decode`: the message type from the first word, then the struct
of that type. -/
def messageAbiDecode (abi : SolAbi) (payload : List UInt8) : Except Error Message := do
  ensure (decide (32 ≤ payload.length)) .insufficientMessageLength
  let messageType ← okOr (abi.decodeMessageType (payload.take 32)) .invalidMessageType
  match messageType with
  | .interchainTransfer =>
      let decoded ← okOr (abi.interchainTransfer.decode payload) .abiDecodeFailed
      return .interchainTransfer
        { tokenId := decoded.tokenId
          sourceAddress := ← tryNonemptyBytes decoded.sourceAddress
          destinationAddress := ← tryNonemptyBytes decoded.destinationAddress
          amount := ← tryNonemptyUint256 (fromLeBytes (toLeBytes decoded.amount))
          data := ← fromVec decoded.data }
  | .deployInterchainToken =>
      let decoded ← okOr (abi.deployInterchainToken.decode payload) .abiDecodeFailed
      return .deployInterchainToken
        { tokenId := decoded.tokenId
          name := ← tryNonemptyString decoded.name
          symbol := ← tryNonemptyString decoded.symbol
          decimals := decoded.decimals
          minter := ← fromVec decoded.minter }
  | .linkToken =>
      let decoded ← okOr (abi.linkToken.decode payload) .abiDecodeFailed
      return .linkToken
        { tokenId := decoded.tokenId
          sourceTokenAddress := ← tryNonemptyBytes decoded.sourceToken
          tokenManagerType := fromLeBytes (toLeBytes decoded.tokenManagerType)
          destinationTokenAddress := ← tryNonemptyBytes decoded.destinationToken
          params := ← fromVec decoded.params }
  | _ => .error .invalidMessageType

/-- The `RegisterTokenMetadata` struct `hub_message_abi_encode` encodes. -/
def Sol.RegisterTokenMetadata.ofMessage (m : Its.RegisterTokenMetadata) :
    Sol.RegisterTokenMetadata :=
  { messageType := MessageType.registerTokenMetadata.toU256
    decimals := m.decimals
    tokenAddress := m.tokenAddress.bytes }

/-- `hub_message_abi_encode`: the message is nested as its own encoding. -/
def hubMessageAbiEncode (abi : SolAbi) : HubMessage → List UInt8
  | .sendToHub destinationChain message =>
      abi.chainMessage.encode
        ⟨MessageType.sendToHub.toU256, destinationChain.val, messageAbiEncode abi message⟩
  | .receiveFromHub sourceChain message =>
      abi.chainMessage.encode
        ⟨MessageType.receiveFromHub.toU256, sourceChain.val, messageAbiEncode abi message⟩
  | .registerTokenMetadata m => abi.registerTokenMetadata.encode (.ofMessage m)

/-- `hub_message_abi_decode`. -/
def hubMessageAbiDecode (abi : SolAbi) (payload : List UInt8) : Except Error HubMessage := do
  ensure (decide (32 ≤ payload.length)) .insufficientMessageLength
  let messageType ← okOr (abi.decodeMessageType (payload.take 32)) .invalidMessageType
  match messageType with
  | .sendToHub =>
      let decoded ← okOr (abi.chainMessage.decode payload) .abiDecodeFailed
      return .sendToHub (← tryChainNameRaw decoded.chain) (← messageAbiDecode abi decoded.message)
  | .receiveFromHub =>
      let decoded ← okOr (abi.chainMessage.decode payload) .abiDecodeFailed
      return .receiveFromHub (← tryChainNameRaw decoded.chain) (← messageAbiDecode abi decoded.message)
  | .registerTokenMetadata =>
      let decoded ← okOr (abi.registerTokenMetadata.decode payload) .abiDecodeFailed
      return .registerTokenMetadata
        { decimals := decoded.decimals
          tokenAddress := ← tryNonemptyBytes decoded.tokenAddress }
  | _ => .error .invalidMessageType

/-! ## The round trip -/

@[simp]
theorem tryNonemptyBytes_bytes (b : NonemptyBytes) : tryNonemptyBytes b.bytes = .ok b := by
  simp [tryNonemptyBytes, b.nonempty]

@[simp]
theorem tryNonemptyString_val (s : RouterApi.NonemptyString) : tryNonemptyString s.val = .ok s := by
  simp [tryNonemptyString, s.nonempty]

@[simp]
theorem tryNonemptyUint256_val (a : NonemptyUint256) : tryNonemptyUint256 a.val = .ok a := by
  simp [tryNonemptyUint256, tryFromNonempty, a.property, okOr]

@[simp]
theorem tryChainNameRaw_val (c : RouterApi.ChainNameRaw) : tryChainNameRaw c.val = .ok c := by
  simp [tryChainNameRaw, c.valid]

@[simp]
theorem fromVec_intoVec (value : Option NonemptyBytes) : fromVec (intoVec value) = .ok value := by
  cases value with
  | none => rfl
  | some b => simp [fromVec, intoVec, b.nonempty]

section RoundTrip

variable (abi : SolAbi)

/-- A struct that starts with its message type: its payload holds a first word,
and the word is read as that message type. -/
theorem header_of_leading {α : Type} {leading : α → Uint256}
    (c : SolCodec α leading) {a : α} {t : MessageType} (hleading : leading a = t.toU256) :
    decide (32 ≤ (c.encode a).length) = true ∧
      abi.decodeMessageType ((c.encode a).take 32) = some t := by
  refine ⟨decide_eq_true (c.le_length_encode a), ?_⟩
  rw [c.take_encode a, hleading]
  exact abi.decodeMessageType_word t

/-- Every message is decoded from its encoding. -/
theorem messageAbiDecode_messageAbiEncode (msg : Message) :
    messageAbiDecode abi (messageAbiEncode abi msg) = .ok msg := by
  cases msg with
  | interchainTransfer m =>
      obtain ⟨hlen, htype⟩ := header_of_leading abi abi.interchainTransfer
        (a := .ofMessage m) (t := .interchainTransfer) rfl
      rw [messageAbiEncode, messageAbiDecode]
      simp only [hlen, htype, abi.interchainTransfer.decode_encode]
      simp [ensure, okOr, bind, Except.bind, pure, Except.pure,
        Sol.InterchainTransfer.ofMessage]
  | deployInterchainToken m =>
      obtain ⟨hlen, htype⟩ := header_of_leading abi abi.deployInterchainToken
        (a := .ofMessage m) (t := .deployInterchainToken) rfl
      rw [messageAbiEncode, messageAbiDecode]
      simp only [hlen, htype, abi.deployInterchainToken.decode_encode]
      simp [ensure, okOr, bind, Except.bind, pure, Except.pure,
        Sol.DeployInterchainToken.ofMessage]
  | linkToken m =>
      obtain ⟨hlen, htype⟩ := header_of_leading abi abi.linkToken
        (a := .ofMessage m) (t := .linkToken) rfl
      rw [messageAbiEncode, messageAbiDecode]
      simp only [hlen, htype, abi.linkToken.decode_encode]
      simp [ensure, okOr, bind, Except.bind, pure, Except.pure,
        Sol.LinkToken.ofMessage]

/-- A hub message naming a chain: its struct is read back from its payload, and
so is the message nested in it. -/
theorem chainMessage_round_trip (t : MessageType) (chain : RouterApi.ChainNameRaw)
    (message : Message) :
    decide (32 ≤ (abi.chainMessage.encode ⟨t.toU256, chain.val, messageAbiEncode abi message⟩).length)
        = true ∧
      abi.decodeMessageType
        ((abi.chainMessage.encode ⟨t.toU256, chain.val, messageAbiEncode abi message⟩).take 32) =
        some t ∧
      abi.chainMessage.decode
          (abi.chainMessage.encode ⟨t.toU256, chain.val, messageAbiEncode abi message⟩) =
        some ⟨t.toU256, chain.val, messageAbiEncode abi message⟩ ∧
      messageAbiDecode abi (messageAbiEncode abi message) = .ok message := by
  obtain ⟨hlen, htype⟩ := header_of_leading abi abi.chainMessage
    (a := ⟨t.toU256, chain.val, messageAbiEncode abi message⟩) (t := t) rfl
  exact ⟨hlen, htype, abi.chainMessage.decode_encode _,
    messageAbiDecode_messageAbiEncode abi message⟩

/-- Every hub message is decoded from its encoding. -/
theorem hubMessageAbiDecode_hubMessageAbiEncode (m : HubMessage) :
    hubMessageAbiDecode abi (hubMessageAbiEncode abi m) = .ok m := by
  cases m with
  | sendToHub destinationChain message =>
      obtain ⟨hlen, htype, hdecode, hinner⟩ :=
        chainMessage_round_trip abi .sendToHub destinationChain message
      rw [hubMessageAbiEncode, hubMessageAbiDecode]
      simp only [hlen, htype, hdecode]
      simp [ensure, okOr, bind, Except.bind, pure, Except.pure, hinner]
  | receiveFromHub sourceChain message =>
      obtain ⟨hlen, htype, hdecode, hinner⟩ :=
        chainMessage_round_trip abi .receiveFromHub sourceChain message
      rw [hubMessageAbiEncode, hubMessageAbiDecode]
      simp only [hlen, htype, hdecode]
      simp [ensure, okOr, bind, Except.bind, pure, Except.pure, hinner]
  | registerTokenMetadata m =>
      obtain ⟨hlen, htype⟩ := header_of_leading abi abi.registerTokenMetadata
        (a := .ofMessage m) (t := .registerTokenMetadata) rfl
      rw [hubMessageAbiEncode, hubMessageAbiDecode]
      simp only [hlen, htype, abi.registerTokenMetadata.decode_encode]
      simp [ensure, okOr, bind, Except.bind, pure, Except.pure,
        Sol.RegisterTokenMetadata.ofMessage]

end RoundTrip

/-- The translator's round trip: for every codec alloy may give the `sol!`
structs, every hub message, and every message, is decoded from its encoding. -/
theorem hub_message_abi_round_trip (abi : SolAbi) :
    (∀ m : HubMessage, hubMessageAbiDecode abi (hubMessageAbiEncode abi m) = .ok m) ∧
    (∀ msg : Message, messageAbiDecode abi (messageAbiEncode abi msg) = .ok msg) :=
  ⟨hubMessageAbiDecode_hubMessageAbiEncode abi, messageAbiDecode_messageAbiEncode abi⟩

/-! ## A `SolAbi` that meets the laws -/

/-- `MessageType::abi_decode` of a word: a `uint8`, then one of the variants. -/
def decodeMessageType (w : List UInt8) : Option MessageType :=
  (Param.static w).asUint8 >>= fun value => MessageType.ofIndex value.toNat

@[simp]
theorem decodeMessageType_word (t : MessageType) : decodeMessageType (word t.index) = some t := by
  have hlt : t.index < 256 := lt_trans t.index_lt (by norm_num)
  have hbyte : (t.index.toUInt8).toNat = t.index := by
    simp [Nat.mod_eq_of_lt hlt]
  have hread : (Param.static (word t.index)).asUint8 = some t.index.toUInt8 := by
    have h := asUint8_uint t.index.toUInt8
    rwa [hbyte] at h
  simp [decodeMessageType, hread, hbyte]

/-- The fields of `InterchainTransfer` as parameters. -/
def interchainTransferCodec : Codec Sol.InterchainTransfer where
  params m := [uint m.messageType.val, bytes32 m.tokenId, bytes m.sourceAddress,
    bytes m.destinationAddress, uint m.amount.val, bytes m.data]
  ofParams
    | [messageType, tokenId, sourceAddress, destinationAddress, amount, data] => do
        return ⟨← messageType.asUint, ← tokenId.asBytes32, ← sourceAddress.asBytes,
          ← destinationAddress.asBytes, ← amount.asUint, ← data.asBytes⟩
    | _ => none
  ofParams_params _ := by simp

/-- `DeployInterchainToken`'s fields. -/
def deployInterchainTokenCodec : Codec Sol.DeployInterchainToken where
  params m := [uint m.messageType.val, bytes32 m.tokenId, string m.name, string m.symbol,
    uint m.decimals.toNat, bytes m.minter]
  ofParams
    | [messageType, tokenId, name, symbol, decimals, minter] => do
        return ⟨← messageType.asUint, ← tokenId.asBytes32, ← name.asString, ← symbol.asString,
          ← decimals.asUint8, ← minter.asBytes⟩
    | _ => none
  ofParams_params _ := by simp

/-- `LinkToken`'s fields. -/
def linkTokenCodec : Codec Sol.LinkToken where
  params m := [uint m.messageType.val, bytes32 m.tokenId, uint m.tokenManagerType.val,
    bytes m.sourceToken, bytes m.destinationToken, bytes m.params]
  ofParams
    | [messageType, tokenId, tokenManagerType, sourceToken, destinationToken, params] => do
        return ⟨← messageType.asUint, ← tokenId.asBytes32, ← tokenManagerType.asUint,
          ← sourceToken.asBytes, ← destinationToken.asBytes, ← params.asBytes⟩
    | _ => none
  ofParams_params _ := by simp

/-- `SendToHub`'s and `ReceiveFromHub`'s fields. -/
def chainMessageCodec : Codec Sol.ChainMessage where
  params m := [uint m.messageType.val, string m.chain, bytes m.message]
  ofParams
    | [messageType, chain, message] => do
        return ⟨← messageType.asUint, ← chain.asString, ← message.asBytes⟩
    | _ => none
  ofParams_params _ := by simp

/-- `RegisterTokenMetadata`'s fields. -/
def registerTokenMetadataCodec : Codec Sol.RegisterTokenMetadata where
  params m := [uint m.messageType.val, bytes m.tokenAddress, uint m.decimals.toNat]
  ofParams
    | [messageType, tokenAddress, decimals] => do
        return ⟨← messageType.asUint, ← tokenAddress.asBytes, ← decimals.asUint8⟩
    | _ => none
  ofParams_params _ := by simp

/-- A `SolAbi` meeting the laws: each struct's fields packed behind its message
type's word, and a word read as a `uint8` and its variant. -/
def packedAbi : SolAbi where
  interchainTransfer := interchainTransferCodec.packed _
  deployInterchainToken := deployInterchainTokenCodec.packed _
  linkToken := linkTokenCodec.packed _
  chainMessage := chainMessageCodec.packed _
  registerTokenMetadata := registerTokenMetadataCodec.packed _
  decodeMessageType := decodeMessageType
  decodeMessageType_word := decodeMessageType_word

/-- The chain `berachain`. -/
def berachain : RouterApi.ChainNameRaw := ⟨"berachain", by decide⟩

/-- A transfer of five units of a token sent to the hub for `berachain`, with no data. -/
def berachainTransfer : HubMessage :=
  .sendToHub berachain (.interchainTransfer
    { tokenId := Vector.replicate 32 9
      sourceAddress := ⟨[1], by simp⟩
      destinationAddress := ⟨[2, 3], by simp⟩
      amount := ⟨⟨5, by norm_num [uint256Bound]⟩, by norm_num⟩
      data := none })

/-- The transfer for `berachain` comes back from its packed encoding. -/
theorem hub_message_abi_round_trip_berachain :
    hubMessageAbiDecode packedAbi (hubMessageAbiEncode packedAbi berachainTransfer) =
      .ok berachainTransfer :=
  (hub_message_abi_round_trip packedAbi).1 berachainTransfer

end Amplifier.ItsAbiTranslator
