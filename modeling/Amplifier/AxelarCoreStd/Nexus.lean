import Amplifier.WasmStd.MsgId

/-!
# Amplifier.AxelarCoreStd.Nexus — the nexus module's messages

Axelar core's nexus module takes messages of its own type
(`nexus::execute::Message`): a router message with the hash and index of its
source transaction beside its id. The conversions of `execute.rs`:

* from a router message (`From`), the id is kept as text, and the source
  transaction is read off it when it is a hex hash and index
  (`HexTxHashAndEventIndex`); any other id gets 32 zero bytes and 0;
* to a router message (`TryFrom`), the id must not be empty, and the source
  transaction is dropped.

Results: a router message taken to the nexus and back is itself
(`toRouterMessage_ofRouterMessage`); a nexus message comes back from the router's
type as it was exactly when its source transaction is the one its id names
(`ofRouterMessage_toRouterMessage_iff`); and the source transaction read off an id
is its hash and index when the id is a printed `HexTxHashAndEventIndex`, the
zeros otherwise (`sourceTx_hexId`, `sourceTx_of_not_hexId`).
-/

namespace Amplifier.AxelarCoreStd.Nexus

open RouterApi WasmStd.MsgId

/-- `nexus::Error`: the variant the conversions return. -/
inductive Error where
  | invalidMessageId (id : String)

/-- `nonempty::Vec<u8>`. -/
abbrev NonemptyBytes := {bytes : List UInt8 // bytes ≠ []}

/-- `nexus::execute::Message`. -/
structure Message where
  sourceChain : ChainNameRaw
  sourceAddress : Address
  destinationChain : ChainName
  destinationAddress : Address
  payloadHash : Hash
  sourceTxId : NonemptyBytes
  sourceTxIndex : UInt64
  id : String
  deriving DecidableEq

/-- `nonempty::Vec::<u8>::try_from`, its error replaced by `err`. -/
def NonemptyBytes.tryFrom {ε : Type} (bytes : List UInt8) (err : ε) : Except ε NonemptyBytes :=
  if h : bytes = [] then .error err else .ok ⟨bytes, h⟩

theorem NonemptyBytes.tryFrom_eq_ok {ε : Type} {bytes : List UInt8} {err : ε}
    {v : NonemptyBytes} : tryFrom bytes err = .ok v ↔ v.val = bytes := by
  unfold tryFrom
  split_ifs with h
  · exact ⟨(fun h' => nomatch h'), fun hv => absurd (hv ▸ h) v.property⟩
  · constructor
    · rintro ⟨⟩
      rfl
    · obtain ⟨v, hv⟩ := v
      rintro rfl
      rfl

/-- `parse_message_id`: the hash and index of a hex id, the hash as a non-empty
byte vector. -/
def parseMessageId (messageId : String) : Except Error (NonemptyBytes × UInt64) := do
  let id ← (HexTxHashAndEventIndex.fromStr messageId.toByteArray.data.toList).mapError
    fun _ => .invalidMessageId messageId
  let txId ← NonemptyBytes.tryFrom id.txHash.toList (.invalidMessageId messageId)
  return (txId, id.eventIndex)

/-- The fallback of `From<router_api::Message>`: 32 zero bytes. -/
def zeroedMessageId : NonemptyBytes := ⟨List.replicate 32 0, by simp⟩

/-- `parse_message_id(..).unwrap_or((zeroed_message_id, 0))`. -/
def sourceTx (messageId : String) : NonemptyBytes × UInt64 :=
  match parseMessageId messageId with
  | .ok parsed => parsed
  | .error _ => (zeroedMessageId, 0)

/-- `From<router_api::Message> for Message`. -/
def ofRouterMessage (msg : RouterApi.Message) : Message where
  sourceChain := msg.ccId.sourceChain
  sourceAddress := msg.sourceAddress
  destinationChain := msg.destinationChain
  destinationAddress := msg.destinationAddress
  payloadHash := msg.payloadHash
  sourceTxId := (sourceTx msg.ccId.messageId.val).1
  sourceTxIndex := (sourceTx msg.ccId.messageId.val).2
  id := msg.ccId.messageId.val

/-- `TryFrom<Message> for router_api::Message`: the id must not be empty. -/
def Message.toRouterMessage (msg : Message) : Except Error RouterApi.Message :=
  if h : msg.id = "" then .error (.invalidMessageId msg.id)
  else .ok
    { ccId := ⟨msg.sourceChain, ⟨msg.id, h⟩⟩
      sourceAddress := msg.sourceAddress
      destinationChain := msg.destinationChain
      destinationAddress := msg.destinationAddress
      payloadHash := msg.payloadHash }

/-! ## Round trips -/

/-- A router message taken to the nexus and back is itself. -/
theorem toRouterMessage_ofRouterMessage (msg : RouterApi.Message) :
    (ofRouterMessage msg).toRouterMessage = .ok msg := by
  rw [Message.toRouterMessage,
    dif_neg (show (ofRouterMessage msg).id ≠ "" from msg.ccId.messageId.nonempty)]
  rfl

/-- A nexus message with a non-empty id converts, keeping every field but the
source transaction. -/
theorem toRouterMessage_eq_ok {msg : Message} {m : RouterApi.Message} :
    msg.toRouterMessage = .ok m ↔
      ofRouterMessage m =
        { msg with
          sourceTxId := (sourceTx msg.id).1
          sourceTxIndex := (sourceTx msg.id).2 } := by
  unfold Message.toRouterMessage
  split_ifs with hid
  · -- an empty id is refused, and no router message has one
    refine ⟨(fun h => nomatch h), fun h => absurd ?_ m.ccId.messageId.nonempty⟩
    rw [← hid]
    exact congrArg Message.id h
  · constructor
    · rintro ⟨⟩
      rfl
    · intro h
      obtain ⟨⟨sourceChain, ⟨messageId, hne⟩⟩, sourceAddress, destinationChain,
        destinationAddress, payloadHash⟩ := m
      simp only [ofRouterMessage, Message.mk.injEq] at h
      obtain ⟨rfl, rfl, rfl, rfl, rfl, -, -, rfl⟩ := h
      rfl

/-- A nexus message comes back from the router's type as it was exactly when its
source transaction is the one its id names. -/
theorem ofRouterMessage_toRouterMessage_iff {msg : Message} {m : RouterApi.Message}
    (h : msg.toRouterMessage = .ok m) :
    ofRouterMessage m = msg ↔ (msg.sourceTxId, msg.sourceTxIndex) = sourceTx msg.id := by
  rw [toRouterMessage_eq_ok.mp h]
  obtain ⟨sourceChain, sourceAddress, destinationChain, destinationAddress, payloadHash,
    sourceTxId, sourceTxIndex, id⟩ := msg
  simp only [Message.mk.injEq, Prod.ext_iff, true_and, and_true]
  constructor <;> rintro ⟨h₁, h₂⟩ <;> exact ⟨h₁.symm, h₂.symm⟩

/-! ## The source transaction of an id -/

/-- The text whose UTF-8 bytes are a printed hex id is that id's string. -/
theorem eq_toNonemptyString_of_bytes {messageId : String} {t : HexTxHashAndEventIndex}
    (h : messageId.toByteArray.data.toList = t.toString) :
    messageId = t.toNonemptyString.val := by
  apply String.toByteArray_inj.mp
  apply ByteArray.ext
  apply Array.ext'
  rw [h, HexTxHashAndEventIndex.toNonemptyString,
    toList_toByteArray_asciiString t.ascii_toString]

/-- `parse_message_id` reads exactly the printed hex ids. -/
theorem parseMessageId_eq_ok_iff {messageId : String} {parsed : NonemptyBytes × UInt64} :
    parseMessageId messageId = .ok parsed ↔
      ∃ t : HexTxHashAndEventIndex, messageId = t.toNonemptyString.val ∧
        parsed.1.val = t.txHash.toList ∧ parsed.2 = t.eventIndex := by
  constructor
  · intro h
    obtain ⟨t, ht, h⟩ := bind_eq_ok.mp h
    obtain ⟨txId, htx, h⟩ := bind_eq_ok.mp h
    cases h
    have hbytes := (HexTxHashAndEventIndex.fromStr_eq_ok_iff _ t).mp (mapError_eq_ok.mp ht)
    exact ⟨t, eq_toNonemptyString_of_bytes hbytes, NonemptyBytes.tryFrom_eq_ok.mp htx, rfl⟩
  · rintro ⟨t, rfl, htx, hidx⟩
    have ht := HexTxHashAndEventIndex.fromStr_toNonemptyString t
    refine bind_eq_ok.mpr ⟨t, mapError_eq_ok.mpr ht, ?_⟩
    refine bind_eq_ok.mpr ⟨parsed.1, NonemptyBytes.tryFrom_eq_ok.mpr htx, ?_⟩
    rw [← hidx]
    rfl

/-- The source transaction of a printed hex id is its hash and index. -/
theorem sourceTx_hexId (t : HexTxHashAndEventIndex) :
    (sourceTx t.toNonemptyString.val).1.val = t.txHash.toList ∧
      (sourceTx t.toNonemptyString.val).2 = t.eventIndex := by
  have h : parseMessageId t.toNonemptyString.val = .ok (⟨t.txHash.toList, by simp⟩, t.eventIndex) :=
    parseMessageId_eq_ok_iff.mpr ⟨t, rfl, rfl, rfl⟩
  rw [sourceTx, h]
  exact ⟨rfl, rfl⟩

/-- Any other id gets the zeros. -/
theorem sourceTx_of_not_hexId {messageId : String}
    (h : ∀ t : HexTxHashAndEventIndex, messageId ≠ t.toNonemptyString.val) :
    sourceTx messageId = (zeroedMessageId, 0) := by
  unfold sourceTx
  split
  · rename_i parsed hparsed
    obtain ⟨t, ht, -⟩ := parseMessageId_eq_ok_iff.mp hparsed
    exact absurd ht (h t)
  · rfl

theorem nonemptyString_eq_of_val : ∀ {a b : NonemptyString}, a.val = b.val → a = b
  | ⟨_, _⟩, ⟨_, _⟩, rfl => rfl

/-- The conversions between the router's messages and the nexus module's: a
router message goes to the nexus and back unchanged; a nexus message comes back
unchanged exactly when its source transaction is the one its id names; and that
is the hash and index of a printed hex id, 32 zero bytes and 0 for any other id. -/
theorem nexus_message_round_trip :
    (∀ msg : RouterApi.Message, (ofRouterMessage msg).toRouterMessage = .ok msg) ∧
    (∀ (msg : Message) (m : RouterApi.Message), msg.toRouterMessage = .ok m →
      (ofRouterMessage m = msg ↔ (msg.sourceTxId, msg.sourceTxIndex) = sourceTx msg.id)) ∧
    ∀ m : RouterApi.Message,
      (∀ t : HexTxHashAndEventIndex, m.ccId.messageId = t.toNonemptyString →
        (ofRouterMessage m).sourceTxId.val = t.txHash.toList ∧
          (ofRouterMessage m).sourceTxIndex = t.eventIndex) ∧
      ((∀ t : HexTxHashAndEventIndex, m.ccId.messageId ≠ t.toNonemptyString) →
        (ofRouterMessage m).sourceTxId = zeroedMessageId ∧ (ofRouterMessage m).sourceTxIndex = 0) := by
  refine ⟨toRouterMessage_ofRouterMessage, fun msg m h => ofRouterMessage_toRouterMessage_iff h,
    fun m => ⟨fun t ht => ?_, fun hnot => ?_⟩⟩
  · simp only [ofRouterMessage, ht]
    exact sourceTx_hexId t
  · -- an id that is no printed hex id, as a string, is none as a non-empty string either
    have hstr : ∀ t : HexTxHashAndEventIndex, m.ccId.messageId.val ≠ t.toNonemptyString.val :=
      fun t heq => hnot t (nonemptyString_eq_of_val heq)
    simp [ofRouterMessage, sourceTx_of_not_hexId hstr]

end Amplifier.AxelarCoreStd.Nexus
