import Amplifier.RouterApi.Primitives
import Amplifier.Lib.Delimited

/-!
# Amplifier.RouterApi.HashPreimage — distinct messages hash distinct preimages

`Message::hash` feeds Keccak-256 the source chain, the message id, the source
address, the destination chain and the destination address, each followed by
`FIELD_DELIMITER`, and then the 32 bytes of the payload hash. The message id may
itself contain the delimiter and the payload hash may contain its byte `0x5F`,
so the preimage is read back from both ends (`hashPreimage_injective`):

* the payload hash is the last 32 bytes;
* what precedes it is the UTF-8 encoding of a string, which determines the
  string (`hashText`);
* in that string the source chain ends at the first delimiter, since chain names
  never contain one;
* the destination address, the destination chain and the source address end at
  the last, second-to-last and third-to-last delimiters, since addresses and
  chain names never contain one; what is left is the message id.
-/

namespace Amplifier.RouterApi

/-- The delimiter as the hasher receives it is the UTF-8 encoding of `FIELD_DELIMITER`. -/
theorem delimiterBytes_eq : delimiterBytes = (String.singleton fieldDelimiter).toByteArray := by
  decide

/-- The textual part of the preimage: the five string fields, each followed by the
delimiter. -/
def Message.hashText (m : Message) : String :=
  m.ccId.toString ++ String.singleton fieldDelimiter ++
    m.sourceAddress.val ++ String.singleton fieldDelimiter ++
    m.destinationChain.val ++ String.singleton fieldDelimiter ++
    m.destinationAddress.val ++ String.singleton fieldDelimiter

/-- The preimage is the UTF-8 encoding of the text followed by the payload hash. -/
theorem hashPreimage_eq (m : Message) :
    m.hashPreimage = m.hashText.toByteArray ++ ⟨m.payloadHash.toArray⟩ := by
  rw [Message.hashPreimage, delimiterBytes_eq]
  rfl

theorem delimiter_notMem_of_isRawChainName {s : String} (h : isRawChainName s = true) :
    fieldDelimiter ∉ s.toList := by
  simp only [isRawChainName, Bool.and_eq_true, Bool.not_eq_true', List.contains_eq_mem,
    decide_eq_false_iff_not] at h
  exact h.2

theorem delimiter_notMem_of_isAddress {s : String} (h : isAddress s = true) :
    fieldDelimiter ∉ s.toList := by
  simp only [isAddress, Bool.and_eq_true, Bool.not_eq_true', List.contains_eq_mem,
    decide_eq_false_iff_not] at h
  exact h.2

/-- The text as a list of characters: five fields, each followed by the delimiter. -/
theorem toList_hashText (m : Message) :
    m.hashText.toList =
      m.ccId.sourceChain.val.toList ++ fieldDelimiter ::
        (m.ccId.messageId.val.toList ++ fieldDelimiter ::
          (m.sourceAddress.val.toList ++ fieldDelimiter ::
            (m.destinationChain.val.toList ++ fieldDelimiter ::
              (m.destinationAddress.val.toList ++ [fieldDelimiter])))) := by
  simp [Message.hashText, CrossChainId.toString, String.toList_append]

/-- Reading five delimited fields back when all but the second are free of the
delimiter: the first from the front, the other three from the back. -/
theorem five_fields_inj {δ : Char} {c i s d a c' i' s' d' a' : List Char}
    (hc : δ ∉ c) (hc' : δ ∉ c') (hs : δ ∉ s) (hs' : δ ∉ s') (hd : δ ∉ d) (hd' : δ ∉ d')
    (ha : δ ∉ a) (ha' : δ ∉ a')
    (h : c ++ δ :: (i ++ δ :: (s ++ δ :: (d ++ δ :: (a ++ [δ])))) =
      c' ++ δ :: (i' ++ δ :: (s' ++ δ :: (d' ++ δ :: (a' ++ [δ]))))) :
    c = c' ∧ i = i' ∧ s = s' ∧ d = d' ∧ a = a' := by
  -- the source chain ends at the first delimiter
  obtain ⟨rfl, hrest⟩ := append_cons_inj_left hc hc' h
  -- the trailing delimiter comes off
  have hbody : i ++ δ :: (s ++ δ :: (d ++ δ :: a)) = i' ++ δ :: (s' ++ δ :: (d' ++ δ :: a')) := by
    have htrail : (i ++ δ :: (s ++ δ :: (d ++ δ :: a))) ++ [δ] =
        (i' ++ δ :: (s' ++ δ :: (d' ++ δ :: a'))) ++ [δ] := by
      simpa using hrest
    exact List.append_cancel_right htrail
  -- then the destination address, the destination chain and the source address
  -- end at the last remaining delimiter, one after the other
  have h₁ : (i ++ δ :: (s ++ δ :: d)) ++ δ :: a = (i' ++ δ :: (s' ++ δ :: d')) ++ δ :: a' := by
    simpa using hbody
  obtain ⟨h₂, rfl⟩ := append_cons_inj_right ha ha' h₁
  have h₂ : (i ++ δ :: s) ++ δ :: d = (i' ++ δ :: s') ++ δ :: d' := by simpa using h₂
  obtain ⟨h₃, rfl⟩ := append_cons_inj_right hd hd' h₂
  obtain ⟨rfl, rfl⟩ := append_cons_inj_right hs hs' h₃
  exact ⟨rfl, rfl, rfl, rfl, rfl⟩

/-- Equal texts come from equal string fields. -/
theorem fields_of_hashText_eq {m₁ m₂ : Message} (h : m₁.hashText = m₂.hashText) :
    m₁.ccId.sourceChain.val = m₂.ccId.sourceChain.val ∧
      m₁.ccId.messageId.val = m₂.ccId.messageId.val ∧
      m₁.sourceAddress.val = m₂.sourceAddress.val ∧
      m₁.destinationChain.val = m₂.destinationChain.val ∧
      m₁.destinationAddress.val = m₂.destinationAddress.val := by
  have hl := congrArg String.toList h
  rw [toList_hashText, toList_hashText] at hl
  obtain ⟨hc, hi, hs, hd, ha⟩ := five_fields_inj
    (delimiter_notMem_of_isRawChainName m₁.ccId.sourceChain.valid)
    (delimiter_notMem_of_isRawChainName m₂.ccId.sourceChain.valid)
    (delimiter_notMem_of_isAddress m₁.sourceAddress.valid)
    (delimiter_notMem_of_isAddress m₂.sourceAddress.valid)
    (delimiter_notMem_of_isRawChainName m₁.destinationChain.valid)
    (delimiter_notMem_of_isRawChainName m₂.destinationChain.valid)
    (delimiter_notMem_of_isAddress m₁.destinationAddress.valid)
    (delimiter_notMem_of_isAddress m₂.destinationAddress.valid) hl
  exact ⟨String.toList_injective hc, String.toList_injective hi, String.toList_injective hs,
    String.toList_injective hd, String.toList_injective ha⟩

/-- `Message::hash` feeds Keccak-256 a different byte string for every two
different messages. -/
theorem hashPreimage_injective : Function.Injective Message.hashPreimage := by
  intro m₁ m₂ h
  rw [hashPreimage_eq, hashPreimage_eq] at h
  have hbytes := congrArg (fun b : ByteArray => b.data.toList) h
  simp only [ByteArray.data_append, Array.toList_append] at hbytes
  -- the payload hash is the last 32 bytes on both sides
  obtain ⟨htext, hpayload⟩ := List.append_inj' hbytes (by simp)
  have htext' : m₁.hashText = m₂.hashText := by
    apply String.toByteArray_inj.mp
    apply ByteArray.ext
    exact Array.toList_inj.mp htext
  obtain ⟨hc, hi, hs, hd, ha⟩ := fields_of_hashText_eq htext'
  obtain ⟨⟨⟨c₁, _⟩, ⟨i₁, _⟩⟩, ⟨s₁, _⟩, ⟨d₁, _, _⟩, ⟨a₁, _⟩, p₁⟩ := m₁
  obtain ⟨⟨⟨c₂, _⟩, ⟨i₂, _⟩⟩, ⟨s₂, _⟩, ⟨d₂, _, _⟩, ⟨a₂, _⟩, p₂⟩ := m₂
  simp only at hc hi hs hd ha hpayload
  subst hc hi hs hd ha
  have hp : p₁ = p₂ := Vector.toArray_inj.mp (Array.toList_inj.mp hpayload)
  subst hp
  rfl

end Amplifier.RouterApi
