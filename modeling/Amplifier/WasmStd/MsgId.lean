import Amplifier.Lib.Delimited
import Amplifier.Lib.Radix
import Amplifier.Lib.Transaction
import Amplifier.RouterApi.Primitives
import Amplifier.Starknet.CheckedFelt

/-!
# Amplifier.WasmStd.MsgId — message ids, parsed and printed

`msg_id` gives the message ids of each kind of chain a type, a `FromStr` that
matches a regex and decodes the groups it captures, and a `Display`. The
`MessageId` trait asks that two strings never parse to one id and two ids never
print alike: "there should be only one string that can identify a given message".

A message id is its UTF-8 bytes. Each regex is a first group free of `-`, a `-`
and a second group, so a match is the split at the first `-` (`splitFirst`)
with both groups checked (`capture`).

* `HexTxHashAndEventIndex`, `HexTxHash` — a hash in lower-case hex after `0x`;
* `Base58TxDigestAndEventIndex`, `Base58SolanaTxSignatureAndEventIndex` — a
  digest or a signature in Base58, of 32 to 44 and of 64 to 88 digits;
* `FieldElementAndEventIndex` — a felt in 64 lower-case hex digits after `0x`,
  the first of them `0`.

For each, `fromStr_eq_ok_iff`: a string parses to an id exactly when it is that
id printed. Both halves of the trait follow, and the router's `verify_msg_id`
accepts one string per id.
-/

namespace Amplifier.WasmStd.MsgId

open Radix RouterApi

/-! ## Errors and the pieces of an id -/

/-- `msg_id::Error`, an id as its bytes. `InvalidFieldElement` carries the
`CheckedFelt` error and the captured hash its text is written from. -/
inductive Error where
  | invalidMessageId (id : List UInt8) (expectedFormat : String)
  | eventIndexOverflow (id : List UInt8)
  | invalidTxHash (id : List UInt8)
  | invalidTxDigest (id : List UInt8)
  | invalidFieldElement (e : Starknet.Failure) (txId : List UInt8)

/-- `-`, between a hash and an index. -/
def dash : UInt8 := 45

/-- `.`, between the two Solana indices. -/
def dot : UInt8 := 46

/-- `<[u8; n]>::try_from(&[u8])`: the bytes, when there are `n` of them. -/
def toArrayOf (n : ℕ) (bytes : List UInt8) : Option (Vector UInt8 n) :=
  if h : bytes.length = n then some ⟨bytes.toArray, by simpa using h⟩ else none

theorem toArrayOf_eq_some_iff {n : ℕ} {bytes : List UInt8} {v : Vector UInt8 n} :
    toArrayOf n bytes = some v ↔ bytes = v.toList := by
  unfold toArrayOf
  constructor
  · intro h
    split_ifs at h with hlen
    cases h
    simp
  · rintro rfl
    rw [dif_pos (by simp)]
    simp only [Option.some.injEq]
    rfl

/-- `str::parse::<u64>` of the digits a regex captured. -/
def parseU64 (cs : List UInt8) : Option UInt64 := (parseDecimal 64 cs).map Nat.toUInt64

/-- `nonempty::Uint32`. -/
abbrev NonemptyUint32 := {n : UInt32 // 0 < n.toNat}

/-- `nonempty::Uint32::from_str`: `str::parse::<u32>`, then `try_from`, which
refuses zero. -/
def parseNonemptyUint32 (cs : List UInt8) : Option NonemptyUint32 :=
  match parseDecimal 32 cs with
  | some v => if h : 0 < v.toUInt32.toNat then some ⟨v.toUInt32, h⟩ else none
  | none => none

/-- A captured index parses to a `u64` exactly when it is that number printed. -/
theorem parseU64_eq_some_iff {cs : List UInt8} (hcs : isCanonicalDecimal cs = true)
    {e : UInt64} : parseU64 cs = some e ↔ cs = decimal e.toNat := by
  constructor
  · intro h
    obtain ⟨n, hn, rfl⟩ := Option.map_eq_some_iff.mp h
    unfold parseDecimal at hn
    split_ifs at hn with hlt
    cases hn
    rw [Nat.toUInt64_eq, UInt64.toNat_ofNat_of_lt' hlt, decimal_numeralValue hcs]
  · rintro rfl
    rw [parseU64, parseDecimal_decimal (UInt64.toNat_lt e)]
    simp

theorem isCanonicalDecimal_of_isPositiveDecimal {cs : List UInt8}
    (hcs : isPositiveDecimal cs = true) : isCanonicalDecimal cs = true := by
  simp [isCanonicalDecimal, hcs]

/-- A captured Solana index parses exactly when it is a nonzero `u32` printed. -/
theorem parseNonemptyUint32_eq_some_iff {cs : List UInt8} (hcs : isPositiveDecimal cs = true)
    {n : NonemptyUint32} : parseNonemptyUint32 cs = some n ↔ cs = decimal n.val.toNat := by
  constructor
  · intro h
    unfold parseNonemptyUint32 at h
    split at h
    · rename_i v hv
      split_ifs at h with hpos
      cases h
      unfold parseDecimal at hv
      split_ifs at hv with hlt
      cases hv
      have hvalue : (numeralValue decimalAlphabet cs).toUInt32.toNat =
          numeralValue decimalAlphabet cs := UInt32.toNat_ofNat_of_lt' hlt
      rw [hvalue, decimal_numeralValue (isCanonicalDecimal_of_isPositiveDecimal hcs)]
    · cases h
  · rintro rfl
    have hpos : 0 < n.val.toNat.toUInt32.toNat := by simpa using n.property
    simp only [parseNonemptyUint32, parseDecimal_decimal (UInt32.toNat_lt n.val), dif_pos hpos]
    simp

/-! ## The regexes -/

/-- The regex class `[0-9a-f]`. -/
def isLowerHexDigit (c : UInt8) : Bool := decide (48 ≤ c ∧ c ≤ 57) || decide (97 ≤ c ∧ c ≤ 102)

/-- The regex class `[1-9A-HJ-NP-Za-km-z]`. -/
def isBase58Digit (c : UInt8) : Bool :=
  decide (49 ≤ c ∧ c ≤ 57) || decide (65 ≤ c ∧ c ≤ 72) || decide (74 ≤ c ∧ c ≤ 78) ||
    decide (80 ≤ c ∧ c ≤ 90) || decide (97 ≤ c ∧ c ≤ 107) || decide (109 ≤ c ∧ c ≤ 122)

/-- The class is the digits `hex::encode` writes: checked over every byte. -/
theorem isLowerHexDigit_iff (c : UInt8) : isLowerHexDigit c = true ↔ c ∈ hexAlphabet := by
  revert c
  set_option maxRecDepth 4000 in decide

/-- The class is the Bitcoin alphabet of `bs58`: checked over every byte. -/
theorem isBase58Digit_iff (c : UInt8) : isBase58Digit c = true ↔ c ∈ base58Alphabet := by
  revert c
  set_option maxRecDepth 4000 in decide

/-- The regex `p[0-9a-f]{n}`, for a fixed start `p`. -/
def isHexRun (p : List UInt8) (n : ℕ) (a : List UInt8) : Bool :=
  a.take p.length == p && (a.drop p.length).length == n && (a.drop p.length).all isLowerHexDigit

/-- The regex `[1-9A-HJ-NP-Za-km-z]{lo,hi}`. -/
def isBase58Run (lo hi : ℕ) (a : List UInt8) : Bool :=
  decide (lo ≤ a.length ∧ a.length ≤ hi) && a.all isBase58Digit

theorem isHexRun_iff {p : List UInt8} {n : ℕ} {a : List UInt8} :
    isHexRun p n a = true ↔ ∃ digits, a = p ++ digits ∧ digits.length = n ∧
      ∀ c ∈ digits, c ∈ hexAlphabet := by
  simp only [isHexRun, Bool.and_eq_true, beq_iff_eq, List.all_eq_true, isLowerHexDigit_iff]
  constructor
  · rintro ⟨⟨htake, hlen⟩, hdigits⟩
    refine ⟨a.drop p.length, ?_, hlen, hdigits⟩
    conv_lhs => rw [← List.take_append_drop p.length a, htake]
  · rintro ⟨digits, rfl, hlen, hdigits⟩
    simp only [List.take_left', List.drop_left', hlen, and_self, true_and]
    exact hdigits

theorem isBase58Run_iff {lo hi : ℕ} {a : List UInt8} :
    isBase58Run lo hi a = true ↔ (lo ≤ a.length ∧ a.length ≤ hi) ∧ ∀ c ∈ a, c ∈ base58Alphabet := by
  simp [isBase58Run, isBase58Digit_iff]

/-- The groups of a regex `^(A)-(B)$`, or with another separator, whose first
group never holds the separator: the text before the first separator and the
text after it, each checked. -/
def capture (sep : UInt8) (first second : List UInt8 → Bool) (s : List UInt8) :
    Option (List UInt8 × List UInt8) :=
  match splitFirst sep s with
  | some (a, b) => if first a && second b then some (a, b) else none
  | none => none

theorem capture_eq_some_iff {sep : UInt8} {first second : List UInt8 → Bool}
    (hfirst : ∀ a, first a = true → sep ∉ a) {s a b : List UInt8} :
    capture sep first second s = some (a, b) ↔
      s = a ++ sep :: b ∧ first a = true ∧ second b = true := by
  constructor
  · intro h
    unfold capture at h
    split at h
    · rename_i a' b' hsplit
      split_ifs at h with hcheck
      cases h
      obtain ⟨h1, h2⟩ := Bool.and_eq_true_iff.mp hcheck
      exact ⟨(splitFirst_eq_some_iff.mp hsplit).1, h1, h2⟩
    · cases h
  · rintro ⟨rfl, h1, h2⟩
    rw [capture, splitFirst_eq_some_iff.mpr ⟨rfl, hfirst a h1⟩]
    simp [h1, h2]

/-- Neither `-` nor `.` is a hex digit, a Base58 digit or a decimal digit, nor in
`0x`. -/
theorem separators_not_mem :
    dash ∉ hexAlphabet ∧ dash ∉ base58Alphabet ∧ dash ∉ Starknet.zeroX ++ [48] ∧
      dot ∉ decimalAlphabet := by
  decide

theorem dash_not_mem_of_isHexRun {p : List UInt8} (hp : dash ∉ p) {n : ℕ} {a : List UInt8}
    (ha : isHexRun p n a = true) : dash ∉ a := by
  obtain ⟨digits, rfl, -, hdigits⟩ := isHexRun_iff.mp ha
  rw [List.mem_append]
  rintro (hdash | hdash)
  · exact hp hdash
  · exact separators_not_mem.1 (hdigits dash hdash)

theorem dash_not_mem_of_isBase58Run {lo hi : ℕ} {a : List UInt8}
    (ha : isBase58Run lo hi a = true) : dash ∉ a :=
  fun hdash => separators_not_mem.2.1 ((isBase58Run_iff.mp ha).2 dash hdash)

theorem dot_not_mem_of_isPositiveDecimal {a : List UInt8} (ha : isPositiveDecimal a = true) :
    dot ∉ a :=
  fun hdot => separators_not_mem.2.2.2 ((isPositiveDecimal_iff.mp ha).1 dot hdot)

/-! ## Decoding a hash -/

/-- `HexBinary::from_hex`, then `try_into` an array of `n` bytes, both failing
with `err`. -/
def decodeHex (n : ℕ) (err : Error) (hex : List UInt8) : Except Error (Vector UInt8 n) := do
  let bytes ← (hexDecode hex).mapError fun _ => err
  okOr (toArrayOf n bytes) err

/-- `bs58::decode(..).into_vec()`, then `try_into` an array of `n` bytes, both
failing with `err`. -/
def decodeBase58 (n : ℕ) (err : Error) (s : List UInt8) : Except Error (Vector UInt8 n) := do
  let bytes ← okOr (bs58Decode s) err
  okOr (toArrayOf n bytes) err

/-- Lower-case digits decode to an array exactly when they are its print. -/
theorem decodeHex_eq_ok_iff {n : ℕ} {err : Error} {hex : List UInt8}
    (hhex : ∀ c ∈ hex, c ∈ hexAlphabet) {v : Vector UInt8 n} :
    decodeHex n err hex = .ok v ↔ hex = hexEncode v.toList := by
  constructor
  · intro h
    obtain ⟨bytes, hbytes, hv⟩ := bind_eq_ok.mp h
    rw [toArrayOf_eq_some_iff.mp (okOr_eq_ok.mp hv)] at hbytes
    exact (hexEncode_of_hexDecode hhex (mapError_eq_ok.mp hbytes)).symm
  · rintro rfl
    exact bind_eq_ok.mpr ⟨v.toList, mapError_eq_ok.mpr (hexDecode_hexEncode _),
      okOr_eq_ok.mpr (toArrayOf_eq_some_iff.mpr rfl)⟩

/-- Base58 decodes to an array exactly when it is its print. -/
theorem decodeBase58_eq_ok_iff {n : ℕ} {err : Error} {s : List UInt8} {v : Vector UInt8 n} :
    decodeBase58 n err s = .ok v ↔ s = bs58Encode v.toList := by
  constructor
  · intro h
    obtain ⟨bytes, hbytes, hv⟩ := bind_eq_ok.mp h
    rw [toArrayOf_eq_some_iff.mp (okOr_eq_ok.mp hv)] at hbytes
    exact (bs58Encode_bs58Decode (okOr_eq_ok.mp hbytes)).symm
  · rintro rfl
    exact bind_eq_ok.mpr ⟨v.toList, okOr_eq_ok.mpr (bs58Decode_bs58Encode _),
      okOr_eq_ok.mpr (toArrayOf_eq_some_iff.mpr rfl)⟩

/-! ## `HexTxHashAndEventIndex` -/

/-- `tx_hash_event_index::PATTERN`. -/
def hexTxHashAndEventIndexPattern : String := "^(0x[0-9a-f]\x7b64\x7d)-(0|[1-9][0-9]*)$"

/-- `HexTxHashAndEventIndex`. -/
@[ext]
structure HexTxHashAndEventIndex where
  txHash : Hash
  eventIndex : UInt64
  deriving DecidableEq

/-- `HexTxHashAndEventIndex::from_str`: the hash after `0x`, then the index. -/
def HexTxHashAndEventIndex.fromStr (messageId : List UInt8) :
    Except Error HexTxHashAndEventIndex := do
  let (txId, eventIndex) ← okOr
    (capture dash (isHexRun Starknet.zeroX 64) isCanonicalDecimal messageId)
    (.invalidMessageId messageId hexTxHashAndEventIndexPattern)
  let txHash ← decodeHex 32 (.invalidTxHash messageId) (txId.drop 2)
  let eventIndex ← okOr (parseU64 eventIndex) (.eventIndexOverflow messageId)
  return ⟨txHash, eventIndex⟩

/-- `Display for HexTxHashAndEventIndex`: `0x{hash}-{index}`. -/
def HexTxHashAndEventIndex.toString (t : HexTxHashAndEventIndex) : List UInt8 :=
  Starknet.zeroX ++ hexEncode t.txHash.toList ++ dash :: decimal t.eventIndex.toNat

theorem drop_two_zeroX_append (l : List UInt8) : (Starknet.zeroX ++ l).drop 2 = l :=
  List.drop_left' rfl

theorem dash_not_mem_hexTxId (a : List UInt8) (ha : isHexRun Starknet.zeroX 64 a = true) :
    dash ∉ a :=
  dash_not_mem_of_isHexRun (by decide) ha

/-- The hash of a hex id: `0x` and 64 lower-case digits decode to a hash exactly
when they are its print. -/
theorem decodeHex_hexTxId_eq_ok_iff {err : Error} {a : List UInt8}
    (ha : isHexRun Starknet.zeroX 64 a = true) {txHash : Hash} :
    decodeHex 32 err (a.drop 2) = .ok txHash ↔ a = Starknet.zeroX ++ hexEncode txHash.toList := by
  obtain ⟨digits, rfl, -, hdigits⟩ := isHexRun_iff.mp ha
  rw [drop_two_zeroX_append, decodeHex_eq_ok_iff hdigits, List.append_cancel_left_eq]

/-- A string parses to a hex hash and index exactly when it is their print. -/
theorem HexTxHashAndEventIndex.fromStr_eq_ok_iff (s : List UInt8) (t : HexTxHashAndEventIndex) :
    fromStr s = .ok t ↔ s = t.toString := by
  constructor
  · intro h
    obtain ⟨⟨txId, eventIndex⟩, hcap, h⟩ := bind_eq_ok.mp h
    obtain ⟨rfl, hfirst, hsecond⟩ :=
      (capture_eq_some_iff dash_not_mem_hexTxId).mp (okOr_eq_ok.mp hcap)
    obtain ⟨txHash, hhash, h⟩ := bind_eq_ok.mp h
    obtain ⟨e, he, h⟩ := bind_eq_ok.mp h
    cases h
    rw [toString, ← (decodeHex_hexTxId_eq_ok_iff hfirst).mp hhash,
      ← (parseU64_eq_some_iff hsecond).mp (okOr_eq_ok.mp he)]
  · rintro rfl
    have hfirst : isHexRun Starknet.zeroX 64 (Starknet.zeroX ++ hexEncode t.txHash.toList) :=
      isHexRun_iff.mpr ⟨_, rfl, by simp, fun c hc => mem_hexEncode hc⟩
    have hcap : capture dash (isHexRun Starknet.zeroX 64) isCanonicalDecimal t.toString =
        some (Starknet.zeroX ++ hexEncode t.txHash.toList, decimal t.eventIndex.toNat) :=
      (capture_eq_some_iff dash_not_mem_hexTxId).mpr
        ⟨rfl, hfirst, isCanonicalDecimal_decimal _⟩
    refine bind_eq_ok.mpr ⟨_, okOr_eq_ok.mpr hcap, ?_⟩
    refine bind_eq_ok.mpr ⟨t.txHash, (decodeHex_hexTxId_eq_ok_iff hfirst).mpr rfl, ?_⟩
    exact bind_eq_ok.mpr ⟨t.eventIndex,
      okOr_eq_ok.mpr ((parseU64_eq_some_iff (isCanonicalDecimal_decimal _)).mpr rfl), rfl⟩

/-- A printed hex id is ASCII: `0x`, hex digits, a dash and decimal digits. -/
theorem HexTxHashAndEventIndex.ascii_toString (t : HexTxHashAndEventIndex) :
    ∀ b ∈ t.toString, b.toNat < 128 := by
  have hhex : ∀ c ∈ hexAlphabet, c.toNat < 128 := by
    set_option maxRecDepth 4000 in decide
  have hdec : ∀ c ∈ decimalAlphabet, c.toNat < 128 := by
    set_option maxRecDepth 4000 in decide
  intro b hb
  simp only [toString, List.mem_append, List.mem_cons] at hb
  rcases hb with (hb | hb) | rfl | hb
  · simp only [Starknet.zeroX, List.mem_cons, List.not_mem_nil, or_false] at hb
    rcases hb with rfl | rfl <;> decide
  · exact hhex b (mem_hexEncode hb)
  · decide
  · exact hdec b (mem_decimal hb)

/-- `From<HexTxHashAndEventIndex> for nonempty::String`: the print, which starts
with `0x`, so that the conversion's `expect` never fires. -/
def HexTxHashAndEventIndex.toNonemptyString (t : HexTxHashAndEventIndex) : NonemptyString :=
  ⟨asciiString t.toString, fun h => by
    simp [asciiString_eq_empty, toString, Starknet.zeroX] at h⟩

/-- The string of a hex id parses back to it. -/
theorem HexTxHashAndEventIndex.fromStr_toNonemptyString (t : HexTxHashAndEventIndex) :
    fromStr t.toNonemptyString.val.toByteArray.data.toList = .ok t := by
  rw [toNonemptyString, toList_toByteArray_asciiString t.ascii_toString, fromStr_eq_ok_iff]

/-! ## `HexTxHash` -/

/-- `tx_hash::PATTERN`. -/
def hexTxHashPattern : String := "^0x[0-9a-f]\x7b64\x7d$"

/-- `HexTxHash`. -/
@[ext]
structure HexTxHash where
  txHash : Hash
  deriving DecidableEq

/-- `HexTxHash::from_str`: the whole id is `0x` and the hash. -/
def HexTxHash.fromStr (messageId : List UInt8) : Except Error HexTxHash := do
  ensure (isHexRun Starknet.zeroX 64 messageId) (.invalidMessageId messageId hexTxHashPattern)
  let txHash ← decodeHex 32 (.invalidTxHash messageId) (messageId.drop 2)
  return ⟨txHash⟩

/-- `Display for HexTxHash`: `0x{hash}`. -/
def HexTxHash.toString (t : HexTxHash) : List UInt8 := Starknet.zeroX ++ hexEncode t.txHash.toList

/-- A string parses to a hex hash exactly when it is its print. -/
theorem HexTxHash.fromStr_eq_ok_iff (s : List UInt8) (t : HexTxHash) :
    fromStr s = .ok t ↔ s = t.toString := by
  constructor
  · intro h
    obtain ⟨u, hmatch, h⟩ := bind_eq_ok.mp h
    have hrun := ensure_eq_ok.mp hmatch
    obtain ⟨txHash, hhash, h⟩ := bind_eq_ok.mp h
    cases h
    exact (decodeHex_hexTxId_eq_ok_iff hrun).mp hhash
  · rintro rfl
    have hrun : isHexRun Starknet.zeroX 64 t.toString :=
      isHexRun_iff.mpr ⟨_, rfl, by simp, fun c hc => mem_hexEncode hc⟩
    refine bind_eq_ok.mpr ⟨(), ensure_eq_ok.mpr hrun, ?_⟩
    exact bind_eq_ok.mpr ⟨t.txHash, (decodeHex_hexTxId_eq_ok_iff hrun).mpr rfl, rfl⟩

/-! ## `Base58TxDigestAndEventIndex` -/

/-- `base_58_event_index::PATTERN`. -/
def base58TxDigestAndEventIndexPattern : String :=
  "^([1-9A-HJ-NP-Za-km-z]\x7b32,44\x7d)-(0|[1-9][0-9]*)$"

/-- `Base58TxDigestAndEventIndex`. -/
@[ext]
structure Base58TxDigestAndEventIndex where
  txDigest : Hash
  eventIndex : UInt64
  deriving DecidableEq

/-- `Base58TxDigestAndEventIndex::from_str`: the digest in Base58, then the index. -/
def Base58TxDigestAndEventIndex.fromStr (messageId : List UInt8) :
    Except Error Base58TxDigestAndEventIndex := do
  let (txId, eventIndex) ← okOr
    (capture dash (isBase58Run 32 44) isCanonicalDecimal messageId)
    (.invalidMessageId messageId base58TxDigestAndEventIndexPattern)
  let txDigest ← decodeBase58 32 (.invalidTxDigest messageId) txId
  let eventIndex ← okOr (parseU64 eventIndex) (.eventIndexOverflow messageId)
  return ⟨txDigest, eventIndex⟩

/-- `Display for Base58TxDigestAndEventIndex`: `{digest}-{index}`. -/
def Base58TxDigestAndEventIndex.toString (t : Base58TxDigestAndEventIndex) : List UInt8 :=
  bs58Encode t.txDigest.toList ++ dash :: decimal t.eventIndex.toNat

/-- The Base58 print of `n` bytes is in the regex's window of `n` to `n + e`
digits when `58 ^ (n + e)` holds every value of `n` bytes. -/
theorem isBase58Run_bs58Encode {n e : ℕ} (hpow : 256 ^ n ≤ 58 ^ (n + e)) {bytes : List UInt8}
    (hlen : bytes.length = n) : isBase58Run n (n + e) (bs58Encode bytes) = true :=
  isBase58Run_iff.mpr ⟨⟨hlen ▸ length_le_length_bs58Encode bytes, length_bs58Encode_le hpow hlen⟩,
    fun _ hc => mem_bs58Encode hc⟩

/-- A string parses to a Base58 digest and index exactly when it is their print. -/
theorem Base58TxDigestAndEventIndex.fromStr_eq_ok_iff (s : List UInt8)
    (t : Base58TxDigestAndEventIndex) : fromStr s = .ok t ↔ s = t.toString := by
  constructor
  · intro h
    obtain ⟨⟨txId, eventIndex⟩, hcap, h⟩ := bind_eq_ok.mp h
    obtain ⟨rfl, -, hsecond⟩ :=
      (capture_eq_some_iff fun _ => dash_not_mem_of_isBase58Run).mp (okOr_eq_ok.mp hcap)
    obtain ⟨txDigest, hdigest, h⟩ := bind_eq_ok.mp h
    obtain ⟨e, he, h⟩ := bind_eq_ok.mp h
    cases h
    rw [toString, ← decodeBase58_eq_ok_iff.mp hdigest,
      ← (parseU64_eq_some_iff hsecond).mp (okOr_eq_ok.mp he)]
  · rintro rfl
    -- 32 bytes print in 32 to 44 digits
    have hfirst : isBase58Run 32 44 (bs58Encode t.txDigest.toList) :=
      isBase58Run_bs58Encode (n := 32) (e := 12) (by norm_num) (by simp)
    have hcap : capture dash (isBase58Run 32 44) isCanonicalDecimal t.toString =
        some (bs58Encode t.txDigest.toList, decimal t.eventIndex.toNat) :=
      (capture_eq_some_iff fun _ => dash_not_mem_of_isBase58Run).mpr
        ⟨rfl, hfirst, isCanonicalDecimal_decimal _⟩
    refine bind_eq_ok.mpr ⟨_, okOr_eq_ok.mpr hcap, ?_⟩
    refine bind_eq_ok.mpr ⟨t.txDigest, decodeBase58_eq_ok_iff.mpr rfl, ?_⟩
    exact bind_eq_ok.mpr ⟨t.eventIndex,
      okOr_eq_ok.mpr ((parseU64_eq_some_iff (isCanonicalDecimal_decimal _)).mpr rfl), rfl⟩

/-! ## `Base58SolanaTxSignatureAndEventIndex` -/

/-- `base_58_solana_event_index::PATTERN`. -/
def base58SolanaTxSignatureAndEventIndexPattern : String :=
  "^([1-9A-HJ-NP-Za-km-z]\x7b64,88\x7d)-([1-9][0-9]*)\\.([1-9][0-9]*)$"

/-- `Base58SolanaTxSignatureAndEventIndex`: the indices count from one. -/
@[ext]
structure Base58SolanaTxSignatureAndEventIndex where
  rawSignature : Vector UInt8 64
  innerIxGroupIndex : NonemptyUint32
  innerIxIndex : NonemptyUint32
  deriving DecidableEq

/-- `decode_b58_signature`: its errors name the signature, not the id. -/
def decodeB58Signature (signature : List UInt8) : Except Error (Vector UInt8 64) :=
  decodeBase58 64 (.invalidTxDigest signature) signature

/-- The regex `[1-9][0-9]*\.[1-9][0-9]*` of the two indices. -/
def isSolanaIndices (indices : List UInt8) : Bool :=
  (capture dot isPositiveDecimal isPositiveDecimal indices).isSome

/-- The three groups of the Solana regex. -/
def captureSolana (messageId : List UInt8) : Option (List UInt8 × List UInt8 × List UInt8) :=
  match capture dash (isBase58Run 64 88) isSolanaIndices messageId with
  | some (signature, indices) =>
      match capture dot isPositiveDecimal isPositiveDecimal indices with
      | some (innerIxGroupIndex, innerIxIndex) => some (signature, innerIxGroupIndex, innerIxIndex)
      | none => none
  | none => none

theorem captureSolana_eq_some_iff {s signature group index : List UInt8} :
    captureSolana s = some (signature, group, index) ↔
      s = signature ++ dash :: (group ++ dot :: index) ∧ isBase58Run 64 88 signature = true ∧
        isPositiveDecimal group = true ∧ isPositiveDecimal index = true := by
  have hdash : ∀ {s a b : List UInt8},
      capture dash (isBase58Run 64 88) isSolanaIndices s = some (a, b) ↔
        s = a ++ dash :: b ∧ isBase58Run 64 88 a = true ∧ isSolanaIndices b = true :=
    capture_eq_some_iff fun _ => dash_not_mem_of_isBase58Run
  have hdot : ∀ {s a b : List UInt8},
      capture dot isPositiveDecimal isPositiveDecimal s = some (a, b) ↔
        s = a ++ dot :: b ∧ isPositiveDecimal a = true ∧ isPositiveDecimal b = true :=
    capture_eq_some_iff fun _ => dot_not_mem_of_isPositiveDecimal
  constructor
  · intro h
    unfold captureSolana at h
    split at h
    · rename_i signature' indices hcap
      split at h
      · rename_i group' index' hind
        cases h
        obtain ⟨rfl, hsignature, -⟩ := hdash.mp hcap
        obtain ⟨rfl, hgroup, hindex⟩ := hdot.mp hind
        exact ⟨rfl, hsignature, hgroup, hindex⟩
      · cases h
    · cases h
  · rintro ⟨rfl, hsignature, hgroup, hindex⟩
    have hind := hdot.mpr ⟨rfl, hgroup, hindex⟩
    have hcap := (hdash (a := signature) (b := group ++ dot :: index)).mpr
      ⟨rfl, hsignature, by simp [isSolanaIndices, hind]⟩
    simp [captureSolana, hcap, hind]

/-- `Base58SolanaTxSignatureAndEventIndex::from_str`: the signature in Base58,
then the two nonzero indices. -/
def Base58SolanaTxSignatureAndEventIndex.fromStr (messageId : List UInt8) :
    Except Error Base58SolanaTxSignatureAndEventIndex := do
  let (signature, innerIxGroupIndex, innerIxIndex) ← okOr (captureSolana messageId)
    (.invalidMessageId messageId base58SolanaTxSignatureAndEventIndexPattern)
  let rawSignature ← decodeB58Signature signature
  let innerIxGroupIndex ← okOr (parseNonemptyUint32 innerIxGroupIndex)
    (.eventIndexOverflow messageId)
  let innerIxIndex ← okOr (parseNonemptyUint32 innerIxIndex) (.eventIndexOverflow messageId)
  return ⟨rawSignature, innerIxGroupIndex, innerIxIndex⟩

/-- `Display for Base58SolanaTxSignatureAndEventIndex`: `{signature}-{group}.{index}`. -/
def Base58SolanaTxSignatureAndEventIndex.toString (t : Base58SolanaTxSignatureAndEventIndex) :
    List UInt8 :=
  bs58Encode t.rawSignature.toList ++
    dash :: (decimal t.innerIxGroupIndex.val.toNat ++ dot :: decimal t.innerIxIndex.val.toNat)

/-- A string parses to a Solana signature and indices exactly when it is their print. -/
theorem Base58SolanaTxSignatureAndEventIndex.fromStr_eq_ok_iff (s : List UInt8)
    (t : Base58SolanaTxSignatureAndEventIndex) : fromStr s = .ok t ↔ s = t.toString := by
  constructor
  · intro h
    obtain ⟨⟨signature, group, index⟩, hcap, h⟩ := bind_eq_ok.mp h
    obtain ⟨rfl, -, hgroup, hindex⟩ := captureSolana_eq_some_iff.mp (okOr_eq_ok.mp hcap)
    obtain ⟨rawSignature, hsignature, h⟩ := bind_eq_ok.mp h
    obtain ⟨g, hg, h⟩ := bind_eq_ok.mp h
    obtain ⟨i, hi, h⟩ := bind_eq_ok.mp h
    cases h
    rw [toString, ← decodeBase58_eq_ok_iff.mp hsignature,
      ← (parseNonemptyUint32_eq_some_iff hgroup).mp (okOr_eq_ok.mp hg),
      ← (parseNonemptyUint32_eq_some_iff hindex).mp (okOr_eq_ok.mp hi)]
  · rintro rfl
    -- 64 bytes print in 64 to 88 digits, and nonzero indices without a leading zero
    have hsignature : isBase58Run 64 88 (bs58Encode t.rawSignature.toList) :=
      isBase58Run_bs58Encode (n := 64) (e := 24) (by norm_num) (by simp)
    have hgroup := isPositiveDecimal_decimal (Nat.pos_iff_ne_zero.mp t.innerIxGroupIndex.property)
    have hindex := isPositiveDecimal_decimal (Nat.pos_iff_ne_zero.mp t.innerIxIndex.property)
    refine bind_eq_ok.mpr ⟨_, okOr_eq_ok.mpr (captureSolana_eq_some_iff.mpr
      ⟨rfl, hsignature, hgroup, hindex⟩), ?_⟩
    refine bind_eq_ok.mpr ⟨t.rawSignature, decodeBase58_eq_ok_iff.mpr rfl, ?_⟩
    refine bind_eq_ok.mpr ⟨t.innerIxGroupIndex,
      okOr_eq_ok.mpr ((parseNonemptyUint32_eq_some_iff hgroup).mpr rfl), ?_⟩
    exact bind_eq_ok.mpr ⟨t.innerIxIndex,
      okOr_eq_ok.mpr ((parseNonemptyUint32_eq_some_iff hindex).mpr rfl), rfl⟩

/-! ## `FieldElementAndEventIndex` -/

/-- `starknet_field_element_event_index::PATTERN`: a felt needs at most 63 digits,
and the pattern wants 64, so the first is a `0`. -/
def fieldElementAndEventIndexPattern : String := "^(0x0[0-9a-f]\x7b63\x7d)-(0|[1-9][0-9]*)$"

/-- `FieldElementAndEventIndex`. -/
@[ext]
structure FieldElementAndEventIndex where
  txHash : Starknet.CheckedFelt
  eventIndex : UInt64
  deriving DecidableEq

/-- `FieldElementAndEventIndex::from_str`: `CheckedFelt::from_str` of the
captured hash, then the index. -/
def FieldElementAndEventIndex.fromStr (messageId : List UInt8) :
    Except Error FieldElementAndEventIndex := do
  let (txId, eventIndex) ← okOr
    (capture dash (isHexRun (Starknet.zeroX ++ [48]) 63) isCanonicalDecimal messageId)
    (.invalidMessageId messageId fieldElementAndEventIndexPattern)
  let felt ← (Starknet.fromStr txId).mapError fun e => Error.invalidFieldElement e txId
  let eventIndex ← okOr (parseU64 eventIndex) (.eventIndexOverflow messageId)
  return ⟨felt, eventIndex⟩

/-- `Display for FieldElementAndEventIndex`: `0x{:064x}-{}`, the felt in
lower-case hex padded with zeros to 64 digits. -/
def FieldElementAndEventIndex.toString (t : FieldElementAndEventIndex) : List UInt8 :=
  Starknet.zeroX ++ List.leftpad 64 48 (lowerHex t.txHash.value) ++
    dash :: decimal t.eventIndex.toNat

theorem dash_not_mem_feltTxId (a : List UInt8)
    (ha : isHexRun (Starknet.zeroX ++ [48]) 63 a = true) : dash ∉ a :=
  dash_not_mem_of_isHexRun separators_not_mem.2.2.1 ha

theorem isHexDigit_of_mem_hexAlphabet : ∀ c ∈ hexAlphabet, IsHexDigit c := by
  set_option maxRecDepth 4000 in decide

/-- A felt is below `16 ^ 63`: its hex numeral has at most 63 digits. -/
theorem length_numeral_felt_le (f : Starknet.CheckedFelt) :
    (numeral hexAlphabet f.value).length ≤ 63 := by
  have hlt : f.value < 16 ^ 63 := by
    have hmax : Starknet.feltMaxU256 < 16 ^ 63 := by
      rw [Starknet.feltMaxU256_eq]
      norm_num
    exact lt_of_le_of_lt f.le_max hmax
  rw [length_numeral, length_hexAlphabet]
  exact (Nat.digits_length_le_iff (by norm_num) _).mpr hlt

/-- A felt prints as `0x0` and 63 lower-case digits. -/
theorem isHexRun_felt (f : Starknet.CheckedFelt) :
    isHexRun (Starknet.zeroX ++ [48]) 63
      (Starknet.zeroX ++ List.leftpad 64 48 (lowerHex f.value)) = true := by
  have hlen := length_numeral_felt_le f
  set digits := numeral hexAlphabet f.value
  -- the padding puts at least one `0` in front
  have hpad : List.leftpad 64 48 digits = 48 :: List.leftpad 63 48 digits := by
    rw [List.leftpad, List.leftpad, show 64 - digits.length = 63 - digits.length + 1 by omega,
      List.replicate_succ, List.cons_append]
  have hzero : (48 : UInt8) ∈ hexAlphabet := by decide
  refine isHexRun_iff.mpr ⟨List.leftpad 63 48 digits, ?_, ?_, ?_⟩
  · rw [leftpad_lowerHex (by norm_num), hpad, List.append_assoc, List.singleton_append]
  · rw [List.length_leftpad]
    omega
  · intro c hc
    rw [List.leftpad, List.mem_append] at hc
    rcases hc with hc | hc
    · rw [List.eq_of_mem_replicate hc]
      exact hzero
    · exact mem_numeral one_lt_length_hexAlphabet hc

/-- The felt of an id: `0x0` and 63 lower-case digits parse to a felt exactly
when they are its print. -/
theorem fromStr_feltTxId_eq_ok_iff {a : List UInt8}
    (ha : isHexRun (Starknet.zeroX ++ [48]) 63 a = true) {f : Starknet.CheckedFelt} :
    Starknet.fromStr a = .ok f ↔ a = Starknet.zeroX ++ List.leftpad 64 48 (lowerHex f.value) := by
  obtain ⟨rest, rfl, hlen, hrest⟩ := isHexRun_iff.mp ha
  set digits : List UInt8 := 48 :: rest
  have hsplit : Starknet.zeroX ++ [48] ++ rest = Starknet.zeroX ++ digits := by simp [digits]
  have hlen64 : digits.length = 64 := by simp [digits, hlen]
  have hdigits : ∀ c ∈ digits, c ∈ hexAlphabet := by
    intro c hc
    rcases List.mem_cons.mp hc with rfl | hc
    · decide
    · exact hrest c hc
  -- the digits are the padded print of the number they write
  have hpad : List.leftpad 64 48 (lowerHex (hexValue digits)) = digits := by
    have h := leftpad_numeral_numeralValue hexAlphabet_nodup one_lt_length_hexAlphabet hdigits
    rw [digitByte_hexAlphabet_zero, hlen64] at h
    rw [leftpad_lowerHex (by norm_num), hexValue_eq_numeralValue hdigits, h]
  rw [hsplit]
  constructor
  · intro h
    obtain ⟨k, digits', hs, hlen', -, hvalue⟩ := (Starknet.fromStr_eq_ok_iff _ f).mp h
    -- one `0x` only: the id has room for 64 digits after it
    have hk : k = 0 := by
      have hlength := congrArg List.length hs
      simp [Starknet.zeroX, List.length_flatten, hlen64, hlen'] at hlength
      omega
    subst hk
    have hdigits' : digits' = digits := by
      simpa using hs.symm
    rw [← hvalue, hdigits', hpad]
  · intro h
    have hdigits_eq : digits = List.leftpad 64 48 (lowerHex f.value) := List.append_cancel_left h
    have hvalue : hexValue digits = f.value := by
      rw [hexValue_eq_numeralValue hdigits, hdigits_eq, leftpad_lowerHex (by norm_num),
        ← digitByte_hexAlphabet_zero,
        numeralValue_leftpad hexAlphabet_nodup one_lt_length_hexAlphabet]
    have hle : hexValue digits ≤ Starknet.feltMaxU256 := hvalue ▸ f.le_max
    have hparse := Starknet.fromStr_eq_ok_of_digits 0 hlen64
      (fun c hc => isHexDigit_of_mem_hexAlphabet c (hdigits c hc)) hle
    rw [show (List.replicate (0 + 1) Starknet.zeroX).flatten ++ digits = Starknet.zeroX ++ digits by
      simp] at hparse
    rw [hparse]
    exact congrArg Except.ok (Starknet.CheckedFelt.ext hvalue)

/-- A string parses to a felt and an index exactly when it is their print. -/
theorem FieldElementAndEventIndex.fromStr_eq_ok_iff (s : List UInt8)
    (t : FieldElementAndEventIndex) : fromStr s = .ok t ↔ s = t.toString := by
  constructor
  · intro h
    obtain ⟨⟨txId, eventIndex⟩, hcap, h⟩ := bind_eq_ok.mp h
    obtain ⟨rfl, hfirst, hsecond⟩ :=
      (capture_eq_some_iff dash_not_mem_feltTxId).mp (okOr_eq_ok.mp hcap)
    obtain ⟨felt, hfelt, h⟩ := bind_eq_ok.mp h
    obtain ⟨e, he, h⟩ := bind_eq_ok.mp h
    cases h
    rw [toString, ← (fromStr_feltTxId_eq_ok_iff hfirst).mp (mapError_eq_ok.mp hfelt),
      ← (parseU64_eq_some_iff hsecond).mp (okOr_eq_ok.mp he)]
  · rintro rfl
    have hfirst := isHexRun_felt t.txHash
    have hcap : capture dash (isHexRun (Starknet.zeroX ++ [48]) 63) isCanonicalDecimal t.toString =
        some (Starknet.zeroX ++ List.leftpad 64 48 (lowerHex t.txHash.value),
          decimal t.eventIndex.toNat) :=
      (capture_eq_some_iff dash_not_mem_feltTxId).mpr ⟨rfl, hfirst, isCanonicalDecimal_decimal _⟩
    refine bind_eq_ok.mpr ⟨_, okOr_eq_ok.mpr hcap, ?_⟩
    refine bind_eq_ok.mpr ⟨t.txHash, mapError_eq_ok.mpr
      ((fromStr_feltTxId_eq_ok_iff hfirst).mpr rfl), ?_⟩
    exact bind_eq_ok.mpr ⟨t.eventIndex,
      okOr_eq_ok.mpr ((parseU64_eq_some_iff (isCanonicalDecimal_decimal _)).mpr rfl), rfl⟩

/-! ## One string per id -/

/-- In each format a string parses to an id exactly when it is that id's print:
`from_str` inverts `to_string`, accepts nothing else, and two ids never print
alike. -/
theorem message_id_canonicity :
    (∀ (s : List UInt8) (t : HexTxHashAndEventIndex),
      HexTxHashAndEventIndex.fromStr s = .ok t ↔ s = t.toString) ∧
    (∀ (s : List UInt8) (t : HexTxHash), HexTxHash.fromStr s = .ok t ↔ s = t.toString) ∧
    (∀ (s : List UInt8) (t : Base58TxDigestAndEventIndex),
      Base58TxDigestAndEventIndex.fromStr s = .ok t ↔ s = t.toString) ∧
    (∀ (s : List UInt8) (t : Base58SolanaTxSignatureAndEventIndex),
      Base58SolanaTxSignatureAndEventIndex.fromStr s = .ok t ↔ s = t.toString) ∧
    (∀ (s : List UInt8) (t : FieldElementAndEventIndex),
      FieldElementAndEventIndex.fromStr s = .ok t ↔ s = t.toString) :=
  ⟨HexTxHashAndEventIndex.fromStr_eq_ok_iff, HexTxHash.fromStr_eq_ok_iff,
    Base58TxDigestAndEventIndex.fromStr_eq_ok_iff,
    Base58SolanaTxSignatureAndEventIndex.fromStr_eq_ok_iff, FieldElementAndEventIndex.fromStr_eq_ok_iff⟩

end Amplifier.WasmStd.MsgId
