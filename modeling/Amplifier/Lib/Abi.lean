import Amplifier.Lib.Bytes
import Amplifier.Lib.Text

/-!
# Amplifier.Lib.Abi — ABI words and parameters, and the `sol!` codec as a parameter

The Solidity ABI codec the contracts call, `abi_encode_params` and
`abi_decode_params` of the alloy-sol-types crate, lives outside the repository.
It enters the model as a parameter, `SolCodec`, that carries the two properties
alloy documents and the contracts rely on: a struct is decoded from its encoding,
and the encoding of a struct whose first field is a `uint256` begins with that
number's 32-byte word, the head of a static field.

What is defined here are the pieces of the ABI a contract reads itself, and what
it takes to show that `SolCodec`'s laws can be met:

* `word` — a number as a 32-byte big-endian word, read back by `beValue_word`;
* `Param`, with `uint`, `bytes32`, `bytes`, `string` and the readers `Param.as…` —
  a field's value as the ABI types it, and read back from it;
* `Codec` — how the fields of a `sol!` struct become parameters, and back;
* `Codec.packed` — a `SolCodec` built from any `Codec`: the leading word, then
  every parameter escaped (`escape`). It is not the ABI's layout; it shows that
  the laws can be met, so that a result over every `SolCodec` is not vacuous;
* `toLeBytes`, `fromLeBytes` — `to_le_bytes` and `from_le_bytes` of a 256-bit number.
-/

namespace Amplifier.Abi

/-! ## Words -/

theorem ofDigits_range (n : ℕ) : ∀ width : ℕ,
    Nat.ofDigits 256 ((List.range width).map fun i => n / 256 ^ i % 256) = n % 256 ^ width
  | 0 => by simp [Nat.mod_one]
  | width + 1 => by
      rw [List.range_succ, List.map_append, Nat.ofDigits_append, ofDigits_range n width,
        Nat.mod_pow_succ]
      simp

/-- A number written big-endian in `width` bytes reads back modulo `256 ^ width`. -/
theorem beValue_beBytes (width n : ℕ) :
    beValue (beBytes width n).data.toList = n % 256 ^ width := by
  simp only [beBytes, beValue, List.map_reverse, List.reverse_reverse, List.map_map,
    List.toList_toArray]
  simp [Function.comp_def, ofDigits_range]

/-- A 32-byte word: the number, big-endian. -/
def word (n : ℕ) : List UInt8 := (beBytes 32 n).data.toList

@[simp]
theorem length_word (n : ℕ) : (word n).length = 32 := by
  rw [word, Array.length_toList]
  exact size_beBytes 32 n

theorem beValue_word {n : ℕ} (h : n < 2 ^ 256) : beValue (word n) = n := by
  have hpow : (256 : ℕ) ^ 32 = 2 ^ 256 := by norm_num
  rw [word, beValue_beBytes, hpow, Nat.mod_eq_of_lt h]

/-! ## Parameters -/

/-- A parameter: a static word, or dynamic bytes. -/
inductive Param where
  | static (w : List UInt8)
  | dynamic (bytes : List UInt8)
  deriving DecidableEq

/-- A `uint256` parameter, or a smaller unsigned integer, as its word. -/
def uint (n : ℕ) : Param := .static (word n)

/-- A `bytes32` parameter: its bytes are its word. -/
def bytes32 (v : Vector UInt8 32) : Param := .static v.toList

/-- A `bytes` parameter. -/
def bytes (b : List UInt8) : Param := .dynamic b

/-- A `string` parameter: its UTF-8 bytes. -/
def string (s : String) : Param := .dynamic s.toUTF8.data.toList

/-- Reads a `uint256`: a word's value, below `2 ^ 256`. -/
def Param.asUint : Param → Option Uint256
  | .static w => if h : beValue w < uint256Bound then some ⟨beValue w, h⟩ else none
  | .dynamic _ => none

/-- Reads a `uint8`: the word must hold a value below 256. -/
def Param.asUint8 : Param → Option UInt8
  | .static w => if beValue w < 256 then some (beValue w).toUInt8 else none
  | .dynamic _ => none

/-- Reads a `bytes32`. -/
def Param.asBytes32 : Param → Option (Vector UInt8 32)
  | .static w => if h : w.length = 32 then some ⟨w.toArray, by simpa using h⟩ else none
  | .dynamic _ => none

/-- Reads `bytes`. -/
def Param.asBytes : Param → Option (List UInt8)
  | .static _ => none
  | .dynamic b => some b

/-- Reads a `string`: its bytes must be UTF-8. -/
def Param.asString : Param → Option String
  | .static _ => none
  | .dynamic b => String.fromUTF8? b.toByteArray

@[simp]
theorem asUint_uint (n : Uint256) : (uint n.val).asUint = some n := by
  have hlt : n.val < 2 ^ 256 := n.isLt
  simp only [uint, Param.asUint, beValue_word hlt, dif_pos n.isLt]

@[simp]
theorem asUint8_uint (n : UInt8) : (uint n.toNat).asUint8 = some n := by
  have hlt : n.toNat < 2 ^ 256 := lt_trans n.toNat_lt (by norm_num)
  simp [uint, Param.asUint8, beValue_word hlt, n.toNat_lt]

@[simp]
theorem asBytes32_bytes32 (v : Vector UInt8 32) : (bytes32 v).asBytes32 = some v := by
  simp [bytes32, Param.asBytes32, Vector.toArray_toList]

@[simp]
theorem asBytes_bytes (b : List UInt8) : (bytes b).asBytes = some b := rfl

theorem fromUTF8_toUTF8 (s : String) : String.fromUTF8? s.toUTF8 = some s := by
  unfold String.fromUTF8?
  rw [String.toUTF8_eq_toByteArray, dif_pos s.isValidUTF8]
  rfl

@[simp]
theorem asString_string (s : String) : (string s).asString = some s := by
  have hbytes : s.toUTF8.data.toList.toByteArray = s.toUTF8 := by
    apply ByteArray.ext
    rw [List.data_toByteArray, Array.toArray_toList]
  simp only [string, Param.asString, hbytes, fromUTF8_toUTF8]

/-! ## The `sol!` codec -/

/-- The codec `sol!` derives for a struct: `abi_encode_params` and
`abi_decode_params` of alloy-sol-types, a parameter carrying what alloy documents
of them. A struct is decoded from its encoding, and the encoding begins with the
word of the struct's leading `uint256`. -/
structure SolCodec (α : Type) (leading : α → Uint256) where
  encode : α → List UInt8
  decode : List UInt8 → Option α
  decode_encode : ∀ a, decode (encode a) = some a
  take_encode : ∀ a, (encode a).take 32 = word (leading a).val

/-- The encoding holds a first word. -/
theorem SolCodec.le_length_encode {α : Type} {leading : α → Uint256} (c : SolCodec α leading)
    (a : α) : 32 ≤ (c.encode a).length := by
  have hlen := congrArg List.length (c.take_encode a)
  rw [List.length_take, length_word] at hlen
  omega

/-- How the fields of a struct become parameters, and how they are read back. -/
structure Codec (α : Type) where
  params : α → List Param
  ofParams : List Param → Option α
  ofParams_params : ∀ a, ofParams (params a) = some a

/-! ## A codec that meets the laws -/

/-- Bytes escaped so that they can be read back from the front of a buffer: each
byte behind a 1, and a 0 at the end. -/
def escape : List UInt8 → List UInt8
  | [] => [0]
  | b :: bs => 1 :: b :: escape bs

/-- Escaped bytes read from the front of a buffer, and what follows them. -/
def unescape : List UInt8 → Option (List UInt8 × List UInt8)
  | 0 :: rest => some ([], rest)
  | 1 :: b :: rest => (unescape rest).map fun r => (b :: r.1, r.2)
  | _ => none

@[simp]
theorem unescape_escape (bs rest : List UInt8) : unescape (escape bs ++ rest) = some (bs, rest) := by
  induction bs with
  | nil => rfl
  | cons b bs ih => simp [escape, unescape, ih]

/-- A parameter escaped behind its kind, 0 for a word and 1 for bytes. -/
def packParam : Param → List UInt8
  | .static w => 0 :: escape w
  | .dynamic b => 1 :: escape b

/-- A packed parameter read from the front of a buffer, and what follows it. -/
def unpackParam : List UInt8 → Option (Param × List UInt8)
  | 0 :: rest => (unescape rest).map fun r => (.static r.1, r.2)
  | 1 :: rest => (unescape rest).map fun r => (.dynamic r.1, r.2)
  | _ => none

@[simp]
theorem unpackParam_packParam (p : Param) (rest : List UInt8) :
    unpackParam (packParam p ++ rest) = some (p, rest) := by
  cases p <;> simp [packParam, unpackParam]

/-- Packed parameters read until the buffer ends, at most `fuel` of them. -/
def unpackParams : ℕ → List UInt8 → Option (List Param)
  | _, [] => some []
  | 0, _ :: _ => none
  | fuel + 1, b :: bs => (unpackParam (b :: bs)).bind fun r =>
      (unpackParams fuel r.2).map (r.1 :: ·)

theorem unpackParams_packParams (ps : List Param) :
    ∀ fuel, ps.length ≤ fuel → unpackParams fuel (ps.flatMap packParam) = some ps := by
  induction ps with
  | nil => intro fuel _; cases fuel <;> rfl
  | cons p ps ih =>
      intro fuel hfuel
      obtain ⟨fuel, rfl⟩ : ∃ f, fuel = f + 1 := ⟨fuel - 1, by simp at hfuel; omega⟩
      -- a packed parameter starts with its kind, so the buffer is not empty
      obtain ⟨b, bs, hpack⟩ : ∃ b bs, packParam p ++ ps.flatMap packParam = b :: bs := by
        cases p <;> exact ⟨_, _, rfl⟩
      rw [List.flatMap_cons, hpack, unpackParams, ← hpack, unpackParam_packParam]
      simp [ih fuel (by simpa using hfuel)]

/-- Each packed parameter takes at least one byte. -/
theorem length_le_length_flatMap_packParam (ps : List Param) :
    ps.length ≤ (ps.flatMap packParam).length := by
  induction ps with
  | nil => simp
  | cons p ps ih =>
      have hp : 1 ≤ (packParam p).length := by cases p <;> simp [packParam]
      simp only [List.flatMap_cons, List.length_append, List.length_cons]
      omega

variable {α : Type}

/-- A `SolCodec` from a struct's parameters: the leading word, then every
parameter packed. -/
def Codec.packed (c : Codec α) (leading : α → Uint256) : SolCodec α leading where
  encode a := word (leading a).val ++ (c.params a).flatMap packParam
  decode buf := (unpackParams buf.length (buf.drop 32)).bind c.ofParams
  decode_encode a := by
    have hfuel := length_le_length_flatMap_packParam (c.params a)
    have hdrop : (word (leading a).val ++ (c.params a).flatMap packParam).drop 32 =
        (c.params a).flatMap packParam := List.drop_left' (length_word _)
    rw [hdrop, unpackParams_packParams (c.params a) _ (by rw [List.length_append]; omega), Option.bind_some,
      c.ofParams_params]
  take_encode a := List.take_left' (length_word _)

/-! ## Little-endian words -/

/-- `to_le_bytes` of a 256-bit number. -/
def toLeBytes (n : Uint256) : Vector UInt8 32 := ⟨(word n.val).reverse.toArray, by simp⟩

/-- `from_le_bytes` of 32 bytes. -/
def fromLeBytes (bytes : Vector UInt8 32) : Uint256 :=
  ⟨beValue bytes.toList.reverse, by
    have hlt := beValue_lt bytes.toList.reverse
    have hpow : (256 : ℕ) ^ 32 = uint256Bound := by norm_num [uint256Bound]
    simpa [hpow] using hlt⟩

/-- Reading a number's little-endian bytes gives it back. -/
@[simp]
theorem fromLeBytes_toLeBytes (n : Uint256) : fromLeBytes (toLeBytes n) = n := by
  have hlt : n.val < 2 ^ 256 := n.isLt
  apply Fin.ext
  simp [fromLeBytes, toLeBytes, beValue_word hlt]

end Amplifier.Abi
