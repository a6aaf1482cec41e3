import Amplifier.Lib.Uint256
import Amplifier.Lib.Transaction

/-!
# Amplifier.Lib.Text — strings as UTF-8 bytes, and hexadecimal decoding

A Rust `&str` is a sequence of UTF-8 bytes, and what the contracts do with
address strings are byte operations:

* `trimStartMatches s pat` — `str::trim_start_matches` with a string pattern: the
  pattern is removed from the front for as long as it is a prefix;
* `hexDecode` — the `hex` crate's `decode`: an even number of digits of either
  letter case, two digits a byte, and the first bad digit reported with its index;
* `beValue` — a big-endian byte string as a number, and `Uint256.fromBeSlice` the
  `U256` it makes; `hexValue` — the number a string of hexadecimal digits writes.
  Both are `Nat.ofDigits` of the reversed digits;
* `asciiString` — the text of ASCII bytes, whose UTF-8 bytes are those bytes
  (`toList_toByteArray_asciiString`).

`decodePairs_eq_ok_iff` says what `hexDecode` accepts and what it returns: the
bytes it decodes from digits are the number the digits write, two digits a byte.
-/

namespace Amplifier

/-! ## `str::trim_start_matches` -/

section Trim

variable {α : Type} [DecidableEq α]

/-- `str::trim_start_matches`: strip `pat` from the front while it is a prefix;
an empty pattern strips nothing. -/
def trimStartMatches (s pat : List α) : List α :=
  if pat ≠ [] ∧ pat <+: s then trimStartMatches (s.drop pat.length) pat else s
termination_by s.length
decreasing_by
  rename_i h
  have hle := h.2.length_le
  have hpos := List.length_pos_of_ne_nil h.1
  rw [List.length_drop]
  omega

theorem trimStartMatches_append_self {pat : List α} (hpat : pat ≠ []) (s : List α) :
    trimStartMatches (pat ++ s) pat = trimStartMatches s pat := by
  rw [trimStartMatches, if_pos ⟨hpat, List.prefix_append _ _⟩, List.drop_left]

theorem trimStartMatches_of_not_startsWith {s pat : List α} (h : ¬pat <+: s) :
    trimStartMatches s pat = s := by
  rw [trimStartMatches, if_neg fun hp => h hp.2]

/-- The pattern repeated `k` times is stripped. -/
theorem trimStartMatches_replicate_append {pat : List α} (hpat : pat ≠ []) (k : ℕ) (s : List α) :
    trimStartMatches ((List.replicate k pat).flatten ++ s) pat = trimStartMatches s pat := by
  induction k with
  | zero => rfl
  | succ k ih =>
      rw [List.replicate_succ, List.flatten_cons, List.append_assoc,
        trimStartMatches_append_self hpat, ih]

/-- What was trimmed is the pattern a number of times, and what is left does not
start with it. -/
theorem trimStartMatches_spec (s : List α) {pat : List α} (hpat : pat ≠ []) :
    (∃ k, s = (List.replicate k pat).flatten ++ trimStartMatches s pat) ∧
      ¬pat <+: trimStartMatches s pat := by
  induction s using trimStartMatches.induct pat with
  | case1 s h ih =>
      -- one occurrence stripped, then the rest by the induction hypothesis
      obtain ⟨⟨k, hk⟩, hrest⟩ := ih
      obtain ⟨t, rfl⟩ := h.2
      rw [List.drop_left] at hk hrest
      rw [trimStartMatches_append_self hpat]
      refine ⟨⟨k + 1, ?_⟩, hrest⟩
      rw [List.replicate_succ, List.flatten_cons, List.append_assoc, ← hk]
  | case2 s h =>
      have hstarts : ¬pat <+: s := fun hp => h ⟨hpat, hp⟩
      rw [trimStartMatches_of_not_startsWith hstarts]
      exact ⟨⟨0, rfl⟩, hstarts⟩

end Trim

/-! ## Big-endian numbers -/

/-- The number a big-endian byte string writes. -/
def beValue (bytes : List UInt8) : ℕ := Nat.ofDigits 256 (bytes.map UInt8.toNat).reverse

theorem beValue_cons (b : UInt8) (bytes : List UInt8) :
    beValue (b :: bytes) = beValue bytes + 256 ^ bytes.length * b.toNat := by
  simp [beValue, Nat.ofDigits_append]

theorem beValue_lt (bytes : List UInt8) : beValue bytes < 256 ^ bytes.length := by
  have hdigits : ∀ x ∈ (bytes.map UInt8.toNat).reverse, x < 256 := by
    simp only [List.mem_reverse, List.mem_map]
    rintro _ ⟨b, -, rfl⟩
    exact b.toNat_lt
  simpa [beValue] using Nat.ofDigits_lt_base_pow_length (by norm_num) hdigits

/-- `U256::from_be_slice`: a slice of at most 32 bytes; a longer one panics
(`none`). -/
def Uint256.fromBeSlice (bytes : List UInt8) : Option Uint256 :=
  if h : bytes.length ≤ 32 then
    some ⟨beValue bytes, lt_of_lt_of_le (beValue_lt bytes)
      (by unfold uint256Bound; exact (Nat.pow_le_pow_right (by norm_num) h).trans_eq (by norm_num))⟩
  else none

theorem Uint256.fromBeSlice_of_length_le {bytes : List UInt8} (h : bytes.length ≤ 32) :
    ∃ v, Uint256.fromBeSlice bytes = some v ∧ v.val = beValue bytes := by
  simp [Uint256.fromBeSlice, h]

/-! ## The `hex` crate's `decode` -/

/-- `hex::FromHexError`, as `decode` returns it. -/
inductive FromHexError where
  | invalidHexCharacter (c : Char) (index : ℕ)
  | oddLength
  deriving DecidableEq

/-- The arms of `hex`'s `val`: the value of a digit of either case. -/
def nibble (c : UInt8) : Option UInt8 :=
  if 65 ≤ c ∧ c ≤ 70 then some (c - 65 + 10)
  else if 97 ≤ c ∧ c ≤ 102 then some (c - 97 + 10)
  else if 48 ≤ c ∧ c ≤ 57 then some (c - 48)
  else none

/-- `hex`'s `val`: a digit's value, or the byte and its index. -/
def hexVal (c : UInt8) (idx : ℕ) : Except FromHexError UInt8 :=
  match nibble c with
  | some v => .ok v
  | none => .error (.invalidHexCharacter (Char.ofNat c.toNat) idx)

/-- The pairs of `FromHex for Vec<u8>`: pair `i` holds digits `2 * i` and
`2 * i + 1`, and the first bad digit stops the decoding. A last lone digit is
never reached, the length being checked even first. -/
def decodePairs (i : ℕ) : List UInt8 → Except FromHexError (List UInt8)
  | [] => .ok []
  | [_] => .error .oddLength
  | hi :: lo :: rest => do
      let h ← hexVal hi (2 * i)
      let l ← hexVal lo (2 * i + 1)
      let bytes ← decodePairs (i + 1) rest
      return (h <<< 4 ||| l) :: bytes

/-- `hex::decode`. -/
def hexDecode (hex : List UInt8) : Except FromHexError (List UInt8) :=
  if hex.length % 2 ≠ 0 then .error .oddLength else decodePairs 0 hex

/-- A hexadecimal digit, of either case. -/
def IsHexDigit (c : UInt8) : Prop :=
  (48 ≤ c ∧ c ≤ 57) ∨ (65 ≤ c ∧ c ≤ 70) ∨ (97 ≤ c ∧ c ≤ 102)

instance (c : UInt8) : Decidable (IsHexDigit c) := by
  unfold IsHexDigit
  infer_instance

/-- The value of a hexadecimal digit. -/
def hexDigitValue (c : UInt8) : ℕ := ((nibble c).getD 0).toNat

/-- The number a string of hexadecimal digits writes. -/
def hexValue (digits : List UInt8) : ℕ := Nat.ofDigits 16 (digits.map hexDigitValue).reverse

theorem hexValue_cons_cons (hi lo : UInt8) (rest : List UInt8) :
    hexValue (hi :: lo :: rest) =
      hexValue rest + 16 ^ rest.length * (16 * hexDigitValue hi + hexDigitValue lo) := by
  simp [hexValue, Nat.ofDigits_append, Nat.ofDigits]
  ring

/-- `u8::to_ascii_uppercase`. -/
def toAsciiUppercase (c : UInt8) : UInt8 := if 97 ≤ c ∧ c ≤ 122 then c - 32 else c

/-! ### The sixteen digits, checked over every byte -/

theorem nibble_isSome_iff (c : UInt8) : (nibble c).isSome ↔ IsHexDigit c := by
  revert c
  decide +kernel

theorem nibble_eq_some {c v : UInt8} (h : nibble c = some v) :
    v.toNat = hexDigitValue c ∧ v.toNat < 16 := by
  have hlt : ∀ c : UInt8, ((nibble c).getD 0).toNat < 16 := by decide +kernel
  have hv := hlt c
  simp only [h, Option.getD_some] at hv
  exact ⟨by simp [hexDigitValue, h], hv⟩

/-- Upper-casing a byte changes neither whether it is a digit nor its value. -/
theorem nibble_toAsciiUppercase (c : UInt8) : nibble (toAsciiUppercase c) = nibble c := by
  revert c
  decide +kernel

/-- Two nibbles make a byte whose value is sixteen times the first plus the
second. -/
theorem toNat_shiftLeft_or {h l : UInt8} (hh : h.toNat < 16) (hl : l.toNat < 16) :
    ((h <<< 4) ||| l).toNat = 16 * h.toNat + l.toNat := by
  have hall : ∀ a b : Fin 16,
      ((a.val.toUInt8 <<< 4) ||| b.val.toUInt8).toNat = 16 * a.val + b.val := by decide
  have hh' : h = (⟨h.toNat, hh⟩ : Fin 16).val.toUInt8 := by simp
  have hl' : l = (⟨l.toNat, hl⟩ : Fin 16).val.toUInt8 := by simp
  rw [hh', hl', hall]
  simp

/-! ### What `decode` accepts -/

theorem hexVal_eq_ok {c v : UInt8} {idx : ℕ} : hexVal c idx = .ok v ↔ nibble c = some v := by
  unfold hexVal
  cases nibble c <;> simp

theorem exists_hexVal_eq_ok {c : UInt8} (h : IsHexDigit c) (idx : ℕ) :
    ∃ v, hexVal c idx = .ok v := by
  obtain ⟨v, hv⟩ := Option.isSome_iff_exists.mp ((nibble_isSome_iff c).mpr h)
  exact ⟨v, hexVal_eq_ok.mpr hv⟩

/-- One pair of digits: both digits decode, then the rest, and the pair's byte
comes first. -/
theorem decodePairs_cons_cons_eq_ok {i : ℕ} {hi lo : UInt8} {rest bytes : List UInt8} :
    decodePairs i (hi :: lo :: rest) = .ok bytes ↔
      ∃ h l tail, hexVal hi (2 * i) = .ok h ∧ hexVal lo (2 * i + 1) = .ok l ∧
        decodePairs (i + 1) rest = .ok tail ∧ bytes = (h <<< 4 ||| l) :: tail := by
  rw [decodePairs]
  simp only [bind_eq_ok, pure, Except.pure, Except.ok.injEq]
  constructor
  · rintro ⟨h, hh, l, hl, tail, htail, rfl⟩
    exact ⟨h, l, tail, hh, hl, htail, rfl⟩
  · rintro ⟨h, l, tail, hh, hl, htail, rfl⟩
    exact ⟨h, hh, l, hl, tail, htail, rfl⟩

/-- The pairs decode exactly when there is an even number of digits, all of
them hexadecimal. -/
theorem decodePairs_eq_ok_iff (i : ℕ) (hex : List UInt8) :
    (∃ bytes, decodePairs i hex = .ok bytes) ↔ hex.length % 2 = 0 ∧ ∀ c ∈ hex, IsHexDigit c := by
  induction hex using List.twoStepInduction generalizing i with
  | nil => simp [decodePairs]
  | singleton c => simp [decodePairs]
  | cons_cons hi lo rest ih _ =>
      constructor
      · -- a successful decoding went through both digits and the rest
        rintro ⟨bytes, hbytes⟩
        obtain ⟨h, l, tail, hh, hl, hrest, -⟩ := decodePairs_cons_cons_eq_ok.mp hbytes
        obtain ⟨hlen, hdigits⟩ := (ih (i + 1)).mp ⟨tail, hrest⟩
        have hhi := (nibble_isSome_iff hi).mp (by simp [hexVal_eq_ok.mp hh])
        have hlo := (nibble_isSome_iff lo).mp (by simp [hexVal_eq_ok.mp hl])
        refine ⟨by simp only [List.length_cons]; omega, ?_⟩
        simp only [List.mem_cons]
        rintro c (rfl | rfl | hc)
        exacts [hhi, hlo, hdigits c hc]
      · rintro ⟨hlen, hdigits⟩
        obtain ⟨h, hh⟩ := exists_hexVal_eq_ok (hdigits hi (by simp)) (2 * i)
        obtain ⟨l, hl⟩ := exists_hexVal_eq_ok (hdigits lo (by simp)) (2 * i + 1)
        obtain ⟨tail, htail⟩ := (ih (i + 1)).mpr
          ⟨by simp only [List.length_cons] at hlen; omega,
            fun c hc => hdigits c (by simp [hc])⟩
        exact ⟨_, decodePairs_cons_cons_eq_ok.mpr ⟨h, l, tail, hh, hl, htail, rfl⟩⟩

/-- The decoded bytes are half as many as the digits and write the same number. -/
theorem decodePairs_spec {i : ℕ} {hex bytes : List UInt8} (h : decodePairs i hex = .ok bytes) :
    2 * bytes.length = hex.length ∧ beValue bytes = hexValue hex := by
  induction hex using List.twoStepInduction generalizing i bytes with
  | nil =>
      simp only [decodePairs, Except.ok.injEq] at h
      subst h
      simp [beValue, hexValue]
  | singleton c => simp [decodePairs] at h
  | cons_cons hi lo rest ih _ =>
      obtain ⟨vh, vl, tail, hh, hl, hrest, rfl⟩ := decodePairs_cons_cons_eq_ok.mp h
      obtain ⟨hlen, hval⟩ := ih hrest
      obtain ⟨hvh, hvh16⟩ := nibble_eq_some (hexVal_eq_ok.mp hh)
      obtain ⟨hvl, hvl16⟩ := nibble_eq_some (hexVal_eq_ok.mp hl)
      refine ⟨by simp only [List.length_cons]; omega, ?_⟩
      -- sixteen to the number of digits left is 256 to the number of bytes left
      have hpow : (16 : ℕ) ^ rest.length = 256 ^ tail.length := by
        rw [← hlen, pow_mul]
        norm_num
      rw [beValue_cons, hexValue_cons_cons, toNat_shiftLeft_or hvh16 hvl16, hval, hpow, hvh, hvl]

/-! ### `decode` -/

theorem hexDecode_eq_ok_iff (hex : List UInt8) :
    (∃ bytes, hexDecode hex = .ok bytes) ↔ hex.length % 2 = 0 ∧ ∀ c ∈ hex, IsHexDigit c := by
  unfold hexDecode
  by_cases heven : hex.length % 2 = 0
  · simp only [heven, ne_eq, not_true_eq_false, if_false, true_and]
    exact (decodePairs_eq_ok_iff 0 hex).trans (and_iff_right heven)
  · simp [heven]

theorem hexDecode_spec {hex bytes : List UInt8} (h : hexDecode hex = .ok bytes) :
    2 * bytes.length = hex.length ∧ beValue bytes = hexValue hex := by
  unfold hexDecode at h
  split_ifs at h
  exact decodePairs_spec h

/-! ### Letter case -/

theorem hexDigitValue_toAsciiUppercase (c : UInt8) :
    hexDigitValue (toAsciiUppercase c) = hexDigitValue c := by
  simp [hexDigitValue, nibble_toAsciiUppercase]

theorem isHexDigit_toAsciiUppercase (c : UInt8) : IsHexDigit (toAsciiUppercase c) ↔ IsHexDigit c := by
  rw [← nibble_isSome_iff, ← nibble_isSome_iff, nibble_toAsciiUppercase]

/-- Upper-case digits write the same number. -/
theorem hexValue_map_toAsciiUppercase (digits : List UInt8) :
    hexValue (digits.map toAsciiUppercase) = hexValue digits := by
  simp [hexValue, Function.comp_def, hexDigitValue_toAsciiUppercase]

/-! ## ASCII text

A Rust `String` formatted from ASCII pieces (a hash in hex, a number in decimal)
holds each piece's bytes as characters, and its UTF-8 bytes are those bytes again. -/

/-- The text whose characters are the given bytes. -/
def asciiString (bytes : List UInt8) : String :=
  String.ofList (bytes.map fun b => Char.ofNat b.toNat)

/-- Every byte is a valid character. -/
theorem toNat_ofNat_byte (b : UInt8) : (Char.ofNat b.toNat).toNat = b.toNat := by
  have hb := b.toNat_lt
  rw [Char.toNat_ofNat, if_pos (Or.inl (by omega))]

theorem asciiString_eq_empty {bytes : List UInt8} : asciiString bytes = "" ↔ bytes = [] := by
  simp [asciiString, String.ofList_eq_empty_iff]

/-- The UTF-8 bytes of ASCII text are its bytes. -/
theorem toList_toByteArray_asciiString {bytes : List UInt8} (h : ∀ b ∈ bytes, b.toNat < 128) :
    (asciiString bytes).toByteArray.data.toList = bytes := by
  rw [asciiString, String.toByteArray_ofList, List.utf8Encode, List.data_toByteArray,
    List.toList_toArray]
  induction bytes with
  | nil => rfl
  | cons b bytes ih =>
      have hb := h b List.mem_cons_self
      have hval := toNat_ofNat_byte b
      rw [Char.toNat] at hval
      -- an ASCII character is encoded as its one byte
      have hsize : (Char.ofNat b.toNat).utf8Size = 1 := by
        rw [Char.utf8Size_eq_one_iff, UInt32.le_iff_toNat_le, hval]
        simp only [UInt32.reduceToNat]
        omega
      have hbyte : (Char.ofNat b.toNat).val.toUInt8 = b := by
        apply UInt8.toNat_inj.mp
        rw [UInt32.toNat_toUInt8, hval]
        omega
      rw [List.map_cons, List.flatMap_cons, String.utf8EncodeChar_eq_singleton hsize, hbyte,
        ih fun c hc => h c (List.mem_cons_of_mem _ hc), List.singleton_append]

end Amplifier
