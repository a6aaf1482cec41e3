import Amplifier.Lib.Text
import Amplifier.Lib.Transaction

/-!
# Amplifier.Starknet.CheckedFelt — Starknet addresses as felts

`starknet-checked-felt` parses a Starknet address: the string must start with
`0x`, what is left after `trim_start_matches("0x")` must be 64 bytes long and
decode as hexadecimal, and the 32 bytes it decodes to, read as a `U256`, must not
exceed `FELT_MAX_U256`. `validate_address` with `AddressFormat::Starknet`
accepts exactly the strings `from_str` accepts.

The string is its UTF-8 bytes, as the code's `starts_with`, `trim_start_matches`,
`len` and `hex::decode` see it (`Lib.Text`). A `CheckedFelt` carries its bound
as a field; the felt is the number itself, which is below the field's prime.

`fromStr_eq_ok_iff` is what the parser accepts: `0x` one or more times, then 64
hexadecimal digits of either case whose number is at most `FELT_MAX_U256`.
-/

namespace Amplifier.Starknet

/-- `FELT_MAX_U256`, from its 32 big-endian bytes. -/
def feltMaxU256 : ℕ := beValue ([8, 0, 0, 0, 0, 0, 0, 17] ++ List.replicate 24 0)

theorem feltMaxU256_eq : feltMaxU256 = 2 ^ 251 + 17 * 2 ^ 192 := by
  decide

/-- `CheckedFelt`: a felt that does not exceed `Felt::MAX`. -/
@[ext]
structure CheckedFelt where
  value : ℕ
  le_max : value ≤ feltMaxU256
  deriving DecidableEq

/-- `CheckedFeltError`. -/
inductive CheckedFeltError where
  | addressPrefix
  | addressLength
  | overflowing
  | hexDecode (e : FromHexError)
  deriving DecidableEq

/-- An error returned, or a panic. -/
inductive Failure where
  | error (e : CheckedFeltError)
  | panic (msg : String)
  deriving DecidableEq

/-- The bytes of `"0x"`. -/
def zeroX : List UInt8 := ['0'.toUInt8, 'x'.toUInt8]

/-- `TryFrom<U256> for CheckedFelt`. -/
def tryFromU256 (value : Uint256) : Except CheckedFeltError CheckedFelt :=
  if h : value.val ≤ feltMaxU256 then .ok ⟨value.val, h⟩ else .error .overflowing

/-- `CheckedFelt::from_str`. -/
def fromStr (s : List UInt8) : Except Failure CheckedFelt := do
  ensure (decide (zeroX <+: s)) (.error .addressPrefix)
  let trimmedAddr := trimStartMatches s zeroX
  ensure (trimmedAddr.length == 64) (.error .addressLength)
  let feltHexBytes ← (hexDecode trimmedAddr).mapError (.error ∘ .hexDecode)
  match Uint256.fromBeSlice feltHexBytes with
  | none => throw (.panic "Value too large for Uint")
  | some value => (tryFromU256 value).mapError .error

/-- Whether `validate_address` accepts `address` as `AddressFormat::Starknet`. -/
def validateStarknetAddress (address : List UInt8) : Bool :=
  match fromStr address with
  | .ok _ => true
  | .error _ => false

/-! ## What `from_str` accepts -/

theorem tryFromU256_eq_ok {value : Uint256} {f : CheckedFelt} :
    tryFromU256 value = .ok f ↔ value.val = f.value := by
  unfold tryFromU256
  split_ifs with h
  · simp only [Except.ok.injEq]
    exact ⟨fun hf => hf ▸ rfl, fun hv => CheckedFelt.ext hv⟩
  · simp only [false_iff]
    exact fun hv => h (hv ▸ f.le_max)

/-- Digits never start with `0x`: `x` is not a digit. -/
theorem not_startsWith_zeroX {digits : List UInt8} (hdigits : ∀ c ∈ digits, IsHexDigit c) :
    ¬zeroX <+: digits := by
  rintro ⟨rest, rfl⟩
  exact absurd (hdigits 'x'.toUInt8 (by simp [zeroX])) (by decide)

/-- `0x` one or more times, then 64 digits within the bound, parse as the number
the digits write. -/
theorem fromStr_eq_ok_of_digits (k : ℕ) {digits : List UInt8} (hlength : digits.length = 64)
    (hdigits : ∀ c ∈ digits, IsHexDigit c) (hle : hexValue digits ≤ feltMaxU256) :
    fromStr ((List.replicate (k + 1) zeroX).flatten ++ digits) = .ok ⟨hexValue digits, hle⟩ := by
  have hzeroX : zeroX ≠ [] := by simp [zeroX]
  have hstarts : zeroX <+: (List.replicate (k + 1) zeroX).flatten ++ digits := by
    rw [List.replicate_succ, List.flatten_cons, List.append_assoc]
    exact List.prefix_append _ _
  have htrim : trimStartMatches ((List.replicate (k + 1) zeroX).flatten ++ digits) zeroX = digits := by
    rw [trimStartMatches_replicate_append hzeroX,
      trimStartMatches_of_not_startsWith (not_startsWith_zeroX hdigits)]
  obtain ⟨bytes, hbytes⟩ := (hexDecode_eq_ok_iff digits).mpr ⟨by omega, hdigits⟩
  obtain ⟨hbytesLength, hvalue⟩ := hexDecode_spec hbytes
  obtain ⟨v, hv, hvval⟩ := Uint256.fromBeSlice_of_length_le (show bytes.length ≤ 32 by omega)
  have hfelt : tryFromU256 v = .ok ⟨hexValue digits, hle⟩ :=
    tryFromU256_eq_ok.mpr (hvval.trans hvalue)
  simp [fromStr, ensure, hstarts, htrim, hlength, hbytes, hv, hfelt, Except.mapError, bind,
    Except.bind]

/-- `from_str` accepts exactly `0x` one or more times followed by 64
hexadecimal digits of either case, and the felt is the number they write. -/
theorem fromStr_eq_ok_iff (s : List UInt8) (f : CheckedFelt) :
    fromStr s = .ok f ↔
      ∃ k digits, s = (List.replicate (k + 1) zeroX).flatten ++ digits ∧ digits.length = 64 ∧
        (∀ c ∈ digits, IsHexDigit c) ∧ hexValue digits = f.value := by
  constructor
  · intro h
    simp only [fromStr, bind, Except.bind, ensure] at h
    by_cases hstarts : zeroX <+: s
    · have hzeroX : zeroX ≠ [] := by simp [zeroX]
      obtain ⟨⟨k, hk⟩, hrest⟩ := trimStartMatches_spec s hzeroX
      -- at least one `0x` was stripped, since `s` starts with it and the rest does not
      obtain ⟨k, rfl⟩ : ∃ k', k = k' + 1 := by
        cases k with
        | zero => exact absurd (hk ▸ hstarts) (by simpa using hrest)
        | succ k => exact ⟨k, rfl⟩
      by_cases hlength : (trimStartMatches s zeroX).length = 64
      · cases hdecode : hexDecode (trimStartMatches s zeroX) with
        | error e => simp [hstarts, hlength, hdecode, Except.mapError] at h
        | ok bytes =>
            obtain ⟨-, hdigits⟩ := (hexDecode_eq_ok_iff _).mp ⟨bytes, hdecode⟩
            obtain ⟨hbytesLength, hvalue⟩ := hexDecode_spec hdecode
            obtain ⟨v, hv, hvval⟩ := Uint256.fromBeSlice_of_length_le (show bytes.length ≤ 32 by omega)
            simp only [hstarts, hlength, hdecode, hv, decide_true, beq_self_eq_true, if_true,
              Except.mapError] at h
            cases hfelt : tryFromU256 v with
            | error e => simp [hfelt] at h
            | ok f' =>
                simp only [hfelt, Except.ok.injEq] at h
                subst h
                exact ⟨k, _, hk, hlength, hdigits, hvalue.symm.trans (hvval.symm.trans
                  (tryFromU256_eq_ok.mp hfelt))⟩
      · simp [hstarts, hlength] at h
    · simp [hstarts] at h
  · rintro ⟨k, digits, rfl, hlength, hdigits, hvalue⟩
    rw [fromStr_eq_ok_of_digits k hlength hdigits (hvalue ▸ f.le_max)]
    exact congrArg Except.ok (CheckedFelt.ext hvalue)

/-! ## Several strings for one felt -/

theorem from_str_accepts_repeated_prefix_and_upper_case (digits : List UInt8)
    (hlength : digits.length = 64) (hdigits : ∀ c ∈ digits, IsHexDigit c)
    (hle : hexValue digits ≤ feltMaxU256) :
    ∃ f : CheckedFelt, f.value = hexValue digits ∧
      fromStr (zeroX ++ digits) = .ok f ∧
      fromStr (zeroX ++ zeroX ++ digits) = .ok f ∧
      fromStr (zeroX ++ digits.map toAsciiUppercase) = .ok f ∧
      validateStarknetAddress (zeroX ++ zeroX ++ digits) = true ∧
      validateStarknetAddress (zeroX ++ digits.map toAsciiUppercase) = true := by
  have hupper : fromStr (zeroX ++ digits.map toAsciiUppercase) = .ok ⟨hexValue digits, hle⟩ := by
    have hle' : hexValue (digits.map toAsciiUppercase) ≤ feltMaxU256 := by
      rwa [hexValue_map_toAsciiUppercase]
    have hparse := fromStr_eq_ok_of_digits 0 (by simpa using hlength)
      (by simpa [isHexDigit_toAsciiUppercase] using hdigits) hle'
    simpa [hexValue_map_toAsciiUppercase] using hparse
  have htwice : fromStr (zeroX ++ zeroX ++ digits) = .ok ⟨hexValue digits, hle⟩ := by
    simpa [List.replicate_succ] using fromStr_eq_ok_of_digits 1 hlength hdigits hle
  refine ⟨⟨hexValue digits, hle⟩, rfl, ?_, htwice, hupper, ?_, ?_⟩
  · simpa using fromStr_eq_ok_of_digits 0 hlength hdigits hle
  · simp only [validateStarknetAddress, htwice]
  · simp only [validateStarknetAddress, hupper]

/-- The 64 digits of the felt ten, in lower case. -/
def tenDigits : List UInt8 := List.replicate 63 '0'.toUInt8 ++ ['a'.toUInt8]

/-- `0x0x000…0a` and `0x000…0A` are accepted beside `0x000…0a`, all three as ten. -/
theorem from_str_accepts_repeated_prefix_and_upper_case_ten :
    zeroX ++ zeroX ++ tenDigits ≠ zeroX ++ tenDigits ∧
      zeroX ++ tenDigits.map toAsciiUppercase ≠ zeroX ++ tenDigits ∧ hexValue tenDigits = 10 ∧
      ∃ f : CheckedFelt, f.value = hexValue tenDigits ∧
        fromStr (zeroX ++ tenDigits) = .ok f ∧
        fromStr (zeroX ++ zeroX ++ tenDigits) = .ok f ∧
        fromStr (zeroX ++ tenDigits.map toAsciiUppercase) = .ok f ∧
        validateStarknetAddress (zeroX ++ zeroX ++ tenDigits) = true ∧
        validateStarknetAddress (zeroX ++ tenDigits.map toAsciiUppercase) = true :=
  ⟨by decide +kernel, by decide +kernel, by decide +kernel,
    from_str_accepts_repeated_prefix_and_upper_case tenDigits (by decide +kernel) (by decide +kernel)
      (by decide +kernel)⟩

end Amplifier.Starknet
