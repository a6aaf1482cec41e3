import Amplifier.Lib.Uint256
import Amplifier.Lib.Transaction

/-!
# Amplifier.Xrpl.Amount — XRPL token amounts

`xrpl-types` writes an issued-token amount as a mantissa and a power of ten,
canonical when the mantissa is zero or has sixteen digits (`10^15 ..= 10^16 - 1`)
with the exponent in `-96 ..= 80`. `canonicalize_mantissa` brings a 256-bit
mantissa and an `i64` exponent to that form with two loops: the first multiplies
a short mantissa by ten while the exponent is above its minimum, the second
divides a long one by ten, also only while the exponent is above its minimum. The
arithmetic (`Add`, `Sub`, `PartialOrd`) first brings both amounts to the smaller
exponent (`scale_to_min_exponent`), multiplying in 256 bits.

The model follows the code step by step: each loop is a function by
well-founded recursion on what the loop decreases, each `checked_*` an `Option`
with the error the code maps it to, and `XRPLTokenAmount::new`'s assertion and
`partial_cmp`'s `expect` are panics (`Failure.panic`). Exponents are integers
that the code holds in an `i64`; the `i64` checks are kept.

`value m e = m * 10 ^ e` in `ℚ` is the number an amount stands for; each loop
step keeps it (times ten) or truncates it (by ten), which is what the
statements about canonical forms are made of.
-/

namespace Amplifier.Xrpl

/-- `MIN_MANTISSA`. -/
def minMantissa : ℕ := 1000000000000000

/-- `MAX_MANTISSA`. -/
def maxMantissa : ℕ := 10000000000000000 - 1

/-- `MIN_EXPONENT`. -/
def minExponent : ℤ := -96

/-- `MAX_EXPONENT`. -/
def maxExponent : ℤ := 80

/-- `i64::MIN`. -/
def i64Min : ℤ := -2 ^ 63

/-- `i64::MAX`. -/
def i64Max : ℤ := 2 ^ 63 - 1

/-- `i64::checked_sub`. -/
def checkedSubI64 (a b : ℤ) : Option ℤ :=
  if i64Min ≤ a - b ∧ a - b ≤ i64Max then some (a - b) else none

/-- `u32::try_from(i64)`. -/
def toU32 (a : ℤ) : Option ℕ :=
  if 0 ≤ a ∧ a < 2 ^ 32 then some a.toNat else none

/-- The `XRPLError`s of the amount arithmetic. -/
inductive XRPLError where
  | exponentOverflow
  | mantissaOverflow
  | multiplicationOverflow
  | subtractionUnderflow
  | additionOverflow
  | invalidExponent
  | exponentiationOverflow
  | underflow
  deriving DecidableEq

/-- The `Debug` print of an error: the name of its variant. -/
def XRPLError.debug : XRPLError → String
  | .exponentOverflow => "ExponentOverflow"
  | .mantissaOverflow => "MantissaOverflow"
  | .multiplicationOverflow => "MultiplicationOverflow"
  | .subtractionUnderflow => "SubtractionUnderflow"
  | .additionOverflow => "AdditionOverflow"
  | .invalidExponent => "InvalidExponent"
  | .exponentiationOverflow => "ExponentiationOverflow"
  | .underflow => "Underflow"

/-- An error returned, or a panic. -/
inductive Failure where
  | error (e : XRPLError)
  | panic (msg : String)
  deriving DecidableEq

/-- `XRPLTokenAmount`: a `u64` mantissa and an `i64` exponent. -/
structure XRPLTokenAmount where
  mantissa : UInt64
  exponent : ℤ
  deriving DecidableEq

namespace XRPLTokenAmount

/-- `XRPLTokenAmount::ZERO`. -/
def zero : XRPLTokenAmount := ⟨0, 0⟩

/-- `XRPLTokenAmount::MAX`. -/
def max : XRPLTokenAmount := ⟨maxMantissa.toUInt64, maxExponent⟩

/-- What `XRPLTokenAmount::new` asserts. -/
def Valid (x : XRPLTokenAmount) : Prop :=
  x.mantissa = 0 ∨ (minMantissa ≤ x.mantissa.toNat ∧ x.mantissa.toNat ≤ maxMantissa ∧
    minExponent ≤ x.exponent ∧ x.exponent ≤ maxExponent)

instance (x : XRPLTokenAmount) : Decidable x.Valid := by
  unfold Valid
  infer_instance

/-- `XRPLTokenAmount::new`: the assertion panics on a non-canonical amount. -/
def new (mantissa : UInt64) (exponent : ℤ) : Except Failure XRPLTokenAmount :=
  if (⟨mantissa, exponent⟩ : XRPLTokenAmount).Valid then .ok ⟨mantissa, exponent⟩
  else .error (.panic "assertion failed")

end XRPLTokenAmount

/-! ## `canonicalize_mantissa` -/

/-- The first loop of `canonicalize_mantissa`: a mantissa below the minimum is
multiplied by ten while the exponent is above its minimum (`i64::checked_sub(1)`
fails only below `i64::MIN`). -/
def growMantissa (mantissa : Uint256) (exponent : ℤ) : Except XRPLError (Uint256 × ℤ) :=
  if mantissa.val < minMantissa ∧ minExponent < exponent then
    match Uint256.checkedMul mantissa Uint256.ten with
    | none => .error .multiplicationOverflow
    | some mantissa' =>
        if i64Min ≤ exponent - 1 then growMantissa mantissa' (exponent - 1)
        else .error .subtractionUnderflow
  else .ok (mantissa, exponent)
termination_by (exponent - minExponent).toNat
decreasing_by omega

/-- The second loop of `canonicalize_mantissa`: a mantissa above the maximum is
divided by ten while the exponent is above its minimum, and an exponent at its
maximum overflows (`checked_div` by ten cannot fail, `i64::checked_add(1)` fails
only above `i64::MAX`). -/
def shrinkMantissa (mantissa : Uint256) (exponent : ℤ) : Except XRPLError (Uint256 × ℤ) :=
  if h : maxMantissa < mantissa.val ∧ minExponent < exponent then
    if maxExponent ≤ exponent then .error .exponentOverflow
    else if exponent + 1 ≤ i64Max then shrinkMantissa (mantissa / Uint256.ten) (exponent + 1)
    else .error .additionOverflow
  else .ok (mantissa, exponent)
termination_by mantissa.val
decreasing_by
  rw [Fin.div_val, Uint256.val_ten]
  exact Nat.div_lt_self (by unfold maxMantissa at h; omega) (by norm_num)

/-- `canonicalize_mantissa`: the two loops, then zero for what is too small and
an error for what is too large; the mantissa is the low eight bytes. -/
def canonicalizeMantissa (mantissa : Uint256) (exponent : ℤ) : Except XRPLError (UInt64 × ℤ) := do
  let (mantissa, exponent) ← growMantissa mantissa exponent
  let (mantissa, exponent) ← shrinkMantissa mantissa exponent
  if exponent < minExponent ∨ mantissa.val < minMantissa then
    return (0, 1)
  if exponent > maxExponent then
    throw .exponentOverflow
  if mantissa.val > maxMantissa then
    throw .mantissaOverflow
  return (mantissa.val.toUInt64, exponent)

/-- `canonicalize_token_amount`: an amount with `decimals` decimals (negating a
`u8` cannot overflow an `i64`). -/
def canonicalizeTokenAmount (amount : Uint256) (decimals : UInt8) :
    Except Failure XRPLTokenAmount := do
  let negDecimals : ℤ := -(decimals.toNat : ℤ)
  let (mantissa, exponent) ← (canonicalizeMantissa amount negDecimals).mapError .error
  XRPLTokenAmount.new mantissa exponent

/-! ## Arithmetic -/

/-- `Uint256::from(u64)`. -/
def fromU64 (n : UInt64) : Uint256 :=
  ⟨n.toNat, lt_trans n.toNat_lt (by norm_num [uint256Bound])⟩

/-- One side of `scale_to_min_exponent`: the mantissa times ten to the excess of
its exponent over the smaller one. -/
def scaledMantissa (amount : XRPLTokenAmount) (minExponent : ℤ) : Except XRPLError Uint256 := do
  let excess ← okOr (checkedSubI64 amount.exponent minExponent) .subtractionUnderflow
  let excess ← okOr (toU32 excess) .invalidExponent
  let factor ← okOr (Uint256.checkedPow Uint256.ten excess) .exponentiationOverflow
  okOr (Uint256.checkedMul (fromU64 amount.mantissa) factor) .multiplicationOverflow

/-- `scale_to_min_exponent`: both mantissas at the smaller exponent. -/
def scaleToMinExponent (left right : XRPLTokenAmount) :
    Except XRPLError (Uint256 × Uint256 × ℤ) := do
  let minExponent := min left.exponent right.exponent
  let leftMantissa ← scaledMantissa left minExponent
  let rightMantissa ← scaledMantissa right minExponent
  return (leftMantissa, rightMantissa, minExponent)

namespace XRPLTokenAmount

/-- `PartialOrd::partial_cmp`: the scaled mantissas compared, or a panic when
they cannot be scaled; `expect` prints its message, then the error's `Debug`. -/
def partialCmp (self other : XRPLTokenAmount) : Except Failure (Option Ordering) :=
  match scaleToMinExponent self other with
  | .ok (selfMantissa, otherMantissa, _) => .ok (some (compare selfMantissa.val otherMantissa.val))
  | .error e => .error (.panic ("scale_to_min_exponent should not fail: " ++ e.debug))

/-- `Add::add`. -/
def add (self rhs : XRPLTokenAmount) : Except Failure XRPLTokenAmount := do
  let (leftMantissa, rightMantissa, minExponent) ← (scaleToMinExponent self rhs).mapError .error
  let resultMantissa ←
    okOr (Uint256.checkedAdd leftMantissa rightMantissa) (.error .additionOverflow)
  let (mantissa, exponent) ← (canonicalizeMantissa resultMantissa minExponent).mapError .error
  new mantissa exponent

/-- `Sub::sub`. -/
def sub (self rhs : XRPLTokenAmount) : Except Failure XRPLTokenAmount := do
  let (leftMantissa, rightMantissa, minExponent) ← (scaleToMinExponent self rhs).mapError .error
  if leftMantissa.val < rightMantissa.val then
    throw (.error .underflow)
  let resultMantissa ←
    okOr (Uint256.checkedSub leftMantissa rightMantissa) (.error .subtractionUnderflow)
  let (mantissa, exponent) ← (canonicalizeMantissa resultMantissa minExponent).mapError .error
  new mantissa exponent

end XRPLTokenAmount

/-! ## The number an amount stands for -/

/-- `mantissa * 10 ^ exponent`. -/
def value (mantissa : ℕ) (exponent : ℤ) : ℚ := mantissa * 10 ^ exponent

theorem value_le_value {m m' : ℕ} (h : m ≤ m') (e : ℤ) : value m e ≤ value m' e := by
  unfold value
  gcongr

theorem value_lt_value {m m' : ℕ} (h : m < m') (e : ℤ) : value m e < value m' e := by
  unfold value
  gcongr

/-- One step of the first loop keeps the value. -/
theorem value_mul_ten (m : ℕ) (e : ℤ) : value (m * 10) (e - 1) = value m e := by
  unfold value
  rw [zpow_sub₀ (by norm_num), zpow_one]
  push_cast
  ring

/-! ## Loops that do not start -/

theorem growMantissa_of_not {mantissa : Uint256} {exponent : ℤ}
    (h : ¬(mantissa.val < minMantissa ∧ minExponent < exponent)) :
    growMantissa mantissa exponent = .ok (mantissa, exponent) := by
  rw [growMantissa, if_neg h]

theorem shrinkMantissa_of_not {mantissa : Uint256} {exponent : ℤ}
    (h : ¬(maxMantissa < mantissa.val ∧ minExponent < exponent)) :
    shrinkMantissa mantissa exponent = .ok (mantissa, exponent) := by
  rw [shrinkMantissa, dif_neg h]

/-- After the two loops, the final checks. -/
theorem canonicalizeMantissa_of_loops {mantissa : Uint256} {exponent : ℤ} {m₁ m₂ : Uint256}
    {e₁ e₂ : ℤ} (hgrow : growMantissa mantissa exponent = .ok (m₁, e₁))
    (hshrink : shrinkMantissa m₁ e₁ = .ok (m₂, e₂)) :
    canonicalizeMantissa mantissa exponent =
      if e₂ < minExponent ∨ m₂.val < minMantissa then .ok (0, 1)
      else if maxExponent < e₂ then .error .exponentOverflow
      else if maxMantissa < m₂.val then .error .mantissaOverflow
      else .ok (m₂.val.toUInt64, e₂) := by
  simp only [canonicalizeMantissa, hgrow, hshrink, bind, Except.bind, pure, Except.pure, throw,
    throwThe, MonadExceptOf.throw, gt_iff_lt]

/-! ## Long mantissas at the minimum exponent -/

/-- The second loop runs only above the minimum exponent, so a mantissa of
seventeen digits or more reaches the final checks unshortened there: at the
minimum exponent it overflows, although its value is far below the largest
amount, and one power of ten lower it becomes zero, although its value is at
least the smallest nonzero amount. -/
theorem canonicalize_mantissa_long_mantissa_at_min_exponent (mantissa : Uint256)
    (hlong : maxMantissa < mantissa.val) :
    (canonicalizeMantissa mantissa minExponent = .error .mantissaOverflow ∧
      value mantissa.val minExponent < value (maxMantissa + 1) maxExponent) ∧
    (canonicalizeMantissa mantissa (minExponent - 1) = .ok (0, 1) ∧
      value minMantissa minExponent ≤ value mantissa.val (minExponent - 1)) := by
  have hmin : minMantissa ≤ mantissa.val := by unfold minMantissa maxMantissa at *; omega
  have hgrow (e : ℤ) : growMantissa mantissa e = .ok (mantissa, e) :=
    growMantissa_of_not fun h => absurd h.1 (Nat.not_lt_of_le hmin)
  have hshrink (e : ℤ) (he : e ≤ minExponent) : shrinkMantissa mantissa e = .ok (mantissa, e) :=
    shrinkMantissa_of_not fun h => absurd h.2 (Int.not_lt_of_ge he)
  refine ⟨⟨?_, ?_⟩, ⟨?_, ?_⟩⟩
  · -- neither loop runs and only the mantissa check fails
    rw [canonicalizeMantissa_of_loops (hgrow _) (hshrink _ le_rfl)]
    have hexp : ¬maxExponent < minExponent := by decide
    simp [hlong, Nat.not_lt_of_le hmin, hexp]
  · calc value mantissa.val minExponent < value uint256Bound minExponent :=
          value_lt_value mantissa.isLt _
      _ < value (maxMantissa + 1) maxExponent := by
          norm_num [value, uint256Bound, maxMantissa, minExponent, maxExponent]
  · rw [canonicalizeMantissa_of_loops (hgrow _) (hshrink _ (by omega))]
    simp
  · calc value minMantissa minExponent = value (minMantissa * 10) (minExponent - 1) :=
          (value_mul_ten _ _).symm
      _ ≤ value mantissa.val (minExponent - 1) :=
          value_le_value (by unfold minMantissa maxMantissa at *; omega) _

/-- `10^16`, seventeen digits. -/
def tenPowSixteen : Uint256 := ⟨10 ^ 16, by norm_num [uint256Bound]⟩

/-- `10^16` base units of a token with 96 decimals is `10^-80`, yet it
overflows; with 97 decimals it is `10^-81`, the smallest nonzero amount, yet it
becomes zero. -/
theorem canonicalize_mantissa_long_mantissa_at_min_exponent_ten_pow_sixteen :
    canonicalizeTokenAmount tenPowSixteen 96 = .error (.error .mantissaOverflow) ∧
    canonicalizeTokenAmount tenPowSixteen 97 = .ok ⟨0, 1⟩ ∧
    value tenPowSixteen.val (-96) < value (maxMantissa + 1) maxExponent ∧
    value minMantissa minExponent ≤ value tenPowSixteen.val (-97) := by
  obtain ⟨⟨h96, hv96⟩, ⟨h97, hv97⟩⟩ :=
    canonicalize_mantissa_long_mantissa_at_min_exponent tenPowSixteen (by decide)
  -- the exponents are the negated decimals
  have h96' : canonicalizeMantissa tenPowSixteen (-96) = .error .mantissaOverflow := h96
  have h97' : canonicalizeMantissa tenPowSixteen (-97) = .ok (0, 1) := h97
  refine ⟨?_, ?_, hv96, hv97⟩
  · simp [canonicalizeTokenAmount, h96', Except.mapError, bind, Except.bind]
  · simp [canonicalizeTokenAmount, h97', Except.mapError, bind, Except.bind,
      XRPLTokenAmount.new, XRPLTokenAmount.Valid]

/-! ## Scaling fails across 78 powers of ten -/

/-- Ten to the 78th does not fit 256 bits, so a mantissa cannot be scaled that
far, whatever it is, zero included. -/
theorem scaledMantissa_eq_error {amount : XRPLTokenAmount} {minExponent : ℤ}
    (hfar : 78 ≤ amount.exponent - minExponent) :
    ∃ e, scaledMantissa amount minExponent = .error e := by
  unfold scaledMantissa
  cases hsub : checkedSubI64 amount.exponent minExponent with
  | none => exact ⟨.subtractionUnderflow, by simp [okOr, bind, Except.bind]⟩
  | some excess =>
      have hexcess : excess = amount.exponent - minExponent := by
        unfold checkedSubI64 at hsub
        split_ifs at hsub
        exact (Option.some.inj hsub).symm
      cases hu32 : toU32 excess with
      | none => exact ⟨.invalidExponent, by simp [okOr, hu32, bind, Except.bind]⟩
      | some k =>
          have hk : 78 ≤ k := by
            unfold toU32 at hu32
            split_ifs at hu32
            cases hu32
            omega
          have hpow : Uint256.checkedPow Uint256.ten k = none := by
            rw [Uint256.checkedPow_eq_none, Uint256.val_ten]
            exact Nat.le_of_not_lt fun hlt => absurd ((ten_pow_lt_uint256Bound_iff k).mp hlt)
              (Nat.not_lt_of_le hk)
          exact ⟨.exponentiationOverflow, by simp [okOr, hu32, hpow, bind, Except.bind]⟩

/-- So do the two amounts' scaling, in either order. -/
theorem scaleToMinExponent_eq_error {x y : XRPLTokenAmount} (hfar : 78 ≤ x.exponent - y.exponent) :
    (∃ e, scaleToMinExponent x y = .error e) ∧ ∃ e, scaleToMinExponent y x = .error e := by
  have hmin : min x.exponent y.exponent = y.exponent := min_eq_right (by omega)
  have hmin' : min y.exponent x.exponent = y.exponent := min_eq_left (by omega)
  obtain ⟨e, he⟩ := @scaledMantissa_eq_error x y.exponent hfar
  constructor
  · exact ⟨e, by simp [scaleToMinExponent, hmin, he, bind, Except.bind]⟩
  · -- the first side may scale; the second cannot
    unfold scaleToMinExponent
    rw [hmin']
    cases hy : scaledMantissa y y.exponent with
    | error e' => exact ⟨e', by simp [hy, bind, Except.bind]⟩
    | ok m => exact ⟨e, by simp [hy, he, bind, Except.bind]⟩

theorem xrpl_amount_arithmetic_fails_across_78_powers (x y : XRPLTokenAmount)
    (hfar : 78 ≤ x.exponent - y.exponent) :
    (∃ e, scaleToMinExponent x y = .error e ∧
      x.partialCmp y = .error (.panic ("scale_to_min_exponent should not fail: " ++ e.debug))) ∧
    (∃ e, scaleToMinExponent y x = .error e ∧
      y.partialCmp x = .error (.panic ("scale_to_min_exponent should not fail: " ++ e.debug))) ∧
    (∃ e, x.add y = .error (.error e)) ∧ (∃ e, x.sub y = .error (.error e)) := by
  obtain ⟨⟨e, he⟩, ⟨e', he'⟩⟩ := scaleToMinExponent_eq_error hfar
  refine ⟨⟨e, he, ?_⟩, ⟨e', he', ?_⟩, ⟨e, ?_⟩, ⟨e, ?_⟩⟩
  · simp [XRPLTokenAmount.partialCmp, he]
  · simp [XRPLTokenAmount.partialCmp, he']
  · simp [XRPLTokenAmount.add, he, Except.mapError, bind, Except.bind]
  · simp [XRPLTokenAmount.sub, he, Except.mapError, bind, Except.bind]

/-- `10^15 * 10^79`, a tenth of the largest amount. -/
def tenthOfMax : XRPLTokenAmount := ⟨minMantissa.toUInt64, 79⟩

/-- A tenth of the largest amount and zero, both canonical: comparing them
panics, as ten to the 79th overflows, and neither their sum nor their difference
can be computed. -/
theorem xrpl_amount_arithmetic_fails_tenth_of_max_and_zero :
    tenthOfMax.Valid ∧ XRPLTokenAmount.zero.Valid ∧
    value minMantissa 79 + value 0 0 < value maxMantissa maxExponent ∧
    value 0 0 ≤ value minMantissa 79 ∧
    tenthOfMax.partialCmp .zero =
      .error (.panic "scale_to_min_exponent should not fail: ExponentiationOverflow") ∧
    XRPLTokenAmount.zero.partialCmp tenthOfMax =
      .error (.panic "scale_to_min_exponent should not fail: ExponentiationOverflow") ∧
    (∃ e, tenthOfMax.add .zero = .error (.error e)) ∧
    (∃ e, tenthOfMax.sub .zero = .error (.error e)) := by
  obtain ⟨⟨e, he, hcmp⟩, ⟨e', he', hcmp'⟩, hadd, hsub⟩ :=
    xrpl_amount_arithmetic_fails_across_78_powers tenthOfMax .zero (by decide)
  -- both orders fail on raising ten to the 79th
  have hoverflow : scaleToMinExponent tenthOfMax .zero = .error .exponentiationOverflow := rfl
  have hoverflow' : scaleToMinExponent .zero tenthOfMax = .error .exponentiationOverflow := rfl
  rw [hoverflow, Except.error.injEq] at he
  rw [hoverflow', Except.error.injEq] at he'
  subst he he'
  refine ⟨by decide, by decide, ?_, ?_, hcmp, hcmp', hadd, hsub⟩
  · norm_num [value, minMantissa, maxMantissa, maxExponent]
  · exact value_le_value (Nat.zero_le _) _ |>.trans_eq' (by norm_num [value])

end Amplifier.Xrpl
