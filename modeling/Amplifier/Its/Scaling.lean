import Amplifier.Lib.Uint256
import Amplifier.RouterApi.Primitives
import Amplifier.Lib.Store
import Amplifier.Lib.Transaction

/-!
# Amplifier.Its.Scaling — token amounts between chains of different decimals

The ITS hub counts a transfer in the token's decimals on the source chain and
forwards it in the decimals of the destination chain (`destination_amount` of
`interceptors.rs`): the amount is divided by, or multiplied with, ten to the
difference of the decimals, and the result must be nonzero and fit the
destination chain's `max_uint_bits` (`amount_overflows`). When the decimals are
equal the amount is returned at once, before the `max_uint_bits` test.

`Uint256` values and their checked operations are those of `Lib.Uint256`.
`NumBits` keeps the code's encoding, the number of bits less one in a `u8`.
The storage is read through the token instances of the two chains and the
destination chain's configuration, with the errors the loads raise.

The spec lemmas compare the result with `scaledAmount`, the exact scaled amount
when 256 bits hold it: `destinationAmount_eq_ok_iff` for different decimals,
`destinationAmount_of_decimals_eq` for equal ones. Scaling never creates value
(`scaled_mul_le`) and a transfer there and back returns at most what was sent,
exactly that when the first leg gains decimals (`destinationAmount_round_trip`).
-/

namespace Amplifier.Its

open RouterApi

/-- `nonempty::Uint256`: a `Uint256` other than zero. -/
abbrev NonemptyUint256 := {amount : Uint256 // 0 < amount.val}

/-- `TokenId`: 32 bytes. -/
abbrev TokenId := Vector UInt8 32

/-- `NumBits`: a number of bits in `1..=256`, stored as `bits - 1` in a `u8`. -/
structure NumBits where
  stored : UInt8
  deriving DecidableEq

/-- `From<NumBits> for u32`: the stored value plus one. -/
def NumBits.bits (n : NumBits) : ℕ := n.stored.toNat + 1

/-- `TruncationConfig`. -/
structure TruncationConfig where
  maxUintBits : NumBits
  maxDecimalsWhenTruncating : UInt8
  deriving DecidableEq

/-- `ChainConfig`, with the truncation parameters the scaling reads. -/
structure ChainConfig where
  truncation : TruncationConfig
  deriving DecidableEq

/-- `TokenSupply`. -/
inductive TokenSupply where
  | tracked (amount : Uint256)
  | untracked
  deriving DecidableEq

/-- `TokenInstance`: a token's supply and decimals on one chain. -/
structure TokenInstance where
  supply : TokenSupply
  decimals : UInt8
  deriving DecidableEq

/-- The storage the scaling reads: `CHAIN_CONFIGS` and `TOKEN_INSTANCE`. -/
structure State where
  chainConfigs : Map ChainNameRaw ChainConfig
  tokenInstances : Map (ChainNameRaw × TokenId) TokenInstance

/-- The errors of the scaling. -/
inductive Error where
  | invalidTransferAmount (sourceChain destinationChain : ChainNameRaw) (amount : NonemptyUint256)
  | state
  | tokenNotDeployed (tokenId : TokenId) (chain : ChainNameRaw)
  deriving DecidableEq

/-! ## Checked arithmetic of `Uint256` -/

/-- `nonempty::Uint256::try_from`. -/
def tryFromNonempty (amount : Uint256) : Option NonemptyUint256 :=
  if h : 0 < amount.val then some ⟨amount, h⟩ else none

/-! ## The scaling -/

/-- `try_load_token_instance`. -/
def tryLoadTokenInstance (s : State) (chain : ChainNameRaw) (tokenId : TokenId) :
    Except Error TokenInstance :=
  okOr (s.tokenInstances.lookup (chain, tokenId)) (.tokenNotDeployed tokenId chain)

/-- `state::load_chain_config`, its error reported as `Error::State`. -/
def loadChainConfig (s : State) (chain : ChainNameRaw) : Except Error ChainConfig :=
  okOr (s.chainConfigs.lookup chain) .state

/-- `amount_overflows`: some bit at or above the chain's maximum is set; a shift
of 256 bits cannot be made, and no 256-bit amount overflows 256 bits. -/
def amountOverflows (amount : Uint256) (targetChainMaxBits : NumBits) : Bool :=
  match Uint256.checkedShr amount targetChainMaxBits.bits with
  | some res => decide (0 < res.val)
  | none => false

/-- The last steps of `destination_amount`: an amount over the destination
chain's `max_uint_bits`, or zero, is an invalid transfer. -/
def validatedAmount (invalid : Error) (maxUintBits : NumBits) (destinationAmount : Uint256) :
    Except Error NonemptyUint256 := do
  if amountOverflows destinationAmount maxUintBits then
    throw invalid
  okOr (tryFromNonempty destinationAmount) invalid

/-- `destination_amount`. -/
def destinationAmount (s : State) (sourceChain destinationChain : ChainNameRaw) (tokenId : TokenId)
    (sourceAmount : NonemptyUint256) : Except Error NonemptyUint256 := do
  let sourceToken ← tryLoadTokenInstance s sourceChain tokenId
  let destinationToken ← tryLoadTokenInstance s destinationChain tokenId
  let sourceDecimals := sourceToken.decimals
  let destinationDecimals := destinationToken.decimals
  if sourceDecimals = destinationDecimals then
    return sourceAmount
  let destinationMaxUintBits := (← loadChainConfig s destinationChain).truncation.maxUintBits
  let invalid := Error.invalidTransferAmount sourceChain destinationChain sourceAmount
  let scalingFactor ←
    okOr (Uint256.checkedPow Uint256.ten
      (Nat.dist sourceDecimals.toNat destinationDecimals.toNat)) invalid
  let destinationAmount ←
    if sourceDecimals > destinationDecimals then pure (sourceAmount.val / scalingFactor)
    else okOr (Uint256.checkedMul sourceAmount.val scalingFactor) invalid
  validatedAmount invalid destinationMaxUintBits destinationAmount

/-! ## What the checked operations compute -/

theorem NumBits.bits_le (n : NumBits) : n.bits ≤ 256 := by
  have := n.stored.toNat_lt
  unfold NumBits.bits
  omega

/-- `amount_overflows` is the amount reaching two to the chain's bits. -/
theorem amountOverflows_iff (amount : Uint256) (bits : NumBits) :
    amountOverflows amount bits = true ↔ 2 ^ bits.bits ≤ amount.val := by
  unfold amountOverflows Uint256.checkedShr
  split_ifs with hshift
  · simp only [decide_eq_true_eq]
    rw [Nat.div_pos_iff]
    exact ⟨fun h => h.2, fun h => ⟨Nat.two_pow_pos _, h⟩⟩
  · -- only a maximum of 256 bits cannot be shifted by, and nothing reaches it
    have hbits : bits.bits = 256 := le_antisymm bits.bits_le (Nat.le_of_not_lt hshift)
    have hlt : amount.val < 2 ^ bits.bits := hbits ▸ amount.isLt
    simp only [false_iff, not_le]
    exact hlt

/-- The end of `destination_amount` passes exactly the positive amounts below
two to the chain's bits. -/
theorem validatedAmount_eq_ok {invalid : Error} {bits : NumBits} {amount : Uint256}
    {x : NonemptyUint256} :
    validatedAmount invalid bits amount = .ok x ↔ amount.val < 2 ^ bits.bits ∧ x.val = amount := by
  unfold validatedAmount tryFromNonempty
  by_cases hover : amountOverflows amount bits = true
  · have hle := (amountOverflows_iff amount bits).mp hover
    simp [hover, throw, throwThe, MonadExceptOf.throw, bind, Except.bind, Nat.not_lt.mpr hle]
  · have hlt : amount.val < 2 ^ bits.bits :=
      Nat.lt_of_not_le fun hle => hover ((amountOverflows_iff amount bits).mpr hle)
    simp only [hover, Bool.false_eq_true, if_false, hlt, true_and]
    split_ifs with hpos
    · simp only [okOr, Except.ok.injEq]
      exact ⟨fun h => h ▸ rfl, fun h => Subtype.ext h.symm⟩
    · simp only [okOr, reduceCtorEq, false_iff]
      intro hx
      exact hpos (hx ▸ x.property)

/-- It fails only as an invalid transfer. -/
theorem validatedAmount_eq_error {invalid e : Error} {bits : NumBits} {amount : Uint256}
    (h : validatedAmount invalid bits amount = .error e) : e = invalid := by
  unfold validatedAmount tryFromNonempty at h
  split_ifs at h with hover hpos <;>
    simp_all [throw, throwThe, MonadExceptOf.throw, bind, Except.bind, okOr]

/-! ## The scaled amount -/

/-- An amount counted with `sourceDecimals` decimals, counted with
`destinationDecimals`: truncated when decimals are lost, multiplied when they are
gained, if 256 bits hold the product. -/
def scaledAmount (sourceDecimals destinationDecimals amount : ℕ) : Option ℕ :=
  if destinationDecimals < sourceDecimals then
    some (amount / 10 ^ (sourceDecimals - destinationDecimals))
  else if amount * 10 ^ (destinationDecimals - sourceDecimals) < uint256Bound then
    some (amount * 10 ^ (destinationDecimals - sourceDecimals))
  else none

theorem scaledAmount_self {decimals amount : ℕ} (h : amount < uint256Bound) :
    scaledAmount decimals decimals amount = some amount := by
  simp [scaledAmount, h]

/-- Scaling never creates value: what arrives, counted back in the source's
decimals, is at most what was sent. -/
theorem scaled_mul_le {sourceDecimals destinationDecimals amount x : ℕ}
    (h : scaledAmount sourceDecimals destinationDecimals amount = some x) :
    x * 10 ^ (sourceDecimals - destinationDecimals) ≤
      amount * 10 ^ (destinationDecimals - sourceDecimals) := by
  unfold scaledAmount at h
  split_ifs at h with hlt hfit
  · -- decimals are lost: the quotient is truncated
    cases h
    rw [Nat.sub_eq_zero_of_le (Nat.le_of_lt hlt), pow_zero, mul_one]
    exact Nat.div_mul_le_self _ _
  · -- decimals are gained: the product is exact
    cases h
    rw [Nat.sub_eq_zero_of_le (Nat.le_of_not_lt hlt), pow_zero, mul_one]

/-- Scaled there and back, an amount comes back at most as large, and whole when
the first leg gains decimals. -/
theorem scaledAmount_round_trip {decimals decimals' amount x y : ℕ}
    (hthere : scaledAmount decimals decimals' amount = some x)
    (hback : scaledAmount decimals' decimals x = some y) :
    y ≤ amount ∧ (decimals ≤ decimals' → y = amount) := by
  -- neither leg creates value, so the trip does not
  have hle : y * 10 ^ (decimals' - decimals) ≤ amount * 10 ^ (decimals' - decimals) :=
    (scaled_mul_le hback).trans (scaled_mul_le hthere)
  refine ⟨Nat.le_of_mul_le_mul_right hle (Nat.pow_pos (by norm_num)), fun hgain => ?_⟩
  -- a first leg that gains decimals multiplies exactly, and the second divides exactly
  unfold scaledAmount at hthere hback
  rw [if_neg (Nat.not_lt_of_le hgain)] at hthere
  split_ifs at hthere
  cases hthere
  rcases Nat.lt_or_eq_of_le hgain with hlt | rfl
  · rw [if_pos hlt] at hback
    cases hback
    exact Nat.mul_div_cancel _ (Nat.pow_pos (by norm_num))
  · rw [if_neg (lt_irrefl _)] at hback
    split_ifs at hback
    cases hback
    simp

/-! ## What `destination_amount` returns -/

section Loaded

variable {s : State} {sourceChain destinationChain : ChainNameRaw} {tokenId : TokenId}
  {sourceToken destinationToken : TokenInstance}

/-- With equal decimals the amount passes unchanged, whatever the destination
chain's `max_uint_bits`. -/
theorem destinationAmount_of_decimals_eq
    (hsource : s.tokenInstances.lookup (sourceChain, tokenId) = some sourceToken)
    (hdestination : s.tokenInstances.lookup (destinationChain, tokenId) = some destinationToken)
    (heq : sourceToken.decimals = destinationToken.decimals) (sourceAmount : NonemptyUint256) :
    destinationAmount s sourceChain destinationChain tokenId sourceAmount = .ok sourceAmount := by
  simp [destinationAmount, tryLoadTokenInstance, hsource, hdestination, heq, okOr, bind,
    Except.bind, pure, Except.pure]

/-- With different decimals the transfer passes exactly when the scaled amount
exists, is positive and is below two to the destination chain's bits, and it
arrives as that amount. -/
theorem destinationAmount_eq_ok_iff {config : ChainConfig}
    (hsource : s.tokenInstances.lookup (sourceChain, tokenId) = some sourceToken)
    (hdestination : s.tokenInstances.lookup (destinationChain, tokenId) = some destinationToken)
    (hconfig : s.chainConfigs.lookup destinationChain = some config)
    (hne : sourceToken.decimals ≠ destinationToken.decimals) (sourceAmount x : NonemptyUint256) :
    destinationAmount s sourceChain destinationChain tokenId sourceAmount = .ok x ↔
      scaledAmount sourceToken.decimals.toNat destinationToken.decimals.toNat
          sourceAmount.val.val = some x.val.val ∧
        x.val.val < 2 ^ config.truncation.maxUintBits.bits := by
  simp only [destinationAmount, tryLoadTokenInstance, hsource, hdestination, okOr, loadChainConfig,
    hconfig, if_neg hne, bind, Except.bind, pure, Except.pure]
  have hpos := x.property
  by_cases hgt : destinationToken.decimals < sourceToken.decimals
  · -- decimals are lost: the amount is divided
    have hlt : destinationToken.decimals.toNat < sourceToken.decimals.toNat :=
      UInt8.lt_iff_toNat_lt.mp hgt
    have hdist : Nat.dist sourceToken.decimals.toNat destinationToken.decimals.toNat =
        sourceToken.decimals.toNat - destinationToken.decimals.toNat := by
      unfold Nat.dist
      omega
    simp only [gt_iff_lt, hgt, if_true, hdist, scaledAmount, if_pos hlt, Option.some.injEq]
    cases hpow : Uint256.checkedPow Uint256.ten
        (sourceToken.decimals.toNat - destinationToken.decimals.toNat) with
    | none =>
        -- the power does not fit 256 bits, and the quotient would be zero
        have hbig := Uint256.checkedPow_eq_none.mp hpow
        have hzero : sourceAmount.val.val /
            10 ^ (sourceToken.decimals.toNat - destinationToken.decimals.toNat) = 0 :=
          Nat.div_eq_of_lt (lt_of_lt_of_le sourceAmount.val.isLt hbig)
        simp only [reduceCtorEq, false_iff, hzero, not_and]
        intro hx
        omega
    | some v =>
        have hv := (Uint256.checkedPow_eq_some.mp hpow).2
        simp only [validatedAmount_eq_ok, Fin.ext_iff, Fin.div_val, hv]
        change _ ∧ _ = sourceAmount.val.val / 10 ^ _ ↔ _
        constructor
        · rintro ⟨hbits, hx⟩
          exact ⟨hx.symm, hx ▸ hbits⟩
        · rintro ⟨hx, hbits⟩
          exact ⟨hx ▸ hbits, hx.symm⟩
  · -- decimals are gained: the amount is multiplied, if 256 bits hold it
    have hlt : sourceToken.decimals.toNat < destinationToken.decimals.toNat := by
      have hle := Nat.le_of_not_lt (mt UInt8.lt_iff_toNat_lt.mpr hgt)
      have hne' : sourceToken.decimals.toNat ≠ destinationToken.decimals.toNat :=
        fun h => hne (UInt8.toNat_inj.mp h)
      omega
    have hdist : Nat.dist sourceToken.decimals.toNat destinationToken.decimals.toNat =
        destinationToken.decimals.toNat - sourceToken.decimals.toNat := by
      unfold Nat.dist
      omega
    simp only [gt_iff_lt, hgt, if_false, hdist, scaledAmount, if_neg (Nat.not_lt_of_lt hlt)]
    cases hpow : Uint256.checkedPow Uint256.ten
        (destinationToken.decimals.toNat - sourceToken.decimals.toNat) with
    | none =>
        -- the power alone does not fit 256 bits, nor does the product
        have hbig := Uint256.checkedPow_eq_none.mp hpow
        have hprod : uint256Bound ≤ sourceAmount.val.val *
            10 ^ (destinationToken.decimals.toNat - sourceToken.decimals.toNat) :=
          le_trans hbig (Nat.le_mul_of_pos_left _ sourceAmount.property)
        simp [Nat.not_lt_of_le hprod]
    | some v =>
        have hv : v.val = 10 ^ (destinationToken.decimals.toNat - sourceToken.decimals.toNat) :=
          (Uint256.checkedPow_eq_some.mp hpow).2
        cases hmul : Uint256.checkedMul sourceAmount.val v with
        | none =>
            have hprod := Uint256.checkedMul_eq_none.mp hmul
            rw [hv] at hprod
            simp [hmul, Nat.not_lt_of_le hprod]
        | some w =>
            obtain ⟨hfit, hw⟩ := Uint256.checkedMul_eq_some.mp hmul
            rw [hv] at hfit hw
            simp only [hmul, validatedAmount_eq_ok, Fin.ext_iff, hw, if_pos hfit, Option.some.injEq]
            constructor
            · rintro ⟨hbits, hx⟩
              exact ⟨hx.symm, hx ▸ hbits⟩
            · rintro ⟨hx, hbits⟩
              exact ⟨hx ▸ hbits, hx.symm⟩

/-- Whatever passes is the scaled amount, equal decimals included. -/
theorem scaledAmount_of_destinationAmount {config : ChainConfig}
    (hsource : s.tokenInstances.lookup (sourceChain, tokenId) = some sourceToken)
    (hdestination : s.tokenInstances.lookup (destinationChain, tokenId) = some destinationToken)
    (hconfig : s.chainConfigs.lookup destinationChain = some config)
    {sourceAmount x : NonemptyUint256}
    (h : destinationAmount s sourceChain destinationChain tokenId sourceAmount = .ok x) :
    scaledAmount sourceToken.decimals.toNat destinationToken.decimals.toNat sourceAmount.val.val =
      some x.val.val := by
  by_cases heq : sourceToken.decimals = destinationToken.decimals
  · rw [destinationAmount_of_decimals_eq hsource hdestination heq, Except.ok.injEq] at h
    rw [← h, heq]
    exact scaledAmount_self sourceAmount.val.isLt
  · exact ((destinationAmount_eq_ok_iff hsource hdestination hconfig heq sourceAmount x).mp h).1

end Loaded

/-! ## Fixed inputs -/

def hedera : ChainNameRaw := ⟨"hedera", by decide⟩

def aptos : ChainNameRaw := ⟨"aptos", by decide⟩

def scalingTokenId : TokenId := Vector.replicate 32 7

/-- A token with eighteen decimals on `hedera` and six on `aptos`. -/
def decimalsState : State :=
  ⟨((∅ : Map ChainNameRaw ChainConfig).insert hedera ⟨⟨⟨255⟩, 18⟩⟩).insert aptos ⟨⟨⟨63⟩, 6⟩⟩,
    ((∅ : Map (ChainNameRaw × TokenId) TokenInstance).insert (hedera, scalingTokenId)
      ⟨.untracked, 18⟩).insert (aptos, scalingTokenId) ⟨.tracked 0, 6⟩⟩

/-- Three whole tokens and seven base units, in eighteen decimals. -/
def threeTokens : NonemptyUint256 :=
  ⟨⟨3 * 10 ^ 18 + 7, by norm_num [uint256Bound]⟩, by norm_num⟩

/-- Fifty-nine base units, in six decimals. -/
def fiftyNineMicros : NonemptyUint256 := ⟨⟨59, by norm_num [uint256Bound]⟩, by norm_num⟩

/-! ## Transfers there and back -/

/-- A transfer there and back returns at most what was sent, and all of it when
the first leg gains decimals. -/
theorem destinationAmount_round_trip {s : State} {chainA chainB : ChainNameRaw} {tokenId : TokenId}
    {tokenA tokenB : TokenInstance} {configA configB : ChainConfig}
    (hA : s.tokenInstances.lookup (chainA, tokenId) = some tokenA)
    (hB : s.tokenInstances.lookup (chainB, tokenId) = some tokenB)
    (hconfigA : s.chainConfigs.lookup chainA = some configA)
    (hconfigB : s.chainConfigs.lookup chainB = some configB)
    {amount x y : NonemptyUint256}
    (hthere : destinationAmount s chainA chainB tokenId amount = .ok x)
    (hback : destinationAmount s chainB chainA tokenId x = .ok y) :
    y.val.val ≤ amount.val.val ∧ (tokenA.decimals.toNat ≤ tokenB.decimals.toNat → y = amount) := by
  have hx := scaledAmount_of_destinationAmount hA hB hconfigB hthere
  have hy := scaledAmount_of_destinationAmount hB hA hconfigA hback
  obtain ⟨hle, hexact⟩ := scaledAmount_round_trip hx hy
  exact ⟨hle, fun hdec => Subtype.ext (Fin.ext (hexact hdec))⟩

/-- From `hedera` to `aptos` and back the seven base units are truncated away;
from `aptos` to `hedera` and back fifty-nine base units come back whole. -/
theorem destinationAmount_round_trip_hedera_aptos :
    (∃ x y, destinationAmount decimalsState hedera aptos scalingTokenId threeTokens = .ok x ∧
      destinationAmount decimalsState aptos hedera scalingTokenId x = .ok y ∧
      y.val.val ≤ threeTokens.val.val) ∧
    ∃ x y, destinationAmount decimalsState aptos hedera scalingTokenId fiftyNineMicros = .ok x ∧
      destinationAmount decimalsState hedera aptos scalingTokenId x = .ok y ∧
      y = fiftyNineMicros := by
  have hhedera : decimalsState.tokenInstances.lookup (hedera, scalingTokenId) =
      some ⟨.untracked, 18⟩ := by decide
  have haptos : decimalsState.tokenInstances.lookup (aptos, scalingTokenId) =
      some ⟨.tracked 0, 6⟩ := by decide
  have hconfigHedera : decimalsState.chainConfigs.lookup hedera = some ⟨⟨⟨255⟩, 18⟩⟩ := by decide
  have hconfigAptos : decimalsState.chainConfigs.lookup aptos = some ⟨⟨⟨63⟩, 6⟩⟩ := by decide
  obtain ⟨x, y, hthere, hback⟩ : ∃ x y,
      destinationAmount decimalsState hedera aptos scalingTokenId threeTokens = .ok x ∧
      destinationAmount decimalsState aptos hedera scalingTokenId x = .ok y := ⟨_, _, rfl, rfl⟩
  obtain ⟨x', y', hthere', hback'⟩ : ∃ x y,
      destinationAmount decimalsState aptos hedera scalingTokenId fiftyNineMicros = .ok x ∧
      destinationAmount decimalsState hedera aptos scalingTokenId x = .ok y := ⟨_, _, rfl, rfl⟩
  exact ⟨⟨x, y, hthere, hback, (destinationAmount_round_trip hhedera haptos hconfigHedera
      hconfigAptos hthere hback).1⟩,
    ⟨x', y', hthere', hback', (destinationAmount_round_trip haptos hhedera hconfigAptos
      hconfigHedera hthere' hback').2 (by decide)⟩⟩

/-! ## Equal decimals skip the `max_uint_bits` test -/

theorem equal_decimals_skip_max_uint_check {s : State} {sourceChain destinationChain : ChainNameRaw}
    {tokenId : TokenId} {sourceToken destinationToken : TokenInstance} {config : ChainConfig}
    (hsource : s.tokenInstances.lookup (sourceChain, tokenId) = some sourceToken)
    (hdestination : s.tokenInstances.lookup (destinationChain, tokenId) = some destinationToken)
    (hconfig : s.chainConfigs.lookup destinationChain = some config)
    (heq : sourceToken.decimals = destinationToken.decimals) (sourceAmount : NonemptyUint256)
    (hover : 2 ^ config.truncation.maxUintBits.bits ≤ sourceAmount.val.val) :
    destinationAmount s sourceChain destinationChain tokenId sourceAmount = .ok sourceAmount ∧
      ∃ destinationConfig, s.chainConfigs.lookup destinationChain = some destinationConfig ∧
        amountOverflows sourceAmount.val destinationConfig.truncation.maxUintBits = true :=
  ⟨destinationAmount_of_decimals_eq hsource hdestination heq sourceAmount,
    config, hconfig, (amountOverflows_iff _ _).mpr hover⟩

/-- A token with six decimals on a 256-bit chain and on a chain of 64-bit amounts. -/
def scalingState : State :=
  ⟨((∅ : Map ChainNameRaw ChainConfig).insert hedera ⟨⟨⟨255⟩, 18⟩⟩).insert aptos ⟨⟨⟨63⟩, 6⟩⟩,
    ((∅ : Map (ChainNameRaw × TokenId) TokenInstance).insert (hedera, scalingTokenId)
      ⟨.untracked, 6⟩).insert (aptos, scalingTokenId) ⟨.tracked 0, 6⟩⟩

/-- `2 ^ 64` base units. -/
def twoPow64 : NonemptyUint256 := ⟨⟨2 ^ 64, by norm_num [uint256Bound]⟩, by norm_num⟩

theorem equal_decimals_skip_max_uint_check_hedera_aptos :
    scalingState.tokenInstances.lookup (hedera, scalingTokenId) = some ⟨.untracked, 6⟩ ∧
    scalingState.tokenInstances.lookup (aptos, scalingTokenId) = some ⟨.tracked 0, 6⟩ ∧
    scalingState.chainConfigs.lookup aptos = some ⟨⟨⟨63⟩, 6⟩⟩ ∧
    (2 ^ (⟨63⟩ : NumBits).bits ≤ twoPow64.val.val) ∧
    destinationAmount scalingState hedera aptos scalingTokenId twoPow64 = .ok twoPow64 ∧
      ∃ destinationConfig, scalingState.chainConfigs.lookup aptos = some destinationConfig ∧
        amountOverflows twoPow64.val destinationConfig.truncation.maxUintBits = true := by
  have hsource : scalingState.tokenInstances.lookup (hedera, scalingTokenId) =
      some ⟨.untracked, 6⟩ := by decide
  have hdestination : scalingState.tokenInstances.lookup (aptos, scalingTokenId) =
      some ⟨.tracked 0, 6⟩ := by decide
  have hconfig : scalingState.chainConfigs.lookup aptos = some ⟨⟨⟨63⟩, 6⟩⟩ := by decide
  have hover : 2 ^ (⟨63⟩ : NumBits).bits ≤ twoPow64.val.val := by decide
  exact ⟨hsource, hdestination, hconfig, hover,
    equal_decimals_skip_max_uint_check hsource hdestination hconfig rfl twoPow64 hover⟩

end Amplifier.Its
