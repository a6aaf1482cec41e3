import Amplifier.Lib.Store

/-!
# Amplifier.WasmStd.Threshold — thresholds, quorums and snapshots

The fractions of `axelar-wasm-std`'s `threshold.rs` and the participant
snapshot of `snapshot.rs`:

* `Threshold` — a fraction in `(0, 1]`; its only constructor, `try_from`,
  rejects a zero part and a numerator above the denominator, so the structure
  carries these checks as fields;
* `MajorityThreshold` — a `Threshold` above one half, checked as
  `numerator > denominator / 2` in integer division; `denominator_lt_two_mul`
  turns this into the exact `denominator < 2 * numerator`;
* `Snapshot.new` — the participants of a poll (a `HashMap` keyed by address)
  and its quorum `⌈W · n / d⌉`, where `W` is the saturating sum of the weights.

`Uint128` amounts are natural numbers; where the code saturates at
`Uint128::MAX` the model does too (`saturatingAdd`). `quorum_spec` is what every
safety argument about polls uses: a quorum is positive, at most the total weight,
and more than half of it.
-/

namespace Amplifier.WasmStd

/-- `Uint128::MAX`. -/
def uint128Max : ℕ := 2 ^ 128 - 1

/-- `u64::MAX`, the bound of block heights, poll ids and expiries. -/
def uint64Max : ℕ := 2 ^ 64 - 1

/-- `checked_add` below a bound: the sum, or nothing when it exceeds the bound. -/
def checkedAdd (bound a b : ℕ) : Option ℕ :=
  if a + b ≤ bound then some (a + b) else none

@[simp]
theorem checkedAdd_eq_some {bound a b c : ℕ} :
    checkedAdd bound a b = some c ↔ a + b ≤ bound ∧ c = a + b := by
  unfold checkedAdd
  split_ifs with h <;> simp [h, eq_comm]

/-- `Uint128::saturating_add`. -/
def saturatingAdd (a b : ℕ) : ℕ := min (a + b) uint128Max

theorem saturatingAdd_of_le {a b : ℕ} (h : a + b ≤ uint128Max) : saturatingAdd a b = a + b :=
  min_eq_left h

theorem le_saturatingAdd {a : ℕ} (b : ℕ) (h : a ≤ uint128Max) : a ≤ saturatingAdd a b :=
  le_min (Nat.le_add_right a b) h

theorem saturatingAdd_le_add (a b : ℕ) : saturatingAdd a b ≤ a + b :=
  min_le_left _ _

theorem saturatingAdd_le_max (a b : ℕ) : saturatingAdd a b ≤ uint128Max :=
  min_le_right _ _

/-- `Uint128::mul_ceil` by a fraction `n / d`: the floor of `x * n / d`, plus
one when the division leaves a remainder. -/
def mulCeil (x n d : ℕ) : ℕ :=
  x * n / d + if x * n % d = 0 then 0 else 1

/-- The ceiling is at least the exact product: `x * n ≤ mulCeil x n d * d`. -/
theorem mul_le_mulCeil_mul (x n : ℕ) {d : ℕ} (hd : 0 < d) : x * n ≤ mulCeil x n d * d := by
  have hdiv := Nat.div_add_mod (x * n) d
  have hlt := Nat.mod_lt (x * n) hd
  unfold mulCeil
  rw [Nat.add_mul, Nat.mul_comm (x * n / d) d]
  split_ifs <;> omega

/-- The ceiling overshoots by less than one: `mulCeil x n d * d < x * n + d`. -/
theorem mulCeil_mul_lt (x n : ℕ) {d : ℕ} (hd : 0 < d) : mulCeil x n d * d < x * n + d := by
  have hdiv := Nat.div_add_mod (x * n) d
  have hlt := Nat.mod_lt (x * n) hd
  unfold mulCeil
  rw [Nat.add_mul, Nat.mul_comm (x * n / d) d]
  split_ifs <;> omega

/-- `threshold::Error`. -/
inductive ThresholdError where
  | outOfInterval
  | noMajority
  | invalidParameter
  deriving DecidableEq, Repr

/-- `Threshold`: a fraction in `(0, 1]`. The fields are `nonempty::Uint64`s and
`try_from` is the only way to build one, so both parts are positive and the
numerator is at most the denominator. -/
structure Threshold where
  numerator : ℕ
  denominator : ℕ
  numerator_pos : 0 < numerator
  denominator_pos : 0 < denominator
  numerator_le : numerator ≤ denominator

/-- `Threshold::try_from((numerator, denominator))`. -/
def Threshold.tryFrom (numerator denominator : ℕ) : Except ThresholdError Threshold :=
  if hn : numerator = 0 then .error .invalidParameter
  else if hd : denominator = 0 then .error .invalidParameter
  else if hle : denominator < numerator then .error .outOfInterval
  else .ok ⟨numerator, denominator, Nat.pos_of_ne_zero hn, Nat.pos_of_ne_zero hd,
    Nat.le_of_not_lt hle⟩

/-- `Threshold`'s `PartialOrd`: `a ≤ b` compares the cross products
`a.numerator · b.denominator` and `b.numerator · a.denominator` (`full_mul`, so
without overflow). -/
def Threshold.le (a b : Threshold) : Bool :=
  a.numerator * b.denominator ≤ b.numerator * a.denominator

/-- `MajorityThreshold`: a threshold strictly above one half, as checked by its
`try_from` in integer division. -/
structure MajorityThreshold extends Threshold where
  majority : denominator / 2 < numerator

/-- `MajorityThreshold::try_from(Threshold)`. -/
def MajorityThreshold.tryFrom (t : Threshold) : Except ThresholdError MajorityThreshold :=
  if h : t.numerator ≤ t.denominator / 2 then .error .noMajority
  else .ok ⟨t, Nat.lt_of_not_le h⟩

/-- The integer-division check is exactly a strict majority. -/
theorem MajorityThreshold.denominator_lt_two_mul (t : MajorityThreshold) :
    t.denominator < 2 * t.numerator := by
  have := t.majority
  omega

/-- `snapshot::Participant`: an address with a `nonempty::Uint128` weight. -/
structure Participant (Addr : Type) where
  address : Addr
  weight : ℕ
  weight_pos : 0 < weight

/-- `Snapshot`: the quorum of a poll and its participants by address. -/
structure Snapshot (Addr : Type) [DecidableEq Addr] where
  quorum : ℕ
  participants : Map Addr (Participant Addr)

variable {Addr : Type} [DecidableEq Addr]

/-- The running total of `Snapshot::new`: weights added with `saturating_add`. -/
def totalWeight (participants : List (Participant Addr)) : ℕ :=
  participants.foldl (fun total p => saturatingAdd total p.weight) 0

/-- `Snapshot::new`: the participants collected into a map by address (a later
participant with the same address replaces an earlier one) and the quorum
`mul_ceil` of the saturated total weight. -/
def Snapshot.new (threshold : MajorityThreshold) (participants : List (Participant Addr)) :
    Snapshot Addr where
  quorum := mulCeil (totalWeight participants) threshold.numerator threshold.denominator
  participants := Map.ofList (participants.map fun p => (p.address, p))

/-- The sum of the weights of a list of participants. -/
def weightSum (participants : List (Participant Addr)) : ℕ :=
  (participants.map Participant.weight).sum

omit [DecidableEq Addr] in
/-- The saturating fold never saturates while a prefix stays below the bound. -/
theorem foldl_saturatingAdd (participants : List (Participant Addr)) (acc : ℕ)
    (h : acc + weightSum participants ≤ uint128Max) :
    participants.foldl (fun total p => saturatingAdd total p.weight) acc =
      acc + weightSum participants := by
  induction participants generalizing acc with
  | nil => simp [weightSum]
  | cons p rest ih =>
      simp only [weightSum, List.map_cons, List.sum_cons] at h ⊢
      rw [List.foldl_cons, saturatingAdd_of_le (by omega), ih (acc + p.weight) (by
        simp only [weightSum]; omega)]
      simp only [weightSum]
      omega

omit [DecidableEq Addr] in
/-- Below `Uint128::MAX` the running total is the plain sum. -/
theorem totalWeight_eq (participants : List (Participant Addr))
    (h : weightSum participants ≤ uint128Max) :
    totalWeight participants = weightSum participants := by
  rw [totalWeight, foldl_saturatingAdd participants 0 (by omega), Nat.zero_add]

omit [DecidableEq Addr] in
theorem weightSum_pos {participants : List (Participant Addr)} (hne : participants ≠ []) :
    0 < weightSum participants := by
  obtain ⟨p, rest, rfl⟩ := List.exists_cons_of_ne_nil hne
  simp only [weightSum, List.map_cons, List.sum_cons]
  have := p.weight_pos
  omega

/-- The total weight of the snapshot's map is the list's weight when the
addresses are distinct. -/
theorem Snapshot.sum_participants (threshold : MajorityThreshold)
    {participants : List (Participant Addr)} (hnd : (participants.map (·.address)).Nodup) :
    Map.sum (fun _ p => p.weight) (Snapshot.new threshold participants).participants =
      weightSum participants := by
  simp only [Snapshot.new]
  rw [Map.sum_ofList _ (by simpa [List.map_map, Function.comp_def] using hnd)]
  simp [weightSum, List.map_map, Function.comp_def]

/-- A participant the snapshot holds under an address is one of the list's, with
that address. -/
theorem Snapshot.mem_of_lookup (threshold : MajorityThreshold)
    {participants : List (Participant Addr)} {address : Addr} {q : Participant Addr}
    (h : (Snapshot.new threshold participants).participants.lookup address = some q) :
    q ∈ participants ∧ q.address = address := by
  obtain ⟨p, hp, hpq⟩ := List.mem_map.mp (Map.mem_of_lookup_ofList h)
  simp only [Prod.mk.injEq] at hpq
  obtain ⟨haddr, rfl⟩ := hpq
  exact ⟨hp, haddr⟩

/-- The quorum of a snapshot: positive, at most the total weight `W`, and more than
half of it (`W < 2 * quorum`). -/
theorem Snapshot.quorum_spec (threshold : MajorityThreshold)
    {participants : List (Participant Addr)} (hne : participants ≠ [])
    (hmax : weightSum participants ≤ uint128Max) :
    0 < (Snapshot.new threshold participants).quorum ∧
      (Snapshot.new threshold participants).quorum ≤ weightSum participants ∧
      weightSum participants < 2 * (Snapshot.new threshold participants).quorum := by
  simp only [Snapshot.new, totalWeight_eq participants hmax]
  set W := weightSum participants
  set q := mulCeil W threshold.numerator threshold.denominator
  have hW : 0 < W := weightSum_pos hne
  have hd := threshold.denominator_pos
  have hn := threshold.numerator_pos
  have hle := threshold.numerator_le
  have hmaj := threshold.denominator_lt_two_mul
  have hlow : W * threshold.numerator ≤ q * threshold.denominator :=
    mul_le_mulCeil_mul W threshold.numerator hd
  have hhigh : q * threshold.denominator < W * threshold.numerator + threshold.denominator :=
    mulCeil_mul_lt W threshold.numerator hd
  refine ⟨?_, ?_, ?_⟩
  · -- `W * n` is positive, and the ceiling times `d` is at least it
    have hpos : 0 < W * threshold.numerator := Nat.mul_pos hW hn
    exact Nat.pos_of_mul_pos_right (Nat.lt_of_lt_of_le hpos hlow)
  · -- `q * d < W * n + d ≤ W * d + d = (W + 1) * d`
    have hWn : W * threshold.numerator ≤ W * threshold.denominator := Nat.mul_le_mul_left W hle
    by_contra hgt
    have hq : (W + 1) * threshold.denominator ≤ q * threshold.denominator :=
      Nat.mul_le_mul_right _ (by omega)
    rw [Nat.succ_mul] at hq
    omega
  · -- `2 q d ≥ 2 W n > W d`, since `d < 2 n`
    have hWd : W * threshold.denominator < W * (2 * threshold.numerator) :=
      Nat.mul_lt_mul_of_pos_left hmaj hW
    rw [Nat.mul_left_comm] at hWd
    by_contra hle2
    have hq : 2 * q * threshold.denominator ≤ W * threshold.denominator :=
      Nat.mul_le_mul_right _ (by omega)
    rw [Nat.mul_assoc] at hq
    omega

end Amplifier.WasmStd
