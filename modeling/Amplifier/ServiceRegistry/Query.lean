import Amplifier.Lib.Bytes
import Amplifier.ServiceRegistry.Accounting

/-!
# Amplifier.ServiceRegistry.Query — the active verifiers of a chain

`active_verifiers` (`contract/query.rs`) answers which verifiers of a service
serve a chain: those that declared support for the chain, are authorized and
have bonded at least the service's minimum bond, each with the same weight. It
fails when there are fewer than the minimum number of them, and otherwise, when
the service (or its override for the chain) has a maximum, keeps the top ones
by `select_top_verifiers`.

`select_top_verifiers` runs `select_nth_unstable_by` twice: once to find the
weight of the last verifier to keep (the cut-off weight), once more with a
comparator that orders verifiers of the cut-off weight by the Keccak-256 of
their address and the block height, and keeps the prefix. The selection is a
parameter (`SelectNthUnstable`), so whatever is proved holds for every
implementation of the standard library's contract:

* `mem_selectTopVerifiers` — when the seeded hashes of the candidates differ,
  a verifier is kept exactly when fewer verifiers than the maximum come before
  it by weight and, at the cut-off weight, by hash; the cut-off weight is the
  weight of that rank (`IsCutoff`), the same for every implementation and
  every order of the candidates (`isCutoff_unique`);
* so the verifiers kept do not depend on either (`selectTopVerifiers_perm`),
  and no verifier left out outranks one kept (`outranked_of_not_mem`).

The verifiers' order in storage (by address) is the order of the
`VERIFIERS_PER_CHAIN` map here; nothing proved depends on it.
-/

namespace Amplifier.ServiceRegistry

open WasmStd RouterApi

/-- `VERIFIER_WEIGHT`: every verifier weighs one. -/
def verifierWeight : ℕ := 1

/-- `WeightedVerifier`. -/
structure WeightedVerifier where
  verifierInfo : Verifier
  weight : ℕ

/-- `hash_address_with_seed`: Keccak-256 of the address followed by the seed's
eight big-endian bytes. -/
def hashAddressWithSeed (keccak256 : ByteArray → Hash) (address : String) (seed : ℕ) : Hash :=
  keccak256 (address.toUTF8 ++ beBytes 8 seed)

/-! ## Selecting the top verifiers -/

section Select

variable (keccak256 : ByteArray → Hash) (blockHeight : ℕ)

/-- The comparator of the first selection: the heavier first. -/
def byWeight (a b : WeightedVerifier) : Ordering := compare b.weight a.weight

/-- The comparator of the second selection: the heavier first and, at the
cut-off weight, the smaller seeded hash first. -/
def byWeightThenHash (cutoffWeight : ℕ) (a b : WeightedVerifier) : Ordering :=
  (compare b.weight a.weight).then
    (if a.weight = cutoffWeight then
      compareBytes (hashAddressWithSeed keccak256 a.verifierInfo.address blockHeight).toList
        (hashAddressWithSeed keccak256 b.verifierInfo.address blockHeight).toList
    else .eq)

/-- `select_top_verifiers`: with more candidates than the maximum, the first
`maxVerifiers` after the two selections. -/
def selectTopVerifiers (select : SelectNthUnstable) (verifiers : List WeightedVerifier)
    (maxVerifiers : ℕ) : List WeightedVerifier :=
  if verifiers.length ≤ maxVerifiers then verifiers
  else
    let cutoffIdx := maxVerifiers - 1
    let verifiers := select.selectNthUnstableBy verifiers cutoffIdx byWeight
    -- the selection keeps the length, so the index is in range
    let cutoffWeight := (verifiers[cutoffIdx]?.map WeightedVerifier.weight).getD 0
    let verifiers := select.selectNthUnstableBy verifiers cutoffIdx
      (byWeightThenHash keccak256 blockHeight cutoffWeight)
    verifiers.take maxVerifiers

/-- The key `byWeight` orders by. -/
def weightKey (v : WeightedVerifier) : ℕᵒᵈ := OrderDual.toDual v.weight

/-- The key `byWeightThenHash` orders by: the weight, heavier first, then at the
cut-off weight the bytes of the seeded hash. -/
def weightHashKey (cutoffWeight : ℕ) (v : WeightedVerifier) : Lex (ℕᵒᵈ × List ℕ) :=
  toLex (OrderDual.toDual v.weight,
    if v.weight = cutoffWeight then
      byteValues (hashAddressWithSeed keccak256 v.verifierInfo.address blockHeight).toList
    else [])

theorem ordersBy_byWeight : OrdersBy byWeight weightKey := by
  intro a b
  simp only [byWeight, weightKey, OrderDual.toDual_lt_toDual, compare_lt_iff_lt,
    compare_gt_iff_gt, and_self]

theorem ordersBy_byWeightThenHash (cutoffWeight : ℕ) :
    OrdersBy (byWeightThenHash keccak256 blockHeight cutoffWeight)
      (weightHashKey keccak256 blockHeight cutoffWeight) := by
  intro a b
  have hbytes := ordersBy_compareBytes
    (hashAddressWithSeed keccak256 a.verifierInfo.address blockHeight).toList
    (hashAddressWithSeed keccak256 b.verifierInfo.address blockHeight).toList
  simp only [byWeightThenHash, weightHashKey, Prod.Lex.toLex_lt_toLex,
    OrderDual.toDual_lt_toDual, Ordering.then_eq_lt, Ordering.then_eq_gt, compare_lt_iff_lt,
    compare_gt_iff_gt, compare_eq_iff_eq]
  by_cases hw : b.weight = a.weight
  · -- equal weights: the hashes decide, and only at the cut-off weight
    rw [hw]
    by_cases hc : a.weight = cutoffWeight
    · simp [hc, hbytes.1, hbytes.2]
    · simp [hc]
  · -- different weights: the weights decide
    have hw' : a.weight ≠ b.weight := Ne.symm hw
    simp [hw, hw']

/-- A heavier verifier comes first in the second selection's order. -/
theorem weightHashKey_lt_of_weight_lt {cutoffWeight : ℕ} {u v : WeightedVerifier}
    (h : v.weight < u.weight) :
    weightHashKey keccak256 blockHeight cutoffWeight u <
      weightHashKey keccak256 blockHeight cutoffWeight v :=
  Prod.Lex.toLex_lt_toLex.mpr (.inl (OrderDual.toDual_lt_toDual.mpr h))

/-- What comes no later in the second selection's order weighs no less. -/
theorem weight_le_of_weightHashKey_le {cutoffWeight : ℕ} {u v : WeightedVerifier}
    (h : weightHashKey keccak256 blockHeight cutoffWeight u ≤
      weightHashKey keccak256 blockHeight cutoffWeight v) : v.weight ≤ u.weight := by
  rcases Prod.Lex.toLex_le_toLex.mp h with h | ⟨h, -⟩
  · exact le_of_lt (OrderDual.toDual_lt_toDual.mp h)
  · exact le_of_eq (OrderDual.toDual_inj.mp h).symm

/-- Two verifiers of the cut-off weight with one key have one seeded hash. -/
theorem hash_eq_of_weightHashKey_eq {cutoffWeight : ℕ} {u v : WeightedVerifier}
    (hu : u.weight = cutoffWeight)
    (h : weightHashKey keccak256 blockHeight cutoffWeight u =
      weightHashKey keccak256 blockHeight cutoffWeight v) :
    hashAddressWithSeed keccak256 u.verifierInfo.address blockHeight =
      hashAddressWithSeed keccak256 v.verifierInfo.address blockHeight := by
  obtain ⟨hweight, hbytes⟩ := Prod.mk.inj (toLex_inj.mp h)
  have hv : v.weight = cutoffWeight := (OrderDual.toDual_inj.mp hweight) ▸ hu
  simp only [hu, hv, if_true] at hbytes
  exact Vector.toList_inj.mp
    (List.map_injective_iff.mpr (fun a b h => UInt8.toNat_inj.mp h) hbytes)

end Select

/-- `cutoffWeight` is the weight of rank `maxVerifiers` from the top: fewer than
`maxVerifiers` candidates weigh more, and at least `maxVerifiers` weigh as much
or more. -/
def IsCutoff (verifiers : List WeightedVerifier) (maxVerifiers cutoffWeight : ℕ) : Prop :=
  verifiers.countP (fun v => cutoffWeight < v.weight) < maxVerifiers ∧
    maxVerifiers ≤ verifiers.countP (fun v => cutoffWeight ≤ v.weight)

theorem IsCutoff.perm {verifiers verifiers' : List WeightedVerifier} {maxVerifiers c : ℕ}
    (h : IsCutoff verifiers maxVerifiers c) (hperm : verifiers'.Perm verifiers) :
    IsCutoff verifiers' maxVerifiers c := by
  unfold IsCutoff
  rw [hperm.countP_eq, hperm.countP_eq]
  exact h

/-- The weight of a rank is unique. -/
theorem isCutoff_unique {verifiers : List WeightedVerifier} {maxVerifiers c c' : ℕ}
    (hpos : 0 < maxVerifiers) (h : IsCutoff verifiers maxVerifiers c)
    (h' : IsCutoff verifiers maxVerifiers c') : c = c' := by
  -- the weight order read downwards is the order statistic of `weightKey`
  have bounds : ∀ {c}, IsCutoff verifiers maxVerifiers c →
      verifiers.countP (fun v => weightKey v < OrderDual.toDual c) ≤ maxVerifiers - 1 ∧
        maxVerifiers - 1 < verifiers.countP (fun v => weightKey v ≤ OrderDual.toDual c) := by
    intro c hc
    have hlt := hc.1
    have hle := hc.2
    change verifiers.countP (fun v => c < v.weight) ≤ _ ∧ _ < verifiers.countP (fun v => c ≤ v.weight)
    omega
  have hkey := eq_of_countP_bounds (bounds h).1 (bounds h).2 (bounds h').1 (bounds h').2
  exact OrderDual.toDual_inj.mp hkey

section Select

variable (keccak256 : ByteArray → Hash) (blockHeight : ℕ) (select : SelectNthUnstable)
  {verifiers : List WeightedVerifier} {maxVerifiers : ℕ}

/-- The two selections `select_top_verifiers` makes when there are more
candidates than the maximum. -/
theorem selectTopVerifiers_eq (hlen : maxVerifiers < verifiers.length) :
    ∃ byWeighted pivot,
      SelectsNth weightKey verifiers (maxVerifiers - 1) byWeighted pivot ∧
      ∃ selected pivot', SelectsNth (weightHashKey keccak256 blockHeight pivot.weight)
          byWeighted (maxVerifiers - 1) selected pivot' ∧
        selectTopVerifiers keccak256 blockHeight select verifiers maxVerifiers =
          selected.take maxVerifiers := by
  have hi : maxVerifiers - 1 < verifiers.length := by omega
  obtain ⟨pivot, h₁⟩ := select.selects verifiers (maxVerifiers - 1) byWeight weightKey
    ordersBy_byWeight hi
  have hi' : maxVerifiers - 1 <
      (select.selectNthUnstableBy verifiers (maxVerifiers - 1) byWeight).length :=
    h₁.perm.length_eq ▸ hi
  obtain ⟨pivot', h₂⟩ := select.selects _ (maxVerifiers - 1) _ _
    (ordersBy_byWeightThenHash keccak256 blockHeight pivot.weight) hi'
  refine ⟨_, pivot, h₁, _, pivot', h₂, ?_⟩
  simp only [selectTopVerifiers, if_neg (Nat.not_le.mpr hlen), h₁.getElem?_eq, Option.map_some,
    Option.getD_some]

/-- The first selection's pivot has the weight of the rank. -/
theorem isCutoff_of_selectsNth {byWeighted : List WeightedVerifier} {pivot : WeightedVerifier}
    (hpos : 0 < maxVerifiers)
    (h : SelectsNth weightKey verifiers (maxVerifiers - 1) byWeighted pivot) :
    IsCutoff verifiers maxVerifiers pivot.weight := by
  have hlt := h.countP_lt_le
  have hle := h.lt_countP_le
  change verifiers.countP (fun v => pivot.weight < v.weight) ≤ _ at hlt
  change _ < verifiers.countP (fun v => pivot.weight ≤ v.weight) at hle
  exact ⟨by omega, by omega⟩

/-- So has the second selection's pivot, whatever weight it breaks ties at. -/
theorem isCutoff_of_selectsNth_weightHash {c : ℕ} {byWeighted selected : List WeightedVerifier}
    {pivot' : WeightedVerifier} (hpos : 0 < maxVerifiers) (hperm : byWeighted.Perm verifiers)
    (h : SelectsNth (weightHashKey keccak256 blockHeight c) byWeighted (maxVerifiers - 1) selected
      pivot') :
    IsCutoff verifiers maxVerifiers pivot'.weight := by
  have hlt := h.countP_lt_le
  have hle := h.lt_countP_le
  rw [hperm.countP_eq] at hlt hle
  -- the heavier come before the pivot, and what comes no later weighs no less
  have hheavier : verifiers.countP (fun v => pivot'.weight < v.weight) ≤
      verifiers.countP (fun v => weightHashKey keccak256 blockHeight c v <
        weightHashKey keccak256 blockHeight c pivot') := by
    apply List.countP_mono_left
    intro v _ hv
    simp only [decide_eq_true_eq] at hv ⊢
    exact weightHashKey_lt_of_weight_lt keccak256 blockHeight hv
  have hlighter : verifiers.countP (fun v => weightHashKey keccak256 blockHeight c v ≤
      weightHashKey keccak256 blockHeight c pivot') ≤
      verifiers.countP (fun v => pivot'.weight ≤ v.weight) := by
    apply List.countP_mono_left
    intro v _ hv
    simp only [decide_eq_true_eq] at hv ⊢
    exact weight_le_of_weightHashKey_le keccak256 blockHeight hv
  exact ⟨by omega, by omega⟩

/-- When the candidates' seeded hashes differ, a candidate is kept exactly when
fewer than the maximum come before it, by weight and at the cut-off weight by
hash. -/
theorem mem_selectTopVerifiers
    (hnd : (verifiers.map fun v =>
      hashAddressWithSeed keccak256 v.verifierInfo.address blockHeight).Nodup)
    (hpos : 0 < maxVerifiers) (hlen : maxVerifiers < verifiers.length) :
    ∃ cutoffWeight, IsCutoff verifiers maxVerifiers cutoffWeight ∧
      ∀ v, v ∈ selectTopVerifiers keccak256 blockHeight select verifiers maxVerifiers ↔
        v ∈ verifiers ∧ verifiers.countP (fun u =>
          weightHashKey keccak256 blockHeight cutoffWeight u <
            weightHashKey keccak256 blockHeight cutoffWeight v) < maxVerifiers := by
  obtain ⟨byWeighted, pivot, h₁, selected, pivot', h₂, heq⟩ :=
    selectTopVerifiers_eq keccak256 blockHeight select hlen
  have hcut := isCutoff_of_selectsNth hpos h₁
  -- the second selection's pivot has the cut-off weight
  have hweight : pivot'.weight = pivot.weight :=
    isCutoff_unique hpos (isCutoff_of_selectsNth_weightHash keccak256 blockHeight hpos h₁.perm h₂)
      hcut
  -- and no other candidate shares its key, as its seeded hash is its own
  have hclass : ∀ b ∈ byWeighted, weightHashKey keccak256 blockHeight pivot.weight b =
      weightHashKey keccak256 blockHeight pivot.weight pivot' → b = pivot' := by
    intro b hb hkey
    have hbw : b.weight = pivot.weight :=
      (OrderDual.toDual_inj.mp (Prod.mk.inj (toLex_inj.mp hkey)).1).trans hweight
    have hpivot' : pivot' ∈ verifiers :=
      h₁.perm.subset (h₂.perm.subset (List.mem_of_getElem? h₂.getElem?_eq))
    exact List.inj_on_of_nodup_map hnd (h₁.perm.subset hb) hpivot'
      (hash_eq_of_weightHashKey_eq keccak256 blockHeight hbw hkey)
  refine ⟨pivot.weight, hcut, fun v => ?_⟩
  have htake : selected.take maxVerifiers = selected.take (maxVerifiers - 1 + 1) := by
    rw [Nat.sub_add_cancel hpos]
  rw [heq, htake, h₂.mem_take_iff hclass, h₁.perm.mem_iff, h₁.perm.countP_eq]
  constructor
  · rintro ⟨hv, hcount⟩
    exact ⟨hv, by omega⟩
  · rintro ⟨hv, hcount⟩
    exact ⟨hv, by omega⟩

/-- `select_top_verifiers` keeps some of the candidates, each at most as often as
it is given. -/
theorem selectTopVerifiers_subperm :
    (selectTopVerifiers keccak256 blockHeight select verifiers maxVerifiers).Subperm verifiers := by
  by_cases hlen : verifiers.length ≤ maxVerifiers
  · simp only [selectTopVerifiers, if_pos hlen]
    exact List.Subperm.refl _
  · obtain ⟨byWeighted, pivot, h₁, selected, pivot', h₂, heq⟩ :=
      selectTopVerifiers_eq keccak256 blockHeight select (Nat.lt_of_not_le hlen)
    rw [heq]
    exact ((List.take_sublist _ _).subperm.trans h₂.perm.subperm).trans h₁.perm.subperm

/-- It keeps as many as the maximum allows. -/
theorem length_selectTopVerifiers :
    (selectTopVerifiers keccak256 blockHeight select verifiers maxVerifiers).length =
      min maxVerifiers verifiers.length := by
  by_cases hlen : verifiers.length ≤ maxVerifiers
  · simp only [selectTopVerifiers, if_pos hlen]
    omega
  · obtain ⟨byWeighted, pivot, h₁, selected, pivot', h₂, heq⟩ :=
      selectTopVerifiers_eq keccak256 blockHeight select (Nat.lt_of_not_le hlen)
    rw [heq, List.length_take, h₂.perm.length_eq, h₁.perm.length_eq]

/-- Candidates with distinct seeded hashes are distinct, and so are those kept. -/
theorem nodup_selectTopVerifiers
    (hnd : (verifiers.map fun v =>
      hashAddressWithSeed keccak256 v.verifierInfo.address blockHeight).Nodup) :
    (selectTopVerifiers keccak256 blockHeight select verifiers maxVerifiers).Nodup := by
  have hsubperm : (selectTopVerifiers keccak256 blockHeight select verifiers maxVerifiers).Subperm
      verifiers := selectTopVerifiers_subperm keccak256 blockHeight select
  obtain ⟨kept, hperm, hsub⟩ := hsubperm
  exact hperm.nodup_iff.mp ((List.Nodup.of_map _ hnd).sublist hsub)

/-- With no room, nothing is kept. -/
theorem selectTopVerifiers_zero :
    selectTopVerifiers keccak256 blockHeight select verifiers 0 = [] := by
  apply List.eq_nil_of_length_eq_zero
  rw [length_selectTopVerifiers]
  exact Nat.zero_min _

/-- What is kept depends neither on the order of the candidates nor on the
implementation of the selection. -/
theorem selectTopVerifiers_perm {select' : SelectNthUnstable}
    {verifiers' : List WeightedVerifier}
    (hnd : (verifiers.map fun v =>
      hashAddressWithSeed keccak256 v.verifierInfo.address blockHeight).Nodup)
    (hperm : verifiers'.Perm verifiers) :
    (selectTopVerifiers keccak256 blockHeight select' verifiers' maxVerifiers).Perm
      (selectTopVerifiers keccak256 blockHeight select verifiers maxVerifiers) := by
  have hnd' : (verifiers'.map fun v =>
      hashAddressWithSeed keccak256 v.verifierInfo.address blockHeight).Nodup :=
    (hperm.map _).nodup_iff.mpr hnd
  by_cases hlen : verifiers.length ≤ maxVerifiers
  · -- both keep everything
    have hlen' : verifiers'.length ≤ maxVerifiers := hperm.length_eq ▸ hlen
    simp only [selectTopVerifiers, if_pos hlen, if_pos hlen']
    exact hperm
  · rcases Nat.eq_zero_or_pos maxVerifiers with hzero | hpos
    · subst hzero
      rw [selectTopVerifiers_zero, selectTopVerifiers_zero]
    · have hlen' : maxVerifiers < verifiers'.length := by
        rw [hperm.length_eq]
        omega
      obtain ⟨c, hc, hmem⟩ := mem_selectTopVerifiers keccak256 blockHeight select hnd
        hpos (Nat.lt_of_not_le hlen)
      obtain ⟨c', hc', hmem'⟩ := mem_selectTopVerifiers keccak256 blockHeight
        select' hnd' hpos hlen'
      -- the two runs find the same cut-off weight, then keep the same candidates
      have hcc : c' = c := isCutoff_unique hpos (hc'.perm hperm.symm) hc
      subst hcc
      apply (List.perm_ext_iff_of_nodup (nodup_selectTopVerifiers keccak256 blockHeight select' hnd')
        (nodup_selectTopVerifiers keccak256 blockHeight select hnd)).mpr
      intro v
      rw [hmem', hmem, hperm.mem_iff, hperm.countP_eq]

/-- No candidate left out outranks one kept: it weighs less, or as much with a
larger seeded hash. -/
theorem outranked_of_not_mem
    (hnd : (verifiers.map fun v =>
      hashAddressWithSeed keccak256 v.verifierInfo.address blockHeight).Nodup)
    {v u : WeightedVerifier}
    (hv : v ∈ selectTopVerifiers keccak256 blockHeight select verifiers maxVerifiers)
    (hu : u ∈ verifiers)
    (hnot : u ∉ selectTopVerifiers keccak256 blockHeight select verifiers maxVerifiers) :
    u.weight < v.weight ∨ (u.weight = v.weight ∧
      compareBytes (hashAddressWithSeed keccak256 v.verifierInfo.address blockHeight).toList
        (hashAddressWithSeed keccak256 u.verifierInfo.address blockHeight).toList = .lt) := by
  by_cases hlen : verifiers.length ≤ maxVerifiers
  · simp only [selectTopVerifiers, if_pos hlen] at hnot
    exact absurd hu hnot
  · rcases Nat.eq_zero_or_pos maxVerifiers with hzero | hpos
    · subst hzero
      rw [selectTopVerifiers_zero] at hv
      cases hv
    · obtain ⟨c, -, hmem⟩ := mem_selectTopVerifiers keccak256 blockHeight select hnd
        hpos (Nat.lt_of_not_le hlen)
      have hcv := ((hmem v).mp hv).2
      have hcu : ¬ verifiers.countP (fun w => weightHashKey keccak256 blockHeight c w <
          weightHashKey keccak256 blockHeight c u) < maxVerifiers :=
        fun h => hnot ((hmem u).mpr ⟨hu, h⟩)
      -- the kept one comes strictly before: otherwise no more would precede it
      have hlt : weightHashKey keccak256 blockHeight c v < weightHashKey keccak256 blockHeight c u := by
        by_contra hge
        have hmono : verifiers.countP (fun w => weightHashKey keccak256 blockHeight c w <
            weightHashKey keccak256 blockHeight c u) ≤
            verifiers.countP (fun w => weightHashKey keccak256 blockHeight c w <
              weightHashKey keccak256 blockHeight c v) := by
          apply List.countP_mono_left
          intro w _ hw
          simp only [decide_eq_true_eq] at hw ⊢
          exact lt_of_lt_of_le hw (not_lt.mp hge)
        omega
      -- which the lexicographic order reads as a weight, then a hash at the cut-off
      rcases Prod.Lex.toLex_lt_toLex.mp hlt with hw | ⟨hw, hh⟩
      · exact .inl (OrderDual.toDual_lt_toDual.mp hw)
      · have hweq : v.weight = u.weight := OrderDual.toDual_inj.mp hw
        refine .inr ⟨hweq.symm, ?_⟩
        by_cases hc : v.weight = c
        · have hcu : u.weight = c := hweq ▸ hc
          simp only [hc, hcu, if_true] at hh
          exact ((ordersBy_compareBytes _ _).1).mpr hh
        · have hcu : ¬ u.weight = c := hweq ▸ hc
          simp only [hc, hcu, if_false] at hh
          exact absurd hh (List.lt_irrefl _)

end Select

/-! ## The active verifiers -/

section Active

variable {s : State} {serviceName : String} {chainName : ChainName}

/-- The addresses of the verifiers of a service that support a chain: the keys of
the `VERIFIERS_PER_CHAIN` prefix of the service and the chain. -/
def chainVerifierAddresses (s : State) (serviceName : String) (chainName : ChainName) :
    List String :=
  s.verifiersPerChain.keys.filterMap fun key =>
    if key.1 = serviceName ∧ key.2.1 = chainName then some key.2.2 else none

/-- Bonded with at least the minimum bond. -/
def bondedAtLeast (minVerifierBond : ℕ) (verifier : Verifier) : Bool :=
  match verifier.bondingState with
  | .bonded amount => decide (minVerifierBond ≤ amount.val)
  | _ => false

/-- The candidates of `active_verifiers`: the verifiers that support the chain,
are bonded with at least the service's minimum bond and are authorized, each
with the verifier weight. -/
def eligibleVerifiers (s : State) (service : Service) (serviceName : String)
    (chainName : ChainName) : List WeightedVerifier :=
  ((((chainVerifierAddresses s serviceName chainName).filterMap fun addr =>
      s.verifiers.lookup (serviceName, addr)).filter
        (bondedAtLeast service.minVerifierBond.val)).filter
          fun verifier => verifier.authorizationState = .authorized).map
    fun verifier => ⟨verifier, verifierWeight⟩

/-- `active_verifiers`: too few candidates is an error; with a maximum, the top
ones are kept. -/
def activeVerifiers (keccak256 : ByteArray → Hash) (select : SelectNthUnstable) (s : State)
    (serviceName : String) (chainName : ChainName) (blockHeight : ℕ) :
    Except Failure (List WeightedVerifier) := do
  let service ← service s serviceName (some chainName)
  let verifiers := eligibleVerifiers s service serviceName chainName
  ensure (service.minNumVerifiers ≤ verifiers.length) (.error .notEnoughVerifiers)
  pure (match service.maxNumVerifiers with
    | some maxVerifiers => selectTopVerifiers keccak256 blockHeight select verifiers maxVerifiers
    | none => verifiers)

theorem activeVerifiers_eq_ok {keccak256 : ByteArray → Hash} {select : SelectNthUnstable}
    {blockHeight : ℕ} {L : List WeightedVerifier}
    (h : activeVerifiers keccak256 select s serviceName chainName blockHeight = .ok L) :
    ∃ svc, service s serviceName (some chainName) = .ok svc ∧
      svc.minNumVerifiers ≤ (eligibleVerifiers s svc serviceName chainName).length ∧
      L = match svc.maxNumVerifiers with
        | some maxVerifiers => selectTopVerifiers keccak256 blockHeight select
            (eligibleVerifiers s svc serviceName chainName) maxVerifiers
        | none => eligibleVerifiers s svc serviceName chainName := by
  simp only [activeVerifiers, bind_eq_ok, ensure_eq_ok, pure, Except.pure, Except.ok.injEq,
    decide_eq_true_eq] at h
  obtain ⟨svc, hsvc, -, hmin, hL⟩ := h
  exact ⟨svc, hsvc, hmin, hL.symm⟩

theorem mem_verifiersPerChain_of_mem {addr : String}
    (h : addr ∈ chainVerifierAddresses s serviceName chainName) :
    (serviceName, chainName, addr) ∈ s.verifiersPerChain := by
  obtain ⟨⟨service, chain, address⟩, hkey, hsome⟩ := List.mem_filterMap.mp h
  split_ifs at hsome with hmatch
  obtain ⟨rfl, rfl⟩ := hmatch
  cases hsome
  exact AList.mem_keys.mp hkey

/-- A key of the prefix is one address: the addresses are distinct. -/
theorem nodup_chainVerifierAddresses :
    (chainVerifierAddresses s serviceName chainName).Nodup := by
  apply List.Nodup.filterMap _ s.verifiersPerChain.keys_nodup
  intro key key' addr hkey hkey'
  split_ifs at hkey hkey' with hmatch hmatch'
  · obtain ⟨service, chain, address⟩ := key
    obtain ⟨service', chain', address'⟩ := key'
    dsimp only at hmatch hmatch' hkey hkey'
    obtain ⟨rfl, rfl⟩ := hmatch
    obtain ⟨rfl, rfl⟩ := hmatch'
    cases hkey
    cases hkey'
    rfl
  all_goals simp at hkey hkey'

/-- A candidate supports the chain, is stored, authorized and bonded enough. -/
theorem mem_eligibleVerifiers {svc : Service} {w : WeightedVerifier}
    (hw : w ∈ eligibleVerifiers s svc serviceName chainName) :
    ∃ addr, (serviceName, chainName, addr) ∈ s.verifiersPerChain ∧
      s.verifiers.lookup (serviceName, addr) = some w.verifierInfo ∧
      w.verifierInfo.authorizationState = .authorized ∧
      (∃ amount, w.verifierInfo.bondingState = .bonded amount ∧
        svc.minVerifierBond.val ≤ amount.val) ∧
      w.weight = verifierWeight := by
  obtain ⟨v, hv, rfl⟩ := List.mem_map.mp hw
  rw [List.mem_filter, List.mem_filter, List.mem_filterMap] at hv
  obtain ⟨⟨⟨addr, haddr, hlook⟩, hbond⟩, hauth⟩ := hv
  refine ⟨addr, mem_verifiersPerChain_of_mem haddr, hlook, of_decide_eq_true hauth, ?_, rfl⟩
  -- the bond filter admits only a bonded state of at least the minimum
  unfold bondedAtLeast at hbond
  split at hbond
  · next amount hstate => exact ⟨amount, hstate, of_decide_eq_true hbond⟩
  · cases hbond

/-- Under the registry's invariant a verifier is stored under its own address, so
the verifiers loaded for a list of addresses carry a sublist of them. -/
theorem map_address_filterMap_sublist (hinv : RegistryInv s) (serviceName : String) :
    ∀ addrs : List String, ((addrs.filterMap fun addr =>
      s.verifiers.lookup (serviceName, addr)).map Verifier.address).Sublist addrs
  | [] => List.Sublist.slnil
  | addr :: addrs => by
      have ih := map_address_filterMap_sublist hinv serviceName addrs
      cases hv : s.verifiers.lookup (serviceName, addr) with
      | none =>
          simp only [List.filterMap_cons, hv]
          exact ih.cons addr
      | some v =>
          simp only [List.filterMap_cons, hv, List.map_cons, (hinv.entries _ v hv).1]
          exact ih.cons_cons addr

/-- So the candidates have distinct addresses. -/
theorem nodup_address_eligibleVerifiers (hinv : RegistryInv s) (svc : Service) :
    ((eligibleVerifiers s svc serviceName chainName).map
      fun w => w.verifierInfo.address).Nodup := by
  unfold eligibleVerifiers
  rw [List.map_map]
  -- the weighted candidates carry the addresses of a sublist of the loaded verifiers
  have hcomp : ((fun w : WeightedVerifier => w.verifierInfo.address) ∘
      fun verifier => (⟨verifier, verifierWeight⟩ : WeightedVerifier)) = Verifier.address := rfl
  rw [hcomp]
  exact nodup_chainVerifierAddresses.sublist
    (((List.filter_sublist.trans List.filter_sublist).map Verifier.address).trans
      (map_address_filterMap_sublist hinv serviceName _))

/-- Under the registry's invariant a candidate was loaded under its own address. -/
theorem RegistryInv.mem_eligibleVerifiers (hinv : RegistryInv s) {svc : Service}
    {w : WeightedVerifier} (hw : w ∈ eligibleVerifiers s svc serviceName chainName) :
    (serviceName, chainName, w.verifierInfo.address) ∈ s.verifiersPerChain ∧
      s.verifiers.lookup (serviceName, w.verifierInfo.address) = some w.verifierInfo ∧
      w.verifierInfo.authorizationState = .authorized ∧
      ∃ amount, w.verifierInfo.bondingState = .bonded amount ∧
        svc.minVerifierBond.val ≤ amount.val := by
  obtain ⟨addr, hchain, hlook, hauth, hbond, -⟩ := ServiceRegistry.mem_eligibleVerifiers hw
  have haddr : w.verifierInfo.address = addr := (hinv.entries _ _ hlook).1
  rw [haddr]
  exact ⟨hchain, hlook, hauth, hbond⟩

end Active

/-! ## What a query of a reachable storage returns -/

theorem active_verifier_selection (keccak256 : ByteArray → Hash) (select : SelectNthUnstable)
    {governance : String} {s : State}
    (hs : Reachable (fun s (q : Externals × Call) => execute q.1 s q.2) (instantiate governance) s)
    (serviceName : String) (chainName : ChainName) (blockHeight : ℕ) :
    (∀ L, activeVerifiers keccak256 select s serviceName chainName blockHeight = .ok L →
      ∃ svc, service s serviceName (some chainName) = .ok svc ∧
        (L.map fun w => w.verifierInfo.address).Nodup ∧
        (∀ w ∈ L, (serviceName, chainName, w.verifierInfo.address) ∈ s.verifiersPerChain ∧
          s.verifiers.lookup (serviceName, w.verifierInfo.address) = some w.verifierInfo ∧
          w.verifierInfo.authorizationState = .authorized ∧
          ∃ amount, w.verifierInfo.bondingState = .bonded amount ∧
            svc.minVerifierBond.val ≤ amount.val) ∧
        svc.minNumVerifiers ≤ (eligibleVerifiers s svc serviceName chainName).length ∧
        (svc.maxNumVerifiers = none →
          L = eligibleVerifiers s svc serviceName chainName ∧ svc.minNumVerifiers ≤ L.length) ∧
        ∀ m, svc.maxNumVerifiers = some m →
          L.length = min m (eligibleVerifiers s svc serviceName chainName).length ∧
          (svc.minNumVerifiers ≤ m → svc.minNumVerifiers ≤ L.length)) ∧
    ∀ (verifiers : List WeightedVerifier) (maxVerifiers : ℕ),
      (verifiers.map fun v =>
        hashAddressWithSeed keccak256 v.verifierInfo.address blockHeight).Nodup →
      (verifiers.length ≤ maxVerifiers →
        selectTopVerifiers keccak256 blockHeight select verifiers maxVerifiers = verifiers) ∧
      (selectTopVerifiers keccak256 blockHeight select verifiers maxVerifiers).length =
        min maxVerifiers verifiers.length ∧
      (selectTopVerifiers keccak256 blockHeight select verifiers maxVerifiers).Subperm verifiers ∧
      (∀ v ∈ selectTopVerifiers keccak256 blockHeight select verifiers maxVerifiers,
        ∀ u ∈ verifiers, u ∉ selectTopVerifiers keccak256 blockHeight select verifiers maxVerifiers →
          u.weight < v.weight ∨ (u.weight = v.weight ∧
            compareBytes (hashAddressWithSeed keccak256 v.verifierInfo.address blockHeight).toList
              (hashAddressWithSeed keccak256 u.verifierInfo.address blockHeight).toList = .lt)) ∧
      ∀ (select' : SelectNthUnstable) (verifiers' : List WeightedVerifier),
        verifiers'.Perm verifiers →
        (selectTopVerifiers keccak256 blockHeight select' verifiers' maxVerifiers).Perm
          (selectTopVerifiers keccak256 blockHeight select verifiers maxVerifiers) := by
  have hinv := registryInv_reachable hs
  constructor
  · intro L hL
    obtain ⟨svc, hsvc, hmin, hL⟩ := activeVerifiers_eq_ok hL
    -- what is returned is some of the candidates, each at most once
    have hsub : L.Subperm (eligibleVerifiers s svc serviceName chainName) := by
      cases hmax : svc.maxNumVerifiers with
      | none =>
          simp only [hmax] at hL
          rw [hL]
      | some m =>
          simp only [hmax] at hL
          rw [hL]
          exact selectTopVerifiers_subperm keccak256 blockHeight select
    have hnodup : (L.map fun w => w.verifierInfo.address).Nodup := by
      obtain ⟨l, hperm, hsl⟩ := hsub
      exact (hperm.map _).nodup_iff.mp
        ((nodup_address_eligibleVerifiers hinv svc).sublist (hsl.map _))
    refine ⟨svc, hsvc, hnodup, fun w hw => hinv.mem_eligibleVerifiers (hsub.subset hw), hmin,
      ?_, ?_⟩
    · intro hmax
      simp only [hmax] at hL
      exact ⟨hL, hL ▸ hmin⟩
    · intro m hmax
      simp only [hmax] at hL
      -- the minimum is checked before the maximum truncates
      have hlen : L.length = min m (eligibleVerifiers s svc serviceName chainName).length := by
        rw [hL, length_selectTopVerifiers]
      refine ⟨hlen, fun hle => ?_⟩
      omega
  · intro verifiers maxVerifiers hnd
    refine ⟨fun hlen => if_pos hlen, length_selectTopVerifiers keccak256 blockHeight select,
      selectTopVerifiers_subperm keccak256 blockHeight select,
      fun v hv u hu hnot => outranked_of_not_mem keccak256 blockHeight select hnd hv hu hnot,
      fun select' verifiers' hperm => selectTopVerifiers_perm keccak256 blockHeight select hnd
        hperm⟩

/-- A stand-in for Keccak-256 on fixed inputs: the first 32 bytes, zero-padded. -/
def leadingBytesHash (bytes : ByteArray) : Hash := Vector.ofFn fun i => bytes.data.getD i.val 0

def flow : ChainName := ⟨"flow", by decide, by decide⟩

/-- Every address is valid and the coordinator lets every verifier unbond. -/
def registryExternals : Externals := ⟨fun _ => true, fun _ _ => some true⟩

/-- Governance registers a service that needs two verifiers, caps it at one on
`flow` by an override, and authorizes two verifiers, who bond and support
`flow`. -/
def registryCalls : List (Externals × Call) :=
  [(registryExternals, ⟨0, "governance", [], .registerService "validators" "coordinator" 2 none
      ⟨67, Nat.succ_pos 66⟩ "uvrf" 7 "validators"⟩),
    (registryExternals, ⟨0, "governance", [], .overrideServiceParams "validators" flow
      ⟨none, some (some 1)⟩⟩),
    (registryExternals, ⟨0, "governance", [],
      .authorizeVerifiers ["axelar1alpha", "axelar1beta"] "validators"⟩),
    (registryExternals, ⟨0, "axelar1alpha", [⟨"uvrf", 71⟩], .bondVerifier "validators"⟩),
    (registryExternals, ⟨0, "axelar1beta", [⟨"uvrf", 71⟩], .bondVerifier "validators"⟩),
    (registryExternals, ⟨0, "axelar1alpha", [], .registerChainSupport "validators" [flow]⟩),
    (registryExternals, ⟨0, "axelar1beta", [], .registerChainSupport "validators" [flow]⟩)]

/-- A bonded, authorized verifier of weight `weight`. -/
def cutoffVerifier (address : String) (weight : ℕ) : WeightedVerifier :=
  ⟨⟨address, .bonded ⟨71, by decide⟩, .authorized, "validators"⟩, weight⟩

/-- Two verifiers share the weight at the cut-off of two: the hash of the seeded
address decides between them. -/
def cutoffVerifiers : List WeightedVerifier :=
  [cutoffVerifier "axelar1gamma" 3, cutoffVerifier "axelar1beta" 5, cutoffVerifier "axelar1alpha" 3]

/-- After the run above, the query on `flow` is what the theorem says; and of
three verifiers capped at two, the heavier one is kept and, of the two at the
cut-off weight, the one whose seeded hash is smaller. -/
theorem active_verifier_selection_after_override :
    let s := (run (fun s (q : Externals × Call) => execute q.1 s q.2) (instantiate "governance")
      registryCalls).1
    Reachable (fun s (q : Externals × Call) => execute q.1 s q.2) (instantiate "governance") s ∧
    (eligibleVerifiers s ⟨"validators", "coordinator", 2, some 1, ⟨67, Nat.succ_pos 66⟩, "uvrf", 7,
      "validators"⟩ "validators" flow).length = 2 ∧
    ((∀ L, activeVerifiers leadingBytesHash mergeSelect s "validators" flow 7 = .ok L →
      ∃ svc, service s "validators" (some flow) = .ok svc ∧
        (L.map fun w => w.verifierInfo.address).Nodup ∧
        (∀ w ∈ L, ("validators", flow, w.verifierInfo.address) ∈ s.verifiersPerChain ∧
          s.verifiers.lookup ("validators", w.verifierInfo.address) = some w.verifierInfo ∧
          w.verifierInfo.authorizationState = .authorized ∧
          ∃ amount, w.verifierInfo.bondingState = .bonded amount ∧
            svc.minVerifierBond.val ≤ amount.val) ∧
        svc.minNumVerifiers ≤ (eligibleVerifiers s svc "validators" flow).length ∧
        (svc.maxNumVerifiers = none →
          L = eligibleVerifiers s svc "validators" flow ∧ svc.minNumVerifiers ≤ L.length) ∧
        ∀ m, svc.maxNumVerifiers = some m →
          L.length = min m (eligibleVerifiers s svc "validators" flow).length ∧
          (svc.minNumVerifiers ≤ m → svc.minNumVerifiers ≤ L.length)) ∧
    ∀ (verifiers : List WeightedVerifier) (maxVerifiers : ℕ),
      (verifiers.map fun v =>
        hashAddressWithSeed leadingBytesHash v.verifierInfo.address 7).Nodup →
      (verifiers.length ≤ maxVerifiers →
        selectTopVerifiers leadingBytesHash 7 mergeSelect verifiers maxVerifiers = verifiers) ∧
      (selectTopVerifiers leadingBytesHash 7 mergeSelect verifiers maxVerifiers).length =
        min maxVerifiers verifiers.length ∧
      (selectTopVerifiers leadingBytesHash 7 mergeSelect verifiers maxVerifiers).Subperm
        verifiers ∧
      (∀ v ∈ selectTopVerifiers leadingBytesHash 7 mergeSelect verifiers maxVerifiers,
        ∀ u ∈ verifiers, u ∉ selectTopVerifiers leadingBytesHash 7 mergeSelect verifiers maxVerifiers →
          u.weight < v.weight ∨ (u.weight = v.weight ∧
            compareBytes (hashAddressWithSeed leadingBytesHash v.verifierInfo.address 7).toList
              (hashAddressWithSeed leadingBytesHash u.verifierInfo.address 7).toList = .lt)) ∧
      ∀ (select' : SelectNthUnstable) (verifiers' : List WeightedVerifier),
        verifiers'.Perm verifiers →
        (selectTopVerifiers leadingBytesHash 7 select' verifiers' maxVerifiers).Perm
          (selectTopVerifiers leadingBytesHash 7 mergeSelect verifiers maxVerifiers)) ∧
    ((selectTopVerifiers leadingBytesHash 7 mergeSelect cutoffVerifiers 2).map
      fun v => v.verifierInfo.address).Perm ["axelar1beta", "axelar1alpha"] := by
  intro s
  have hs : Reachable (fun s (q : Externals × Call) => execute q.1 s q.2)
      (instantiate "governance") s := run_reachable _ .init registryCalls
  have hselection := active_verifier_selection leadingBytesHash mergeSelect hs "validators" flow 7
  -- the three seeded hashes differ, so every implementation keeps the same two
  have hnd : (cutoffVerifiers.map fun v =>
      hashAddressWithSeed leadingBytesHash v.verifierInfo.address 7).Nodup := by decide
  have hsame := (hselection.2 cutoffVerifiers 2 hnd).2.2.2.2 insertionSelect cutoffVerifiers
    (List.Perm.refl _)
  have hinsertion : (selectTopVerifiers leadingBytesHash 7 insertionSelect cutoffVerifiers 2).map
      (fun v => v.verifierInfo.address) = ["axelar1beta", "axelar1alpha"] := by decide
  exact ⟨hs, by decide, hselection, hinsertion ▸ (hsame.map _).symm⟩

/-- Nothing bounds an override's maximum by the minimum: after the run above the
query finds the service's two candidates, passes the minimum check on them and
then keeps one (the proof reads neither the hash nor the selection). -/
theorem override_below_minimum_shortens_active_set :
    let s := (run (fun s (q : Externals × Call) => execute q.1 s q.2) (instantiate "governance")
      registryCalls).1
    Reachable (fun s (q : Externals × Call) => execute q.1 s q.2) (instantiate "governance") s ∧
    ∃ svc L, service s "validators" (some flow) = .ok svc ∧
      activeVerifiers leadingBytesHash mergeSelect s "validators" flow 7 = .ok L ∧
      L.length < svc.minNumVerifiers := by
  intro s
  let svc : Service := ⟨"validators", "coordinator", 2, some 1, ⟨67, Nat.succ_pos 66⟩, "uvrf", 7,
    "validators"⟩
  have hsvc : service s "validators" (some flow) = .ok svc := rfl
  have helig : (eligibleVerifiers s svc "validators" flow).length = 2 := by decide
  have hactive : activeVerifiers leadingBytesHash mergeSelect s "validators" flow 7 =
      .ok (selectTopVerifiers leadingBytesHash 7 mergeSelect
        (eligibleVerifiers s svc "validators" flow) 1) :=
    rfl
  refine ⟨run_reachable _ .init registryCalls, svc, _, hsvc, hactive, ?_⟩
  rw [length_selectTopVerifiers, helig]
  decide

end Amplifier.ServiceRegistry
