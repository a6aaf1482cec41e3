import Amplifier.Rewards.Execute

/-!
# Amplifier.Rewards.Split — how an epoch's rewards are split

`rewards_by_verifier` splits the rewards of an epoch equally among the verifiers
`verifiers_to_reward` picks: those whose participation, as a `Threshold` of the
epoch's events, is at least the pool's participation threshold. `try_from`
refuses a participation of zero, an epoch without events and a participation
above the event count; the comparison cross-multiplies.

* `eligible` states that choice as arithmetic, and `verifiersToReward_eq` shows
  the code makes it: the verifiers to reward are the eligible keys of the tally.
* `lookup_rewardsByVerifier`: each eligible verifier gets
  `⌊rewards_per_epoch / |V|⌋` for the eligible set `V`, nobody else gets
  anything, and nobody at all when that share is zero; so an epoch never pays
  more than its rewards (`sum_rewardsByVerifier_le`).
* `getD_mergeRewards`, `getD_cumulateRewards`: merging the epochs' splits adds
  each verifier's amounts, or fails on a `Uint128` overflow; nothing is lost.
-/

namespace Amplifier.Rewards

open WasmStd

/-! ## Eligibility -/

/-- A verifier the epoch rewards: its participation is a share of the epoch's
events — there was at least one event and it took part in at most all of them —
and `participation · d ≥ n · event_count` for the participation threshold
`n / d`. -/
def EpochTally.eligible (tally : EpochTally) (verifier : String) : Bool :=
  match tally.participation.lookup verifier with
  | some participated => decide (0 < tally.eventCount) && decide (participated ≤ tally.eventCount) &&
      decide (tally.params.participationThreshold.numerator * tally.eventCount ≤
        participated * tally.params.participationThreshold.denominator)
  | none => false

theorem eligible_iff {tally : EpochTally} {verifier : String} {participated : ℕ}
    (h : tally.participation.lookup verifier = some participated) :
    tally.eligible verifier = true ↔ 0 < tally.eventCount ∧ participated ≤ tally.eventCount ∧
      tally.params.participationThreshold.numerator * tally.eventCount ≤
        participated * tally.params.participationThreshold.denominator := by
  simp [EpochTally.eligible, h, and_assoc]

/-- `Threshold::try_from((participated, event_count))` and the comparison with the
participation threshold accept exactly an eligible participation. -/
theorem tryFrom_ge_iff (threshold : Threshold) (participated eventCount : ℕ) :
    (match Threshold.tryFrom participated eventCount with
      | .ok participation => threshold.le participation
      | .error _ => false) = true ↔
      0 < eventCount ∧ participated ≤ eventCount ∧
        threshold.numerator * eventCount ≤ participated * threshold.denominator := by
  unfold Threshold.tryFrom
  by_cases hp : participated = 0
  · -- a zero participation is refused, and is below any positive threshold
    subst hp
    have hn := threshold.numerator_pos
    simp only [dite_true, Bool.false_eq_true, false_iff, not_and, Nat.zero_mul, Nat.le_zero,
      Nat.mul_eq_zero]
    omega
  · by_cases he : eventCount = 0
    · simp [hp, he]
    · by_cases hlt : eventCount < participated
      · simp [hp, he, hlt]
      · simp [hp, he, hlt, Threshold.le]
        omega

/-- The verifiers to reward are the eligible keys of the tally, in its order. -/
theorem verifiersToReward_eq (tally : EpochTally) :
    tally.verifiersToReward = tally.participation.keys.filter tally.eligible := by
  unfold EpochTally.verifiersToReward
  calc _ = tally.participation.entries.filterMap
        (fun e => if tally.eligible e.1 then some e.1 else none) := by
        apply List.filterMap_congr
        intro e he
        -- the code reads the entry's own participation, which is what the lookup finds
        have hlook : tally.participation.lookup e.1 = some e.2 := by
          rw [← Option.mem_def, AList.mem_lookup_iff]
          exact he
        have hiff := tryFrom_ge_iff tally.params.participationThreshold e.2 tally.eventCount
        have helig := eligible_iff hlook
        cases htry : Threshold.tryFrom e.2 tally.eventCount with
        | error err =>
            rw [htry] at hiff
            simp only [Bool.false_eq_true, false_iff] at hiff
            rw [if_neg fun h => hiff (helig.mp h)]
        | ok participation =>
            rw [htry] at hiff
            dsimp only at hiff ⊢
            by_cases hle : tally.params.participationThreshold.le participation = true
            · rw [if_pos hle, if_pos (helig.mpr (hiff.mp hle))]
            · rw [if_neg hle, if_neg fun h => hle (hiff.mpr (helig.mp h))]
    _ = tally.participation.keys.filter tally.eligible := by
        unfold AList.keys List.keys
        generalize tally.participation.entries = l
        induction l with
        | nil => rfl
        | cons e rest ih =>
            by_cases h : tally.eligible e.1 <;> simp [h, ih]

/-- A verifier is among the eligible keys exactly when it is eligible. -/
theorem mem_filter_eligible (tally : EpochTally) (verifier : String) :
    verifier ∈ tally.participation.keys.filter tally.eligible ↔ tally.eligible verifier = true := by
  rw [List.mem_filter]
  refine ⟨And.right, fun h => ⟨?_, h⟩⟩
  -- an eligible verifier has a participation entry
  cases hlook : tally.participation.lookup verifier with
  | none => simp [EpochTally.eligible, hlook] at h
  | some participated => exact AList.mem_keys.mpr (AList.lookup_isSome.mp (by simp [hlook]))

/-! ## The split -/

/-- `rewards_by_verifier` pays each eligible verifier the share
`⌊rewards_per_epoch / |V|⌋` of the eligible set `V` and pays nobody else; when
that share is zero it pays nobody. -/
theorem lookup_rewardsByVerifier (tally : EpochTally) (verifier : String) :
    tally.rewardsByVerifier.lookup verifier =
      if tally.eligible verifier = true ∧
          0 < tally.params.rewardsPerEpoch.val / (tally.participation.keys.filter tally.eligible).length
      then some (tally.params.rewardsPerEpoch.val /
        (tally.participation.keys.filter tally.eligible).length)
      else none := by
  unfold EpochTally.rewardsByVerifier
  rw [verifiersToReward_eq]
  dsimp only
  split_ifs with hzero hpay hpay
  · omega
  · rfl
  · rw [Map.lookup_ofList_const, if_pos ((mem_filter_eligible tally verifier).mpr hpay.1)]
  · -- the share is positive, so the verifier is not eligible
    have hnot : tally.eligible verifier ≠ true := fun h => hpay ⟨h, Nat.pos_of_ne_zero hzero⟩
    rw [Map.lookup_ofList_const, if_neg (fun h => hnot ((mem_filter_eligible tally verifier).mp h))]

/-- An epoch never pays more than its rewards. -/
theorem sum_rewardsByVerifier_le (tally : EpochTally) :
    Map.sum (fun _ amount => amount) tally.rewardsByVerifier ≤ tally.params.rewardsPerEpoch.val := by
  unfold EpochTally.rewardsByVerifier
  rw [verifiersToReward_eq]
  dsimp only
  split_ifs with hzero
  · simp
  · have hnd : (tally.participation.keys.filter tally.eligible).Nodup :=
      tally.participation.keys_nodup.filter _
    rw [Map.sum_ofList _ (by simpa [List.map_map, Function.comp_def] using hnd)]
    simp only [List.map_map, Function.comp_def, List.map_const', List.sum_replicate, smul_eq_mul]
    exact Nat.mul_div_le _ _

/-! ## Merging the epochs -/

/-- A fold that adds each entry's amount to its key's entry, or fails, leaves each
key the amounts of its entries on top of what it started with. -/
theorem getD_foldlM_add {f : Map String ℕ → (Σ _ : String, ℕ) → Except Failure (Map String ℕ)}
    (hf : ∀ acc e acc', f acc e = .ok acc' → ∀ v,
      (acc'.lookup v).getD 0 = (acc.lookup v).getD 0 + if v = e.1 then e.2 else 0) :
    ∀ {l : List (Σ _ : String, ℕ)} {acc merged : Map String ℕ}, l.NodupKeys →
      l.foldlM f acc = .ok merged →
      ∀ v, (merged.lookup v).getD 0 = (acc.lookup v).getD 0 + (l.dlookup v).getD 0
  | [], acc, merged, _, h, v => by
      simp only [List.foldlM_nil, pure, Except.pure, Except.ok.injEq] at h
      subst h
      simp
  | ⟨k, amount⟩ :: l, acc, merged, hnd, h, v => by
      rw [List.foldlM_cons, bind_eq_ok] at h
      obtain ⟨acc₁, h₁, hrest⟩ := h
      rw [List.nodupKeys_cons] at hnd
      rw [getD_foldlM_add hf hnd.2 hrest v, hf acc ⟨k, amount⟩ acc₁ h₁ v]
      by_cases hv : v = k
      · -- the key of this entry appears in no later one
        subst hv
        rw [List.dlookup_cons_eq, List.dlookup_eq_none.mpr hnd.1]
        simp
      · rw [List.dlookup_cons_ne _ _ hv]
        simp [hv]

/-- `merge_rewards` adds the amounts of both maps, verifier by verifier. -/
theorem getD_mergeRewards {rewards₁ rewards₂ merged : Map String ℕ}
    (h : mergeRewards rewards₁ rewards₂ = .ok merged) (v : String) :
    (merged.lookup v).getD 0 = (rewards₁.lookup v).getD 0 + (rewards₂.lookup v).getD 0 := by
  unfold mergeRewards at h
  refine getD_foldlM_add (fun acc e acc' hstep v => ?_) rewards₂.nodupKeys h v
  -- one step: the entry's amount added to its verifier's, below `Uint128::MAX`
  simp only [bind_eq_ok, okOr_eq_ok, checkedAdd_eq_some, pure, Except.pure,
    Except.ok.injEq] at hstep
  obtain ⟨r, ⟨-, rfl⟩, rfl⟩ := hstep
  by_cases hv : v = e.1
  · subst hv
    simp
  · simp [hv, AList.lookup_insert_ne hv]

/-- `cumulate_rewards` gives each verifier the sum of its rewards over the
tallies of the epochs. -/
theorem getD_cumulateRewards {s : State} {poolId : PoolId} {fromEpoch toEpoch : ℕ}
    {rewards : Map String ℕ} (h : cumulateRewards s poolId fromEpoch toEpoch = .ok rewards)
    (v : String) :
    (rewards.lookup v).getD 0 = ((iterateEpochTallies s poolId fromEpoch toEpoch).map
      fun tally => (tally.rewardsByVerifier.lookup v).getD 0).sum := by
  -- the fold of `merge_rewards` over the epochs' splits, from any start
  have hfold : ∀ (ms : List (Map String ℕ)) (acc merged : Map String ℕ),
      ms.foldlM mergeRewards acc = .ok merged →
      (merged.lookup v).getD 0 = (acc.lookup v).getD 0 + (ms.map fun m => (m.lookup v).getD 0).sum := by
    intro ms
    induction ms with
    | nil =>
        intro acc merged h
        simp only [List.foldlM_nil, pure, Except.pure, Except.ok.injEq] at h
        subst h
        simp
    | cons m ms ih =>
        intro acc merged h
        rw [List.foldlM_cons, bind_eq_ok] at h
        obtain ⟨acc₁, h₁, hrest⟩ := h
        rw [ih acc₁ merged hrest, getD_mergeRewards h₁ v, List.map_cons, List.sum_cons]
        omega
  unfold cumulateRewards at h
  rw [hfold _ ∅ rewards h, List.map_map]
  simp [Function.comp_def]

/-! ## The split of an epoch -/

/-- The reward split of an epoch: `rewards_by_verifier` pays each eligible verifier
`⌊rewards_per_epoch / |V|⌋` for the set `V` of eligible verifiers, pays nobody
else, and pays nobody at all when that share is zero, so an epoch never pays more
than its rewards; and `cumulate_rewards` gives each verifier exactly the sum of
what the epochs' splits pay it. Eligibility (`EpochTally.eligible`) is
`0 < event_count`, `participation ≤ event_count` and
`participation · d ≥ n · event_count` for the participation threshold `n / d`. -/
theorem epoch_reward_split (tally : EpochTally) :
    (∀ verifier, tally.rewardsByVerifier.lookup verifier =
      if tally.eligible verifier = true ∧
          0 < tally.params.rewardsPerEpoch.val / (tally.participation.keys.filter tally.eligible).length
      then some (tally.params.rewardsPerEpoch.val /
        (tally.participation.keys.filter tally.eligible).length)
      else none) ∧
    Map.sum (fun _ amount => amount) tally.rewardsByVerifier ≤ tally.params.rewardsPerEpoch.val ∧
    ∀ (s : State) (poolId : PoolId) (fromEpoch toEpoch : ℕ) (rewards : Map String ℕ),
      cumulateRewards s poolId fromEpoch toEpoch = .ok rewards → ∀ verifier,
        (rewards.lookup verifier).getD 0 = ((iterateEpochTallies s poolId fromEpoch toEpoch).map
          fun t => (t.rewardsByVerifier.lookup verifier).getD 0).sum :=
  ⟨lookup_rewardsByVerifier tally, sum_rewardsByVerifier_le tally,
    fun _ _ _ _ _ h verifier => getD_cumulateRewards h verifier⟩

/-- An epoch without events whose tally lists a verifier with a participation of
zero, in a pool paying 61 per epoch. -/
def idleTally : EpochTally :=
  ⟨⟨⟨"celo", by decide, by decide⟩, "voting-verifier"⟩, 0, Map.ofList [("axelar1idle", 0)],
    ⟨4, 40⟩, ⟨⟨23, by decide⟩, ⟨61, by decide⟩, ⟨29, 31, by decide, by decide, by decide⟩⟩⟩

/-- The tally's only verifier has a participation of `0`, at most the event count
`0`, and `0 · 31 ≥ 29 · 0`: these two conditions alone would make it the whole
set and pay it `61 / 1`. `try_from` refuses an epoch without events, so it is paid
nothing. -/
theorem idle_verifier_not_rewarded :
    idleTally.participation.lookup "axelar1idle" = some 0 ∧ 0 ≤ idleTally.eventCount ∧
      idleTally.params.participationThreshold.numerator * idleTally.eventCount ≤
        0 * idleTally.params.participationThreshold.denominator ∧
      idleTally.participation.keys = ["axelar1idle"] ∧
      0 < idleTally.params.rewardsPerEpoch.val / 1 ∧
      idleTally.rewardsByVerifier.lookup "axelar1idle" = none := by
  decide

end Amplifier.Rewards
