import Amplifier.WasmStd.Voting

/-!
# Amplifier.WasmStd.TallyLaw — why a poll result, once reached, stays

A weighted poll is `Sound` when

* its quorum is a strict majority of its participants' total weight,
* that total fits in a `Uint128`, and
* at every index, the tallies of all votes together are at most the weight of
  the participants that have voted.

A snapshot taken over a nonempty list of distinct participants whose weights fit
in a `Uint128` yields a sound poll (`sound_new`), and `castVote` keeps soundness
(`castVote_sound`): the voter's weight is added once to one vote per index and
to the voted weight, and nothing saturates because no tally can exceed the total.

In a sound poll two different votes cannot both hold a quorum — their tallies
would add up to more than the total weight — so the `BTreeMap`-ordered scan of
`consensus` returns the one vote that reaches the quorum, whatever its place in
the order (`consensus_eq_some_iff`). Tallies never decrease, hence a result once
reached is the result after every later vote (`castVote_consensus`).
-/

namespace Amplifier.WasmStd

variable {Addr : Type} [DecidableEq Addr]

/-! ## Tallies -/

namespace Tallies

/-- The weight behind all votes together. -/
def total (t : Tallies) : ℕ :=
  t.weight .failedOnChain + t.weight .notFound + t.weight .succeededOnChain

theorem weight_le_total (t : Tallies) (v : Vote) : t.weight v ≤ t.total := by
  unfold total
  cases v <;> omega

@[simp] theorem total_default : Tallies.default.total = 0 := rfl

/-- A consensus always reaches the quorum. -/
theorem le_weight_of_consensus {t : Tallies} {quorum : ℕ} {v : Vote}
    (h : t.consensus quorum = some v) : quorum ≤ t.weight v := by
  have := List.find?_some h
  simpa using this

/-- In tallies whose total is below twice the quorum, `consensus` returns a vote
exactly when that vote reaches the quorum: no second vote can reach it too. -/
theorem consensus_eq_some_iff {t : Tallies} {quorum : ℕ} (ht : t.total < 2 * quorum)
    (v : Vote) : t.consensus quorum = some v ↔ quorum ≤ t.weight v := by
  constructor
  · exact le_weight_of_consensus
  · intro hv
    -- any other vote is below the quorum: the two together would exceed the total
    have hother : ∀ u, u ≠ v → t.weight u < quorum := by
      intro u huv
      have hpair : t.weight u + t.weight v ≤ t.total := by
        unfold total
        cases u <;> cases v <;> first | exact absurd rfl huv | omega
      omega
    unfold consensus
    cases v with
    | failedOnChain => simp [Vote.keyOrder, hv]
    | notFound =>
        have h1 := hother .failedOnChain (by decide)
        simp [Vote.keyOrder, hv, Nat.not_le.mpr h1]
    | succeededOnChain =>
        have h1 := hother .failedOnChain (by decide)
        have h2 := hother .notFound (by decide)
        simp [Vote.keyOrder, hv, Nat.not_le.mpr h1, Nat.not_le.mpr h2]

theorem weight_tally_self (t : Tallies) (v : Vote) (w : ℕ) :
    (t.tally v w).weight v = saturatingAdd (t.weight v) w := by
  simp [tally]

theorem weight_tally_ne (t : Tallies) {u v : Vote} (h : u ≠ v) (w : ℕ) :
    (t.tally v w).weight u = t.weight u := by
  simp [tally, h]

/-- Tallying never lowers a tally that has not saturated. -/
theorem weight_le_tally {t : Tallies} (u v : Vote) (w : ℕ) (h : t.weight u ≤ uint128Max) :
    t.weight u ≤ (t.tally v w).weight u := by
  by_cases huv : u = v
  · subst huv
    rw [weight_tally_self]
    exact le_saturatingAdd w h
  · rw [weight_tally_ne t huv]

/-- Below the saturation bound a tally adds exactly the voter's weight to the total. -/
theorem total_tally {t : Tallies} (v : Vote) (w : ℕ) (h : t.total + w ≤ uint128Max) :
    (t.tally v w).total = t.total + w := by
  have hv := t.weight_le_total v
  have hsat : saturatingAdd (t.weight v) w = t.weight v + w := saturatingAdd_of_le (by omega)
  unfold total at *
  cases v <;> simp [tally, hsat] <;> omega

/-- Below the saturation bound, tallying `v` adds the weight to `v` and to no
other vote. -/
theorem weight_tally_of_le {t : Tallies} (v u : Vote) (w : ℕ) (h : t.total + w ≤ uint128Max) :
    (t.tally v w).weight u = t.weight u + if v = u then w else 0 := by
  by_cases hvu : v = u
  · subst hvu
    have := t.weight_le_total v
    rw [weight_tally_self, saturatingAdd_of_le (by omega), if_pos rfl]
  · rw [weight_tally_ne t (Ne.symm hvu), if_neg hvu, Nat.add_zero]

/-- Tallies are their weights. -/
theorem ext_weight {t t' : Tallies} (h : ∀ v, t.weight v = t'.weight v) : t = t' := by
  cases t
  cases t'
  congr
  funext v
  exact h v

end Tallies

/-! ## Tallying a whole vote -/

namespace WeightedPoll

/-- What `tallyAll` puts at index `i`: the old tally, tallied with the `i`-th vote
if there is one. -/
theorem getElem?_tallyAll (ts : List Tallies) (vs : List Vote) (w i : ℕ) :
    (tallyAll ts vs w)[i]? = ts[i]?.map fun t => (vs[i]?).elim t fun v => t.tally v w := by
  induction ts, vs, w using tallyAll.induct generalizing i with
  | case1 t ts v vs w ih =>
      cases i with
      | zero => simp [tallyAll]
      | succ i => simpa [tallyAll] using ih i
  | case2 ts w => cases ts <;> cases i <;> simp [tallyAll]
  | case3 v vs w => simp [tallyAll]

theorem length_tallyAll (ts : List Tallies) (vs : List Vote) (w : ℕ) :
    (tallyAll ts vs w).length = ts.length := by
  induction ts, vs, w using tallyAll.induct with
  | case1 t ts v vs w ih => simp [tallyAll, ih]
  | case2 ts w => cases ts <;> simp [tallyAll]
  | case3 v vs w => simp [tallyAll]

/-- Every tally after `tallyAll` is an old one, left alone or tallied once. -/
theorem mem_tallyAll {ts : List Tallies} {vs : List Vote} {w : ℕ} {t' : Tallies}
    (h : t' ∈ tallyAll ts vs w) : ∃ t ∈ ts, t' = t ∨ ∃ v, t' = t.tally v w := by
  obtain ⟨i, hi⟩ := List.mem_iff_getElem?.mp h
  rw [getElem?_tallyAll] at hi
  obtain ⟨t, ht, rfl⟩ := Option.map_eq_some_iff.mp hi
  refine ⟨t, List.mem_of_getElem? ht, ?_⟩
  cases vs[i]? with
  | none => exact .inl rfl
  | some v => exact .inr ⟨v, rfl⟩

/-! ## Weights of a poll -/

/-- The weight of all participants. -/
def totalWeight (p : WeightedPoll Addr) : ℕ :=
  Map.sum (fun _ x => x.weight) p.participation

/-- The weight of the participants that have voted. -/
def votedWeight (p : WeightedPoll Addr) : ℕ :=
  Map.sum (fun _ x => if x.voted then x.weight else 0) p.participation

theorem votedWeight_le_totalWeight (p : WeightedPoll Addr) : p.votedWeight ≤ p.totalWeight :=
  Map.sum_le_sum _ fun _ x _ => by split <;> omega

/-- A poll that can only ever reach one result per index. -/
structure Sound (p : WeightedPoll Addr) : Prop where
  majority : p.totalWeight < 2 * p.quorum
  bounded : p.totalWeight ≤ uint128Max
  tallies_le : ∀ t ∈ p.tallies, t.total ≤ p.votedWeight

/-- A fresh poll over a snapshot of distinct participants whose weights fit in a
`Uint128` is sound. -/
theorem sound_new (pollId : ℕ) (threshold : MajorityThreshold)
    {participants : List (Participant Addr)} (hne : participants ≠ [])
    (hnd : (participants.map (·.address)).Nodup) (hmax : weightSum participants ≤ uint128Max)
    (expiry pollSize : ℕ) :
    (new pollId (Snapshot.new threshold participants) expiry pollSize).Sound := by
  have htotal : (new pollId (Snapshot.new threshold participants) expiry pollSize).totalWeight =
      weightSum participants := by
    rw [totalWeight, new, Map.sum_mapValues]
    exact Snapshot.sum_participants threshold hnd
  obtain ⟨-, -, hmaj⟩ := Snapshot.quorum_spec threshold hne hmax
  refine ⟨?_, ?_, ?_⟩
  · rw [htotal]
    exact hmaj
  · rw [htotal]
    exact hmax
  · intro t ht
    rw [new, List.mem_replicate] at ht
    rw [ht.2, Tallies.total_default]
    exact Nat.zero_le _

/-! ## `cast_vote` -/

/-- What a successful `cast_vote` did: the sender was a participant that had not
voted, the poll had not expired, there was one vote per item, and the result is
the poll with the sender's weight tallied and the sender marked as voted. -/
theorem castVote_eq_ok {p p' : WeightedPoll Addr} {h : ℕ} {sender : Addr} {votes : List Vote}
    (hok : p.castVote h sender votes = .ok p') :
    ∃ part : Participation, p.participation.lookup sender = some part ∧ part.voted = false ∧
      h < p.expiresAt ∧ votes.length = p.pollSize ∧
      p' = { p with
        tallies := tallyAll p.tallies votes part.weight
        participation := p.participation.insert sender { part with voted := true } } := by
  unfold castVote at hok
  split at hok
  · cases hok
  · rename_i part hlook
    split_ifs at hok with hexp hsize hvoted
    cases hok
    exact ⟨part, hlook, by simpa using hvoted, by omega, by simpa using hsize, rfl⟩

/-- A vote adds the voter's weight to the voted weight and leaves the total,
whatever becomes of the tallies. -/
theorem weights_castVote {p : WeightedPoll Addr} {sender : Addr} {part : Participation}
    (hlook : p.participation.lookup sender = some part) (hnot : part.voted = false)
    (ts : List Tallies) :
    ({ p with
        tallies := ts
        participation := p.participation.insert sender { part with voted := true } } :
        WeightedPoll Addr).votedWeight = p.votedWeight + part.weight ∧
    ({ p with
        tallies := ts
        participation := p.participation.insert sender { part with voted := true } } :
        WeightedPoll Addr).totalWeight = p.totalWeight := by
  have hv := Map.sum_insert (fun _ (x : Participation) => if x.voted then x.weight else 0)
    p.participation sender { part with voted := true }
  have ht := Map.sum_insert (fun _ (x : Participation) => x.weight)
    p.participation sender { part with voted := true }
  rw [Map.weightAt_of_lookup hlook] at hv ht
  simp only [hnot] at hv ht
  constructor
  · simp only [votedWeight]
    simpa using hv
  · simp only [totalWeight]
    omega

/-- `cast_vote` keeps a poll sound. -/
theorem castVote_sound {p p' : WeightedPoll Addr} {h : ℕ} {sender : Addr} {votes : List Vote}
    (hs : p.Sound) (hok : p.castVote h sender votes = .ok p') : p'.Sound := by
  obtain ⟨part, hlook, hnot, -, -, rfl⟩ := castVote_eq_ok hok
  obtain ⟨hvoted, htotal⟩ := weights_castVote hlook hnot (tallyAll p.tallies votes part.weight)
  -- the voter's weight is still outside the voted weight, so it fits under the total
  have hroom : p.votedWeight + part.weight ≤ p.totalWeight := by
    rw [← hvoted, ← htotal]
    exact votedWeight_le_totalWeight _
  refine ⟨?_, ?_, ?_⟩
  · rw [htotal]
    exact hs.majority
  · rw [htotal]
    exact hs.bounded
  · intro t' ht'
    rw [hvoted]
    obtain ⟨t, ht, heq | ⟨v, heq⟩⟩ := mem_tallyAll ht'
    · rw [heq]
      exact Nat.le_trans (hs.tallies_le t ht) (Nat.le_add_right _ _)
    · have hle := hs.tallies_le t ht
      have hmax := hs.bounded
      rw [heq, Tallies.total_tally v part.weight (by omega)]
      omega

/-- In a sound poll, a tally reaches the quorum exactly when it is the consensus. -/
theorem consensus_eq_some_iff {p : WeightedPoll Addr} (hs : p.Sound) {t : Tallies}
    (ht : t ∈ p.tallies) (v : Vote) : t.consensus p.quorum = some v ↔ p.quorum ≤ t.weight v := by
  apply Tallies.consensus_eq_some_iff
  have := hs.tallies_le t ht
  have := votedWeight_le_totalWeight p
  have := hs.majority
  omega

/-- In a sound poll at most one vote reaches the quorum at any index. -/
theorem Sound.eq_of_quorum_le {p : WeightedPoll Addr} (hs : p.Sound) {t : Tallies}
    (ht : t ∈ p.tallies) {u v : Vote} (hu : p.quorum ≤ t.weight u) (hv : p.quorum ≤ t.weight v) :
    u = v := by
  have hcu := (consensus_eq_some_iff hs ht u).mpr hu
  have hcv := (consensus_eq_some_iff hs ht v).mpr hv
  rw [hcu] at hcv
  exact Option.some.inj hcv

/-- A result reached at an index of a sound poll is still the result after any vote. -/
theorem castVote_consensus {p p' : WeightedPoll Addr} {h : ℕ} {sender : Addr}
    {votes : List Vote} (hs : p.Sound) (hok : p.castVote h sender votes = .ok p') {i : ℕ}
    {v : Vote} (hv : p.consensus i = .ok (some v)) : p'.consensus i = .ok (some v) := by
  have hs' := castVote_sound hs hok
  obtain ⟨part, -, -, -, -, rfl⟩ := castVote_eq_ok hok
  unfold consensus at hv ⊢
  cases hti : p.tallies[i]? with
  | none => simp [hti] at hv
  | some t =>
      simp only [hti, Except.ok.injEq] at hv
      have ht := List.mem_of_getElem? hti
      have hq := (consensus_eq_some_iff hs ht v).mp hv
      have hbound : t.weight v ≤ uint128Max := by
        have := t.weight_le_total v
        have := hs.tallies_le t ht
        have := votedWeight_le_totalWeight p
        have := hs.bounded
        omega
      -- the tally at `i` after the vote is `t`, tallied once or left alone
      obtain ⟨t', hti', hmono⟩ : ∃ t', (tallyAll p.tallies votes part.weight)[i]? = some t' ∧
          t.weight v ≤ t'.weight v := by
        rw [getElem?_tallyAll, hti]
        cases votes[i]? with
        | none => exact ⟨t, rfl, le_refl _⟩
        | some u => exact ⟨t.tally u part.weight, rfl, Tallies.weight_le_tally v u _ hbound⟩
      simp only [hti']
      congr 1
      exact (consensus_eq_some_iff hs' (List.mem_of_getElem? hti') v).mpr
        (Nat.le_trans hq hmono)

/-! ## Results -/

theorem getElem?_results (p : WeightedPoll Addr) (i : ℕ) :
    p.results[i]? = p.tallies[i]?.map fun t => t.consensus p.quorum := by
  simp [results]

/-- `consensus` at an index reads the same result as `results`. -/
theorem consensus_eq_ok_iff (p : WeightedPoll Addr) (i : ℕ) (r : Option Vote) :
    p.consensus i = .ok r ↔ p.results[i]? = some r := by
  rw [getElem?_results]
  unfold consensus
  cases p.tallies[i]? <;> simp

/-- A result reached at an index of a sound poll is still there after any vote. -/
theorem castVote_results {p p' : WeightedPoll Addr} {h : ℕ} {sender : Addr}
    {votes : List Vote} (hs : p.Sound) (hok : p.castVote h sender votes = .ok p') {i : ℕ}
    {v : Vote} (hv : p.results[i]? = some (some v)) : p'.results[i]? = some (some v) := by
  rw [← consensus_eq_ok_iff] at hv ⊢
  exact castVote_consensus hs hok hv

/-! ## `finish` -/

/-- `finish` only sets the flag. -/
theorem finish_eq_ok {p p' : WeightedPoll Addr} {h : ℕ} (hok : p.finish h = .ok p') :
    p' = { p with finished := true } := by
  unfold finish at hok
  split_ifs at hok
  exact (Except.ok.inj hok).symm

theorem finish_sound {p p' : WeightedPoll Addr} {h : ℕ} (hs : p.Sound)
    (hok : p.finish h = .ok p') : p'.Sound := by
  obtain rfl := finish_eq_ok hok
  exact ⟨hs.majority, hs.bounded, hs.tallies_le⟩

theorem finish_results {p p' : WeightedPoll Addr} {h : ℕ} (hok : p.finish h = .ok p') :
    p'.results = p.results := by
  obtain rfl := finish_eq_ok hok
  rfl

end WeightedPoll

/-- The difference has a result exactly where the left side has one and the right
side has none. -/
theorem PollResults.getElem?_difference {lhs rhs d : PollResults}
    (hd : lhs.difference rhs = .ok d) {i : ℕ} {v : Vote} (hv : d[i]? = some (some v)) :
    lhs[i]? = some (some v) ∧ rhs[i]? = some none := by
  unfold PollResults.difference at hd
  split_ifs at hd
  cases hd
  rw [List.getElem?_zipWith] at hv
  -- both sides have an entry at `i`, and the difference kept the left one
  split at hv
  · rename_i l r hl hr
    simp only [Option.some.injEq] at hv
    cases l with
    | none => simp at hv
    | some l =>
        cases r with
        | none =>
            simp only [Option.isSome_some, Option.isNone_none, Bool.and_self, ite_true] at hv
            exact ⟨by rw [hl, hv], hr⟩
        | some r => simp at hv
  · simp at hv

end Amplifier.WasmStd
