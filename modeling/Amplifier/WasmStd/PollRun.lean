import Amplifier.Lib.Transaction
import Amplifier.WasmStd.TallyLaw

/-!
# Amplifier.WasmStd.PollRun — a poll over a whole run of votes

`cast_vote` takes the poll by value and hands it back only when the vote is
accepted, and the verifier contracts save what it hands back; a rejected vote
leaves the stored poll as it was. The votes cast on one poll therefore form the
transactional run (`runLog`) of `castVoteTx` from `WeightedPoll::new`.

Over a snapshot of a nonempty list of participants with distinct addresses
whose weights fit in a `Uint128`, every poll such a run reaches keeps
`PollInv`: it is sound, has one tally per item and gives each participant its
weight in the snapshot (`PollInv.reachable`). Hence

* each committed vote adds exactly its sender's weight to the vote it chose at
  each index (`tallyAt_castVote`), so the tallies at the end of a run are the
  ones at its start plus the weights of the committed ballots
  (`tallyAt_runLog`), and two runs committing the same ballots in any order
  end with the same results (`results_eq_of_perm`);
* a participant's vote commits at most once (`senders_nodup`);
* a result once reached is the result of every later poll (`consensus_later`).

`weighted_poll_tally_law` puts these together for the poll `new` builds.
-/

namespace Amplifier.WasmStd

variable {Addr : Type} [DecidableEq Addr]

/-- One `cast_vote` call: the block height, the sender and its votes. -/
structure Ballot (Addr : Type) where
  blockHeight : ℕ
  sender : Addr
  votes : List Vote

/-- The weight a snapshot gives an address, `0` for an address outside it. -/
def Snapshot.weightOf (snapshot : Snapshot Addr) (address : Addr) : ℕ :=
  ((snapshot.participants.lookup address).map (·.weight)).getD 0

/-- What a ballot adds to vote `u` at index `i`: its sender's weight in the
snapshot when it voted `u` there. -/
def Snapshot.ballotWeight (snapshot : Snapshot Addr) (sender : Addr) (votes : List Vote)
    (i : ℕ) (u : Vote) : ℕ :=
  if votes[i]? = some u then snapshot.weightOf sender else 0

namespace WeightedPoll

/-- `cast_vote` as a transaction on the stored poll: the poll it hands back is
saved, and a rejected vote saves nothing. -/
def castVoteTx (p : WeightedPoll Addr) (b : Ballot Addr) :
    Except VotingError (WeightedPoll Addr × Unit) :=
  (p.castVote b.blockHeight b.sender b.votes).map fun p' => (p', ())

theorem castVoteTx_eq_ok {p p' : WeightedPoll Addr} {b : Ballot Addr} {r : Unit} :
    castVoteTx p b = .ok (p', r) ↔ p.castVote b.blockHeight b.sender b.votes = .ok p' := by
  unfold castVoteTx
  cases p.castVote b.blockHeight b.sender b.votes with
  | error err => simp [Except.map]
  | ok q => simp [Except.map]

/-- The tally of vote `u` at index `i`, and `0` past the last index. -/
def tallyAt (p : WeightedPoll Addr) (i : ℕ) (u : Vote) : ℕ :=
  (p.tallies[i]?.map fun t => t.weight u).getD 0

/-- Whether an address has a vote committed in the poll. -/
def hasVoted (p : WeightedPoll Addr) (address : Addr) : Prop :=
  ∃ part, p.participation.lookup address = some part ∧ part.voted = true

/-! ## What every poll of a run keeps -/

/-- What every poll of a run from `new` over `snapshot` with `size` items
keeps: soundness, the snapshot's quorum, one tally per item, and each
participant's weight from the snapshot. -/
structure PollInv (snapshot : Snapshot Addr) (size : ℕ) (p : WeightedPoll Addr) : Prop where
  sound : p.Sound
  quorum : p.quorum = snapshot.quorum
  pollSize : p.pollSize = size
  length : p.tallies.length = size
  weight : ∀ a, (p.participation.lookup a).map (·.weight) =
    (snapshot.participants.lookup a).map (·.weight)

theorem pollInv_new (pollId : ℕ) (threshold : MajorityThreshold)
    {participants : List (Participant Addr)} (hne : participants ≠ [])
    (hnd : (participants.map (·.address)).Nodup) (hmax : weightSum participants ≤ uint128Max)
    (expiry pollSize : ℕ) :
    PollInv (Snapshot.new threshold participants) pollSize
      (new pollId (Snapshot.new threshold participants) expiry pollSize) := by
  refine ⟨sound_new pollId threshold hne hnd hmax expiry pollSize, rfl, rfl, ?_, ?_⟩
  · simp [new]
  · intro a
    simp [new, Map.lookup_mapValues, Option.map_map, Function.comp_def]

/-- `cast_vote` keeps `PollInv`: the voter's entry changes only its flag. -/
theorem castVote_pollInv {snapshot : Snapshot Addr} {pollSize : ℕ} {p p' : WeightedPoll Addr}
    {h : ℕ} {sender : Addr} {votes : List Vote} (hinv : PollInv snapshot pollSize p)
    (hok : p.castVote h sender votes = .ok p') : PollInv snapshot pollSize p' := by
  have hsound := castVote_sound hinv.sound hok
  obtain ⟨part, hlook, -, -, -, rfl⟩ := castVote_eq_ok hok
  refine ⟨hsound, hinv.quorum, hinv.pollSize, ?_, ?_⟩
  · rw [length_tallyAll]
    exact hinv.length
  · intro a
    dsimp only
    by_cases ha : a = sender
    · subst ha
      rw [AList.lookup_insert, ← hinv.weight, hlook]
      rfl
    · rw [AList.lookup_insert_ne ha]
      exact hinv.weight a

/-- Every poll reached from one that keeps `PollInv` keeps it. -/
theorem PollInv.reachable {snapshot : Snapshot Addr} {pollSize : ℕ} {p q : WeightedPoll Addr}
    (hinv : PollInv snapshot pollSize p) (hq : Reachable castVoteTx p q) :
    PollInv snapshot pollSize q :=
  Reachable.induction_inv (PollInv snapshot pollSize) hinv
    (fun _ _ _ _ hs hok => castVote_pollInv hs (castVoteTx_eq_ok.mp hok)) hq

/-- Along a run from a poll that keeps `PollInv`, the poll at the end and the poll
each committed vote starts from keep it. -/
theorem PollInv.runLog {snapshot : Snapshot Addr} {pollSize : ℕ} {p : WeightedPoll Addr}
    (hinv : PollInv snapshot pollSize p) (ballots : List (Ballot Addr)) :
    PollInv snapshot pollSize (runLog castVoteTx p ballots).1 ∧
      ∀ e ∈ (runLog castVoteTx p ballots).2, PollInv snapshot pollSize e.before ∧
        e.before.castVote e.msg.blockHeight e.msg.sender e.msg.votes = .ok e.after := by
  obtain ⟨hend, hlog⟩ := runLog_reachable ballots (Reachable.init : Reachable castVoteTx p p)
  refine ⟨hinv.reachable hend, fun e he => ?_⟩
  obtain ⟨hreach, hexec⟩ := hlog e he
  exact ⟨hinv.reachable hreach, castVoteTx_eq_ok.mp hexec⟩

/-- The sender of a committed vote is a participant of the snapshot. -/
theorem castVote_lookup_snapshot {snapshot : Snapshot Addr} {pollSize : ℕ}
    {p p' : WeightedPoll Addr} {h : ℕ} {sender : Addr} {votes : List Vote}
    (hinv : PollInv snapshot pollSize p) (hok : p.castVote h sender votes = .ok p') :
    ∃ q, snapshot.participants.lookup sender = some q ∧ votes.length = pollSize := by
  obtain ⟨part, hlook, -, -, hsize, -⟩ := castVote_eq_ok hok
  have hweight := hinv.weight sender
  rw [hlook] at hweight
  obtain ⟨q, hq, -⟩ := Option.map_eq_some_iff.mp hweight.symm
  exact ⟨q, hq, hsize.trans hinv.pollSize⟩

/-! ## Tallies over a run -/

/-- A committed vote adds its sender's weight in the snapshot to the vote it
chose at each index, and nothing to any other vote. -/
theorem tallyAt_castVote {snapshot : Snapshot Addr} {pollSize : ℕ} {p p' : WeightedPoll Addr}
    {h : ℕ} {sender : Addr} {votes : List Vote} (hinv : PollInv snapshot pollSize p)
    (hok : p.castVote h sender votes = .ok p') (i : ℕ) (u : Vote) :
    p'.tallyAt i u = p.tallyAt i u + snapshot.ballotWeight sender votes i u := by
  obtain ⟨part, hlook, hnot, -, hsize, rfl⟩ := castVote_eq_ok hok
  -- the sender's weight in the poll is its weight in the snapshot
  have hweight : part.weight = snapshot.weightOf sender := by
    have := hinv.weight sender
    rw [hlook] at this
    simp [Snapshot.weightOf, ← this]
  -- the vote fits under the total weight, so no tally saturates
  obtain ⟨hvoted, htotal⟩ := weights_castVote hlook hnot (tallyAll p.tallies votes part.weight)
  have hroom : p.votedWeight + part.weight ≤ p.totalWeight := by
    rw [← hvoted, ← htotal]
    exact votedWeight_le_totalWeight _
  unfold tallyAt Snapshot.ballotWeight
  dsimp only
  rw [getElem?_tallyAll]
  cases hti : p.tallies[i]? with
  | none =>
      -- past the last tally there is no vote either: one vote per item
      have hi : p.tallies.length ≤ i := List.getElem?_eq_none_iff.mp hti
      have hvi : votes[i]? = none := by
        rw [List.getElem?_eq_none_iff, hsize, hinv.pollSize, ← hinv.length]
        exact hi
      simp [hvi]
  | some t =>
      have hle : t.total + part.weight ≤ uint128Max := by
        have := hinv.sound.tallies_le t (List.mem_of_getElem? hti)
        have := hinv.sound.bounded
        omega
      cases hvi : votes[i]? with
      | none => simp
      | some v =>
          have hw := Tallies.weight_tally_of_le v u part.weight hle
          rw [← hweight]
          simpa using hw

/-- The tallies at the end of a run are the ones at its start plus the weights
of the committed ballots. -/
theorem tallyAt_runLog {snapshot : Snapshot Addr} {pollSize : ℕ} {p : WeightedPoll Addr}
    (hinv : PollInv snapshot pollSize p) (ballots : List (Ballot Addr)) (i : ℕ) (u : Vote) :
    (runLog castVoteTx p ballots).1.tallyAt i u =
      p.tallyAt i u + ((runLog castVoteTx p ballots).2.map fun e =>
        snapshot.ballotWeight e.msg.sender e.msg.votes i u).sum := by
  have hstep : ∀ e ∈ (runLog castVoteTx p ballots).2,
      e.after.tallyAt i u + 0 = e.before.tallyAt i u +
        snapshot.ballotWeight e.msg.sender e.msg.votes i u := by
    intro e he
    obtain ⟨hbefore, hok⟩ := (hinv.runLog ballots).2 e he
    rw [Nat.add_zero]
    exact tallyAt_castVote hbefore hok i u
  have hsum := runLog_conserves (fun q : WeightedPoll Addr => q.tallyAt i u)
    (fun e : Committed (WeightedPoll Addr) (Ballot Addr) Unit =>
      snapshot.ballotWeight e.msg.sender e.msg.votes i u) (fun _ => 0) hstep
  simpa using hsum

/-- Two runs from one poll that commit the same ballots, in any order and at any
heights, end with the same results. -/
theorem results_eq_of_perm {snapshot : Snapshot Addr} {pollSize : ℕ} {p : WeightedPoll Addr}
    (hinv : PollInv snapshot pollSize p) {ballots ballots' : List (Ballot Addr)}
    (hperm : ((runLog castVoteTx p ballots).2.map fun e => (e.msg.sender, e.msg.votes)).Perm
      ((runLog castVoteTx p ballots').2.map fun e => (e.msg.sender, e.msg.votes))) :
    (runLog castVoteTx p ballots).1.results = (runLog castVoteTx p ballots').1.results := by
  have hq := (hinv.runLog ballots).1
  have hq' := (hinv.runLog ballots').1
  -- the committed ballots add the same weight to every vote at every index
  have hweights : ∀ i u, (runLog castVoteTx p ballots).1.tallyAt i u =
      (runLog castVoteTx p ballots').1.tallyAt i u := by
    intro i u
    rw [tallyAt_runLog hinv, tallyAt_runLog hinv]
    have := (hperm.map fun b => snapshot.ballotWeight b.1 b.2 i u).sum_eq
    simp only [List.map_map, Function.comp_def] at this
    rw [this]
  have htallies : (runLog castVoteTx p ballots).1.tallies =
      (runLog castVoteTx p ballots').1.tallies := by
    apply List.ext_getElem (by rw [hq.length, hq'.length])
    intro i hi hi'
    apply Tallies.ext_weight
    intro u
    have := hweights i u
    simpa [tallyAt, List.getElem?_eq_getElem hi, List.getElem?_eq_getElem hi'] using this
  unfold results
  rw [htallies, hq.quorum, hq'.quorum]

/-! ## Participants and results over a run -/

/-- A committed vote finds its sender not yet voted and marks it voted, and no
vote clears a mark. -/
theorem castVote_hasVoted {p p' : WeightedPoll Addr} {h : ℕ} {sender : Addr} {votes : List Vote}
    (hok : p.castVote h sender votes = .ok p') :
    ¬p.hasVoted sender ∧ p'.hasVoted sender ∧ ∀ a, p.hasVoted a → p'.hasVoted a := by
  obtain ⟨part, hlook, hnot, -, -, rfl⟩ := castVote_eq_ok hok
  refine ⟨?_, ⟨{ part with voted := true }, AList.lookup_insert _, rfl⟩, ?_⟩
  · rintro ⟨part', hlook', hvoted⟩
    rw [hlook] at hlook'
    cases hlook'
    rw [hnot] at hvoted
    exact Bool.false_ne_true hvoted
  · rintro a ⟨part', hlook', hvoted⟩
    by_cases ha : a = sender
    · subst ha
      exact ⟨{ part with voted := true }, AList.lookup_insert _, rfl⟩
    · exact ⟨part', (AList.lookup_insert_ne ha).trans hlook', hvoted⟩

/-- A run commits at most one vote per participant. -/
theorem senders_nodup (p : WeightedPoll Addr) (ballots : List (Ballot Addr)) :
    ((runLog castVoteTx p ballots).2.map fun e => e.msg.sender).Nodup :=
  (runLog_nodup_of_consumes (fun b : Ballot Addr => b.sender) (fun a q => q.hasVoted a)
    (fun _ _ _ _ hok => castVote_hasVoted (castVoteTx_eq_ok.mp hok)) p ballots).1

/-- A result reached in a poll that keeps `PollInv` is the result of every later poll. -/
theorem consensus_later {snapshot : Snapshot Addr} {pollSize : ℕ} {p q : WeightedPoll Addr}
    (hinv : PollInv snapshot pollSize p) (hpq : Later castVoteTx p q) {i : ℕ} {v : Vote}
    (hv : p.consensus i = .ok (some v)) : q.consensus i = .ok (some v) :=
  (Later.preserves (PollInv snapshot pollSize) (fun p => p.consensus i = .ok (some v))
    (fun _ _ _ _ hs hok => castVote_pollInv hs (castVoteTx_eq_ok.mp hok))
    (fun _ _ _ _ hs hc hok => castVote_consensus hs.sound (castVoteTx_eq_ok.mp hok) hc)
    hpq hinv hv).2

/-! ## The tally law -/

/-- The tally law of a weighted poll. Over a snapshot of a nonempty list of
participants with distinct addresses whose total weight fits in a `Uint128`, the
quorum is more than half of the total weight and at most all of it; in every
poll that votes reach, at most one vote holds the quorum at an index, and a
result once reached is the result of every later poll; along every run of votes
a rejected vote changes nothing, each committed vote is a participant's and adds
exactly its weight to the vote it chose at each index, no participant is counted
twice, and the results depend only on which ballots were committed, not on the
order or the heights at which they were cast. -/
theorem weighted_poll_tally_law (pollId : ℕ) (threshold : MajorityThreshold)
    {participants : List (Participant Addr)} (hne : participants ≠ [])
    (hnd : (participants.map (·.address)).Nodup) (hmax : weightSum participants ≤ uint128Max)
    (expiry pollSize : ℕ) :
    let poll := new pollId (Snapshot.new threshold participants) expiry pollSize
    (weightSum participants < 2 * poll.quorum ∧ poll.quorum ≤ weightSum participants) ∧
    (∀ p, Reachable castVoteTx poll p →
      (∀ t ∈ p.tallies, ∀ u v, p.quorum ≤ t.weight u → p.quorum ≤ t.weight v → u = v) ∧
      ∀ q i v, Later castVoteTx p q → p.consensus i = .ok (some v) →
        q.consensus i = .ok (some v)) ∧
    ∀ ballots : List (Ballot Addr),
      ((∀ e ∈ (runLog castVoteTx poll ballots).2.head?, e.before = poll) ∧
        (runLog castVoteTx poll ballots).2.IsChain fun e e' => e.after = e'.before) ∧
      (∀ e ∈ (runLog castVoteTx poll ballots).2, ∃ q ∈ participants,
        q.address = e.msg.sender ∧ e.msg.votes.length = pollSize ∧
        ∀ i u, e.after.tallyAt i u = e.before.tallyAt i u +
          if e.msg.votes[i]? = some u then q.weight else 0) ∧
      ((runLog castVoteTx poll ballots).2.map fun e => e.msg.sender).Nodup ∧
      ∀ ballots' : List (Ballot Addr),
        ((runLog castVoteTx poll ballots).2.map fun e => (e.msg.sender, e.msg.votes)).Perm
          ((runLog castVoteTx poll ballots').2.map fun e => (e.msg.sender, e.msg.votes)) →
        (runLog castVoteTx poll ballots).1.results =
          (runLog castVoteTx poll ballots').1.results := by
  intro poll
  have hinv : PollInv (Snapshot.new threshold participants) pollSize poll :=
    pollInv_new pollId threshold hne hnd hmax expiry pollSize
  obtain ⟨-, hle, hmaj⟩ := Snapshot.quorum_spec threshold hne hmax
  refine ⟨⟨hmaj, hle⟩, fun p hp => ⟨?_, ?_⟩, fun ballots => ⟨runLog_isChain poll ballots, ?_,
    senders_nodup poll ballots, fun ballots' hperm => results_eq_of_perm hinv hperm⟩⟩
  · intro t ht u v hu hv
    exact (hinv.reachable hp).sound.eq_of_quorum_le ht hu hv
  · intro q i v hpq hv
    exact consensus_later (hinv.reachable hp) hpq hv
  · -- each committed vote starts from a poll of the run, which keeps `PollInv`
    intro e he
    obtain ⟨hbefore, hok⟩ := (hinv.runLog ballots).2 e he
    obtain ⟨q, hq, hsize⟩ := castVote_lookup_snapshot hbefore hok
    obtain ⟨hmem, haddr⟩ := Snapshot.mem_of_lookup threshold hq
    refine ⟨q, hmem, haddr, hsize, fun i u => ?_⟩
    rw [tallyAt_castVote hbefore hok i u, Snapshot.ballotWeight, Snapshot.weightOf, hq]
    rfl

/-- The participants of the law's instance: two verifiers of weights `37` and `41`. -/
def lawParticipants : List (Participant String) :=
  [⟨"axelar1tallyone", 37, by decide⟩, ⟨"axelar1tallytwo", 41, by decide⟩]

/-- The law at a poll of two items over `lawParticipants`, with the majority
threshold 43/47. -/
theorem weighted_poll_tally_law_two_verifiers :
    lawParticipants ≠ [] ∧ (lawParticipants.map (·.address)).Nodup ∧
    weightSum lawParticipants ≤ uint128Max ∧
    let poll := new 7 (Snapshot.new ⟨⟨43, 47, by decide, by decide, by decide⟩, by decide⟩
      lawParticipants) 12 2
    (weightSum lawParticipants < 2 * poll.quorum ∧ poll.quorum ≤ weightSum lawParticipants) ∧
    (∀ p, Reachable castVoteTx poll p →
      (∀ t ∈ p.tallies, ∀ u v, p.quorum ≤ t.weight u → p.quorum ≤ t.weight v → u = v) ∧
      ∀ q i v, Later castVoteTx p q → p.consensus i = .ok (some v) →
        q.consensus i = .ok (some v)) ∧
    ∀ ballots : List (Ballot String),
      ((∀ e ∈ (runLog castVoteTx poll ballots).2.head?, e.before = poll) ∧
        (runLog castVoteTx poll ballots).2.IsChain fun e e' => e.after = e'.before) ∧
      (∀ e ∈ (runLog castVoteTx poll ballots).2, ∃ q ∈ lawParticipants,
        q.address = e.msg.sender ∧ e.msg.votes.length = 2 ∧
        ∀ i u, e.after.tallyAt i u = e.before.tallyAt i u +
          if e.msg.votes[i]? = some u then q.weight else 0) ∧
      ((runLog castVoteTx poll ballots).2.map fun e => e.msg.sender).Nodup ∧
      ∀ ballots' : List (Ballot String),
        ((runLog castVoteTx poll ballots).2.map fun e => (e.msg.sender, e.msg.votes)).Perm
          ((runLog castVoteTx poll ballots').2.map fun e => (e.msg.sender, e.msg.votes)) →
        (runLog castVoteTx poll ballots).1.results =
          (runLog castVoteTx poll ballots').1.results :=
  ⟨by decide, by decide, by decide, weighted_poll_tally_law 7
    ⟨⟨43, 47, by decide, by decide, by decide⟩, by decide⟩ (by decide) (by decide) (by decide) 12 2⟩

end WeightedPoll

end Amplifier.WasmStd
