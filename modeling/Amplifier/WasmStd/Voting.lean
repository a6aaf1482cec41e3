import Amplifier.WasmStd.Threshold

/-!
# Amplifier.WasmStd.Voting — weighted polls

The poll machinery of `axelar-wasm-std`'s `voting.rs`, shared by the
voting-verifier and the other verifiers:

* `Tallies` — at one index of a poll, the weight behind each `Vote`. The code
  keeps them in a `BTreeMap<String, Uint128>` keyed by the vote's name, so
  `consensus` scans the votes in the lexicographic order of their names
  (`Vote.keyOrder`) and returns the first one whose tally reaches the quorum;
  `tally` adds a weight with `saturating_add`.
* `WeightedPoll` — the participants with their weights and a `voted` flag,
  one `Tallies` per index, the quorum and the expiry; `castVote` is
  `cast_vote` with its four checks in the code's order, `finish` is `finish`,
  `results` and `consensus` read the tallies.
* `PollResults.difference` — the indices that have a result after a vote but
  had none before; the voting-verifier emits one `QuorumReached` event for each.

The law these definitions obey — tallies only grow, at most one vote can hold a
quorum, so a result once reached never changes — is proved in
`Amplifier.WasmStd.TallyLaw`.
-/

namespace Amplifier.WasmStd

/-- `voting::Error`. -/
inductive VotingError where
  | notParticipant
  | invalidVoteSize
  | alreadyVoted
  | pollNotInProgress
  | pollNotEnded
  | pollExpired
  | messageIndexOutOfBounds
  | pollResultsLengthUnequal
  deriving DecidableEq, Repr

/-- `Vote`: what a verifier reports for one item of a poll. -/
inductive Vote where
  | succeededOnChain
  | failedOnChain
  | notFound
  deriving DecidableEq, Repr

/-- `Vote::as_ref`: the name a vote is tallied under. -/
def Vote.asRef : Vote → String
  | .succeededOnChain => "SucceededOnChain"
  | .failedOnChain => "FailedOnChain"
  | .notFound => "NotFound"

/-- The votes in the order a `BTreeMap<String, _>` keyed by `Vote::as_ref`
iterates them: by the lexicographic order of their names. -/
def Vote.keyOrder : List Vote := [.failedOnChain, .notFound, .succeededOnChain]

/-- `keyOrder` lists every vote once, in the strictly increasing order of the names. -/
theorem Vote.keyOrder_sorted : (Vote.keyOrder.map Vote.asRef).Pairwise (· < ·) := by
  decide

theorem Vote.mem_keyOrder (v : Vote) : v ∈ Vote.keyOrder := by
  cases v <;> decide

/-- `Tallies`: the weight behind each vote at one index of a poll. -/
structure Tallies where
  weight : Vote → ℕ

/-- `Tallies::default`: every vote at zero. -/
def Tallies.default : Tallies := ⟨fun _ => 0⟩

/-- `Tallies::consensus`: the first vote, in key order, whose tally reaches the quorum. -/
def Tallies.consensus (t : Tallies) (quorum : ℕ) : Option Vote :=
  Vote.keyOrder.find? fun v => decide (quorum ≤ t.weight v)

/-- `Tallies::tally`: add a voter's weight to its vote, saturating at `Uint128::MAX`. -/
def Tallies.tally (t : Tallies) (vote : Vote) (weight : ℕ) : Tallies :=
  ⟨Function.update t.weight vote (saturatingAdd (t.weight vote) weight)⟩

/-- `PollResults`: the consensus at each index of a poll. -/
abbrev PollResults := List (Option Vote)

/-- `PollResults::difference`: keep the results of `lhs` where `rhs` has none. -/
def PollResults.difference (lhs rhs : PollResults) : Except VotingError PollResults :=
  if lhs.length ≠ rhs.length then .error .pollResultsLengthUnequal
  else .ok (List.zipWith (fun l r => if l.isSome && r.isNone then l else none) lhs rhs)

/-- `VerificationStatus` (`verification.rs`): what a verifier contract reports
about a message or a verifier set. -/
inductive VerificationStatus where
  | succeededOnSourceChain
  | failedOnSourceChain
  | notFoundOnSourceChain
  | failedToVerify
  | inProgress
  | unknown
  deriving DecidableEq, Repr

/-- `VerificationStatus::is_confirmed`: the source chain's outcome is known. -/
def VerificationStatus.isConfirmed : VerificationStatus → Bool
  | .succeededOnSourceChain | .failedOnSourceChain => true
  | _ => false

/-- The status a poll's result stands for, as both `make_quorum_event` and
`verification_status` translate it. -/
def VerificationStatus.ofVote : Vote → VerificationStatus
  | .succeededOnChain => .succeededOnSourceChain
  | .failedOnChain => .failedOnSourceChain
  | .notFound => .notFoundOnSourceChain

/-- `PollStatus`. -/
inductive PollStatus where
  | inProgress
  | expired
  | finished
  deriving DecidableEq, Repr

/-- `Participation`: a participant's weight and whether it has voted. -/
structure Participation where
  weight : ℕ
  voted : Bool
  deriving DecidableEq, Repr

/-- `PollState`: a poll's results and the voters whose every vote agreed with a
result that was reached. -/
structure PollState (Addr : Type) where
  pollId : ℕ
  results : PollResults
  consensusParticipants : List Addr

/-- `WeightedPoll`. -/
structure WeightedPoll (Addr : Type) [DecidableEq Addr] where
  pollId : ℕ
  quorum : ℕ
  expiresAt : ℕ
  pollSize : ℕ
  tallies : List Tallies
  finished : Bool
  participation : Map Addr Participation

variable {Addr : Type} [DecidableEq Addr]

namespace WeightedPoll

/-- `WeightedPoll::new`: every participant of the snapshot, not yet voted, and
`poll_size` empty tallies. -/
def new (pollId : ℕ) (snapshot : Snapshot Addr) (expiry pollSize : ℕ) : WeightedPoll Addr where
  pollId := pollId
  quorum := snapshot.quorum
  expiresAt := expiry
  pollSize := pollSize
  tallies := List.replicate pollSize Tallies.default
  finished := false
  participation := Map.mapValues (fun _ p => ⟨p.weight, false⟩) snapshot.participants

/-- `WeightedPoll::finish`. -/
def finish (p : WeightedPoll Addr) (blockHeight : ℕ) : Except VotingError (WeightedPoll Addr) :=
  if p.finished then .error .pollNotInProgress
  else if blockHeight < p.expiresAt then .error .pollNotEnded
  else .ok { p with finished := true }

/-- `WeightedPoll::results`. -/
def results (p : WeightedPoll Addr) : PollResults :=
  p.tallies.map fun t => t.consensus p.quorum

/-- `WeightedPoll::consensus`: the result at one index. -/
def consensus (p : WeightedPoll Addr) (idx : ℕ) : Except VotingError (Option Vote) :=
  match p.tallies[idx]? with
  | some t => .ok (t.consensus p.quorum)
  | none => .error .messageIndexOutOfBounds

/-- The loop of `cast_vote`: the tallies zipped with the votes, each tallied with
the voter's weight; tallies past the end of the votes are left as they are. -/
def tallyAll : List Tallies → List Vote → ℕ → List Tallies
  | t :: ts, v :: vs, w => t.tally v w :: tallyAll ts vs w
  | ts, [], _ => ts
  | [], _ :: _, _ => []

/-- `WeightedPoll::cast_vote`: the sender must be a participant, the poll must
not have expired, there must be one vote per item, and the sender must not have
voted; then its weight goes to each of its votes. -/
def castVote (p : WeightedPoll Addr) (blockHeight : ℕ) (sender : Addr) (votes : List Vote) :
    Except VotingError (WeightedPoll Addr) :=
  match p.participation.lookup sender with
  | none => .error .notParticipant
  | some participation =>
      if p.expiresAt ≤ blockHeight then .error .pollExpired
      else if votes.length ≠ p.pollSize then .error .invalidVoteSize
      else if participation.voted then .error .alreadyVoted
      else .ok { p with
        tallies := tallyAll p.tallies votes participation.weight
        participation := p.participation.insert sender { participation with voted := true } }

/-- `WeightedPoll::state`: the results, and the participants whose recorded votes
agree with the result at every index that has one. -/
def state (p : WeightedPoll Addr) (votingHistory : Map Addr (List Vote)) : PollState Addr where
  pollId := p.pollId
  results := p.results
  consensusParticipants := p.participation.keys.filter fun address =>
    match votingHistory.lookup address with
    | none => false
    | some votes => (votes.zip p.results).all fun (vote, result) =>
        result.isNone || decide (result = some vote)

/-- `WeightedPoll::status`. -/
def status (p : WeightedPoll Addr) (currentHeight : ℕ) : PollStatus :=
  if p.finished then .finished
  else if p.expiresAt ≤ currentHeight then .expired
  else .inProgress

end WeightedPoll

end Amplifier.WasmStd
