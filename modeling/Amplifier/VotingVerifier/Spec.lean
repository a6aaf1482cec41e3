import Amplifier.VotingVerifier.Execute
import Amplifier.Lib.Transaction

/-!
# Amplifier.VotingVerifier.Spec — what each handler does when it commits

One inversion lemma per handler of `Amplifier.VotingVerifier.Execute`, each
peeling the handler's `do` block with `bind_eq_ok` and saying everything a
committed call did: which checks passed and which storage fields it wrote. The
invariants of the contract are proved from these lemmas alone, never by
unfolding a handler again.

* `verifyMessages_eq_ok` — the storage is unchanged, or one new messages poll
  under the next id, with every message that goes into it read as never polled,
  not found or failed to verify, and saved under its hash;
* `verifyVerifierSet_eq_ok` — unchanged, or one new verifier-set poll, with the
  set read as not confirmed and saved under its hash;
* `tallyVote_eq_ok`, `vote_eq_ok` — `cast_vote` succeeded on an existing poll,
  which is saved back with its kind, and the quorum events are built from the
  results difference;
* `endPoll_eq_ok` — `finish` succeeded on an existing poll, saved back;
* `execute_eq_ok` — the five cases of `execute` together, and from them the
  frame lemmas of the two content stores (`pollMessages_of_execute`,
  `pollVerifierSets_of_execute`).
-/

namespace Amplifier.VotingVerifier

open WasmStd RouterApi Multisig

/-! ## Polls of either kind -/

/-- The poll with its weighted poll replaced, of the same kind: what
`Poll::try_map` builds. -/
def Poll.withWeighted : Poll → WeightedPoll String → Poll
  | .messages _, p => .messages p
  | .confirmVerifierSet _, p => .confirmVerifierSet p

@[simp]
theorem Poll.weightedPoll_withWeighted (poll : Poll) (p : WeightedPoll String) :
    (poll.withWeighted p).weightedPoll = p := by
  cases poll <;> rfl

theorem Poll.tryMap_eq_ok {ε : Type} {f : WeightedPoll String → Except ε (WeightedPoll String)}
    {poll poll' : Poll} :
    poll.tryMap f = .ok poll' ↔ ∃ p', f poll.weightedPoll = .ok p' ∧ poll' = poll.withWeighted p' := by
  cases poll with
  | messages p =>
      simp only [Poll.tryMap, map_eq_ok, Poll.weightedPoll, Poll.withWeighted]
      exact ⟨fun ⟨p', hp', h⟩ => ⟨p', hp', h.symm⟩, fun ⟨p', hp', h⟩ => ⟨p', hp', h.symm⟩⟩
  | confirmVerifierSet p =>
      simp only [Poll.tryMap, map_eq_ok, Poll.weightedPoll, Poll.withWeighted]
      exact ⟨fun ⟨p', hp', h⟩ => ⟨p', hp', h.symm⟩, fun ⟨p', hp', h⟩ => ⟨p', hp', h.symm⟩⟩

/-! ## Shared steps -/

theorem takeSnapshot_eq_ok {s : State} {activeVerifiers : Option (List (Participant String))}
    {snapshot : Snapshot String} :
    takeSnapshot s activeVerifiers = .ok snapshot ↔
      ∃ participants, activeVerifiers = some participants ∧ participants ≠ [] ∧
        snapshot = Snapshot.new s.config.votingThreshold participants := by
  unfold takeSnapshot
  split
  · simp
  · simp
  · rename_i participants hne
    simp only [Except.ok.injEq]
    constructor
    · rintro rfl
      exact ⟨participants, rfl, fun h => hne h, rfl⟩
    · rintro ⟨_, ⟨⟩, -, rfl⟩
      rfl

theorem calculateExpiration_eq_ok {blockHeight blockExpiry expiresAt : ℕ} :
    calculateExpiration blockHeight blockExpiry = .ok expiresAt ↔
      expiresAt = blockHeight + blockExpiry ∧ blockHeight + blockExpiry ≤ uint64Max := by
  unfold calculateExpiration
  split <;> simp_all [eq_comm]

theorem createPoll_eq_ok {kind : WeightedPoll String → Poll} {s s' : State}
    {expiresAt : ℕ} {snapshot : Snapshot String} {pollSize id : ℕ} :
    createPoll kind s expiresAt snapshot pollSize = .ok (s', id) ↔
      s.pollId + 1 ≤ uint64Max ∧ id = s.pollId + 1 ∧
        s' = { s with
          pollId := s.pollId + 1
          polls := s.polls.insert (s.pollId + 1)
            (kind (WeightedPoll.new (s.pollId + 1) snapshot expiresAt pollSize)) } := by
  unfold createPoll incrPollId
  split_ifs with h
  · simp only [bind, Except.bind, pure, Except.pure, Except.ok.injEq, Prod.mk.injEq, h, true_and]
    constructor <;> rintro ⟨rfl, rfl⟩ <;> exact ⟨rfl, rfl⟩
  · simp [bind, Except.bind, h]

/-- One message of `verify_messages`'s `try_map`: validated, and read with its status. -/
theorem validated_eq_ok {ext : Externals} {s : State} {blockHeight : ℕ} {chain : ChainName}
    {message : Message} {result : VerificationStatus × Message}
    (h : (do
        let message ← validateSourceChain message chain
        let message ← validateSourceAddress ext message
        let status ← messageStatus ext s message blockHeight
        pure (status, message) : Except Failure _) = .ok result) :
    result.2 = message ∧ messageStatus ext s message blockHeight = .ok result.1 := by
  obtain ⟨m₁, h₁, h⟩ := bind_eq_ok.mp h
  obtain ⟨m₂, h₂, h⟩ := bind_eq_ok.mp h
  obtain ⟨st, hst, h⟩ := bind_eq_ok.mp h
  -- both validations hand the message back unchanged
  have e₁ : m₁ = message := by
    unfold validateSourceChain at h₁
    split_ifs at h₁
    exact (Except.ok.inj h₁).symm
  have e₂ : m₂ = m₁ := by
    unfold validateSourceAddress at h₂
    split_ifs at h₂
    exact (Except.ok.inj h₂).symm
  have hresult : result = (st, m₂) := (Except.ok.inj h).symm
  rw [hresult]
  refine ⟨e₂.trans e₁, ?_⟩
  rw [← e₁, ← e₂]
  exact hst

/-! ## Handlers -/

/-- A committed `verify_messages` changed nothing, or opened one messages poll of
the messages it read as to be polled, each saved under its hash. -/
theorem verifyMessages_eq_ok {ext : Externals} {s s' : State} {blockHeight : ℕ}
    {activeVerifiers : Option (List (Participant String))} {messages : List Message}
    {r : Response}
    (h : verifyMessages ext s blockHeight activeVerifiers messages = .ok (s', r)) :
    s' = s ∨ ∃ msgsToVerify participants expiresAt,
      msgsToVerify ≠ [] ∧
      (∀ m ∈ msgsToVerify, ∃ status, messageStatus ext s m blockHeight = .ok status ∧
        toBePolled status = true) ∧
      activeVerifiers = some participants ∧ participants ≠ [] ∧ s.pollId + 1 ≤ uint64Max ∧
      s' = { s with
        pollId := s.pollId + 1
        polls := s.polls.insert (s.pollId + 1)
          (.messages (WeightedPoll.new (s.pollId + 1)
            (Snapshot.new s.config.votingThreshold participants) expiresAt msgsToVerify.length))
        pollMessages := savePollMessages ext s.pollMessages (s.pollId + 1) 0 msgsToVerify } := by
  unfold verifyMessages at h
  dsimp only at h
  split_ifs at h with hempty
  · simp [throw, throwThe, MonadExceptOf.throw, bind, Except.bind] at h
  obtain ⟨statuses, hstatuses, h⟩ := bind_eq_ok.mp h
  split_ifs at h with hnone
  · -- nothing to poll: the storage is returned as it was
    left
    cases h
    rfl
  right
  obtain ⟨snapshot, hsnap, h⟩ := bind_eq_ok.mp h
  obtain ⟨expiresAt, -, h⟩ := bind_eq_ok.mp h
  obtain ⟨⟨s₁, id⟩, hcreate, h⟩ := bind_eq_ok.mp h
  dsimp only at h
  obtain ⟨confirmations, -, h⟩ := bind_eq_ok.mp h
  obtain ⟨participants, hav, hne, rfl⟩ := takeSnapshot_eq_ok.mp hsnap
  obtain ⟨hmax, rfl, rfl⟩ := createPoll_eq_ok.mp hcreate
  cases h
  refine ⟨_, participants, expiresAt, fun hnil => hnone (by rw [hnil]; rfl), ?_, hav, hne, hmax,
    rfl⟩
  -- every message polled was read, with a status that asks for a poll
  intro m hm
  obtain ⟨⟨status, m'⟩, hmem, hpolled⟩ := List.mem_filterMap.mp hm
  split_ifs at hpolled with htbp
  cases hpolled
  obtain ⟨m₀, -, hvalidated⟩ := exists_of_mapM_eq_ok hstatuses hmem
  obtain ⟨hm₀, hst⟩ := validated_eq_ok hvalidated
  cases hm₀
  exact ⟨status, hst, htbp⟩

/-- A committed `verify_verifier_set` changed nothing, or opened one verifier-set
poll on a set it read as not confirmed, saved under its hash. -/
theorem verifyVerifierSet_eq_ok {ext : Externals} {s s' : State} {blockHeight : ℕ}
    {activeVerifiers : Option (List (Participant String))} {messageId : NonemptyString}
    {verifierSet : VerifierSet} {r : Response}
    (h : verifyVerifierSet ext s blockHeight activeVerifiers messageId verifierSet =
      .ok (s', r)) :
    s' = s ∨ ∃ status participants expiresAt,
      verifierSetStatus ext s verifierSet blockHeight = .ok status ∧
      status.isConfirmed = false ∧
      activeVerifiers = some participants ∧ participants ≠ [] ∧ s.pollId + 1 ≤ uint64Max ∧
      s' = { s with
        pollId := s.pollId + 1
        polls := s.polls.insert (s.pollId + 1)
          (.confirmVerifierSet (WeightedPoll.new (s.pollId + 1)
            (Snapshot.new s.config.votingThreshold participants) expiresAt 1))
        pollVerifierSets := s.pollVerifierSets.insert (verifierSet.hash ext.keccak256)
          ⟨verifierSet, s.pollId + 1, 0⟩ } := by
  unfold verifyVerifierSet at h
  obtain ⟨status, hstatus, h⟩ := bind_eq_ok.mp h
  dsimp only at h
  by_cases hconfirmed : status.isConfirmed = true
  · -- confirmed already: the storage is returned as it was
    left
    rw [if_pos hconfirmed] at h
    cases h
    rfl
  right
  rw [if_neg hconfirmed] at h
  obtain ⟨snapshot, hsnap, h⟩ := bind_eq_ok.mp h
  obtain ⟨expiresAt, -, h⟩ := bind_eq_ok.mp h
  obtain ⟨⟨s₁, id⟩, hcreate, h⟩ := bind_eq_ok.mp h
  dsimp only at h
  obtain ⟨participants, hav, hne, rfl⟩ := takeSnapshot_eq_ok.mp hsnap
  obtain ⟨hmax, rfl, rfl⟩ := createPoll_eq_ok.mp hcreate
  split_ifs at h with hid
  · simp [throw, throwThe, MonadExceptOf.throw] at h
  cases h
  exact ⟨status, participants, expiresAt, hstatus, by simpa using hconfirmed, hav, hne, hmax, rfl⟩

/-- A committed vote tallied an existing poll with `cast_vote`, saved it back with
its kind, and built its quorum events from the results difference. -/
theorem tallyVote_eq_ok {s s' : State} {blockHeight : ℕ} {sender : String} {pollId : ℕ}
    {votes : List Vote} {events : List (Option Event)}
    (h : tallyVote s blockHeight sender pollId votes = .ok (s', events)) :
    ∃ poll p' difference, s.polls.lookup pollId = some poll ∧
      poll.weightedPoll.castVote blockHeight sender votes = .ok p' ∧
      s' = { s with polls := s.polls.insert pollId (poll.withWeighted p') } ∧
      p'.results.difference poll.weightedPoll.results = .ok difference ∧
      quorumEvents s' pollId (poll.withWeighted p') difference = .ok events := by
  unfold tallyVote at h
  split at h
  · rename_i poll hpoll
    dsimp only at h
    obtain ⟨poll', hmap, h⟩ := bind_eq_ok.mp h
    obtain ⟨p', hcast, rfl⟩ := Poll.tryMap_eq_ok.mp hmap
    split at h
    · rename_i difference hdiff
      obtain ⟨d, hd, h⟩ := bind_eq_ok.mp h
      cases hd
      obtain ⟨events', hevents, h⟩ := bind_eq_ok.mp h
      cases h
      exact ⟨poll, p', difference, hpoll, mapError_eq_ok.mp hcast, rfl, by simpa using hdiff,
        hevents⟩
    · -- a failed difference is the `expect` panic
      obtain ⟨d, hd, -⟩ := bind_eq_ok.mp h
      simp [throw, throwThe, MonadExceptOf.throw] at hd
  · simp [throw, throwThe, MonadExceptOf.throw] at h

theorem vote_eq_ok {s s' : State} {blockHeight : ℕ} {sender : String} {pollId : ℕ}
    {votes : List Vote} {r : Response}
    (h : vote s blockHeight sender pollId votes = .ok (s', r)) :
    ∃ s₁ events, tallyVote s blockHeight sender pollId votes = .ok (s₁, events) ∧
      s' = { s₁ with votes := s₁.votes.insert (pollId, sender) votes } ∧
      r = ⟨[], .voted pollId sender votes :: events.filterMap id⟩ := by
  unfold vote at h
  obtain ⟨⟨s₁, events⟩, htally, h⟩ := bind_eq_ok.mp h
  cases h
  exact ⟨s₁, events, htally, rfl, rfl⟩

/-- A committed `end_poll` finished an existing poll and saved it back with its kind. -/
theorem endPoll_eq_ok {s s' : State} {blockHeight pollId : ℕ} {r : Response}
    (h : endPoll s blockHeight pollId = .ok (s', r)) :
    ∃ poll p', s.polls.lookup pollId = some poll ∧ poll.weightedPoll.finish blockHeight = .ok p' ∧
      s' = { s with polls := s.polls.insert pollId (poll.withWeighted p') } := by
  unfold endPoll at h
  split at h
  · rename_i poll hpoll
    obtain ⟨poll', hmap, h⟩ := bind_eq_ok.mp h
    obtain ⟨p', hfinish, rfl⟩ := Poll.tryMap_eq_ok.mp hmap
    cases h
    exact ⟨poll, p', hpoll, mapError_eq_ok.mp hfinish, rfl⟩
  · simp [throw, throwThe, MonadExceptOf.throw] at h

/-- The five ways a call commits. -/
theorem execute_eq_ok {ext : Externals} {s s' : State} {c : Call} {r : Response}
    (h : execute ext s c = .ok (s', r)) :
    (∃ pollId, c.msg = .endPoll pollId ∧ endPoll s c.blockHeight pollId = .ok (s', r)) ∨
    (∃ pollId votes, c.msg = .vote pollId votes ∧
      vote s c.blockHeight c.sender pollId votes = .ok (s', r)) ∨
    (∃ messages, c.msg = .verifyMessages messages ∧
      verifyMessages ext s c.blockHeight c.activeVerifiers messages = .ok (s', r)) ∨
    (∃ messageId verifierSet, c.msg = .verifyVerifierSet messageId verifierSet ∧
      verifyVerifierSet ext s c.blockHeight c.activeVerifiers messageId verifierSet =
        .ok (s', r)) ∨
    (∃ votingThreshold blockExpiry confirmationHeight,
      c.msg = .updateVotingParameters votingThreshold blockExpiry confirmationHeight ∧
      c.sender = s.governance ∧
      (s', r) = updateVotingParameters s votingThreshold blockExpiry confirmationHeight) := by
  unfold execute at h
  split at h
  · exact .inl ⟨_, ‹_›, h⟩
  · exact .inr (.inl ⟨_, _, ‹_›, h⟩)
  · exact .inr (.inr (.inl ⟨_, ‹_›, h⟩))
  · exact .inr (.inr (.inr (.inl ⟨_, _, ‹_›, h⟩)))
  · split_ifs at h with hgov
    · exact .inr (.inr (.inr (.inr ⟨_, _, _, ‹_›, hgov, (Except.ok.inj h).symm⟩)))

/-! ## Frame lemmas of the content stores -/

section Frame

variable {ext : Externals} {s s' : State} {c : Call} {r : Response}

/-- `poll_messages` is only written by `verify_messages`, with messages it read as
to be polled. -/
theorem pollMessages_of_execute (h : execute ext s c = .ok (s', r)) :
    s'.pollMessages = s.pollMessages ∨ ∃ msgs,
      (∀ m ∈ msgs, ∃ status, messageStatus ext s m c.blockHeight = .ok status ∧
        toBePolled status = true) ∧
      s'.pollMessages = savePollMessages ext s.pollMessages (s.pollId + 1) 0 msgs := by
  rcases execute_eq_ok h with ⟨_, -, h⟩ | ⟨_, _, -, h⟩ | ⟨_, -, h⟩ | ⟨_, _, -, h⟩ |
      ⟨_, _, _, -, -, h⟩
  · obtain ⟨_, _, -, -, rfl⟩ := endPoll_eq_ok h
    exact .inl rfl
  · obtain ⟨s₁, _, htally, rfl, -⟩ := vote_eq_ok h
    obtain ⟨_, _, _, -, -, rfl, -, -⟩ := tallyVote_eq_ok htally
    exact .inl rfl
  · rcases verifyMessages_eq_ok h with rfl | ⟨msgs, -, -, -, hmsgs, -, -, -, rfl⟩
    · exact .inl rfl
    · exact .inr ⟨msgs, hmsgs, rfl⟩
  · rcases verifyVerifierSet_eq_ok h with rfl | ⟨-, -, -, -, -, -, -, -, rfl⟩ <;> exact .inl rfl
  · cases h
    exact .inl rfl

/-- `poll_verifier_sets` is only written by `verify_verifier_set`, with a set it
read as not confirmed. -/
theorem pollVerifierSets_of_execute (h : execute ext s c = .ok (s', r)) :
    s'.pollVerifierSets = s.pollVerifierSets ∨ ∃ verifierSet status,
      verifierSetStatus ext s verifierSet c.blockHeight = .ok status ∧
      status.isConfirmed = false ∧
      s'.pollVerifierSets = s.pollVerifierSets.insert (verifierSet.hash ext.keccak256)
        ⟨verifierSet, s.pollId + 1, 0⟩ := by
  rcases execute_eq_ok h with ⟨_, -, h⟩ | ⟨_, _, -, h⟩ | ⟨_, -, h⟩ | ⟨_, _, -, h⟩ |
      ⟨_, _, _, -, -, h⟩
  · obtain ⟨_, _, -, -, rfl⟩ := endPoll_eq_ok h
    exact .inl rfl
  · obtain ⟨s₁, _, htally, rfl, -⟩ := vote_eq_ok h
    obtain ⟨_, _, _, -, -, rfl, -, -⟩ := tallyVote_eq_ok htally
    exact .inl rfl
  · rcases verifyMessages_eq_ok h with rfl | ⟨-, -, -, -, -, -, -, -, rfl⟩ <;> exact .inl rfl
  · rcases verifyVerifierSet_eq_ok h with rfl | ⟨status, -, -, hstatus, hconf, -, -, -, rfl⟩
    · exact .inl rfl
    · exact .inr ⟨_, status, hstatus, hconf, rfl⟩
  · cases h
    exact .inl rfl

end Frame

end Amplifier.VotingVerifier
