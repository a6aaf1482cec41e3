import Amplifier.VotingVerifier.State

/-!
# Amplifier.VotingVerifier.Execute — the handlers of the voting-verifier

`contract.rs`'s `execute` and the handlers of `contract/execute.rs`, each a
function from the storage and the call to the new storage and the response, or
a `Failure`:

* `verifyMessages` — validates every message and reads its status; the ones
  never polled, or whose poll found nothing or failed to verify, go into a new
  poll, each saved under its hash with its index in the poll;
* `verifyVerifierSet` — unless the set is confirmed already, a new poll of size
  one on it, saved under its hash;
* `vote` — `cast_vote` on the poll, and a `QuorumReached` event for each index
  whose result the vote created;
* `endPoll` — `finish` on the poll, and a `RecordParticipation` to the rewards
  contract for each verifier that voted with every result;
* `updateVotingParameters` — governance only.

A call carries what the chain gives a handler: the block height, the sender,
and the service registry's answer to the `ActiveVerifiers` query that
`take_snapshot` makes (`none` when the query fails).

Two defects of the handlers are shown on the instantiated contract: a batch
that lists a message twice commits a poll that has lost one of its messages
(`repeated_message_breaks_poll_response`), and a verifier set rekeyed under
the same hash blocks the real one (`rekeyed_verifier_set_blocks_verification`).
-/

namespace Amplifier.VotingVerifier

open WasmStd RouterApi Multisig

/-! ## Events and responses -/

/-- `TxEventConfirmation`: a message as the verifiers are asked to look for it. -/
structure TxEventConfirmation where
  messageId : NonemptyString
  destinationAddress : Address
  destinationChain : ChainName
  sourceAddress : Address
  payloadHash : Hash

/-- `TxEventConfirmation::try_from`: the message id must have the configured format. -/
def TxEventConfirmation.tryFrom (ext : Externals) (msg : Message) :
    Except Failure TxEventConfirmation :=
  if ext.isValidMessageId msg.ccId.messageId.val then
    .ok ⟨msg.ccId.messageId, msg.destinationAddress, msg.destinationChain, msg.sourceAddress,
      msg.payloadHash⟩
  else .error (.error (.invalidMessageId msg.ccId.messageId.val))

/-- `PollMetadata`. -/
structure PollMetadata where
  pollId : ℕ
  sourceChain : ChainName
  sourceGatewayAddress : String
  confirmationHeight : ℕ
  expiresAt : ℕ
  participants : List String

/-- The content of a `QuorumReached` event: what the multi-index holds at the
poll's index, if anything. -/
inductive QuorumContent where
  | message (content : Option Message)
  | verifierSet (content : Option VerifierSet)

/-- The events the handlers emit. -/
inductive Event where
  | messagesPollStarted (messages : List TxEventConfirmation) (metadata : PollMetadata)
  | verifierSetPollStarted (messageId : NonemptyString) (verifierSet : VerifierSet)
      (metadata : PollMetadata)
  | voted (pollId : ℕ) (voter : String) (votes : List Vote)
  | quorumReached (content : QuorumContent) (status : VerificationStatus) (pollId : ℕ)
  | pollEnded (pollId : ℕ) (sourceChain : ChainName) (results : PollResults)

/-- `rewards::msg::ExecuteMsg::RecordParticipation`, sent to the rewards contract. -/
structure RecordParticipation where
  chainName : ChainName
  eventId : String
  verifierAddress : String

/-- `Response`: the messages to other contracts and the events. -/
structure Response where
  messages : List RecordParticipation
  events : List Event

/-- `Response::new()`. -/
def Response.empty : Response := ⟨[], []⟩

/-- `ExecuteMsg`. -/
inductive ExecuteMsg where
  | endPoll (pollId : ℕ)
  | vote (pollId : ℕ) (votes : List Vote)
  | verifyMessages (messages : List Message)
  | verifyVerifierSet (messageId : NonemptyString) (newVerifierSet : VerifierSet)
  | updateVotingParameters (votingThreshold : Option MajorityThreshold)
      (blockExpiry : Option {n : ℕ // 0 < n}) (confirmationHeight : Option ℕ)

/-- A call: the message, its sender, the block height, and the service
registry's answer to `ActiveVerifiers` at that block. -/
structure Call where
  blockHeight : ℕ
  sender : String
  activeVerifiers : Option (List (Participant String))
  msg : ExecuteMsg

/-! ## Shared steps -/

/-- `take_snapshot`: the active verifiers, which must not be none, and the quorum
of the configured threshold. -/
def takeSnapshot (s : State) (activeVerifiers : Option (List (Participant String))) :
    Except Failure (Snapshot String) :=
  match activeVerifiers with
  | none => .error (.error .failedToBuildSnapshot)
  | some [] => .error (.error .nonEmptyError)
  | some participants => .ok (Snapshot.new s.config.votingThreshold participants)

/-- `calculate_expiration`: `checked_add` on `u64`. -/
def calculateExpiration (blockHeight blockExpiry : ℕ) : Except Failure ℕ :=
  if blockHeight + blockExpiry ≤ uint64Max then .ok (blockHeight + blockExpiry)
  else .error (.error .overflow)

/-- `POLL_ID.incr`: the next poll id, checked against `u64::MAX`. -/
def incrPollId (s : State) : Except Failure (State × ℕ) :=
  if s.pollId + 1 ≤ uint64Max then .ok ({ s with pollId := s.pollId + 1 }, s.pollId + 1)
  else .error (.error .storageError)

/-- A new poll under the next id, of the given kind and size. -/
def createPoll (kind : WeightedPoll String → Poll) (s : State) (expiresAt : ℕ)
    (snapshot : Snapshot String) (pollSize : ℕ) : Except Failure (State × ℕ) := do
  let (s, id) ← incrPollId s
  pure ({ s with polls := s.polls.insert id (kind (WeightedPoll.new id snapshot expiresAt pollSize)) },
    id)

/-- `create_verifier_set_poll`. -/
def createVerifierSetPoll (s : State) (expiresAt : ℕ) (snapshot : Snapshot String) :
    Except Failure (State × ℕ) :=
  createPoll .confirmVerifierSet s expiresAt snapshot 1

/-- `create_messages_poll`. -/
def createMessagesPoll (s : State) (expiresAt : ℕ) (snapshot : Snapshot String)
    (pollSize : ℕ) : Except Failure (State × ℕ) :=
  createPoll .messages s expiresAt snapshot pollSize

/-- `validate_source_chain`. -/
def validateSourceChain (message : Message) (sourceChain : ChainName) : Except Failure Message :=
  if message.ccId.sourceChain.val ≠ sourceChain.val then
    .error (.error (.sourceChainMismatch sourceChain))
  else .ok message

/-- `validate_source_address`. -/
def validateSourceAddress (ext : Externals) (message : Message) : Except Failure Message :=
  if ext.isValidAddress message.sourceAddress.val then .ok message
  else .error (.error .invalidSourceAddress)

/-- The statuses `verify_messages` polls a message in: never polled, or its last
poll found it missing or ended without a result. -/
def toBePolled : VerificationStatus → Bool
  | .notFoundOnSourceChain | .failedToVerify | .unknown => true
  | .inProgress | .succeededOnSourceChain | .failedOnSourceChain => false

/-- The loop of `verify_messages` that saves each message of the new poll under
its hash, with its index. -/
def savePollMessages (ext : Externals) (pollMessages : Map Hash (PollContent Message))
    (id : ℕ) : ℕ → List Message → Map Hash (PollContent Message)
  | _, [] => pollMessages
  | idx, message :: rest =>
      savePollMessages ext (pollMessages.insert (message.hash ext.keccak256) ⟨message, id, idx⟩)
        id (idx + 1) rest

/-! ## Handlers -/

/-- `update_voting_parameters`: each given parameter replaces the configured one. -/
def updateVotingParameters (s : State) (votingThreshold : Option MajorityThreshold)
    (blockExpiry : Option {n : ℕ // 0 < n}) (confirmationHeight : Option ℕ) : State × Response :=
  ({ s with
      config := { s.config with
        votingThreshold := votingThreshold.getD s.config.votingThreshold
        blockExpiry := blockExpiry.getD s.config.blockExpiry
        confirmationHeight := confirmationHeight.getD s.config.confirmationHeight } },
    Response.empty)

/-- `verify_verifier_set`. -/
def verifyVerifierSet (ext : Externals) (s : State) (blockHeight : ℕ)
    (activeVerifiers : Option (List (Participant String))) (messageId : NonemptyString)
    (newVerifierSet : VerifierSet) : Except Failure (State × Response) := do
  let status ← verifierSetStatus ext s newVerifierSet blockHeight
  if status.isConfirmed then return (s, Response.empty)
  let snapshot ← takeSnapshot s activeVerifiers
  let expiresAt ← calculateExpiration blockHeight s.config.blockExpiry.val
  let (s', pollId) ← createVerifierSetPoll s expiresAt snapshot
  let s' := { s' with
    pollVerifierSets := s'.pollVerifierSets.insert (newVerifierSet.hash ext.keccak256)
      ⟨newVerifierSet, pollId, 0⟩ }
  if !ext.isValidMessageId messageId.val then
    throw (.error (.invalidMessageId messageId.val))
  return (s', ⟨[], [.verifierSetPollStarted messageId newVerifierSet
    ⟨pollId, s.config.sourceChain, s.config.sourceGatewayAddress, s.config.confirmationHeight,
      expiresAt, snapshot.participants.keys⟩]⟩)

/-- `verify_messages`. -/
def verifyMessages (ext : Externals) (s : State) (blockHeight : ℕ)
    (activeVerifiers : Option (List (Participant String))) (messages : List Message) :
    Except Failure (State × Response) := do
  if messages.isEmpty then throw (.error .emptyMessages)
  let messages ← messages.mapM fun message => do
    let message ← validateSourceChain message s.config.sourceChain
    let message ← validateSourceAddress ext message
    let status ← messageStatus ext s message blockHeight
    pure (status, message)
  let msgsToVerify := messages.filterMap fun (status, message) =>
    if toBePolled status then some message else none
  if msgsToVerify.isEmpty then return (s, Response.empty)
  let snapshot ← takeSnapshot s activeVerifiers
  let expiresAt ← calculateExpiration blockHeight s.config.blockExpiry.val
  let (s', id) ← createMessagesPoll s expiresAt snapshot msgsToVerify.length
  let s' := { s' with pollMessages := savePollMessages ext s'.pollMessages id 0 msgsToVerify }
  let confirmations ← msgsToVerify.mapM (TxEventConfirmation.tryFrom ext)
  return (s', ⟨[], [.messagesPollStarted confirmations
    ⟨id, s.config.sourceChain, s.config.sourceGatewayAddress, s.config.confirmationHeight,
      expiresAt, snapshot.participants.keys⟩]⟩)

/-- `make_quorum_event`: for a messages poll the message at the index, for a
verifier-set poll its verifier set, each as the multi-index has it; an event
only where the difference has a result. -/
def makeQuorumEvent (s : State) (vote : Option Vote) (indexInPoll pollId : ℕ) (poll : Poll) :
    Except Failure (Option Event) := do
  let status := vote.map VerificationStatus.ofVote
  match poll with
  | .messages _ =>
      let msg ← loadMessage s pollId indexInPoll
      pure (status.map fun status => .quorumReached (.message msg) status pollId)
  | .confirmVerifierSet _ =>
      let verifierSet ← loadVerifierSet s pollId
      pure (status.map fun status => .quorumReached (.verifierSet verifierSet) status pollId)

/-- `quorum_events`: `make_quorum_event` at each index of the results difference. -/
def quorumEvents (s : State) (pollId : ℕ) (poll : Poll) (difference : PollResults) :
    Except Failure (List (Option Event)) :=
  difference.zipIdx.mapM fun (vote, indexInPoll) => makeQuorumEvent s vote indexInPoll pollId poll

/-- The results of a vote before the events: the poll after `cast_vote`, saved,
and `quorum_events`. -/
def tallyVote (s : State) (blockHeight : ℕ) (sender : String) (pollId : ℕ) (votes : List Vote) :
    Except Failure (State × List (Option Event)) := do
  let some poll := s.polls.lookup pollId | throw (.error .pollNotFound)
  let resultsBeforeVoting := poll.weightedPoll.results
  let poll ← poll.tryMap fun p =>
    (p.castVote blockHeight sender votes).mapError fun err => .error (.voteError err)
  let s := { s with polls := s.polls.insert pollId poll }
  let resultsAfterVoting := poll.weightedPoll.results
  let difference ← match resultsAfterVoting.difference resultsBeforeVoting with
    | .ok difference => pure difference
    | .error _ => throw (.panic "failed to substract poll results")
  let events ← quorumEvents s pollId poll difference
  pure (s, events)

/-- `vote`: the vote, its record in `VOTES`, `Voted` and the quorum events. -/
def vote (s : State) (blockHeight : ℕ) (sender : String) (pollId : ℕ) (votes : List Vote) :
    Except Failure (State × Response) := do
  let (s, events) ← tallyVote s blockHeight sender pollId votes
  let s := { s with votes := s.votes.insert (pollId, sender) votes }
  pure (s, ⟨[], .voted pollId sender votes :: events.filterMap id⟩)

/-- `end_poll`: finish the poll and reward the verifiers that voted with the results. -/
def endPoll (s : State) (blockHeight pollId : ℕ) : Except Failure (State × Response) := do
  let some poll := s.polls.lookup pollId | throw (.error .pollNotFound)
  let poll ← poll.tryMap fun p => (p.finish blockHeight).mapError fun err => .error (.voteError err)
  let s := { s with polls := s.polls.insert pollId poll }
  let votes := s.votes.entries.filterMap fun e =>
    if e.1.1 = pollId then some (e.1.2, e.2) else none
  let pollResult := poll.weightedPoll.state (Map.ofList votes)
  pure (s, ⟨pollResult.consensusParticipants.map fun address =>
      ⟨s.config.sourceChain, toString pollId, address⟩,
    [.pollEnded pollResult.pollId s.config.sourceChain pollResult.results]⟩)

/-- `execute`: the permission check of `ensure_permissions`, then the handler. -/
def execute (ext : Externals) (s : State) (c : Call) : Except Failure (State × Response) :=
  match c.msg with
  | .endPoll pollId => endPoll s c.blockHeight pollId
  | .vote pollId votes => vote s c.blockHeight c.sender pollId votes
  | .verifyMessages messages => verifyMessages ext s c.blockHeight c.activeVerifiers messages
  | .verifyVerifierSet messageId newVerifierSet =>
      verifyVerifierSet ext s c.blockHeight c.activeVerifiers messageId newVerifierSet
  | .updateVotingParameters votingThreshold blockExpiry confirmationHeight =>
      if c.sender = s.governance then
        .ok (updateVotingParameters s votingThreshold blockExpiry confirmationHeight)
      else .error (.error .permissionDenied)

/-! ## Fixed inputs -/

/-- A configuration to run the contract with: source chain `ethereum`, a
two-thirds majority, polls that last ten blocks. -/
def exampleConfig : Config where
  sourceGatewayAddress := "0x4F4495243837681061C4743b74B3eEdf548D56A5"
  votingThreshold := ⟨⟨2, 3, by decide, by decide, by decide⟩, by decide⟩
  blockExpiry := ⟨10, by decide⟩
  confirmationHeight := 1
  sourceChain := ⟨"ethereum", by decide, by decide⟩

/-- Externals for runs on fixed inputs: a constant hash, and formats that accept
every address and message id. -/
def exampleExternals : Externals :=
  ⟨fun _ => Vector.replicate 32 0, fun _ => true, fun _ => true⟩

/-- A message from `ethereum`, the source chain of `exampleConfig`, with a
`HexTxHashAndEventIndex` id. -/
def exampleMessage : Message where
  ccId := ⟨⟨"ethereum", exampleConfig.sourceChain.valid⟩,
    ⟨"0xff822c88807859ff226b58e24f24974a70f04b9442501ae38fd665b3c68f3834-0", by decide⟩⟩
  sourceAddress := ⟨"0x52444f1835Adc02086c37Cb226561605e2E1699b", by decide⟩
  destinationChain := ⟨"axelar", by decide, by decide⟩
  destinationAddress := ⟨"axelar1x46rqay4d3cssq8gxxvqz8xt6nwlz4td20k38v", by decide⟩
  payloadHash := Vector.replicate 32 0

/-! ## A poll can lose the messages it polls

`poll_messages` is keyed by the message's hash, and `verify_messages` saves the
messages of a new poll one after the other, each with its index. When a batch
lists one message twice, the second save replaces the first: the poll has two
tallies but the multi-index holds one message for it, at index 1, and nothing at
index 0 (`repeated_message_breaks_poll_response`). `poll_response` then fails
its `assert_eq!` on the number of messages and panics, for every height and for
every Keccak-256.

The same replacement happens across batches: a message whose last poll found
it missing or ended without a result is polled again, and its entry moves to
the new poll, leaving the old poll's index empty.
-/

/-- `VerifyMessages` with one message listed twice commits a poll of size two
whose index 0 has no message; `poll_response` on it panics. -/
theorem repeated_message_breaks_poll_response (ext : Externals) (governance : String)
    (participant : Participant String)
    (haddr : ext.isValidAddress exampleMessage.sourceAddress.val = true)
    (hid : ext.isValidMessageId exampleMessage.ccId.messageId.val = true) :
    ∃ s r, execute ext (instantiate governance exampleConfig)
        ⟨100, "relayer", some [participant], .verifyMessages [exampleMessage, exampleMessage]⟩ =
          .ok (s, r) ∧
      (∃ poll, s.polls.lookup 1 = some (.messages poll) ∧ poll.pollSize = 2 ∧
        poll.tallies.length = 2) ∧
      loadMessage s 1 0 = .ok none ∧
      loadMessages s 1 = [exampleMessage] ∧
      pollResponse s 100 1 =
        .error (.panic "data inconsistency for number of messages in poll 1") := by
  simp only [exampleMessage] at haddr hid
  -- the configuration is read through these two fields only
  have hchain : exampleConfig.sourceChain.val = "ethereum" := rfl
  have hexpiry : exampleConfig.blockExpiry.val = 10 := rfl
  -- run the handler on the empty storage: both copies read as unknown, both are saved
  simp [execute, verifyMessages, validateSourceChain, validateSourceAddress, messageStatus,
    verificationStatus, instantiate, haddr, hid, toBePolled, takeSnapshot, calculateExpiration,
    createMessagesPoll, createPoll, incrPollId, TxEventConfirmation.tryFrom, bind, Except.bind,
    pure, Except.pure, hchain, hexpiry, uint64Max, exampleMessage, loadMessage, loadMessages,
    pollResponse, WeightedPoll.new, AList.lookup, AList.singleton_entries, savePollMessages]
  decide

theorem repeated_message_breaks_poll_response_example :
    exampleExternals.isValidAddress exampleMessage.sourceAddress.val = true ∧
    exampleExternals.isValidMessageId exampleMessage.ccId.messageId.val = true ∧
    ∃ s r, execute exampleExternals (instantiate "governance" exampleConfig)
        ⟨100, "relayer", some [⟨"verifier", 1, by decide⟩],
          .verifyMessages [exampleMessage, exampleMessage]⟩ = .ok (s, r) ∧
      (∃ poll, s.polls.lookup 1 = some (.messages poll) ∧ poll.pollSize = 2 ∧
        poll.tallies.length = 2) ∧
      loadMessage s 1 0 = .ok none ∧
      loadMessages s 1 = [exampleMessage] ∧
      pollResponse s 100 1 =
        .error (.panic "data inconsistency for number of messages in poll 1") :=
  ⟨rfl, rfl, repeated_message_breaks_poll_response exampleExternals "governance"
    ⟨"verifier", 1, by decide⟩ rfl rfl⟩

/-! ## One hash, two verifier sets

`poll_verifier_sets` is keyed by `VerifierSet::hash`, which never reads the keys
of the signer map (`VerifierSet.hashPreimage_eq_of_values`). `VerifyVerifierSet`
is open to anyone, so a caller can poll a copy of the prover's next verifier set
whose signers sit under other keys: the copy is stored under the hash of the
real set. From then on `verifier_set_status` of the real set fails the content
check and panics, so the real set can be neither polled nor queried
(`rekeyed_verifier_set_blocks_verification`), whatever Keccak-256 is.
-/

/-- `VerifyVerifierSet` of a set that differs from `v` only in the keys of its
signers makes every later `VerifyVerifierSet` of `v`, and every
`verifier_set_status` of `v`, panic on the content check. -/
theorem rekeyed_verifier_set_blocks_verification (ext : Externals) (governance : String)
    (participant : Participant String) (messageId : NonemptyString) (v v' : VerifierSet)
    (hvalues : v.values = v'.values) (hthreshold : v.threshold = v'.threshold)
    (hcreated : v.createdAt = v'.createdAt) (hne : v' ≠ v)
    (hid : ext.isValidMessageId messageId.val = true) :
    ∃ s r, execute ext (instantiate governance exampleConfig)
        ⟨100, "relayer", some [participant], .verifyVerifierSet messageId v'⟩ = .ok (s, r) ∧
      (∀ blockHeight sender activeVerifiers messageId',
        execute ext s ⟨blockHeight, sender, activeVerifiers, .verifyVerifierSet messageId' v⟩ =
          .error (.panic "invalid invariant: content mismatch with the stored one")) ∧
      (∀ blockHeight, verifierSetStatus ext s v blockHeight =
          .error (.panic "invalid invariant: content mismatch with the stored one")) := by
  -- the two sets have one hash, for any Keccak-256
  have hhash : v.hash ext.keccak256 = v'.hash ext.keccak256 :=
    VerifierSet.hash_eq_of_values ext.keccak256 hvalues hthreshold hcreated
  -- on the empty storage the copy reads as unknown and is stored under its hash; the
  -- configuration is read through its block expiry only
  have hexpiry : exampleConfig.blockExpiry.val = 10 := rfl
  obtain ⟨s, r, hexec, hstore⟩ : ∃ s r, execute ext (instantiate governance exampleConfig)
      ⟨100, "relayer", some [participant], .verifyVerifierSet messageId v'⟩ = .ok (s, r) ∧
      s.pollVerifierSets.lookup (v'.hash ext.keccak256) = some ⟨v', 1, 0⟩ := by
    simp [execute, verifyVerifierSet, verifierSetStatus, verificationStatus, instantiate, hid,
      takeSnapshot, calculateExpiration, createVerifierSetPoll, createPoll, incrPollId, bind,
      Except.bind, pure, Except.pure, hexpiry, uint64Max, VerificationStatus.isConfirmed,
      AList.lookup, AList.singleton_entries]
  have hlook : s.pollVerifierSets.lookup (v.hash ext.keccak256) = some ⟨v', 1, 0⟩ := by
    rw [hhash]
    exact hstore
  -- `v` finds the copy under its hash and fails the content check
  have hstatus : ∀ blockHeight, verifierSetStatus ext s v blockHeight =
      .error (.panic "invalid invariant: content mismatch with the stored one") := by
    intro blockHeight
    simp [verifierSetStatus, hlook, verificationStatus, hne]
  refine ⟨s, r, hexec, fun blockHeight sender activeVerifiers messageId' => ?_, hstatus⟩
  simp [execute, verifyVerifierSet, hstatus, bind, Except.bind]

theorem rekeyed_verifier_set_blocks_verification_example :
    exampleVerifierSet.values = rekeyedVerifierSet.values ∧
    exampleVerifierSet.threshold = rekeyedVerifierSet.threshold ∧
    exampleVerifierSet.createdAt = rekeyedVerifierSet.createdAt ∧
    rekeyedVerifierSet ≠ exampleVerifierSet ∧
    exampleExternals.isValidMessageId exampleMessage.ccId.messageId.val = true ∧
    ∃ s r, execute exampleExternals (instantiate "governance" exampleConfig)
        ⟨100, "relayer", some [⟨"verifier", 1, by decide⟩],
          .verifyVerifierSet exampleMessage.ccId.messageId rekeyedVerifierSet⟩ = .ok (s, r) ∧
      (∀ blockHeight sender activeVerifiers messageId',
        execute exampleExternals s
            ⟨blockHeight, sender, activeVerifiers, .verifyVerifierSet messageId' exampleVerifierSet⟩ =
          .error (.panic "invalid invariant: content mismatch with the stored one")) ∧
      (∀ blockHeight, verifierSetStatus exampleExternals s exampleVerifierSet blockHeight =
          .error (.panic "invalid invariant: content mismatch with the stored one")) := by
  have hvalues : exampleVerifierSet.values = rekeyedVerifierSet.values := rfl
  have hne : rekeyedVerifierSet ≠ exampleVerifierSet := by decide
  exact ⟨hvalues, rfl, rfl, hne, rfl,
    rekeyed_verifier_set_blocks_verification exampleExternals "governance" ⟨"verifier", 1, by decide⟩
      exampleMessage.ccId.messageId exampleVerifierSet rekeyedVerifierSet hvalues rfl rfl hne rfl⟩

end Amplifier.VotingVerifier
