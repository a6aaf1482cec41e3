import Amplifier.WasmStd.Voting
import Amplifier.Multisig.VerifierSet

/-!
# Amplifier.VotingVerifier.State — storage and queries of the voting-verifier

The voting-verifier polls the verifiers of one source chain on messages and on
verifier-set rotations. Its storage (`state.rs`):

* `POLL_ID` — the counter of polls, `pollId`;
* `POLLS` — each poll by id, a `WeightedPoll` tagged with what it is about;
* `VOTES` — the votes each verifier cast in each poll;
* `poll_messages` — a `PollContent` per message, keyed by the message's hash: the
  message, its poll and its index in the poll. Its multi-index by
  `(poll id, index)` is not stored separately here; `loadMessage` and
  `loadMessages` range over the entries as the index does;
* `poll_verifier_sets` — the same for verifier sets, indexed by poll id.

A handler either commits or fails; a `Failure` is a returned `ContractError` or a
panic (an `expect` or `assert_eq!` that fails), and both leave the storage as it
was. The queries (`query.rs`) read the storage: `messageStatus` and
`verifierSetStatus` through `verificationStatus`, `pollResponse` through the
two multi-indices.

What the contract takes from outside the repository is a parameter
(`Externals`): Keccak-256, the check of a source address against the configured
`AddressFormat`, and `verify_msg_id` against the configured `MessageIdFormat`.
-/

namespace Amplifier.VotingVerifier

open WasmStd RouterApi Multisig

/-- `Config`: the fields the handlers read. The service registry, the service
name, the rewards contract and the two formats are fixed at instantiation; the
formats enter through `Externals`. -/
structure Config where
  sourceGatewayAddress : String
  votingThreshold : MajorityThreshold
  blockExpiry : {n : ℕ // 0 < n}
  confirmationHeight : ℕ
  sourceChain : ChainName

/-- What the contract takes from outside the repository. -/
structure Externals where
  /-- Keccak-256, for `Message::hash` and `VerifierSet::hash`. -/
  keccak256 : ByteArray → Hash
  /-- `validate_address` against the configured `AddressFormat`. -/
  isValidAddress : String → Bool
  /-- `verify_msg_id` against the configured `MessageIdFormat`. -/
  isValidMessageId : String → Bool

/-- `Poll`: a weighted poll on a batch of messages or on one verifier set. -/
inductive Poll where
  | messages (poll : WeightedPoll String)
  | confirmVerifierSet (poll : WeightedPoll String)

/-- `Poll::weighted_poll`. -/
def Poll.weightedPoll : Poll → WeightedPoll String
  | .messages poll => poll
  | .confirmVerifierSet poll => poll

/-- `Poll::try_map`: apply a fallible update to the weighted poll, keeping the tag. -/
def Poll.tryMap {ε : Type} (f : WeightedPoll String → Except ε (WeightedPoll String)) :
    Poll → Except ε Poll
  | .messages poll => .messages <$> f poll
  | .confirmVerifierSet poll => .confirmVerifierSet <$> f poll

/-- `PollContent`: what was polled, in which poll, at which index. -/
structure PollContent (α : Type) where
  content : α
  pollId : ℕ
  indexInPoll : ℕ

/-- The contract's storage. -/
structure State where
  config : Config
  governance : String
  pollId : ℕ
  polls : Map ℕ Poll
  votes : Map (ℕ × String) (List Vote)
  pollMessages : Map Hash (PollContent Message)
  pollVerifierSets : Map Hash (PollContent VerifierSet)

/-- `instantiate`: the configuration and the governance address, nothing polled yet. -/
def instantiate (governance : String) (config : Config) : State where
  config := config
  governance := governance
  pollId := 0
  polls := ∅
  votes := ∅
  pollMessages := ∅
  pollVerifierSets := ∅

/-- `ContractError`, with the errors of the packages it wraps that the handlers
can return. -/
inductive ContractError where
  | failedToBuildSnapshot
  | nonEmptyError
  | overflow
  | emptyMessages
  | sourceChainMismatch (sourceChain : ChainName)
  | invalidMessageId (messageId : String)
  | pollNotFound
  | voteError (err : VotingError)
  | invalidSourceAddress
  | storageError
  | permissionDenied

/-- How a handler or a query fails: with an error, or with a panic and its message. -/
inductive Failure where
  | error (err : ContractError)
  | panic (msg : String)

/-! ## The multi-indices -/

/-- `PollMessagesIndex::load_message`: the message at an index of a poll; more
than one is a panic. -/
def loadMessage (s : State) (pollId indexInPoll : ℕ) : Except Failure (Option Message) :=
  match s.pollMessages.entries.filter
      (fun e => decide (e.2.pollId = pollId ∧ e.2.indexInPoll = indexInPoll)) with
  | [] => .ok none
  | [e] => .ok (some e.2.content)
  | _ => .error (.panic "More than one message for poll_id and index_in_poll")

/-- `PollMessagesIndex::load_messages`: the messages of a poll, by index. -/
def loadMessages (s : State) (pollId : ℕ) : List Message :=
  ((s.pollMessages.entries.filter fun e => decide (e.2.pollId = pollId)).mergeSort
      fun e e' => decide (e.2.indexInPoll ≤ e'.2.indexInPoll)).map fun e => e.2.content

/-- `PollVerifierSetsIndex::load_verifier_set`: the verifier set of a poll; more
than one is a panic. -/
def loadVerifierSet (s : State) (pollId : ℕ) : Except Failure (Option VerifierSet) :=
  match s.pollVerifierSets.entries.filter (fun e => decide (e.2.pollId = pollId)) with
  | [] => .ok none
  | [e] => .ok (some e.2.content)
  | _ => .error (.panic "More than one verifier_set for poll_id")

/-! ## Queries -/

/-- `voting_completed`: the poll has expired or has been ended. -/
def votingCompleted (poll : Poll) (curBlockHeight : ℕ) : Bool :=
  match poll.weightedPoll.status curBlockHeight with
  | .expired | .finished => true
  | .inProgress => false

/-- `verification_status`: the stored content must be the queried one; its poll's
result at its index decides the status, and without a result the poll's being
over decides between `FailedToVerify` and `InProgress`. -/
def verificationStatus {α : Type} [DecidableEq α] (s : State)
    (storedPollContent : Option (PollContent α)) (content : α) (curBlockHeight : ℕ) :
    Except Failure VerificationStatus :=
  match storedPollContent with
  | none => .ok .unknown
  | some stored =>
      if stored.content ≠ content then
        .error (.panic "invalid invariant: content mismatch with the stored one")
      else
        match s.polls.lookup stored.pollId with
        | none => .error (.panic "invalid invariant: content's poll not found")
        | some poll =>
            match poll.weightedPoll.consensus stored.indexInPoll with
            | .error _ => .error (.panic "invalid invariant: message not found in poll")
            | .ok (some vote) => .ok (VerificationStatus.ofVote vote)
            | .ok none =>
                if votingCompleted poll curBlockHeight then .ok .failedToVerify
                else .ok .inProgress

/-- `message_status`. -/
def messageStatus (ext : Externals) (s : State) (message : Message) (curBlockHeight : ℕ) :
    Except Failure VerificationStatus :=
  verificationStatus s (s.pollMessages.lookup (message.hash ext.keccak256)) message curBlockHeight

/-- `verifier_set_status`. -/
def verifierSetStatus (ext : Externals) (s : State) (verifierSet : VerifierSet)
    (curBlockHeight : ℕ) : Except Failure VerificationStatus :=
  verificationStatus s (s.pollVerifierSets.lookup (verifierSet.hash ext.keccak256)) verifierSet
    curBlockHeight

/-- `PollData`. -/
inductive PollData where
  | messages (messages : List Message)
  | verifierSet (verifierSet : VerifierSet)

/-- `PollResponse`. -/
structure PollResponse where
  poll : WeightedPoll String
  data : PollData
  status : PollStatus

/-- `poll_response`: a messages poll must have one message per tally, and a
verifier-set poll its verifier set. -/
def pollResponse (s : State) (currentBlockHeight pollId : ℕ) : Except Failure PollResponse :=
  match s.polls.lookup pollId with
  | none => .error (.error .pollNotFound)
  | some (.messages poll) =>
      let msgs := loadMessages s pollId
      if poll.tallies.length ≠ msgs.length then
        .error (.panic ("data inconsistency for number of messages in poll " ++ toString poll.pollId))
      else .ok ⟨poll, .messages msgs, poll.status currentBlockHeight⟩
  | some (.confirmVerifierSet poll) => do
      match ← loadVerifierSet s pollId with
      | none => .error (.panic "verifier set not found in poll")
      | some verifierSet => .ok ⟨poll, .verifierSet verifierSet, poll.status currentBlockHeight⟩

end Amplifier.VotingVerifier
