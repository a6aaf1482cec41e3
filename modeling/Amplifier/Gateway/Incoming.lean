import Amplifier.Gateway.Contract
import Amplifier.VotingVerifier.Finality

/-!
# Amplifier.Gateway.Incoming — a gateway over its voting verifier

A chain's gateway is instantiated with the chain's voting verifier as its
verifier: its `MessagesStatus` query is the voting verifier's
`messages_status`, each message with its `message_status` at the current block.
Over that query, a `RouteMessages` call from anyone but the router forwards to
the router exactly the submitted messages the voting verifier reports as
succeeded on the source chain; and the voting verifier keeps reporting each of
them so, at every later storage and height (`routed_messages_stay_verified`).
So a message the router has received from a gateway was verified for good.
-/

namespace Amplifier.Gateway

open WasmStd RouterApi

/-- The voting verifier's `messages_status` at storage `vs` and block height `h`,
as the gateway receives it: each message with its `message_status`, nothing when
one of the statuses fails. -/
def votingVerifierStatus (vext : VotingVerifier.Externals) (vs : VotingVerifier.State) (h : ℕ)
    (msgs : List Message) : Option (List MessageStatus) :=
  (msgs.mapM fun m => MessageStatus.mk m <$> VotingVerifier.messageStatus vext vs m h).toOption

/-- The gateway's externals over a voting verifier. -/
def overVotingVerifier (keccak256 : ByteArray → Hash) (vext : VotingVerifier.Externals)
    (vs : VotingVerifier.State) (h : ℕ) : Externals :=
  ⟨keccak256, votingVerifierStatus vext vs h⟩

section Query

variable {vext : VotingVerifier.Externals} {vs : VotingVerifier.State} {h : ℕ}

theorem mapM_of_votingVerifierStatus {msgs : List Message} {statuses : List MessageStatus}
    (hq : votingVerifierStatus vext vs h msgs = some statuses) :
    (msgs.mapM fun m => MessageStatus.mk m <$> VotingVerifier.messageStatus vext vs m h) =
      .ok statuses := by
  unfold votingVerifierStatus at hq
  cases hm : msgs.mapM (fun m => MessageStatus.mk m <$> VotingVerifier.messageStatus vext vs m h)
  · simp [hm, Except.toOption] at hq
  · simp only [hm, Except.toOption, Option.some.injEq] at hq
    rw [hq]

/-- The messages the query reports with a status are those whose
`message_status` is that status, in the order they were submitted. -/
theorem withStatus_votingVerifierStatus {msgs : List Message} {statuses : List MessageStatus}
    (hq : votingVerifierStatus vext vs h msgs = some statuses) (status : VerificationStatus) :
    withStatus statuses status =
      msgs.filter fun m => (VotingVerifier.messageStatus vext vs m h).toOption = some status := by
  have hall := mapM_eq_ok.mp (mapM_of_votingVerifierStatus hq)
  clear hq
  induction hall with
  | nil => rfl
  | @cons m st msgs statuses hm _ ih =>
      obtain ⟨s', hs', rfl⟩ := map_eq_ok.mp hm
      have hopt : (VotingVerifier.messageStatus vext vs m h).toOption = some s' := by
        rw [hs']
        rfl
      rw [List.filter_cons, hopt, ← ih]
      by_cases hss : s' = status <;> simp [withStatus, hss]

end Query

/-- A message status read as succeeded is read so from every later storage of a
reachable voting verifier, at every height. -/
theorem messageStatus_succeeded_later {vext : VotingVerifier.Externals} {governance : String}
    {vconfig : VotingVerifier.Config} {vs t : VotingVerifier.State}
    (hvs : Reachable (VotingVerifier.executeAdmissible vext)
      (VotingVerifier.instantiate governance vconfig) vs)
    (hlater : Later (VotingVerifier.executeAdmissible vext) vs t) {m : Message} {h : ℕ}
    (hst : VotingVerifier.messageStatus vext vs m h = .ok .succeededOnSourceChain) (h' : ℕ) :
    VotingVerifier.messageStatus vext t m h' = .ok .succeededOnSourceChain := by
  obtain ⟨v, hv, hnf, hset⟩ := VotingVerifier.settled_of_verificationStatus hst rfl
  -- the stored entry and its poll's result are what settles the status
  have hset' := (Later.preserves (VotingVerifier.Inv vext)
    (fun s => VotingVerifier.Settled s (s.pollMessages.lookup (m.hash vext.keccak256)) m v)
    (fun _ _ _ _ hi hstep => VotingVerifier.inv_step hi hstep)
    (fun _ _ _ _ hi hP hstep => VotingVerifier.messageSettled_step hi hstep hnf hP) hlater
    (VotingVerifier.reachable_inv hvs) hset).2
  rw [hv]
  exact VotingVerifier.verificationStatus_of_settled hset' h'

theorem routed_messages_stay_verified (keccak256 : ByteArray → Hash)
    (vext : VotingVerifier.Externals) (governance : String) (vconfig : VotingVerifier.Config)
    {vs : VotingVerifier.State}
    (hvs : Reachable (VotingVerifier.executeAdmissible vext)
      (VotingVerifier.instantiate governance vconfig) vs) (h : ℕ) {msgs : List Message}
    {r : Response} (hroute : routeIncomingMessages (overVotingVerifier keccak256 vext vs h) msgs = .ok r) :
    r.messages = sendIfNonempty .routeMessages (msgs.filter fun m =>
      (VotingVerifier.messageStatus vext vs m h).toOption = some .succeededOnSourceChain) ∧
    ∀ routed, .routeMessages routed ∈ r.messages → ∀ m ∈ routed, m ∈ msgs ∧
      ∀ t, Later (VotingVerifier.executeAdmissible vext) vs t → ∀ h',
        VotingVerifier.messageStatus vext t m h' = .ok .succeededOnSourceChain := by
  obtain ⟨-, statuses, hq, rfl⟩ := routeIncomingMessages_eq_ok.mp hroute
  rw [withStatus_votingVerifierStatus hq]
  refine ⟨rfl, ?_⟩
  intro routed hmem m hm
  -- the one message sent carries the filtered batch
  have hrouted : routed = msgs.filter fun m =>
      (VotingVerifier.messageStatus vext vs m h).toOption = some .succeededOnSourceChain := by
    unfold sendIfNonempty at hmem
    split_ifs at hmem <;> simp_all
  subst hrouted
  obtain ⟨hmsgs, hsucc⟩ := List.mem_filter.mp hm
  have hst : VotingVerifier.messageStatus vext vs m h = .ok .succeededOnSourceChain := by
    cases hs : VotingVerifier.messageStatus vext vs m h <;> simp_all [Except.toOption]
  exact ⟨hmsgs, fun t hlater h' => messageStatus_succeeded_later hvs hlater hst h'⟩

/-- Over the voting verifier's run in which `exampleMessage` is voted succeeded,
a chain's `RouteMessages` of it at height 102 sends it to the router, and it
stays verified at every later storage. -/
theorem routed_messages_stay_verified_after_vote :
    ∃ vs r, Reachable (VotingVerifier.executeAdmissible VotingVerifier.exampleExternals)
        (VotingVerifier.instantiate "governance" VotingVerifier.exampleConfig) vs ∧
      routeIncomingMessages (overVotingVerifier VotingVerifier.exampleExternals.keccak256
        VotingVerifier.exampleExternals vs 102) [VotingVerifier.exampleMessage] = .ok r ∧
      r.messages = [.routeMessages [VotingVerifier.exampleMessage]] ∧
      ∀ t, Later (VotingVerifier.executeAdmissible VotingVerifier.exampleExternals) vs t → ∀ h',
        VotingVerifier.messageStatus VotingVerifier.exampleExternals t
          VotingVerifier.exampleMessage h' = .ok .succeededOnSourceChain := by
  obtain ⟨s, r₀, vs, r₁, hverify, hvote, -, hstatus⟩ := VotingVerifier.exampleVote_commits
  have hreach : Reachable (VotingVerifier.executeAdmissible VotingVerifier.exampleExternals)
      (VotingVerifier.instantiate "governance" VotingVerifier.exampleConfig) vs :=
    .step (.step .init hverify) hvote
  -- the voting verifier reports the message as succeeded, so the gateway routes it
  have hroute : routeIncomingMessages (overVotingVerifier VotingVerifier.exampleExternals.keccak256
      VotingVerifier.exampleExternals vs 102) [VotingVerifier.exampleMessage] =
        .ok ⟨[.routeMessages [VotingVerifier.exampleMessage]],
          [.routing VotingVerifier.exampleMessage]⟩ := by
    simp [routeIncomingMessages, apply, checkForDuplicates, overVotingVerifier,
      votingVerifierStatus, hstatus, okOr, route, groupByStatus, withStatus, statusOrder,
      sendIfNonempty, filterRoutableMessages, intoRouteEvents, bind, Except.bind, pure,
      Except.pure, Except.toOption]
  obtain ⟨-, hkeep⟩ := routed_messages_stay_verified VotingVerifier.exampleExternals.keccak256
    VotingVerifier.exampleExternals "governance" VotingVerifier.exampleConfig hreach 102 hroute
  exact ⟨vs, _, hreach, hroute, rfl, (hkeep [VotingVerifier.exampleMessage] (by simp)
    VotingVerifier.exampleMessage (by simp)).2⟩

end Amplifier.Gateway
