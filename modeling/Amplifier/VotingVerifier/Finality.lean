import Amplifier.VotingVerifier.Invariant

/-!
# Amplifier.VotingVerifier.Finality — a confirmed status never changes

Once `message_status` or `verifier_set_status` reports that the source chain
succeeded or failed, it reports the same at every later storage and height
(`verification_finality`). Two facts carry it:

* the result of a poll at an index never changes once reached
  (`resultAt_later`, from the invariant);
* the content store entry a confirmed status is read from is never moved:
  `verify_messages` and `verify_verifier_set` only save content whose status they
  read as not confirmed, and any other content under the same hash makes that
  read panic on the content check (`messageSettled_step`,
  `verifierSetSettled_step`). So no assumption on Keccak-256 is needed.

Votes emit a `QuorumReached` event for each index whose result they create. The
index of a poll gets at most one over a whole run, since an index with a result
never gets another, and the event's status is what `message_status` reports for
its message from then on (`verification_finality`, second part).
-/

namespace Amplifier.VotingVerifier

open WasmStd RouterApi Multisig

/-! ## Settled content -/

/-- Content `x` is stored, in `stored`, with a poll whose result at its index is `v`. -/
def Settled {α : Type} (s : State) (stored : Option (PollContent α)) (x : α) (v : Vote) : Prop :=
  ∃ c, stored = some c ∧ c.content = x ∧ resultAt s c.pollId c.indexInPoll = some v

theorem toBePolled_ofVote {v : Vote} (hv : v ≠ .notFound) :
    toBePolled (.ofVote v) = false := by
  cases v <;> simp_all [toBePolled, VerificationStatus.ofVote]

theorem isConfirmed_ofVote {v : Vote} (hv : v ≠ .notFound) :
    (VerificationStatus.ofVote v).isConfirmed = true := by
  cases v <;> simp_all [VerificationStatus.isConfirmed, VerificationStatus.ofVote]

section Status

variable {α : Type} [DecidableEq α] {s : State} {x : α}

/-- Settled content has the status of its result, at every height. -/
theorem verificationStatus_of_settled {stored : Option (PollContent α)} {v : Vote}
    (h : Settled s stored x v) (curBlockHeight : ℕ) :
    verificationStatus s stored x curBlockHeight = .ok (.ofVote v) := by
  obtain ⟨c, rfl, rfl, hres⟩ := h
  obtain ⟨poll, hpoll, hv⟩ := resultAt_eq_some.mp hres
  have hcons := (WeightedPoll.consensus_eq_ok_iff _ _ _).mpr hv
  simp [verificationStatus, hpoll, hcons]

/-- A status read from stored content passed the content check. -/
theorem content_of_verificationStatus {c : PollContent α} {curBlockHeight : ℕ}
    {status : VerificationStatus}
    (h : verificationStatus s (some c) x curBlockHeight = .ok status) : c.content = x := by
  by_contra hne
  simp [verificationStatus, hne] at h

/-- A confirmed status is read from settled content. -/
theorem settled_of_verificationStatus {stored : Option (PollContent α)} {curBlockHeight : ℕ}
    {status : VerificationStatus} (h : verificationStatus s stored x curBlockHeight = .ok status)
    (hconf : status.isConfirmed = true) :
    ∃ v, status = .ofVote v ∧ v ≠ .notFound ∧ Settled s stored x v := by
  cases stored with
  | none =>
      simp only [verificationStatus, Except.ok.injEq] at h
      subst h
      simp [VerificationStatus.isConfirmed] at hconf
  | some c =>
      have hcontent := content_of_verificationStatus h
      simp only [verificationStatus, hcontent, ne_eq, not_true_eq_false, ite_false] at h
      split at h
      · simp at h
      · rename_i poll hpoll
        split at h
        · simp at h
        · rename_i v hcons
          simp only [Except.ok.injEq] at h
          subst h
          refine ⟨v, rfl, fun hnf => by simp [hnf, VerificationStatus.ofVote,
            VerificationStatus.isConfirmed] at hconf, c, rfl, hcontent, ?_⟩
          exact resultAt_eq_some.mpr ⟨poll, hpoll, (WeightedPoll.consensus_eq_ok_iff _ _ _).mp hcons⟩
        · -- without a result the status is `FailedToVerify` or `InProgress`
          split at h <;> simp only [Except.ok.injEq] at h <;> subst h <;>
            simp [VerificationStatus.isConfirmed] at hconf

end Status

/-! ## Settled content stays -/

section Step

variable {ext : Externals} {s s' : State}

/-- A message settled on a source-chain outcome keeps its entry and its result. -/
theorem messageSettled_step (hinv : Inv ext s) {c : AdmissibleCall} {r : Response}
    (h : executeAdmissible ext s c = .ok (s', r)) {m : Message} {v : Vote} (hv : v ≠ .notFound)
    (hset : Settled s (s.pollMessages.lookup (m.hash ext.keccak256)) m v) :
    Settled s' (s'.pollMessages.lookup (m.hash ext.keccak256)) m v := by
  obtain ⟨cnt, hlook, hcontent, hres⟩ := hset
  refine ⟨cnt, ?_, hcontent, resultAt_step hinv h hres⟩
  rcases pollMessages_of_execute h with hsame | ⟨msgs, hmsgs, hsave⟩
  · rw [hsame, hlook]
  · rw [hsave, lookup_savePollMessages_of_forall_ne, hlook]
    -- a message saved under the same hash would have read `m`'s entry and status
    intro m' hm' heq
    obtain ⟨status, hst, htbp⟩ := hmsgs m' hm'
    unfold messageStatus at hst
    rw [heq, hlook] at hst
    have hm : m' = m := (content_of_verificationStatus hst).symm.trans hcontent
    subst hm
    rw [verificationStatus_of_settled ⟨cnt, rfl, hcontent, hres⟩, Except.ok.injEq] at hst
    rw [← hst, toBePolled_ofVote hv] at htbp
    exact Bool.false_ne_true htbp

/-- A verifier set settled on a source-chain outcome keeps its entry and its result. -/
theorem verifierSetSettled_step (hinv : Inv ext s) {c : AdmissibleCall} {r : Response}
    (h : executeAdmissible ext s c = .ok (s', r)) {vs : VerifierSet} {v : Vote}
    (hv : v ≠ .notFound)
    (hset : Settled s (s.pollVerifierSets.lookup (vs.hash ext.keccak256)) vs v) :
    Settled s' (s'.pollVerifierSets.lookup (vs.hash ext.keccak256)) vs v := by
  obtain ⟨cnt, hlook, hcontent, hres⟩ := hset
  refine ⟨cnt, ?_, hcontent, resultAt_step hinv h hres⟩
  rcases pollVerifierSets_of_execute h with hsame | ⟨vs', status, hst, hconf, hsave⟩
  · rw [hsame, hlook]
  · rw [hsave, AList.lookup_insert_ne, hlook]
    -- a set saved under the same hash would have read `vs`'s entry and status
    intro heq
    unfold verifierSetStatus at hst
    rw [← heq, hlook] at hst
    have hvs : vs' = vs := (content_of_verificationStatus hst).symm.trans hcontent
    subst hvs
    rw [verificationStatus_of_settled ⟨cnt, rfl, hcontent, hres⟩, Except.ok.injEq] at hst
    rw [← hst, isConfirmed_ofVote hv] at hconf
    cases hconf

end Step

/-! ## Quorum events -/

/-- Call `c` from `s` is a vote on poll `pollId` whose `quorum_events` hold, at
index `i`, a `QuorumReached` with this content and status. -/
def EmitsQuorumReached (s : State) (c : Call) (pollId i : ℕ) (content : QuorumContent)
    (status : VerificationStatus) : Prop :=
  ∃ votes s' events, c.msg = .vote pollId votes ∧
    tallyVote s c.blockHeight c.sender pollId votes = .ok (s', events) ∧
    events[i]? = some (some (.quorumReached content status pollId))

/-- The entry of `quorum_events` at an index is an event exactly where the results
difference has a result: the event of that result, with the content the
multi-index holds there. -/
theorem getElem?_quorumEvents {s : State} {pollId : ℕ} {poll : Poll} {difference : PollResults}
    {events : List (Option Event)} (h : quorumEvents s pollId poll difference = .ok events)
    {i : ℕ} {content : QuorumContent} {status : VerificationStatus}
    (he : events[i]? = some (some (.quorumReached content status pollId))) :
    ∃ v, difference[i]? = some (some v) ∧ status = .ofVote v ∧
      ∀ m, content = .message (some m) → loadMessage s pollId i = .ok (some m) := by
  obtain ⟨⟨entry, idx⟩, hat, hmake⟩ := getElem?_of_mapM_eq_ok h he
  rw [List.getElem?_zipIdx] at hat
  cases hd : difference[i]? with
  | none => simp [hd] at hat
  | some result =>
      simp only [hd, Option.map_some, Option.some.injEq, Prod.mk.injEq, Nat.zero_add] at hat
      obtain ⟨rfl, rfl⟩ := hat
      dsimp only at hmake
      cases poll with
      | messages p =>
          obtain ⟨msg, hmsg, hpure⟩ := bind_eq_ok.mp hmake
          cases result with
          | none => cases hpure
          | some v =>
              simp only [Option.map_some, pure, Except.pure, Except.ok.injEq, Option.some.injEq,
                Event.quorumReached.injEq] at hpure
              obtain ⟨rfl, rfl, -⟩ := hpure
              exact ⟨v, rfl, rfl, fun m hm => by cases hm; exact hmsg⟩
      | confirmVerifierSet p =>
          obtain ⟨vs, -, hpure⟩ := bind_eq_ok.mp hmake
          cases result with
          | none => cases hpure
          | some v =>
              simp only [Option.map_some, pure, Except.pure, Except.ok.injEq, Option.some.injEq,
                Event.quorumReached.injEq] at hpure
              obtain ⟨rfl, rfl, -⟩ := hpure
              exact ⟨v, rfl, rfl, fun m hm => by cases hm⟩

/-- A message the multi-index holds at an index of a poll is stored under its hash
with that poll and index. -/
theorem loadMessage_eq_some {ext : Externals} {s : State} {pollId i : ℕ} {m : Message}
    (h : loadMessage s pollId i = .ok (some m))
    (hkeyed : ∀ k c, s.pollMessages.lookup k = some c → k = c.content.hash ext.keccak256) :
    s.pollMessages.lookup (m.hash ext.keccak256) = some ⟨m, pollId, i⟩ := by
  unfold loadMessage at h
  split at h
  · cases h
  · rename_i e he
    simp only [Except.ok.injEq, Option.some.injEq] at h
    have hmem : e ∈ s.pollMessages.entries.filter
        (fun e => decide (e.2.pollId = pollId ∧ e.2.indexInPoll = i)) := by
      rw [he]
      exact List.mem_singleton_self e
    obtain ⟨hentry, hsel⟩ := List.mem_filter.mp hmem
    simp only [decide_eq_true_eq] at hsel
    have hlook : s.pollMessages.lookup e.1 = some e.2 := AList.mem_lookup_iff.mpr hentry
    rw [hkeyed _ _ hlook, h] at hlook
    rw [hlook]
    obtain ⟨key, content, pid, idx⟩ := e
    simp only at hsel h ⊢
    rw [h, hsel.1, hsel.2]
  · cases h

/-- What a vote's quorum event at an index says: the index had no result before
and has the event's result after, and a message content is stored under its
hash at that index. -/
theorem emits_spec {ext : Externals} {s s₁ : State} (hinv : Inv ext s) {c : Call} {r : Response}
    (h : execute ext s c = .ok (s₁, r)) {pollId i : ℕ} {content : QuorumContent}
    {status : VerificationStatus} (he : EmitsQuorumReached s c pollId i content status) :
    resultAt s pollId i = none ∧
    .quorumReached content status pollId ∈ r.events ∧
    ∃ v, status = .ofVote v ∧ resultAt s₁ pollId i = some v ∧
      ∀ m, content = .message (some m) →
        Settled s₁ (s₁.pollMessages.lookup (m.hash ext.keccak256)) m v := by
  obtain ⟨votes, s', events, hmsg, htally, hevent⟩ := he
  obtain ⟨poll, p', difference, hpoll, -, rfl, hdiff, hquorum⟩ := tallyVote_eq_ok htally
  obtain ⟨v, hdv, rfl, hload⟩ := getElem?_quorumEvents hquorum hevent
  obtain ⟨hafter, hbefore⟩ := PollResults.getElem?_difference hdiff hdv
  -- the committed call is this very vote
  rcases execute_eq_ok h with ⟨_, hc, -⟩ | ⟨_, _, hc, h⟩ | ⟨_, hc, -⟩ | ⟨_, _, hc, -⟩ |
      ⟨_, _, _, hc, -, -⟩ <;> rw [hc] at hmsg <;> try cases hmsg
  obtain ⟨s₂, events₂, htally₂, rfl, rfl⟩ := vote_eq_ok h
  rw [htally] at htally₂
  cases htally₂
  have hres₁ : resultAt { s with polls := s.polls.insert pollId (poll.withWeighted p') } pollId i =
      some v := resultAt_eq_some.mpr ⟨_, AList.lookup_insert _, by simpa using hafter⟩
  refine ⟨by simp [resultAt, hpoll, hbefore], ?_, v, rfl, hres₁, ?_⟩
  · -- the response lists `Voted` and then every event of `quorum_events`
    exact List.mem_cons_of_mem _
      (List.mem_filterMap.mpr ⟨_, List.mem_of_getElem? hevent, rfl⟩)
  · intro m hm
    -- the vote wrote neither store, so the entry is keyed by its message
    have hlook := loadMessage_eq_some (hload m hm) hinv.messagesKeyed
    exact ⟨⟨m, pollId, i⟩, hlook, rfl, hres₁⟩

/-! ## Finality -/

/-- **Finality of the voting-verifier.** In every storage reachable by admissible
calls:

* a status that confirms the source chain's outcome, for a message or for a
  verifier set, is the status at every later storage and every height;
* a vote's quorum event at an index of its poll is in the vote's response; no
  call from any later storage emits another one for that index; and for a
  message, the event's status is what `message_status` reports from then on,
  for good when it confirms the outcome. -/
theorem verification_finality (ext : Externals) (governance : String) (config : Config)
    {s : State} (hs : Reachable (executeAdmissible ext) (instantiate governance config) s) :
    (∀ t, Later (executeAdmissible ext) s t →
      (∀ m h status, status.isConfirmed = true → messageStatus ext s m h = .ok status →
        ∀ h', messageStatus ext t m h' = .ok status) ∧
      (∀ vs h status, status.isConfirmed = true → verifierSetStatus ext s vs h = .ok status →
        ∀ h', verifierSetStatus ext t vs h' = .ok status)) ∧
    (∀ (c : AdmissibleCall) s₁ r pollId i content status,
      executeAdmissible ext s c = .ok (s₁, r) →
      EmitsQuorumReached s c.1 pollId i content status →
      .quorumReached content status pollId ∈ r.events ∧
      (∀ t (c' : AdmissibleCall) content' status', Later (executeAdmissible ext) s₁ t →
        ¬ EmitsQuorumReached t c'.1 pollId i content' status') ∧
      (∀ m, content = .message (some m) →
        (∀ h, messageStatus ext s₁ m h = .ok status) ∧
        (status.isConfirmed = true → ∀ t h, Later (executeAdmissible ext) s₁ t →
          messageStatus ext t m h = .ok status))) := by
  have hinv := reachable_inv hs
  refine ⟨fun t hst => ⟨?_, ?_⟩, ?_⟩
  · -- a confirmed message status: its entry and result stay
    intro m h status hconf hstatus
    obtain ⟨v, rfl, hv, hset⟩ := settled_of_verificationStatus hstatus hconf
    have hset' := (Later.preserves (Inv ext)
      (fun s => Settled s (s.pollMessages.lookup (m.hash ext.keccak256)) m v)
      (fun _ _ _ _ hi h => inv_step hi h)
      (fun _ _ _ _ hi hP h => messageSettled_step hi h hv hP) hst hinv hset).2
    exact fun h' => verificationStatus_of_settled hset' h'
  · -- a confirmed verifier-set status: likewise
    intro vs h status hconf hstatus
    obtain ⟨v, rfl, hv, hset⟩ := settled_of_verificationStatus hstatus hconf
    have hset' := (Later.preserves (Inv ext)
      (fun s => Settled s (s.pollVerifierSets.lookup (vs.hash ext.keccak256)) vs v)
      (fun _ _ _ _ hi h => inv_step hi h)
      (fun _ _ _ _ hi hP h => verifierSetSettled_step hi h hv hP) hst hinv hset).2
    exact fun h' => verificationStatus_of_settled hset' h'
  · intro c s₁ r pollId i content status h he
    obtain ⟨hbefore, hmem, v, rfl, hafter, hsettled⟩ := emits_spec hinv h he
    have hinv₁ : Inv ext s₁ := inv_step hinv h
    refine ⟨hmem, ?_, ?_⟩
    · -- a later event at the index would need the index to have no result
      intro t c' content' status' hst he'
      obtain ⟨ht, -⟩ : Inv ext t ∧ True :=
        Later.preserves (Inv ext) (fun _ => True) (fun _ _ _ _ hi h => inv_step hi h)
          (fun _ _ _ _ _ _ _ => trivial) hst hinv₁ trivial
      obtain ⟨votes, t', events, hmsg, htally, hevent⟩ := he'
      obtain ⟨poll, p', difference, hpoll, -, -, hdiff, hquorum⟩ := tallyVote_eq_ok htally
      obtain ⟨w, hdw, -, -⟩ := getElem?_quorumEvents hquorum hevent
      obtain ⟨-, hnone⟩ := PollResults.getElem?_difference hdiff hdw
      have hlater := resultAt_later hinv₁ hst hafter
      simp [resultAt, hpoll, hnone] at hlater
    · intro m hm
      have hset := hsettled m hm
      refine ⟨fun h => verificationStatus_of_settled hset h, ?_⟩
      intro hconf t h hst
      have hv : v ≠ .notFound := by
        rintro rfl
        simp [VerificationStatus.ofVote, VerificationStatus.isConfirmed] at hconf
      have hset' := (Later.preserves (Inv ext)
        (fun s => Settled s (s.pollMessages.lookup (m.hash ext.keccak256)) m v)
        (fun _ _ _ _ hi h => inv_step hi h)
        (fun _ _ _ _ hi hP h => messageSettled_step hi h hv hP) hst hinv₁ hset).2
      exact verificationStatus_of_settled hset' h

/-! ## A run that reaches quorum -/

/-- The one verifier of the run, with weight one. -/
def exampleVerifier : Participant String := ⟨"verifier", 1, by decide⟩

/-- A relayer asks for `exampleMessage` to be verified at height 100, with
`exampleVerifier` the only active verifier. -/
def exampleVerifyCall : AdmissibleCall :=
  ⟨⟨100, "relayer", some [exampleVerifier], .verifyMessages [exampleMessage]⟩, by
    rintro participants ⟨⟩
    decide⟩

/-- The verifier votes at height 101 that the message happened on the source chain. -/
def exampleVoteCall : AdmissibleCall :=
  ⟨⟨101, "verifier", none, .vote 1 [.succeededOnChain]⟩, by rintro _ ⟨⟩⟩

/-- The run commits: the relayer's call opens poll 1 on the message, the vote
reaches the poll's quorum of one at index 0, and the message then reads as
succeeded. -/
theorem exampleVote_commits : ∃ s r₀ s₁ r,
    executeAdmissible exampleExternals (instantiate "governance" exampleConfig)
      exampleVerifyCall = .ok (s, r₀) ∧
    executeAdmissible exampleExternals s exampleVoteCall = .ok (s₁, r) ∧
    EmitsQuorumReached s exampleVoteCall.1 1 0 (.message (some exampleMessage))
      .succeededOnSourceChain ∧
    messageStatus exampleExternals s₁ exampleMessage 102 = .ok .succeededOnSourceChain :=
  ⟨_, _, _, _, rfl, rfl, ⟨_, _, _, rfl, rfl, rfl⟩, rfl⟩

/-- After the relayer's call opens poll 1, the verifier's vote reaches the quorum:
the vote's response carries the event, no later call emits another for the index,
and the message stays verified at every later storage. -/
theorem verification_finality_after_vote :
    ∃ s s₁ r, Reachable (executeAdmissible exampleExternals)
        (instantiate "governance" exampleConfig) s ∧
      executeAdmissible exampleExternals s exampleVoteCall = .ok (s₁, r) ∧
      EmitsQuorumReached s exampleVoteCall.1 1 0 (.message (some exampleMessage))
        .succeededOnSourceChain ∧
      .quorumReached (.message (some exampleMessage)) .succeededOnSourceChain 1 ∈ r.events ∧
      (∀ t (c' : AdmissibleCall) content' status', Later (executeAdmissible exampleExternals) s₁ t →
        ¬ EmitsQuorumReached t c'.1 1 0 content' status') ∧
      ∀ t h, Later (executeAdmissible exampleExternals) s₁ t →
        messageStatus exampleExternals t exampleMessage h = .ok .succeededOnSourceChain := by
  obtain ⟨s, r₀, s₁, r, hverify, hvote, hemits, -⟩ := exampleVote_commits
  have hreach : Reachable (executeAdmissible exampleExternals)
      (instantiate "governance" exampleConfig) s := .step .init hverify
  obtain ⟨hmem, hlater, hmsg⟩ := (verification_finality exampleExternals "governance"
    exampleConfig hreach).2 exampleVoteCall s₁ r 1 0 _ _ hvote hemits
  exact ⟨s, s₁, r, hreach, hvote, hemits, hmem, hlater, (hmsg exampleMessage rfl).2 rfl⟩

end Amplifier.VotingVerifier
