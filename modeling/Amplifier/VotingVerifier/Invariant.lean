import Amplifier.VotingVerifier.Spec
import Amplifier.WasmStd.TallyLaw

/-!
# Amplifier.VotingVerifier.Invariant — what every reachable storage satisfies

Runs of the voting-verifier in which the service registry answers every
`ActiveVerifiers` query with distinct verifiers whose weights sum to at most
`Uint128::MAX` (`Call.Admissible`). In every storage such a run reaches
(`reachable_inv`):

* every poll is sound — at most one vote can hold its quorum at an index
  (`WeightedPoll.Sound`);
* no poll has an id above the counter, so a new poll never lands on an old one;
* every `PollContent` is stored under the hash of its content.

From this, a result reached at an index of a poll stays the result in every
later storage (`resultAt_later`): votes can only add weight, `end_poll` does
not touch the tallies, and new polls take fresh ids.
-/

namespace Amplifier.VotingVerifier

open WasmStd RouterApi Multisig

/-! ## Admissible runs -/

/-- The service registry's answer to `ActiveVerifiers`, if any, lists each
verifier once, and the weights fit in a `Uint128`. -/
def Call.Admissible (c : Call) : Prop :=
  ∀ participants, c.activeVerifiers = some participants →
    (participants.map (·.address)).Nodup ∧ weightSum participants ≤ uint128Max

/-- A call with an admissible answer from the service registry. -/
abbrev AdmissibleCall := {c : Call // c.Admissible}

/-- `execute` on admissible calls. -/
def executeAdmissible (ext : Externals) (s : State) (c : AdmissibleCall) :
    Except Failure (State × Response) :=
  execute ext s c.1

/-! ## Results by index -/

/-- The result of poll `pollId` at index `i`, if the poll exists and has one. -/
def resultAt (s : State) (pollId i : ℕ) : Option Vote :=
  match s.polls.lookup pollId with
  | some poll => (poll.weightedPoll.results[i]?).join
  | none => none

theorem resultAt_eq_some {s : State} {pollId i : ℕ} {v : Vote} :
    resultAt s pollId i = some v ↔
      ∃ poll, s.polls.lookup pollId = some poll ∧ poll.weightedPoll.results[i]? = some (some v) := by
  unfold resultAt
  split
  · rename_i poll hpoll
    simp only [Option.join_eq_some_iff, hpoll, Option.some.injEq, exists_eq_left']
  · rename_i hnone
    simp [hnone]

/-- The invariant of the voting-verifier's storage. -/
structure Inv (ext : Externals) (s : State) : Prop where
  sound : ∀ id poll, s.polls.lookup id = some poll → poll.weightedPoll.Sound
  id_le : ∀ id poll, s.polls.lookup id = some poll → id ≤ s.pollId
  messagesKeyed : ∀ k c, s.pollMessages.lookup k = some c → k = c.content.hash ext.keccak256
  verifierSetsKeyed :
    ∀ k c, s.pollVerifierSets.lookup k = some c → k = c.content.hash ext.keccak256

/-! ## Saving the messages of a poll -/

theorem lookup_savePollMessages_of_forall_ne {ext : Externals}
    {pollMessages : Map Hash (PollContent Message)} {id : ℕ} {k : Hash} :
    ∀ {idx : ℕ} {msgs : List Message}, (∀ m ∈ msgs, m.hash ext.keccak256 ≠ k) →
      (savePollMessages ext pollMessages id idx msgs).lookup k = pollMessages.lookup k := by
  intro idx msgs
  induction msgs generalizing pollMessages idx with
  | nil => intro _; rfl
  | cons m rest ih =>
      intro hne
      rw [savePollMessages, ih (fun m' hm' => hne m' (List.mem_cons_of_mem _ hm')),
        AList.lookup_insert_ne (Ne.symm (hne m List.mem_cons_self))]

/-- Saving under the content's hash keeps every entry keyed by its content. -/
theorem savePollMessages_keyed {ext : Externals} {id : ℕ} :
    ∀ {pollMessages : Map Hash (PollContent Message)} {idx : ℕ} {msgs : List Message},
      (∀ k c, pollMessages.lookup k = some c → k = c.content.hash ext.keccak256) →
      ∀ k c, (savePollMessages ext pollMessages id idx msgs).lookup k = some c →
        k = c.content.hash ext.keccak256 := by
  intro pollMessages idx msgs
  induction msgs generalizing pollMessages idx with
  | nil => exact fun h => h
  | cons m rest ih =>
      intro hkeyed
      apply ih
      intro k c hk
      rcases Map.lookup_insert_eq_some.mp hk with ⟨rfl, rfl⟩ | ⟨-, hk⟩
      · rfl
      · exact hkeyed k c hk

/-! ## One step -/

section Step

variable {ext : Externals} {s s' : State}

/-- A new poll under the next id keeps the poll part of the invariant. -/
theorem inv_polls_insert_new (hinv : Inv ext s) (poll : Poll) (hsound : poll.weightedPoll.Sound) :
    (∀ id p, (s.polls.insert (s.pollId + 1) poll).lookup id = some p → p.weightedPoll.Sound) ∧
    (∀ id p, (s.polls.insert (s.pollId + 1) poll).lookup id = some p → id ≤ s.pollId + 1) := by
  constructor
  · intro id p hp
    rcases Map.lookup_insert_eq_some.mp hp with ⟨-, rfl⟩ | ⟨-, hp⟩
    · exact hsound
    · exact hinv.sound id p hp
  · intro id p hp
    rcases Map.lookup_insert_eq_some.mp hp with ⟨rfl, -⟩ | ⟨-, hp⟩
    · exact le_refl _
    · exact Nat.le_succ_of_le (hinv.id_le id p hp)

/-- An existing poll saved back after a sound update keeps the poll part. -/
theorem inv_polls_insert_old (hinv : Inv ext s) {pollId : ℕ} {poll : Poll}
    (hold : s.polls.lookup pollId = some poll) {p' : WeightedPoll String} (hsound : p'.Sound) :
    (∀ id p, (s.polls.insert pollId (poll.withWeighted p')).lookup id = some p →
      p.weightedPoll.Sound) ∧
    (∀ id p, (s.polls.insert pollId (poll.withWeighted p')).lookup id = some p → id ≤ s.pollId) := by
  constructor
  · intro id p hp
    rcases Map.lookup_insert_eq_some.mp hp with ⟨-, rfl⟩ | ⟨-, hp⟩
    · simpa using hsound
    · exact hinv.sound id p hp
  · intro id p hp
    rcases Map.lookup_insert_eq_some.mp hp with ⟨rfl, -⟩ | ⟨-, hp⟩
    · exact hinv.id_le _ poll hold
    · exact hinv.id_le id p hp

theorem inv_verifyMessages (hinv : Inv ext s) {c : Call} (hadm : c.Admissible)
    {messages : List Message} {r : Response}
    (h : verifyMessages ext s c.blockHeight c.activeVerifiers messages = .ok (s', r)) :
    Inv ext s' := by
  rcases verifyMessages_eq_ok h with rfl | ⟨msgs, participants, expiresAt, -, -, hav, hne, -, rfl⟩
  · exact hinv
  obtain ⟨hnd, hmax⟩ := hadm participants hav
  obtain ⟨hsound, hle⟩ := inv_polls_insert_new hinv (.messages _)
    (WeightedPoll.sound_new _ s.config.votingThreshold hne hnd hmax expiresAt msgs.length)
  exact ⟨hsound, hle, savePollMessages_keyed hinv.messagesKeyed, hinv.verifierSetsKeyed⟩

theorem inv_verifyVerifierSet (hinv : Inv ext s) {c : Call} (hadm : c.Admissible)
    {messageId : NonemptyString} {verifierSet : VerifierSet} {r : Response}
    (h : verifyVerifierSet ext s c.blockHeight c.activeVerifiers messageId verifierSet =
      .ok (s', r)) :
    Inv ext s' := by
  rcases verifyVerifierSet_eq_ok h with
    rfl | ⟨-, participants, expiresAt, -, -, hav, hne, -, rfl⟩
  · exact hinv
  obtain ⟨hnd, hmax⟩ := hadm participants hav
  obtain ⟨hsound, hle⟩ := inv_polls_insert_new hinv (.confirmVerifierSet _)
    (WeightedPoll.sound_new _ s.config.votingThreshold hne hnd hmax expiresAt 1)
  refine ⟨hsound, hle, hinv.messagesKeyed, ?_⟩
  intro k c hk
  rcases Map.lookup_insert_eq_some.mp hk with ⟨rfl, rfl⟩ | ⟨-, hk⟩
  · rfl
  · exact hinv.verifierSetsKeyed k c hk

theorem inv_vote (hinv : Inv ext s) {blockHeight : ℕ} {sender : String} {pollId : ℕ}
    {votes : List Vote} {r : Response} (h : vote s blockHeight sender pollId votes = .ok (s', r)) :
    Inv ext s' := by
  obtain ⟨s₁, events, htally, rfl, -⟩ := vote_eq_ok h
  obtain ⟨poll, p', -, hpoll, hcast, rfl, -, -⟩ := tallyVote_eq_ok htally
  obtain ⟨hsound, hle⟩ := inv_polls_insert_old hinv hpoll
    (WeightedPoll.castVote_sound (hinv.sound pollId poll hpoll) hcast)
  exact ⟨hsound, hle, hinv.messagesKeyed, hinv.verifierSetsKeyed⟩

theorem inv_endPoll (hinv : Inv ext s) {blockHeight pollId : ℕ} {r : Response}
    (h : endPoll s blockHeight pollId = .ok (s', r)) : Inv ext s' := by
  obtain ⟨poll, p', hpoll, hfinish, rfl⟩ := endPoll_eq_ok h
  obtain ⟨hsound, hle⟩ := inv_polls_insert_old hinv hpoll
    (WeightedPoll.finish_sound (hinv.sound pollId poll hpoll) hfinish)
  exact ⟨hsound, hle, hinv.messagesKeyed, hinv.verifierSetsKeyed⟩

/-- Every admissible call keeps the invariant. -/
theorem inv_step (hinv : Inv ext s) {c : AdmissibleCall} {r : Response}
    (h : executeAdmissible ext s c = .ok (s', r)) : Inv ext s' := by
  rcases execute_eq_ok h with ⟨_, -, h⟩ | ⟨_, _, -, h⟩ | ⟨_, -, h⟩ | ⟨_, _, -, h⟩ |
      ⟨_, _, _, -, -, h⟩
  · exact inv_endPoll hinv h
  · exact inv_vote hinv h
  · exact inv_verifyMessages hinv c.2 h
  · exact inv_verifyVerifierSet hinv c.2 h
  · -- governance changes the configuration only
    cases h
    exact ⟨hinv.sound, hinv.id_le, hinv.messagesKeyed, hinv.verifierSetsKeyed⟩

theorem inv_instantiate (governance : String) (config : Config) :
    Inv ext (instantiate governance config) := by
  refine ⟨?_, ?_, ?_, ?_⟩ <;> intro k c hk <;> simp [instantiate, AList.lookup_empty] at hk

theorem reachable_inv {governance : String} {config : Config}
    (hs : Reachable (executeAdmissible ext) (instantiate governance config) s) : Inv ext s :=
  Reachable.induction_inv (Inv ext) (inv_instantiate governance config)
    (fun _ _ _ _ hinv h => inv_step hinv h) hs

/-! ## Results stay -/

/-- A poll id that exists is not the next one. -/
theorem lookup_insert_next (hinv : Inv ext s) {pollId : ℕ} {poll : Poll}
    (hpoll : s.polls.lookup pollId = some poll) (p : Poll) :
    (s.polls.insert (s.pollId + 1) p).lookup pollId = some poll := by
  rw [AList.lookup_insert_ne (by have := hinv.id_le pollId poll hpoll; omega)]
  exact hpoll

/-- One admissible call keeps every result that was reached. -/
theorem resultAt_step (hinv : Inv ext s) {c : AdmissibleCall} {r : Response}
    (h : executeAdmissible ext s c = .ok (s', r)) {pollId i : ℕ} {v : Vote}
    (hv : resultAt s pollId i = some v) : resultAt s' pollId i = some v := by
  obtain ⟨poll, hpoll, hres⟩ := resultAt_eq_some.mp hv
  apply resultAt_eq_some.mpr
  rcases execute_eq_ok h with ⟨id, -, h⟩ | ⟨id, votes, -, h⟩ | ⟨_, -, h⟩ | ⟨_, _, -, h⟩ |
      ⟨_, _, _, -, -, h⟩
  · -- `end_poll` leaves the tallies of the poll it finishes
    obtain ⟨poll', p', hpoll', hfinish, rfl⟩ := endPoll_eq_ok h
    by_cases hid : pollId = id
    · subst hid
      rw [hpoll] at hpoll'
      cases hpoll'
      exact ⟨poll.withWeighted p', AList.lookup_insert _,
        by rw [Poll.weightedPoll_withWeighted, WeightedPoll.finish_results hfinish, hres]⟩
    · exact ⟨poll, by rw [AList.lookup_insert_ne hid]; exact hpoll, hres⟩
  · -- a vote only adds weight to a sound poll
    obtain ⟨s₁, events, htally, rfl, -⟩ := vote_eq_ok h
    obtain ⟨poll', p', -, hpoll', hcast, rfl, -, -⟩ := tallyVote_eq_ok htally
    by_cases hid : pollId = id
    · subst hid
      rw [hpoll] at hpoll'
      cases hpoll'
      exact ⟨poll.withWeighted p', AList.lookup_insert _, by
        rw [Poll.weightedPoll_withWeighted]
        exact WeightedPoll.castVote_results (hinv.sound pollId poll hpoll) hcast hres⟩
    · exact ⟨poll, by rw [AList.lookup_insert_ne hid]; exact hpoll, hres⟩
  · -- a new messages poll takes a fresh id
    rcases verifyMessages_eq_ok h with rfl | ⟨-, -, -, -, -, -, -, -, rfl⟩
    · exact ⟨poll, hpoll, hres⟩
    · exact ⟨poll, lookup_insert_next hinv hpoll _, hres⟩
  · -- a new verifier-set poll takes a fresh id
    rcases verifyVerifierSet_eq_ok h with rfl | ⟨-, -, -, -, -, -, -, -, rfl⟩
    · exact ⟨poll, hpoll, hres⟩
    · exact ⟨poll, lookup_insert_next hinv hpoll _, hres⟩
  · cases h
    exact ⟨poll, hpoll, hres⟩

/-- A result reached at an index of a poll is the result in every later storage. -/
theorem resultAt_later (hinv : Inv ext s) {t : State} (hst : Later (executeAdmissible ext) s t)
    {pollId i : ℕ} {v : Vote} (hv : resultAt s pollId i = some v) : resultAt t pollId i = some v :=
  (Later.preserves (Inv ext) (fun s => resultAt s pollId i = some v)
    (fun _ _ _ _ hinv h => inv_step hinv h)
    (fun _ _ _ _ hinv hP h => resultAt_step hinv h hP) hst hinv hv).2

end Step

end Amplifier.VotingVerifier
