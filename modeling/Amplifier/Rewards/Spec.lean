import Amplifier.Rewards.Execute

/-!
# Amplifier.Rewards.Spec — what each handler does when it commits

One inversion lemma per handler of `Amplifier.Rewards.Execute`, saying which
checks passed and which storage fields it wrote, and one per message of
`execute`. The invariants of the contract (`Amplifier.Rewards.Payout`) are
proved from these lemmas, never by unfolding a handler again.

* `recordParticipation_eq_ok` — the pool exists at this height; a new event is
  stored in the current epoch, and one tally is written;
* `distributeRewards_eq_ok` — the epochs `from..=to` are due, their rewards
  are taken from the balance, and the watermark moves to `to`;
* `createPool_eq_ok`, `updatePoolParams_eq_ok`, `addRewards_eq_ok` — the pool
  written, and nothing else but the current tally's parameters;
* `execute_eq_ok` and the `dispatch_*` lemmas — the permission check, the
  validation of the message's addresses and funds, and the handler.
-/

namespace Amplifier.Rewards

open WasmStd RouterApi

/-! ## Shared steps -/

theorem loadRewardsPool_eq_ok {s : State} {poolId : PoolId} {pool : RewardsPool} :
    loadRewardsPool s poolId = .ok pool ↔ s.pools.lookup poolId = some pool :=
  okOr_eq_ok

theorem currentEpoch_eq_ok {s : State} {poolId : PoolId} {blockHeight : ℕ} {epoch : Epoch} :
    currentEpoch s poolId blockHeight = .ok epoch ↔
      ∃ pool, s.pools.lookup poolId = some pool ∧ Epoch.current pool.params blockHeight = .ok epoch := by
  simp only [currentEpoch, bind_eq_ok, loadRewardsPool_eq_ok]

theorem validateAddress_eq_ok {ext : Externals} {address address' : String} :
    validateAddress ext address = .ok address' ↔
      ext.isValidAddress address = true ∧ address' = address := by
  unfold validateAddress
  split_ifs with h <;> simp [h, eq_comm]

theorem tryFromMsgPoolId_eq_ok {ext : Externals} {poolId : MsgPoolId} {poolId' : PoolId} :
    PoolId.tryFromMsgPoolId ext poolId = .ok poolId' ↔
      ext.isValidAddress poolId.contract = true ∧ poolId' = ⟨poolId.chainName, poolId.contract⟩ := by
  simp only [PoolId.tryFromMsgPoolId, bind_eq_ok, validateAddress_eq_ok, pure, Except.pure,
    Except.ok.injEq]
  constructor
  · rintro ⟨_, ⟨hvalid, rfl⟩, rfl⟩
    exact ⟨hvalid, rfl⟩
  · rintro ⟨hvalid, rfl⟩
    exact ⟨_, ⟨hvalid, rfl⟩, rfl⟩

/-- A new event is stored in the epoch given; a stored one is left as it is. -/
theorem loadOrStoreEvent_of_lookup_none {s : State} {eventId : String} {poolId : PoolId}
    {curEpochNum : ℕ} (h : s.events.lookup (eventId, poolId) = none) :
    loadOrStoreEvent s eventId poolId curEpochNum =
      ({ s with events := s.events.insert (eventId, poolId) ⟨eventId, poolId, curEpochNum⟩ },
        .new ⟨eventId, poolId, curEpochNum⟩) := by
  simp [loadOrStoreEvent, h]

theorem loadOrStoreEvent_of_lookup_some {s : State} {eventId : String} {poolId : PoolId}
    {curEpochNum : ℕ} {event : Event} (h : s.events.lookup (eventId, poolId) = some event) :
    loadOrStoreEvent s eventId poolId curEpochNum = (s, .existing event) := by
  simp [loadOrStoreEvent, h]

/-- `load_or_store_event` writes nothing but the events. -/
theorem loadOrStoreEvent_fst {s : State} {eventId : String} {poolId : PoolId} {curEpochNum : ℕ} :
    (loadOrStoreEvent s eventId poolId curEpochNum).1 =
      { s with events := (loadOrStoreEvent s eventId poolId curEpochNum).1.events } := by
  unfold loadOrStoreEvent
  split <;> rfl

/-- The sum of the rewards is the sum of the amounts, when it fits in a `Uint128`. -/
theorem sumRewards_eq_ok {rewards : Map String ℕ} {total : ℕ}
    (h : sumRewards rewards = .ok total) : total = (rewards.entries.map Sigma.snd).sum := by
  -- the fold's accumulator is the sum so far
  suffices hfold : ∀ (l : List (Sigma fun _ : String => ℕ)) (acc : ℕ),
      l.foldlM (fun total e => okOr (checkedAdd uint128Max total e.2)
        (Failure.panic "attempt to add with overflow")) acc = .ok total →
      total = acc + (l.map Sigma.snd).sum by
    simpa using hfold _ 0 h
  intro l
  induction l with
  | nil =>
      intro acc hacc
      simp only [List.foldlM_nil, pure, Except.pure, Except.ok.injEq] at hacc
      simp [hacc]
  | cons e l ih =>
      intro acc hacc
      simp only [List.foldlM_cons, bind_eq_ok, okOr_eq_ok, checkedAdd_eq_some] at hacc
      obtain ⟨acc', ⟨-, rfl⟩, hrest⟩ := hacc
      rw [ih _ hrest, List.map_cons, List.sum_cons, Nat.add_assoc]

/-! ## Handlers -/

/-- A committed `record_participation` found the pool and its epoch at this
height, stored a new event in that epoch, and wrote one tally. -/
theorem recordParticipation_eq_ok {s s' : State} {eventId verifier : String} {poolId : PoolId}
    {blockHeight : ℕ} (h : recordParticipation s eventId verifier poolId blockHeight = .ok s') :
    ∃ pool curEpoch tally, s.pools.lookup poolId = some pool ∧
      Epoch.current pool.params blockHeight = .ok curEpoch ∧
      s' = { s with
        events := (loadOrStoreEvent s eventId poolId curEpoch.epochNum).1.events
        tallies := saveEpochTally s.tallies tally } := by
  simp only [recordParticipation, bind_eq_ok, loadRewardsPool_eq_ok, pure, Except.pure,
    Except.ok.injEq] at h
  obtain ⟨pool, hpool, curEpoch, hcur, rfl⟩ := h
  refine ⟨pool, curEpoch, ?_⟩
  -- the event is new or stored; either way only the events and one tally change
  cases hevent : s.events.lookup (eventId, poolId) with
  | none =>
      rw [loadOrStoreEvent_of_lookup_none hevent]
      exact ⟨_, hpool, hcur, rfl⟩
  | some event =>
      rw [loadOrStoreEvent_of_lookup_some hevent]
      exact ⟨_, hpool, hcur, rfl⟩

theorem processRewardsForEpochs_eq_ok {s s' : State} {poolId : PoolId} {fromEpoch toEpoch : ℕ}
    {rewards : Map String ℕ} :
    processRewardsForEpochs s poolId fromEpoch toEpoch = .ok (s', rewards) ↔
      cumulateRewards s poolId fromEpoch toEpoch = .ok rewards ∧
      ∃ pool total, s.pools.lookup poolId = some pool ∧ sumRewards rewards = .ok total ∧
        total ≤ pool.balance ∧
        s' = { s with pools := saveRewardsPool s.pools { pool with balance := pool.balance - total } } := by
  simp only [processRewardsForEpochs, bind_eq_ok, loadRewardsPool_eq_ok,
    RewardsPool.subReward_eq_ok, pure, Except.pure, Except.ok.injEq, Prod.mk.injEq]
  constructor
  · rintro ⟨rewards', hcum, pool, hpool, total, htotal, _, ⟨hle, rfl⟩, rfl, rfl⟩
    exact ⟨hcum, pool, total, hpool, htotal, hle, rfl⟩
  · rintro ⟨hcum, pool, total, hpool, htotal, hle, rfl⟩
    exact ⟨rewards, hcum, pool, hpool, total, htotal, _, ⟨hle, rfl⟩, rfl, rfl⟩

/-- A committed `distribute_rewards` paid the epochs `from..=to`, which are due:
`to` is at least `from` and two epochs before the current one. It took their
rewards from the pool's balance and moved the watermark to `to`. -/
theorem distributeRewards_eq_ok {s s' : State} {poolId : PoolId} {curBlockHeight : ℕ}
    {epochProcessLimit : Option ℕ} {d : RewardsDistribution}
    (h : distributeRewards s poolId curBlockHeight epochProcessLimit = .ok (s', d)) :
    ∃ pool curEpoch toEpoch rewards total, s.pools.lookup poolId = some pool ∧
      Epoch.current pool.params curBlockHeight = .ok curEpoch ∧
      firstUnpaidEpoch (s.watermarks.lookup poolId) ≤ toEpoch ∧
      toEpoch + epochPayoutDelay ≤ curEpoch.epochNum ∧
      cumulateRewards s poolId (firstUnpaidEpoch (s.watermarks.lookup poolId)) toEpoch =
        .ok rewards ∧
      sumRewards rewards = .ok total ∧ total ≤ pool.balance ∧
      s' = { s with
        pools := saveRewardsPool s.pools { pool with balance := pool.balance - total }
        watermarks := s.watermarks.insert poolId toEpoch } ∧
      d.rewards = rewards.entries.map (fun e => (loadVerifier s e.1, e.2)) ∧
      d.epochsProcessed = List.range' (firstUnpaidEpoch (s.watermarks.lookup poolId))
        (toEpoch + 1 - firstUnpaidEpoch (s.watermarks.lookup poolId)) ∧
      d.currentEpoch = curEpoch := by
  simp only [distributeRewards, bind_eq_ok, currentEpoch_eq_ok, ensure_eq_ok, Bool.not_eq_true',
    Bool.or_eq_false_iff, decide_eq_false_iff_not, not_lt, pure, Except.pure,
    Except.ok.injEq, Prod.mk.injEq] at h
  obtain ⟨curEpoch, ⟨pool, hpool, hcur⟩, -, ⟨hfrom, hdelay⟩, ⟨s₁, rewards⟩, hprocess, rfl, rfl⟩ := h
  obtain ⟨hcum, pool', total, hpool', htotal, hle, rfl⟩ := processRewardsForEpochs_eq_ok.mp hprocess
  rw [hpool] at hpool'
  cases hpool'
  refine ⟨pool, curEpoch, _, rewards, total, hpool, hcur, hfrom, ?_, hcum, htotal, hle, rfl, rfl,
    rfl, rfl⟩
  -- `to` is at most the current epoch minus the delay, which the check kept nonnegative
  have hto := min_le_right (min (firstUnpaidEpoch (s.watermarks.lookup poolId) +
    epochProcessLimit.getD defaultEpochsToProcess) uint64Max - 1)
    (curEpoch.epochNum - epochPayoutDelay)
  omega

/-- `create_pool` commits for a new pool only: empty, with its first epoch at
this block. -/
theorem createPool_eq_ok {s s' : State} {params : Params} {blockHeight : ℕ} {poolId : PoolId} :
    createPool s params blockHeight poolId = .ok s' ↔
      s.pools.lookup poolId = none ∧
        s' = { s with pools := s.pools.insert poolId ⟨poolId, 0, ⟨params, ⟨0, blockHeight⟩⟩⟩ } := by
  simp only [createPool, bind_eq_ok, ensure_eq_ok, Option.isNone_iff_eq_none, pure, Except.pure,
    Except.ok.injEq, saveRewardsPool, Unique.exists_iff]
  exact and_congr_right fun _ => eq_comm

/-- A committed `update_pool_params` found the pool's current epoch; the new
parameters count from it, or from a new epoch starting at this block when the
new duration has already run out. -/
theorem updatePoolParams_eq_ok {s s' : State} {poolId : PoolId} {newParams : Params}
    {blockHeight : ℕ} (h : updatePoolParams s poolId newParams blockHeight = .ok s') :
    ∃ pool curEpoch newEpoch tallies, s.pools.lookup poolId = some pool ∧
      Epoch.current pool.params blockHeight = .ok curEpoch ∧
      newEpoch = (if curEpoch.blockHeightStarted + newParams.epochDuration.val < blockHeight then
        ⟨curEpoch.epochNum + 1, blockHeight⟩ else curEpoch) ∧
      s' = { s with
        pools := s.pools.insert poolId ⟨poolId, pool.balance, ⟨newParams, newEpoch⟩⟩
        tallies := tallies } := by
  simp only [updatePoolParams, bind_eq_ok, currentEpoch_eq_ok, loadRewardsPool_eq_ok, okOr_eq_ok,
    checkedAdd_eq_some, pure, Except.pure, Except.ok.injEq] at h
  obtain ⟨curEpoch, ⟨pool, hpool, hcur⟩, ends, ⟨-, rfl⟩, newEpoch, hnew, pool', hpool', rfl⟩ := h
  rw [hpool] at hpool'
  cases hpool'
  refine ⟨pool, curEpoch, newEpoch, _, hpool, hcur, ?_, rfl⟩
  -- the new epoch, by whether the new duration has run out
  split_ifs at hnew ⊢ with hends
  · obtain ⟨_, hnum, rfl⟩ := map_eq_ok.mp hnew
    rw [okOr_eq_ok, checkedAdd_eq_some] at hnum
    rw [hnum.2]
  · simpa [pure, Except.pure, eq_comm] using hnew

theorem addRewards_eq_ok {s s' : State} {poolId : PoolId} {amount : ℕ} :
    addRewards s poolId amount = .ok s' ↔
      ∃ pool, s.pools.lookup poolId = some pool ∧ pool.balance + amount ≤ uint128Max ∧
        s' = { s with pools := saveRewardsPool s.pools { pool with balance := pool.balance + amount } } := by
  simp only [addRewards, bind_eq_ok, loadRewardsPool_eq_ok, okOr_eq_ok, checkedAdd_eq_some, pure,
    Except.pure, Except.ok.injEq]
  constructor
  · rintro ⟨pool, hpool, _, ⟨hle, rfl⟩, rfl⟩
    exact ⟨pool, hpool, hle, rfl⟩
  · rintro ⟨pool, hpool, hle, rfl⟩
    exact ⟨pool, hpool, _, ⟨hle, rfl⟩, rfl⟩

/-! ## Messages -/

/-- A committed `execute` passed the permission check, and its handler committed. -/
theorem execute_eq_ok {ext : Externals} {s s' : State} {c : Call} {r : Response} :
    execute ext s c = .ok (s', r) ↔
      c.msg.ensurePermissions s.governance c.sender = .ok () ∧ dispatch ext s c = .ok (s', r) := by
  simp [execute, bind_eq_ok, mapError_eq_ok, Unique.exists_iff]

/-- Only governance creates pools and updates their parameters. -/
theorem ensurePermissions_eq_ok {governance sender : String} {msg : ExecuteMsg} :
    msg.ensurePermissions governance sender = .ok () ↔
      ((∃ params poolId, msg = .updatePoolParams params poolId ∨ msg = .createPool params poolId) →
        governance = sender) := by
  cases msg <;> simp [ExecuteMsg.ensurePermissions]

/-- The funds of `AddRewards` are one coin, of the rewards denomination. -/
theorem find_filter_eq_some {funds : List Coin} {denom : String} {coin : Coin} :
    ((funds.find? fun coin => coin.denom = denom).filter fun _ => funds.length = 1) = some coin ↔
      funds = [coin] ∧ coin.denom = denom := by
  match funds with
  | [] => simp
  | [c] =>
      by_cases hc : c.denom = denom
      · simp only [List.find?_singleton, hc, decide_true, if_true, List.length_singleton,
          Option.filter_some, List.cons.injEq, and_true]
        constructor
        · rintro ⟨⟩
          exact ⟨rfl, hc⟩
        · rintro ⟨rfl, -⟩
          rfl
      · simp only [List.find?_singleton, hc, decide_false, if_false, Option.filter_none,
          reduceCtorEq, false_iff, not_and, List.cons.injEq, and_true]
        rintro rfl
        exact hc
  | _ :: _ :: _ => simp

theorem dispatch_recordParticipation {ext : Externals} {s s' : State} {c : Call} {r : Response}
    {chainName : ChainName} {eventId : {e : String // e ≠ ""}} {verifierAddress : String}
    (hmsg : c.msg = .recordParticipation chainName eventId verifierAddress) :
    dispatch ext s c = .ok (s', r) ↔
      ext.isValidAddress verifierAddress = true ∧
      recordParticipation s eventId.val verifierAddress ⟨chainName, c.sender⟩ c.blockHeight =
        .ok s' ∧ r = .empty := by
  simp only [dispatch, hmsg, bind_eq_ok, validateAddress_eq_ok, pure, Except.pure,
    Except.ok.injEq, Prod.mk.injEq]
  constructor
  · rintro ⟨_, ⟨hvalid, rfl⟩, _, hrecord, rfl, rfl⟩
    exact ⟨hvalid, hrecord, rfl⟩
  · rintro ⟨hvalid, hrecord, rfl⟩
    exact ⟨_, ⟨hvalid, rfl⟩, _, hrecord, rfl, rfl⟩

theorem dispatch_addRewards {ext : Externals} {s s' : State} {c : Call} {r : Response}
    {poolId : MsgPoolId} (hmsg : c.msg = .addRewards poolId) :
    dispatch ext s c = .ok (s', r) ↔
      ∃ coin, c.funds = [coin] ∧ coin.denom = s.config.rewardsDenom ∧
        ext.isValidAddress poolId.contract = true ∧ coin.amount ≠ 0 ∧
        addRewards s ⟨poolId.chainName, poolId.contract⟩ coin.amount = .ok s' ∧ r = .empty := by
  simp only [dispatch, hmsg, bind_eq_ok, okOr_eq_ok, find_filter_eq_some, tryFromMsgPoolId_eq_ok,
    ensure_eq_ok, decide_eq_true_eq, Unique.exists_iff, pure, Except.pure, Except.ok.injEq,
    Prod.mk.injEq]
  constructor
  · rintro ⟨coin, ⟨hfunds, hdenom⟩, _, ⟨hvalid, rfl⟩, hpos, _, hadd, rfl, rfl⟩
    exact ⟨coin, hfunds, hdenom, hvalid, hpos, hadd, rfl⟩
  · rintro ⟨coin, hfunds, hdenom, hvalid, hpos, hadd, rfl⟩
    exact ⟨coin, ⟨hfunds, hdenom⟩, _, ⟨hvalid, rfl⟩, hpos, _, hadd, rfl, rfl⟩

theorem dispatch_distributeRewards {ext : Externals} {s s' : State} {c : Call} {r : Response}
    {poolId : MsgPoolId} {epochCount : Option ℕ} (hmsg : c.msg = .distributeRewards poolId epochCount) :
    dispatch ext s c = .ok (s', r) ↔
      ext.isValidAddress poolId.contract = true ∧
      ∃ d, distributeRewards s ⟨poolId.chainName, poolId.contract⟩ c.blockHeight epochCount =
          .ok (s', d) ∧
        r = ⟨(d.rewards.mergeSort sendsBefore).map (payout s.config.rewardsDenom),
          [Events.Event.ofRewardsDistribution d]⟩ := by
  simp only [dispatch, hmsg, bind_eq_ok, tryFromMsgPoolId_eq_ok, pure, Except.pure,
    Except.ok.injEq]
  constructor
  · rintro ⟨_, ⟨hvalid, rfl⟩, ⟨s₁, d⟩, hdist, hr⟩
    cases hr
    exact ⟨hvalid, d, hdist, rfl⟩
  · rintro ⟨hvalid, d, hdist, rfl⟩
    exact ⟨_, ⟨hvalid, rfl⟩, (s', d), hdist, rfl⟩

theorem dispatch_updatePoolParams {ext : Externals} {s s' : State} {c : Call} {r : Response}
    {params : Params} {poolId : MsgPoolId} (hmsg : c.msg = .updatePoolParams params poolId) :
    dispatch ext s c = .ok (s', r) ↔
      ext.isValidAddress poolId.contract = true ∧
      updatePoolParams s ⟨poolId.chainName, poolId.contract⟩ params c.blockHeight = .ok s' ∧
      r = .empty := by
  simp only [dispatch, hmsg, bind_eq_ok, tryFromMsgPoolId_eq_ok, pure, Except.pure,
    Except.ok.injEq, Prod.mk.injEq]
  constructor
  · rintro ⟨_, ⟨hvalid, rfl⟩, _, hupdate, rfl, rfl⟩
    exact ⟨hvalid, hupdate, rfl⟩
  · rintro ⟨hvalid, hupdate, rfl⟩
    exact ⟨_, ⟨hvalid, rfl⟩, _, hupdate, rfl, rfl⟩

theorem dispatch_createPool {ext : Externals} {s s' : State} {c : Call} {r : Response}
    {params : Params} {poolId : MsgPoolId} (hmsg : c.msg = .createPool params poolId) :
    dispatch ext s c = .ok (s', r) ↔
      ext.isValidAddress poolId.contract = true ∧
      createPool s params c.blockHeight ⟨poolId.chainName, poolId.contract⟩ = .ok s' ∧
      r = .empty := by
  simp only [dispatch, hmsg, bind_eq_ok, tryFromMsgPoolId_eq_ok, pure, Except.pure,
    Except.ok.injEq, Prod.mk.injEq]
  constructor
  · rintro ⟨_, ⟨hvalid, rfl⟩, _, hcreate, rfl, rfl⟩
    exact ⟨hvalid, hcreate, rfl⟩
  · rintro ⟨hvalid, hcreate, rfl⟩
    exact ⟨_, ⟨hvalid, rfl⟩, _, hcreate, rfl, rfl⟩

theorem dispatch_setVerifierProxy {ext : Externals} {s s' : State} {c : Call} {r : Response}
    {proxyAddress : String} (hmsg : c.msg = .setVerifierProxy proxyAddress) :
    dispatch ext s c = .ok (s', r) ↔
      ext.isValidAddress proxyAddress = true ∧ s' = setVerifierProxy s proxyAddress c.sender ∧
        r = .empty := by
  simp only [dispatch, hmsg, bind_eq_ok, validateAddress_eq_ok, pure, Except.pure,
    Except.ok.injEq, Prod.mk.injEq]
  constructor
  · rintro ⟨_, ⟨hvalid, rfl⟩, rfl, rfl⟩
    exact ⟨hvalid, rfl, rfl⟩
  · rintro ⟨hvalid, rfl, rfl⟩
    exact ⟨_, ⟨hvalid, rfl⟩, rfl, rfl⟩

theorem dispatch_removeVerifierProxy {ext : Externals} {s s' : State} {c : Call} {r : Response}
    (hmsg : c.msg = .removeVerifierProxy) :
    dispatch ext s c = .ok (s', r) ↔ s' = removeVerifierProxy s c.sender ∧ r = .empty := by
  simp [dispatch, hmsg, eq_comm]

end Amplifier.Rewards
