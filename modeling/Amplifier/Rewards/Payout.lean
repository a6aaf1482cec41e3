import Amplifier.Rewards.Spec

/-!
# Amplifier.Rewards.Payout — every epoch paid once, and a balance that adds up

The history of one rewards pool over a run of the contract, read off the log
of the run (`runLog`):

* the epochs that the distributions of the pool report processed are
  `0, 1, 2, …` — each once, none skipped — and each was at least two epochs old
  when it was paid;
* an event first recorded after a distribution lands in an epoch past the
  pool's watermark;
* the pool's balance is everything added to it minus everything paid out of
  it, and no distribution pays more than the balance.

The first and the last hold of every run; the second needs the block heights
of the run not to go back, since it compares the epoch of the event with the
watermark through `Epoch.current`. Its invariant (`PayoutInv`) is that a pool
with a watermark is at least two epochs past it at the current height, which
`update_pool_params` keeps because it never moves the epoch number back.

What does not hold is that no participation is tallied into an epoch already
paid: a participation in an event recorded before goes to that event's epoch,
whatever the watermark (`participation_recorded_into_paid_epoch`).
-/

namespace Amplifier.Rewards

open WasmStd RouterApi

/-! ## The history of a pool -/

/-- The balance of a pool, zero before it exists. -/
def poolBalance (s : State) (p : PoolId) : ℕ :=
  ((s.pools.lookup p).map RewardsPool.balance).getD 0

/-- The first epoch of a pool that no distribution has paid. -/
def State.firstUnpaid (s : State) (p : PoolId) : ℕ :=
  firstUnpaidEpoch (s.watermarks.lookup p)

/-- Whether a call distributes the rewards of pool `p`. -/
def Call.distributesFor (c : Call) (p : PoolId) : Bool :=
  match c.msg with
  | .distributeRewards poolId _ => decide ((⟨poolId.chainName, poolId.contract⟩ : PoolId) = p)
  | _ => false

/-- Whether a call adds rewards to pool `p`. -/
def Call.addsTo (c : Call) (p : PoolId) : Bool :=
  match c.msg with
  | .addRewards poolId => decide ((⟨poolId.chainName, poolId.contract⟩ : PoolId) = p)
  | _ => false

/-- The epochs a `rewards_distributed` event reports processed. -/
def Events.Event.epochsProcessed : Events.Event → List ℕ
  | .rewardsDistributed _ epochsProcessed _ _ => epochsProcessed

/-- The epoch a `rewards_distributed` event reports paying in. -/
def Events.Event.currentEpoch : Events.Event → Epoch
  | .rewardsDistributed _ _ currentEpoch _ => currentEpoch

/-- The epochs a committed call paid for pool `p`. -/
def epochsPaid (p : PoolId) (e : Committed State Call Response) : List ℕ :=
  if e.msg.distributesFor p then e.response.events.flatMap Events.Event.epochsProcessed else []

/-- What a committed call paid out of pool `p`. -/
def paidFrom (p : PoolId) (e : Committed State Call Response) : ℕ :=
  if e.msg.distributesFor p then (e.response.messages.map BankMsg.total).sum else 0

/-- What a committed call added to pool `p`: the funds attached to `AddRewards`. -/
def addedTo (p : PoolId) (e : Committed State Call Response) : ℕ :=
  if e.msg.addsTo p then (e.msg.funds.map Coin.amount).sum else 0

/-- Every epoch a response reports paid was due: it is at least
`EPOCH_PAYOUT_DELAY` epochs before the epoch it was paid in. -/
def PaysDueEpochs (r : Response) : Prop :=
  ∀ event ∈ r.events, ∀ k ∈ event.epochsProcessed,
    k + epochPayoutDelay ≤ event.currentEpoch.epochNum

/-- An event of pool `p` that a committed call records for the first time lands
in an epoch after the pool's watermark. -/
def RecordsAfterWatermark (p : PoolId) (e : Committed State Call Response) : Prop :=
  ∀ chainName eventId verifierAddress,
    e.msg.msg = .recordParticipation chainName eventId verifierAddress →
    (⟨chainName, e.msg.sender⟩ : PoolId) = p → e.before.events.lookup (eventId.val, p) = none →
    ∀ w, e.before.watermarks.lookup p = some w →
      ∃ event, e.after.events.lookup (eventId.val, p) = some event ∧ w < event.epochNum

/-- What a committed call does to the history of pool `p`. -/
structure PayoutStep (p : PoolId) (e : Committed State Call Response) : Prop where
  advances : e.before.firstUnpaid p ≤ e.after.firstUnpaid p
  emits : epochsPaid p e =
    List.range' (e.before.firstUnpaid p) (e.after.firstUnpaid p - e.before.firstUnpaid p)
  due : PaysDueEpochs e.response
  fresh : RecordsAfterWatermark p e
  conserves : poolBalance e.after p + paidFrom p e = poolBalance e.before p + addedTo p e
  covered : paidFrom p e ≤ poolBalance e.before p

/-! ## The invariant -/

/-- The invariant of one pool at height `h`: it is stored under its own id, and
if it has a watermark, the pool's epoch at `h` is at least two epochs past it. -/
def PoolInv (h : ℕ) (p : PoolId) (pool : Option RewardsPool) (watermark : Option ℕ) : Prop :=
  (∀ q, pool = some q → q.id = p) ∧
  ∀ w, watermark = some w → ∃ q, pool = some q ∧
    q.params.createdAt.blockHeightStarted ≤ h ∧ w + epochPayoutDelay ≤ q.params.epochAt h

/-- `PoolInv` for every pool. -/
def PayoutInv (h : ℕ) (s : State) : Prop :=
  ∀ p, PoolInv h p (s.pools.lookup p) (s.watermarks.lookup p)

theorem payoutInv_instantiate (governance rewardsDenom : String) :
    PayoutInv 0 (instantiate governance rewardsDenom) := by
  intro p
  simp [PoolInv, instantiate]

/-- The invariant holds at every later height: a pool's epoch only grows. -/
theorem PayoutInv.mono {h h' : ℕ} {s : State} (hle : h ≤ h') (hinv : PayoutInv h s) :
    PayoutInv h' s := by
  intro p
  obtain ⟨hkeyed, htrails⟩ := hinv p
  refine ⟨hkeyed, fun w hw => ?_⟩
  obtain ⟨q, hq, hstarted, hdue⟩ := htrails w hw
  exact ⟨q, hq, hstarted.trans hle, hdue.trans (q.params.epochAt_mono hle)⟩

/-- A call that writes pool `q` keeps the invariant if it keeps it at `q` and
leaves every other pool and watermark alone. -/
theorem PayoutInv.write {h : ℕ} {s s' : State} (q : PoolId) (hinv : PayoutInv h s)
    (hother : ∀ p, p ≠ q →
      s'.pools.lookup p = s.pools.lookup p ∧ s'.watermarks.lookup p = s.watermarks.lookup p)
    (hq : PoolInv h q (s'.pools.lookup q) (s'.watermarks.lookup q)) : PayoutInv h s' := by
  intro p
  by_cases hp : p = q
  · subst hp
    exact hq
  · rw [(hother p hp).1, (hother p hp).2]
    exact hinv p

/-- A call that moves no watermark and distributes nothing changes the history
of a pool only by what it adds to its balance. -/
theorem PayoutStep.of_no_payout {p : PoolId} {e : Committed State Call Response}
    (hwm : e.after.watermarks.lookup p = e.before.watermarks.lookup p)
    (hdist : e.msg.distributesFor p = false) (hdue : PaysDueEpochs e.response)
    (hfresh : RecordsAfterWatermark p e)
    (hbalance : poolBalance e.after p = poolBalance e.before p + addedTo p e) :
    PayoutStep p e where
  advances := by rw [State.firstUnpaid, State.firstUnpaid, hwm]
  emits := by simp [epochsPaid, hdist, State.firstUnpaid, hwm]
  due := hdue
  fresh := hfresh
  conserves := by simp [paidFrom, hdist, hbalance]
  covered := by simp [paidFrom, hdist]

/-- A call that leaves a pool's entries alone, distributes nothing and adds
nothing to it leaves its history as it was. -/
theorem PayoutStep.of_lookup_eq {p : PoolId} {e : Committed State Call Response}
    (hpool : e.after.pools.lookup p = e.before.pools.lookup p)
    (hwm : e.after.watermarks.lookup p = e.before.watermarks.lookup p)
    (hdist : e.msg.distributesFor p = false) (hadd : e.msg.addsTo p = false)
    (hdue : PaysDueEpochs e.response) (hfresh : RecordsAfterWatermark p e) : PayoutStep p e :=
  .of_no_payout hwm hdist hdue hfresh (by simp [poolBalance, addedTo, hpool, hadd])

/-- A pool stored under its own id is written back there. -/
theorem saveRewardsPool_of_id {pools : Map PoolId RewardsPool} {pool : RewardsPool} {q : PoolId}
    (hid : pool.id = q) : saveRewardsPool pools pool = pools.insert q pool := by
  rw [saveRewardsPool, hid]

/-- A response with no event pays no epoch. -/
theorem paysDueEpochs_empty : PaysDueEpochs .empty := by
  simp [PaysDueEpochs, Response.empty]

/-- Only `RecordParticipation` records events. -/
theorem recordsAfterWatermark_of_ne {p : PoolId} {e : Committed State Call Response}
    (hmsg : ∀ chainName eventId verifierAddress,
      e.msg.msg ≠ .recordParticipation chainName eventId verifierAddress) :
    RecordsAfterWatermark p e :=
  fun _ _ _ hrecord => absurd hrecord (hmsg _ _ _)

/-! ## One step per message -/

section Steps

variable {ext : Externals} {p : PoolId} {s s' : State} {c : Call} {r : Response}

/-- `RecordParticipation` writes events and tallies only, and a new event lands
in the pool's current epoch, past its watermark. -/
theorem payoutStep_recordParticipation {chainName : ChainName} {eventId : {e : String // e ≠ ""}}
    {verifierAddress : String} (hinv : PayoutInv c.blockHeight s)
    (hmsg : c.msg = .recordParticipation chainName eventId verifierAddress)
    (h : execute ext s c = .ok (s', r)) :
    PayoutInv c.blockHeight s' ∧ PayoutStep p ⟨s, c, s', r⟩ := by
  obtain ⟨-, hdispatch⟩ := execute_eq_ok.mp h
  obtain ⟨-, hrecord, rfl⟩ := (dispatch_recordParticipation hmsg).mp hdispatch
  obtain ⟨pool, curEpoch, tally, hpool, hcur, rfl⟩ := recordParticipation_eq_ok hrecord
  refine ⟨hinv, PayoutStep.of_lookup_eq rfl rfl (by simp [Call.distributesFor, hmsg])
    (by simp [Call.addsTo, hmsg]) paysDueEpochs_empty ?_⟩
  rintro chainName' eventId' verifierAddress' hmsg' rfl hnew w hw
  rw [hmsg] at hmsg'
  cases hmsg'
  -- the pool trails its watermark at this height, and the event lands in its current epoch
  obtain ⟨-, htrails⟩ := hinv ⟨chainName, c.sender⟩
  obtain ⟨q, hq, -, hdue⟩ := htrails w hw
  rw [hpool] at hq
  cases hq
  obtain ⟨-, hepoch, -, -⟩ := Epoch.current_eq_ok hcur
  refine ⟨⟨eventId.val, ⟨chainName, c.sender⟩, curEpoch.epochNum⟩, ?_, ?_⟩
  · simp [loadOrStoreEvent_of_lookup_none hnew]
  · show w < curEpoch.epochNum
    rw [← hepoch] at hdue
    simp only [epochPayoutDelay] at hdue
    omega

/-- `AddRewards` adds the coin attached to the pool's balance. -/
theorem payoutStep_addRewards {poolId : MsgPoolId} (hinv : PayoutInv c.blockHeight s)
    (hmsg : c.msg = .addRewards poolId) (h : execute ext s c = .ok (s', r)) :
    PayoutInv c.blockHeight s' ∧ PayoutStep p ⟨s, c, s', r⟩ := by
  obtain ⟨-, hdispatch⟩ := execute_eq_ok.mp h
  obtain ⟨coin, hfunds, -, -, -, hadd, rfl⟩ := (dispatch_addRewards hmsg).mp hdispatch
  obtain ⟨pool, hpool, -, rfl⟩ := addRewards_eq_ok.mp hadd
  obtain ⟨hkeyed, htrails⟩ := hinv ⟨poolId.chainName, poolId.contract⟩
  have hid : ({ pool with balance := pool.balance + coin.amount } : RewardsPool).id =
      ⟨poolId.chainName, poolId.contract⟩ := hkeyed pool hpool
  rw [saveRewardsPool_of_id hid]
  refine ⟨PayoutInv.write ⟨poolId.chainName, poolId.contract⟩ hinv
    (fun p' hp' => by simp [AList.lookup_insert_ne hp']) ⟨fun q hq => ?_, fun w hw => ?_⟩, ?_⟩
  · simp only [AList.lookup_insert, Option.some.injEq] at hq
    subst hq
    exact hid
  · -- the pool keeps its parameters
    obtain ⟨q, hq, hstarted, hdue⟩ := htrails w hw
    rw [hpool] at hq
    cases hq
    exact ⟨_, AList.lookup_insert _, hstarted, hdue⟩
  have hdist : c.distributesFor p = false := by simp [Call.distributesFor, hmsg]
  by_cases hp : (⟨poolId.chainName, poolId.contract⟩ : PoolId) = p
  · subst hp
    exact .of_no_payout rfl hdist paysDueEpochs_empty (recordsAfterWatermark_of_ne (by simp [hmsg]))
      (by simp [poolBalance, addedTo, Call.addsTo, hmsg, hfunds, hpool])
  · exact .of_lookup_eq (AList.lookup_insert_ne (Ne.symm hp)) rfl hdist
      (by simp [Call.addsTo, hmsg, hp]) paysDueEpochs_empty
      (recordsAfterWatermark_of_ne (by simp [hmsg]))

/-- The bank messages of a distribution send each verifier's reward once. -/
theorem sum_total_payout (rewardsDenom : String) (rewards : List (Verifier × ℕ)) :
    (((rewards.mergeSort sendsBefore).map (payout rewardsDenom)).map BankMsg.total).sum =
      (rewards.map Prod.snd).sum := by
  have hperm := List.mergeSort_perm rewards sendsBefore
  calc (((rewards.mergeSort sendsBefore).map (payout rewardsDenom)).map BankMsg.total).sum
      = ((rewards.mergeSort sendsBefore).map Prod.snd).sum := by
        simp [BankMsg.total, payout, Function.comp_def]
    _ = (rewards.map Prod.snd).sum := (hperm.map Prod.snd).sum_eq

/-- `DistributeRewards` pays the epochs from the first unpaid one to `to`, takes
what it sends from the balance, and moves the watermark to `to`. -/
theorem payoutStep_distributeRewards {poolId : MsgPoolId} {epochCount : Option ℕ}
    (hinv : PayoutInv c.blockHeight s) (hmsg : c.msg = .distributeRewards poolId epochCount)
    (h : execute ext s c = .ok (s', r)) :
    PayoutInv c.blockHeight s' ∧ PayoutStep p ⟨s, c, s', r⟩ := by
  obtain ⟨-, hdispatch⟩ := execute_eq_ok.mp h
  obtain ⟨-, d, hdistribute, rfl⟩ := (dispatch_distributeRewards hmsg).mp hdispatch
  obtain ⟨pool, curEpoch, toEpoch, rewards, total, hpool, hcur, hfrom, hto, -, htotal, hle, rfl,
    hrewards, hepochs, hcurrent⟩ := distributeRewards_eq_ok hdistribute
  have hid : ({ pool with balance := pool.balance - total } : RewardsPool).id =
      ⟨poolId.chainName, poolId.contract⟩ := (hinv _).1 pool hpool
  rw [saveRewardsPool_of_id hid]
  obtain ⟨hstarted, hepoch, hmax, -⟩ := Epoch.current_eq_ok hcur
  -- every epoch paid is at most `to`, two epochs before the current one
  have hdue : PaysDueEpochs ⟨(d.rewards.mergeSort sendsBefore).map (payout s.config.rewardsDenom),
      [Events.Event.ofRewardsDistribution d]⟩ := by
    intro event hevent k hk
    simp only [List.mem_singleton] at hevent
    subst hevent
    simp only [Events.Event.ofRewardsDistribution, Events.Event.epochsProcessed,
      Events.Event.currentEpoch, hepochs, hcurrent, List.mem_range'_1] at hk ⊢
    omega
  -- `to` is below `u64::MAX`, so the next distribution starts right after it
  have hnext : firstUnpaidEpoch (some toEpoch) = toEpoch + 1 := by
    simp only [firstUnpaidEpoch, Option.elim, epochPayoutDelay] at hto ⊢
    omega
  refine ⟨PayoutInv.write ⟨poolId.chainName, poolId.contract⟩ hinv
    (fun p' hp' => by simp [AList.lookup_insert_ne hp']) ⟨fun q hq => ?_, fun w hw => ?_⟩, ?_⟩
  · simp only [AList.lookup_insert, Option.some.injEq] at hq
    subst hq
    exact hid
  · simp only [AList.lookup_insert, Option.some.injEq] at hw
    subst hw
    exact ⟨_, AList.lookup_insert _, hstarted, hepoch ▸ hto⟩
  by_cases hp : (⟨poolId.chainName, poolId.contract⟩ : PoolId) = p
  · subst hp
    have hdist : c.distributesFor ⟨poolId.chainName, poolId.contract⟩ = true := by
      simp [Call.distributesFor, hmsg]
    -- the messages send the total taken from the balance
    have hpaid : ((((d.rewards.mergeSort sendsBefore).map
        (payout s.config.rewardsDenom)).map BankMsg.total).sum) = total := by
      rw [sum_total_payout, hrewards, List.map_map, sumRewards_eq_ok htotal]
      rfl
    exact {
      advances := by
        simp only [State.firstUnpaid, AList.lookup_insert, hnext]
        omega
      emits := by
        simp [epochsPaid, hdist, State.firstUnpaid, hnext, Events.Event.ofRewardsDistribution,
          Events.Event.epochsProcessed, hepochs]
      due := hdue
      fresh := recordsAfterWatermark_of_ne (by simp [hmsg])
      conserves := by
        simp only [poolBalance, paidFrom, addedTo, hdist, if_true, hpaid, Call.addsTo, hmsg,
          AList.lookup_insert, hpool, Option.map_some, Option.getD_some]
        simp only [Bool.false_eq_true, if_false]
        omega
      covered := by
        simp only [poolBalance, paidFrom, hdist, if_true, hpaid, hpool, Option.map_some,
          Option.getD_some]
        exact hle }
  · exact .of_lookup_eq (AList.lookup_insert_ne (Ne.symm hp)) (AList.lookup_insert_ne (Ne.symm hp))
      (by simp [Call.distributesFor, hmsg, hp]) (by simp [Call.addsTo, hmsg]) hdue
      (recordsAfterWatermark_of_ne (by simp [hmsg]))

/-- `CreatePool` stores an empty pool where there was none, and so where there
was no watermark either. -/
theorem payoutStep_createPool {params : Params} {poolId : MsgPoolId}
    (hinv : PayoutInv c.blockHeight s) (hmsg : c.msg = .createPool params poolId)
    (h : execute ext s c = .ok (s', r)) :
    PayoutInv c.blockHeight s' ∧ PayoutStep p ⟨s, c, s', r⟩ := by
  obtain ⟨-, hdispatch⟩ := execute_eq_ok.mp h
  obtain ⟨-, hcreate, rfl⟩ := (dispatch_createPool hmsg).mp hdispatch
  obtain ⟨hnone, rfl⟩ := createPool_eq_ok.mp hcreate
  -- a pool with a watermark exists, so the new pool has none
  have hwm : s.watermarks.lookup ⟨poolId.chainName, poolId.contract⟩ = none := by
    cases hw : s.watermarks.lookup ⟨poolId.chainName, poolId.contract⟩ with
    | none => rfl
    | some w =>
        obtain ⟨q, hq, -⟩ := (hinv _).2 w hw
        rw [hnone] at hq
        cases hq
  refine ⟨PayoutInv.write ⟨poolId.chainName, poolId.contract⟩ hinv
    (fun p' hp' => by simp [AList.lookup_insert_ne hp']) ⟨fun q hq => ?_, fun w hw => ?_⟩, ?_⟩
  · simp only [AList.lookup_insert, Option.some.injEq] at hq
    subst hq
    rfl
  · simp [hwm] at hw
  have hdist : c.distributesFor p = false := by simp [Call.distributesFor, hmsg]
  have hadd : c.addsTo p = false := by simp [Call.addsTo, hmsg]
  by_cases hp : (⟨poolId.chainName, poolId.contract⟩ : PoolId) = p
  · subst hp
    exact .of_no_payout rfl hdist paysDueEpochs_empty (recordsAfterWatermark_of_ne (by simp [hmsg]))
      (by simp [poolBalance, addedTo, hadd, hnone])
  · exact .of_lookup_eq (AList.lookup_insert_ne (Ne.symm hp)) rfl hdist hadd
      paysDueEpochs_empty (recordsAfterWatermark_of_ne (by simp [hmsg]))

/-- `UpdatePoolParams` keeps the balance, and the pool's epoch never goes back:
the new parameters count from the current epoch or the one after it. -/
theorem payoutStep_updatePoolParams {params : Params} {poolId : MsgPoolId}
    (hinv : PayoutInv c.blockHeight s) (hmsg : c.msg = .updatePoolParams params poolId)
    (h : execute ext s c = .ok (s', r)) :
    PayoutInv c.blockHeight s' ∧ PayoutStep p ⟨s, c, s', r⟩ := by
  obtain ⟨-, hdispatch⟩ := execute_eq_ok.mp h
  obtain ⟨-, hupdate, rfl⟩ := (dispatch_updatePoolParams hmsg).mp hdispatch
  obtain ⟨pool, curEpoch, newEpoch, tallies, hpool, hcur, hnew, rfl⟩ :=
    updatePoolParams_eq_ok hupdate
  obtain ⟨-, hepoch, -, hcurStarted⟩ := Epoch.current_eq_ok hcur
  have hstarted : newEpoch.blockHeightStarted ≤ c.blockHeight := by
    rw [hnew]
    split_ifs
    · exact le_rfl
    · exact hcurStarted
  have hnum : curEpoch.epochNum ≤ newEpoch.epochNum := by
    rw [hnew]
    split_ifs <;> simp
  refine ⟨PayoutInv.write ⟨poolId.chainName, poolId.contract⟩ hinv
    (fun p' hp' => by simp [AList.lookup_insert_ne hp']) ⟨fun q hq => ?_, fun w hw => ?_⟩, ?_⟩
  · simp only [AList.lookup_insert, Option.some.injEq] at hq
    subst hq
    rfl
  · obtain ⟨q, hq, -, hdue⟩ := (hinv _).2 w hw
    rw [hpool] at hq
    cases hq
    refine ⟨_, AList.lookup_insert _, hstarted, ?_⟩
    calc w + epochPayoutDelay ≤ pool.params.epochAt c.blockHeight := hdue
      _ = curEpoch.epochNum := hepoch.symm
      _ ≤ newEpoch.epochNum := hnum
      _ ≤ (⟨params, newEpoch⟩ : ParamsSnapshot).epochAt c.blockHeight :=
        ParamsSnapshot.epochNum_le_epochAt ⟨params, newEpoch⟩ c.blockHeight
  have hdist : c.distributesFor p = false := by simp [Call.distributesFor, hmsg]
  have hadd : c.addsTo p = false := by simp [Call.addsTo, hmsg]
  by_cases hp : (⟨poolId.chainName, poolId.contract⟩ : PoolId) = p
  · subst hp
    exact .of_no_payout rfl hdist paysDueEpochs_empty (recordsAfterWatermark_of_ne (by simp [hmsg]))
      (by simp [poolBalance, addedTo, hadd, hpool])
  · exact .of_lookup_eq (AList.lookup_insert_ne (Ne.symm hp)) rfl hdist hadd
      paysDueEpochs_empty (recordsAfterWatermark_of_ne (by simp [hmsg]))

/-- `SetVerifierProxy` and `RemoveVerifierProxy` write the proxies only. -/
theorem payoutStep_of_proxies (hinv : PayoutInv c.blockHeight s)
    (hproxy : s' = { s with verifierProxyAddresses := s'.verifierProxyAddresses })
    (hmsg : (∃ proxyAddress, c.msg = .setVerifierProxy proxyAddress) ∨ c.msg = .removeVerifierProxy)
    (hr : r = .empty) : PayoutInv c.blockHeight s' ∧ PayoutStep p ⟨s, c, s', r⟩ := by
  subst hr
  rw [hproxy]
  have hrecord : ∀ chainName eventId verifierAddress,
      c.msg ≠ .recordParticipation chainName eventId verifierAddress := by
    rcases hmsg with ⟨_, hmsg⟩ | hmsg <;> simp [hmsg]
  refine ⟨hinv, .of_lookup_eq rfl rfl ?_ ?_ paysDueEpochs_empty
    (recordsAfterWatermark_of_ne hrecord)⟩
  · rcases hmsg with ⟨_, hmsg⟩ | hmsg <;> simp [Call.distributesFor, hmsg]
  · rcases hmsg with ⟨_, hmsg⟩ | hmsg <;> simp [Call.addsTo, hmsg]

/-- What every committed call does to the history of pool `p`: one case per
message. -/
theorem payoutStep_of_execute (hinv : PayoutInv c.blockHeight s)
    (h : execute ext s c = .ok (s', r)) :
    PayoutInv c.blockHeight s' ∧ PayoutStep p ⟨s, c, s', r⟩ := by
  have hdispatch := (execute_eq_ok.mp h).2
  cases hmsg : c.msg with
  | recordParticipation => exact payoutStep_recordParticipation hinv hmsg h
  | distributeRewards => exact payoutStep_distributeRewards hinv hmsg h
  | addRewards => exact payoutStep_addRewards hinv hmsg h
  | updatePoolParams => exact payoutStep_updatePoolParams hinv hmsg h
  | createPool => exact payoutStep_createPool hinv hmsg h
  | setVerifierProxy proxyAddress =>
      obtain ⟨-, rfl, rfl⟩ := (dispatch_setVerifierProxy hmsg).mp hdispatch
      exact payoutStep_of_proxies hinv rfl (.inl ⟨proxyAddress, hmsg⟩) rfl
  | removeVerifierProxy =>
      obtain ⟨rfl, rfl⟩ := (dispatch_removeVerifierProxy hmsg).mp hdispatch
      exact payoutStep_of_proxies hinv rfl (.inr hmsg) rfl

end Steps

/-! ## Whole runs -/

/-- Over every run of the contract whose block heights do not go back, for
every pool: the epochs its distributions processed are `0, 1, 2, …`, each paid
once and none skipped; each was due, at least two epochs before the epoch it
was paid in; an event first recorded after a distribution lands in an epoch
past the watermark; no distribution pays more than the balance; and the
balance is everything added minus everything paid. -/
theorem payout_exactly_once (ext : Externals) (governance rewardsDenom : String) (p : PoolId)
    (calls : List Call) (hheights : calls.Pairwise fun a b => a.blockHeight ≤ b.blockHeight) :
    let run := runLog (execute ext) (instantiate governance rewardsDenom) calls
    run.2.flatMap (epochsPaid p) = List.range (run.1.firstUnpaid p) ∧
    (∀ e ∈ run.2, PaysDueEpochs e.response) ∧
    (∀ e ∈ run.2, RecordsAfterWatermark p e) ∧
    (∀ e ∈ run.2, paidFrom p e ≤ poolBalance e.before p) ∧
    poolBalance run.1 p + (run.2.map (paidFrom p)).sum = (run.2.map (addedTo p)).sum := by
  intro run
  -- every committed call of the run is a step of the pool's history
  have hsteps : ∀ e ∈ run.2, PayoutStep p e :=
    runLog_forall_of_clocked Call.blockHeight PayoutInv (PayoutStep p)
      (fun _ _ _ hle hinv => hinv.mono hle)
      (fun _ hinv hexec => payoutStep_of_execute hinv hexec)
      (payoutInv_instantiate governance rewardsDenom) (fun _ _ => Nat.zero_le _) hheights
  have hemits := runLog_flatMap_range' (fun s => s.firstUnpaid p) (epochsPaid p)
    fun e he => ⟨(hsteps e he).advances, (hsteps e he).emits⟩
  have hconserves := runLog_conserves (fun s => poolBalance s p) (addedTo p) (paidFrom p)
    fun e he => (hsteps e he).conserves
  have hstart : (instantiate governance rewardsDenom).firstUnpaid p = 0 := rfl
  have hempty : poolBalance (instantiate governance rewardsDenom) p = 0 := rfl
  refine ⟨?_, fun e he => (hsteps e he).due, fun e he => (hsteps e he).fresh,
    fun e he => (hsteps e he).covered, ?_⟩
  · rw [hemits.2, hstart, List.range_eq_range', Nat.sub_zero]
  · rw [hconserves, hempty, Nat.zero_add]

/-! ## A participation tallied into a paid epoch -/

/-- The chain of the example pool. -/
def osmosis : ChainName := ⟨"osmosis", by decide, by decide⟩

/-- Epochs of five blocks, 100 per epoch, for the verifiers in at least 4/7 of
the events. -/
def exampleParams : Params :=
  ⟨⟨5, by decide⟩, ⟨100, by decide⟩, ⟨4, 7, by decide, by decide, by decide⟩⟩

/-- The pool of the chain's voting verifier, as messages name it. -/
def votingVerifierPool : MsgPoolId := ⟨osmosis, "voting-verifier"⟩

/-- The same pool, as the contract stores it. -/
def examplePool : PoolId := ⟨osmosis, "voting-verifier"⟩

/-- The id of a poll, the event of the example. -/
def pollOne : {e : String // e ≠ ""} := ⟨"poll-1", by decide⟩

/-- A chain that accepts every address. -/
def exampleExternals : Externals := ⟨fun _ => true⟩

/-- Governance creates the pool at block 10 and it is funded; the voting
verifier records `verifier1` in the poll; at block 20, two epochs later, epoch 0
is distributed; then the voting verifier records `verifier2` in the same poll. -/
def lateParticipationCalls : List Call :=
  [⟨10, "governance", [], .createPool exampleParams votingVerifierPool⟩,
   ⟨10, "funder", [⟨"uaxl", 1000⟩], .addRewards votingVerifierPool⟩,
   ⟨10, "voting-verifier", [], .recordParticipation osmosis pollOne "verifier1"⟩,
   ⟨20, "anyone", [], .distributeRewards votingVerifierPool none⟩,
   ⟨20, "voting-verifier", [], .recordParticipation osmosis pollOne "verifier2"⟩]

theorem payout_exactly_once_on_late_participation :
    lateParticipationCalls.Pairwise (fun a b => a.blockHeight ≤ b.blockHeight) ∧
    let run := runLog (execute exampleExternals) (instantiate "governance" "uaxl")
      lateParticipationCalls
    run.2.flatMap (epochsPaid examplePool) = List.range (run.1.firstUnpaid examplePool) ∧
    (∀ e ∈ run.2, PaysDueEpochs e.response) ∧
    (∀ e ∈ run.2, RecordsAfterWatermark examplePool e) ∧
    (∀ e ∈ run.2, paidFrom examplePool e ≤ poolBalance e.before examplePool) ∧
    poolBalance run.1 examplePool + (run.2.map (paidFrom examplePool)).sum =
      (run.2.map (addedTo examplePool)).sum :=
  ⟨by decide, payout_exactly_once exampleExternals "governance" "uaxl" examplePool
    lateParticipationCalls (by decide)⟩

/-- All five calls commit, and epoch 0 is paid by the distribution; yet the last
participation, in an event first recorded in epoch 0, is tallied into epoch 0
after the watermark reached it. -/
theorem participation_recorded_into_paid_epoch :
    let log := (runLog (execute exampleExternals) (instantiate "governance" "uaxl")
      lateParticipationCalls).2
    lateParticipationCalls.Pairwise (fun a b => a.blockHeight ≤ b.blockHeight) ∧
    log.length = 5 ∧ log.flatMap (epochsPaid examplePool) = [0] ∧
    ∃ e ∈ log, e.before.watermarks.lookup examplePool = some 0 ∧
      (e.before.tallies.lookup ⟨examplePool, 0⟩).bind
        (fun tally => tally.participation.lookup "verifier2") = none ∧
      (e.after.tallies.lookup ⟨examplePool, 0⟩).bind
        (fun tally => tally.participation.lookup "verifier2") = some 1 := by
  decide

end Amplifier.Rewards
