import Amplifier.Rewards.Spec

/-!
# Amplifier.Rewards.Epochs — a pool's epochs keep in step with the blocks

`Epoch::current` derives a pool's epoch from the block height and the epoch its
parameters were last set in (the anchor), and `update_pool_params` moves the
anchor: to the current epoch, or to a new epoch starting at this block when the
new duration has already run out. The arithmetic panics if an epoch number or a
first block would pass `u64::MAX`, and refuses a height before the anchor.

From `create_pool`, along any run of updates and queries at non-decreasing
heights, the anchor keeps `EpochInv`: its number is at most its first block,
which is at most the height. From such an anchor

* a query cannot fail and returns the epoch `epochAt` and `startAt` compute
  (`currentEpoch_of_epochInv`); an update fails only when the new duration
  overflows past the current epoch's start (`updatePoolParams_error_of_epochInv`);
* the epoch at a height never goes back: not as the height grows
  (`epochOf_mono`), nor across an update, which moves the epoch of its own
  height by at most one (`updatePoolParams_of_epochInv`).

`epoch_arithmetic_monotone` reads these off the log of a whole run.
-/

namespace Amplifier.Rewards

open WasmStd

/-! ## The epoch of a height -/

/-- The first block of the epoch `Epoch::current` computes, without its overflow checks. -/
def ParamsSnapshot.startAt (currentParams : ParamsSnapshot) (blockHeight : ℕ) : ℕ :=
  currentParams.createdAt.blockHeightStarted +
    (blockHeight - currentParams.createdAt.blockHeightStarted) /
      currentParams.params.epochDuration.val * currentParams.params.epochDuration.val

theorem ParamsSnapshot.startAt_mono (currentParams : ParamsSnapshot) {h h' : ℕ} (hle : h ≤ h') :
    currentParams.startAt h ≤ currentParams.startAt h' := by
  unfold ParamsSnapshot.startAt
  gcongr

/-- At the anchor's first block, the epoch is the anchor. -/
theorem ParamsSnapshot.epochAt_start (currentParams : ParamsSnapshot) :
    currentParams.epochAt currentParams.createdAt.blockHeightStarted =
        currentParams.createdAt.epochNum ∧
      currentParams.startAt currentParams.createdAt.blockHeightStarted =
        currentParams.createdAt.blockHeightStarted := by
  simp [ParamsSnapshot.epochAt, ParamsSnapshot.startAt]

/-- Within one duration of the anchor's first block, the epoch is the anchor or the
one after it. -/
theorem ParamsSnapshot.epochAt_le_succ (currentParams : ParamsSnapshot) (blockHeight : ℕ)
    (hwithin : blockHeight ≤ currentParams.createdAt.blockHeightStarted +
      currentParams.params.epochDuration.val) :
    currentParams.epochAt blockHeight ≤ currentParams.createdAt.epochNum + 1 := by
  unfold ParamsSnapshot.epochAt
  have hsteps : (blockHeight - currentParams.createdAt.blockHeightStarted) /
      currentParams.params.epochDuration.val ≤ 1 :=
    Nat.div_le_of_le_mul (by omega)
  omega

theorem ParamsSnapshot.start_le_startAt (currentParams : ParamsSnapshot) (blockHeight : ℕ) :
    currentParams.createdAt.blockHeightStarted ≤ currentParams.startAt blockHeight :=
  Nat.le_add_right _ _

/-- From an anchor whose number is at most its first block, `Epoch::current` at a
`u64` height at or after the anchor cannot fail: it returns the epoch of the
height, whose number is at most its first block, which is at most the height. -/
theorem Epoch.current_of_le {currentParams : ParamsSnapshot} {blockHeight : ℕ}
    (hanchor : currentParams.createdAt.epochNum ≤ currentParams.createdAt.blockHeightStarted)
    (hstarted : currentParams.createdAt.blockHeightStarted ≤ blockHeight)
    (hmax : blockHeight ≤ uint64Max) :
    Epoch.current currentParams blockHeight =
        .ok ⟨currentParams.epochAt blockHeight, currentParams.startAt blockHeight⟩ ∧
      currentParams.epochAt blockHeight ≤ currentParams.startAt blockHeight ∧
      currentParams.startAt blockHeight ≤ blockHeight := by
  have hd : 0 < currentParams.params.epochDuration.val := currentParams.params.epochDuration.property
  -- the whole epochs elapsed fit in the blocks elapsed, and each takes at least one block
  have hfit := Nat.div_mul_le_self (blockHeight - currentParams.createdAt.blockHeightStarted)
    currentParams.params.epochDuration.val
  have hk := Nat.le_mul_of_pos_right
    ((blockHeight - currentParams.createdAt.blockHeightStarted) /
      currentParams.params.epochDuration.val) hd
  have hnum : currentParams.epochAt blockHeight ≤ currentParams.startAt blockHeight := by
    unfold ParamsSnapshot.epochAt ParamsSnapshot.startAt
    omega
  have hstart : currentParams.startAt blockHeight ≤ blockHeight := by
    unfold ParamsSnapshot.startAt
    omega
  refine ⟨?_, hnum, hstart⟩
  -- neither `checked_add` overflows and `saturating_mul` does not saturate
  have hmin : min ((blockHeight - currentParams.createdAt.blockHeightStarted) /
      currentParams.params.epochDuration.val * currentParams.params.epochDuration.val) uint64Max =
      (blockHeight - currentParams.createdAt.blockHeightStarted) /
        currentParams.params.epochDuration.val * currentParams.params.epochDuration.val :=
    min_eq_left (by omega)
  unfold ParamsSnapshot.epochAt ParamsSnapshot.startAt at *
  have hnumMax : currentParams.createdAt.epochNum +
      (blockHeight - currentParams.createdAt.blockHeightStarted) /
        currentParams.params.epochDuration.val ≤ uint64Max := by omega
  have hstartMax : currentParams.createdAt.blockHeightStarted +
      (blockHeight - currentParams.createdAt.blockHeightStarted) /
        currentParams.params.epochDuration.val * currentParams.params.epochDuration.val ≤
      uint64Max := by omega
  simp only [Epoch.current, ensure, okOr, checkedAdd, hmin, if_pos hnumMax, if_pos hstartMax,
    Nat.not_lt.mpr hstarted, decide_not]
  rfl

/-- The epoch of a pool at a height, as its number and its first block (`(0, 0)`
for a missing pool). -/
def epochOf (poolId : PoolId) (blockHeight : ℕ) (s : State) : ℕ × ℕ :=
  match s.pools.lookup poolId with
  | some pool => (pool.params.epochAt blockHeight, pool.params.startAt blockHeight)
  | none => (0, 0)

theorem epochOf_of_lookup {poolId : PoolId} {blockHeight : ℕ} {s : State} {pool : RewardsPool}
    (h : s.pools.lookup poolId = some pool) :
    epochOf poolId blockHeight s = (pool.params.epochAt blockHeight, pool.params.startAt blockHeight) := by
  simp [epochOf, h]

/-! ## The anchor -/

/-- The anchor of a pool's epochs at a height: the pool exists, and the epoch its
parameters were set in has a number at most its first block, which is at most
the height. -/
def EpochInv (poolId : PoolId) (blockHeight : ℕ) (s : State) : Prop :=
  ∃ pool, s.pools.lookup poolId = some pool ∧
    pool.params.createdAt.epochNum ≤ pool.params.createdAt.blockHeightStarted ∧
    pool.params.createdAt.blockHeightStarted ≤ blockHeight

theorem epochInv_createPool {s s' : State} {params : Params} {blockHeight : ℕ} {poolId : PoolId}
    (h : createPool s params blockHeight poolId = .ok s') : EpochInv poolId blockHeight s' := by
  obtain ⟨-, rfl⟩ := createPool_eq_ok.mp h
  exact ⟨_, AList.lookup_insert _, Nat.zero_le _, le_refl _⟩

/-- A later height keeps the anchor and reaches no earlier epoch. -/
theorem epochOf_mono {poolId : PoolId} {h h' : ℕ} {s : State} (hle : h ≤ h')
    (hinv : EpochInv poolId h s) : EpochInv poolId h' s ∧ epochOf poolId h s ≤ epochOf poolId h' s := by
  obtain ⟨pool, hpool, hanchor, hstarted⟩ := hinv
  refine ⟨⟨pool, hpool, hanchor, hstarted.trans hle⟩, ?_⟩
  rw [epochOf_of_lookup hpool, epochOf_of_lookup hpool]
  exact Prod.mk_le_mk.mpr ⟨pool.params.epochAt_mono hle, pool.params.startAt_mono hle⟩

theorem currentEpoch_of_epochInv {poolId : PoolId} {h : ℕ} {s : State}
    (hinv : EpochInv poolId h s) (hmax : h ≤ uint64Max) :
    ∃ pool, s.pools.lookup poolId = some pool ∧
      currentEpoch s poolId h = .ok ⟨pool.params.epochAt h, pool.params.startAt h⟩ ∧
      pool.params.epochAt h ≤ pool.params.startAt h ∧ pool.params.startAt h ≤ h := by
  obtain ⟨pool, hpool, hanchor, hstarted⟩ := hinv
  obtain ⟨hcur, hle⟩ := Epoch.current_of_le hanchor hstarted hmax
  exact ⟨pool, hpool, currentEpoch_eq_ok.mpr ⟨pool, hpool, hcur⟩, hle⟩

/-- From an anchor, `update_pool_params` at a `u64` height neither panics nor
finds the height in the past: it fails only when the new duration overflows. -/
theorem updatePoolParams_error_of_epochInv {poolId : PoolId} {h : ℕ} {s : State}
    {newParams : Params} (hinv : EpochInv poolId h s) (hmax : h ≤ uint64Max) {err : Failure}
    (herr : updatePoolParams s poolId newParams h = .error err) : err = .error .overflow := by
  obtain ⟨pool, hpool, hcur, hnum, hstart⟩ := currentEpoch_of_epochInv hinv hmax
  unfold updatePoolParams at herr
  rw [hcur] at herr
  by_cases hends : pool.params.startAt h + newParams.epochDuration.val ≤ uint64Max
  · -- the new epoch's number fits, since it is at most the height; the pool loads
    have hpool' : loadRewardsPool s poolId = .ok pool := loadRewardsPool_eq_ok.mpr hpool
    by_cases hnew : pool.params.startAt h + newParams.epochDuration.val < h
    · have hnext : pool.params.epochAt h + 1 ≤ uint64Max := by omega
      simp [okOr, checkedAdd, hends, hnew, hnext, hpool', bind, Except.bind, pure,
        Except.pure] at herr
    · simp [okOr, checkedAdd, hends, hnew, hpool', bind, Except.bind, pure, Except.pure] at herr
  · simp [okOr, checkedAdd, hends, bind, Except.bind] at herr
    exact herr.symm

/-- A committed `update_pool_params` keeps the anchor, and moves the epoch of its
own height forward by at most one: to a new epoch starting at this block, or
within the current epoch, which the new duration has not yet run out. -/
theorem updatePoolParams_of_epochInv {poolId : PoolId} {h : ℕ} {s s' : State}
    {newParams : Params} (hinv : EpochInv poolId h s) (hmax : h ≤ uint64Max)
    (hok : updatePoolParams s poolId newParams h = .ok s') :
    EpochInv poolId h s' ∧ epochOf poolId h s ≤ epochOf poolId h s' ∧
      (epochOf poolId h s').1 ≤ (epochOf poolId h s).1 + 1 := by
  obtain ⟨pool, hpool, hcur, hnum, hstart⟩ := currentEpoch_of_epochInv hinv hmax
  obtain ⟨pool', curEpoch, newEpoch, tallies, hpool', hcur', hnew, hs'⟩ := updatePoolParams_eq_ok hok
  -- the update found the anchor's pool, and the current epoch of the height
  rw [hpool, Option.some.injEq] at hpool'
  subst hpool'
  obtain ⟨_, hpool'', hcur''⟩ := currentEpoch_eq_ok.mp hcur
  rw [hpool, Option.some.injEq] at hpool''
  subst hpool''
  rw [hcur', Except.ok.injEq] at hcur''
  subst hcur''
  have hlook : s'.pools.lookup poolId = some ⟨poolId, pool.balance, ⟨newParams, newEpoch⟩⟩ := by
    rw [hs']
    exact AList.lookup_insert _
  rw [epochOf_of_lookup hpool, epochOf_of_lookup hlook, Prod.mk_le_mk]
  have hd := newParams.epochDuration.property
  split_ifs at hnew with hends <;> subst hnew <;> dsimp only at hends ⊢
  · -- a new epoch starts at this block, numbered one after the current one
    obtain ⟨hnum', hstart'⟩ := ParamsSnapshot.epochAt_start ⟨newParams, ⟨pool.params.epochAt h + 1, h⟩⟩
    dsimp only at hnum' hstart'
    rw [hnum', hstart']
    refine ⟨⟨_, hlook, ?_, le_refl h⟩, ⟨by omega, hstart⟩, le_refl _⟩
    dsimp only
    omega
  · -- the current epoch stays, and the new duration has not run out at this height
    have hnext := ParamsSnapshot.epochAt_le_succ
      ⟨newParams, ⟨pool.params.epochAt h, pool.params.startAt h⟩⟩ h (by dsimp only; omega)
    have hfrom := ParamsSnapshot.epochNum_le_epochAt
      ⟨newParams, ⟨pool.params.epochAt h, pool.params.startAt h⟩⟩ h
    have hstartFrom := ParamsSnapshot.start_le_startAt
      ⟨newParams, ⟨pool.params.epochAt h, pool.params.startAt h⟩⟩ h
    dsimp only at hnext hfrom hstartFrom
    exact ⟨⟨_, hlook, hnum, hstart⟩, ⟨hfrom, hstartFrom⟩, hnext⟩

/-! ## Runs of updates and queries -/

/-- An operation on one pool's epochs at a `u64` block height: `update_pool_params`,
or an `Epoch::current` query. -/
inductive EpochOp where
  | update (newParams : Params) (blockHeight : UInt64)
  | current (blockHeight : UInt64)

def EpochOp.blockHeight : EpochOp → ℕ
  | .update _ h => h.toNat
  | .current h => h.toNat

theorem EpochOp.blockHeight_le (op : EpochOp) : op.blockHeight ≤ uint64Max := by
  have hlt : ∀ h : UInt64, h.toNat ≤ uint64Max := fun h => by
    have := h.toNat_lt
    unfold uint64Max
    omega
  cases op with
  | update _ h => exact hlt h
  | current h => exact hlt h

/-- The operation on the contract's storage: an update stores the new parameters;
a query returns the pool's current epoch and changes nothing. -/
def epochStep (poolId : PoolId) (s : State) : EpochOp → Except Failure (State × Option Epoch)
  | .update newParams h => (fun s' => (s', none)) <$> updatePoolParams s poolId newParams h.toNat
  | .current h => (fun epoch => (s, some epoch)) <$> currentEpoch s poolId h.toNat

/-- The epoch a logged operation returned: a query's, when it succeeded. -/
def returnedEpoch (e : Committed State EpochOp (Except Failure (Option Epoch))) : Option Epoch :=
  match e.response with
  | .ok (some epoch) => some epoch
  | _ => none

/-- One operation at its height, from an anchor: it keeps the anchor and the epoch
of the height does not go back. -/
theorem epochStep_of_epochInv {poolId : PoolId} {s s' : State} {op : EpochOp}
    {r : Except Failure (Option Epoch)} (hinv : EpochInv poolId op.blockHeight s)
    (hok : withOutcome (epochStep poolId) s op = .ok (s', r)) :
    EpochInv poolId op.blockHeight s' ∧
      epochOf poolId op.blockHeight s ≤ epochOf poolId op.blockHeight s' := by
  rcases withOutcome_eq_ok.mp hok with ⟨r', hexec, -⟩ | ⟨-, -, rfl, -⟩
  · cases op with
    | update newParams h =>
        obtain ⟨s₁, hupdate, hpair⟩ := map_eq_ok.mp hexec
        cases hpair
        obtain ⟨hinv', hmono, -⟩ :=
          updatePoolParams_of_epochInv hinv (EpochOp.blockHeight_le _) hupdate
        exact ⟨hinv', hmono⟩
    | current h =>
        obtain ⟨epoch, -, hpair⟩ := map_eq_ok.mp hexec
        cases hpair
        exact ⟨hinv, le_refl _⟩
  · exact ⟨hinv, le_refl _⟩

/-- What one operation at its height reports, from an anchor: only an update whose
new duration overflows fails; a query returns the epoch of its height, whose
number is at most its first block, which is at most the height; an update moves
the epoch of its height by at most one. -/
theorem epochStep_response {poolId : PoolId} {s s' : State} {op : EpochOp}
    {r : Except Failure (Option Epoch)} (hinv : EpochInv poolId op.blockHeight s)
    (hok : withOutcome (epochStep poolId) s op = .ok (s', r)) :
    (∀ err, r = .error err → err = .error .overflow ∧ ∃ newParams h, op = .update newParams h) ∧
    (∀ epoch, returnedEpoch ⟨s, op, s', r⟩ = some epoch →
      (epoch.epochNum, epoch.blockHeightStarted) = epochOf poolId op.blockHeight s ∧
      epoch.epochNum ≤ epoch.blockHeightStarted ∧ epoch.blockHeightStarted ≤ op.blockHeight) ∧
    (∀ newParams h, op = .update newParams h → r = .ok none →
      ∃ epoch epoch', currentEpoch s poolId h.toNat = .ok epoch ∧
        currentEpoch s' poolId h.toNat = .ok epoch' ∧
        epoch.epochNum ≤ epoch'.epochNum ∧ epoch'.epochNum ≤ epoch.epochNum + 1) := by
  have hmax := op.blockHeight_le
  obtain ⟨pool, hpool, hcur, hnum, hstart⟩ := currentEpoch_of_epochInv hinv hmax
  rcases withOutcome_eq_ok.mp hok with ⟨r', hexec, rfl⟩ | ⟨err, herr, rfl, rfl⟩
  · cases op with
    | update newParams h =>
        obtain ⟨s₁, hupdate, hpair⟩ := map_eq_ok.mp hexec
        cases hpair
        refine ⟨by simp, by simp [returnedEpoch], ?_⟩
        rintro _ _ ⟨⟩ -
        -- the epoch of the height before and after, by the anchor each keeps
        obtain ⟨hinv', hmono, hsucc⟩ := updatePoolParams_of_epochInv hinv hmax hupdate
        obtain ⟨pool', hpool', hcur', -, -⟩ := currentEpoch_of_epochInv hinv' hmax
        rw [epochOf_of_lookup hpool, epochOf_of_lookup hpool'] at hmono hsucc
        exact ⟨_, _, hcur, hcur', (Prod.mk_le_mk.mp hmono).1, hsucc⟩
    | current h =>
        obtain ⟨epoch, hquery, hpair⟩ := map_eq_ok.mp hexec
        cases hpair
        dsimp only [EpochOp.blockHeight] at hcur hnum hstart ⊢
        rw [hcur, Except.ok.injEq] at hquery
        subst hquery
        refine ⟨by simp, ?_, by simp⟩
        intro epoch hepoch
        simp only [returnedEpoch, Option.some.injEq] at hepoch
        subst hepoch
        exact ⟨(epochOf_of_lookup hpool).symm, hnum, hstart⟩
  · cases op with
    | update newParams h =>
        have hoverflow := updatePoolParams_error_of_epochInv hinv hmax (map_eq_error.mp herr)
        refine ⟨?_, by simp [returnedEpoch], by simp⟩
        rintro _ ⟨⟩
        exact ⟨hoverflow, newParams, h, rfl⟩
    | current h =>
        -- a query from an anchor cannot fail
        dsimp only [EpochOp.blockHeight] at hcur
        rw [epochStep, map_eq_error] at herr
        rw [herr] at hcur
        cases hcur

/-- Epoch arithmetic from `create_pool` at height `h₀`: along every run of
`update_pool_params` calls and `Epoch::current` queries at non-decreasing `u64`
heights from `h₀`, no call panics or finds its height in the past (only an update
whose new duration overflows past the current epoch's start fails); the stored
anchor and every returned epoch have a number at most their first block, which is
at most the height; the returned epochs never go back; and an update moves the
epoch of its own height forward by at most one. -/
theorem epoch_arithmetic_monotone {s s₀ : State} {params : Params} {h₀ : ℕ} {poolId : PoolId}
    (hcreate : createPool s params h₀ poolId = .ok s₀) (ops : List EpochOp)
    (hfrom : ∀ op ∈ ops, h₀ ≤ op.blockHeight)
    (hsorted : ops.Pairwise fun op op' => op.blockHeight ≤ op'.blockHeight) :
    let log := (runLog (withOutcome (epochStep poolId)) s₀ ops).2
    (∀ e ∈ log, ∀ err, e.response = .error err →
      err = .error .overflow ∧ ∃ newParams h, e.msg = .update newParams h) ∧
    (∀ e ∈ log, ∃ pool, e.after.pools.lookup poolId = some pool ∧
      pool.params.createdAt.epochNum ≤ pool.params.createdAt.blockHeightStarted ∧
      pool.params.createdAt.blockHeightStarted ≤ e.msg.blockHeight) ∧
    (∀ e ∈ log, ∀ epoch, returnedEpoch e = some epoch →
      epoch.epochNum ≤ epoch.blockHeightStarted ∧ epoch.blockHeightStarted ≤ e.msg.blockHeight) ∧
    (log.filterMap returnedEpoch).Pairwise (fun epoch epoch' =>
      epoch.epochNum ≤ epoch'.epochNum ∧ epoch.blockHeightStarted ≤ epoch'.blockHeightStarted) ∧
    (∀ e ∈ log, ∀ newParams h, e.msg = .update newParams h → e.response = .ok none →
      ∃ epoch epoch', currentEpoch e.before poolId h.toNat = .ok epoch ∧
        currentEpoch e.after poolId h.toNat = .ok epoch' ∧
        epoch.epochNum ≤ epoch'.epochNum ∧ epoch'.epochNum ≤ epoch.epochNum + 1) := by
  intro log
  have hinit : EpochInv poolId h₀ s₀ := epochInv_createPool hcreate
  -- every logged operation starts from an anchor at its own height
  have hlog : ∀ e ∈ log, EpochInv poolId e.msg.blockHeight e.before ∧
      withOutcome (epochStep poolId) e.before e.msg = .ok (e.after, e.response) :=
    runLog_forall_of_clocked EpochOp.blockHeight (EpochInv poolId)
      (fun e => EpochInv poolId e.msg.blockHeight e.before ∧
        withOutcome (epochStep poolId) e.before e.msg = .ok (e.after, e.response))
      (fun _ _ _ hle hinv => (epochOf_mono hle hinv).1)
      (fun _ hinv hok => ⟨(epochStep_of_epochInv hinv hok).1, hinv, hok⟩) hinit hfrom hsorted
  -- the epoch of the height never goes back along the run
  obtain ⟨-, hpair⟩ := runLog_pairwise_of_clocked EpochOp.blockHeight (EpochInv poolId)
    (epochOf poolId) (fun _ _ _ hle hinv => epochOf_mono hle hinv)
    (fun _ _ _ _ hinv hok => epochStep_of_epochInv hinv hok) hinit hfrom hsorted
  refine ⟨?_, ?_, ?_, ?_, ?_⟩
  · intro e he
    exact (epochStep_response (hlog e he).1 (hlog e he).2).1
  · intro e he
    exact (epochStep_of_epochInv (hlog e he).1 (hlog e he).2).1
  · intro e he epoch hepoch
    exact ((epochStep_response (hlog e he).1 (hlog e he).2).2.1 epoch hepoch).2
  · -- each returned epoch is the epoch of its height where its query started
    rw [List.pairwise_filterMap]
    refine hpair.imp_of_mem fun he he' hle epoch hepoch epoch' hepoch' => ?_
    have hfst := ((epochStep_response (hlog _ he).1 (hlog _ he).2).2.1 epoch hepoch).1
    have hsnd := ((epochStep_response (hlog _ he').1 (hlog _ he').2).2.1 epoch' hepoch').1
    rw [← hfst, ← hsnd] at hle
    exact Prod.mk_le_mk.mp hle
  · intro e he
    exact (epochStep_response (hlog e he).1 (hlog e he).2).2.2

/-- The pool of the multisig contract of the chain `"sui"`. -/
def suiPool : PoolId := ⟨⟨"sui", by decide, by decide⟩, "multisig"⟩

/-- Parameters with epochs of `duration` blocks, 53 per epoch, for the verifiers
in at least 17/19 of the events. -/
def epochParams (duration : {n : ℕ // 0 < n}) : Params :=
  ⟨duration, ⟨53, by decide⟩, ⟨17, 19, by decide, by decide, by decide⟩⟩

/-- Queries at 125 and 126, an update to epochs of nine blocks at 126, and a
query at 145. -/
def epochOps : List EpochOp :=
  [.current 125, .current 126, .update (epochParams ⟨9, by decide⟩) 126, .current 145]

theorem epoch_arithmetic_monotone_after_update :
    ∃ s₀, createPool (instantiate "governance" "uaxl") (epochParams ⟨13, by decide⟩) 100 suiPool =
        .ok s₀ ∧
      (∀ op ∈ epochOps, 100 ≤ op.blockHeight) ∧
      epochOps.Pairwise (fun op op' => op.blockHeight ≤ op'.blockHeight) ∧
      let log := (runLog (withOutcome (epochStep suiPool)) s₀ epochOps).2
      (∀ e ∈ log, ∀ err, e.response = .error err →
        err = .error .overflow ∧ ∃ newParams h, e.msg = .update newParams h) ∧
      (∀ e ∈ log, ∃ pool, e.after.pools.lookup suiPool = some pool ∧
        pool.params.createdAt.epochNum ≤ pool.params.createdAt.blockHeightStarted ∧
        pool.params.createdAt.blockHeightStarted ≤ e.msg.blockHeight) ∧
      (∀ e ∈ log, ∀ epoch, returnedEpoch e = some epoch →
        epoch.epochNum ≤ epoch.blockHeightStarted ∧ epoch.blockHeightStarted ≤ e.msg.blockHeight) ∧
      (log.filterMap returnedEpoch).Pairwise (fun epoch epoch' =>
        epoch.epochNum ≤ epoch'.epochNum ∧ epoch.blockHeightStarted ≤ epoch'.blockHeightStarted) ∧
      (∀ e ∈ log, ∀ newParams h, e.msg = .update newParams h → e.response = .ok none →
        ∃ epoch epoch', currentEpoch e.before suiPool h.toNat = .ok epoch ∧
          currentEpoch e.after suiPool h.toNat = .ok epoch' ∧
          epoch.epochNum ≤ epoch'.epochNum ∧ epoch'.epochNum ≤ epoch.epochNum + 1) := by
  obtain ⟨s₀, hcreate⟩ : ∃ s₀, createPool (instantiate "governance" "uaxl")
      (epochParams ⟨13, by decide⟩) 100 suiPool = .ok s₀ := ⟨_, rfl⟩
  exact ⟨s₀, hcreate, by decide, by decide,
    epoch_arithmetic_monotone hcreate epochOps (by decide) (by decide)⟩

end Amplifier.Rewards
