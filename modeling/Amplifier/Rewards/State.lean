import Amplifier.Lib.Store
import Amplifier.Lib.Transaction
import Amplifier.RouterApi.Primitives
import Amplifier.WasmStd.Access
import Amplifier.WasmStd.Threshold

/-!
# Amplifier.Rewards.State — storage of the rewards contract

The rewards contract pays verifiers for taking part in the events (polls,
signing sessions) of the contracts they serve. A pool of rewards belongs to a
chain and a contract (`PoolId`); time is cut into epochs of a fixed number of
blocks, and each epoch keeps a tally of the events in it and of how many of
them each verifier took part in. Its storage (`state.rs`):

* `POOLS` — each pool's balance and its parameters, with the epoch in which
  they were last set (`ParamsSnapshot`);
* `TALLIES` — the tally of each epoch of each pool;
* `EVENTS` — each event by its id and pool, with the epoch it was first
  recorded in;
* `WATERMARKS` — the last epoch of each pool whose rewards were distributed;
* `VERIFIER_PROXY_ADDRESSES` — where a verifier's rewards are sent instead.

The current epoch is not stored: `Epoch.current` computes it from the block
height and the epoch in which the parameters were set. `u64` and `Uint128`
are natural numbers, with the code's overflow checks and saturation written
out against `uint64Max` and `uint128Max`.
-/

namespace Amplifier.Rewards

open WasmStd RouterApi

/-- `ContractError`, with the errors of the packages it wraps that the handlers
can return. -/
inductive ContractError where
  | rewardsPoolNotFound
  | rewardsPoolAlreadyExists
  | blockHeightInPast
  | overflow
  | poolBalanceInsufficient
  | noRewardsToDistribute
  | wrongDenom
  | zeroRewards
  | permission (err : PermissionError)
  | invalidAddress (address : String)

/-- How a handler fails: with an error, or with a panic and its message. -/
inductive Failure where
  | error (err : ContractError)
  | panic (msg : String)

/-- `msg::Params`: the epoch duration in blocks and the rewards per epoch are
`nonempty` integers. -/
structure Params where
  epochDuration : {n : ℕ // 0 < n}
  rewardsPerEpoch : {n : ℕ // 0 < n}
  participationThreshold : Threshold

/-- `Epoch`. -/
structure Epoch where
  epochNum : ℕ
  blockHeightStarted : ℕ
  deriving DecidableEq

/-- `ParamsSnapshot`: the parameters, and the epoch in which they were set. -/
structure ParamsSnapshot where
  params : Params
  createdAt : Epoch

/-- `PoolId`: a chain and the address of the contract whose events are rewarded. -/
structure PoolId where
  chainName : ChainName
  contract : String
  deriving DecidableEq

/-- `msg::PoolId`: the same, with the address not yet validated. -/
structure MsgPoolId where
  chainName : ChainName
  contract : String

/-- `TallyId`. -/
structure TallyId where
  poolId : PoolId
  epochNum : ℕ
  deriving DecidableEq

/-- `EpochTally`: the events of one epoch of a pool, and how many of them each
verifier took part in. -/
structure EpochTally where
  poolId : PoolId
  eventCount : ℕ
  participation : Map String ℕ
  epoch : Epoch
  params : Params

/-- `Event`: an event, with the epoch it was first recorded in. -/
structure Event where
  eventId : String
  poolId : PoolId
  epochNum : ℕ

/-- `RewardsPool`. -/
structure RewardsPool where
  id : PoolId
  balance : ℕ
  params : ParamsSnapshot

/-- `Verifier`: a verifier, with the proxy its rewards go to. -/
structure Verifier where
  verifierAddress : String
  proxyAddress : Option String

/-- `RewardsDistribution`: what one `distribute_rewards` paid, for which epochs,
in which epoch, and whether more epochs could be paid already. -/
structure RewardsDistribution where
  rewards : List (Verifier × ℕ)
  epochsProcessed : List ℕ
  currentEpoch : Epoch
  canDistributeMore : Bool

/-- `Config`. -/
structure Config where
  rewardsDenom : String

/-- The contract's storage, with the governance address of `permission_control`
(the contract sets no admin). -/
structure State where
  config : Config
  governance : String
  pools : Map PoolId RewardsPool
  tallies : Map TallyId EpochTally
  events : Map (String × PoolId) Event
  watermarks : Map PoolId ℕ
  verifierProxyAddresses : Map String String

/-- `instantiate`: no pool yet. -/
def instantiate (governance rewardsDenom : String) : State where
  config := ⟨rewardsDenom⟩
  governance := governance
  pools := ∅
  tallies := ∅
  events := ∅
  watermarks := ∅
  verifierProxyAddresses := ∅

/-! ## Epochs -/

/-- `Epoch::current`: the epochs elapsed since the parameters were set, counted
in the current epoch duration from the epoch they were set in. -/
def Epoch.current (currentParams : ParamsSnapshot) (curBlockHeight : ℕ) : Except Failure Epoch := do
  let epochDuration := currentParams.params.epochDuration.val
  let lastUpdatedEpoch := currentParams.createdAt
  ensure (¬curBlockHeight < lastUpdatedEpoch.blockHeightStarted) (.error .blockHeightInPast)
  let epochsElapsed := (curBlockHeight - lastUpdatedEpoch.blockHeightStarted) / epochDuration
  let epochNum ← okOr (checkedAdd uint64Max lastUpdatedEpoch.epochNum epochsElapsed)
    (.panic "epoch number should be strictly smaller than the current block height")
  let blockHeightStarted ← okOr (checkedAdd uint64Max lastUpdatedEpoch.blockHeightStarted
      (min (epochsElapsed * epochDuration) uint64Max))
    (.panic "start of current epoch should be strictly smaller than the current block height")
  return ⟨epochNum, blockHeightStarted⟩

/-- The epoch number `Epoch::current` computes, without its overflow checks. -/
def ParamsSnapshot.epochAt (currentParams : ParamsSnapshot) (blockHeight : ℕ) : ℕ :=
  currentParams.createdAt.epochNum +
    (blockHeight - currentParams.createdAt.blockHeightStarted) /
      currentParams.params.epochDuration.val

/-- A computed epoch is the epoch of its height: it starts at or before it, after
the epoch the parameters were set in, and its number is below `u64::MAX`. -/
theorem Epoch.current_eq_ok {currentParams : ParamsSnapshot} {blockHeight : ℕ} {epoch : Epoch}
    (h : Epoch.current currentParams blockHeight = .ok epoch) :
    currentParams.createdAt.blockHeightStarted ≤ blockHeight ∧
      epoch.epochNum = currentParams.epochAt blockHeight ∧ epoch.epochNum ≤ uint64Max ∧
      epoch.blockHeightStarted ≤ blockHeight := by
  simp only [Epoch.current, bind_eq_ok, ensure_eq_ok, okOr_eq_ok, checkedAdd_eq_some,
    decide_eq_true_eq, pure, Except.pure, Except.ok.injEq] at h
  obtain ⟨-, hpast, epochNum, ⟨hnum, rfl⟩, started, ⟨-, rfl⟩, rfl⟩ := h
  -- the whole epochs elapsed fit in the blocks elapsed
  have hfit := Nat.div_mul_le_self (blockHeight - currentParams.createdAt.blockHeightStarted)
    currentParams.params.epochDuration.val
  refine ⟨Nat.le_of_not_lt hpast, rfl, hnum, ?_⟩
  simp only
  omega

/-- Later heights are in later epochs. -/
theorem ParamsSnapshot.epochAt_mono (currentParams : ParamsSnapshot) {h h' : ℕ} (hle : h ≤ h') :
    currentParams.epochAt h ≤ currentParams.epochAt h' := by
  unfold ParamsSnapshot.epochAt
  gcongr

/-- The epoch parameters were set in comes no later than any epoch computed from them. -/
theorem ParamsSnapshot.epochNum_le_epochAt (currentParams : ParamsSnapshot) (h : ℕ) :
    currentParams.createdAt.epochNum ≤ currentParams.epochAt h :=
  Nat.le_add_right _ _

/-! ## Tallies and pools -/

/-- `EpochTally::new`: no event yet. -/
def EpochTally.new (poolId : PoolId) (epoch : Epoch) (params : Params) : EpochTally :=
  ⟨poolId, 0, ∅, epoch, params⟩

/-- `EpochTally::record_participation`: one more event for the verifier. -/
def EpochTally.recordParticipation (tally : EpochTally) (verifier : String) : EpochTally :=
  let count := match tally.participation.lookup verifier with
    | some count => min (count + 1) uint64Max
    | none => 1
  { tally with participation := tally.participation.insert verifier count }

/-- `EpochTally::verifiers_to_reward`: the verifiers whose share of the epoch's
events meets the participation threshold. A share that is not a threshold (no
event, or more participations than events) rewards nothing. -/
def EpochTally.verifiersToReward (tally : EpochTally) : List String :=
  tally.participation.entries.filterMap fun e =>
    match Threshold.tryFrom e.2 tally.eventCount with
    | .ok participation =>
        if tally.params.participationThreshold.le participation then some e.1 else none
    | .error _ => none

/-- `EpochTally::rewards_by_verifier`: the rewards of the epoch split equally
among the verifiers to reward, nothing when a share rounds down to zero
(`checked_div` by no verifier is zero too, as `/` on `ℕ` is). -/
def EpochTally.rewardsByVerifier (tally : EpochTally) : Map String ℕ :=
  let verifiersToReward := tally.verifiersToReward
  let rewardsPerVerifier := tally.params.rewardsPerEpoch.val / verifiersToReward.length
  if rewardsPerVerifier = 0 then ∅
  else Map.ofList (verifiersToReward.map fun verifier => (verifier, rewardsPerVerifier))

/-- `RewardsPool::sub_reward`: a reward above the balance is refused. -/
def RewardsPool.subReward (pool : RewardsPool) (reward : ℕ) : Except Failure RewardsPool :=
  if reward ≤ pool.balance then .ok { pool with balance := pool.balance - reward }
  else .error (.error .poolBalanceInsufficient)

theorem RewardsPool.subReward_eq_ok {pool pool' : RewardsPool} {reward : ℕ} :
    pool.subReward reward = .ok pool' ↔
      reward ≤ pool.balance ∧ pool' = { pool with balance := pool.balance - reward } := by
  unfold RewardsPool.subReward
  split_ifs with h <;> simp [h, eq_comm]

/-! ## Storage helpers -/

/-- `load_rewards_pool`. -/
def loadRewardsPool (s : State) (poolId : PoolId) : Except Failure RewardsPool :=
  okOr (s.pools.lookup poolId) (.error .rewardsPoolNotFound)

/-- `state::current_epoch`: the epoch of a pool at a height. -/
def currentEpoch (s : State) (poolId : PoolId) (curBlockHeight : ℕ) : Except Failure Epoch := do
  let pool ← loadRewardsPool s poolId
  Epoch.current pool.params curBlockHeight

/-- `save_epoch_tally`: under the tally's own pool and epoch. -/
def saveEpochTally (tallies : Map TallyId EpochTally) (tally : EpochTally) :
    Map TallyId EpochTally :=
  tallies.insert ⟨tally.poolId, tally.epoch.epochNum⟩ tally

/-- `save_rewards_pool`: under the pool's own id. -/
def saveRewardsPool (pools : Map PoolId RewardsPool) (pool : RewardsPool) :
    Map PoolId RewardsPool :=
  pools.insert pool.id pool

/-- `load_verifier`: a verifier with its proxy. -/
def loadVerifier (s : State) (verifierAddr : String) : Verifier :=
  ⟨verifierAddr, s.verifierProxyAddresses.lookup verifierAddr⟩

end Amplifier.Rewards
