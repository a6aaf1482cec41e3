import Amplifier.Lib.Bank
import Amplifier.Rewards.State

/-!
# Amplifier.Rewards.Execute — the handlers of the rewards contract

`contract.rs`'s `execute` and the handlers of `contract/execute.rs`:

* `recordParticipation` — the contract of a pool records that a verifier took
  part in an event. The event keeps the epoch it was first recorded in, and
  each later participation in it is tallied in that epoch (`loadOrStoreEvent`);
* `distributeRewards` — anyone pays a pool's rewards for the epochs after its
  watermark, up to a limit and up to two epochs before the current one: the
  tallies of those epochs are split among their verifiers (`cumulateRewards`),
  the total leaves the pool's balance, and the watermark moves to the last
  epoch paid;
* `createPool`, `updatePoolParams` — governance creates a pool, and changes its
  parameters from the current epoch on: if the new duration has already run
  out, a new epoch starts at this block;
* `addRewards` — anyone adds funds of the rewards denomination to a pool;
* `setVerifierProxy`, `removeVerifierProxy` — a verifier chooses where its
  rewards go.

The rewards a distribution pays are sent as one bank message per verifier,
sorted, and reported with the epochs processed in a `rewards_distributed`
event.
-/

namespace Amplifier.Rewards

open WasmStd RouterApi

/-- `DEFAULT_EPOCHS_TO_PROCESS`. -/
def defaultEpochsToProcess : ℕ := 10

/-- `EPOCH_PAYOUT_DELAY`: an epoch is paid two epochs after it. -/
def epochPayoutDelay : ℕ := 2

/-! ## Participation -/

/-- `StorageState`: whether `load_or_store_event` found the event or stored it. -/
inductive StorageState (α : Type) where
  | existing (value : α)
  | new (value : α)

/-- `StorageState`'s `Deref`. -/
def StorageState.value {α : Type} : StorageState α → α
  | .existing value | .new value => value

/-- `load_or_store_event`: the stored event, or a new one in the current epoch. -/
def loadOrStoreEvent (s : State) (eventId : String) (poolId : PoolId) (curEpochNum : ℕ) :
    State × StorageState Event :=
  match s.events.lookup (eventId, poolId) with
  | none =>
      let event : Event := ⟨eventId, poolId, curEpochNum⟩
      ({ s with events := s.events.insert (eventId, poolId) event }, .new event)
  | some event => (s, .existing event)

/-- `record_participation`: the participation is tallied in the event's epoch,
in a new tally of the current epoch if that epoch has none; only a new event
counts as one more event of the tally. -/
def recordParticipation (s : State) (eventId : String) (verifier : String) (poolId : PoolId)
    (blockHeight : ℕ) : Except Failure State := do
  let currentParams := (← loadRewardsPool s poolId).params
  let curEpoch ← Epoch.current currentParams blockHeight
  let stored := loadOrStoreEvent s eventId poolId curEpoch.epochNum
  let tally := ((stored.1.tallies.lookup ⟨poolId, stored.2.value.epochNum⟩).getD
    (EpochTally.new poolId curEpoch currentParams.params)).recordParticipation verifier
  let tally := match stored.2 with
    | .new _ => { tally with eventCount := min (tally.eventCount + 1) uint64Max }
    | .existing _ => tally
  return { stored.1 with tallies := saveEpochTally stored.1.tallies tally }

/-! ## Distribution -/

/-- `merge_rewards`: the second map's amounts added into the first, failing on
a `Uint128` overflow. -/
def mergeRewards (rewards₁ rewards₂ : Map String ℕ) : Except Failure (Map String ℕ) :=
  rewards₂.entries.foldlM (fun rewards e => do
    let r ← okOr (checkedAdd uint128Max ((rewards.lookup e.1).getD 0) e.2) (.error .overflow)
    return rewards.insert e.1 r) rewards₁

/-- `iterate_epoch_tallies`: the tallies of the epochs `from..=to` that exist. -/
def iterateEpochTallies (s : State) (poolId : PoolId) (fromEpoch toEpoch : ℕ) :
    List EpochTally :=
  (List.range' fromEpoch (toEpoch + 1 - fromEpoch)).filterMap fun epochNum =>
    s.tallies.lookup ⟨poolId, epochNum⟩

/-- `cumulate_rewards`: each verifier's rewards over the epochs `from..=to`. -/
def cumulateRewards (s : State) (poolId : PoolId) (fromEpoch toEpoch : ℕ) :
    Except Failure (Map String ℕ) :=
  ((iterateEpochTallies s poolId fromEpoch toEpoch).map EpochTally.rewardsByVerifier).foldlM
    mergeRewards ∅

/-- `rewards.values().sum()`: `Uint128`'s `Sum` panics on overflow. -/
def sumRewards (rewards : Map String ℕ) : Except Failure ℕ :=
  rewards.entries.foldlM
    (fun total e => okOr (checkedAdd uint128Max total e.2) (.panic "attempt to add with overflow"))
    0

/-- `process_rewards_for_epochs`: the rewards of the epochs, taken from the pool. -/
def processRewardsForEpochs (s : State) (poolId : PoolId) (fromEpoch toEpoch : ℕ) :
    Except Failure (State × Map String ℕ) := do
  let rewards ← cumulateRewards s poolId fromEpoch toEpoch
  let pool ← loadRewardsPool s poolId
  let pool ← pool.subReward (← sumRewards rewards)
  return ({ s with pools := saveRewardsPool s.pools pool }, rewards)

/-- The first epoch a distribution pays (`from`): the one after the watermark,
saturating as `u64` does, or the first epoch if none was paid yet. -/
def firstUnpaidEpoch (watermark : Option ℕ) : ℕ :=
  watermark.elim 0 fun lastProcessed => min (lastProcessed + 1) uint64Max

/-- `distribute_rewards`: the epochs after the watermark (`from`), at most
`epoch_process_limit` of them and none of the last two (`to`); the bounds
saturate as `u64` does. -/
def distributeRewards (s : State) (poolId : PoolId) (curBlockHeight : ℕ)
    (epochProcessLimit : Option ℕ) : Except Failure (State × RewardsDistribution) := do
  let epochProcessLimit := epochProcessLimit.getD defaultEpochsToProcess
  let curEpoch ← currentEpoch s poolId curBlockHeight
  let fromEpoch := firstUnpaidEpoch (s.watermarks.lookup poolId)
  let toEpoch := min (min (fromEpoch + epochProcessLimit) uint64Max - 1)
    (curEpoch.epochNum - epochPayoutDelay)
  ensure (!(decide (toEpoch < fromEpoch) || decide (curEpoch.epochNum < epochPayoutDelay)))
    (.error .noRewardsToDistribute)
  let processed ← processRewardsForEpochs s poolId fromEpoch toEpoch
  let s' := { processed.1 with watermarks := processed.1.watermarks.insert poolId toEpoch }
  return (s', ⟨processed.2.entries.map (fun e => (loadVerifier s' e.1, e.2)),
    List.range' fromEpoch (toEpoch + 1 - fromEpoch), curEpoch,
    decide (toEpoch < curEpoch.epochNum - epochPayoutDelay)⟩)

/-! ## Pools and proxies -/

/-- `create_pool`: a new pool, empty, whose first epoch starts at this block. -/
def createPool (s : State) (params : Params) (blockHeight : ℕ) (poolId : PoolId) :
    Except Failure State := do
  ensure (s.pools.lookup poolId).isNone (.error .rewardsPoolAlreadyExists)
  let curEpoch : Epoch := ⟨0, blockHeight⟩
  let pool : RewardsPool := ⟨poolId, 0, ⟨params, curEpoch⟩⟩
  return { s with pools := saveRewardsPool s.pools pool }

/-- `update_pool_params`: the new parameters count from the current epoch, or
from a new epoch starting at this block if the new duration has already run out
since the current one started; the current epoch's tally takes them too. -/
def updatePoolParams (s : State) (poolId : PoolId) (newParams : Params) (blockHeight : ℕ) :
    Except Failure State := do
  let curEpoch ← currentEpoch s poolId blockHeight
  let ends ← okOr (checkedAdd uint64Max curEpoch.blockHeightStarted newParams.epochDuration.val)
    (.error .overflow)
  let newEpoch ← (if ends < blockHeight then
      (fun epochNum => (⟨epochNum, blockHeight⟩ : Epoch)) <$>
        okOr (checkedAdd uint64Max curEpoch.epochNum 1)
          (.panic "epoch number should be strictly smaller than the current block height")
    else pure curEpoch)
  let newParamsSnapshot : ParamsSnapshot := ⟨newParams, newEpoch⟩
  let pool ← loadRewardsPool s poolId
  let pools := s.pools.insert poolId ⟨poolId, pool.balance, newParamsSnapshot⟩
  let tallies := match s.tallies.lookup ⟨poolId, curEpoch.epochNum⟩ with
    | some tally => saveEpochTally s.tallies { tally with params := newParamsSnapshot.params }
    | none => s.tallies
  return { s with pools := pools, tallies := tallies }

/-- `add_rewards`: the amount joins the pool's balance, below `Uint128::MAX`. -/
def addRewards (s : State) (poolId : PoolId) (amount : ℕ) : Except Failure State := do
  let pool ← loadRewardsPool s poolId
  let balance ← okOr (checkedAdd uint128Max pool.balance amount) (.error .overflow)
  return { s with pools := saveRewardsPool s.pools { pool with balance := balance } }

/-- `set_verifier_proxy`. -/
def setVerifierProxy (s : State) (proxyAddress verifierAddr : String) : State :=
  { s with verifierProxyAddresses := s.verifierProxyAddresses.insert verifierAddr proxyAddress }

/-- `remove_verifier_proxy`. -/
def removeVerifierProxy (s : State) (verifierAddr : String) : State :=
  { s with verifierProxyAddresses := s.verifierProxyAddresses.erase verifierAddr }

/-! ## Messages, responses and `execute` -/

/-- `VerifierDistribution`. -/
structure VerifierDistribution where
  verifierAddress : String
  proxyAddress : Option String
  amount : ℕ

namespace Events

/-- `events::Event`. -/
inductive Event where
  | rewardsDistributed (rewards : List VerifierDistribution) (epochsProcessed : List ℕ)
      (currentEpoch : Epoch) (canDistributeMore : Bool)

/-- `From<RewardsDistribution> for Event`. -/
def Event.ofRewardsDistribution (d : RewardsDistribution) : Event :=
  .rewardsDistributed (d.rewards.map fun r => ⟨r.1.verifierAddress, r.1.proxyAddress, r.2⟩)
    d.epochsProcessed d.currentEpoch d.canDistributeMore

end Events

/-- `Response`: the bank messages and the events. -/
structure Response where
  messages : List BankMsg
  events : List Events.Event

/-- `Response::new()`. -/
def Response.empty : Response := ⟨[], []⟩

/-- `ExecuteMsg`. -/
inductive ExecuteMsg where
  | recordParticipation (chainName : ChainName) (eventId : {e : String // e ≠ ""})
      (verifierAddress : String)
  | distributeRewards (poolId : MsgPoolId) (epochCount : Option ℕ)
  | addRewards (poolId : MsgPoolId)
  | updatePoolParams (params : Params) (poolId : MsgPoolId)
  | createPool (params : Params) (poolId : MsgPoolId)
  | setVerifierProxy (proxyAddress : String)
  | removeVerifierProxy

/-- A call: the block height, the sender, the funds attached and the message. -/
structure Call where
  blockHeight : ℕ
  sender : String
  funds : List Coin
  msg : ExecuteMsg

/-- What the contract takes from outside the repository: the chain's address
check (`validate_cosmwasm_address`, `addr_validate`). -/
structure Externals where
  isValidAddress : String → Bool

/-- An address the chain accepts. -/
def validateAddress (ext : Externals) (address : String) : Except Failure String :=
  if ext.isValidAddress address then .ok address else .error (.error (.invalidAddress address))

/-- `PoolId::try_from_msg_pool_id`. -/
def PoolId.tryFromMsgPoolId (ext : Externals) (poolId : MsgPoolId) : Except Failure PoolId := do
  let contract ← validateAddress ext poolId.contract
  return ⟨poolId.chainName, contract⟩

/-- `ExecuteMsg::ensure_permissions`: creating a pool and updating its parameters
need `Governance`; every other message is open to `Any` sender. With no admin
stored, a sender's role is `Governance` for the governance address and
`NoPrivilege` for everyone else. -/
def ExecuteMsg.ensurePermissions (governance sender : String) :
    ExecuteMsg → Except PermissionError Unit
  | .updatePoolParams .. | .createPool .. =>
      if governance = sender then .ok ()
      else .error (.generalPermissionDenied {.governance} {.noPrivilege})
  | _ => .ok ()

/-- The order in which the bank messages of a distribution are sent:
`Itertools::sorted`, by verifier. The verifiers of a distribution are distinct,
so their addresses decide the order. -/
def sendsBefore (a b : Verifier × ℕ) : Bool :=
  decide (a.1.verifierAddress ≤ b.1.verifierAddress)

/-- The bank message that pays a verifier, at its proxy if it set one. -/
def payout (rewardsDenom : String) (reward : Verifier × ℕ) : BankMsg :=
  ⟨reward.1.proxyAddress.getD reward.1.verifierAddress, [⟨rewardsDenom, reward.2⟩]⟩

/-- The handler of each message, after the permission check. -/
def dispatch (ext : Externals) (s : State) (c : Call) : Except Failure (State × Response) :=
  match c.msg with
  | .recordParticipation chainName eventId verifierAddress => do
      let verifierAddress ← validateAddress ext verifierAddress
      let s' ← recordParticipation s eventId.val verifierAddress ⟨chainName, c.sender⟩
        c.blockHeight
      return (s', .empty)
  | .addRewards poolId => do
      -- the rewards denomination must be the only coin attached
      let coin ← okOr ((c.funds.find? fun coin => coin.denom = s.config.rewardsDenom).filter
        fun _ => c.funds.length = 1) (.error .wrongDenom)
      let poolId ← PoolId.tryFromMsgPoolId ext poolId
      ensure (coin.amount ≠ 0) (.error .zeroRewards)
      let s' ← addRewards s poolId coin.amount
      return (s', .empty)
  | .distributeRewards poolId epochCount => do
      let poolId ← PoolId.tryFromMsgPoolId ext poolId
      let distributed ← distributeRewards s poolId c.blockHeight epochCount
      let msgs := (distributed.2.rewards.mergeSort sendsBefore).map (payout s.config.rewardsDenom)
      return (distributed.1, ⟨msgs, [Events.Event.ofRewardsDistribution distributed.2]⟩)
  | .updatePoolParams params poolId => do
      let poolId ← PoolId.tryFromMsgPoolId ext poolId
      let s' ← updatePoolParams s poolId params c.blockHeight
      return (s', .empty)
  | .createPool params poolId => do
      let poolId ← PoolId.tryFromMsgPoolId ext poolId
      let s' ← createPool s params c.blockHeight poolId
      return (s', .empty)
  | .setVerifierProxy proxyAddress => do
      let proxyAddress ← validateAddress ext proxyAddress
      return (setVerifierProxy s proxyAddress c.sender, .empty)
  | .removeVerifierProxy => .ok (removeVerifierProxy s c.sender, .empty)

/-- `execute`: the permission check, then the handler. -/
def execute (ext : Externals) (s : State) (c : Call) : Except Failure (State × Response) := do
  (c.msg.ensurePermissions s.governance c.sender).mapError (.error ∘ .permission)
  dispatch ext s c

end Amplifier.Rewards
