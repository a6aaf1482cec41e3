import Amplifier.Lib.Store
import Amplifier.Lib.Transaction
import Amplifier.RouterApi.Primitives
import Amplifier.WasmStd.Voting

/-!
# Amplifier.Gateway.Contract — the gateway of a chain

The gateway is where messages of an external chain enter the routing layer and
where messages for it wait to be relayed. Its storage (`state.rs`) is the
config and `OUTGOING_MESSAGES`, the messages the router sent for this chain,
by cross-chain id. Its handlers (`contract/execute.rs`):

* `VerifyMessages` asks the verifier for the status of each message and asks
  it to verify those not yet verified;
* `RouteMessages` from anyone but the router forwards to the router the
  messages the verifier reports as succeeded on the source chain;
* `RouteMessages` from the router saves each message as outgoing, once: a
  message whose id is taken must hash like the stored one, which stays.

Every batch is refused if two of its messages share an id. The verifier's
`MessagesStatus` query is a parameter. An error is the chain of contexts the
code attaches (`change_context`), outermost first.

Results: the outgoing store only gains entries, each under its own message's
id, and the router's resubmission of a stored id with another hash is refused
(`outgoing_store_write_once`); the router receives exactly the submitted
messages the verifier reports as succeeded, in their order
(`routeIncomingMessages_eq_ok`); the verifier is asked to verify exactly those
it reports as not verified, failed to verify or not found, and each reported
message has one event (`verifyMessages_spec`).
-/

namespace Amplifier.Gateway

open WasmStd RouterApi

/-! ## Storage, errors and responses -/

/-- `state::Config`. -/
structure Config where
  verifier : String
  router : String

/-- The storage: `CONFIG` and `OUTGOING_MESSAGES`. -/
structure State where
  config : Config
  outgoingMessages : Map CrossChainId Message

/-- `instantiate`: the config, and no outgoing message. -/
def instantiate (config : Config) : State := ⟨config, ∅⟩

/-- The errors of `contract::Error` and `state::Error`. -/
inductive Error where
  | duplicateMessageIds
  | messageStatus
  | verifyMessages
  | routeOutgoingMessages
  | routeIncomingMessages
  | saveOutgoingMessage
  | messageMismatch (ccId : CrossChainId)
  deriving DecidableEq

/-- An `error_stack` report: the contexts, outermost first. -/
abbrev Report := List Error

/-- `change_context`: a failure gains an outer context. -/
def changeContext {α : Type} (e : Error) (x : Except Report α) : Except Report α :=
  x.mapError (e :: ·)

/-- `MessageStatus`: a message and its status, as the verifier reports them. -/
structure MessageStatus where
  message : Message
  status : VerificationStatus

/-- What the contract takes from outside the repository. -/
structure Externals where
  /-- Keccak-256, for `Message::hash`. -/
  keccak256 : ByteArray → Hash
  /-- The verifier's `MessagesStatus` query; none when it fails. -/
  messagesStatus : List Message → Option (List MessageStatus)

/-- `GatewayEvent`. -/
inductive Event where
  | verifying (msg : Message)
  | alreadyVerified (msg : Message)
  | alreadyRejected (msg : Message)
  | routing (msg : Message)
  | unfitForRouting (msg : Message)
  deriving DecidableEq

/-- The messages a response sends: `VerifyMessages` to the verifier and
`RouteMessages` to the router. -/
inductive CosmosMsg where
  | verifyMessages (msgs : List Message)
  | routeMessages (msgs : List Message)
  deriving DecidableEq

/-- `Response`: the messages sent, and the events. -/
structure Response where
  messages : List CosmosMsg
  events : List Event

/-- `Vec::to_none_if_empty`, then the client's call: no message for an empty batch. -/
def sendIfNonempty (send : List Message → CosmosMsg) (msgs : List Message) : List CosmosMsg :=
  if msgs.isEmpty then [] else [send msgs]

/-! ## Batches and statuses -/

/-- `check_for_duplicates`: no two messages of the batch share an id. -/
def checkForDuplicates (msgs : List Message) : Except Report (List Message) :=
  if (msgs.map Message.ccId).Nodup then .ok msgs else .error [.duplicateMessageIds]

/-- The statuses in the order `VerificationStatus` derives. -/
def statusOrder : List VerificationStatus :=
  [.succeededOnSourceChain, .failedOnSourceChain, .notFoundOnSourceChain, .failedToVerify,
    .inProgress, .unknown]

/-- The messages reported with a status, in the order reported. -/
def withStatus (statuses : List MessageStatus) (status : VerificationStatus) : List Message :=
  (statuses.filter (·.status = status)).map (·.message)

/-- `group_by_status`: `into_group_map`, whose groups keep the order of the
messages, sorted by status; a status without messages has no group. -/
def groupByStatus (statuses : List MessageStatus) : List (VerificationStatus × List Message) :=
  statusOrder.filterMap fun status =>
    if (withStatus statuses status).isEmpty then none else some (status, withStatus statuses status)

/-- `filter_verifiable_messages`. -/
def filterVerifiableMessages (status : VerificationStatus) (msgs : List Message) : List Message :=
  match status with
  | .unknown | .notFoundOnSourceChain | .failedToVerify => msgs
  | _ => []

/-- `into_verify_events`. -/
def intoVerifyEvents (status : VerificationStatus) (msgs : List Message) : List Event :=
  match status with
  | .unknown | .notFoundOnSourceChain | .failedToVerify | .inProgress => msgs.map .verifying
  | .succeededOnSourceChain => msgs.map .alreadyVerified
  | .failedOnSourceChain => msgs.map .alreadyRejected

/-- `filter_routable_messages`. -/
def filterRoutableMessages (status : VerificationStatus) (msgs : List Message) : List Message :=
  if status = .succeededOnSourceChain then msgs else []

/-- `into_route_events`. -/
def intoRouteEvents (status : VerificationStatus) (msgs : List Message) : List Event :=
  match status with
  | .succeededOnSourceChain => msgs.map .routing
  | _ => msgs.map .unfitForRouting

/-- `verify`: one `VerifyMessages` for the verifiable messages of every group. -/
def verify (groups : List (VerificationStatus × List Message)) : Response :=
  ⟨sendIfNonempty .verifyMessages (groups.flatMap fun g => filterVerifiableMessages g.1 g.2),
    groups.flatMap fun g => intoVerifyEvents g.1 g.2⟩

/-- `route`: one `RouteMessages` for the routable messages of every group. -/
def route (groups : List (VerificationStatus × List Message)) : Response :=
  ⟨sendIfNonempty .routeMessages (groups.flatMap fun g => filterRoutableMessages g.1 g.2),
    groups.flatMap fun g => intoRouteEvents g.1 g.2⟩

/-- `apply`: the batch without duplicate ids, its statuses grouped, then the action. -/
def apply (ext : Externals) (msgs : List Message)
    (action : List (VerificationStatus × List Message) → Response) : Except Report Response := do
  let msgs ← checkForDuplicates msgs
  let statuses ← okOr (ext.messagesStatus msgs) [.messageStatus]
  return action (groupByStatus statuses)

/-! ## Handlers -/

/-- `save_outgoing_message`: a taken id must come with a message of the same hash,
and the stored one stays. -/
def saveOutgoingMessage (ext : Externals) (store : Map CrossChainId Message) (ccId : CrossChainId)
    (msg : Message) : Except Report (Map CrossChainId Message) :=
  match store.lookup ccId with
  | some existing =>
      if msg.hash ext.keccak256 ≠ existing.hash ext.keccak256 then .error [.messageMismatch msg.ccId]
      else .ok store
  | none => .ok (store.insert ccId msg)

/-- `verify_messages`. -/
def verifyMessages (ext : Externals) (msgs : List Message) : Except Report Response :=
  apply ext msgs verify

/-- `route_incoming_messages`. -/
def routeIncomingMessages (ext : Externals) (msgs : List Message) : Except Report Response :=
  apply ext msgs route

/-- `route_outgoing_messages`: each message saved in turn, then a `Routing`
event for each. -/
def routeOutgoingMessages (ext : Externals) (s : State) (verified : List Message) :
    Except Report (State × Response) := do
  let msgs ← checkForDuplicates verified
  let outgoing ← msgs.foldlM (fun store msg =>
    changeContext .saveOutgoingMessage (saveOutgoingMessage ext store msg.ccId msg))
    s.outgoingMessages
  return ({ s with outgoingMessages := outgoing }, ⟨[], msgs.map .routing⟩)

/-- `ExecuteMsg`; both messages are open to any sender. -/
inductive ExecuteMsg where
  | verifyMessages (msgs : List Message)
  | routeMessages (msgs : List Message)

/-- A call: the sender and the message. -/
structure Call where
  sender : String
  msg : ExecuteMsg

/-- `execute`: `RouteMessages` from the router is outgoing, from anyone else
incoming. Only outgoing messages write. -/
def execute (ext : Externals) (s : State) (c : Call) : Except Report (State × Response) :=
  match c.msg with
  | .verifyMessages msgs => changeContext .verifyMessages ((·, ·) s <$> verifyMessages ext msgs)
  | .routeMessages msgs =>
      if c.sender = s.config.router then
        changeContext .routeOutgoingMessages (routeOutgoingMessages ext s msgs)
      else changeContext .routeIncomingMessages ((·, ·) s <$> routeIncomingMessages ext msgs)

/-! ## What a handler does -/

section Spec

variable {ext : Externals}

theorem changeContext_eq_ok {α : Type} {e : Error} {x : Except Report α} {a : α} :
    changeContext e x = .ok a ↔ x = .ok a :=
  mapError_eq_ok

theorem checkForDuplicates_eq_ok {msgs msgs' : List Message} :
    checkForDuplicates msgs = .ok msgs' ↔ (msgs.map Message.ccId).Nodup ∧ msgs' = msgs := by
  unfold checkForDuplicates
  split_ifs with h <;> simp [h, eq_comm]

theorem apply_eq_ok {msgs : List Message} {action : List (VerificationStatus × List Message) → Response}
    {r : Response} :
    apply ext msgs action = .ok r ↔ (msgs.map Message.ccId).Nodup ∧
      ∃ statuses, ext.messagesStatus msgs = some statuses ∧ r = action (groupByStatus statuses) := by
  constructor
  · intro h
    obtain ⟨msgs', hdup, hrest⟩ := bind_eq_ok.mp h
    obtain ⟨hnodup, rfl⟩ := checkForDuplicates_eq_ok.mp hdup
    obtain ⟨statuses, hstatus, hpure⟩ := bind_eq_ok.mp hrest
    exact ⟨hnodup, statuses, okOr_eq_ok.mp hstatus, (Except.ok.inj hpure).symm⟩
  · rintro ⟨hnodup, statuses, hstatus, rfl⟩
    refine bind_eq_ok.mpr ⟨msgs, checkForDuplicates_eq_ok.mpr ⟨hnodup, rfl⟩, ?_⟩
    exact bind_eq_ok.mpr ⟨statuses, okOr_eq_ok.mpr hstatus, rfl⟩

/-- What a per-group action gives of the groups, an action that gives nothing for
no messages: the action on the messages of each status in turn. -/
theorem flatMap_groupByStatus {β : Type} (statuses : List MessageStatus)
    {f : VerificationStatus → List Message → List β} (hf : ∀ status, f status [] = []) :
    (groupByStatus statuses).flatMap (fun g => f g.1 g.2) =
      statusOrder.flatMap fun status => f status (withStatus statuses status) := by
  unfold groupByStatus
  induction statusOrder with
  | nil => rfl
  | cons status rest ih =>
      by_cases hempty : (withStatus statuses status).isEmpty
      · rw [List.filterMap_cons_none (by simp [hempty]), ih, List.flatMap_cons,
          List.isEmpty_iff.mp hempty, hf, List.nil_append]
      · rw [List.filterMap_cons_some (b := (status, withStatus statuses status)) (by simp [hempty]),
          List.flatMap_cons, List.flatMap_cons, ih]

/-- Every status has its place in `statusOrder`, once. -/
theorem statusOrder_nodup : statusOrder.Nodup := by decide

theorem mem_statusOrder (status : VerificationStatus) : status ∈ statusOrder := by
  cases status <;> decide

/-- Each reported message is read once from the groups: an action on each message
of a group gives, up to order, the action on each message with its status. -/
theorem flatMap_groupByStatus_perm {β : Type} (statuses : List MessageStatus)
    (f : VerificationStatus → Message → List β) :
    ((groupByStatus statuses).flatMap fun g => g.2.flatMap (f g.1)).Perm
      (statuses.flatMap fun st => f st.status st.message) := by
  rw [flatMap_groupByStatus statuses (f := fun status msgs => msgs.flatMap (f status))
    fun _ => rfl]
  -- the messages of a status are a filter of the statuses, read back with that status
  have hgroup : ∀ status, (withStatus statuses status).flatMap (f status) =
      (statuses.filter fun st => st.status = status).flatMap fun st => f st.status st.message := by
    intro status
    rw [withStatus, List.flatMap_map]
    refine List.flatMap_congr fun st hst => ?_
    rw [of_decide_eq_true (List.mem_filter.mp hst).2]
  simp only [hgroup, ← List.flatMap_assoc]
  exact (perm_flatMap_filter MessageStatus.status statusOrder statuses statusOrder_nodup
    fun st _ => mem_statusOrder st.status).flatMap_right _

/-- The router is sent the messages reported as succeeded on the source chain. -/
theorem flatMap_filterRoutableMessages (statuses : List MessageStatus) :
    (groupByStatus statuses).flatMap (fun g => filterRoutableMessages g.1 g.2) =
      withStatus statuses .succeededOnSourceChain := by
  rw [flatMap_groupByStatus statuses fun status => by simp [filterRoutableMessages]]
  simp [statusOrder, filterRoutableMessages]

/-- The verifier is asked to verify the messages reported as not found, failed to
verify or unknown, in that order. -/
theorem flatMap_filterVerifiableMessages (statuses : List MessageStatus) :
    (groupByStatus statuses).flatMap (fun g => filterVerifiableMessages g.1 g.2) =
      withStatus statuses .notFoundOnSourceChain ++ withStatus statuses .failedToVerify ++
        withStatus statuses .unknown := by
  rw [flatMap_groupByStatus statuses fun status => by cases status <;> rfl]
  simp [statusOrder, filterVerifiableMessages, List.append_assoc]

/-- `RouteMessages` from a chain: no duplicate ids, a status for the batch, and
then the router is sent exactly the messages reported as succeeded. -/
theorem routeIncomingMessages_eq_ok {msgs : List Message} {r : Response} :
    routeIncomingMessages ext msgs = .ok r ↔ (msgs.map Message.ccId).Nodup ∧
      ∃ statuses, ext.messagesStatus msgs = some statuses ∧
        r = ⟨sendIfNonempty .routeMessages (withStatus statuses .succeededOnSourceChain),
          (groupByStatus statuses).flatMap fun g => intoRouteEvents g.1 g.2⟩ := by
  rw [routeIncomingMessages, apply_eq_ok]
  simp only [route, flatMap_filterRoutableMessages]

/-- `into_verify_events` gives each message its own event. -/
theorem intoVerifyEvents_eq_flatMap (status : VerificationStatus) (msgs : List Message) :
    intoVerifyEvents status msgs = msgs.flatMap fun m => intoVerifyEvents status [m] := by
  cases status <;> simp [intoVerifyEvents, List.map_eq_flatMap]

/-- `VerifyMessages`: it goes through exactly when the batch has no two messages of
one id and the verifier answers the status query. The verifier is then asked to
verify exactly the messages it does not report as verified or in progress, and
each reported message has one event, of its status; so one event per message
when the verifier reports each message of the batch. -/
theorem verifyMessages_spec (msgs : List Message) :
    ((∃ r, verifyMessages ext msgs = .ok r) ↔
      (msgs.map Message.ccId).Nodup ∧ (ext.messagesStatus msgs).isSome) ∧
    ∀ r statuses, verifyMessages ext msgs = .ok r → ext.messagesStatus msgs = some statuses →
      r.messages = sendIfNonempty .verifyMessages (withStatus statuses .notFoundOnSourceChain ++
          withStatus statuses .failedToVerify ++ withStatus statuses .unknown) ∧
      r.events.Perm (statuses.flatMap fun st => intoVerifyEvents st.status [st.message]) ∧
      (statuses.map MessageStatus.message = msgs → r.events.length = msgs.length) := by
  refine ⟨⟨fun ⟨r, h⟩ => ?_, fun ⟨hnodup, hsome⟩ => ?_⟩, fun r statuses h hq => ?_⟩
  · obtain ⟨hnodup, statuses, hq, -⟩ := apply_eq_ok.mp h
    exact ⟨hnodup, by simp [hq]⟩
  · obtain ⟨statuses, hq⟩ := Option.isSome_iff_exists.mp hsome
    exact ⟨_, apply_eq_ok.mpr ⟨hnodup, statuses, hq, rfl⟩⟩
  · obtain ⟨-, statuses', hq', rfl⟩ := apply_eq_ok.mp h
    obtain rfl : statuses = statuses' := Option.some.inj (hq.symm.trans hq')
    have hperm : ((groupByStatus statuses).flatMap fun g => intoVerifyEvents g.1 g.2).Perm
        (statuses.flatMap fun st => intoVerifyEvents st.status [st.message]) := by
      simpa only [← intoVerifyEvents_eq_flatMap] using
        flatMap_groupByStatus_perm statuses fun status m => intoVerifyEvents status [m]
    refine ⟨by simp only [verify, flatMap_filterVerifiableMessages], hperm, fun hmsgs => ?_⟩
    -- one event for each status, and one status for each message
    have hone : ∀ st : MessageStatus, (intoVerifyEvents st.status [st.message]).length = 1 := by
      intro st
      cases st.status <;> rfl
    rw [verify, hperm.length_eq, ← hmsgs, List.length_flatMap, List.length_map]
    simp [hone]

end Spec

/-! ## The outgoing store -/

section Outgoing

variable {ext : Externals}

/-- Every entry of a store is the message of its own id. -/
def Keyed (store : Map CrossChainId Message) : Prop :=
  ∀ k m, store.lookup k = some m → m.ccId = k

/-- A message can be saved under a key when the key is free or holds a message of
the same hash. -/
def Compatible (store : Map CrossChainId Message) (msg : Message) : Prop :=
  ∀ existing, store.lookup msg.ccId = some existing →
    msg.hash ext.keccak256 = existing.hash ext.keccak256

theorem saveOutgoingMessage_eq_ok {store store' : Map CrossChainId Message} {k : CrossChainId}
    {msg : Message} :
    saveOutgoingMessage ext store k msg = .ok store' ↔
      (∃ existing, store.lookup k = some existing ∧
        msg.hash ext.keccak256 = existing.hash ext.keccak256 ∧ store' = store) ∨
      (store.lookup k = none ∧ store' = store.insert k msg) := by
  unfold saveOutgoingMessage
  split
  · rename_i existing hk
    split_ifs with hhash
    · -- a different hash is refused
      constructor
      · intro h
        cases h
      · rintro (⟨e, he, hh, -⟩ | ⟨hnone, -⟩)
        · rw [hk] at he
          cases he
          exact absurd hh hhash
        · rw [hk] at hnone
          cases hnone
    · simp only [not_not] at hhash
      simp [hk, hhash, eq_comm]
  · rename_i hk
    simp [hk, eq_comm]

/-- Saving a batch of distinct ids: it goes through exactly when every message is
compatible with the store it starts from. -/
theorem exists_foldlM_save_eq_ok {store : Map CrossChainId Message} :
    ∀ {msgs : List Message}, (msgs.map Message.ccId).Nodup →
      ((∃ store', msgs.foldlM (fun st msg => changeContext .saveOutgoingMessage
          (saveOutgoingMessage ext st msg.ccId msg)) store = .ok store') ↔
        ∀ msg ∈ msgs, @Compatible ext store msg)
  | [], _ => by simp [pure, Except.pure]
  | msg :: msgs, hnodup => by
      obtain ⟨hfresh, hrest⟩ := List.nodup_cons.mp hnodup
      -- the rest of the batch reads the same entries before and after `msg` is saved
      have hsame : ∀ st, saveOutgoingMessage ext store msg.ccId msg = .ok st →
          ∀ msg' ∈ msgs, st.lookup msg'.ccId = store.lookup msg'.ccId := by
        intro st hst msg' hmsg'
        have hne : msg'.ccId ≠ msg.ccId := fun heq => hfresh (heq ▸ List.mem_map_of_mem hmsg')
        rcases saveOutgoingMessage_eq_ok.mp hst with ⟨-, -, -, rfl⟩ | ⟨-, rfl⟩
        · rfl
        · exact AList.lookup_insert_ne hne
      simp only [List.foldlM_cons, bind_eq_ok, changeContext_eq_ok, List.forall_mem_cons]
      constructor
      · rintro ⟨store', st, hst, hfold⟩
        have hcompat := (exists_foldlM_save_eq_ok hrest).mp ⟨store', hfold⟩
        refine ⟨?_, fun msg' hmsg' existing hlook => ?_⟩
        · intro existing hlook
          rcases saveOutgoingMessage_eq_ok.mp hst with ⟨e, he, hhash, -⟩ | ⟨hnone, -⟩
          · rw [hlook] at he
            cases he
            exact hhash
          · rw [hlook] at hnone
            cases hnone
        · exact hcompat msg' hmsg' existing (by rw [hsame st hst msg' hmsg']; exact hlook)
      · rintro ⟨hmsg, hmsgs⟩
        have hsave : ∃ st, saveOutgoingMessage ext store msg.ccId msg = .ok st := by
          cases hk : store.lookup msg.ccId with
          | none => exact ⟨_, saveOutgoingMessage_eq_ok.mpr (.inr ⟨hk, rfl⟩)⟩
          | some existing => exact ⟨_, saveOutgoingMessage_eq_ok.mpr (.inl ⟨existing, hk, hmsg _ hk, rfl⟩)⟩
        obtain ⟨st, hst⟩ := hsave
        obtain ⟨store', hfold⟩ := (exists_foldlM_save_eq_ok hrest).mpr fun msg' hmsg' existing hlook =>
          hmsgs msg' hmsg' existing (by rw [← hsame st hst msg' hmsg']; exact hlook)
        exact ⟨store', st, hst, hfold⟩

/-- What saving a batch leaves: every old entry, and the messages of the batch
under the ids that were free. -/
theorem lookup_foldlM_save {store store' : Map CrossChainId Message} :
    ∀ {msgs : List Message}, (msgs.map Message.ccId).Nodup →
      msgs.foldlM (fun st msg => changeContext .saveOutgoingMessage
        (saveOutgoingMessage ext st msg.ccId msg)) store = .ok store' →
      ∀ k, store'.lookup k = (store.lookup k).or (msgs.find? (·.ccId = k))
  | [], _, h, k => by
      simp only [List.foldlM_nil, pure, Except.pure, Except.ok.injEq] at h
      subst h
      simp
  | msg :: msgs, hnodup, h, k => by
      obtain ⟨hfresh, hrest⟩ := List.nodup_cons.mp hnodup
      rw [List.foldlM_cons, bind_eq_ok] at h
      obtain ⟨st, hst, hfold⟩ := h
      rw [lookup_foldlM_save hrest hfold k]
      by_cases hk : msg.ccId = k
      · -- `msg`'s id: the rest of the batch does not have it
        subst hk
        have hnone : msgs.find? (·.ccId = msg.ccId) = none := by
          rw [List.find?_eq_none]
          intro msg' hmsg' heq
          have hid : msg'.ccId = msg.ccId := of_decide_eq_true heq
          exact hfresh (hid ▸ List.mem_map_of_mem hmsg')
        rcases saveOutgoingMessage_eq_ok.mp (changeContext_eq_ok.mp hst) with
          ⟨e, he, -, rfl⟩ | ⟨hfree, rfl⟩
        · simp [he, hnone]
        · simp [hfree, hnone]
      · have hlook : st.lookup k = store.lookup k := by
          rcases saveOutgoingMessage_eq_ok.mp (changeContext_eq_ok.mp hst) with
            ⟨-, -, -, rfl⟩ | ⟨-, rfl⟩
          · rfl
          · exact AList.lookup_insert_ne (Ne.symm hk)
        simp [hlook, hk]

/-- `RouteMessages` from the router: it goes through exactly when the batch has no
two messages of one id and each message whose id is taken hashes like the
stored one; it then adds the messages of free ids and keeps every stored one. -/
theorem routeOutgoingMessages_spec (s : State) (msgs : List Message) :
    ((∃ s' r, routeOutgoingMessages ext s msgs = .ok (s', r)) ↔
      (msgs.map Message.ccId).Nodup ∧ ∀ msg ∈ msgs, @Compatible ext s.outgoingMessages msg) ∧
    ∀ s' r, routeOutgoingMessages ext s msgs = .ok (s', r) →
      s'.config = s.config ∧ r = ⟨[], msgs.map .routing⟩ ∧
      ∀ k, s'.outgoingMessages.lookup k = (s.outgoingMessages.lookup k).or (msgs.find? (·.ccId = k)) := by
  refine ⟨⟨?_, ?_⟩, ?_⟩
  · rintro ⟨s', r, h⟩
    obtain ⟨msgs', hdup, hrest⟩ := bind_eq_ok.mp h
    obtain ⟨hnodup, rfl⟩ := checkForDuplicates_eq_ok.mp hdup
    obtain ⟨store', hfold, -⟩ := bind_eq_ok.mp hrest
    exact ⟨hnodup, (exists_foldlM_save_eq_ok hnodup).mp ⟨store', hfold⟩⟩
  · rintro ⟨hnodup, hcompat⟩
    obtain ⟨store', hfold⟩ := (exists_foldlM_save_eq_ok hnodup).mpr hcompat
    refine ⟨{ s with outgoingMessages := store' }, ⟨[], msgs.map .routing⟩,
      bind_eq_ok.mpr ⟨msgs, checkForDuplicates_eq_ok.mpr ⟨hnodup, rfl⟩, ?_⟩⟩
    exact bind_eq_ok.mpr ⟨store', hfold, rfl⟩
  · intro s' r h
    obtain ⟨msgs', hdup, hrest⟩ := bind_eq_ok.mp h
    obtain ⟨hnodup, rfl⟩ := checkForDuplicates_eq_ok.mp hdup
    obtain ⟨store', hfold, hpure⟩ := bind_eq_ok.mp hrest
    cases hpure
    exact ⟨rfl, rfl, lookup_foldlM_save hnodup hfold⟩

/-- One transaction keeps the config, and the outgoing store only gains entries,
each under its own id. -/
theorem execute_outgoing {s s' : State} {c : Call} {r : Response}
    (h : execute ext s c = .ok (s', r)) :
    s'.config = s.config ∧ Map.Extends s.outgoingMessages s'.outgoingMessages ∧
      (Keyed s.outgoingMessages → Keyed s'.outgoingMessages) := by
  -- the handlers that do not write
  have hread : ∀ x : Except Report Response, (·, ·) s <$> x = .ok (s', r) → s' = s := by
    intro x hx
    obtain ⟨r', -, hr'⟩ := map_eq_ok.mp hx
    exact (Prod.mk.inj hr').1.symm
  unfold execute at h
  split at h
  · obtain rfl := hread _ (changeContext_eq_ok.mp h)
    exact ⟨rfl, Map.Extends.refl _, id⟩
  · split_ifs at h
    · have hspec := (routeOutgoingMessages_spec s _).2 s' r (changeContext_eq_ok.mp h)
      obtain ⟨hconfig, -, hlookup⟩ := hspec
      refine ⟨hconfig, fun k v hk => by rw [hlookup, hk]; rfl, fun hkeyed k m hk => ?_⟩
      rw [hlookup] at hk
      cases hold : s.outgoingMessages.lookup k with
      | some v => rw [hold] at hk; exact hkeyed k m (by rw [hold]; exact hk)
      | none =>
          rw [hold, Option.none_or] at hk
          simpa using List.find?_some hk
    · obtain rfl := hread _ (changeContext_eq_ok.mp h)
      exact ⟨rfl, Map.Extends.refl _, id⟩

/-- `RouteMessages` from the router is refused when one of its messages has the id
of a stored message and another hash. -/
theorem execute_router_refuses {s : State} {msgs : List Message} {msg stored : Message}
    (hmsg : msg ∈ msgs) (hstored : s.outgoingMessages.lookup msg.ccId = some stored)
    (hhash : msg.hash ext.keccak256 ≠ stored.hash ext.keccak256) (s' : State) (r : Response) :
    execute ext s ⟨s.config.router, .routeMessages msgs⟩ ≠ .ok (s', r) := by
  intro h
  simp only [execute, if_pos] at h
  obtain ⟨-, hcompat⟩ := (routeOutgoingMessages_spec s msgs).1.mp ⟨s', r, changeContext_eq_ok.mp h⟩
  exact hhash (hcompat msg hmsg stored hstored)

/-- The config never changes. -/
theorem config_of_reachable {config : Config} {s : State}
    (hs : Reachable (execute ext) (instantiate config) s) : s.config = config :=
  Reachable.induction_inv (fun s => s.config = config) rfl
    (fun _ _ _ _ hi h => (execute_outgoing h).1.trans hi) hs

end Outgoing

/-- The gateway's outgoing store is write-once: at every reachable storage each
entry is the message of its own id; every later storage keeps every entry
unchanged, and there the router's `RouteMessages` is refused when it resubmits a
stored id with another hash. -/
theorem outgoing_store_write_once (ext : Externals) (config : Config) {s : State}
    (hs : Reachable (execute ext) (instantiate config) s) :
    Keyed s.outgoingMessages ∧
      ∀ t, Later (execute ext) s t → Map.Extends s.outgoingMessages t.outgoingMessages ∧
        ∀ msgs msg stored, msg ∈ msgs → t.outgoingMessages.lookup msg.ccId = some stored →
          msg.hash ext.keccak256 ≠ stored.hash ext.keccak256 →
          ∀ t' r, execute ext t ⟨config.router, .routeMessages msgs⟩ ≠ .ok (t', r) := by
  have hkeyed : ∀ {s}, Reachable (execute ext) (instantiate config) s → Keyed s.outgoingMessages :=
    Reachable.induction_inv (fun s => Keyed s.outgoingMessages) (fun k m h => by cases h)
      fun _ _ _ _ hi h => (execute_outgoing h).2.2 hi
  refine ⟨hkeyed hs, fun t hst => ⟨?_, fun msgs msg stored hmsg hstored hhash => ?_⟩⟩
  · exact Later.rel (fun s t => Map.Extends s.outgoingMessages t.outgoingMessages)
      (fun s => Map.Extends.refl _)
      (fun a b c (h₁ : Map.Extends a.outgoingMessages b.outgoingMessages)
        (h₂ : Map.Extends b.outgoingMessages c.outgoingMessages) => h₁.trans h₂)
      (fun _ _ _ _ _ h => (execute_outgoing h).2.1) hs hst
  · -- the router is the configured one at every reachable storage
    rw [← config_of_reachable (hs.later hst)]
    exact execute_router_refuses hmsg hstored hhash

/-- A gateway to run on fixed inputs: a stand-in hash that tells preimages of
different lengths apart, and a verifier whose query always fails. -/
def exampleExternals : Externals :=
  ⟨fun b => Vector.replicate 32 b.size.toUInt8, fun _ => none⟩

/-- A gateway whose router is `router`. -/
def exampleConfig : Config := ⟨"verifier", "router"⟩

/-- A message to `sonic`, as the router hands it to the gateway. -/
def exampleMessage : Message where
  ccId := ⟨⟨"blast", by decide⟩, ⟨"0x9e1f-41", by decide⟩⟩
  sourceAddress := ⟨"0xd00d", by decide⟩
  destinationChain := ⟨"sonic", by decide, by decide⟩
  destinationAddress := ⟨"0xfade", by decide⟩
  payloadHash := Vector.replicate 32 1

/-- The same id, with another destination address. -/
def exampleForgery : Message :=
  { exampleMessage with destinationAddress := ⟨"0xfade01", by decide⟩ }

/-- Once the router has routed `exampleMessage`, the gateway keeps it, and refuses
the forgery under its id from the router. -/
theorem outgoing_store_write_once_after_routing :
    ∃ s, Reachable (execute exampleExternals) (instantiate exampleConfig) s ∧
      ∀ t, Later (execute exampleExternals) s t →
        t.outgoingMessages.lookup exampleMessage.ccId = some exampleMessage ∧
        ∀ t' r, execute exampleExternals t
          ⟨exampleConfig.router, .routeMessages [exampleForgery]⟩ ≠ .ok (t', r) := by
  obtain ⟨s, r, hroute, hstored⟩ : ∃ s r, execute exampleExternals (instantiate exampleConfig)
      ⟨exampleConfig.router, .routeMessages [exampleMessage]⟩ = .ok (s, r) ∧
      s.outgoingMessages.lookup exampleMessage.ccId = some exampleMessage := ⟨_, _, rfl, rfl⟩
  have hreach : Reachable (execute exampleExternals) (instantiate exampleConfig) s :=
    .step .init hroute
  have hhash : exampleForgery.hash exampleExternals.keccak256 ≠
      exampleMessage.hash exampleExternals.keccak256 := by decide
  obtain ⟨-, hlater⟩ := outgoing_store_write_once exampleExternals exampleConfig hreach
  refine ⟨s, hreach, fun t hst => ?_⟩
  obtain ⟨hext, hrefuse⟩ := hlater t hst
  have hkept := hext _ _ hstored
  exact ⟨hkept, hrefuse [exampleForgery] exampleForgery exampleMessage
    (List.mem_singleton_self _) hkept hhash⟩

end Amplifier.Gateway
