import Amplifier.Lib.Store
import Amplifier.Lib.Transaction
import Amplifier.RouterApi.Primitives

/-!
# Amplifier.AxelarnetGateway.State — the axelarnet gateway's storage

The axelarnet gateway is the gateway of Axelar itself: contracts on Axelar call
other chains through it, and messages for contracts on Axelar are executed
through it. Its storage (`state.rs`) is the config and two stores, both by
cross-chain id:

* `ROUTABLE_MESSAGES`, the messages `CallContract` created, which anyone may ask
  to route again; an id is saved once (`save_unique_routable_msg`);
* `EXECUTABLE_MESSAGES`, the messages the router delivered for Axelar, first
  `Approved`, then `Executed`. A delivered message is saved once and an equal
  one is accepted again; `mark_as_executed` turns an approved message executed,
  after a check the caller passes in.

Each function here comes with the lemma that says exactly when it succeeds and
what it leaves; the handlers' proofs use those and never unfold these functions.
-/

namespace Amplifier.AxelarnetGateway

open RouterApi

/-- `state::Config`. -/
structure Config where
  chainName : ChainName
  router : String
  nexus : String

/-- `state::ExecutableMessage`. -/
inductive ExecutableMessage where
  /-- Sent by the router, not executed yet. -/
  | approved (msg : Message)
  /-- An approved message that has been executed. -/
  | executed (msg : Message)
  deriving DecidableEq

/-- `ExecutableMessage::msg`. -/
def ExecutableMessage.msg : ExecutableMessage → Message
  | .approved msg | .executed msg => msg

/-- The contract's storage. -/
structure State where
  config : Config
  routableMessages : Map CrossChainId Message
  executableMessages : Map CrossChainId ExecutableMessage

/-- `instantiate`: the config saved, both stores empty. -/
def instantiate (config : Config) : State := ⟨config, ∅, ∅⟩

/-- `state::Error`: the variants the storage functions return. -/
inductive StateError where
  | messageMismatch (ccId : CrossChainId)
  | messageNotFound (ccId : CrossChainId)
  | messageNotApproved (ccId : CrossChainId)
  | messageAlreadyExecuted (ccId : CrossChainId)
  | messageAlreadyExists (ccId : CrossChainId)
  | payloadHashMismatch
  deriving DecidableEq

/-! ## Routable messages -/

/-- `save_unique_routable_msg`: an id that is taken is refused. -/
def saveUniqueRoutableMsg (store : Map CrossChainId Message) (ccId : CrossChainId)
    (msg : Message) : Except StateError (Map CrossChainId Message) :=
  if (store.lookup ccId).isSome then .error (.messageAlreadyExists ccId)
  else .ok (store.insert ccId msg)

/-- `load_routable_msg`. -/
def loadRoutableMsg (store : Map CrossChainId Message) (id : CrossChainId) :
    Except StateError Message :=
  okOr (store.lookup id) (.messageNotFound id)

/-! ## Executable messages -/

/-- `save_executable_msg`: a new id is saved approved; an id that is taken must
hold the same message, which is then left as it is. -/
def saveExecutableMsg (store : Map CrossChainId ExecutableMessage) (ccId : CrossChainId)
    (msg : Message) : Except StateError (Map CrossChainId ExecutableMessage) :=
  match store.lookup ccId with
  | some existing => if existing.msg ≠ msg then .error (.messageMismatch msg.ccId) else .ok store
  | none => .ok (store.insert ccId (.approved msg))

/-- `load_executable_msg`. -/
def loadExecutableMsg (store : Map CrossChainId ExecutableMessage) (ccId : CrossChainId) :
    Except StateError ExecutableMessage :=
  okOr (store.lookup ccId) (.messageNotApproved ccId)

/-- `mark_as_executed`: an approved message that passes `validate` is saved
executed and returned. -/
def markAsExecuted (store : Map CrossChainId ExecutableMessage) (ccId : CrossChainId)
    (validate : Message → Except StateError Unit) :
    Except StateError (Map CrossChainId ExecutableMessage × Message) :=
  match store.lookup ccId with
  | none => .error (.messageNotApproved ccId)
  | some (.executed _) => .error (.messageAlreadyExecuted ccId)
  | some (.approved msg) => do
      validate msg
      return (store.insert ccId (.executed msg), msg)

/-! ## Specifications -/

section Spec

variable {ccId : CrossChainId} {msg : Message}

theorem saveUniqueRoutableMsg_eq_ok {store store' : Map CrossChainId Message} :
    saveUniqueRoutableMsg store ccId msg = .ok store' ↔
      store.lookup ccId = none ∧ store' = store.insert ccId msg := by
  unfold saveUniqueRoutableMsg
  cases h : store.lookup ccId <;> simp [eq_comm]

theorem saveUniqueRoutableMsg_eq_error {store : Map CrossChainId Message} {e : StateError} :
    saveUniqueRoutableMsg store ccId msg = .error e ↔
      (store.lookup ccId).isSome ∧ e = .messageAlreadyExists ccId := by
  unfold saveUniqueRoutableMsg
  cases h : store.lookup ccId <;> simp [eq_comm]

theorem saveExecutableMsg_eq_ok {store store' : Map CrossChainId ExecutableMessage} :
    saveExecutableMsg store ccId msg = .ok store' ↔
      (∃ existing, store.lookup ccId = some existing ∧ existing.msg = msg ∧ store' = store) ∨
      (store.lookup ccId = none ∧ store' = store.insert ccId (.approved msg)) := by
  unfold saveExecutableMsg
  cases h : store.lookup ccId with
  | none => simp [eq_comm]
  | some existing =>
      by_cases hmsg : existing.msg = msg
      · simp [hmsg, eq_comm]
      · simp [hmsg]

theorem markAsExecuted_eq_ok {store store' : Map CrossChainId ExecutableMessage}
    {validate : Message → Except StateError Unit} :
    markAsExecuted store ccId validate = .ok (store', msg) ↔
      store.lookup ccId = some (.approved msg) ∧ validate msg = .ok () ∧
        store' = store.insert ccId (.executed msg) := by
  unfold markAsExecuted
  cases h : store.lookup ccId with
  | none => simp
  | some e =>
      cases e with
      | executed m => simp
      | approved m =>
          simp only [Option.some.injEq, ExecutableMessage.approved.injEq, bind_eq_ok]
          constructor
          · rintro ⟨u, hu, hpure⟩
            cases hpure
            exact ⟨rfl, hu, rfl⟩
          · rintro ⟨rfl, hu, rfl⟩
            exact ⟨(), hu, rfl⟩

/-- An executed message is not executed again. -/
theorem markAsExecuted_of_executed {store : Map CrossChainId ExecutableMessage}
    {validate : Message → Except StateError Unit} (h : store.lookup ccId = some (.executed msg)) :
    markAsExecuted store ccId validate = .error (.messageAlreadyExecuted ccId) := by
  simp [markAsExecuted, h]

end Spec

end Amplifier.AxelarnetGateway
