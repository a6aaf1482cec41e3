import Amplifier.Router.Gateways

/-!
# Amplifier.Router.Routing — what `route_messages` sends

`route_messages` checks a batch against its sender and sends it run by run of
destination chain (`Itertools::chunk_by`), each run to one gateway. Here:

* `chunkBy`'s runs are the batch in order (`flatten_chunkBy`), each run of one
  destination (`key_of_mem_chunkBy`);
* `SendsTo ext s c g` says where a run to chain `c` may be sent: to the chain's
  own gateway when the router knows the chain and it is not frozen outgoing, to
  the axelarnet gateway when only core knows it; `Unroutable` is the rest;
* `validate_msgs` checks a batch from the axelarnet gateway for hex message ids
  only, and a batch from any other sender against the chain whose gateway it is.

`route_messages_dispatch` puts these together for every reachable state: an
accepted batch is sent whole, in order, each message to a gateway it `SendsTo`,
and a batch that fails one of the checks is refused.
-/

namespace Amplifier.Router

open WasmStd RouterApi

/-! ## `chunk_by` -/

section ChunkBy

variable {α β : Type} [DecidableEq β] (key : α → β)

/-- The runs, put back together, are the list. -/
@[simp]
theorem flatten_chunkBy : ∀ l : List α, ((chunkBy key l).map Prod.snd).flatten = l
  | [] => rfl
  | a :: as => by
      have ih := flatten_chunkBy as
      unfold chunkBy
      split
      · -- `a` joins the first run, or starts one of its own
        rename_i k run rest heq
        rw [heq] at ih
        split_ifs <;> simp_all
      · rename_i heq
        simp_all

/-- Every element of a run has the run's key. -/
theorem key_of_mem_chunkBy : ∀ {l : List α} {p : β × List α}, p ∈ chunkBy key l →
    ∀ a ∈ p.2, key a = p.1
  | [], _, hp => by simp [chunkBy] at hp
  | a :: as, p, hp => by
      have ih := @key_of_mem_chunkBy as
      unfold chunkBy at hp
      split at hp
      · rename_i k run rest heq
        rw [heq] at ih
        have hfirst := ih (p := (k, run)) List.mem_cons_self
        split_ifs at hp with hkey
        · -- the first run, grown by `a`
          rcases List.mem_cons.mp hp with rfl | hp
          · intro b hb
            rcases List.mem_cons.mp hb with rfl | hb
            exacts [hkey, hfirst b hb]
          · exact ih (List.mem_cons_of_mem _ hp)
        · rcases List.mem_cons.mp hp with rfl | hp
          · simp
          · exact ih hp
      · rw [List.mem_singleton] at hp
        subst hp
        simp

end ChunkBy

/-! ## Where a run is sent -/

/-- Where a run to `destinationChain` may be sent: the chain's own gateway when
the router knows the chain and it is not frozen outgoing, the axelarnet gateway
when the router does not know it and core does. -/
def SendsTo (ext : Externals) (s : State) (destinationChain : ChainName) (gateway : String) :
    Prop :=
  (∃ e, loadChainByChainName s destinationChain = some e ∧ e.outgoingFrozen = false ∧
      e.gateway.address = gateway) ∨
    (loadChainByChainName s destinationChain = none ∧
      ext.isChainRegistered destinationChain = some true ∧ s.config.axelarnetGateway = gateway)

/-- A destination no run can be sent to: frozen outgoing, or unknown to the router
and not known to core. -/
def Unroutable (ext : Externals) (s : State) (destinationChain : ChainName) : Prop :=
  (∃ e, loadChainByChainName s destinationChain = some e ∧ e.outgoingFrozen = true) ∨
    (loadChainByChainName s destinationChain = none ∧
      ext.isChainRegistered destinationChain ≠ some true)

section Destination

variable {ext : Externals} {s : State}

theorem destinationGateway_eq_ok_iff {destinationChain : ChainName} {gateway : String} :
    destinationGateway ext s destinationChain = .ok gateway ↔
      SendsTo ext s destinationChain gateway := by
  unfold destinationGateway SendsTo
  cases hload : loadChainByChainName s destinationChain with
  | some e =>
      cases hfrozen : e.outgoingFrozen <;> simp [hfrozen]
  | none =>
      cases hregistered : ext.isChainRegistered destinationChain with
      | none => simp [okOr, bind, Except.bind]
      | some registered =>
          cases registered <;> simp [okOr, bind, Except.bind]

theorem destinationGateway_eq_error {destinationChain : ChainName}
    (h : Unroutable ext s destinationChain) :
    ∃ err, destinationGateway ext s destinationChain = .error err := by
  unfold destinationGateway
  rcases h with ⟨e, hload, hfrozen⟩ | ⟨hload, hregistered⟩
  · exact ⟨.error (.router (.chainFrozen e.name)), by simp [hload, hfrozen]⟩
  · cases hquery : ext.isChainRegistered destinationChain with
    | none => exact ⟨.error (.router .nexus), by simp [hload, okOr, bind, Except.bind]⟩
    | some registered =>
        have hfalse : registered = false := by
          cases registered
          · rfl
          · exact absurd hquery hregistered
        subst hfalse
        exact ⟨.error (.router .chainNotFound), by simp [hload, okOr, bind, Except.bind]⟩

/-- The runs as `route_messages` sends them: each with the gateway of its
destination. -/
theorem mapM_route_eq_ok {runs : List (ChainName × List Message)}
    {wasmMsgs : List (String × List Message)}
    (h : runs.mapM (fun run => do
        let gateway ← destinationGateway ext s run.1
        pure (gateway, run.2)) = .ok wasmMsgs) :
    wasmMsgs.map Prod.snd = runs.map Prod.snd ∧
      ∀ w ∈ wasmMsgs, ∃ run ∈ runs, w.2 = run.2 ∧ destinationGateway ext s run.1 = .ok w.1 := by
  induction runs generalizing wasmMsgs with
  | nil =>
      simp only [List.mapM_nil, pure, Except.pure, Except.ok.injEq] at h
      subst h
      simp
  | cons run runs ih =>
      rw [List.mapM_cons, bind_eq_ok] at h
      obtain ⟨w, hw, hrest⟩ := h
      rw [bind_eq_ok] at hrest
      obtain ⟨ws, hws, hpure⟩ := hrest
      cases hpure
      rw [bind_eq_ok] at hw
      obtain ⟨gateway, hgateway, hw⟩ := hw
      cases hw
      obtain ⟨hmap, hmem⟩ := ih hws
      refine ⟨by simp [hmap], ?_⟩
      intro w' hw'
      rcases List.mem_cons.mp hw' with rfl | hw'
      · exact ⟨run, List.mem_cons_self, rfl, hgateway⟩
      · obtain ⟨run', hmem', hrest⟩ := hmem w' hw'
        exact ⟨run', List.mem_cons_of_mem _ hmem', hrest⟩

end Destination

/-! ## The checks of `validate_msgs` -/

section Validate

variable {ext : Externals} {s : State} {sender : String} {msgs : List Message}

theorem verifyMsgIds_eq_error {format : MessageIdFormat} {msg : Message} (hmsg : msg ∈ msgs)
    (hid : ext.verifyMsgId msg.ccId.messageId.val format = false) :
    ∃ err, verifyMsgIds ext msgs format = .error err := by
  have hall : (msgs.all fun msg => ext.verifyMsgId msg.ccId.messageId.val format) = false := by
    rw [List.all_eq_false]
    exact ⟨msg, hmsg, by simp [hid]⟩
  exact ⟨.error (.router .invalidMessageId), by simp [verifyMsgIds, ensure, hall]⟩

/-- `validate_msgs` passes the batch on unchanged. -/
theorem validateMsgs_eq_ok {msgs' : List Message} (h : validateMsgs ext s sender msgs = .ok msgs') :
    msgs' = msgs := by
  unfold validateMsgs at h
  split_ifs at h
  · rw [bind_eq_ok] at h
    obtain ⟨-, -, h⟩ := h
    exact (Except.ok.inj h).symm
  · simp only [bind_eq_ok] at h
    obtain ⟨-, -, -, -, -, -, -, -, h⟩ := h
    exact (Except.ok.inj h).symm

/-- A batch from the axelarnet gateway with a message id not in the hex format is
refused. -/
theorem validateMsgs_eq_error_of_axelarnet (hsender : sender = s.config.axelarnetGateway)
    {msg : Message} (hmsg : msg ∈ msgs)
    (hid : ext.verifyMsgId msg.ccId.messageId.val .hexTxHashAndEventIndex = false) :
    ∃ err, validateMsgs ext s sender msgs = .error err := by
  obtain ⟨err, herr⟩ := verifyMsgIds_eq_error hmsg hid
  exact ⟨err, by simp [validateMsgs, hsender, herr, bind, Except.bind]⟩

/-- A batch from any other sender is refused when the sender is no chain's
gateway, or its chain is frozen incoming, is not the source chain of every
message, or has a format some message id is not in. -/
theorem validateMsgs_eq_error_of_gateway (hinv : GatewaysInv s.chainEndpoints)
    (hsender : sender ≠ s.config.axelarnetGateway)
    (hrefused : ∀ k e, s.chainEndpoints.primary.lookup k = some e → e.gatewayAddress = sender →
      e.incomingFrozen = true ∨ (∃ msg ∈ msgs, msg.ccId.sourceChain.val ≠ e.name.val) ∨
        ∃ msg ∈ msgs, ext.verifyMsgId msg.ccId.messageId.val e.msgIdFormat = false) :
    ∃ err, validateMsgs ext s sender msgs = .error err := by
  unfold validateMsgs loadChainByGateway
  rw [if_neg hsender]
  rcases hinv.loadChainByGateway_eq sender with ⟨hnone, -⟩ | ⟨k, e, hload, hk, -, he⟩
  · -- the sender is no chain's gateway
    exact ⟨.error (.router .gatewayNotRegistered), by simp [hnone, okOr, bind, Except.bind]⟩
  · rcases hrefused k e hk he with hfrozen | ⟨msg, hmsg, hsource⟩ | ⟨msg, hmsg, hid⟩
    · exact ⟨.error (.router (.chainFrozen e.name)),
        by simp [hload, hfrozen, okOr, ensure, bind, Except.bind]⟩
    · have hwrong : ¬∀ x ∈ msgs, x.ccId.sourceChain.val = e.name.val :=
        fun hsame => hsource (hsame msg hmsg)
      by_cases hfrozen : e.incomingFrozen = true
      · exact ⟨.error (.router (.chainFrozen e.name)),
          by simp [hload, hfrozen, okOr, ensure, bind, Except.bind]⟩
      · exact ⟨.error (.router .wrongSourceChain),
          by simp [hload, hfrozen, hwrong, okOr, ensure, bind, Except.bind]⟩
    · obtain ⟨err, herr⟩ := verifyMsgIds_eq_error hmsg hid
      by_cases hfrozen : e.incomingFrozen = true
      · exact ⟨.error (.router (.chainFrozen e.name)),
          by simp [hload, hfrozen, okOr, ensure, bind, Except.bind]⟩
      by_cases hsame : ∀ x ∈ msgs, x.ccId.sourceChain.val = e.name.val
      · exact ⟨err, by simp [hload, hfrozen, if_pos hsame, herr, okOr, ensure, bind, Except.bind]⟩
      · exact ⟨.error (.router .wrongSourceChain),
          by simp [hload, hfrozen, hsame, okOr, ensure, bind, Except.bind]⟩

end Validate

/-! ## `route_messages` -/

section Route

variable {ext : Externals} {s : State} {sender : String} {msgs : List Message}

/-- An accepted batch is sent whole and in order, each run to a gateway its
destination `SendsTo`, with one `MessageRouted` event a message. -/
theorem routeMessages_eq_ok {r : Response} (h : routeMessages ext s sender msgs = .ok r) :
    (r.messages.map Prod.snd).flatten = msgs ∧
      (∀ gateway run, (gateway, run) ∈ r.messages → ∀ msg ∈ run,
        SendsTo ext s msg.destinationChain gateway) ∧
      r.events = msgs.map .messageRouted := by
  simp only [routeMessages, bind_eq_ok] at h
  obtain ⟨-, -, msgs', hvalid, wasmMsgs, hwasm, hr⟩ := h
  cases hr
  obtain rfl := validateMsgs_eq_ok hvalid
  obtain ⟨hmap, hmem⟩ := mapM_route_eq_ok hwasm
  refine ⟨by rw [hmap, flatten_chunkBy], ?_, rfl⟩
  intro gateway run hw msg hmsg
  obtain ⟨run', hrun', hrun, hgateway⟩ := hmem (gateway, run) hw
  -- the run's messages all go to the run's destination
  have hkey := key_of_mem_chunkBy Message.destinationChain hrun' msg (hrun ▸ hmsg)
  rw [hkey]
  exact destinationGateway_eq_ok_iff.mp hgateway

theorem routeMessages_eq_error_of_inactive (h : s.killswitch.isContractActive = false) :
    ∃ err, routeMessages ext s sender msgs = .error err :=
  ⟨.error (.router .routingDisabled), by simp [routeMessages, h, ensure, bind, Except.bind]⟩

theorem routeMessages_eq_error_of_validateMsgs
    (h : ∃ err, validateMsgs ext s sender msgs = .error err) :
    ∃ err, routeMessages ext s sender msgs = .error err := by
  obtain ⟨err, herr⟩ := h
  cases hactive : s.killswitch.isContractActive
  · exact routeMessages_eq_error_of_inactive hactive
  · exact ⟨err, by simp [routeMessages, hactive, herr, ensure, bind, Except.bind]⟩

/-- A batch with a message to an unroutable chain is refused. -/
theorem routeMessages_eq_error_of_unroutable {msg : Message} (hmsg : msg ∈ msgs)
    (hunroutable : Unroutable ext s msg.destinationChain) :
    ∃ err, routeMessages ext s sender msgs = .error err := by
  cases hvalid : validateMsgs ext s sender msgs with
  | error err => exact routeMessages_eq_error_of_validateMsgs ⟨err, hvalid⟩
  | ok msgs' =>
      have hmsgs := validateMsgs_eq_ok hvalid
      subst msgs'
      -- the run holding the message fails, and with it the loop
      obtain ⟨run, hrun, hmem⟩ : ∃ run ∈ chunkBy Message.destinationChain msgs, msg ∈ run.2 := by
        have hflat := flatten_chunkBy Message.destinationChain msgs
        rw [← hflat, List.mem_flatten] at hmsg
        obtain ⟨l, hl, hmsgl⟩ := hmsg
        obtain ⟨run, hrun, rfl⟩ := List.mem_map.mp hl
        exact ⟨run, hrun, hmsgl⟩
      have hkey := key_of_mem_chunkBy Message.destinationChain hrun msg hmem
      obtain ⟨err, herr⟩ := destinationGateway_eq_error (hkey ▸ hunroutable)
      have hstep : (fun run : ChainName × List Message => (do
          let gateway ← destinationGateway ext s run.1
          pure (gateway, run.2) : Except Failure (String × List Message))) run = .error err := by
        simp [herr, bind, Except.bind]
      obtain ⟨err', herr'⟩ := @mapM_eq_error_of_mem _ _ _ (fun run : ChainName × List Message => (do
          let gateway ← destinationGateway ext s run.1
          pure (gateway, run.2) : Except Failure (String × List Message))) _ run hrun err hstep
      simp only [bind, Except.bind] at herr'
      cases hactive : s.killswitch.isContractActive
      · exact routeMessages_eq_error_of_inactive hactive
      · exact ⟨err', by simp [routeMessages, hactive, hvalid, herr', ensure, bind, Except.bind]⟩

end Route

/-- In every reachable state of the router, an accepted batch is sent whole and
in order, each message to its destination's gateway or, for a chain only core
knows, to the axelarnet gateway; and a batch is refused when routing is
disabled, a destination is frozen outgoing or unknown, or it fails the sender's
checks: from the axelarnet gateway, message ids in the hex format only; from any
other sender, being the gateway of a chain that is not frozen incoming, is the
source chain of every message, and has the format of every message id. -/
theorem route_messages_dispatch {ext : Externals} {admin governance : String} {config : Config}
    {s : State} (hs : Reachable (execute ext) (instantiate admin governance config) s)
    (sender : String) (msgs : List Message) :
    (∀ r, routeMessages ext s sender msgs = .ok r →
      (r.messages.map Prod.snd).flatten = msgs ∧
      (∀ gateway run, (gateway, run) ∈ r.messages → ∀ msg ∈ run,
        SendsTo ext s msg.destinationChain gateway) ∧
      r.events = msgs.map .messageRouted) ∧
    (s.killswitch.isContractActive = false ∨
      (∃ msg ∈ msgs, Unroutable ext s msg.destinationChain) ∨
      (sender = s.config.axelarnetGateway ∧
        ∃ msg ∈ msgs, ext.verifyMsgId msg.ccId.messageId.val .hexTxHashAndEventIndex = false) ∨
      (sender ≠ s.config.axelarnetGateway ∧
        ∀ k e, s.chainEndpoints.primary.lookup k = some e → e.gatewayAddress = sender →
          e.incomingFrozen = true ∨ (∃ msg ∈ msgs, msg.ccId.sourceChain.val ≠ e.name.val) ∨
            ∃ msg ∈ msgs, ext.verifyMsgId msg.ccId.messageId.val e.msgIdFormat = false) →
      ∃ err, routeMessages ext s sender msgs = .error err) := by
  refine ⟨fun r h => routeMessages_eq_ok h, ?_⟩
  rintro (hinactive | ⟨msg, hmsg, hunroutable⟩ | ⟨hsender, msg, hmsg, hid⟩ | ⟨hsender, hrefused⟩)
  · exact routeMessages_eq_error_of_inactive hinactive
  · exact routeMessages_eq_error_of_unroutable hmsg hunroutable
  · exact routeMessages_eq_error_of_validateMsgs
      (validateMsgs_eq_error_of_axelarnet hsender hmsg hid)
  · exact routeMessages_eq_error_of_validateMsgs
      (validateMsgs_eq_error_of_gateway (gatewaysInv_reachable hs) hsender hrefused)

def kava : ChainName := ⟨"kava", by decide, by decide⟩

def scroll : ChainName := ⟨"scroll", by decide, by decide⟩

/-- A message from `mantle` to `scroll`. -/
def mantleMessage : Message where
  ccId := ⟨⟨"mantle", by decide⟩,
    ⟨"0x9c3a5e7b1d2f4a6c8e0b2d4f6a8c0e2b4d6f8a0c2e4b6d8f0a2c4e6b8d0f2a4c-7", by decide⟩⟩
  sourceAddress := ⟨"0x7d2B9c4E1a6F3b8D5c0E2a9F4b7C1d6E3a8B5c0D", by decide⟩
  destinationChain := scroll
  destinationAddress := ⟨"0x1F4e8A2c6B9d3E7a0C5f1B8e4D2a6C9f3E7b0A5d", by decide⟩
  payloadHash := Vector.replicate 32 9

/-- Governance registers `kava` under the axelarnet gateway's address and
`scroll` under its own gateway, and the admin freezes `kava` incoming. -/
def axelarnetRelayCalls : List Call :=
  [⟨"governance", none, .registerChain kava routerConfig.axelarnetGateway .hexTxHash⟩,
    ⟨"governance", none, .registerChain scroll "gateway-scroll" .hexTxHashAndEventIndex⟩,
    ⟨"admin", none, .freezeChains (Map.ofList [(kava, .incoming)])⟩]

/-- The router after those calls. -/
def axelarnetRelayState : State :=
  (run (execute routerExternals) (instantiate "admin" "governance" routerConfig)
    axelarnetRelayCalls).1

/-- The chain whose gateway is the axelarnet gateway is frozen incoming and is not
the message's source chain, yet the axelarnet gateway's batch is routed. -/
theorem axelarnet_gateway_batch_skips_sender_chain_checks :
    Reachable (execute routerExternals) (instantiate "admin" "governance" routerConfig)
      axelarnetRelayState ∧
    gatewayOf axelarnetRelayState.chainEndpoints kava = some routerConfig.axelarnetGateway ∧
    (axelarnetRelayState.chainEndpoints.primary.lookup kava).map ChainEndpoint.incomingFrozen =
      some true ∧
    mantleMessage.ccId.sourceChain.val ≠ kava.val ∧
    (routeMessages routerExternals axelarnetRelayState routerConfig.axelarnetGateway
      [mantleMessage]).toOption.map Response.messages = some [("gateway-scroll", [mantleMessage])] :=
  ⟨run_reachable _ .init axelarnetRelayCalls, by decide, by decide, by decide, by decide⟩

/-- The same state: a batch from `scroll`'s gateway with a message from `mantle`
is refused. -/
theorem route_messages_dispatch_from_scroll :
    Reachable (execute routerExternals) (instantiate "admin" "governance" routerConfig)
      axelarnetRelayState ∧
    ((∀ r, routeMessages routerExternals axelarnetRelayState "gateway-scroll" [mantleMessage] =
        .ok r →
      (r.messages.map Prod.snd).flatten = [mantleMessage] ∧
      (∀ gateway run, (gateway, run) ∈ r.messages → ∀ msg ∈ run,
        SendsTo routerExternals axelarnetRelayState msg.destinationChain gateway) ∧
      r.events = [mantleMessage].map .messageRouted) ∧
    (axelarnetRelayState.killswitch.isContractActive = false ∨
      (∃ msg ∈ [mantleMessage], Unroutable routerExternals axelarnetRelayState msg.destinationChain) ∨
      ("gateway-scroll" = axelarnetRelayState.config.axelarnetGateway ∧
        ∃ msg ∈ [mantleMessage],
          routerExternals.verifyMsgId msg.ccId.messageId.val .hexTxHashAndEventIndex = false) ∨
      ("gateway-scroll" ≠ axelarnetRelayState.config.axelarnetGateway ∧
        ∀ k e, axelarnetRelayState.chainEndpoints.primary.lookup k = some e →
          e.gatewayAddress = "gateway-scroll" →
          e.incomingFrozen = true ∨
            (∃ msg ∈ [mantleMessage], msg.ccId.sourceChain.val ≠ e.name.val) ∨
            ∃ msg ∈ [mantleMessage], routerExternals.verifyMsgId msg.ccId.messageId.val
              e.msgIdFormat = false) →
      ∃ err, routeMessages routerExternals axelarnetRelayState "gateway-scroll" [mantleMessage] =
        .error err)) := by
  have hs : Reachable (execute routerExternals) (instantiate "admin" "governance" routerConfig)
      axelarnetRelayState := run_reachable _ .init axelarnetRelayCalls
  exact ⟨hs, route_messages_dispatch hs "gateway-scroll" [mantleMessage]⟩

end Amplifier.Router
