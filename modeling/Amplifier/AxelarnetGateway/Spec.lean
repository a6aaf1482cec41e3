import Amplifier.AxelarnetGateway.Execute

/-!
# Amplifier.AxelarnetGateway.Spec — what each handler does

One lemma per function of `contract/execute.rs`, saying when it succeeds and
what it leaves, so that the run invariants never unfold a handler:

* `uniqueCrossChainId_eq_ok`: the id of a call is this chain with the nexus
  module's hash and nonce;
* `routableBatch_of_ne_router`: what anyone but the router gets routed is the
  submitted messages stored as routable, each once;
* `routeMessages_of_ne_router`: such a batch is forwarded run by run, to the nexus
  module or to the router, and nothing is written;
* `routeMessages_of_router`: the router's batch is forwarded to the nexus module
  or saved executable for this chain;
* `execute_eq_ok`: an approved message is executed with a payload of its hash.
-/

namespace Amplifier.AxelarnetGateway

open WasmStd RouterApi WasmStd.MsgId Execute

theorem changeContext_eq_ok {α : Type} {e : Error} {x : Except Failure α} {a : α} :
    changeContext e x = .ok a ↔ x = .ok a :=
  mapError_eq_ok

/-! ## Ids and the routable store -/

/-- A nonce below `2 ^ 32` goes through `u32` unchanged. -/
theorem toUInt64_toUInt32 {nonce : UInt64} (h : nonce.toNat < 2 ^ 32) :
    nonce.toUInt32.toUInt64 = nonce := by
  apply UInt64.toNat_inj.mp
  simp only [UInt32.toNat_toUInt64, UInt64.toNat_toUInt32]
  omega

theorem uniqueCrossChainId_eq_ok {nexus : NexusQuerier} {chainName : ChainName}
    {id : CrossChainId} :
    uniqueCrossChainId nexus chainName = .ok id ↔
      ∃ txHash nonce, nexus.txHashAndNonce = some (txHash, nonce) ∧ nonce.toNat < 2 ^ 32 ∧
        id = ⟨chainNameRaw chainName, (HexTxHashAndEventIndex.mk txHash nonce).toNonemptyString⟩ := by
  unfold uniqueCrossChainId
  rw [bind_eq_ok]
  constructor
  · rintro ⟨⟨txHash, nonce⟩, hq, h⟩
    obtain ⟨u, hlt, hid⟩ := bind_eq_ok.mp h
    have hlt : nonce.toNat < 2 ^ 32 := of_decide_eq_true (ensure_eq_ok.mp hlt)
    cases hid
    exact ⟨txHash, nonce, okOr_eq_ok.mp hq, hlt, by rw [toUInt64_toUInt32 hlt]⟩
  · rintro ⟨txHash, nonce, hq, hlt, rfl⟩
    refine ⟨(txHash, nonce), okOr_eq_ok.mpr hq, bind_eq_ok.mpr ⟨(), ?_, ?_⟩⟩
    · exact ensure_eq_ok.mpr (decide_eq_true hlt)
    · rw [toUInt64_toUInt32 hlt]
      rfl

theorem saveRoutable_eq_ok {store store' : Map CrossChainId Message} {msg : Message} :
    saveRoutable store msg = .ok store' ↔
      store.lookup msg.ccId = none ∧ store' = store.insert msg.ccId msg := by
  constructor
  · intro h
    unfold saveRoutable at h
    split at h
    · rename_i hsave
      cases h
      exact saveUniqueRoutableMsg_eq_ok.mp hsave
    · cases h
    · cases h
  · rintro ⟨hnone, rfl⟩
    have hsave : saveUniqueRoutableMsg store msg.ccId msg = .ok (store.insert msg.ccId msg) :=
      saveUniqueRoutableMsg_eq_ok.mpr ⟨hnone, rfl⟩
    simp [saveRoutable, hsave]

/-- A taken id is a panic. -/
theorem saveRoutable_of_isSome {store : Map CrossChainId Message} {msg : Message}
    (h : (store.lookup msg.ccId).isSome) :
    saveRoutable store msg = .error (.panic ("violated invariant: message with ID " ++
      msg.ccId.toString ++ " already exists")) := by
  have hsave : saveUniqueRoutableMsg store msg.ccId msg = .error (.messageAlreadyExists msg.ccId) :=
    saveUniqueRoutableMsg_eq_error.mpr ⟨h, rfl⟩
  simp [saveRoutable, hsave]

theorem tryLoadRoutableMsg_eq_ok {store : Map CrossChainId Message} {msg : Message}
    {o : Option Message} :
    tryLoadRoutableMsg store msg = .ok o ↔
      (store.lookup msg.ccId = none ∧ o = none) ∨ (store.lookup msg.ccId = some msg ∧ o = some msg) := by
  unfold tryLoadRoutableMsg
  cases h : store.lookup msg.ccId with
  | none => simp [eq_comm]
  | some stored =>
      by_cases hs : stored = msg
      · simp [hs, eq_comm]
      · simp only [hs, if_true, ne_eq, not_false_eq_true, reduceCtorEq, false_and,
          Option.some.injEq, false_or]

/-- Loading a list of messages: it goes through when none differs from the
message stored under its id, and keeps the stored ones. -/
theorem mapM_tryLoadRoutableMsg {store : Map CrossChainId Message} :
    ∀ {l : List Message} {batch : List Message},
      (∃ os, l.mapM (tryLoadRoutableMsg store) = .ok os ∧ os.reduceOption = batch) ↔
        (∀ m ∈ l, ∀ stored, store.lookup m.ccId = some stored → stored = m) ∧
          batch = l.filter fun m => (store.lookup m.ccId).isSome
  | [], batch => by simp [pure, Except.pure, eq_comm]
  | m :: l, batch => by
      simp only [List.mapM_cons, bind_eq_ok, List.forall_mem_cons, List.filter_cons]
      constructor
      · rintro ⟨os, ⟨o, ho, os', hrest, hpure⟩, rfl⟩
        cases hpure
        obtain ⟨hl, hbatch⟩ := mapM_tryLoadRoutableMsg.mp ⟨os', hrest, rfl⟩
        rcases tryLoadRoutableMsg_eq_ok.mp ho with ⟨hnone, rfl⟩ | ⟨hsome, rfl⟩
        · refine ⟨⟨by simp [hnone], hl⟩, ?_⟩
          simp [hnone, hbatch]
        · refine ⟨⟨by simp [hsome], hl⟩, ?_⟩
          simp [hsome, hbatch]
      · rintro ⟨⟨hm, hl⟩, rfl⟩
        obtain ⟨os', hrest, hbatch⟩ := mapM_tryLoadRoutableMsg.mpr ⟨hl, rfl⟩
        cases hlook : store.lookup m.ccId with
        | none =>
            refine ⟨none :: os', ⟨none, tryLoadRoutableMsg_eq_ok.mpr (.inl ⟨hlook, rfl⟩), os',
              hrest, rfl⟩, ?_⟩
            simp [hbatch]
        | some stored =>
            obtain rfl := hm stored hlook
            refine ⟨some stored :: os', ⟨some stored,
              tryLoadRoutableMsg_eq_ok.mpr (.inr ⟨hlook, rfl⟩), os', hrest, rfl⟩, ?_⟩
            simp [hbatch]

/-- What anyone but the router gets routed: the submitted messages stored as
routable, each once, in the order of their first submission; a message that
differs from the one stored under its id fails the batch. -/
theorem routableBatch_of_ne_router {s : State} {sender : String} (hs : sender ≠ s.config.router)
    {msgs batch : List Message} :
    routableBatch s sender msgs = .ok batch ↔
      (∀ m ∈ msgs, ∀ stored, s.routableMessages.lookup m.ccId = some stored → stored = m) ∧
        batch = msgs.eraseDups.filter fun m => (s.routableMessages.lookup m.ccId).isSome := by
  rw [routableBatch, if_pos hs, map_eq_ok, mapM_tryLoadRoutableMsg]
  simp only [List.mem_eraseDups]

theorem routableBatch_of_router {s : State} {msgs batch : List Message} :
    routableBatch s s.config.router msgs = .ok batch ↔ batch = msgs := by
  simp [routableBatch, pure, Except.pure, eq_comm]

/-! ## Destinations -/

theorem determineRoutingDestination_eq_ok {nexus : NexusQuerier} {sender router : String}
    {destChain thisChain : ChainName} {d : RoutingDestination} :
    determineRoutingDestination nexus sender destChain router thisChain = .ok d ↔
      (nexus.isChainRegistered destChain = some true ∧ d = .nexus) ∨
      (nexus.isChainRegistered destChain = some false ∧ sender = router ∧ destChain = thisChain ∧
        d = .this) ∨
      (nexus.isChainRegistered destChain = some false ∧ sender ≠ router ∧ d = .router) := by
  unfold determineRoutingDestination
  rw [bind_eq_ok]
  constructor
  · rintro ⟨registered, hq, h⟩
    have hq := okOr_eq_ok.mp hq
    cases registered
    · by_cases hsr : sender = router
      · simp only [hsr, if_true, Bool.false_eq_true, if_false, bind_eq_ok] at h
        obtain ⟨u, hdest, hpure⟩ := h
        cases hpure
        exact .inr (.inl ⟨hq, hsr, of_decide_eq_true (ensure_eq_ok.mp hdest), rfl⟩)
      · simp only [hsr, if_false, Bool.false_eq_true] at h
        cases h
        exact .inr (.inr ⟨hq, hsr, rfl⟩)
    · simp only [if_true] at h
      cases h
      exact .inl ⟨hq, rfl⟩
  · rintro (⟨hq, rfl⟩ | ⟨hq, rfl, rfl, rfl⟩ | ⟨hq, hsr, rfl⟩)
    · exact ⟨true, okOr_eq_ok.mpr hq, rfl⟩
    · refine ⟨false, okOr_eq_ok.mpr hq, ?_⟩
      simp only [if_true, Bool.false_eq_true, if_false]
      exact bind_eq_ok.mpr ⟨(), ensure_eq_ok.mpr (by simp), rfl⟩
    · refine ⟨false, okOr_eq_ok.mpr hq, ?_⟩
      simp only [hsr, if_false, Bool.false_eq_true]
      rfl

/-! ## Routing a batch from anyone but the router -/

/-- Where `route_messages` sends a run to one destination chain, from anyone but
the router, given whether core knows the chain: each message to the nexus module,
or the run to the router. -/
def forwardRun (registered : Bool) (run : List Message) : List CosmosMsg :=
  if registered then (routeToNexus run).1 else (routeToRouter run).1

/-- The runs of a batch are the batch. -/
theorem flatMap_snd_chunkBy (l : List Message) :
    (Router.chunkBy Message.destinationChain l).flatMap Prod.snd = l := by
  rw [List.flatMap_def, Router.flatten_chunkBy]

section NotRouter

variable {nexus : NexusQuerier} {s : State} {sender : String}

theorem routeChunk_of_ne_router (hs : sender ≠ s.config.router)
    {acc acc' : Map CrossChainId ExecutableMessage × Response} {chunk : ChainName × List Message} :
    routeChunk nexus s sender acc chunk = .ok acc' ↔
      ∃ registered, nexus.isChainRegistered chunk.1 = some registered ∧
        acc' = (acc.1, ⟨acc.2.messages ++ forwardRun registered chunk.2,
          acc.2.events ++ chunk.2.map .routing⟩) := by
  unfold routeChunk
  rw [bind_eq_ok]
  constructor
  · rintro ⟨d, hd, h⟩
    rcases determineRoutingDestination_eq_ok.mp hd with ⟨hq, rfl⟩ | ⟨-, hsr, -⟩ | ⟨hq, -, rfl⟩
    · cases h
      exact ⟨true, hq, rfl⟩
    · exact absurd hsr hs
    · cases h
      exact ⟨false, hq, rfl⟩
  · rintro ⟨registered, hq, rfl⟩
    cases registered
    · exact ⟨.router, determineRoutingDestination_eq_ok.mpr (.inr (.inr ⟨hq, hs, rfl⟩)), rfl⟩
    · exact ⟨.nexus, determineRoutingDestination_eq_ok.mpr (.inl ⟨hq, rfl⟩), rfl⟩

/-- The loop over the runs: it goes through when core answers for every
destination, writes nothing, and adds the runs' messages and events in order. -/
theorem foldlM_routeChunk_of_ne_router (hs : sender ≠ s.config.router) :
    ∀ {chunks : List (ChainName × List Message)}
      {acc acc' : Map CrossChainId ExecutableMessage × Response},
      chunks.foldlM (routeChunk nexus s sender) acc = .ok acc' ↔
        (∀ chunk ∈ chunks, (nexus.isChainRegistered chunk.1).isSome) ∧
          acc' = (acc.1, ⟨acc.2.messages ++ chunks.flatMap (fun chunk =>
              forwardRun ((nexus.isChainRegistered chunk.1).getD false) chunk.2),
            acc.2.events ++ (chunks.flatMap Prod.snd).map .routing⟩)
  | [], ⟨store, ⟨messages, events⟩⟩, acc' => by
      simp only [List.foldlM_nil, pure, Except.pure, Except.ok.injEq, List.flatMap_nil,
        List.append_nil, List.map_nil, List.not_mem_nil, false_imp_iff, implies_true, true_and]
      exact eq_comm
  | chunk :: chunks, acc, acc' => by
      rw [List.foldlM_cons, bind_eq_ok]
      constructor
      · rintro ⟨acc₁, h₁, hrest⟩
        obtain ⟨registered, hq, rfl⟩ := (routeChunk_of_ne_router hs).mp h₁
        obtain ⟨hall, rfl⟩ := (foldlM_routeChunk_of_ne_router hs).mp hrest
        refine ⟨List.forall_mem_cons.mpr ⟨by simp [hq], hall⟩, ?_⟩
        simp only [hq, Option.getD_some, List.flatMap_cons, List.map_append, List.append_assoc]
      · rintro ⟨hall, rfl⟩
        obtain ⟨hchunk, hrest⟩ := List.forall_mem_cons.mp hall
        obtain ⟨registered, hq⟩ := Option.isSome_iff_exists.mp hchunk
        refine ⟨_, (routeChunk_of_ne_router hs).mpr ⟨registered, hq, rfl⟩, ?_⟩
        refine (foldlM_routeChunk_of_ne_router hs).mpr ⟨hrest, ?_⟩
        simp only [hq, Option.getD_some, List.flatMap_cons, List.map_append, List.append_assoc]

/-- `RouteMessages` from anyone but the router: it goes through when no submitted
message differs from the one stored under its id and core answers for every
destination; it writes nothing, and forwards the stored submitted messages, each
once, run by run of destination chain, with a `Routing` event each. -/
theorem routeMessages_of_ne_router (hs : sender ≠ s.config.router) {msgs : List Message}
    {s' : State} {r : Response} :
    routeMessages nexus s sender msgs = .ok (s', r) ↔
      (∀ m ∈ msgs, ∀ stored, s.routableMessages.lookup m.ccId = some stored → stored = m) ∧
      (∀ chunk ∈ Router.chunkBy Message.destinationChain
          (msgs.eraseDups.filter fun m => (s.routableMessages.lookup m.ccId).isSome),
        (nexus.isChainRegistered chunk.1).isSome) ∧
      s' = s ∧
      r = ⟨(Router.chunkBy Message.destinationChain
            (msgs.eraseDups.filter fun m => (s.routableMessages.lookup m.ccId).isSome)).flatMap
            (fun chunk => forwardRun ((nexus.isChainRegistered chunk.1).getD false) chunk.2),
          (msgs.eraseDups.filter fun m => (s.routableMessages.lookup m.ccId).isSome).map .routing⟩ := by
  unfold routeMessages
  rw [bind_eq_ok]
  constructor
  · rintro ⟨batch, hbatch, h⟩
    obtain ⟨hstored, rfl⟩ := (routableBatch_of_ne_router hs).mp hbatch
    obtain ⟨⟨store, response⟩, hfold, hpure⟩ := bind_eq_ok.mp h
    obtain ⟨hall, hacc⟩ := (foldlM_routeChunk_of_ne_router hs).mp hfold
    cases hpure
    simp only [Prod.mk.injEq] at hacc
    obtain ⟨rfl, rfl⟩ := hacc
    refine ⟨hstored, hall, rfl, ?_⟩
    simp only [List.nil_append, flatMap_snd_chunkBy]
  · rintro ⟨hstored, hall, rfl, rfl⟩
    refine ⟨_, (routableBatch_of_ne_router hs).mpr ⟨hstored, rfl⟩, bind_eq_ok.mpr ⟨_,
      (foldlM_routeChunk_of_ne_router hs).mpr ⟨hall, rfl⟩, ?_⟩⟩
    simp only [List.nil_append, flatMap_snd_chunkBy]
    rfl

end NotRouter

/-! ## Routing the router's batch -/

/-- Saving messages executable: from `store` to `store'`, entries are only added,
each an approved message of `msgs` for this chain under its own id, and every
message of `msgs` is then stored. -/
structure SavesExecutable (chainName : ChainName) (msgs : List Message)
    (store store' : Map CrossChainId ExecutableMessage) : Prop where
  extends_ : Map.Extends store store'
  added : ∀ k e, store'.lookup k = some e → store.lookup k = some e ∨
    ∃ m ∈ msgs, k = m.ccId ∧ e = .approved m ∧ m.destinationChain = chainName
  stored : ∀ m ∈ msgs, ∃ e, store'.lookup m.ccId = some e ∧ e.msg = m

theorem SavesExecutable.nil (chainName : ChainName) (store : Map CrossChainId ExecutableMessage) :
    SavesExecutable chainName [] store store :=
  ⟨Map.Extends.refl _, fun _ _ h => .inl h, fun _ hm => nomatch hm⟩

theorem SavesExecutable.append {chainName : ChainName} {msgs₁ msgs₂ : List Message}
    {store₁ store₂ store₃ : Map CrossChainId ExecutableMessage}
    (h₁₂ : SavesExecutable chainName msgs₁ store₁ store₂)
    (h₂₃ : SavesExecutable chainName msgs₂ store₂ store₃) :
    SavesExecutable chainName (msgs₁ ++ msgs₂) store₁ store₃ where
  extends_ := h₁₂.extends_.trans h₂₃.extends_
  added k e h := by
    rcases h₂₃.added k e h with h₂ | ⟨m, hm, hk⟩
    · rcases h₁₂.added k e h₂ with h₁ | ⟨m, hm, hk⟩
      · exact .inl h₁
      · exact .inr ⟨m, List.mem_append_left _ hm, hk⟩
    · exact .inr ⟨m, List.mem_append_right _ hm, hk⟩
  stored m hm := by
    rcases List.mem_append.mp hm with hm | hm
    · obtain ⟨e, he, hmsg⟩ := h₁₂.stored m hm
      exact ⟨e, h₂₃.extends_ _ _ he, hmsg⟩
    · exact h₂₃.stored m hm

theorem prepareStep_eq_ok {chainName : ChainName} {store store' : Map CrossChainId ExecutableMessage}
    {msg : Message} :
    prepareStep chainName store msg = .ok store' ↔ chainName = msg.destinationChain ∧
      saveExecutableMsg store msg.ccId msg = .ok store' := by
  unfold prepareStep
  rw [bind_eq_ok]
  constructor
  · rintro ⟨u, hdest, hsave⟩
    exact ⟨of_decide_eq_true (ensure_eq_ok.mp hdest), mapError_eq_ok.mp hsave⟩
  · rintro ⟨hdest, hsave⟩
    exact ⟨(), ensure_eq_ok.mpr (decide_eq_true hdest), mapError_eq_ok.mpr hsave⟩

theorem savesExecutable_prepareStep {chainName : ChainName}
    {store store' : Map CrossChainId ExecutableMessage} {msg : Message}
    (h : prepareStep chainName store msg = .ok store') :
    SavesExecutable chainName [msg] store store' := by
  obtain ⟨hdest, hsave⟩ := prepareStep_eq_ok.mp h
  rcases saveExecutableMsg_eq_ok.mp hsave with ⟨e, he, hmsg, rfl⟩ | ⟨hnone, rfl⟩
  · exact ⟨Map.Extends.refl _, fun _ _ h => .inl h,
      fun m hm => List.mem_singleton.mp hm ▸ ⟨e, he, hmsg⟩⟩
  · refine ⟨Map.extends_insert hnone _, fun k e' hk => ?_, fun m hm => ?_⟩
    · by_cases hkk : k = msg.ccId
      · subst hkk
        rw [AList.lookup_insert, Option.some.injEq] at hk
        exact .inr ⟨msg, List.mem_singleton_self _, rfl, hk.symm, hdest.symm⟩
      · rw [AList.lookup_insert_ne hkk] at hk
        exact .inl hk
    · rw [List.mem_singleton.mp hm, AList.lookup_insert]
      exact ⟨_, rfl, rfl⟩

theorem savesExecutable_foldlM_prepareStep {chainName : ChainName} :
    ∀ {msgs : List Message} {store store' : Map CrossChainId ExecutableMessage},
      msgs.foldlM (prepareStep chainName) store = .ok store' →
        SavesExecutable chainName msgs store store'
  | [], store, store', h => by
      cases h
      exact SavesExecutable.nil chainName store
  | msg :: msgs, store, store', h => by
      rw [List.foldlM_cons, bind_eq_ok] at h
      obtain ⟨store₁, h₁, hrest⟩ := h
      exact (savesExecutable_prepareStep h₁).append (savesExecutable_foldlM_prepareStep hrest)

theorem prepareForExecution_eq_ok {chainName : ChainName}
    {store store' : Map CrossChainId ExecutableMessage} {msgs : List Message}
    {messages : List CosmosMsg} {events : List Event}
    (h : prepareForExecution store chainName msgs = .ok (store', messages, events)) :
    SavesExecutable chainName msgs store store' ∧ messages = [] ∧ events = msgs.map .routing := by
  obtain ⟨store₁, hfold, hpure⟩ := bind_eq_ok.mp h
  cases hpure
  exact ⟨savesExecutable_foldlM_prepareStep hfold, rfl, rfl⟩

/-- What routing the router's messages `msgs` does, from a store and the messages
sent so far to a store and the messages sent then: it saves them as
`SavesExecutable` says, sends only nexus messages of them for chains core knows,
and each of them is either sent to the nexus module or, for this chain, stored. -/
structure RoutesFromRouter (nexus : NexusQuerier) (chainName : ChainName) (msgs : List Message)
    (store store' : Map CrossChainId ExecutableMessage) (out out' : List CosmosMsg) : Prop where
  saves : Map.Extends store store' ∧ ∀ k e, store'.lookup k = some e → store.lookup k = some e ∨
    ∃ m ∈ msgs, k = m.ccId ∧ e = .approved m ∧ m.destinationChain = chainName
  sent : ∃ extra, out' = out ++ extra ∧ ∀ c ∈ extra, ∃ m ∈ msgs,
    c = .nexus (AxelarCoreStd.Nexus.ofRouterMessage m) ∧
      nexus.isChainRegistered m.destinationChain = some true
  delivered : ∀ m ∈ msgs,
    (nexus.isChainRegistered m.destinationChain = some true ∧
      .nexus (AxelarCoreStd.Nexus.ofRouterMessage m) ∈ out') ∨
    (nexus.isChainRegistered m.destinationChain = some false ∧ m.destinationChain = chainName ∧
      ∃ e, store'.lookup m.ccId = some e ∧ e.msg = m)

theorem RoutesFromRouter.nil (nexus : NexusQuerier) (chainName : ChainName)
    (store : Map CrossChainId ExecutableMessage) (out : List CosmosMsg) :
    RoutesFromRouter nexus chainName [] store store out out :=
  ⟨⟨Map.Extends.refl _, fun _ _ h => .inl h⟩, ⟨[], by simp, fun _ hc => nomatch hc⟩,
    fun _ hm => nomatch hm⟩

theorem RoutesFromRouter.append {nexus : NexusQuerier} {chainName : ChainName}
    {msgs₁ msgs₂ : List Message} {store₁ store₂ store₃ : Map CrossChainId ExecutableMessage}
    {out₁ out₂ out₃ : List CosmosMsg}
    (h₁₂ : RoutesFromRouter nexus chainName msgs₁ store₁ store₂ out₁ out₂)
    (h₂₃ : RoutesFromRouter nexus chainName msgs₂ store₂ store₃ out₂ out₃) :
    RoutesFromRouter nexus chainName (msgs₁ ++ msgs₂) store₁ store₃ out₁ out₃ := by
  obtain ⟨⟨hext₁₂, hadd₁₂⟩, ⟨extra₁₂, rfl, hextra₁₂⟩, hdel₁₂⟩ := h₁₂
  obtain ⟨⟨hext₂₃, hadd₂₃⟩, ⟨extra₂₃, rfl, hextra₂₃⟩, hdel₂₃⟩ := h₂₃
  refine ⟨⟨hext₁₂.trans hext₂₃, fun k e h => ?_⟩, ⟨extra₁₂ ++ extra₂₃, by simp, fun c hc => ?_⟩,
    fun m hm => ?_⟩
  · rcases hadd₂₃ k e h with h₂ | ⟨m, hm, hk⟩
    · rcases hadd₁₂ k e h₂ with h₁ | ⟨m, hm, hk⟩
      · exact .inl h₁
      · exact .inr ⟨m, List.mem_append_left _ hm, hk⟩
    · exact .inr ⟨m, List.mem_append_right _ hm, hk⟩
  · rcases List.mem_append.mp hc with hc | hc
    · obtain ⟨m, hm, hcm⟩ := hextra₁₂ c hc
      exact ⟨m, List.mem_append_left _ hm, hcm⟩
    · obtain ⟨m, hm, hcm⟩ := hextra₂₃ c hc
      exact ⟨m, List.mem_append_right _ hm, hcm⟩
  · rcases List.mem_append.mp hm with hm | hm
    · -- what the first part delivered stays: its messages are sent, its entries kept
      rcases hdel₁₂ m hm with ⟨hq, hmem⟩ | ⟨hq, hdest, e, he, hmsg⟩
      · exact .inl ⟨hq, List.mem_append_left _ hmem⟩
      · exact .inr ⟨hq, hdest, e, hext₂₃ _ _ he, hmsg⟩
    · exact hdel₂₃ m hm

section FromRouter

variable {nexus : NexusQuerier} {s : State}

theorem routeChunk_of_router {acc acc' : Map CrossChainId ExecutableMessage × Response}
    {chunk : ChainName × List Message} (hkey : ∀ m ∈ chunk.2, m.destinationChain = chunk.1)
    (h : routeChunk nexus s s.config.router acc chunk = .ok acc') :
    acc'.2.events = acc.2.events ++ chunk.2.map .routing ∧
      RoutesFromRouter nexus s.config.chainName chunk.2 acc.1 acc'.1 acc.2.messages
        acc'.2.messages := by
  obtain ⟨d, hd, h⟩ := bind_eq_ok.mp h
  rcases determineRoutingDestination_eq_ok.mp hd with ⟨hq, rfl⟩ | ⟨hq, -, hchain, rfl⟩ |
    ⟨-, hsr, -⟩
  · -- a chain core knows: each message to the nexus module
    cases h
    refine ⟨rfl, ⟨Map.Extends.refl _, fun _ _ h => .inl h⟩, ⟨_, rfl, fun c hc => ?_⟩,
      fun m hm => .inl ⟨hkey m hm ▸ hq, ?_⟩⟩
    · obtain ⟨m, hm, rfl⟩ := List.mem_map.mp hc
      exact ⟨m, hm, rfl, hkey m hm ▸ hq⟩
    · exact List.mem_append_right _ (List.mem_map_of_mem hm)
  · -- this chain: each message saved executable
    obtain ⟨⟨store, messages, events⟩, hprep, hpure⟩ := bind_eq_ok.mp h
    cases hpure
    obtain ⟨hsaves, rfl, rfl⟩ := prepareForExecution_eq_ok hprep
    refine ⟨rfl, ⟨hsaves.extends_, hsaves.added⟩, ⟨[], by simp, fun _ hc => nomatch hc⟩,
      fun m hm => .inr ⟨hkey m hm ▸ hq, (hkey m hm).trans hchain, hsaves.stored m hm⟩⟩
  · exact absurd rfl hsr

theorem foldlM_routeChunk_of_router :
    ∀ {chunks : List (ChainName × List Message)}
      {acc acc' : Map CrossChainId ExecutableMessage × Response},
      (∀ chunk ∈ chunks, ∀ m ∈ chunk.2, m.destinationChain = chunk.1) →
      chunks.foldlM (routeChunk nexus s s.config.router) acc = .ok acc' →
      acc'.2.events = acc.2.events ++ (chunks.flatMap Prod.snd).map .routing ∧
        RoutesFromRouter nexus s.config.chainName (chunks.flatMap Prod.snd) acc.1 acc'.1
          acc.2.messages acc'.2.messages
  | [], acc, acc', _, h => by
      cases h
      exact ⟨by simp, RoutesFromRouter.nil _ _ _ _⟩
  | chunk :: chunks, acc, acc', hkeys, h => by
      rw [List.foldlM_cons, bind_eq_ok] at h
      obtain ⟨acc₁, h₁, hrest⟩ := h
      obtain ⟨hev₁, hroute₁⟩ := routeChunk_of_router (hkeys chunk List.mem_cons_self) h₁
      obtain ⟨hev, hroute⟩ :=
        foldlM_routeChunk_of_router (fun c hc => hkeys c (List.mem_cons_of_mem _ hc)) hrest
      refine ⟨by simp [hev, hev₁], ?_⟩
      rw [List.flatMap_cons]
      exact hroute₁.append hroute

/-- `RouteMessages` from the router: nothing routable is written; each message is
sent to the nexus module when core knows its destination, and otherwise is for
this chain and stored executable (approved, or already stored alike); the only
new entries are these, and a `Routing` event is emitted for each message. -/
theorem routeMessages_of_router {msgs : List Message} {s' : State} {r : Response}
    (h : routeMessages nexus s s.config.router msgs = .ok (s', r)) :
    s'.config = s.config ∧ s'.routableMessages = s.routableMessages ∧
      r.events = msgs.map .routing ∧
      RoutesFromRouter nexus s.config.chainName msgs s.executableMessages s'.executableMessages
        [] r.messages := by
  obtain ⟨batch, hbatch, hrest⟩ := bind_eq_ok.mp h
  obtain rfl := routableBatch_of_router.mp hbatch
  obtain ⟨⟨store, response⟩, hfold, hpure⟩ := bind_eq_ok.mp hrest
  cases hpure
  obtain ⟨hev, hroute⟩ := foldlM_routeChunk_of_router
    (fun chunk hc m hm => Router.key_of_mem_chunkBy Message.destinationChain hc m hm) hfold
  rw [flatMap_snd_chunkBy] at hev hroute
  exact ⟨rfl, rfl, hev, hroute⟩

end FromRouter

/-! ## Contract calls, execution and the nexus module's messages -/

/-- The message `call_contract` makes: its id is this chain with the nexus
module's hash and nonce, its source the caller, its payload hash the payload's. -/
def callMessage (ext : Externals) (chainName : ChainName) (data : CallContractData)
    (txHash : Hash) (nonce : UInt64) (sourceAddress : Address) : Message :=
  data.toMessage ext ⟨chainNameRaw chainName, (HexTxHashAndEventIndex.mk txHash nonce).toNonemptyString⟩
    sourceAddress

section Call

variable {ext : Externals} {nexus : NexusQuerier} {s : State} {sender : String}
  {data : CallContractData}

theorem callContract_eq_ok {s' : State} {r : Response} :
    callContract ext nexus s sender data = .ok (s', r) ↔
      ∃ txHash nonce sourceAddress, nexus.txHashAndNonce = some (txHash, nonce) ∧
        nonce.toNat < 2 ^ 32 ∧ addressFromStr sender = some sourceAddress ∧
        s.routableMessages.lookup
          (callMessage ext s.config.chainName data txHash nonce sourceAddress).ccId = none ∧
        ∃ r₀, routeMessages nexus ⟨s.config, s.routableMessages.insert
            (callMessage ext s.config.chainName data txHash nonce sourceAddress).ccId
            (callMessage ext s.config.chainName data txHash nonce sourceAddress),
            s.executableMessages⟩ sender
            [callMessage ext s.config.chainName data txHash nonce sourceAddress] = .ok (s', r₀) ∧
          r = { r₀ with events := r₀.events ++
            [.contractCalled (callMessage ext s.config.chainName data txHash nonce sourceAddress)
              data.payload] } := by
  unfold callContract
  simp only [bind_eq_ok, okOr_eq_ok, uniqueCrossChainId_eq_ok, saveRoutable_eq_ok]
  constructor
  · rintro ⟨id, ⟨txHash, nonce, hq, hlt, rfl⟩, sourceAddress, haddr, routable, ⟨hnone, rfl⟩,
      ⟨s₁, r₀⟩, hroute, hpure⟩
    cases hpure
    exact ⟨txHash, nonce, sourceAddress, hq, hlt, haddr, hnone, r₀, hroute, rfl⟩
  · rintro ⟨txHash, nonce, sourceAddress, hq, hlt, haddr, hnone, r₀, hroute, rfl⟩
    exact ⟨_, ⟨txHash, nonce, hq, hlt, rfl⟩, sourceAddress, haddr, _, ⟨hnone, rfl⟩, (s', r₀),
      hroute, rfl⟩

/-- A call whose id is taken panics. -/
theorem callContract_eq_panic {txHash : Hash} {nonce : UInt64} {sourceAddress : Address}
    (hq : nexus.txHashAndNonce = some (txHash, nonce)) (hlt : nonce.toNat < 2 ^ 32)
    (haddr : addressFromStr sender = some sourceAddress)
    (htaken : (s.routableMessages.lookup
      (callMessage ext s.config.chainName data txHash nonce sourceAddress).ccId).isSome) :
    callContract ext nexus s sender data = .error (.panic ("violated invariant: message with ID " ++
      (callMessage ext s.config.chainName data txHash nonce sourceAddress).ccId.toString ++
        " already exists")) := by
  have hid : uniqueCrossChainId nexus s.config.chainName = .ok
      ⟨chainNameRaw s.config.chainName, (HexTxHashAndEventIndex.mk txHash nonce).toNonemptyString⟩ :=
    uniqueCrossChainId_eq_ok.mpr ⟨txHash, nonce, hq, hlt, rfl⟩
  have hsave := saveRoutable_of_isSome htaken
  simp only [callContract, hid, haddr, okOr, bind, Except.bind]
  rw [callMessage] at hsave
  rw [hsave]
  rfl

end Call

section Execution

variable {ext : Externals} {s s' : State} {ccId : CrossChainId} {payload : ByteArray}
  {r : Response}

theorem ensureSamePayloadHash_eq_ok {payloadHash : Hash} {msg : Message} {u : Unit} :
    ensureSamePayloadHash payloadHash msg = .ok u ↔ msg.payloadHash = payloadHash := by
  unfold ensureSamePayloadHash
  by_cases h : payloadHash = msg.payloadHash <;> simp [h, eq_comm]

theorem execute_eq_ok :
    Execute.execute ext s ccId payload = .ok (s', r) ↔
      ∃ msg, s.executableMessages.lookup ccId = some (.approved msg) ∧
        msg.payloadHash = ext.keccak256 payload ∧ ext.isValidAddress msg.destinationAddress.val ∧
        s' = { s with executableMessages := s.executableMessages.insert ccId (.executed msg) } ∧
        r = ⟨[.execute msg.destinationAddress.val ⟨ccId, msg.sourceAddress, payload⟩],
          [.messageExecuted msg]⟩ := by
  unfold Execute.execute
  simp only [bind_eq_ok, mapError_eq_ok, ensure_eq_ok]
  constructor
  · rintro ⟨⟨store, msg⟩, hmark, u, hvalid, hpure⟩
    obtain ⟨hlook, hhash, rfl⟩ := markAsExecuted_eq_ok.mp hmark
    cases hpure
    exact ⟨msg, hlook, ensureSamePayloadHash_eq_ok.mp hhash, hvalid, rfl, rfl⟩
  · rintro ⟨msg, hlook, hhash, hvalid, rfl, rfl⟩
    exact ⟨(_, msg), markAsExecuted_eq_ok.mpr ⟨hlook, ensureSamePayloadHash_eq_ok.mpr hhash, rfl⟩,
      (), hvalid, rfl⟩

/-- An executed message is refused. -/
theorem execute_of_executed {msg : Message}
    (h : s.executableMessages.lookup ccId = some (.executed msg)) :
    Execute.execute ext s ccId payload =
      .error (.error [.execute (.markExecuted ccId), .state (.messageAlreadyExecuted ccId)]) := by
  simp [Execute.execute, markAsExecuted_of_executed h, bind, Except.bind, Except.mapError]

end Execution

theorem routeMessagesFromNexus_eq_ok {s s' : State} {msgs : List AxelarCoreStd.Nexus.Message}
    {r : Response} :
    routeMessagesFromNexus s msgs = .ok (s', r) ↔
      s' = s ∧ ∃ routerMsgs, msgs.mapM AxelarCoreStd.Nexus.Message.toRouterMessage = .ok routerMsgs ∧
        r = ⟨route routerMsgs, []⟩ := by
  unfold routeMessagesFromNexus
  simp only [bind_eq_ok, mapError_eq_ok]
  constructor
  · rintro ⟨routerMsgs, hmsgs, hpure⟩
    cases hpure
    exact ⟨rfl, routerMsgs, hmsgs, rfl⟩
  · rintro ⟨rfl, routerMsgs, hmsgs, rfl⟩
    exact ⟨routerMsgs, hmsgs, rfl⟩

/-! ## Dispatch -/

/-- A committed call is one of the four handlers, `RouteMessagesFromNexus` from
the nexus module only. -/
theorem execute_cases {ext : Externals} {s s' : State} {call : Call} {r : Response}
    (h : AxelarnetGateway.execute ext s call = .ok (s', r)) :
    (∃ destinationChain destinationAddress payload,
      call.msg = .callContract destinationChain destinationAddress payload ∧
      callContract ext call.nexus s call.sender ⟨destinationChain, destinationAddress, payload⟩ =
        .ok (s', r)) ∨
    (∃ msgs, call.msg = .routeMessages msgs ∧
      routeMessages call.nexus s call.sender msgs = .ok (s', r)) ∨
    (∃ ccId payload, call.msg = .execute ccId payload ∧
      Execute.execute ext s ccId payload = .ok (s', r)) ∨
    (∃ msgs, call.msg = .routeMessagesFromNexus msgs ∧ call.sender = s.config.nexus ∧
      routeMessagesFromNexus s msgs = .ok (s', r)) := by
  obtain ⟨u, hperm, h⟩ := bind_eq_ok.mp h
  obtain ⟨sender, msg, nexus⟩ := call
  cases msg with
  | callContract destinationChain destinationAddress payload =>
      exact .inl ⟨_, _, _, rfl, changeContext_eq_ok.mp h⟩
  | routeMessages msgs => exact .inr (.inl ⟨msgs, rfl, changeContext_eq_ok.mp h⟩)
  | execute ccId payload => exact .inr (.inr (.inl ⟨ccId, payload, rfl, changeContext_eq_ok.mp h⟩))
  | routeMessagesFromNexus msgs =>
      have hsender : sender = s.config.nexus := of_decide_eq_true (ensure_eq_ok.mp hperm)
      exact .inr (.inr (.inr ⟨msgs, rfl, hsender, h⟩))

end Amplifier.AxelarnetGateway
