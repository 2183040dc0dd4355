import StreamSync.Lib.BoundedQueue
import StreamSync.TimeoutSweep

namespace StreamSync

open KeyedTable BoundedQueue Saturating

/-- A registry as its operations build it, with every sender under its own client id. -/
structure KeyedSenderRegistry extends AuthenticatedSenderRegistry where
  keyed : ∀ clientId entry, toAuthenticatedSenderRegistry.get clientId = some entry → entry.clientId = clientId

namespace KeyedSenderRegistry

def empty : KeyedSenderRegistry := ⟨.empty, fun _ _ h => by cases h⟩

def register (registry : KeyedSenderRegistry) (registration : AuthenticatedSenderRegistration) :
    KeyedSenderRegistry where
  toAuthenticatedSenderRegistry := registry.toAuthenticatedSenderRegistry.register registration
  keyed := by
    intro clientId entry h
    rw [AuthenticatedSenderRegistry.get_register] at h
    split at h
    next hclient =>
      cases h
      exact hclient
    next => exact registry.keyed clientId entry h

def invalidate (registry : KeyedSenderRegistry) (invalidation : AuthenticatedSenderInvalidation) :
    KeyedSenderRegistry where
  toAuthenticatedSenderRegistry := (registry.toAuthenticatedSenderRegistry.invalidate invalidation).1
  keyed := by
    intro clientId entry h
    rw [AuthenticatedSenderRegistry.get_invalidate] at h
    split at h
    next => cases h
    next => exact registry.keyed clientId entry h

/-- The clients that a pass goes through. -/
def clientIds (registry : KeyedSenderRegistry) : List ClientId := registry.entries.map (·.clientId)

theorem clientIds_eq_keys (registry : KeyedSenderRegistry) :
    registry.clientIds = registry.entriesByClientId.keys := by
  unfold clientIds AuthenticatedSenderRegistry.entries
  rw [← Std.ExtTreeMap.map_fst_toList_eq_keys, List.map_map]
  refine List.map_congr_left fun entry hentry => ?_
  have hget : registry.entriesByClientId[entry.1]? = some entry.2 :=
    Std.ExtTreeMap.mem_toList_iff_getElem?_eq_some.mp hentry
  exact registry.keyed entry.1 entry.2 hget

theorem mem_clientIds (registry : KeyedSenderRegistry) {clientId : ClientId} :
    clientId ∈ registry.clientIds ↔ (registry.get clientId).isSome := by
  rw [clientIds_eq_keys, Std.ExtTreeMap.mem_keys, Std.ExtTreeMap.mem_iff_isSome_getElem?]
  rfl

theorem clientIds_ordered (registry : KeyedSenderRegistry) :
    registry.clientIds.Pairwise fun a b => compare a b = .lt := by
  rw [clientIds_eq_keys]
  exact Std.ExtTreeMap.ordered_keys

theorem clientIds_nodup (registry : KeyedSenderRegistry) : registry.clientIds.Nodup := by
  rw [clientIds_eq_keys]
  exact Std.ExtTreeMap.nodup_keys

/-- Key order and membership determine the list. -/
theorem eq_clientIds {registry : KeyedSenderRegistry} {clientIds : List ClientId}
    (hordered : clientIds.Pairwise fun a b => compare a b = .lt)
    (hmem : ∀ clientId, clientId ∈ clientIds ↔ (registry.get clientId).isSome) :
    clientIds = registry.clientIds := by
  have hnodup : clientIds.Nodup := hordered.imp fun {a b} hlt heq => by
    subst heq
    exact Std.OrientedCmp.not_lt_of_lt hlt hlt
  have hperm : clientIds.Perm registry.clientIds :=
    (List.perm_ext_iff_of_nodup hnodup registry.clientIds_nodup).mpr fun clientId =>
      (hmem clientId).trans registry.mem_clientIds.symm
  refine hperm.eq_of_pairwise (fun a b _ _ hlt hgt => ?_) hordered registry.clientIds_ordered
  exact absurd hgt (Std.OrientedCmp.not_lt_of_lt hlt)

end KeyedSenderRegistry

/-- A liveness state as commits build it. -/
structure KeyedLiveness extends ServerHeartbeatLivenessState where
  keyed : ∀ clientId entry, toServerHeartbeatLivenessState.get clientId = some entry → entry.clientId = clientId

namespace KeyedLiveness

def empty : KeyedLiveness := ⟨.empty, fun _ _ h => by cases h⟩

def commit (liveness : KeyedLiveness) (input : ServerHeartbeatStateInput) : KeyedLiveness where
  toServerHeartbeatLivenessState := commitLiveness liveness.toServerHeartbeatLivenessState input
  keyed := by
    intro clientId entry h
    rw [get_commitLiveness] at h
    split at h
    next hclient =>
      cases h
      exact hclient
    next => exact liveness.keyed clientId entry h

end KeyedLiveness

/-- The record of a client whose last heartbeat was the entry. -/
def timeoutRecord (input : ServerHeartbeatTimeoutMultiClientLoopInput)
    (entry : ServerHeartbeatLivenessEntry) : ServerHeartbeatTimeoutLogInput where
  source := entry.source
  clientId := entry.clientId
  runId := entry.runId
  protocolVersion := entry.protocolVersion
  lastServerReceivedAt := entry.lastServerReceivedAt
  evaluatedAt := input.evaluatedAt
  elapsedMicros := saturatingSub input.evaluatedAt entry.lastServerReceivedAt
  timeoutAfterMicros := input.policy.timeoutAfterMicros
  registryInvalidationPlanned := true
  noticePlanned := true

def timeoutNotice (input : ServerHeartbeatTimeoutMultiClientLoopInput)
    (entry : ServerHeartbeatLivenessEntry) : OutboundPacket :=
  buildNotice {
    destination := entry.source
    protocolVersion := entry.protocolVersion
    runId := entry.runId
    noticeType := .authExpired
    message := s!"heartbeat timeout: elapsed_micros={saturatingSub input.evaluatedAt entry.lastServerReceivedAt} " ++
      s!"timeout_after_micros={input.policy.timeoutAfterMicros}" }

section Tick

variable {write : TimeoutLogWriter} {liveness : ServerHeartbeatLivenessState}
  {registry : AuthenticatedSenderRegistry} {clientId : ClientId}
  {input : ServerHeartbeatTimeoutMultiClientLoopInput} {entry : ServerHeartbeatLivenessEntry}

theorem evaluateTimeout_expired (h : expiredEntry liveness clientId input = some entry) :
    liveness.get clientId = some entry ∧
      evaluateTimeout liveness clientId input.evaluatedAt input.policy =
        .timedOut clientId entry.lastServerReceivedAt
          (saturatingSub input.evaluatedAt entry.lastServerReceivedAt) input.policy.timeoutAfterMicros := by
  obtain ⟨hget, hold⟩ := Option.filter_eq_some_iff.mp h
  refine ⟨hget, ?_⟩
  simp only [evaluateTimeout, hget, if_pos (of_decide_eq_true hold)]

/-- A client that is not timed out is left alone. -/
theorem runOneClient_alive (h : expiredEntry liveness clientId input = none) :
    ∃ tick, ServerHeartbeatTimeoutLoopTickBoundary.runOneClient write liveness registry
        ⟨clientId, input.evaluatedAt, input.policy⟩ = (registry, .ok tick) ∧
      tick.apply.hasActions = false ∧ tick.apply.registryInvalidation = none ∧
      tick.apply.noticeHandoff = none := by
  have hplan : ∃ evaluation, planActions liveness (evaluateTimeout liveness clientId input.evaluatedAt
      input.policy) input.evaluatedAt = ⟨evaluation, none, none, none⟩ := by
    unfold expiredEntry at h
    unfold evaluateTimeout
    cases hget : liveness.get clientId with
    | none => exact ⟨_, rfl⟩
    | some entry =>
      rw [hget, Option.filter_some] at h
      split at h
      next => cases h
      next hfresh =>
        dsimp only
        rw [if_neg fun hold => hfresh (decide_eq_true hold)]
        exact ⟨_, rfl⟩
  obtain ⟨evaluation, hplan⟩ := hplan
  unfold ServerHeartbeatTimeoutLoopTickBoundary.runOneClient
  dsimp only
  rw [hplan]
  exact ⟨_, rfl, rfl, rfl, rfl⟩

/-- A timed-out client is taken out of the registry before its record is written. -/
theorem runOneClient_expired (h : expiredEntry liveness clientId input = some entry) :
    (write (timeoutRecord input entry) = .ok () →
      ∃ tick, ServerHeartbeatTimeoutLoopTickBoundary.runOneClient write liveness registry
          ⟨clientId, input.evaluatedAt, input.policy⟩ =
            (⟨registry.entriesByClientId.erase entry.clientId⟩, .ok tick) ∧
        tick.apply.hasActions = true ∧ tick.apply.registryInvalidation.isSome ∧
        tick.apply.noticeHandoff = some (timeoutNotice input entry)) ∧
    ∀ error, write (timeoutRecord input entry) = .error error →
      ServerHeartbeatTimeoutLoopTickBoundary.runOneClient write liveness registry
          ⟨clientId, input.evaluatedAt, input.policy⟩ =
        (⟨registry.entriesByClientId.erase entry.clientId⟩, .error error) := by
  obtain ⟨hget, hevaluated⟩ := evaluateTimeout_expired h
  unfold ServerHeartbeatTimeoutLoopTickBoundary.runOneClient
  dsimp only
  rw [hevaluated]
  simp only [planActions, hget, applyPlan, Option.map_some, AuthenticatedSenderRegistry.invalidate]
  constructor
  · intro hwritten
    have hlog : (some (timeoutRecord input entry)).forM write = .ok () := hwritten
    unfold timeoutRecord at hlog
    rw [hlog]
    exact ⟨_, rfl, rfl, rfl, rfl⟩
  · intro error hfailed
    have hlog : (some (timeoutRecord input entry)).forM write = .error error := hfailed
    unfold timeoutRecord at hlog
    rw [hlog]
    rfl

end Tick

/-- What one result says of its client, when the queue held so many items before. -/
def ReportsClient (liveness : ServerHeartbeatLivenessState)
    (input : ServerHeartbeatTimeoutMultiClientLoopInput) (queueLen : Nat)
    (result : ServerHeartbeatTimeoutMultiClientLoopClientResult) : Prop :=
  match expiredEntry liveness result.clientId input with
  | none => result.tick.apply.registryInvalidation = none ∧
      result.noticeQueueStorage = .noNotice .notRequested
  | some entry => result.tick.apply.registryInvalidation.isSome ∧
      if queueLen < outboundQueueMaxItems then
        ∃ decision, result.noticeQueueStorage = .stored decision (timeoutNotice input entry) (queueLen + 1)
          (.requestSendLoopWakeup .timeoutNoticeQueued)
      else ∃ decision, result.noticeQueueStorage = .dropped decision queueLen .notRequested

/-- Where the queue is full the notice of a timed-out client is reported as dropped. -/
theorem ReportsClient.dropped {liveness : ServerHeartbeatLivenessState}
    {input : ServerHeartbeatTimeoutMultiClientLoopInput} {queueLen : Nat}
    {result : ServerHeartbeatTimeoutMultiClientLoopClientResult}
    (h : ReportsClient liveness input queueLen result)
    (hexpired : (expiredEntry liveness result.clientId input).isSome)
    (hfull : outboundQueueMaxItems ≤ queueLen) :
    ∃ decision, result.noticeQueueStorage = .dropped decision queueLen .notRequested := by
  obtain ⟨entry, hentry⟩ := Option.isSome_iff_exists.mp hexpired
  unfold ReportsClient at h
  rw [hentry] at h
  have hreported := h.2
  rw [if_neg (not_lt.mpr hfull)] at hreported
  exact hreported

/-- What one turn of the loop does. -/
inductive SweepStep (write : TimeoutLogWriter) (liveness : ServerHeartbeatLivenessState)
    (input : ServerHeartbeatTimeoutMultiClientLoopInput) (sweep : TimeoutSweep) (clientId : ClientId) :
    TimeoutSweep × Except IoErrorKind Unit → Prop where
  | alive (result : ServerHeartbeatTimeoutMultiClientLoopClientResult) (client : result.clientId = clientId)
      (fresh : expiredEntry liveness clientId input = none)
      (reports : ReportsClient liveness input sweep.noticeQueue.length result) :
      SweepStep write liveness input sweep clientId
        ({ sweep with processed := sweep.processed ++ [result] }, .ok ())
  | expired (result : ServerHeartbeatTimeoutMultiClientLoopClientResult) (client : result.clientId = clientId)
      (entry : ServerHeartbeatLivenessEntry) (old : expiredEntry liveness clientId input = some entry)
      (written : write (timeoutRecord input entry) = .ok ())
      (reports : ReportsClient liveness input sweep.noticeQueue.length result) :
      SweepStep write liveness input sweep clientId
        (⟨⟨sweep.registry.entriesByClientId.erase entry.clientId⟩,
          push outboundQueueMaxItems sweep.noticeQueue (timeoutNotice input entry),
          sweep.processed ++ [result], sweep.timeoutActionsApplied + 1⟩, .ok ())
  | failed (entry : ServerHeartbeatLivenessEntry) (old : expiredEntry liveness clientId input = some entry)
      (error : IoErrorKind) (unwritten : write (timeoutRecord input entry) = .error error) :
      SweepStep write liveness input sweep clientId
        ({ sweep with registry := ⟨sweep.registry.entriesByClientId.erase entry.clientId⟩ }, .error error)

section Loop

variable {write : TimeoutLogWriter} {liveness : ServerHeartbeatLivenessState}
  {input : ServerHeartbeatTimeoutMultiClientLoopInput}

/-- A notice is a control message, so it is stored exactly when there is room. -/
theorem storeNotice_notice (collection : List OutboundPacket) {apply : ServerHeartbeatTimeoutApplyResult}
    {entry : ServerHeartbeatLivenessEntry} (h : apply.noticeHandoff = some (timeoutNotice input entry)) :
    (ServerHeartbeatTimeoutNoticeQueueStorageBoundary.storeNotice collection apply).1 =
        push outboundQueueMaxItems collection (timeoutNotice input entry) ∧
      if collection.length < outboundQueueMaxItems then
        ∃ decision, (ServerHeartbeatTimeoutNoticeQueueStorageBoundary.storeNotice collection apply).2 =
          .stored decision (timeoutNotice input entry) (collection.length + 1)
            (.requestSendLoopWakeup .timeoutNoticeQueued)
      else ∃ decision, (ServerHeartbeatTimeoutNoticeQueueStorageBoundary.storeNotice collection apply).2 =
          .dropped decision collection.length .notRequested := by
  have hclass : outboundQueueItemClass (timeoutNotice input entry).message = .control := rfl
  have hmax : OutboundQueueCapacityPolicy.default.maxItems = outboundQueueMaxItems := rfl
  unfold ServerHeartbeatTimeoutNoticeQueueStorageBoundary.storeNotice
  rw [h]
  by_cases hroom : collection.length < outboundQueueMaxItems
  · have haccepts : (evaluateStoragePush collection.length (timeoutNotice input entry)).acceptsCandidate =
        true := by
      unfold evaluateStoragePush evaluateAdmission
      dsimp only
      rw [hclass, hmax, if_pos hroom]
      rfl
    simp only [haccepts, if_true, push_of_lt hroom, if_pos hroom]
    exact ⟨trivial, _, rfl⟩
  · have hdrops : (evaluateStoragePush collection.length (timeoutNotice input entry)).acceptsCandidate =
        false := by
      unfold evaluateStoragePush evaluateAdmission
      dsimp only
      rw [hclass, hmax, if_neg hroom]
      rfl
    simp only [hdrops, Bool.false_eq_true, if_false, push_of_full (not_lt.mp hroom), if_neg hroom]
    exact ⟨trivial, _, rfl⟩

theorem processClient_step (sweep : TimeoutSweep) (clientId : ClientId) :
    SweepStep write liveness input sweep clientId
      (ServerHeartbeatTimeoutMultiClientLoopBoundary.processClient write liveness input sweep clientId) := by
  unfold ServerHeartbeatTimeoutMultiClientLoopBoundary.processClient
  cases hexpired : expiredEntry liveness clientId input with
  | none =>
    obtain ⟨tick, hran, hactions, hinvalidation, hnotice⟩ :=
      @runOneClient_alive write liveness sweep.registry clientId input hexpired
    simp only [hran, hactions, Bool.false_eq_true, if_false,
      ServerHeartbeatTimeoutNoticeQueueStorageBoundary.storeNotice, hnotice]
    refine .alive ⟨clientId, tick, .noNotice .notRequested⟩ rfl hexpired ?_
    unfold ReportsClient
    rw [hexpired]
    exact ⟨hinvalidation, rfl⟩
  | some entry =>
    obtain ⟨hok, herror⟩ := @runOneClient_expired write liveness sweep.registry clientId input entry hexpired
    cases hwrite : write (timeoutRecord input entry) with
    | error error =>
      simp only [herror error hwrite]
      exact .failed entry hexpired error hwrite
    | ok _ =>
      obtain ⟨tick, hran, hactions, hinvalidation, hnotice⟩ := hok hwrite
      obtain ⟨hqueue, hstorage⟩ := storeNotice_notice sweep.noticeQueue hnotice
      simp only [hran, hactions, if_true, hqueue]
      refine .expired ⟨clientId, tick, _⟩ rfl entry hexpired hwrite ?_
      unfold ReportsClient
      rw [hexpired]
      exact ⟨hinvalidation, hstorage⟩

end Loop

/-- The entries of the timed-out clients, in the order of their turns. -/
def expiredEntries (liveness : ServerHeartbeatLivenessState)
    (input : ServerHeartbeatTimeoutMultiClientLoopInput) (clientIds : List ClientId) :
    List ServerHeartbeatLivenessEntry :=
  clientIds.filterMap fun clientId => expiredEntry liveness clientId input

def timeoutNotices (liveness : ServerHeartbeatLivenessState)
    (input : ServerHeartbeatTimeoutMultiClientLoopInput) (clientIds : List ClientId) : List OutboundPacket :=
  (expiredEntries liveness input clientIds).map (timeoutNotice input)

/-- What the turns of the clients make of a sweep when every record is written. -/
structure SweepsTo (liveness : ServerHeartbeatLivenessState)
    (input : ServerHeartbeatTimeoutMultiClientLoopInput) (clientIds : List ClientId)
    (before after : TimeoutSweep) : Prop where
  registry : ∀ other, after.registry.get other =
    if other ∈ (expiredEntries liveness input clientIds).map (·.clientId) then none
    else before.registry.get other
  noticeQueue : after.noticeQueue =
    pushAll outboundQueueMaxItems before.noticeQueue (timeoutNotices liveness input clientIds)
  processed : ∃ results, after.processed = before.processed ++ results ∧
    results.map (·.clientId) = clientIds ∧
    ∀ done result later, results = done ++ result :: later →
      ReportsClient liveness input (pushAll outboundQueueMaxItems before.noticeQueue
        (timeoutNotices liveness input (done.map (·.clientId)))).length result
  timeoutActionsApplied : after.timeoutActionsApplied =
    before.timeoutActionsApplied + (expiredEntries liveness input clientIds).length

section Sweep

variable {write : TimeoutLogWriter} {liveness : ServerHeartbeatLivenessState}
  {input : ServerHeartbeatTimeoutMultiClientLoopInput} {clientId : ClientId} {clientIds : List ClientId}
  {entry : ServerHeartbeatLivenessEntry}

theorem expiredEntries_cons_none (h : expiredEntry liveness clientId input = none) :
    expiredEntries liveness input (clientId :: clientIds) = expiredEntries liveness input clientIds :=
  List.filterMap_cons_none h

theorem expiredEntries_cons_some (h : expiredEntry liveness clientId input = some entry) :
    expiredEntries liveness input (clientId :: clientIds) =
      entry :: expiredEntries liveness input clientIds :=
  List.filterMap_cons_some h

theorem timeoutNotices_cons_none (h : expiredEntry liveness clientId input = none) :
    timeoutNotices liveness input (clientId :: clientIds) = timeoutNotices liveness input clientIds := by
  rw [timeoutNotices, expiredEntries_cons_none h, timeoutNotices]

theorem timeoutNotices_cons_some (h : expiredEntry liveness clientId input = some entry) :
    timeoutNotices liveness input (clientId :: clientIds) =
      timeoutNotice input entry :: timeoutNotices liveness input clientIds := by
  rw [timeoutNotices, expiredEntries_cons_some h, timeoutNotices, List.map_cons]

theorem SweepsTo.nil (sweep : TimeoutSweep) : SweepsTo liveness input [] sweep sweep where
  registry := fun _ => rfl
  noticeQueue := rfl
  processed := by
    refine ⟨[], (List.append_nil _).symm, rfl, fun done result later h => ?_⟩
    cases done <;> cases h
  timeoutActionsApplied := rfl

/-- One more client in front: its own report, and those of the clients behind it as they were. -/
theorem SweepsTo.processed_cons {before sweep after : TimeoutSweep}
    (h : SweepsTo liveness input clientIds sweep after)
    {result : ServerHeartbeatTimeoutMultiClientLoopClientResult} (client : result.clientId = clientId)
    (reports : ReportsClient liveness input before.noticeQueue.length result)
    (hprocessed : sweep.processed = before.processed ++ [result])
    (hqueue : ∀ others, pushAll outboundQueueMaxItems before.noticeQueue
        (timeoutNotices liveness input (clientId :: others)) =
      pushAll outboundQueueMaxItems sweep.noticeQueue (timeoutNotices liveness input others)) :
    ∃ results, after.processed = before.processed ++ results ∧
      results.map (·.clientId) = clientId :: clientIds ∧
      ∀ done found later, results = done ++ found :: later →
        ReportsClient liveness input (pushAll outboundQueueMaxItems before.noticeQueue
          (timeoutNotices liveness input (done.map (·.clientId)))).length found := by
  obtain ⟨results, hafter, hclients, hreports⟩ := h.processed
  refine ⟨result :: results, ?_, ?_, ?_⟩
  · rw [hafter, hprocessed, List.append_assoc, List.singleton_append]
  · rw [List.map_cons, hclients, client]
  · intro done found later hresults
    cases done with
    | nil =>
      cases (List.cons.inj hresults).1
      exact reports
    | cons first done =>
      obtain ⟨rfl, hrest⟩ := List.cons.inj hresults
      rw [List.map_cons, client, hqueue]
      exact hreports done found later hrest

theorem SweepsTo.cons {before sweep after : TimeoutSweep}
    (hstep : SweepStep write liveness input before clientId (sweep, .ok ()))
    (h : SweepsTo liveness input clientIds sweep after) :
    SweepsTo liveness input (clientId :: clientIds) before after := by
  cases hstep with
  | alive result client fresh reports =>
    refine ⟨?_, ?_, h.processed_cons client reports rfl fun others => ?_, ?_⟩
    · rw [expiredEntries_cons_none fresh]
      exact h.registry
    · rw [timeoutNotices_cons_none fresh]
      exact h.noticeQueue
    · rw [timeoutNotices_cons_none fresh]
    · rw [expiredEntries_cons_none fresh]
      exact h.timeoutActionsApplied
  | expired result client entry old written reports =>
    refine ⟨fun other => ?_, ?_, h.processed_cons client reports rfl fun others => ?_, ?_⟩
    · have herase : AuthenticatedSenderRegistry.get ⟨before.registry.entriesByClientId.erase entry.clientId⟩
          other = if entry.clientId = other then none else before.registry.get other :=
        getElem?_erase_eq _ _ _
      rw [expiredEntries_cons_some old, h.registry, herase, List.map_cons]
      by_cases hsame : entry.clientId = other
      · rw [if_pos hsame, ite_self, if_pos (hsame ▸ List.mem_cons_self)]
      · have hiff : other ∈ entry.clientId :: (expiredEntries liveness input clientIds).map (·.clientId) ↔
            other ∈ (expiredEntries liveness input clientIds).map (·.clientId) := by
          rw [List.mem_cons]
          exact or_iff_right (Ne.symm hsame)
        rw [if_neg hsame]
        simp only [hiff]
    · rw [timeoutNotices_cons_some old, pushAll_cons]
      exact h.noticeQueue
    · rw [timeoutNotices_cons_some old, pushAll_cons]
    · rw [expiredEntries_cons_some old, List.length_cons]
      have hcount := h.timeoutActionsApplied
      dsimp only at hcount
      omega

/-- The records that a pass over the clients has to write can be written. -/
def RecordsWritten (write : TimeoutLogWriter) (liveness : ServerHeartbeatLivenessState)
    (input : ServerHeartbeatTimeoutMultiClientLoopInput) (clientIds : List ClientId) : Prop :=
  ∀ clientId ∈ clientIds, ∀ entry, expiredEntry liveness clientId input = some entry →
    write (timeoutRecord input entry) = .ok ()

theorem processClients_of_recordsWritten (h : RecordsWritten write liveness input clientIds)
    (sweep : TimeoutSweep) :
    ∃ after, ServerHeartbeatTimeoutMultiClientLoopBoundary.processClients write liveness input sweep
        clientIds = (after, .ok ()) ∧ SweepsTo liveness input clientIds sweep after := by
  induction clientIds generalizing sweep with
  | nil => exact ⟨sweep, rfl, .nil sweep⟩
  | cons clientId clientIds ih =>
    have hstep := @processClient_step write liveness input sweep clientId
    have hrest : RecordsWritten write liveness input clientIds :=
      fun other hmem => h other (List.mem_cons_of_mem _ hmem)
    rw [ServerHeartbeatTimeoutMultiClientLoopBoundary.processClients]
    generalize ServerHeartbeatTimeoutMultiClientLoopBoundary.processClient write liveness input sweep
      clientId = ran at hstep ⊢
    cases hstep with
    | alive result client fresh reports =>
      obtain ⟨after, hran, hsweeps⟩ := ih hrest _
      exact ⟨after, hran, .cons (@SweepStep.alive write liveness input sweep _ result client fresh reports) hsweeps⟩
    | expired result client entry old written reports =>
      obtain ⟨after, hran, hsweeps⟩ := ih hrest _
      exact ⟨after, hran, .cons (.expired result client entry old written reports) hsweeps⟩
    | failed entry old error unwritten =>
      cases (h clientId List.mem_cons_self entry old).symm.trans unwritten

/-- A pass that comes to its end has written the records of all its timed-out clients. -/
theorem recordsWritten_of_processClients {sweep after : TimeoutSweep}
    (h : ServerHeartbeatTimeoutMultiClientLoopBoundary.processClients write liveness input sweep
      clientIds = (after, .ok ())) : RecordsWritten write liveness input clientIds := by
  induction clientIds generalizing sweep with
  | nil =>
    intro clientId hmem
    cases hmem
  | cons clientId clientIds ih =>
    have hstep := @processClient_step write liveness input sweep clientId
    rw [ServerHeartbeatTimeoutMultiClientLoopBoundary.processClients] at h
    generalize ServerHeartbeatTimeoutMultiClientLoopBoundary.processClient write liveness input sweep
      clientId = ran at hstep h
    intro other hmem entry hexpired
    cases hstep with
    | alive result client fresh reports =>
      rcases List.mem_cons.mp hmem with rfl | hmem
      · cases fresh.symm.trans hexpired
      · exact ih h other hmem entry hexpired
    | expired result client found old written reports =>
      rcases List.mem_cons.mp hmem with rfl | hmem
      · cases old.symm.trans hexpired
        exact written
      · exact ih h other hmem entry hexpired
    | failed entry old error unwritten => cases h

end Sweep

section Independence

variable {write : TimeoutLogWriter} {liveness other : ServerHeartbeatLivenessState}
  {input : ServerHeartbeatTimeoutMultiClientLoopInput}

/-- A tick looks at no liveness entry but the one of its client. -/
theorem runOneClient_congr {clientId : ClientId} (h : other.get clientId = liveness.get clientId)
    (registry : AuthenticatedSenderRegistry) :
    ServerHeartbeatTimeoutLoopTickBoundary.runOneClient write other registry
        ⟨clientId, input.evaluatedAt, input.policy⟩ =
      ServerHeartbeatTimeoutLoopTickBoundary.runOneClient write liveness registry
        ⟨clientId, input.evaluatedAt, input.policy⟩ := by
  have hevaluate : evaluateTimeout other clientId input.evaluatedAt input.policy =
      evaluateTimeout liveness clientId input.evaluatedAt input.policy := by
    unfold evaluateTimeout
    rw [h]
  have hplan : planActions other (evaluateTimeout liveness clientId input.evaluatedAt input.policy)
        input.evaluatedAt =
      planActions liveness (evaluateTimeout liveness clientId input.evaluatedAt input.policy)
        input.evaluatedAt := by
    unfold evaluateTimeout
    cases hget : liveness.get clientId with
    | none => rfl
    | some entry =>
      dsimp only
      split
      next => simp only [planActions, h, hget]
      next => rfl
  unfold ServerHeartbeatTimeoutLoopTickBoundary.runOneClient
  dsimp only
  rw [hevaluate, hplan]

theorem processClients_congr {clientIds : List ClientId}
    (h : ∀ clientId ∈ clientIds, other.get clientId = liveness.get clientId) (sweep : TimeoutSweep) :
    ServerHeartbeatTimeoutMultiClientLoopBoundary.processClients write other input sweep clientIds =
      ServerHeartbeatTimeoutMultiClientLoopBoundary.processClients write liveness input sweep clientIds := by
  induction clientIds generalizing sweep with
  | nil => rfl
  | cons clientId clientIds ih =>
    have hfirst : ServerHeartbeatTimeoutMultiClientLoopBoundary.processClient write other input sweep
        clientId = ServerHeartbeatTimeoutMultiClientLoopBoundary.processClient write liveness input sweep
        clientId := by
      unfold ServerHeartbeatTimeoutMultiClientLoopBoundary.processClient
      rw [runOneClient_congr (h clientId List.mem_cons_self)]
    have hrest := ih fun found hmem => h found (List.mem_cons_of_mem _ hmem)
    simp only [ServerHeartbeatTimeoutMultiClientLoopBoundary.processClients, hfirst, hrest]

end Independence

/-- With two keyed states the expired entries of the clients are those of the timed-out ones. -/
theorem mem_expiredEntries {liveness : KeyedLiveness} {input : ServerHeartbeatTimeoutMultiClientLoopInput}
    {clientIds : List ClientId} {clientId : ClientId} :
    clientId ∈ (expiredEntries liveness.toServerHeartbeatLivenessState input clientIds).map (·.clientId) ↔
      clientId ∈ clientIds ∧
        (expiredEntry liveness.toServerHeartbeatLivenessState clientId input).isSome := by
  have hkeyed : ∀ found entry,
      expiredEntry liveness.toServerHeartbeatLivenessState found input = some entry →
        entry.clientId = found := by
    intro found entry h
    exact liveness.keyed found entry (evaluateTimeout_expired h).1
  constructor
  · intro hmem
    obtain ⟨entry, hentry, rfl⟩ := List.mem_map.mp hmem
    obtain ⟨found, hfound, hexpired⟩ := List.mem_filterMap.mp hentry
    rw [hkeyed found entry hexpired]
    exact ⟨hfound, by rw [hexpired]; rfl⟩
  · rintro ⟨hmem, hexpired⟩
    obtain ⟨entry, hexpired⟩ := Option.isSome_iff_exists.mp hexpired
    exact List.mem_map.mpr ⟨entry, List.mem_filterMap.mpr ⟨clientId, hmem, hexpired⟩,
      hkeyed clientId entry hexpired⟩

/-- The outcome of a pass whose records are written. -/
theorem runAllRegistered_of_recordsWritten {write : TimeoutLogWriter} (registry : KeyedSenderRegistry)
    {liveness : ServerHeartbeatLivenessState} {input : ServerHeartbeatTimeoutMultiClientLoopInput}
    (hwritten : RecordsWritten write liveness input registry.clientIds) (noticeQueue : List OutboundPacket) :
    ∃ swept, SweepsTo liveness input registry.clientIds
        (.start registry.toAuthenticatedSenderRegistry noticeQueue) swept ∧
      ServerHeartbeatTimeoutMultiClientLoopBoundary.runAllRegistered write liveness
          registry.toAuthenticatedSenderRegistry noticeQueue input =
        (swept.registry, swept.noticeQueue, .ok (if swept.processed.isEmpty then .noClientsAvailable input
          else .allClientsProcessed input swept.processed swept.timeoutActionsApplied)) := by
  obtain ⟨swept, hran, hsweeps⟩ := processClients_of_recordsWritten hwritten
    (.start registry.toAuthenticatedSenderRegistry noticeQueue)
  obtain ⟨results, hprocessed, hclients, -⟩ := hsweeps.processed
  have hresults : swept.processed = results := hprocessed
  have hids : registry.entries.map (·.clientId) = registry.clientIds := rfl
  refine ⟨swept, hsweeps, ?_⟩
  unfold ServerHeartbeatTimeoutMultiClientLoopBoundary.runAllRegistered
  cases results with
  | nil =>
    have hempty : registry.clientIds = [] := hclients.symm
    rw [hempty] at hran
    cases hran
    simp only [hids, hempty]
    rfl
  | cons result results =>
    have hsome : registry.clientIds.isEmpty = false := by rw [← hclients]; rfl
    simp only [hids, hsome, hran, hresults]
    rfl

/-- When its records are written, a pass leaves exactly the clients that are not timed out, reports on
each registered client in key order, queues the notices that find room and drops the others; and it
depends on the liveness of registered clients only. -/
theorem timeout_sweep_exact {write : TimeoutLogWriter} (registry : KeyedSenderRegistry)
    (liveness : KeyedLiveness) (noticeQueue : List OutboundPacket)
    (input : ServerHeartbeatTimeoutMultiClientLoopInput)
    (hwritten : RecordsWritten write liveness.toServerHeartbeatLivenessState input registry.clientIds) :
    let after := ServerHeartbeatTimeoutMultiClientLoopBoundary.runAllRegistered write
      liveness.toServerHeartbeatLivenessState registry.toAuthenticatedSenderRegistry noticeQueue input
    (∀ clientId, after.1.get clientId =
      if (expiredEntry liveness.toServerHeartbeatLivenessState clientId input).isSome then none
      else registry.get clientId) ∧
    (∃ processed, after.2.2 = .ok
        (if processed.isEmpty then .noClientsAvailable input
        else .allClientsProcessed input processed (expiredEntries liveness.toServerHeartbeatLivenessState
          input (processed.map (·.clientId))).length) ∧
      (processed.map (·.clientId)).Pairwise (fun a b => compare a b = .lt) ∧
      (∀ clientId, clientId ∈ processed.map (·.clientId) ↔ (registry.get clientId).isSome) ∧
      after.2.1 = noticeQueue ++ (timeoutNotices liveness.toServerHeartbeatLivenessState input
        (processed.map (·.clientId))).take (outboundQueueMaxItems - noticeQueue.length) ∧
      ∀ done result later, processed = done ++ result :: later →
        ReportsClient liveness.toServerHeartbeatLivenessState input
          (noticeQueue ++ (timeoutNotices liveness.toServerHeartbeatLivenessState input
            (done.map (·.clientId))).take (outboundQueueMaxItems - noticeQueue.length)).length result) ∧
    after.2.1.length ≤ max noticeQueue.length outboundQueueMaxItems ∧
    ∀ other : ServerHeartbeatLivenessState,
      (∀ clientId, (registry.get clientId).isSome → other.get clientId = liveness.get clientId) →
        ServerHeartbeatTimeoutMultiClientLoopBoundary.runAllRegistered write other
          registry.toAuthenticatedSenderRegistry noticeQueue input = after := by
  intro after
  obtain ⟨swept, ⟨hregistry, hqueue, ⟨processed, hprocessed, hclients, hreports⟩, hactions⟩, hran⟩ :=
    runAllRegistered_of_recordsWritten registry hwritten noticeQueue
  have hresults : swept.processed = processed := hprocessed
  have hcount : swept.timeoutActionsApplied =
      (expiredEntries liveness.toServerHeartbeatLivenessState input (processed.map (·.clientId))).length := by
    rw [hclients]
    exact hactions.trans (Nat.zero_add _)
  have hafter : after = (swept.registry, swept.noticeQueue, .ok
      (if processed.isEmpty then .noClientsAvailable input
      else .allClientsProcessed input processed (expiredEntries liveness.toServerHeartbeatLivenessState
        input (processed.map (·.clientId))).length)) := by
    rw [← hcount, ← hresults]
    exact hran
  have hregistered : ∀ clientId, (swept.registry.get clientId) =
      if (expiredEntry liveness.toServerHeartbeatLivenessState clientId input).isSome then none
      else registry.get clientId := by
    intro clientId
    rw [hregistry clientId]
    simp only [mem_expiredEntries, registry.mem_clientIds]
    cases hget : registry.get clientId with
    | none => simp [TimeoutSweep.start, hget]
    | some entry => simp [TimeoutSweep.start, hget]
  rw [hafter]
  refine ⟨hregistered, ⟨processed, rfl, ?_, ?_, ?_, ?_⟩, ?_, ?_⟩
  · rw [hclients]
    exact registry.clientIds_ordered
  · intro clientId
    rw [hclients]
    exact registry.mem_clientIds
  · rw [hclients, ← pushAll_eq]
    exact hqueue
  · intro done result later hsplit
    rw [← pushAll_eq]
    exact hreports done result later hsplit
  · show swept.noticeQueue.length ≤ _
    rw [hqueue]
    exact length_pushAll_le _ _ _
  · intro other hsame
    rw [← hafter]
    show ServerHeartbeatTimeoutMultiClientLoopBoundary.runAllRegistered _ _ _ _ _ =
      ServerHeartbeatTimeoutMultiClientLoopBoundary.runAllRegistered _ _ _ _ _
    have hids : ∀ clientId ∈ registry.entries.map (·.clientId),
        other.get clientId = liveness.get clientId := by
      intro clientId hmem
      exact hsame clientId (registry.mem_clientIds.mp hmem)
    unfold ServerHeartbeatTimeoutMultiClientLoopBoundary.runAllRegistered
    simp only [processClients_congr hids]

def sweptSender (clientId : ClientId) (port : UInt16) : AuthenticatedSenderEntry :=
  ⟨clientId, ⟨.v4 0x7F000001 port⟩, "run", 1, none⟩

/-- A registered camera. -/
def cameraRegistry : KeyedSenderRegistry :=
  KeyedSenderRegistry.empty.register ⟨"cam", ⟨.v4 0x7F000001 5000⟩, "run", 1, none⟩

/-- The client was last heard of at the time. -/
def lastHeard (clientId : ClientId) (port : UInt16) (time : TimestampMicros) : ServerHeartbeatStateInput where
  source := ⟨.v4 0x7F000001 port⟩
  authenticatedSender := sweptSender clientId port
  clientId
  runId := "run"
  protocolVersion := 1
  heartbeatSentAt := time
  serverReceivedAt := time
  shortStatus := none

/-- The camera was last heard of after a second. -/
def cameraLiveness : KeyedLiveness := KeyedLiveness.empty.commit (lastHeard "cam" 5000 1000000)

/-- Besides the camera, a desk that is as silent and a studio that is not. -/
def studioRegistry : KeyedSenderRegistry :=
  (cameraRegistry.register ⟨"studio", ⟨.v4 0x7F000001 5001⟩, "run", 1, none⟩).register
    ⟨"desk", ⟨.v4 0x7F000001 5002⟩, "run", 1, none⟩

def studioLiveness : KeyedLiveness :=
  (cameraLiveness.commit (lastHeard "studio" 5001 9000000)).commit (lastHeard "desk" 5002 2000000)

/-- One notice finds room. -/
def nearlyFullQueue : List OutboundPacket :=
  List.replicate 63 (buildNotice ⟨⟨.v4 0x7F000001 5003⟩, 1, "run", .authExpired, "earlier"⟩)

theorem timeout_sweep_exact_studio :
    let after := ServerHeartbeatTimeoutMultiClientLoopBoundary.runAllRegistered (fun _ => .ok ())
      studioLiveness.toServerHeartbeatLivenessState studioRegistry.toAuthenticatedSenderRegistry nearlyFullQueue
      ⟨10000000, ⟨5000000⟩⟩
    after.1.get "cam" = none ∧ after.1.get "desk" = none ∧ (after.1.get "studio").isSome ∧
      after.2.1.length = 64 ∧
      ∃ cam desk studio, after.2.2 = .ok (.allClientsProcessed ⟨10000000, ⟨5000000⟩⟩ [cam, desk, studio] 2) ∧
        ∃ decision, desk.noticeQueueStorage = .dropped decision 64 .notRequested := by
  intro after
  have hwritten : RecordsWritten (fun _ => .ok ()) studioLiveness.toServerHeartbeatLivenessState
      ⟨10000000, ⟨5000000⟩⟩ studioRegistry.clientIds := fun _ _ _ _ => rfl
  obtain ⟨hregistry, ⟨processed, hok, hordered, hmem, hqueue, hreports⟩, -, -⟩ :=
    timeout_sweep_exact studioRegistry studioLiveness nearlyFullQueue _ hwritten
  have hids : processed.map (·.clientId) = ["cam", "desk", "studio"] := by
    rw [KeyedSenderRegistry.eq_clientIds hordered hmem]
    decide +kernel
  obtain ⟨cam, later, rfl, hcam, hlater⟩ := List.map_eq_cons_iff.mp hids
  obtain ⟨desk, later, rfl, hdesk, hlater⟩ := List.map_eq_cons_iff.mp hlater
  obtain ⟨studio, later, rfl, hstudio, hlater⟩ := List.map_eq_cons_iff.mp hlater
  obtain rfl : later = [] := List.map_eq_nil_iff.mp hlater
  have hexpired : ∀ clientId : ClientId, (expiredEntry studioLiveness.toServerHeartbeatLivenessState clientId
      ⟨10000000, ⟨5000000⟩⟩).isSome = true → after.1.get clientId = none :=
    fun clientId h => (hregistry clientId).trans (if_pos h)
  have hfresh : (expiredEntry studioLiveness.toServerHeartbeatLivenessState "studio"
      ⟨10000000, ⟨5000000⟩⟩).isSome = false := by decide +kernel
  have hkept : after.1.get "studio" = studioRegistry.get "studio" :=
    (hregistry "studio").trans (if_neg (by rw [hfresh]; decide))
  rw [hids] at hok hqueue
  refine ⟨hexpired "cam" (by decide +kernel), hexpired "desk" (by decide +kernel), ?_, ?_, cam, desk, studio,
    hok, ?_⟩
  · rw [hkept]
    decide +kernel
  · rw [hqueue]
    decide +kernel
  · have hreport := hreports [cam] desk [studio] rfl
    have hqueueLen : (nearlyFullQueue ++ (timeoutNotices studioLiveness.toServerHeartbeatLivenessState
        ⟨10000000, ⟨5000000⟩⟩ ["cam"]).take (outboundQueueMaxItems - nearlyFullQueue.length)).length = 64 := by
      decide +kernel
    rw [List.map_singleton, hcam, hqueueLen] at hreport
    refine hreport.dropped ?_ (Nat.le_refl 64)
    rw [hdesk]
    decide +kernel

end StreamSync
