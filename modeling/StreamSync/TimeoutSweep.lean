import StreamSync.Heartbeat

namespace StreamSync

open KeyedTable Saturating

inductive OutboundQueueItemClass where
  | control | timeSensitiveVideo | telemetry
deriving DecidableEq, Repr

inductive OutboundQueueBackpressureAction where
  | accept | dropIncoming | dropOldestThenAccept
deriving DecidableEq, Repr

structure OutboundQueueCapacityPolicy where
  maxItems : Nat
  controlWhenFull : OutboundQueueBackpressureAction
  videoWhenFull : OutboundQueueBackpressureAction
  telemetryWhenFull : OutboundQueueBackpressureAction
deriving DecidableEq, Repr

def OutboundQueueCapacityPolicy.default : OutboundQueueCapacityPolicy where
  maxItems := outboundQueueMaxItems
  controlWhenFull := .dropIncoming
  videoWhenFull := .dropOldestThenAccept
  telemetryWhenFull := .dropIncoming

def outboundQueueItemClass : ProtocolMessage → OutboundQueueItemClass
  | .videoFrame _ => .timeSensitiveVideo
  | .videoFrameFragment _ => .timeSensitiveVideo
  | .clientStats _ => .telemetry
  | .authRequest _ => .control
  | .authResponse _ => .control
  | .heartbeat _ => .control
  | .heartbeatAck _ => .control
  | .serverNotice _ => .control

inductive OutboundQueueDropReason where
  | capacityReached
deriving DecidableEq, Repr

inductive OutboundQueueAdmissionDecision where
  | accepted (itemClass : OutboundQueueItemClass)
  | dropIncoming (itemClass : OutboundQueueItemClass) (reason : OutboundQueueDropReason)
  | dropOldestThenAccept (itemClass : OutboundQueueItemClass) (reason : OutboundQueueDropReason)
deriving DecidableEq, Repr

/-- `OutboundQueueAdmissionPolicyBoundary::evaluate`. -/
def evaluateAdmission (policy : OutboundQueueCapacityPolicy) (currentLen : Nat) (item : OutboundPacket) :
    OutboundQueueAdmissionDecision :=
  let itemClass := outboundQueueItemClass item.message
  if currentLen < policy.maxItems then .accepted itemClass
  else
    let action :=
      match itemClass with
      | .control => policy.controlWhenFull
      | .timeSensitiveVideo => policy.videoWhenFull
      | .telemetry => policy.telemetryWhenFull
    match action with
    | .accept => .accepted itemClass
    | .dropIncoming => .dropIncoming itemClass .capacityReached
    | .dropOldestThenAccept => .dropOldestThenAccept itemClass .capacityReached

structure OutboundQueueStorageState where
  len : Nat
  capacity : Nat
deriving DecidableEq, Repr

structure OutboundQueueStorageDecision where
  stateBefore : OutboundQueueStorageState
  admission : OutboundQueueAdmissionDecision
deriving DecidableEq, Repr

def OutboundQueueStorageDecision.acceptsCandidate (decision : OutboundQueueStorageDecision) : Bool :=
  match decision.admission with
  | .accepted _ => true
  | .dropOldestThenAccept _ _ => true
  | .dropIncoming _ _ => false

/-- `ServerOutboundQueueBoundary::evaluate_storage_push`. -/
def evaluateStoragePush (currentLen : Nat) (item : OutboundPacket) : OutboundQueueStorageDecision where
  stateBefore := ⟨currentLen, OutboundQueueCapacityPolicy.default.maxItems⟩
  admission := evaluateAdmission .default currentLen item

inductive ServerHeartbeatTimeoutNoticeSendWakeupReason where
  | timeoutNoticeQueued
deriving DecidableEq, Repr

inductive ServerHeartbeatTimeoutNoticeSendWakeupPlan where
  | notRequested
  | requestSendLoopWakeup (reason : ServerHeartbeatTimeoutNoticeSendWakeupReason)
deriving DecidableEq, Repr

inductive ServerHeartbeatTimeoutNoticeQueueStorageResult where
  | noNotice (wakeup : ServerHeartbeatTimeoutNoticeSendWakeupPlan)
  | stored (decision : OutboundQueueStorageDecision) (queuedItem : OutboundPacket) (queueLen : Nat)
      (wakeup : ServerHeartbeatTimeoutNoticeSendWakeupPlan)
  | dropped (decision : OutboundQueueStorageDecision) (queueLen : Nat)
      (wakeup : ServerHeartbeatTimeoutNoticeSendWakeupPlan)
deriving DecidableEq

/-- `ServerHeartbeatTimeoutNoticeQueueStorageBoundary::store_notice`. -/
def ServerHeartbeatTimeoutNoticeQueueStorageBoundary.storeNotice (collection : List OutboundPacket)
    (apply : ServerHeartbeatTimeoutApplyResult) :
    List OutboundPacket × ServerHeartbeatTimeoutNoticeQueueStorageResult :=
  match apply.noticeHandoff with
  | none => (collection, .noNotice .notRequested)
  | some notice =>
    let decision := evaluateStoragePush collection.length notice
    if decision.acceptsCandidate then
      (collection ++ [notice], .stored decision notice (collection.length + 1)
        (.requestSendLoopWakeup .timeoutNoticeQueued))
    else (collection, .dropped decision collection.length .notRequested)

inductive ServerOperationalConditionStatus where
  | continue | reject | reconnectRequired | investigationRequired
deriving DecidableEq, Repr

inductive ServerHeartbeatOperationalReason where
  | noHeartbeatYet | alive | timedOut
deriving DecidableEq, Repr

structure ServerHeartbeatOperationalSummary where
  status : ServerOperationalConditionStatus
  clientId : ClientId
  reason : ServerHeartbeatOperationalReason
  lastServerReceivedAt : Option TimestampMicros
  elapsedMicros : Option UInt64
  timeoutAfterMicros : Option UInt64
deriving DecidableEq, Repr

def heartbeatOperationalSummaryFromEvaluation :
    ServerHeartbeatTimeoutEvaluation → ServerHeartbeatOperationalSummary
  | .noHeartbeat clientId => ⟨.continue, clientId, .noHeartbeatYet, none, none, none⟩
  | .alive clientId lastServerReceivedAt elapsedMicros timeoutAfterMicros =>
    ⟨.continue, clientId, .alive, some lastServerReceivedAt, some elapsedMicros, some timeoutAfterMicros⟩
  | .timedOut clientId lastServerReceivedAt elapsedMicros timeoutAfterMicros =>
    ⟨.reconnectRequired, clientId, .timedOut, some lastServerReceivedAt, some elapsedMicros,
      some timeoutAfterMicros⟩

structure ServerHeartbeatTimeoutLoopTickInput where
  clientId : ClientId
  evaluatedAt : TimestampMicros
  policy : ServerHeartbeatTimeoutPolicy
deriving DecidableEq, Repr

structure ServerHeartbeatTimeoutLoopTickResult where
  input : ServerHeartbeatTimeoutLoopTickInput
  operationalSummary : ServerHeartbeatOperationalSummary
  actionPlan : ServerHeartbeatTimeoutActionPlan
  apply : ServerHeartbeatTimeoutApplyResult
deriving DecidableEq

def ServerHeartbeatTimeoutLoopTickBoundary.runOneClient (write : TimeoutLogWriter)
    (liveness : ServerHeartbeatLivenessState) (registry : AuthenticatedSenderRegistry)
    (input : ServerHeartbeatTimeoutLoopTickInput) :
    AuthenticatedSenderRegistry × Except IoErrorKind ServerHeartbeatTimeoutLoopTickResult :=
  let evaluation := evaluateTimeout liveness input.clientId input.evaluatedAt input.policy
  let actionPlan := planActions liveness evaluation input.evaluatedAt
  let applied := applyPlan write registry actionPlan
  (applied.1, applied.2.map fun apply =>
    { input, operationalSummary := heartbeatOperationalSummaryFromEvaluation evaluation, actionPlan, apply })

structure ServerHeartbeatTimeoutMultiClientLoopClientResult where
  clientId : ClientId
  tick : ServerHeartbeatTimeoutLoopTickResult
  noticeQueueStorage : ServerHeartbeatTimeoutNoticeQueueStorageResult
deriving DecidableEq

inductive ServerHeartbeatTimeoutMultiClientLoopResult where
  | noClientsAvailable (input : ServerHeartbeatTimeoutMultiClientLoopInput)
  | allClientsProcessed (input : ServerHeartbeatTimeoutMultiClientLoopInput)
      (processed : List ServerHeartbeatTimeoutMultiClientLoopClientResult) (timeoutActionsApplied : Nat)
deriving DecidableEq

/-- What the loop over the clients works on. -/
structure TimeoutSweep where
  registry : AuthenticatedSenderRegistry
  noticeQueue : List OutboundPacket
  processed : List ServerHeartbeatTimeoutMultiClientLoopClientResult
  timeoutActionsApplied : Nat

def TimeoutSweep.start (registry : AuthenticatedSenderRegistry) (noticeQueue : List OutboundPacket) :
    TimeoutSweep := ⟨registry, noticeQueue, [], 0⟩

def ServerHeartbeatTimeoutApplyResult.hasActions (apply : ServerHeartbeatTimeoutApplyResult) : Bool :=
  apply.registryInvalidation.isSome || apply.timeoutLogEvent.isSome || apply.noticeHandoff.isSome

namespace ServerHeartbeatTimeoutMultiClientLoopBoundary

/-- The body of the loop; a failed write leaves the registry as the tick left it. -/
def processClient (write : TimeoutLogWriter) (liveness : ServerHeartbeatLivenessState)
    (input : ServerHeartbeatTimeoutMultiClientLoopInput) (sweep : TimeoutSweep) (clientId : ClientId) :
    TimeoutSweep × Except IoErrorKind Unit :=
  let ran := ServerHeartbeatTimeoutLoopTickBoundary.runOneClient write liveness sweep.registry
    ⟨clientId, input.evaluatedAt, input.policy⟩
  match ran.2 with
  | .error error => ({ sweep with registry := ran.1 }, .error error)
  | .ok tick =>
    let stored := ServerHeartbeatTimeoutNoticeQueueStorageBoundary.storeNotice sweep.noticeQueue tick.apply
    ({ registry := ran.1
       noticeQueue := stored.1
       processed := sweep.processed ++ [⟨clientId, tick, stored.2⟩]
       timeoutActionsApplied :=
         if tick.apply.hasActions then sweep.timeoutActionsApplied + 1 else sweep.timeoutActionsApplied },
      .ok ())

def processClients (write : TimeoutLogWriter) (liveness : ServerHeartbeatLivenessState)
    (input : ServerHeartbeatTimeoutMultiClientLoopInput) (sweep : TimeoutSweep) :
    List ClientId → TimeoutSweep × Except IoErrorKind Unit
  | [] => (sweep, .ok ())
  | clientId :: clientIds =>
    let ran := processClient write liveness input sweep clientId
    match ran.2 with
    | .error error => (ran.1, .error error)
    | .ok _ => processClients write liveness input ran.1 clientIds

def runAllRegistered (write : TimeoutLogWriter) (liveness : ServerHeartbeatLivenessState)
    (registry : AuthenticatedSenderRegistry) (noticeQueue : List OutboundPacket)
    (input : ServerHeartbeatTimeoutMultiClientLoopInput) :
    AuthenticatedSenderRegistry × List OutboundPacket ×
      Except IoErrorKind ServerHeartbeatTimeoutMultiClientLoopResult :=
  let clientIds := registry.entries.map (·.clientId)
  if clientIds.isEmpty then (registry, noticeQueue, .ok (.noClientsAvailable input))
  else
    let ran := processClients write liveness input (.start registry noticeQueue) clientIds
    (ran.1.registry, ran.1.noticeQueue,
      ran.2.map fun _ => .allClientsProcessed input ran.1.processed ran.1.timeoutActionsApplied)

/-- One tick takes away the registration under the client id of an expired entry, and no other. -/
theorem get_runOneClient (write : TimeoutLogWriter) (liveness : ServerHeartbeatLivenessState)
    (registry : AuthenticatedSenderRegistry) (clientId : ClientId)
    (input : ServerHeartbeatTimeoutMultiClientLoopInput) (other : ClientId) :
    (ServerHeartbeatTimeoutLoopTickBoundary.runOneClient write liveness registry
        ⟨clientId, input.evaluatedAt, input.policy⟩).1.get other =
      if (expiredEntry liveness clientId input).any (·.clientId = other) then none
      else registry.get other := by
  unfold ServerHeartbeatTimeoutLoopTickBoundary.runOneClient evaluateTimeout expiredEntry
  cases hg : liveness.get clientId with
  | none => rfl
  | some entry =>
    by_cases ht : input.policy.timeoutAfterMicros ≤
        saturatingSub input.evaluatedAt entry.lastServerReceivedAt
    · simp only [if_pos ht, planActions, hg, applyPlan, Option.map_some,
        AuthenticatedSenderRegistry.get_invalidate, Option.filter_some, decide_eq_true ht, if_true,
        Option.any_some, decide_eq_true_eq]
    · simp [ht, planActions, applyPlan]

section Pass

variable {write : TimeoutLogWriter} {liveness : ServerHeartbeatLivenessState}
  {input : ServerHeartbeatTimeoutMultiClientLoopInput} {registry : AuthenticatedSenderRegistry}
  {noticeQueue : List OutboundPacket} {sweep : TimeoutSweep}

theorem get_processClient (clientId other : ClientId) :
    (processClient write liveness input sweep clientId).1.registry.get other =
      if (expiredEntry liveness clientId input).any (·.clientId = other) then none
      else sweep.registry.get other := by
  rw [← get_runOneClient write]
  unfold processClient
  dsimp only
  split
  next => rfl
  next => rfl

theorem processClient_ok (hw : ∀ record, write record = .ok ()) (clientId : ClientId) :
    (processClient write liveness input sweep clientId).2 = .ok () := by
  obtain ⟨apply, happly⟩ := applyPlan_ok hw sweep.registry (planActions liveness
    (evaluateTimeout liveness clientId input.evaluatedAt input.policy) input.evaluatedAt)
  unfold processClient ServerHeartbeatTimeoutLoopTickBoundary.runOneClient
  simp only [happly, Except.map]

/-- A pass keeps the registration of a client, or takes it away in the turn of an expired entry. -/
theorem get_processClients {clientIds : List ClientId} (other : ClientId) :
    (processClients write liveness input sweep clientIds).1.registry.get other =
        sweep.registry.get other ∨
      ((processClients write liveness input sweep clientIds).1.registry.get other = none ∧
        ∃ clientId ∈ clientIds, (expiredEntry liveness clientId input).any (·.clientId = other)) := by
  induction clientIds generalizing sweep with
  | nil => exact .inl rfl
  | cons clientId clientIds ih =>
    have hturn := @get_processClient write liveness input sweep clientId other
    have hrest : ∀ after : AuthenticatedSenderRegistry,
        after.get other = (processClient write liveness input sweep clientId).1.registry.get other ∨
          (after.get other = none ∧
            ∃ found ∈ clientIds, (expiredEntry liveness found input).any (·.clientId = other)) →
        after.get other = sweep.registry.get other ∨
          (after.get other = none ∧ ∃ found ∈ clientId :: clientIds,
            (expiredEntry liveness found input).any (·.clientId = other)) := by
      rintro after (h | ⟨h, found, hmem, hfound⟩)
      · split at hturn
        next he => exact .inr ⟨h.trans hturn, clientId, List.mem_cons_self, he⟩
        next => exact .inl (h.trans hturn)
      · exact .inr ⟨h, found, List.mem_cons_of_mem clientId hmem, hfound⟩
    rw [processClients]
    split
    next => exact hrest _ (.inl rfl)
    next => exact hrest _ ih

/-- With a writer that never fails every client of the pass has its turn. -/
theorem get_processClients_of_expired (hw : ∀ record, write record = .ok ())
    {clientIds : List ClientId} {clientId other : ClientId} (hmem : clientId ∈ clientIds)
    (he : (expiredEntry liveness clientId input).any (·.clientId = other)) :
    (processClients write liveness input sweep clientIds).1.registry.get other = none := by
  induction clientIds generalizing sweep with
  | nil => cases hmem
  | cons first clientIds ih =>
    rw [processClients, processClient_ok hw]
    rcases List.mem_cons.mp hmem with rfl | hmem
    · have hturn := @get_processClient write liveness input sweep clientId other
      rw [if_pos he] at hturn
      exact (get_processClients other).elim (fun h => h.trans hturn) And.left
    · exact ih hmem

theorem runAllRegistered_registry (write : TimeoutLogWriter) (liveness : ServerHeartbeatLivenessState)
    (registry : AuthenticatedSenderRegistry) (noticeQueue : List OutboundPacket)
    (input : ServerHeartbeatTimeoutMultiClientLoopInput) :
    (runAllRegistered write liveness registry noticeQueue input).1 =
      (processClients write liveness input (.start registry noticeQueue)
        (registry.entries.map (·.clientId))).1.registry := by
  unfold runAllRegistered
  cases registry.entries.map (·.clientId) with
  | nil => rfl
  | cons clientId clientIds => rfl

theorem get_runAllRegistered (write : TimeoutLogWriter) (liveness : ServerHeartbeatLivenessState)
    (registry : AuthenticatedSenderRegistry) (noticeQueue : List OutboundPacket)
    (input : ServerHeartbeatTimeoutMultiClientLoopInput) (other : ClientId) :
    (runAllRegistered write liveness registry noticeQueue input).1.get other = registry.get other ∨
      ((runAllRegistered write liveness registry noticeQueue input).1.get other = none ∧
        ∃ clientId entry, expiredEntry liveness clientId input = some entry ∧ entry.clientId = other) := by
  rw [runAllRegistered_registry]
  refine (get_processClients other).imp_right fun h => ?_
  obtain ⟨hnone, clientId, -, hexpired⟩ := h
  obtain ⟨entry, hentry, hclient⟩ := (Option.any_eq_true _ _).mp hexpired
  exact ⟨hnone, clientId, entry, hentry, of_decide_eq_true hclient⟩

/-- A registered client with an expired entry of its own is taken out of the registry. -/
theorem get_runAllRegistered_of_expired (hw : ∀ record, write record = .ok ())
    (noticeQueue : List OutboundPacket) {clientId : ClientId}
    {sender : AuthenticatedSenderEntry} {entry : ServerHeartbeatLivenessEntry}
    (hget : registry.get clientId = some sender) (hsender : sender.clientId = clientId)
    (hexpired : expiredEntry liveness clientId input = some entry) (hentry : entry.clientId = clientId) :
    (runAllRegistered write liveness registry noticeQueue input).1.get clientId = none := by
  have hmem : clientId ∈ registry.entries.map (·.clientId) :=
    List.mem_map.mpr ⟨sender, registry.mem_entries_of_get hget, hsender⟩
  rw [runAllRegistered_registry]
  exact get_processClients_of_expired hw hmem (by simp [hexpired, hentry])

end Pass

end ServerHeartbeatTimeoutMultiClientLoopBoundary

end StreamSync
