import StreamSync.TimeoutSweepExact

namespace StreamSync

open BoundedQueue ServerHeartbeatTimeoutMultiClientLoopBoundary

/-- The notice of a client taken away in a pass was stored behind the queue, or is reported as dropped. -/
def NoticeAccounted (liveness : ServerHeartbeatLivenessState)
    (input : ServerHeartbeatTimeoutMultiClientLoopInput) (queue queue' : List OutboundPacket)
    (outcome : Except IoErrorKind ServerHeartbeatTimeoutMultiClientLoopResult) (clientId : ClientId) : Prop :=
  ∃ entry, expiredEntry liveness clientId input = some entry ∧
    ((∃ stored, queue' = queue ++ stored ∧ timeoutNotice input entry ∈ stored) ∨
      ∃ processed timeoutActionsApplied,
        outcome = .ok (.allClientsProcessed input processed timeoutActionsApplied) ∧
        ∃ result ∈ processed, result.clientId = clientId ∧
          ∃ decision queueLen wakeup, result.noticeQueueStorage = .dropped decision queueLen wakeup)

/-- An error of the pass leaves registry and queue as they were before the failing client, and every
client that is gone has its notice accounted for. -/
structure TimeoutsAtomic (write : TimeoutLogWriter) (liveness : ServerHeartbeatLivenessState)
    (registry : AuthenticatedSenderRegistry) (noticeQueue : List OutboundPacket)
    (input : ServerHeartbeatTimeoutMultiClientLoopInput) : Prop where
  error : ∀ errorKind,
    (ServerHeartbeatTimeoutMultiClientLoopBoundary.runAllRegistered write liveness registry noticeQueue
      input).2.2 = .error errorKind →
    ∃ done clientId later before, registry.entries.map (·.clientId) = done ++ clientId :: later ∧
      ServerHeartbeatTimeoutMultiClientLoopBoundary.processClients write liveness input
        (.start registry noticeQueue) done = (before, .ok ()) ∧
      (processClient write liveness input before clientId).2 = .error errorKind ∧
      (ServerHeartbeatTimeoutMultiClientLoopBoundary.runAllRegistered write liveness registry noticeQueue
        input).1 = before.registry ∧
      (ServerHeartbeatTimeoutMultiClientLoopBoundary.runAllRegistered write liveness registry noticeQueue
        input).2.1 = before.noticeQueue
  notice : ∀ clientId, (registry.get clientId).isSome →
    (ServerHeartbeatTimeoutMultiClientLoopBoundary.runAllRegistered write liveness registry noticeQueue
      input).1.get clientId = none →
    NoticeAccounted liveness input noticeQueue
      (ServerHeartbeatTimeoutMultiClientLoopBoundary.runAllRegistered write liveness registry noticeQueue
        input).2.1
      (ServerHeartbeatTimeoutMultiClientLoopBoundary.runAllRegistered write liveness registry noticeQueue
        input).2.2 clientId

section Plan

/-- A plan is applied halfway: its client is registered, and its record cannot be written. -/
def LosesClient (write : TimeoutLogWriter) (registry : AuthenticatedSenderRegistry)
    (plan : ServerHeartbeatTimeoutActionPlan) : Prop :=
  ∃ record errorKind invalidation, plan.timeoutLog = some record ∧ write record = .error errorKind ∧
    plan.registryInvalidation = some invalidation ∧ (registry.get invalidation.clientId).isSome

theorem erase_eq_self_iff {registry : AuthenticatedSenderRegistry} {clientId : ClientId} :
    (⟨registry.entriesByClientId.erase clientId⟩ : AuthenticatedSenderRegistry) = registry ↔
      ¬(registry.get clientId).isSome := by
  have hget : ∀ other, AuthenticatedSenderRegistry.get ⟨registry.entriesByClientId.erase clientId⟩ other =
      if clientId = other then none else registry.get other := KeyedTable.getElem?_erase_eq _ _
  constructor
  · intro h hsome
    have hgone := hget clientId
    rw [h, if_pos rfl] at hgone
    rw [hgone] at hsome
    cases hsome
  · intro hnone
    have hnone := Option.not_isSome_iff_eq_none.mp hnone
    obtain ⟨entries⟩ := registry
    refine congrArg AuthenticatedSenderRegistry.mk (Std.ExtTreeMap.ext_getElem? fun other => ?_)
    refine (hget other).trans ?_
    split
    next hsame => exact hsame ▸ hnone.symm
    next => rfl

theorem applyPlan_keeps_iff (write : TimeoutLogWriter) (registry : AuthenticatedSenderRegistry)
    (plan : ServerHeartbeatTimeoutActionPlan) :
    (∀ errorKind, (applyPlan write registry plan).2 = .error errorKind →
        (applyPlan write registry plan).1 = registry) ↔ ¬LosesClient write registry plan := by
  obtain ⟨evaluation, registryInvalidation, timeoutLog, notice⟩ := plan
  unfold LosesClient applyPlan
  dsimp only
  cases timeoutLog with
  | none =>
    refine iff_of_true ?_ ?_
    · intro errorKind h
      cases h
    · rintro ⟨_, _, _, h, -⟩
      cases h
  | some record =>
    have hlog : (some record).forM write = write record := rfl
    rw [hlog]
    cases hwrite : write record with
    | ok _ =>
      refine iff_of_true ?_ ?_
      · intro errorKind h
        cases h
      · rintro ⟨_, _, _, hrecord, herror, -⟩
        cases hrecord
        cases hwrite.symm.trans herror
    | error errorKind =>
      cases registryInvalidation with
      | none =>
        refine iff_of_true (fun _ _ => rfl) ?_
        rintro ⟨_, _, _, -, -, h, -⟩
        cases h
      | some invalidation =>
        simp only [Option.map_some, AuthenticatedSenderRegistry.invalidate, erase_eq_self_iff]
        constructor
        · rintro hkept ⟨_, _, _, -, -, hinvalidation, hsome⟩
          cases hinvalidation
          exact hkept errorKind rfl hsome
        · intro hnot _ _ hsome
          exact hnot ⟨record, errorKind, invalidation, rfl, hwrite, rfl, hsome⟩

end Plan

section Pass

variable {write : TimeoutLogWriter} {liveness : ServerHeartbeatLivenessState}
  {input : ServerHeartbeatTimeoutMultiClientLoopInput}

theorem processClients_append {sweep before : TimeoutSweep} {done : List ClientId}
    (h : ServerHeartbeatTimeoutMultiClientLoopBoundary.processClients write liveness input sweep done =
      (before, .ok ())) (later : List ClientId) :
    ServerHeartbeatTimeoutMultiClientLoopBoundary.processClients write liveness input sweep (done ++ later) =
      ServerHeartbeatTimeoutMultiClientLoopBoundary.processClients write liveness input before later := by
  induction done generalizing sweep with
  | nil =>
    cases h
    rfl
  | cons clientId done ih =>
    rw [List.cons_append, ServerHeartbeatTimeoutMultiClientLoopBoundary.processClients]
    rw [ServerHeartbeatTimeoutMultiClientLoopBoundary.processClients] at h
    generalize processClient write liveness input sweep clientId = ran at h ⊢
    obtain ⟨swept, outcome⟩ := ran
    cases outcome with
    | error error => cases h
    | ok _ => exact ih h

/-- The pass goes through the loop, also when there is nobody to go through. -/
theorem runAllRegistered_eq (write : TimeoutLogWriter) (liveness : ServerHeartbeatLivenessState)
    (registry : KeyedSenderRegistry) (noticeQueue : List OutboundPacket)
    (input : ServerHeartbeatTimeoutMultiClientLoopInput) :
    let after := ServerHeartbeatTimeoutMultiClientLoopBoundary.runAllRegistered write liveness
      registry.toAuthenticatedSenderRegistry noticeQueue input
    let ran := ServerHeartbeatTimeoutMultiClientLoopBoundary.processClients write liveness input
      (.start registry.toAuthenticatedSenderRegistry noticeQueue) registry.clientIds
    after.1 = ran.1.registry ∧ after.2.1 = ran.1.noticeQueue ∧
      ∀ errorKind, after.2.2 = .error errorKind ↔ ran.2 = .error errorKind := by
  have hids : registry.entries.map (·.clientId) = registry.clientIds := rfl
  unfold ServerHeartbeatTimeoutMultiClientLoopBoundary.runAllRegistered
  dsimp only
  rw [hids]
  cases registry.clientIds with
  | nil => exact ⟨rfl, rfl, fun errorKind => iff_of_false (fun h => by cases h) fun h => by cases h⟩
  | cons clientId clientIds =>
    refine ⟨rfl, rfl, fun errorKind => ?_⟩
    simp only [List.isEmpty_cons, Bool.false_eq_true, if_false]
    cases (ServerHeartbeatTimeoutMultiClientLoopBoundary.processClients write liveness input
      (.start registry.toAuthenticatedSenderRegistry noticeQueue) (clientId :: clientIds)).2 with
    | error error => simp [Except.map]
    | ok _ => simp [Except.map]

/-- A pass that fails has taken the failing client away. -/
theorem recordsWritten_of_atomic {registry : KeyedSenderRegistry} {liveness : KeyedLiveness}
    {noticeQueue : List OutboundPacket}
    (h : TimeoutsAtomic write liveness.toServerHeartbeatLivenessState registry.toAuthenticatedSenderRegistry
      noticeQueue input) :
    RecordsWritten write liveness.toServerHeartbeatLivenessState input registry.clientIds := by
  obtain ⟨hregistry, -, herror⟩ := runAllRegistered_eq write liveness.toServerHeartbeatLivenessState
    registry noticeQueue input
  cases hran : ServerHeartbeatTimeoutMultiClientLoopBoundary.processClients write
      liveness.toServerHeartbeatLivenessState input
      (.start registry.toAuthenticatedSenderRegistry noticeQueue) registry.clientIds with
  | mk swept outcome =>
  cases outcome with
  | ok _ => exact recordsWritten_of_processClients hran
  | error errorKind =>
    rw [hran] at hregistry herror
    obtain ⟨done, clientId, later, before, hsplit, hdone, hfailed, hkept, -⟩ :=
      h.error errorKind ((herror errorKind).mpr rfl)
    have hsplit : registry.clientIds = done ++ clientId :: later := hsplit
    have hstep := @processClient_step write liveness.toServerHeartbeatLivenessState input before clientId
    have hlast : swept.registry =
        (processClient write liveness.toServerHeartbeatLivenessState input before clientId).1.registry := by
      rw [hsplit, processClients_append hdone,
        ServerHeartbeatTimeoutMultiClientLoopBoundary.processClients] at hran
      generalize processClient write liveness.toServerHeartbeatLivenessState input before clientId = ran
        at hran hfailed
      obtain ⟨after, outcome⟩ := ran
      cases hfailed
      cases hran
      rfl
    generalize processClient write liveness.toServerHeartbeatLivenessState input before clientId = ran
      at hstep hfailed hlast
    cases hstep with
    | alive result client fresh reports => cases hfailed
    | expired result client entry old written reports => cases hfailed
    | failed entry old error unwritten =>
      have hclient : entry.clientId = clientId :=
        liveness.keyed clientId entry (evaluateTimeout_expired old).1
      -- the client has its first turn, so it is still registered
      have hnotDone : clientId ∉ done := by
        have hnodup := registry.clientIds_nodup
        rw [hsplit] at hnodup
        intro hmem
        exact (List.nodup_append.mp hnodup).2.2 clientId hmem clientId List.mem_cons_self rfl
      obtain ⟨swept', hswept, hsweeps⟩ := processClients_of_recordsWritten
        (recordsWritten_of_processClients hdone) (.start registry.toAuthenticatedSenderRegistry noticeQueue)
      cases hswept.symm.trans hdone
      have hregistered : (before.registry.get clientId).isSome := by
        rw [hsweeps.registry clientId, if_neg fun hmem => hnotDone (mem_expiredEntries.mp hmem).1]
        exact registry.mem_clientIds.mp (hsplit ▸ List.mem_append_right _ List.mem_cons_self)
      have hsame : (⟨before.registry.entriesByClientId.erase entry.clientId⟩ :
          AuthenticatedSenderRegistry) = before.registry :=
        hlast.symm.trans (hregistry.symm.trans hkept)
      exact absurd (hclient ▸ hregistered) (erase_eq_self_iff.mp hsame)

theorem atomic_of_recordsWritten {registry : KeyedSenderRegistry} {liveness : KeyedLiveness}
    (noticeQueue : List OutboundPacket)
    (h : RecordsWritten write liveness.toServerHeartbeatLivenessState input registry.clientIds) :
    TimeoutsAtomic write liveness.toServerHeartbeatLivenessState registry.toAuthenticatedSenderRegistry
      noticeQueue input := by
  obtain ⟨swept, ⟨hregistry, hqueue, ⟨results, hprocessed, hclients, hreports⟩, -⟩, hran⟩ :=
    runAllRegistered_of_recordsWritten registry h noticeQueue
  constructor
  · intro errorKind herror
    rw [hran] at herror
    cases herror
  · intro clientId hsome hnone
    rw [hran] at hnone ⊢
    have hgone : clientId ∈ (expiredEntries liveness.toServerHeartbeatLivenessState input
        registry.clientIds).map (·.clientId) := by
      by_contra hnot
      have hkept := hregistry clientId
      rw [if_neg hnot] at hkept
      have hnone : registry.get clientId = none := hkept.symm.trans hnone
      rw [hnone] at hsome
      cases hsome
    obtain ⟨hmem, hexpired⟩ := mem_expiredEntries.mp hgone
    obtain ⟨entry, hexpired⟩ := Option.isSome_iff_exists.mp hexpired
    rw [← hclients] at hmem
    obtain ⟨result, hresult, rfl⟩ := List.mem_map.mp hmem
    obtain ⟨done, later, rfl⟩ := List.append_of_mem hresult
    have hreport := hreports done result later rfl
    unfold ReportsClient at hreport
    rw [hexpired] at hreport
    refine ⟨entry, hexpired, ?_⟩
    obtain ⟨-, hstorage⟩ := hreport
    split at hstorage
    next hroom =>
      refine .inl ⟨_, hqueue.trans (pushAll_eq _ _ _), ?_⟩
      have hsplit : timeoutNotices liveness.toServerHeartbeatLivenessState input registry.clientIds =
          timeoutNotices liveness.toServerHeartbeatLivenessState input (done.map (·.clientId)) ++
            timeoutNotice input entry ::
              timeoutNotices liveness.toServerHeartbeatLivenessState input (later.map (·.clientId)) := by
        rw [← hclients, List.map_append, List.map_cons, ← timeoutNotices_cons_some hexpired]
        unfold timeoutNotices expiredEntries
        rw [List.filterMap_append, List.map_append]
      rw [hsplit]
      exact mem_take_of_room hroom
    next =>
      obtain ⟨decision, hdropped⟩ := hstorage
      have hprocessed : swept.processed = done ++ result :: later := hprocessed
      have hsome : (done ++ result :: later).isEmpty = false := by cases done <;> rfl
      refine .inr ⟨swept.processed, swept.timeoutActionsApplied, ?_, result, ?_, rfl, decision, _, _, hdropped⟩
      · rw [hprocessed, hsome]
        rfl
      · rw [hprocessed]
        exact hresult

end Pass

/-- A pass is atomic exactly when the records of all timed-out registered clients can be written, and a
plan leaves the registry alone on an error exactly when it loses no client. -/
theorem timeouts_atomic_iff (write : TimeoutLogWriter) (registry : KeyedSenderRegistry)
    (liveness : KeyedLiveness) (noticeQueue : List OutboundPacket)
    (input : ServerHeartbeatTimeoutMultiClientLoopInput) :
    (TimeoutsAtomic write liveness.toServerHeartbeatLivenessState registry.toAuthenticatedSenderRegistry
        noticeQueue input ↔
      RecordsWritten write liveness.toServerHeartbeatLivenessState input registry.clientIds) ∧
    ∀ plan, (∀ errorKind, (applyPlan write registry.toAuthenticatedSenderRegistry plan).2 = .error errorKind →
        (applyPlan write registry.toAuthenticatedSenderRegistry plan).1 =
          registry.toAuthenticatedSenderRegistry) ↔
      ¬LosesClient write registry.toAuthenticatedSenderRegistry plan :=
  ⟨⟨recordsWritten_of_atomic, atomic_of_recordsWritten noticeQueue⟩, applyPlan_keeps_iff write _⟩

/-- The disk is full when the silent camera times out: it is gone, and nobody is told. -/
theorem timeouts_not_atomic_camera :
    let write : TimeoutLogWriter := fun _ => .error (.other "StorageFull")
    let after := ServerHeartbeatTimeoutMultiClientLoopBoundary.runAllRegistered write
      cameraLiveness.toServerHeartbeatLivenessState cameraRegistry.toAuthenticatedSenderRegistry []
      ⟨10000000, ⟨5000000⟩⟩
    (after.1.get "cam" = none ∧ after.2.1 = [] ∧ after.2.2 = .error (.other "StorageFull")) ∧
      ¬TimeoutsAtomic write cameraLiveness.toServerHeartbeatLivenessState
        cameraRegistry.toAuthenticatedSenderRegistry [] ⟨10000000, ⟨5000000⟩⟩ := by
  intro write after
  refine ⟨by decide +kernel, fun h => ?_⟩
  obtain ⟨entry, hexpired⟩ : ∃ entry, expiredEntry cameraLiveness.toServerHeartbeatLivenessState "cam"
      ⟨10000000, ⟨5000000⟩⟩ = some entry := Option.isSome_iff_exists.mp (by decide +kernel)
  have hmem : "cam" ∈ cameraRegistry.clientIds := cameraRegistry.mem_clientIds.mpr (by decide +kernel)
  cases recordsWritten_of_atomic h "cam" hmem entry hexpired

end StreamSync
