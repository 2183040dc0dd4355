import StreamSync.Lib.Saturating
import StreamSync.SenderRegistry

namespace StreamSync

open KeyedTable Saturating

structure ServerHeartbeatAckTiming where
  serverReceivedAt : TimestampMicros
  serverSentAt : TimestampMicros
deriving DecidableEq, Repr

structure ServerHeartbeatStateInput where
  source : PacketSource
  authenticatedSender : AuthenticatedSenderEntry
  clientId : ClientId
  runId : RunId
  protocolVersion : ProtocolVersion
  heartbeatSentAt : TimestampMicros
  serverReceivedAt : TimestampMicros
  shortStatus : Option String
deriving DecidableEq, Repr

inductive ServerHeartbeatLivenessStatus where
  | alive | timedOut
deriving DecidableEq, Repr

structure ServerHeartbeatLivenessEntry where
  source : PacketSource
  authenticatedSender : AuthenticatedSenderEntry
  clientId : ClientId
  runId : RunId
  protocolVersion : ProtocolVersion
  lastHeartbeatSentAt : TimestampMicros
  lastServerReceivedAt : TimestampMicros
  lastShortStatus : Option String
  receivedHeartbeats : UInt64
  status : ServerHeartbeatLivenessStatus
deriving DecidableEq, Repr

structure ServerHeartbeatLivenessState where
  entriesByClientId : Table ClientId ServerHeartbeatLivenessEntry
deriving DecidableEq

def ServerHeartbeatLivenessState.empty : ServerHeartbeatLivenessState := ⟨∅⟩

def ServerHeartbeatLivenessState.get (state : ServerHeartbeatLivenessState) (clientId : ClientId) :
    Option ServerHeartbeatLivenessEntry := state.entriesByClientId[clientId]?

/-- The entry a heartbeat leaves for its client. -/
def livenessEntry (previous : Option ServerHeartbeatLivenessEntry) (input : ServerHeartbeatStateInput) :
    ServerHeartbeatLivenessEntry where
  source := input.source
  authenticatedSender := input.authenticatedSender
  clientId := input.clientId
  runId := input.runId
  protocolVersion := input.protocolVersion
  lastHeartbeatSentAt := input.heartbeatSentAt
  lastServerReceivedAt := input.serverReceivedAt
  lastShortStatus := input.shortStatus
  receivedHeartbeats :=
    match previous with
    | some entry => saturatingAdd entry.receivedHeartbeats 1
    | none => 1
  status := .alive

/-- `ServerHeartbeatLivenessCommitBoundary::commit`. -/
def commitLiveness (state : ServerHeartbeatLivenessState) (input : ServerHeartbeatStateInput) :
    ServerHeartbeatLivenessState :=
  ⟨state.entriesByClientId.insert input.clientId (livenessEntry (state.get input.clientId) input)⟩

theorem get_commitLiveness (state : ServerHeartbeatLivenessState) (input : ServerHeartbeatStateInput)
    (clientId : ClientId) :
    (commitLiveness state input).get clientId =
      if input.clientId = clientId then some (livenessEntry (state.get input.clientId) input)
      else state.get clientId :=
  getElem?_insert_eq _ _ _ _

structure ServerHeartbeatTimeoutPolicy where
  timeoutAfterMicros : UInt64
deriving DecidableEq, Repr

inductive ServerHeartbeatTimeoutEvaluation where
  | noHeartbeat (clientId : ClientId)
  | alive (clientId : ClientId) (lastServerReceivedAt : TimestampMicros)
      (elapsedMicros timeoutAfterMicros : UInt64)
  | timedOut (clientId : ClientId) (lastServerReceivedAt : TimestampMicros)
      (elapsedMicros timeoutAfterMicros : UInt64)
deriving DecidableEq, Repr

def evaluateTimeout (state : ServerHeartbeatLivenessState) (clientId : ClientId) (now : TimestampMicros)
    (policy : ServerHeartbeatTimeoutPolicy) : ServerHeartbeatTimeoutEvaluation :=
  match state.get clientId with
  | none => .noHeartbeat clientId
  | some entry =>
    let elapsedMicros := saturatingSub now entry.lastServerReceivedAt
    if policy.timeoutAfterMicros ≤ elapsedMicros then
      .timedOut clientId entry.lastServerReceivedAt elapsedMicros policy.timeoutAfterMicros
    else .alive clientId entry.lastServerReceivedAt elapsedMicros policy.timeoutAfterMicros

structure ServerHeartbeatTimeoutLogInput where
  source : PacketSource
  clientId : ClientId
  runId : RunId
  protocolVersion : ProtocolVersion
  lastServerReceivedAt : TimestampMicros
  evaluatedAt : TimestampMicros
  elapsedMicros : UInt64
  timeoutAfterMicros : UInt64
  registryInvalidationPlanned : Bool
  noticePlanned : Bool
deriving DecidableEq, Repr

/-- A notice that is planned for a trigger. -/
structure ServerNoticeInput where
  destination : PacketSource
  protocolVersion : ProtocolVersion
  runId : RunId
  noticeType : NoticeType
  message : String
deriving DecidableEq, Repr

structure ServerHeartbeatTimeoutActionPlan where
  evaluation : ServerHeartbeatTimeoutEvaluation
  registryInvalidation : Option AuthenticatedSenderInvalidation
  timeoutLog : Option ServerHeartbeatTimeoutLogInput
  notice : Option ServerNoticeInput
deriving DecidableEq, Repr

def planActions (state : ServerHeartbeatLivenessState) (evaluation : ServerHeartbeatTimeoutEvaluation)
    (evaluatedAt : TimestampMicros) : ServerHeartbeatTimeoutActionPlan :=
  match evaluation with
  | .timedOut clientId lastServerReceivedAt elapsedMicros timeoutAfterMicros =>
    match state.get clientId with
    | none => ⟨evaluation, none, none, none⟩
    | some entry =>
      { evaluation
        registryInvalidation := some {
          clientId := entry.clientId
          source := entry.source
          runId := entry.runId
          protocolVersion := entry.protocolVersion
          reason := .heartbeatTimeout
          invalidatedAt := evaluatedAt }
        timeoutLog := some {
          source := entry.source
          clientId := entry.clientId
          runId := entry.runId
          protocolVersion := entry.protocolVersion
          lastServerReceivedAt
          evaluatedAt
          elapsedMicros
          timeoutAfterMicros
          registryInvalidationPlanned := true
          noticePlanned := true }
        notice := some {
          destination := entry.source
          protocolVersion := entry.protocolVersion
          runId := entry.runId
          noticeType := .authExpired
          message := s!"heartbeat timeout: elapsed_micros={elapsedMicros} " ++
            s!"timeout_after_micros={timeoutAfterMicros}" } }
  | .alive _ _ _ _ => ⟨evaluation, none, none, none⟩
  | .noHeartbeat _ => ⟨evaluation, none, none, none⟩

/-- `ServerNoticeBoundary::build_for_send`. -/
def buildNotice (input : ServerNoticeInput) : OutboundPacket where
  destination := input.destination
  message := .serverNotice {
    messageType := .serverNotice
    protocolVersion := input.protocolVersion
    runId := input.runId
    noticeType := input.noticeType
    message := input.message }

/-- What the caller's writer does with a timeout record. -/
abbrev TimeoutLogWriter := ServerHeartbeatTimeoutLogInput → Except IoErrorKind Unit

structure ServerHeartbeatTimeoutApplyResult where
  evaluation : ServerHeartbeatTimeoutEvaluation
  registryInvalidation : Option AuthenticatedSenderInvalidationOutcome
  timeoutLogEvent : Option ServerHeartbeatTimeoutLogInput
  noticeHandoff : Option OutboundPacket
deriving DecidableEq

/-- The registry is changed before the record is written, so a failed write leaves it changed. -/
def applyPlan (write : TimeoutLogWriter) (registry : AuthenticatedSenderRegistry)
    (plan : ServerHeartbeatTimeoutActionPlan) :
    AuthenticatedSenderRegistry × Except IoErrorKind ServerHeartbeatTimeoutApplyResult :=
  let invalidated := plan.registryInvalidation.map registry.invalidate
  let registry :=
    match invalidated with
    | some result => result.1
    | none => registry
  (registry, do
    plan.timeoutLog.forM write
    return {
      evaluation := plan.evaluation
      registryInvalidation := invalidated.map fun result => result.2
      timeoutLogEvent := plan.timeoutLog
      noticeHandoff := plan.notice.map buildNotice })

structure ServerHeartbeatTimeoutMultiClientLoopInput where
  evaluatedAt : TimestampMicros
  policy : ServerHeartbeatTimeoutPolicy
deriving DecidableEq, Repr

def outboundQueueMaxItems : Nat := 64

/-- The server queues control messages only, and these are dropped when the queue is full. -/
def pushOutbound (queue : List OutboundPacket) (item : OutboundPacket) : List OutboundPacket :=
  if queue.length < outboundQueueMaxItems then queue ++ [item] else queue

/-- The entry that is invalidated when the client's turn in a pass comes. -/
def expiredEntry (liveness : ServerHeartbeatLivenessState) (clientId : ClientId)
    (input : ServerHeartbeatTimeoutMultiClientLoopInput) : Option ServerHeartbeatLivenessEntry :=
  (liveness.get clientId).filter fun entry =>
    input.policy.timeoutAfterMicros ≤ saturatingSub input.evaluatedAt entry.lastServerReceivedAt

theorem applyPlan_ok {write : TimeoutLogWriter} (hw : ∀ record, write record = .ok ())
    (registry : AuthenticatedSenderRegistry) (plan : ServerHeartbeatTimeoutActionPlan) :
    ∃ apply, (applyPlan write registry plan).2 = .ok apply := by
  obtain ⟨evaluation, registryInvalidation, timeoutLog, notice⟩ := plan
  cases timeoutLog with
  | none => exact ⟨_, rfl⟩
  | some record =>
    have hlog : (some record).forM write = .ok () := hw record
    exact ⟨_, by simp only [applyPlan, hlog]; rfl⟩

end StreamSync
