import StreamSync.Lib.Saturating
import StreamSync.ProtocolDecode
import StreamSync.ProtocolEncode
import StreamSync.RustStd
import StreamSync.ServerTypes

namespace StreamSync

open Saturating

inductive ClientHeartbeatAckObservationReturnMode where
  | disabled | clientStatsOncePerAck
deriving DecidableEq, Repr

structure ClientHeartbeatLoopCadenceInput where
  heartbeatIntervalMicros : UInt64
  ackReceiveTimeoutMicros : UInt64
  ackObservationReturn : ClientHeartbeatAckObservationReturnMode
deriving DecidableEq, Repr

inductive ClientHeartbeatLoopStopCondition where
  | runUntilStopped
  | maxHeartbeats (maxSentHeartbeats : UInt64)
  | maxMissedAcks (maxMissedAcks : UInt64)
deriving DecidableEq, Repr

structure ClientHeartbeatLoopStateSnapshot where
  sentHeartbeats : UInt64
  receivedAcks : UInt64
  missedAcks : UInt64
  lastHeartbeatSentAt : Option TimestampMicros
  stopRequested : Bool
deriving DecidableEq, Repr

structure ClientHeartbeatLoopPolicyInput where
  clientId : ClientId
  runId : RunId
  now : TimestampMicros
  cadence : ClientHeartbeatLoopCadenceInput
  stopCondition : ClientHeartbeatLoopStopCondition
  state : ClientHeartbeatLoopStateSnapshot
deriving DecidableEq, Repr

inductive ClientHeartbeatLoopPolicyReason where
  | stopRequested | maxHeartbeatsReached | maxMissedAcksReached | waitingForCadence | heartbeatDue
deriving DecidableEq, Repr

structure ClientHeartbeatLoopLogHandoff where
  clientId : ClientId
  runId : RunId
  observedAt : TimestampMicros
  reason : ClientHeartbeatLoopPolicyReason
  heartbeatIntervalMicros : UInt64
  ackReceiveTimeoutMicros : UInt64
  sentHeartbeats : UInt64
  receivedAcks : UInt64
  missedAcks : UInt64
deriving DecidableEq, Repr

inductive ClientHeartbeatLoopPolicyAction where
  | stop (reason : ClientHeartbeatLoopPolicyReason) (log : ClientHeartbeatLoopLogHandoff)
  | wait (nextHeartbeatDueAt : TimestampMicros) (log : ClientHeartbeatLoopLogHandoff)
  | sendHeartbeat (sendAt ackDeadlineAt : TimestampMicros)
      (ackObservationReturn : ClientHeartbeatAckObservationReturnMode)
      (log : ClientHeartbeatLoopLogHandoff)
deriving DecidableEq, Repr

def clientHeartbeatLoopLog (input : ClientHeartbeatLoopPolicyInput)
    (reason : ClientHeartbeatLoopPolicyReason) : ClientHeartbeatLoopLogHandoff where
  clientId := input.clientId
  runId := input.runId
  observedAt := input.now
  reason := reason
  heartbeatIntervalMicros := input.cadence.heartbeatIntervalMicros
  ackReceiveTimeoutMicros := input.cadence.ackReceiveTimeoutMicros
  sentHeartbeats := input.state.sentHeartbeats
  receivedAcks := input.state.receivedAcks
  missedAcks := input.state.missedAcks

namespace ClientHeartbeatLoopPolicyBoundary

/-- The stop that the condition asks for, if it does. -/
def stopReason (input : ClientHeartbeatLoopPolicyInput) : Option ClientHeartbeatLoopPolicyReason :=
  if input.state.stopRequested then some .stopRequested
  else
    match input.stopCondition with
    | .runUntilStopped => none
    | .maxHeartbeats maxSentHeartbeats =>
      if maxSentHeartbeats ≤ input.state.sentHeartbeats then some .maxHeartbeatsReached else none
    | .maxMissedAcks maxMissedAcks =>
      if maxMissedAcks ≤ input.state.missedAcks then some .maxMissedAcksReached else none

def evaluate (input : ClientHeartbeatLoopPolicyInput) : ClientHeartbeatLoopPolicyAction :=
  match stopReason input with
  | some reason => .stop reason (clientHeartbeatLoopLog input reason)
  | none =>
    let nextHeartbeatDueAt :=
      match input.state.lastHeartbeatSentAt with
      | some timestamp => saturatingAdd timestamp input.cadence.heartbeatIntervalMicros
      | none => input.now
    if input.now < nextHeartbeatDueAt then
      .wait nextHeartbeatDueAt (clientHeartbeatLoopLog input .waitingForCadence)
    else
      .sendHeartbeat input.now (saturatingAdd input.now input.cadence.ackReceiveTimeoutMicros)
        input.cadence.ackObservationReturn (clientHeartbeatLoopLog input .heartbeatDue)

end ClientHeartbeatLoopPolicyBoundary

inductive ClientHeartbeatLoopOwnershipNotReadyReason where
  | authNotAccepted | socketNotBound
deriving DecidableEq, Repr

structure ClientHeartbeatLoopOwnershipInput where
  clientId : ClientId
  runId : RunId
  protocolVersion : ProtocolVersion
  authAccepted : Bool
  socketBound : Bool
deriving DecidableEq, Repr

structure ClientHeartbeatLoopOwnershipPlan where
  clientId : ClientId
  runId : RunId
  protocolVersion : ProtocolVersion
  ownsUdpSocket : Bool
  ownsLoopState : Bool
  ownsAckWait : Bool
  ownsStatsReturn : Bool
deriving DecidableEq, Repr

inductive ClientHeartbeatLoopOwnershipDecision where
  | ready (plan : ClientHeartbeatLoopOwnershipPlan)
  | notReady (clientId : ClientId) (runId : RunId) (reason : ClientHeartbeatLoopOwnershipNotReadyReason)
deriving DecidableEq, Repr

/-- `ClientHeartbeatLoopOwnershipBoundary::evaluate`. -/
def evaluateOwnership (input : ClientHeartbeatLoopOwnershipInput) : ClientHeartbeatLoopOwnershipDecision :=
  if !input.authAccepted then .notReady input.clientId input.runId .authNotAccepted
  else if !input.socketBound then .notReady input.clientId input.runId .socketNotBound
  else .ready ⟨input.clientId, input.runId, input.protocolVersion, true, true, true, true⟩

inductive ClientHeartbeatAckReceiveTimeoutDecision where
  | deadlineElapsed
  | wait (receiveTimeoutMicros : UInt64) (deadlineAt : TimestampMicros)
deriving DecidableEq, Repr

/-- `ClientHeartbeatAckReceiveTimeoutBoundary::plan_wait`. -/
def planAckWait (now ackDeadlineAt : TimestampMicros) (maxSocketWaitMicros : UInt64) :
    ClientHeartbeatAckReceiveTimeoutDecision :=
  if ackDeadlineAt ≤ now then .deadlineElapsed
  else .wait (min (ackDeadlineAt - now) maxSocketWaitMicros) ackDeadlineAt

inductive ClientHeartbeatLoopRetryReason where
  | heartbeatSendFailed | ackReceiveTimeout | ackDecodeFailed | statsReturnSendFailed
deriving DecidableEq, Repr

structure ClientHeartbeatLoopRetryPolicy where
  maxAttempts : UInt32
  retryDelayMicros : UInt64
deriving DecidableEq, Repr

inductive ClientHeartbeatLoopRetryDecision where
  | retryLater (reason : ClientHeartbeatLoopRetryReason) (nextAttempt : UInt32) (retryAt : TimestampMicros)
  | giveUp (reason : ClientHeartbeatLoopRetryReason) (attemptsUsed : UInt32)
deriving DecidableEq, Repr

/-- `ClientHeartbeatLoopRetryBoundary::decide`. The next attempt is below `max_attempts`, so it does not
saturate. -/
def decideRetry (reason : ClientHeartbeatLoopRetryReason) (attemptsUsed : UInt32)
    (policy : ClientHeartbeatLoopRetryPolicy) (now : TimestampMicros) : ClientHeartbeatLoopRetryDecision :=
  if policy.maxAttempts ≤ attemptsUsed then .giveUp reason attemptsUsed
  else .retryLater reason (attemptsUsed + 1) (saturatingAdd now policy.retryDelayMicros)

structure ClientHeartbeatLoopBodyInput where
  ownership : ClientHeartbeatLoopOwnershipInput
  policy : ClientHeartbeatLoopPolicyInput
  maxAckSocketWaitMicros : UInt64
deriving DecidableEq, Repr

structure ClientHeartbeatLoopBodySendHandoff where
  clientId : ClientId
  runId : RunId
  protocolVersion : ProtocolVersion
  sendAt : TimestampMicros
  ackDeadlineAt : TimestampMicros
  ackWait : ClientHeartbeatAckReceiveTimeoutDecision
  ackObservationReturn : ClientHeartbeatAckObservationReturnMode
deriving DecidableEq, Repr

inductive ClientHeartbeatLoopBodyResult where
  | ownershipNotReady (decision : ClientHeartbeatLoopOwnershipDecision)
  | stop (reason : ClientHeartbeatLoopPolicyReason) (log : ClientHeartbeatLoopLogHandoff)
  | wait (nextHeartbeatDueAt : TimestampMicros) (log : ClientHeartbeatLoopLogHandoff)
  | sendHeartbeat (handoff : ClientHeartbeatLoopBodySendHandoff) (log : ClientHeartbeatLoopLogHandoff)
deriving DecidableEq, Repr

/-- `ClientHeartbeatLoopBodyBoundary::run_one`. -/
def runBody (input : ClientHeartbeatLoopBodyInput) : ClientHeartbeatLoopBodyResult :=
  match evaluateOwnership input.ownership with
  | .notReady clientId runId reason => .ownershipNotReady (.notReady clientId runId reason)
  | .ready plan =>
    match ClientHeartbeatLoopPolicyBoundary.evaluate input.policy with
    | .stop reason log => .stop reason log
    | .wait nextHeartbeatDueAt log => .wait nextHeartbeatDueAt log
    | .sendHeartbeat sendAt ackDeadlineAt ackObservationReturn log =>
      .sendHeartbeat {
        clientId := plan.clientId
        runId := plan.runId
        protocolVersion := plan.protocolVersion
        sendAt
        ackDeadlineAt
        ackWait := planAckWait sendAt ackDeadlineAt input.maxAckSocketWaitMicros
        ackObservationReturn } log

inductive ClientHeartbeatLoopIterationFailureKind where
  | heartbeatSend | ackReceive | clientStatsReturnSend
deriving DecidableEq, Repr

inductive ClientHeartbeatLoopIterationRuntimeResult where
  | waited (nextHeartbeatDueAt : TimestampMicros)
  | stopped (reason : ClientHeartbeatLoopPolicyReason)
  | heartbeatSent (sentAt : TimestampMicros)
  | ackReceived (clientReceivedAt : TimestampMicros) (statsReturnPrepared : Bool)
  | ackMissed (missedAt : TimestampMicros)
  | clientStatsReturnSent (sentAt : TimestampMicros)
  | failed (kind : ClientHeartbeatLoopIterationFailureKind) (failedAt : TimestampMicros)
deriving DecidableEq, Repr

structure ClientHeartbeatLoopCountersState where
  sentHeartbeats : UInt64
  receivedAcks : UInt64
  missedAcks : UInt64
  statsReturnsSent : UInt64
  heartbeatSendFailures : UInt64
  ackReceiveFailures : UInt64
  statsReturnSendFailures : UInt64
  lastHeartbeatSentAt : Option TimestampMicros
  lastAckReceivedAt : Option TimestampMicros
  lastStatsReturnSentAt : Option TimestampMicros
deriving DecidableEq, Repr

def ClientHeartbeatLoopCountersState.zero : ClientHeartbeatLoopCountersState :=
  ⟨0, 0, 0, 0, 0, 0, 0, none, none, none⟩

/-- What `ClientHeartbeatLoopCountersBoundary::commit_result` makes of the counters. -/
def commitCounters (state : ClientHeartbeatLoopCountersState) :
    ClientHeartbeatLoopIterationRuntimeResult → ClientHeartbeatLoopCountersState
  | .waited _ => state
  | .stopped _ => state
  | .heartbeatSent sentAt =>
    { state with sentHeartbeats := saturatingAdd state.sentHeartbeats 1, lastHeartbeatSentAt := some sentAt }
  | .ackReceived clientReceivedAt _ =>
    { state with receivedAcks := saturatingAdd state.receivedAcks 1, lastAckReceivedAt := some clientReceivedAt }
  | .ackMissed _ => { state with missedAcks := saturatingAdd state.missedAcks 1 }
  | .clientStatsReturnSent sentAt =>
    { state with
      statsReturnsSent := saturatingAdd state.statsReturnsSent 1
      lastStatsReturnSentAt := some sentAt }
  | .failed .heartbeatSend _ =>
    { state with heartbeatSendFailures := saturatingAdd state.heartbeatSendFailures 1 }
  | .failed .ackReceive _ =>
    { state with ackReceiveFailures := saturatingAdd state.ackReceiveFailures 1 }
  | .failed .clientStatsReturnSend _ =>
    { state with statsReturnSendFailures := saturatingAdd state.statsReturnSendFailures 1 }

structure ClientHeartbeatLoopCountersUpdateOutcome where
  previous : ClientHeartbeatLoopCountersState
  current : ClientHeartbeatLoopCountersState
deriving DecidableEq, Repr

inductive ClientHeartbeatLoopSleepReason where
  | cadenceWait | ackWait | retryBackoff | retryExhausted
deriving DecidableEq, Repr

inductive ClientHeartbeatLoopSleepDecision where
  | noSleep (reason : ClientHeartbeatLoopSleepReason)
  | sleep (reason : ClientHeartbeatLoopSleepReason) (sleepMicros : UInt64) (wakeAt : TimestampMicros)
deriving DecidableEq, Repr

/-- `ClientHeartbeatLoopSleepBoundary::plan_sleep`. -/
def planSleep (now wakeAt : TimestampMicros) (maxSleepMicros : UInt64)
    (reason : ClientHeartbeatLoopSleepReason) : ClientHeartbeatLoopSleepDecision :=
  if wakeAt ≤ now || maxSleepMicros = 0 then .noSleep reason
  else .sleep reason (min (wakeAt - now) maxSleepMicros) wakeAt

structure ClientHeartbeatLoopRetryApplyResult where
  failureResult : ClientHeartbeatLoopIterationRuntimeResult
  retryDecision : ClientHeartbeatLoopRetryDecision
  sleep : ClientHeartbeatLoopSleepDecision
deriving DecidableEq, Repr

/-- `ClientHeartbeatLoopRetryApplyBoundary::apply_failure`. -/
def applyRetry (reason : ClientHeartbeatLoopRetryReason) (failureKind : ClientHeartbeatLoopIterationFailureKind)
    (attemptsUsed : UInt32) (policy : ClientHeartbeatLoopRetryPolicy) (failedAt : TimestampMicros)
    (maxSleepMicros : UInt64) : ClientHeartbeatLoopRetryApplyResult :=
  let retryDecision := decideRetry reason attemptsUsed policy failedAt
  { failureResult := .failed failureKind failedAt
    retryDecision
    sleep :=
      match retryDecision with
      | .retryLater _ _ retryAt => planSleep failedAt retryAt maxSleepMicros .retryBackoff
      | .giveUp _ _ => .noSleep .retryExhausted }

inductive ClientHeartbeatLoopControllerPlan where
  | ownershipNotReady (decision : ClientHeartbeatLoopOwnershipDecision)
  | stop (reason : ClientHeartbeatLoopPolicyReason) (log : ClientHeartbeatLoopLogHandoff)
      (iterationResult : ClientHeartbeatLoopIterationRuntimeResult)
  | sleep (sleep : ClientHeartbeatLoopSleepDecision) (log : ClientHeartbeatLoopLogHandoff)
      (iterationResult : ClientHeartbeatLoopIterationRuntimeResult)
  | sendHeartbeat (handoff : ClientHeartbeatLoopBodySendHandoff) (log : ClientHeartbeatLoopLogHandoff)
deriving DecidableEq, Repr

/-- `ClientHeartbeatLoopControllerBoundary::plan_next`. -/
def planController (bodyResult : ClientHeartbeatLoopBodyResult) (now : TimestampMicros)
    (maxSleepMicros : UInt64) : ClientHeartbeatLoopControllerPlan :=
  match bodyResult with
  | .ownershipNotReady decision => .ownershipNotReady decision
  | .stop reason log => .stop reason log (.stopped reason)
  | .wait nextHeartbeatDueAt log =>
    .sleep (planSleep now nextHeartbeatDueAt maxSleepMicros .cadenceWait) log (.waited nextHeartbeatDueAt)
  | .sendHeartbeat handoff log => .sendHeartbeat handoff log

end StreamSync
