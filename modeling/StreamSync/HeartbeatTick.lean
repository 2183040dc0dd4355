import StreamSync.HeartbeatLoop

namespace StreamSync

/-- The UDP receive buffer, which holds any datagram. -/
def udpPacketBufferLen : Nat := 65507

/-- A datagram in the receive queue of the socket. The client does not see `answers`, the number of the
heartbeat that the datagram acknowledges. -/
structure AckDatagram where
  source : PacketSource
  bytes : List UInt8
  answers : Nat
deriving DecidableEq, Repr

/-- What the socket and the clock do during one tick. The receive finds the datagrams that were queued
before, then those that arrive before it returns. -/
structure TickSocket where
  heartbeatSend : Except IoErrorKind Nat
  arrivals : List AckDatagram
  emptyReceive : IoErrorKind
  clientReceivedAt : TimestampMicros
  clientStatsSentAt : TimestampMicros
  statsSend : Except IoErrorKind Nat

inductive ClientHeartbeatLoopEncodeSendError where
  | encode (error : ProtocolError)
  | send (kind : IoErrorKind)
deriving DecidableEq

structure ClientHeartbeatLoopEncodedSendHandoff where
  heartbeat : Heartbeat
  encodedBytes : List UInt8
  ackDeadlineAt : TimestampMicros
  ackWait : ClientHeartbeatAckReceiveTimeoutDecision
  ackObservationReturn : ClientHeartbeatAckObservationReturnMode
deriving DecidableEq, Repr

structure ClientHeartbeatLoopEncodeSendRuntimeResult where
  handoff : ClientHeartbeatLoopEncodedSendHandoff
  bytesSent : Nat
deriving DecidableEq, Repr

def heartbeatOfHandoff (handoff : ClientHeartbeatLoopBodySendHandoff) (localTime : Option TimestampMicros)
    (shortStatus : Option String) : Heartbeat where
  messageType := .heartbeat
  protocolVersion := handoff.protocolVersion
  clientId := handoff.clientId
  runId := handoff.runId
  sentAt := handoff.sendAt
  localTime := localTime
  shortStatus := shortStatus

/-- `ClientHeartbeatLoopEncodeSendBoundary::encode_handoff`. -/
def encodeHandoff (handoff : ClientHeartbeatLoopBodySendHandoff) (localTime : Option TimestampMicros)
    (shortStatus : Option String) :
    Except ClientHeartbeatLoopEncodeSendError ClientHeartbeatLoopEncodedSendHandoff := do
  let heartbeat := heartbeatOfHandoff handoff localTime shortStatus
  let encodedBytes ← (encodeMessage ⟨heartbeat.protocolVersion⟩ (.heartbeat heartbeat) []).mapError
    ClientHeartbeatLoopEncodeSendError.encode
  return ⟨heartbeat, encodedBytes, handoff.ackDeadlineAt, handoff.ackWait, handoff.ackObservationReturn⟩

/-- `ClientHeartbeatLoopEncodeSendBoundary::send_one`. -/
def sendHeartbeat (socket : TickSocket) (handoff : ClientHeartbeatLoopBodySendHandoff)
    (localTime : Option TimestampMicros) (shortStatus : Option String) :
    Except ClientHeartbeatLoopEncodeSendError ClientHeartbeatLoopEncodeSendRuntimeResult := do
  let encoded ← encodeHandoff handoff localTime shortStatus
  let bytesSent ← socket.heartbeatSend.mapError ClientHeartbeatLoopEncodeSendError.send
  return ⟨encoded, bytesSent⟩

inductive ClientResponseReceiveError where
  | receive (kind : IoErrorKind)
  | decode (error : ProtocolError)
  | unexpectedResponseMessage (actual : MessageType)
deriving DecidableEq

/-- `receive_protocol_message`, on what `recv_from` returned. -/
def receiveProtocolMessage (received : Except IoErrorKind AckDatagram)
    (expectedProtocolVersion : ProtocolVersion) :
    Except ClientResponseReceiveError (PacketSource × List UInt8 × ProtocolMessage) := do
  let datagram ← received.mapError ClientResponseReceiveError.receive
  let responseBytes := datagram.bytes.take udpPacketBufferLen
  let message ← (decodePacket ⟨expectedProtocolVersion⟩ responseBytes).mapError
    ClientResponseReceiveError.decode
  return (datagram.source, responseBytes, message)

def receiveHeartbeatAck (received : Except IoErrorKind AckDatagram)
    (expectedProtocolVersion : ProtocolVersion) :
    Except ClientResponseReceiveError (PacketSource × List UInt8 × HeartbeatAck) := do
  let (source, bytes, message) ← receiveProtocolMessage received expectedProtocolVersion
  match message with
  | .heartbeatAck ack => return (source, bytes, ack)
  | message => throw (.unexpectedResponseMessage message.messageType)

inductive ClientHeartbeatLoopAckObservationReturnError where
  | ackReceive (error : ClientResponseReceiveError)
  | ackCorrelationMismatch (expectedClientId actualClientId : ClientId) (expectedRunId actualRunId : RunId)
      (expectedEchoedSentAt actualEchoedSentAt : TimestampMicros)
  | encode (error : ProtocolError)
deriving DecidableEq

structure ClientHeartbeatLoopClientStatsReturnHandoff where
  clientStats : ClientStats
  encodedBytes : List UInt8
deriving DecidableEq, Repr

structure ClientHeartbeatLoopAckObservationReturnRuntimeResult where
  ackSource : PacketSource
  ackBytes : List UInt8
  ack : HeartbeatAck
  observation : HeartbeatAckObservation
  clientStatsReturn : Option ClientHeartbeatLoopClientStatsReturnHandoff
deriving DecidableEq, Repr

def observeAck (ack : HeartbeatAck) (clientReceivedAt : TimestampMicros) : HeartbeatAckObservation :=
  ⟨ack.clientId, ack.runId, ack.echoedSentAt, ack.serverReceivedAt, ack.serverSentAt, clientReceivedAt⟩

namespace ClientHeartbeatLoopAckObservationReturnBoundary

def validateAckCorrelation (heartbeat : Heartbeat) (ack : HeartbeatAck) :
    Except ClientHeartbeatLoopAckObservationReturnError Unit :=
  if heartbeat.clientId ≠ ack.clientId ∨ heartbeat.runId ≠ ack.runId ∨
      heartbeat.sentAt ≠ ack.echoedSentAt then
    .error (.ackCorrelationMismatch heartbeat.clientId ack.clientId heartbeat.runId ack.runId
      heartbeat.sentAt ack.echoedSentAt)
  else .ok ()

def buildClientStatsReturn (protocolVersion : ProtocolVersion) (observation : HeartbeatAckObservation)
    (sentAt : TimestampMicros) :
    Except ClientHeartbeatLoopAckObservationReturnError ClientHeartbeatLoopClientStatsReturnHandoff := do
  let clientStats : ClientStats := {
    messageType := .clientStats
    protocolVersion
    clientId := observation.clientId
    runId := observation.runId
    sentAt
    captureFps := 0
    droppedFrames := 0
    bitrateKbps := 0
    heartbeatObservation := some observation }
  let encodedBytes ← (encodeMessage ⟨protocolVersion⟩ (.clientStats clientStats) []).mapError
    ClientHeartbeatLoopAckObservationReturnError.encode
  return ⟨clientStats, encodedBytes⟩

/-- `receive_one` and `prepare_return`. -/
def receiveOne (socket : TickSocket) (received : Except IoErrorKind AckDatagram)
    (sent : ClientHeartbeatLoopEncodedSendHandoff) :
    Except ClientHeartbeatLoopAckObservationReturnError
      ClientHeartbeatLoopAckObservationReturnRuntimeResult := do
  let (ackSource, ackBytes, ack) ← (receiveHeartbeatAck received sent.heartbeat.protocolVersion).mapError
    ClientHeartbeatLoopAckObservationReturnError.ackReceive
  validateAckCorrelation sent.heartbeat ack
  let observation := observeAck ack socket.clientReceivedAt
  let clientStatsReturn ←
    match sent.ackObservationReturn with
    | .disabled => pure none
    | .clientStatsOncePerAck =>
      some <$> buildClientStatsReturn sent.heartbeat.protocolVersion observation socket.clientStatsSentAt
  return ⟨ackSource, ackBytes, ack, observation, clientStatsReturn⟩

end ClientHeartbeatLoopAckObservationReturnBoundary

structure ClientHeartbeatLoopClientStatsReturnSendRuntimeResult where
  handoff : ClientHeartbeatLoopClientStatsReturnHandoff
  bytesSent : Nat
deriving DecidableEq, Repr

inductive ClientHeartbeatLoopOneTickRuntimeFailure where
  | heartbeatSend (error : ClientHeartbeatLoopEncodeSendError)
  | ackReceive (error : ClientHeartbeatLoopAckObservationReturnError)
  | clientStatsReturnSend (kind : IoErrorKind)
deriving DecidableEq

structure ClientHeartbeatLoopOneTickRuntimeInput where
  body : ClientHeartbeatLoopBodyInput
  localTime : Option TimestampMicros
  shortStatus : Option String
  controllerNow : TimestampMicros
  maxSleepMicros : UInt64
  retryPolicy : ClientHeartbeatLoopRetryPolicy
  retryAttemptsUsed : UInt32
deriving DecidableEq, Repr

structure ClientHeartbeatLoopOneTickRuntimeResult where
  controller : ClientHeartbeatLoopControllerPlan
  heartbeatSend : Option ClientHeartbeatLoopEncodeSendRuntimeResult
  ackReturn : Option ClientHeartbeatLoopAckObservationReturnRuntimeResult
  statsReturnSend : Option ClientHeartbeatLoopClientStatsReturnSendRuntimeResult
  retry : Option ClientHeartbeatLoopRetryApplyResult
  failure : Option ClientHeartbeatLoopOneTickRuntimeFailure
  countersUpdates : List ClientHeartbeatLoopCountersUpdateOutcome
  finalCounters : ClientHeartbeatLoopCountersState
deriving DecidableEq

def ClientHeartbeatLoopAckObservationReturnError.isTimeout :
    ClientHeartbeatLoopAckObservationReturnError → Bool
  | .ackReceive (.receive .timedOut) => true
  | .ackReceive (.receive .wouldBlock) => true
  | _ => false

def retryReasonForAckError (error : ClientHeartbeatLoopAckObservationReturnError) :
    ClientHeartbeatLoopRetryReason :=
  if error.isTimeout then .ackReceiveTimeout else .ackDecodeFailed

namespace ClientHeartbeatLoopOneTickRuntimeBoundary

open ClientHeartbeatLoopAckObservationReturnBoundary

def commitIteration (result : ClientHeartbeatLoopOneTickRuntimeResult)
    (iterationResult : ClientHeartbeatLoopIterationRuntimeResult) : ClientHeartbeatLoopOneTickRuntimeResult :=
  let current := commitCounters result.finalCounters iterationResult
  { result with
    countersUpdates := result.countersUpdates ++ [⟨result.finalCounters, current⟩]
    finalCounters := current }

def applyFailure (input : ClientHeartbeatLoopOneTickRuntimeInput)
    (result : ClientHeartbeatLoopOneTickRuntimeResult) (failure : ClientHeartbeatLoopOneTickRuntimeFailure)
    (retryReason : ClientHeartbeatLoopRetryReason) (failureKind : ClientHeartbeatLoopIterationFailureKind) :
    ClientHeartbeatLoopOneTickRuntimeResult :=
  let retry := applyRetry retryReason failureKind input.retryAttemptsUsed input.retryPolicy
    input.controllerNow input.maxSleepMicros
  { commitIteration result retry.failureResult with retry := some retry, failure := some failure }

/-- The stats return after an ack, if there is one to send. -/
def runStats (socket : TickSocket) (input : ClientHeartbeatLoopOneTickRuntimeInput)
    (result : ClientHeartbeatLoopOneTickRuntimeResult) :
    Option ClientHeartbeatLoopClientStatsReturnHandoff → ClientHeartbeatLoopOneTickRuntimeResult
  | none => result
  | some handoff =>
    match socket.statsSend with
    | .ok bytesSent =>
      { commitIteration result (.clientStatsReturnSent handoff.clientStats.sentAt) with
        statsReturnSend := some ⟨handoff, bytesSent⟩ }
    | .error kind =>
      applyFailure input result (.clientStatsReturnSend kind) .statsReturnSendFailed .clientStatsReturnSend

/-- What follows the receive. -/
def runAck (socket : TickSocket) (input : ClientHeartbeatLoopOneTickRuntimeInput)
    (result : ClientHeartbeatLoopOneTickRuntimeResult) :
    Except ClientHeartbeatLoopAckObservationReturnError ClientHeartbeatLoopAckObservationReturnRuntimeResult →
      ClientHeartbeatLoopOneTickRuntimeResult
  | .error error =>
    let result := if error.isTimeout then commitIteration result (.ackMissed input.controllerNow) else result
    applyFailure input result (.ackReceive error) (retryReasonForAckError error) .ackReceive
  | .ok ack =>
    let result := commitIteration result
      (.ackReceived ack.observation.clientReceivedAt ack.clientStatsReturn.isSome)
    runStats socket input { result with ackReturn := some ack } ack.clientStatsReturn

/-- `run_send_ack_stats`; `queue` is what the receive finds, and what is left of it is returned. -/
def runSendAckStats (socket : TickSocket) (queue : List AckDatagram)
    (input : ClientHeartbeatLoopOneTickRuntimeInput) (handoff : ClientHeartbeatLoopBodySendHandoff)
    (result : ClientHeartbeatLoopOneTickRuntimeResult) :
    ClientHeartbeatLoopOneTickRuntimeResult × List AckDatagram :=
  match sendHeartbeat socket handoff input.localTime input.shortStatus with
  | .error error =>
    (applyFailure input result (.heartbeatSend error) .heartbeatSendFailed .heartbeatSend, queue)
  | .ok send =>
    let result := { commitIteration result (.heartbeatSent send.handoff.heartbeat.sentAt) with
      heartbeatSend := some send }
    match send.handoff.ackWait with
    | .deadlineElapsed => (commitIteration result (.ackMissed input.controllerNow), queue)
    | .wait _ _ =>
      match queue with
      | [] => (runAck socket input result (receiveOne socket (.error socket.emptyReceive) send.handoff), [])
      | datagram :: queue =>
        (runAck socket input result (receiveOne socket (.ok datagram) send.handoff), queue)

/-- `run_one`, on the datagrams queued before the tick. -/
def runOne (socket : TickSocket) (queue : List AckDatagram) (counters : ClientHeartbeatLoopCountersState)
    (input : ClientHeartbeatLoopOneTickRuntimeInput) :
    ClientHeartbeatLoopOneTickRuntimeResult × List AckDatagram :=
  let controller := planController (runBody input.body) input.controllerNow input.maxSleepMicros
  let result : ClientHeartbeatLoopOneTickRuntimeResult :=
    ⟨controller, none, none, none, none, none, [], counters⟩
  match controller with
  | .ownershipNotReady _ => (result, queue ++ socket.arrivals)
  | .stop _ _ iterationResult => (commitIteration result iterationResult, queue ++ socket.arrivals)
  | .sleep _ _ iterationResult => (commitIteration result iterationResult, queue ++ socket.arrivals)
  | .sendHeartbeat handoff _ => runSendAckStats socket (queue ++ socket.arrivals) input handoff result

end ClientHeartbeatLoopOneTickRuntimeBoundary

end StreamSync
