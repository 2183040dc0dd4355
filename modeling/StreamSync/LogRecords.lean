import StreamSync.JsonLines
import StreamSync.RttOffset
import StreamSync.ServerRuntime

namespace StreamSync

open JsonString LineText

inductive ServerReceiveRejectionReason where
  | decodeError | unauthenticatedSource | unknownClient | endpointMismatch | runIdMismatch
deriving DecidableEq, Repr

inductive ServerReceiveRejectionDetail where
  | decode (action : ServerDecodeErrorAction) (error : ProtocolError)
  | acceptance (reason : PacketAcceptanceRejectReason)
deriving DecidableEq, Repr

inductive ServerReceiveLoopLogOutcome where
  | accepted | decodeRejected | acceptanceRejected
deriving DecidableEq, Repr

inductive SendLogStage where
  | encode | beforeSocketSend | socketSend
deriving DecidableEq, Repr

inductive ServerSendLogOutcome where
  | success | failure
deriving DecidableEq, Repr

inductive SendFailureKind where
  | encodeFailed | destinationUnavailable | packetTooLarge | socketWouldBlock | socketInterrupted
  | connectionRefused | networkUnreachable | permissionDenied | otherSocketError
deriving DecidableEq, Repr

inductive SendFailureDisposition where
  | retryCandidate | dropCandidate | warningCandidate
deriving DecidableEq, Repr

inductive ServerReceiveSendRuntimeBoundedReceiveOutcomeKind where
  | acceptedPacket | rejectedPacket | timedOut | receiveFailed | stopped
deriving DecidableEq, Repr

inductive ServerReceiveSendRuntimeBoundedAuthOutcomeKind where
  | notAuth | accepted | rejected
deriving DecidableEq, Repr

inductive ServerReceiveSendRuntimeBoundedSendOutcomeKind where
  | notSent | sent | failed
deriving DecidableEq, Repr

section Names

def receiveRejectionMessageTypeName : MessageType → String
  | .authRequest => "AuthRequest"
  | .authResponse => "AuthResponse"
  | .heartbeat => "Heartbeat"
  | .heartbeatAck => "HeartbeatAck"
  | .videoFrame => "VideoFrame"
  | .clientStats => "ClientStats"
  | .serverNotice => "ServerNotice"
  | .videoFrameFragment => "VideoFrameFragment"

def receiveLoopLogOutcomeName : ServerReceiveLoopLogOutcome → String
  | .accepted => "Accepted"
  | .decodeRejected => "DecodeRejected"
  | .acceptanceRejected => "AcceptanceRejected"

def sendLogStageName : SendLogStage → String
  | .encode => "Encode"
  | .beforeSocketSend => "BeforeSocketSend"
  | .socketSend => "SocketSend"

def sendLogOutcomeName : ServerSendLogOutcome → String
  | .success => "Success"
  | .failure => "Failure"

def sendFailureKindName : SendFailureKind → String
  | .encodeFailed => "EncodeFailed"
  | .destinationUnavailable => "DestinationUnavailable"
  | .packetTooLarge => "PacketTooLarge"
  | .socketWouldBlock => "SocketWouldBlock"
  | .socketInterrupted => "SocketInterrupted"
  | .connectionRefused => "ConnectionRefused"
  | .networkUnreachable => "NetworkUnreachable"
  | .permissionDenied => "PermissionDenied"
  | .otherSocketError => "OtherSocketError"

def sendFailureDispositionName : SendFailureDisposition → String
  | .retryCandidate => "RetryCandidate"
  | .dropCandidate => "DropCandidate"
  | .warningCandidate => "WarningCandidate"

def receiveSendRuntimeBoundedReceiveOutcomeKindName :
    ServerReceiveSendRuntimeBoundedReceiveOutcomeKind → String
  | .acceptedPacket => "AcceptedPacket"
  | .rejectedPacket => "RejectedPacket"
  | .timedOut => "TimedOut"
  | .receiveFailed => "ReceiveFailed"
  | .stopped => "Stopped"

def receiveSendRuntimeBoundedAuthOutcomeKindName : ServerReceiveSendRuntimeBoundedAuthOutcomeKind → String
  | .notAuth => "NotAuth"
  | .accepted => "Accepted"
  | .rejected => "Rejected"

def receiveSendRuntimeBoundedSendOutcomeKindName : ServerReceiveSendRuntimeBoundedSendOutcomeKind → String
  | .notSent => "NotSent"
  | .sent => "Sent"
  | .failed => "Failed"

/-- The error kinds that the log knows by name. -/
def namedErrorKinds : List String :=
  ["NotFound", "PermissionDenied", "ConnectionRefused", "ConnectionReset", "ConnectionAborted", "NotConnected",
    "AddrInUse", "AddrNotAvailable", "BrokenPipe", "AlreadyExists", "InvalidInput", "InvalidData", "WriteZero",
    "Interrupted", "UnexpectedEof"]

def ioErrorKindName : IoErrorKind → String
  | .wouldBlock => "WouldBlock"
  | .timedOut => "TimedOut"
  | .other name => if name ∈ namedErrorKinds then name else "Other"

def receiveRejectionReasonName : ServerReceiveRejectionReason → String
  | .decodeError => "DecodeError"
  | .unauthenticatedSource => "UnauthenticatedSource"
  | .unknownClient => "UnknownClient"
  | .endpointMismatch => "EndpointMismatch"
  | .runIdMismatch => "RunIdMismatch"

def packetAcceptanceRejectReasonName : PacketAcceptanceRejectReason → String
  | .unauthenticatedSource => "UnauthenticatedSource"
  | .unknownClient => "UnknownClient"
  | .endpointMismatch => "EndpointMismatch"
  | .runIdMismatch => "RunIdMismatch"

def authResponseReasonCodeName : AuthResponseReasonCode → String
  | .ok => "Ok"
  | .invalidToken => "InvalidToken"
  | .unknownClient => "UnknownClient"
  | .protocolMismatch => "ProtocolMismatch"
  | .alreadyConnected => "AlreadyConnected"
  | .internalError => "InternalError"

end Names

/-- How the standard library shows what the log does not spell out itself. -/
structure LogFormats where
  address : SocketAddr → String
  action : ServerDecodeErrorAction → String
  error : ProtocolError → String

structure ServerReceiveSendRuntimeBoundedIterationJsonLogEventInput where
  eventType : String
  commandName : String
  iterationIndex : Nat
  receiveOutcomeKind : ServerReceiveSendRuntimeBoundedReceiveOutcomeKind
  acceptedPacketKind : Option MessageType
  authOutcomeKind : ServerReceiveSendRuntimeBoundedAuthOutcomeKind
  rejectionKind : Option ServerReceiveRejectionReason
  sendOutcomeKind : ServerReceiveSendRuntimeBoundedSendOutcomeKind
  sentMessageKind : Option MessageType
  receiveError : Option IoErrorKind
  sendError : Option String

structure ServerReceiveLoopJsonLogEventInput where
  eventName : String
  source : PacketSource
  outcome : ServerReceiveLoopLogOutcome
  packetLen : Nat
  messageType : Option MessageType
  clientId : Option ClientId
  rejectionReason : Option ServerReceiveRejectionReason
  timestamp : TimestampMicros

structure ServerReceiveRejectionJsonLogEventInput where
  eventName : String
  runId : Option RunId
  clientId : Option ClientId
  source : PacketSource
  messageType : Option MessageType
  rejectionReason : ServerReceiveRejectionReason
  detail : ServerReceiveRejectionDetail
  timestamp : TimestampMicros

structure ServerSendJsonLogEventInput where
  eventName : String
  outcome : ServerSendLogOutcome
  runId : Option RunId
  clientId : Option ClientId
  destination : PacketSource
  messageType : MessageType
  stage : SendLogStage
  encodedLen : Option Nat
  bytesSent : Option Nat
  failure : Option SendFailureKind
  disposition : Option SendFailureDisposition
  timestamp : TimestampMicros

structure ServerSendErrorJsonLogEventInput where
  eventName : String
  runId : Option RunId
  clientId : Option ClientId
  destination : PacketSource
  messageType : MessageType
  stage : SendLogStage
  encodedLen : Option Nat
  failure : SendFailureKind
  disposition : SendFailureDisposition
  timestamp : TimestampMicros

structure ServerAuthJsonLogEventInput where
  eventName : String
  runId : RunId
  clientId : ClientId
  source : PacketSource
  accepted : Bool
  reasonCode : AuthResponseReasonCode
  message : Option String
  appVersion : Option AppVersion
  protocolVersion : ProtocolVersion
  timestamp : TimestampMicros
  expectedProtocolVersion : Option ProtocolVersion

structure ServerHeartbeatTimeoutJsonLogEventInput where
  eventName : String
  source : PacketSource
  clientId : ClientId
  runId : RunId
  protocolVersion : ProtocolVersion
  lastServerReceivedAt : TimestampMicros
  evaluatedAt : TimestampMicros
  elapsedMicros : UInt64
  timeoutAfterMicros : UInt64
  registryInvalidationPlanned : Bool
  noticePlanned : Bool

structure ServerHeartbeatRttOffsetRejectedCandidateJsonLogEventInput where
  eventName : String
  clientId : ClientId
  runId : RunId
  candidate : HeartbeatRttOffsetEstimate
  reason : ServerHeartbeatRttOffsetOutlierReason
  stateCommitSkipped : Bool
  observedAt : TimestampMicros

structure RejectedCandidateReasonJsonFields where
  name : String
  previousMicros : Int
  candidateMicros : Int
  deltaMicros : UInt64
  maxDeltaMicros : UInt64

def rejectedCandidateReasonFields :
    ServerHeartbeatRttOffsetOutlierReason → RejectedCandidateReasonJsonFields
  | .rttDeltaExceeded previousMicros candidateMicros deltaMicros maxDeltaMicros =>
    ⟨"RttDeltaExceeded", previousMicros.toNat, candidateMicros.toNat, deltaMicros, maxDeltaMicros⟩
  | .clockOffsetDeltaExceeded previousMicros candidateMicros deltaMicros maxDeltaMicros =>
    ⟨"ClockOffsetDeltaExceeded", previousMicros.toInt, candidateMicros.toInt, deltaMicros, maxDeltaMicros⟩

section Fields

variable (formats : LogFormats)

def ServerReceiveSendRuntimeBoundedIterationJsonLogEventInput.fields
    (event : ServerReceiveSendRuntimeBoundedIterationJsonLogEventInput) : List LogField :=
  [.text (.mk "event_type") event.eventType,
    .text (.mk "command_name") event.commandName,
    .number (.mk "iteration_index") event.iterationIndex,
    .text (.mk "receive_outcome_kind")
      (receiveSendRuntimeBoundedReceiveOutcomeKindName event.receiveOutcomeKind),
    .optionalText (.mk "accepted_packet_kind") (event.acceptedPacketKind.map receiveRejectionMessageTypeName),
    .text (.mk "auth_outcome_kind") (receiveSendRuntimeBoundedAuthOutcomeKindName event.authOutcomeKind),
    .optionalText (.mk "rejection_kind") (event.rejectionKind.map receiveRejectionReasonName),
    .text (.mk "send_outcome_kind") (receiveSendRuntimeBoundedSendOutcomeKindName event.sendOutcomeKind),
    .optionalText (.mk "sent_message_kind") (event.sentMessageKind.map receiveRejectionMessageTypeName),
    .optionalText (.mk "receive_error") (event.receiveError.map ioErrorKindName),
    .optionalText (.mk "send_error") event.sendError]

def ServerReceiveLoopJsonLogEventInput.fields (event : ServerReceiveLoopJsonLogEventInput) : List LogField :=
  [.text (.mk "event_name") event.eventName,
    .text (.mk "source") (formats.address event.source.address),
    .text (.mk "outcome") (receiveLoopLogOutcomeName event.outcome),
    .number (.mk "packet_len") event.packetLen,
    .optionalText (.mk "message_type") (event.messageType.map receiveRejectionMessageTypeName),
    .optionalText (.mk "client_id") event.clientId,
    .optionalText (.mk "rejection_reason") (event.rejectionReason.map receiveRejectionReasonName),
    .number (.mk "timestamp") event.timestamp.toNat]

/-- `write_receive_rejection_detail`, as the object it writes. -/
def receiveRejectionDetail : ServerReceiveRejectionDetail → List (LogKey × String)
  | .decode action error =>
    [((.mk "kind"), "Decode"), ((.mk "action"), formats.action action), ((.mk "error"), formats.error error)]
  | .acceptance reason => [((.mk "kind"), "Acceptance"), ((.mk "reason"), packetAcceptanceRejectReasonName reason)]

def ServerReceiveRejectionJsonLogEventInput.fields (event : ServerReceiveRejectionJsonLogEventInput) :
    List LogField :=
  [.text (.mk "event_name") event.eventName,
    .optionalText (.mk "run_id") event.runId,
    .optionalText (.mk "client_id") event.clientId,
    .text (.mk "source") (formats.address event.source.address),
    .optionalText (.mk "message_type") (event.messageType.map receiveRejectionMessageTypeName),
    .text (.mk "rejection_reason") (receiveRejectionReasonName event.rejectionReason),
    .detail (.mk "detail") (receiveRejectionDetail formats event.detail),
    .number (.mk "timestamp") event.timestamp.toNat]

def ServerSendJsonLogEventInput.fields (event : ServerSendJsonLogEventInput) : List LogField :=
  [.text (.mk "event_name") event.eventName,
    .text (.mk "outcome") (sendLogOutcomeName event.outcome),
    .optionalText (.mk "run_id") event.runId,
    .optionalText (.mk "client_id") event.clientId,
    .text (.mk "destination") (formats.address event.destination.address),
    .text (.mk "message_type") (receiveRejectionMessageTypeName event.messageType),
    .text (.mk "stage") (sendLogStageName event.stage),
    .optionalNumber (.mk "encoded_len") event.encodedLen,
    .optionalNumber (.mk "bytes_sent") event.bytesSent,
    .optionalText (.mk "failure") (event.failure.map sendFailureKindName),
    .optionalText (.mk "disposition") (event.disposition.map sendFailureDispositionName),
    .number (.mk "timestamp") event.timestamp.toNat]

def ServerSendErrorJsonLogEventInput.fields (event : ServerSendErrorJsonLogEventInput) : List LogField :=
  [.text (.mk "event_name") event.eventName,
    .optionalText (.mk "run_id") event.runId,
    .optionalText (.mk "client_id") event.clientId,
    .text (.mk "destination") (formats.address event.destination.address),
    .text (.mk "message_type") (receiveRejectionMessageTypeName event.messageType),
    .text (.mk "stage") (sendLogStageName event.stage),
    .optionalNumber (.mk "encoded_len") event.encodedLen,
    .text (.mk "failure") (sendFailureKindName event.failure),
    .text (.mk "disposition") (sendFailureDispositionName event.disposition),
    .number (.mk "timestamp") event.timestamp.toNat]

def ServerAuthJsonLogEventInput.fields (event : ServerAuthJsonLogEventInput) : List LogField :=
  [.text (.mk "event_name") event.eventName,
    .text (.mk "run_id") event.runId,
    .text (.mk "client_id") event.clientId,
    .text (.mk "source") (formats.address event.source.address),
    .flag (.mk "accepted") event.accepted,
    .text (.mk "reason_code") (authResponseReasonCodeName event.reasonCode),
    .optionalText (.mk "message") event.message,
    .optionalText (.mk "app_version") event.appVersion,
    .number (.mk "protocol_version") event.protocolVersion.toNat,
    .number (.mk "timestamp") event.timestamp.toNat,
    .optionalNumber (.mk "expected_protocol_version") (event.expectedProtocolVersion.map UInt32.toNat)]

def ServerHeartbeatTimeoutJsonLogEventInput.fields (event : ServerHeartbeatTimeoutJsonLogEventInput) :
    List LogField :=
  [.text (.mk "event_name") event.eventName,
    .text (.mk "source") (formats.address event.source.address),
    .text (.mk "client_id") event.clientId,
    .text (.mk "run_id") event.runId,
    .number (.mk "protocol_version") event.protocolVersion.toNat,
    .number (.mk "last_server_received_at") event.lastServerReceivedAt.toNat,
    .number (.mk "evaluated_at") event.evaluatedAt.toNat,
    .number (.mk "elapsed_micros") event.elapsedMicros.toNat,
    .number (.mk "timeout_after_micros") event.timeoutAfterMicros.toNat,
    .flag (.mk "registry_invalidation_planned") event.registryInvalidationPlanned,
    .flag (.mk "notice_planned") event.noticePlanned]

def ServerHeartbeatRttOffsetRejectedCandidateJsonLogEventInput.fields
    (event : ServerHeartbeatRttOffsetRejectedCandidateJsonLogEventInput) : List LogField :=
  let reason := rejectedCandidateReasonFields event.reason
  [.text (.mk "event_name") event.eventName,
    .text (.mk "client_id") event.clientId,
    .text (.mk "run_id") event.runId,
    .number (.mk "candidate_rtt_micros") event.candidate.rttMicros.toNat,
    .number (.mk "candidate_server_processing_micros") event.candidate.serverProcessingMicros.toNat,
    .number (.mk "candidate_clock_offset_micros") event.candidate.clockOffsetMicros.toInt,
    .text (.mk "reject_reason") reason.name,
    .number (.mk "reason_previous_micros") reason.previousMicros,
    .number (.mk "reason_candidate_micros") reason.candidateMicros,
    .number (.mk "reason_delta_micros") reason.deltaMicros.toNat,
    .number (.mk "reason_max_delta_micros") reason.maxDeltaMicros.toNat,
    .flag (.mk "state_commit_skipped") event.stateCommitSkipped,
    .number (.mk "observed_at") event.observedAt.toNat]

end Fields

/-- The events that the server's JSON Lines writers take. -/
inductive ServerLogEvent where
  | iteration (event : ServerReceiveSendRuntimeBoundedIterationJsonLogEventInput)
  | receiveLoop (event : ServerReceiveLoopJsonLogEventInput)
  | receiveRejection (event : ServerReceiveRejectionJsonLogEventInput)
  | send (event : ServerSendJsonLogEventInput)
  | sendError (event : ServerSendErrorJsonLogEventInput)
  | auth (event : ServerAuthJsonLogEventInput)
  | heartbeatTimeout (event : ServerHeartbeatTimeoutJsonLogEventInput)
  | rejectedCandidate (event : ServerHeartbeatRttOffsetRejectedCandidateJsonLogEventInput)

def ServerLogEvent.fields (formats : LogFormats) : ServerLogEvent → List LogField
  | .iteration event => event.fields
  | .receiveLoop event => event.fields formats
  | .receiveRejection event => event.fields formats
  | .send event => event.fields formats
  | .sendError event => event.fields formats
  | .auth event => event.fields formats
  | .heartbeatTimeout event => event.fields formats
  | .rejectedCandidate event => event.fields

/-- `write_event` of the writer that takes the event. -/
def ServerLogEvent.write (formats : LogFormats) (event : ServerLogEvent) : List Char :=
  writeRecord (event.fields formats)

/-- Every string is written as a literal that reads back, whatever text follows; no raw control character is
written; and whatever events are logged, the log has one line for each. -/
theorem log_lines_are_records (formats : LogFormats) :
    (∀ (value : String) (rest : List Char),
      readLiteral (writeJsonString value ++ rest) = some (value.toList, rest)) ∧
    (∀ value : String, Printable (writeJsonString value)) ∧
    ∀ events : List ServerLogEvent,
      lines (events.flatMap (ServerLogEvent.write formats)) =
        events.map fun event => recordText (event.fields formats) := by
  refine ⟨readLiteral_writeJsonString, printable_writeJsonString, fun events => ?_⟩
  have hrecords := lines_writeRecords (events.map (ServerLogEvent.fields formats))
  rw [List.flatMap_map, List.map_map] at hrecords
  exact hrecords

end StreamSync
