import Mathlib.Data.Nat.Notation

namespace StreamSync

abbrev ClientId := String
abbrev RunId := String
abbrev AppVersion := String
abbrev ProtocolVersion := UInt32
abbrev TimestampMicros := UInt64

/-- Byte length of the fixed packet header. -/
def fixedHeaderLen : UInt16 := 16

/-- Byte length of a string length prefix in a payload. -/
def payloadStringLenPrefixLen : Nat := 2

/-- Wire value of H.264 encoded video. -/
def codecH264WireValue : UInt16 := 1

inductive MessageType where
  | authRequest | authResponse | heartbeat | heartbeatAck
  | videoFrame | clientStats | serverNotice | videoFrameFragment
deriving DecidableEq, Repr

def MessageType.wireCode : MessageType → UInt16
  | .authRequest => 1
  | .authResponse => 2
  | .heartbeat => 3
  | .heartbeatAck => 4
  | .videoFrame => 5
  | .clientStats => 6
  | .serverNotice => 7
  | .videoFrameFragment => 8

inductive AuthResponseReasonCode where
  | ok | invalidToken | unknownClient | protocolMismatch | alreadyConnected | internalError
deriving DecidableEq, Repr

def AuthResponseReasonCode.wireCode : AuthResponseReasonCode → UInt16
  | .ok => 0
  | .invalidToken => 1
  | .unknownClient => 2
  | .protocolMismatch => 3
  | .alreadyConnected => 4
  | .internalError => 5

inductive Codec where
  | h264
deriving DecidableEq, Repr

def Codec.wireCode : Codec → UInt16
  | .h264 => codecH264WireValue

inductive NoticeType where
  | warning | disconnect | protocolError | authExpired | serverShutdown
deriving DecidableEq, Repr

def NoticeType.wireCode : NoticeType → UInt16
  | .warning => 1
  | .disconnect => 2
  | .protocolError => 3
  | .authExpired => 4
  | .serverShutdown => 5

structure AuthRequest where
  messageType : MessageType
  protocolVersion : ProtocolVersion
  clientId : ClientId
  runId : RunId
  appVersion : AppVersion
  sharedToken : String
  displayName : Option String
  capabilities : List String
  requestedVideoProfile : Option String
deriving DecidableEq, Repr

structure AuthResponse where
  messageType : MessageType
  protocolVersion : ProtocolVersion
  clientId : ClientId
  runId : RunId
  accepted : Bool
  reasonCode : AuthResponseReasonCode
  message : Option String
  serverTime : Option TimestampMicros
  expectedProtocolVersion : Option ProtocolVersion
deriving DecidableEq, Repr

structure Heartbeat where
  messageType : MessageType
  protocolVersion : ProtocolVersion
  clientId : ClientId
  runId : RunId
  sentAt : TimestampMicros
  localTime : Option TimestampMicros
  shortStatus : Option String
deriving DecidableEq, Repr

structure HeartbeatAck where
  messageType : MessageType
  protocolVersion : ProtocolVersion
  clientId : ClientId
  runId : RunId
  echoedSentAt : TimestampMicros
  serverReceivedAt : TimestampMicros
  serverSentAt : TimestampMicros
deriving DecidableEq, Repr

/-- What a client observed of one `HeartbeatAck`, reported back inside `ClientStats`. -/
structure HeartbeatAckObservation where
  clientId : ClientId
  runId : RunId
  echoedSentAt : TimestampMicros
  serverReceivedAt : TimestampMicros
  serverSentAt : TimestampMicros
  clientReceivedAt : TimestampMicros
deriving DecidableEq, Repr

structure VideoFrame where
  messageType : MessageType
  protocolVersion : ProtocolVersion
  clientId : ClientId
  runId : RunId
  frameId : UInt64
  captureTimestamp : TimestampMicros
  sendTimestamp : TimestampMicros
  isKeyframe : Bool
  metadataReserved : Vector UInt8 3
  width : UInt32
  height : UInt32
  fpsNominal : UInt32
  codec : Codec
  payloadSize : Nat
  payload : List UInt8
deriving DecidableEq, Repr

structure VideoFrameFragment where
  messageType : MessageType
  protocolVersion : ProtocolVersion
  clientId : ClientId
  runId : RunId
  frameId : UInt64
  captureTimestamp : TimestampMicros
  isKeyframe : Bool
  width : UInt32
  height : UInt32
  fpsNominal : UInt32
  totalPayloadLen : UInt32
  chunkIndex : UInt32
  chunkCount : UInt32
  chunkPayloadLen : Nat
  chunkPayload : List UInt8
deriving DecidableEq, Repr

structure ClientStats where
  messageType : MessageType
  protocolVersion : ProtocolVersion
  clientId : ClientId
  runId : RunId
  sentAt : TimestampMicros
  captureFps : UInt32
  droppedFrames : UInt64
  bitrateKbps : UInt32
  heartbeatObservation : Option HeartbeatAckObservation
deriving DecidableEq, Repr

structure ServerNotice where
  messageType : MessageType
  protocolVersion : ProtocolVersion
  runId : RunId
  noticeType : NoticeType
  message : String
deriving DecidableEq, Repr

inductive ProtocolMessage where
  | authRequest (request : AuthRequest)
  | authResponse (response : AuthResponse)
  | heartbeat (heartbeat : Heartbeat)
  | heartbeatAck (ack : HeartbeatAck)
  | videoFrame (frame : VideoFrame)
  | videoFrameFragment (fragment : VideoFrameFragment)
  | clientStats (stats : ClientStats)
  | serverNotice (notice : ServerNotice)
deriving DecidableEq, Repr

def ProtocolMessage.messageType : ProtocolMessage → MessageType
  | .authRequest _ => .authRequest
  | .authResponse _ => .authResponse
  | .heartbeat _ => .heartbeat
  | .heartbeatAck _ => .heartbeatAck
  | .videoFrame _ => .videoFrame
  | .videoFrameFragment _ => .videoFrameFragment
  | .clientStats _ => .clientStats
  | .serverNotice _ => .serverNotice

inductive ProtocolError where
  | bufferTooShort
  | invalidHeaderLength (actual : UInt16)
  | invalidPayloadLength (expected : UInt32) (actual : Nat)
  | invalidOptionalTag (actual : UInt8)
  | invalidBoolValue (actual : UInt8)
  | invalidMetadataReserved (actual : Vector UInt8 3)
  | invalidUtf8String
  | unsupportedAuthResponseReasonCode (actual : UInt16)
  | unsupportedCodec (actual : UInt16)
  | unsupportedNoticeType (actual : UInt16)
  | unknownMessageType (value : UInt16)
  | unexpectedMessageType (expected actual : MessageType)
  | unsupportedProtocolVersion (expected actual : ProtocolVersion)
  | payloadStringTooLong (actual : Nat)
deriving DecidableEq, Repr

def MessageType.tryFrom (value : UInt16) : Except ProtocolError MessageType :=
  match value with
  | 1 => .ok .authRequest
  | 2 => .ok .authResponse
  | 3 => .ok .heartbeat
  | 4 => .ok .heartbeatAck
  | 5 => .ok .videoFrame
  | 6 => .ok .clientStats
  | 7 => .ok .serverNotice
  | 8 => .ok .videoFrameFragment
  | value => .error (.unknownMessageType value)

def AuthResponseReasonCode.tryFrom (value : UInt16) : Except ProtocolError AuthResponseReasonCode :=
  match value with
  | 0 => .ok .ok
  | 1 => .ok .invalidToken
  | 2 => .ok .unknownClient
  | 3 => .ok .protocolMismatch
  | 4 => .ok .alreadyConnected
  | 5 => .ok .internalError
  | actual => .error (.unsupportedAuthResponseReasonCode actual)

def Codec.tryFrom (value : UInt16) : Except ProtocolError Codec :=
  if value = codecH264WireValue then .ok .h264 else .error (.unsupportedCodec value)

def NoticeType.tryFrom (value : UInt16) : Except ProtocolError NoticeType :=
  match value with
  | 1 => .ok .warning
  | 2 => .ok .disconnect
  | 3 => .ok .protocolError
  | 4 => .ok .authExpired
  | 5 => .ok .serverShutdown
  | actual => .error (.unsupportedNoticeType actual)

theorem MessageType.tryFrom_eq_ok_iff {value : UInt16} {t : MessageType} :
    MessageType.tryFrom value = .ok t ↔ t.wireCode = value := by
  constructor
  · intro h
    unfold MessageType.tryFrom at h
    split at h <;> first | cases h; rfl | cases h
  · rintro rfl
    cases t <;> rfl

theorem AuthResponseReasonCode.tryFrom_eq_ok_iff {value : UInt16} {r : AuthResponseReasonCode} :
    AuthResponseReasonCode.tryFrom value = .ok r ↔ r.wireCode = value := by
  constructor
  · intro h
    unfold AuthResponseReasonCode.tryFrom at h
    split at h <;> first | cases h; rfl | cases h
  · rintro rfl
    cases r <;> rfl

theorem Codec.tryFrom_eq_ok_iff {value : UInt16} {c : Codec} :
    Codec.tryFrom value = .ok c ↔ c.wireCode = value := by
  cases c
  unfold Codec.tryFrom Codec.wireCode
  split
  next h => simp [h]
  next h => simp [Ne.symm h]

theorem NoticeType.tryFrom_eq_ok_iff {value : UInt16} {t : NoticeType} :
    NoticeType.tryFrom value = .ok t ↔ t.wireCode = value := by
  constructor
  · intro h
    unfold NoticeType.tryFrom at h
    split at h <;> first | cases h; rfl | cases h
  · rintro rfl
    cases t <;> rfl

end StreamSync
