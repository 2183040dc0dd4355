import StreamSync.ProtocolLayout

namespace StreamSync

open ByteCursor

structure EncodeContext where
  protocolVersion : ProtocolVersion
deriving DecidableEq, Repr

/-- Appends to the payload under construction; an error drops what was written so far. -/
abbrev PayloadWriter := ByteWriter ProtocolError Unit

def writeString (value : String) : PayloadWriter :=
  if (asBytes value).length < 2 ^ 16 then do
    extend (u16ToLe (UInt16.ofNat (asBytes value).length))
    extend (asBytes value)
  else throw (.payloadStringTooLong (asBytes value).length)

def writeBool (value : Bool) : PayloadWriter := extend [boolByte value]

def writeOptionalString : Option String → PayloadWriter
  | some value => do
    extend [1]
    writeString value
  | none => extend [0]

def writeOptionalU64 : Option UInt64 → PayloadWriter
  | some value => do
    extend [1]
    extend (u64ToLe value)
  | none => extend [0]

def writeOptionalProtocolVersion : Option ProtocolVersion → PayloadWriter
  | some value => do
    extend [1]
    extend (u32ToLe value)
  | none => extend [0]

/-- `u32::try_from` of a byte count, with the error the encoders give it. -/
def tryU32Len (len : Nat) : Except ProtocolError UInt32 :=
  if len < 2 ^ 32 then .ok (UInt32.ofNat len) else .error (.invalidPayloadLength 4294967295 len)

def encodeFixedHeader (messageType : MessageType) (protocolVersion : ProtocolVersion)
    (payloadLength : UInt32) (output : List UInt8) : List UInt8 :=
  output ++ (u16ToLe messageType.wireCode ++ (u16ToLe fixedHeaderLen ++ (u32ToLe protocolVersion ++
    (u32ToLe payloadLength ++ (u16ToLe 0 ++ u16ToLe 0)))))

def encodeAuthRequestPayload (request : AuthRequest) : PayloadWriter := do
  writeString request.clientId
  writeString request.runId
  writeString request.appVersion
  writeString request.sharedToken
  writeOptionalString request.displayName

def encodeAuthResponsePayload (response : AuthResponse) : PayloadWriter := do
  writeString response.clientId
  writeString response.runId
  writeBool response.accepted
  extend (u16ToLe response.reasonCode.wireCode)
  writeOptionalString response.message
  writeOptionalU64 response.serverTime
  writeOptionalProtocolVersion response.expectedProtocolVersion

def encodeHeartbeatPayload (heartbeat : Heartbeat) : PayloadWriter := do
  writeString heartbeat.clientId
  writeString heartbeat.runId
  extend (u64ToLe heartbeat.sentAt)
  writeOptionalU64 heartbeat.localTime
  writeOptionalString heartbeat.shortStatus

def encodeHeartbeatAckPayload (ack : HeartbeatAck) : PayloadWriter := do
  writeString ack.clientId
  writeString ack.runId
  extend (u64ToLe ack.echoedSentAt)
  extend (u64ToLe ack.serverReceivedAt)
  extend (u64ToLe ack.serverSentAt)

/-- The byte count of a video payload as a `u32`, which the declared size must agree with. -/
def checkedPayloadSize (declared : Nat) (payload : List UInt8) : Except ProtocolError UInt32 := do
  let payloadSize ← tryU32Len payload.length
  if declared ≠ payload.length then .error (.invalidPayloadLength payloadSize declared)
  else .ok payloadSize

def encodeVideoFramePayload (frame : VideoFrame) : PayloadWriter :=
  if frame.metadataReserved ≠ Vector.replicate 3 0 then
    throw (.invalidMetadataReserved frame.metadataReserved)
  else do
    let payloadSize ← checkedPayloadSize frame.payloadSize frame.payload
    writeString frame.clientId
    writeString frame.runId
    extend (u64ToLe frame.frameId)
    extend (u64ToLe frame.captureTimestamp)
    extend (u64ToLe frame.sendTimestamp)
    writeBool frame.isKeyframe
    extend frame.metadataReserved.toList
    extend (u32ToLe frame.width)
    extend (u32ToLe frame.height)
    extend (u32ToLe frame.fpsNominal)
    extend (u16ToLe frame.codec.wireCode)
    extend (u32ToLe payloadSize)
    extend frame.payload

def encodeVideoFrameFragmentPayload (fragment : VideoFrameFragment) : PayloadWriter := do
  let chunkPayloadLen ← checkedPayloadSize fragment.chunkPayloadLen fragment.chunkPayload
  writeString fragment.clientId
  writeString fragment.runId
  extend (u64ToLe fragment.frameId)
  extend (u64ToLe fragment.captureTimestamp)
  writeBool fragment.isKeyframe
  extend (u32ToLe fragment.width)
  extend (u32ToLe fragment.height)
  extend (u32ToLe fragment.fpsNominal)
  extend (u32ToLe fragment.totalPayloadLen)
  extend (u32ToLe fragment.chunkIndex)
  extend (u32ToLe fragment.chunkCount)
  extend (u32ToLe chunkPayloadLen)
  extend fragment.chunkPayload

def writeHeartbeatObservation : Option HeartbeatAckObservation → PayloadWriter
  | some observation => do
    extend [1]
    extend (u64ToLe observation.echoedSentAt)
    extend (u64ToLe observation.serverReceivedAt)
    extend (u64ToLe observation.serverSentAt)
    extend (u64ToLe observation.clientReceivedAt)
  | none => extend [0]

def encodeClientStatsPayload (stats : ClientStats) : PayloadWriter := do
  writeString stats.clientId
  writeString stats.runId
  extend (u64ToLe stats.sentAt)
  extend (u32ToLe stats.captureFps)
  extend (u64ToLe stats.droppedFrames)
  extend (u32ToLe stats.bitrateKbps)
  writeHeartbeatObservation stats.heartbeatObservation

def encodeServerNoticePayload (notice : ServerNotice) : PayloadWriter := do
  writeString notice.runId
  extend (u16ToLe notice.noticeType.wireCode)
  writeString notice.message

/-- Payload into a fresh buffer, its length as a `u32`, then header and payload behind the output. -/
def encodePacketWith (messageType : MessageType) (encodePayload : PayloadWriter)
    (context : EncodeContext) (output : List UInt8) : Except ProtocolError (List UInt8) := do
  let (_, payload) ← encodePayload.run []
  let payloadLength ← tryU32Len payload.length
  .ok (encodeFixedHeader messageType context.protocolVersion payloadLength output ++ payload)

def encodeAuthRequest (context : EncodeContext) (request : AuthRequest) :=
  encodePacketWith .authRequest (encodeAuthRequestPayload request) context

def encodeAuthResponse (context : EncodeContext) (response : AuthResponse) :=
  encodePacketWith .authResponse (encodeAuthResponsePayload response) context

def encodeHeartbeat (context : EncodeContext) (heartbeat : Heartbeat) :=
  encodePacketWith .heartbeat (encodeHeartbeatPayload heartbeat) context

def encodeHeartbeatAck (context : EncodeContext) (ack : HeartbeatAck) :=
  encodePacketWith .heartbeatAck (encodeHeartbeatAckPayload ack) context

def encodeVideoFrame (context : EncodeContext) (frame : VideoFrame) :=
  encodePacketWith .videoFrame (encodeVideoFramePayload frame) context

def encodeVideoFrameFragment (context : EncodeContext) (fragment : VideoFrameFragment) :=
  encodePacketWith .videoFrameFragment (encodeVideoFrameFragmentPayload fragment) context

def encodeClientStats (context : EncodeContext) (stats : ClientStats) :=
  encodePacketWith .clientStats (encodeClientStatsPayload stats) context

def encodeServerNotice (context : EncodeContext) (notice : ServerNotice) :=
  encodePacketWith .serverNotice (encodeServerNoticePayload notice) context

/-- `ProtocolMessageEncoderBoundary::encode_message`. -/
def encodeMessage (context : EncodeContext) (message : ProtocolMessage) (output : List UInt8) :
    Except ProtocolError (List UInt8) :=
  match message with
  | .authRequest request => encodeAuthRequest context request output
  | .authResponse response => encodeAuthResponse context response output
  | .heartbeat heartbeat => encodeHeartbeat context heartbeat output
  | .heartbeatAck ack => encodeHeartbeatAck context ack output
  | .videoFrame frame => encodeVideoFrame context frame output
  | .videoFrameFragment fragment => encodeVideoFrameFragment context fragment output
  | .clientStats stats => encodeClientStats context stats output
  | .serverNotice notice => encodeServerNotice context notice output

end StreamSync
