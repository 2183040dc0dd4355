import StreamSync.ProtocolLayout

namespace StreamSync

open ByteCursor PayloadReader

structure FixedHeader where
  messageType : MessageType
  headerLength : UInt16
  protocolVersion : ProtocolVersion
  payloadLength : UInt32
  flags : UInt16
  reserved : UInt16
deriving DecidableEq, Repr

structure PacketView where
  header : FixedHeader
  payload : List UInt8
deriving DecidableEq, Repr

structure DecodeContext where
  expectedProtocolVersion : ProtocolVersion
deriving DecidableEq, Repr

def readU16Le (packet : List UInt8) (offset : Nat) : UInt16 := u16FromLe ((packet.drop offset).take 2)
def readU32Le (packet : List UInt8) (offset : Nat) : UInt32 := u32FromLe ((packet.drop offset).take 4)

/-- Parses the sixteen header bytes and splits off the payload, whose length must be exact. -/
def decodeFixedHeader (packet : List UInt8) : Except ProtocolError PacketView := do
  if packet.length < fixedHeaderLen.toNat then
    .error .bufferTooShort
  else
    let messageType ← MessageType.tryFrom (readU16Le packet 0)
    let headerLength := readU16Le packet 2
    if headerLength ≠ fixedHeaderLen then
      .error (.invalidHeaderLength headerLength)
    else
      let protocolVersion := readU32Le packet 4
      let payloadLength := readU32Le packet 8
      let flags := readU16Le packet 12
      let reserved := readU16Le packet 14
      if packet.length ≠ fixedHeaderLen.toNat + payloadLength.toNat then
        .error (.invalidPayloadLength payloadLength (packet.length - fixedHeaderLen.toNat))
      else
        .ok {
          header := { messageType, headerLength, protocolVersion, payloadLength, flags, reserved }
          payload := packet.drop fixedHeaderLen.toNat }

def validateProtocolVersion (context : DecodeContext) (header : FixedHeader) :
    Except ProtocolError Unit :=
  if header.protocolVersion = context.expectedProtocolVersion then .ok ()
  else .error (.unsupportedProtocolVersion context.expectedProtocolVersion header.protocolVersion)

/-- The two checks every payload decoder makes before it reads its fields. -/
def decodePayloadWith {α : Type} (messageType : MessageType) (header : FixedHeader)
    (payload : List UInt8) (reader : PayloadReader α) : Except ProtocolError α :=
  if header.messageType ≠ messageType then
    .error (.unexpectedMessageType messageType header.messageType)
  else if payload.length ≠ header.payloadLength.toNat then
    .error (.invalidPayloadLength header.payloadLength payload.length)
  else reader.run' (Cursor.start payload)

def decodeAuthRequestPayload (header : FixedHeader) (payload : List UInt8) :
    Except ProtocolError AuthRequest :=
  decodePayloadWith .authRequest header payload do
    let clientId ← readString
    let runId ← readString
    let appVersion ← readString
    let sharedToken ← readString
    let displayName ← readOptionalString
    finish
    pure {
      messageType := .authRequest
      protocolVersion := header.protocolVersion
      clientId, runId, appVersion, sharedToken, displayName
      capabilities := []
      requestedVideoProfile := none }

def decodeAuthResponsePayload (header : FixedHeader) (payload : List UInt8) :
    Except ProtocolError AuthResponse :=
  decodePayloadWith .authResponse header payload do
    let clientId ← readString
    let runId ← readString
    let accepted ← readBool
    let reasonCode ← (do
      let value ← readU16
      AuthResponseReasonCode.tryFrom value)
    let message ← readOptionalString
    let serverTime ← readOptionalU64
    let expectedProtocolVersion ← readOptionalU32
    finish
    pure {
      messageType := .authResponse
      protocolVersion := header.protocolVersion
      clientId, runId, accepted, reasonCode, message, serverTime, expectedProtocolVersion }

def decodeHeartbeatPayload (header : FixedHeader) (payload : List UInt8) :
    Except ProtocolError Heartbeat :=
  decodePayloadWith .heartbeat header payload do
    let clientId ← readString
    let runId ← readString
    let sentAt ← readU64
    let localTime ← readOptionalU64
    let shortStatus ← readOptionalString
    finish
    pure {
      messageType := .heartbeat
      protocolVersion := header.protocolVersion
      clientId, runId, sentAt, localTime, shortStatus }

def decodeHeartbeatAckPayload (header : FixedHeader) (payload : List UInt8) :
    Except ProtocolError HeartbeatAck :=
  decodePayloadWith .heartbeatAck header payload do
    let clientId ← readString
    let runId ← readString
    let echoedSentAt ← readU64
    let serverReceivedAt ← readU64
    let serverSentAt ← readU64
    finish
    pure {
      messageType := .heartbeatAck
      protocolVersion := header.protocolVersion
      clientId, runId, echoedSentAt, serverReceivedAt, serverSentAt }

def decodeVideoFramePayload (header : FixedHeader) (payload : List UInt8) :
    Except ProtocolError VideoFrame :=
  decodePayloadWith .videoFrame header payload do
    let clientId ← readString
    let runId ← readString
    let frameId ← readU64
    let captureTimestamp ← readU64
    let sendTimestamp ← readU64
    let isKeyframe ← readBool
    let metadataReserved ← readMetadataReserved
    let width ← readU32
    let height ← readU32
    let fpsNominal ← readU32
    let codec ← (do
      let value ← readU16
      Codec.tryFrom value)
    let sized ← readSizedPayload
    finish
    pure {
      messageType := .videoFrame
      protocolVersion := header.protocolVersion
      clientId, runId, frameId, captureTimestamp, sendTimestamp, isKeyframe, metadataReserved
      width, height, fpsNominal, codec
      payloadSize := sized.1
      payload := sized.2 }

def decodeVideoFrameFragmentPayload (header : FixedHeader) (payload : List UInt8) :
    Except ProtocolError VideoFrameFragment :=
  decodePayloadWith .videoFrameFragment header payload do
    let clientId ← readString
    let runId ← readString
    let frameId ← readU64
    let captureTimestamp ← readU64
    let isKeyframe ← readBool
    let width ← readU32
    let height ← readU32
    let fpsNominal ← readU32
    let totalPayloadLen ← readU32
    let chunkIndex ← readU32
    let chunkCount ← readU32
    let sized ← readSizedPayload
    finish
    pure {
      messageType := .videoFrameFragment
      protocolVersion := header.protocolVersion
      clientId, runId, frameId, captureTimestamp, isKeyframe, width, height, fpsNominal
      totalPayloadLen, chunkIndex, chunkCount
      chunkPayloadLen := sized.1
      chunkPayload := sized.2 }

def decodeClientStatsPayload (header : FixedHeader) (payload : List UInt8) :
    Except ProtocolError ClientStats :=
  decodePayloadWith .clientStats header payload do
    let clientId ← readString
    let runId ← readString
    let sentAt ← readU64
    let captureFps ← readU32
    let droppedFrames ← readU64
    let bitrateKbps ← readU32
    let heartbeatObservation ← readOptionalHeartbeatObservation clientId runId
    finish
    pure {
      messageType := .clientStats
      protocolVersion := header.protocolVersion
      clientId, runId, sentAt, captureFps, droppedFrames, bitrateKbps, heartbeatObservation }

def decodeServerNoticePayload (header : FixedHeader) (payload : List UInt8) :
    Except ProtocolError ServerNotice :=
  decodePayloadWith .serverNotice header payload do
    let runId ← readString
    let noticeType ← (do
      let value ← readU16
      NoticeType.tryFrom value)
    let message ← readString
    finish
    pure {
      messageType := .serverNotice
      protocolVersion := header.protocolVersion
      runId, noticeType, message }

/-- Chooses the payload decoder by the header alone; the context is not looked at again. -/
def decodePayloadByMessageType (_context : DecodeContext) (header : FixedHeader)
    (payload : List UInt8) : Except ProtocolError ProtocolMessage :=
  match header.messageType with
  | .authRequest => (decodeAuthRequestPayload header payload).map .authRequest
  | .authResponse => (decodeAuthResponsePayload header payload).map .authResponse
  | .heartbeat => (decodeHeartbeatPayload header payload).map .heartbeat
  | .heartbeatAck => (decodeHeartbeatAckPayload header payload).map .heartbeatAck
  | .videoFrame => (decodeVideoFramePayload header payload).map .videoFrame
  | .videoFrameFragment => (decodeVideoFrameFragmentPayload header payload).map .videoFrameFragment
  | .clientStats => (decodeClientStatsPayload header payload).map .clientStats
  | .serverNotice => (decodeServerNoticePayload header payload).map .serverNotice

/-- Header, version and payload in the order the receive side runs them. -/
def decodePacket (context : DecodeContext) (packet : List UInt8) : Except ProtocolError ProtocolMessage := do
  let packetView ← decodeFixedHeader packet
  validateProtocolVersion context packetView.header
  decodePayloadByMessageType context packetView.header packetView.payload

end StreamSync
