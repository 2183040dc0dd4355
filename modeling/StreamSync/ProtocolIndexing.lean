import StreamSync.Lib.RawReader
import StreamSync.ProtocolDecode

namespace StreamSync

open ByteCursor

def rawReadU8 (packet : List UInt8) (offset : Nat) : Option UInt8 := packet[offset]?

def rawReadU16Le (packet : List UInt8) (offset : Nat) : Option UInt16 :=
  (indexBytes packet offset 2).map u16FromLe

def rawReadU32Le (packet : List UInt8) (offset : Nat) : Option UInt32 :=
  (indexBytes packet offset 4).map u32FromLe

def rawReadU64Le (packet : List UInt8) (offset : Nat) : Option UInt64 :=
  (indexBytes packet offset 8).map u64FromLe

/-- `decode_fixed_header` as it indexes the packet: `none` is a panic on a read out of bounds. -/
def rawDecodeFixedHeader (packet : List UInt8) : Option (Except ProtocolError PacketView) := do
  if packet.length < fixedHeaderLen.toNat then
    some (.error .bufferTooShort)
  else
    let messageCode ← rawReadU16Le packet 0
    match MessageType.tryFrom messageCode with
    | .error e => some (.error e)
    | .ok messageType =>
      let headerLength ← rawReadU16Le packet 2
      if headerLength ≠ fixedHeaderLen then
        some (.error (.invalidHeaderLength headerLength))
      else
        let protocolVersion ← rawReadU32Le packet 4
        let payloadLength ← rawReadU32Le packet 8
        let flags ← rawReadU16Le packet 12
        let reserved ← rawReadU16Le packet 14
        if packet.length ≠ fixedHeaderLen.toNat + payloadLength.toNat then
          some (.error (.invalidPayloadLength payloadLength (packet.length - fixedHeaderLen.toNat)))
        else do
          let payload ← sliceBytes packet fixedHeaderLen.toNat packet.length
          some (.ok {
            header := { messageType, headerLength, protocolVersion, payloadLength, flags, reserved }
            payload })

/-- The source's reader: a borrowed payload and an offset that the methods move by hand. -/
abbrev RawPayloadReader (α : Type) := RawReader ProtocolError α

namespace RawPayloadReader

/-- `ensure_available`, the reads behind it, and the offset moved on. -/
def available {α : Type} (len : Nat) (f : List UInt8 → Nat → Option α) : RawPayloadReader α :=
  RawReader.guarded PayloadReader.payloadLengthError len f

def finish : RawPayloadReader Unit := RawReader.finish PayloadReader.payloadLengthError

def readU8 : RawPayloadReader UInt8 := available 1 rawReadU8
def readU16 : RawPayloadReader UInt16 := available 2 rawReadU16Le
def readU32 : RawPayloadReader UInt32 := available 4 rawReadU32Le
def readU64 : RawPayloadReader UInt64 := available 8 rawReadU64Le

def readBool : RawPayloadReader Bool := do
  let value ← readU8
  MonadExcept.ofExcept (PayloadReader.boolOfByte value)

def readArray3 : RawPayloadReader (Vector UInt8 3) :=
  available 3 fun payload offset => do
    let first ← payload[offset]?
    let second ← payload[offset + 1]?
    let third ← payload[offset + 2]?
    some #v[first, second, third]

def readExactBytes (len : Nat) : RawPayloadReader (List UInt8) :=
  available len fun payload offset => sliceBytes payload offset (offset + len)

def readString : RawPayloadReader String := do
  let byteLen ← readU16
  let bytes ← readExactBytes byteLen.toNat
  MonadExcept.ofExcept (fromUtf8 bytes)

def readOptional {α : Type} (readValue : RawPayloadReader α) : RawPayloadReader (Option α) := do
  let present ← readU8
  match present with
  | 0 => pure none
  | 1 => do
    let value ← readValue
    pure (some value)
  | actual => throw (.invalidOptionalTag actual)

def readOptionalString : RawPayloadReader (Option String) := readOptional readString
def readOptionalU64 : RawPayloadReader (Option UInt64) := readOptional readU64
def readOptionalU32 : RawPayloadReader (Option UInt32) := readOptional readU32

def readHeartbeatObservation (clientId : ClientId) (runId : RunId) :
    RawPayloadReader HeartbeatAckObservation := do
  let echoedSentAt ← readU64
  let serverReceivedAt ← readU64
  let serverSentAt ← readU64
  let clientReceivedAt ← readU64
  pure { clientId, runId, echoedSentAt, serverReceivedAt, serverSentAt, clientReceivedAt }

def readOptionalHeartbeatObservation (clientId : ClientId) (runId : RunId) :
    RawPayloadReader (Option HeartbeatAckObservation) :=
  readOptional (readHeartbeatObservation clientId runId)

def readSizedPayload : RawPayloadReader (Nat × List UInt8) := do
  let size ← readU32
  let payload ← readExactBytes size.toNat
  pure (size.toNat, payload)

def readMetadataReserved : RawPayloadReader (Vector UInt8 3) := do
  let metadataReserved ← readArray3
  if metadataReserved = Vector.replicate 3 0 then pure metadataReserved
  else throw (.invalidMetadataReserved metadataReserved)

/-! The fields of each payload, in the order its decoder reads them. -/

def authRequestFields (header : FixedHeader) : RawPayloadReader AuthRequest := do
  let clientId ← readString
  let runId ← readString
  let appVersion ← readString
  let sharedToken ← readString
  let displayName ← readOptionalString
  finish
  pure {
    messageType := .authRequest
    protocolVersion := header.protocolVersion
    clientId, runId, appVersion, sharedToken, displayName
    capabilities := []
    requestedVideoProfile := none }

def authResponseFields (header : FixedHeader) : RawPayloadReader AuthResponse := do
  let clientId ← readString
  let runId ← readString
  let accepted ← readBool
  let reasonCode ← (do
    let value ← readU16
    MonadExcept.ofExcept (AuthResponseReasonCode.tryFrom value))
  let message ← readOptionalString
  let serverTime ← readOptionalU64
  let expectedProtocolVersion ← readOptionalU32
  finish
  pure {
    messageType := .authResponse
    protocolVersion := header.protocolVersion
    clientId, runId, accepted, reasonCode, message, serverTime, expectedProtocolVersion }

def heartbeatFields (header : FixedHeader) : RawPayloadReader Heartbeat := do
  let clientId ← readString
  let runId ← readString
  let sentAt ← readU64
  let localTime ← readOptionalU64
  let shortStatus ← readOptionalString
  finish
  pure {
    messageType := .heartbeat
    protocolVersion := header.protocolVersion
    clientId, runId, sentAt, localTime, shortStatus }

def heartbeatAckFields (header : FixedHeader) : RawPayloadReader HeartbeatAck := do
  let clientId ← readString
  let runId ← readString
  let echoedSentAt ← readU64
  let serverReceivedAt ← readU64
  let serverSentAt ← readU64
  finish
  pure {
    messageType := .heartbeatAck
    protocolVersion := header.protocolVersion
    clientId, runId, echoedSentAt, serverReceivedAt, serverSentAt }

def videoFrameFields (header : FixedHeader) : RawPayloadReader VideoFrame := do
  let clientId ← readString
  let runId ← readString
  let frameId ← readU64
  let captureTimestamp ← readU64
  let sendTimestamp ← readU64
  let isKeyframe ← readBool
  let metadataReserved ← readMetadataReserved
  let width ← readU32
  let height ← readU32
  let fpsNominal ← readU32
  let codec ← (do
    let value ← readU16
    MonadExcept.ofExcept (Codec.tryFrom value))
  let sized ← readSizedPayload
  finish
  pure {
    messageType := .videoFrame
    protocolVersion := header.protocolVersion
    clientId, runId, frameId, captureTimestamp, sendTimestamp, isKeyframe, metadataReserved
    width, height, fpsNominal, codec
    payloadSize := sized.1
    payload := sized.2 }

def videoFrameFragmentFields (header : FixedHeader) : RawPayloadReader VideoFrameFragment := do
  let clientId ← readString
  let runId ← readString
  let frameId ← readU64
  let captureTimestamp ← readU64
  let isKeyframe ← readBool
  let width ← readU32
  let height ← readU32
  let fpsNominal ← readU32
  let totalPayloadLen ← readU32
  let chunkIndex ← readU32
  let chunkCount ← readU32
  let sized ← readSizedPayload
  finish
  pure {
    messageType := .videoFrameFragment
    protocolVersion := header.protocolVersion
    clientId, runId, frameId, captureTimestamp, isKeyframe, width, height, fpsNominal
    totalPayloadLen, chunkIndex, chunkCount
    chunkPayloadLen := sized.1
    chunkPayload := sized.2 }

def clientStatsFields (header : FixedHeader) : RawPayloadReader ClientStats := do
  let clientId ← readString
  let runId ← readString
  let sentAt ← readU64
  let captureFps ← readU32
  let droppedFrames ← readU64
  let bitrateKbps ← readU32
  let heartbeatObservation ← readOptionalHeartbeatObservation clientId runId
  finish
  pure {
    messageType := .clientStats
    protocolVersion := header.protocolVersion
    clientId, runId, sentAt, captureFps, droppedFrames, bitrateKbps, heartbeatObservation }

def serverNoticeFields (header : FixedHeader) : RawPayloadReader ServerNotice := do
  let runId ← readString
  let noticeType ← (do
    let value ← readU16
    MonadExcept.ofExcept (NoticeType.tryFrom value))
  let message ← readString
  finish
  pure {
    messageType := .serverNotice
    protocolVersion := header.protocolVersion
    runId, noticeType, message }

/-! Each reader does what its bounded counterpart does. -/

theorem available_simulates {α : Type} {len : Nat} {f : List UInt8 → Nat → Option α}
    (g : {bytes : List UInt8 // bytes.length = len} → α)
    (hf : ∀ (buffer : List UInt8) (offset : Nat) (bytes : {bytes : List UInt8 // bytes.length = len}),
      offset + len ≤ buffer.length → bytes.1 = (buffer.drop offset).take len →
        f buffer offset = some (g bytes)) :
    Simulates (available len f) (PayloadReader.takeAvailable len >>= fun bytes => pure (g bytes)) :=
  simulates_guarded g hf

theorem readU8_simulates : Simulates readU8 PayloadReader.readU8 := by
  refine available_simulates _ ?_
  rintro buffer offset ⟨bytes, hlen⟩ h rfl
  have hoffset : offset < buffer.length := by omega
  simp only [rawReadU8, List.drop_eq_getElem_cons hoffset, List.take_succ_cons, List.head_cons,
    List.getElem?_eq_getElem hoffset]

/-- A little-endian number is read out of exactly the bytes that its check covers. -/
theorem readLe_simulates {α : Type} {len : Nat} (fromLe : List UInt8 → α) :
    Simulates (available len fun packet offset => (indexBytes packet offset len).map fromLe)
      (PayloadReader.takeAvailable len >>= fun bytes => pure (fromLe bytes.1)) := by
  refine available_simulates _ ?_
  rintro buffer offset ⟨bytes, hlen⟩ h rfl
  simp only [indexBytes_eq h, Option.map_some]

theorem readU16_simulates : Simulates readU16 PayloadReader.readU16 := readLe_simulates u16FromLe
theorem readU32_simulates : Simulates readU32 PayloadReader.readU32 := readLe_simulates u32FromLe
theorem readU64_simulates : Simulates readU64 PayloadReader.readU64 := readLe_simulates u64FromLe

theorem readBool_simulates : Simulates readBool PayloadReader.readBool :=
  readU8_simulates.bind fun _ => simulates_ofExcept _

theorem readArray3_simulates : Simulates readArray3 PayloadReader.readArray3 := by
  refine available_simulates _ ?_
  rintro buffer offset ⟨bytes, hlen⟩ h rfl
  obtain ⟨first, second, third, hbytes⟩ := List.length_eq_three.mp hlen
  have hget : ∀ i, i < 3 → buffer[offset + i]? = ([first, second, third] : List UInt8)[i]? := by
    intro i hi
    rw [← hbytes, List.getElem?_take_of_lt hi, List.getElem?_drop]
  have h0 : buffer[offset]? = some first := hget 0 (by omega)
  have h1 : buffer[offset + 1]? = some second := hget 1 (by omega)
  have h2 : buffer[offset + 2]? = some third := hget 2 (by omega)
  simp only [h0, h1, h2, hbytes, bind, Option.bind]

theorem readExactBytes_simulates (len : Nat) :
    Simulates (readExactBytes len) (PayloadReader.readExactBytes len) := by
  refine available_simulates _ ?_
  rintro buffer offset ⟨bytes, hlen⟩ h rfl
  exact sliceBytes_eq h

theorem readString_simulates : Simulates readString PayloadReader.readString := by
  have hassoc : PayloadReader.readString = (do
      let byteLen ← PayloadReader.readU16
      let bytes ← PayloadReader.readExactBytes byteLen.toNat
      liftM (fromUtf8 bytes)) := bind_assoc _ _ _
  rw [hassoc]
  exact readU16_simulates.bind fun _ => (readExactBytes_simulates _).bind fun _ => simulates_ofExcept _

theorem readOptional_simulates {α : Type} {raw : RawPayloadReader α} {p : PayloadReader α}
    (h : Simulates raw p) : Simulates (readOptional raw) (PayloadReader.readOptional p) := by
  refine readU8_simulates.bind fun present => ?_
  rcases eq_or_ne present 0 with rfl | hnone
  · exact simulates_pure none
  rcases eq_or_ne present 1 with rfl | hsome
  · exact h.bind fun value => simulates_pure (some value)
  · -- the two dispatches on the tag may or may not be one and the same
    repeat' split
    all_goals first | contradiction | exact simulates_throw _

theorem readHeartbeatObservation_simulates (clientId : ClientId) (runId : RunId) :
    Simulates (readHeartbeatObservation clientId runId)
      (PayloadReader.readHeartbeatObservation clientId runId) :=
  readU64_simulates.bind fun _ => readU64_simulates.bind fun _ => readU64_simulates.bind fun _ =>
    readU64_simulates.bind fun _ => simulates_pure _

theorem readSizedPayload_simulates : Simulates readSizedPayload PayloadReader.readSizedPayload :=
  readU32_simulates.bind fun _ => (readExactBytes_simulates _).bind fun _ => simulates_pure _

theorem readMetadataReserved_simulates :
    Simulates readMetadataReserved PayloadReader.readMetadataReserved := by
  refine readArray3_simulates.bind fun reserved => ?_
  split
  next => exact simulates_pure reserved
  next => exact simulates_throw _

theorem finish_simulates : Simulates finish PayloadReader.finish := simulates_finish _

end RawPayloadReader

/-- The two checks every payload decoder makes before it reads its fields by hand. -/
def rawDecodePayloadWith {α : Type} (messageType : MessageType) (header : FixedHeader)
    (payload : List UInt8) (fields : RawPayloadReader α) : Option (Except ProtocolError α) :=
  if header.messageType ≠ messageType then
    some (.error (.unexpectedMessageType messageType header.messageType))
  else if payload.length ≠ header.payloadLength.toNat then
    some (.error (.invalidPayloadLength header.payloadLength payload.length))
  else fields.decode payload

def rawDecodeAuthRequestPayload (header : FixedHeader) (payload : List UInt8) :=
  rawDecodePayloadWith .authRequest header payload (RawPayloadReader.authRequestFields header)

def rawDecodeAuthResponsePayload (header : FixedHeader) (payload : List UInt8) :=
  rawDecodePayloadWith .authResponse header payload (RawPayloadReader.authResponseFields header)

def rawDecodeHeartbeatPayload (header : FixedHeader) (payload : List UInt8) :=
  rawDecodePayloadWith .heartbeat header payload (RawPayloadReader.heartbeatFields header)

def rawDecodeHeartbeatAckPayload (header : FixedHeader) (payload : List UInt8) :=
  rawDecodePayloadWith .heartbeatAck header payload (RawPayloadReader.heartbeatAckFields header)

def rawDecodeVideoFramePayload (header : FixedHeader) (payload : List UInt8) :=
  rawDecodePayloadWith .videoFrame header payload (RawPayloadReader.videoFrameFields header)

def rawDecodeVideoFrameFragmentPayload (header : FixedHeader) (payload : List UInt8) :=
  rawDecodePayloadWith .videoFrameFragment header payload (RawPayloadReader.videoFrameFragmentFields header)

def rawDecodeClientStatsPayload (header : FixedHeader) (payload : List UInt8) :=
  rawDecodePayloadWith .clientStats header payload (RawPayloadReader.clientStatsFields header)

def rawDecodeServerNoticePayload (header : FixedHeader) (payload : List UInt8) :=
  rawDecodePayloadWith .serverNotice header payload (RawPayloadReader.serverNoticeFields header)

/-- The decoder the header chooses, and its message. -/
def rawDecodePayloadByMessageType (_context : DecodeContext) (header : FixedHeader)
    (payload : List UInt8) : Option (Except ProtocolError ProtocolMessage) :=
  match header.messageType with
  | .authRequest => (rawDecodeAuthRequestPayload header payload).map (·.map .authRequest)
  | .authResponse => (rawDecodeAuthResponsePayload header payload).map (·.map .authResponse)
  | .heartbeat => (rawDecodeHeartbeatPayload header payload).map (·.map .heartbeat)
  | .heartbeatAck => (rawDecodeHeartbeatAckPayload header payload).map (·.map .heartbeatAck)
  | .videoFrame => (rawDecodeVideoFramePayload header payload).map (·.map .videoFrame)
  | .videoFrameFragment => (rawDecodeVideoFrameFragmentPayload header payload).map (·.map .videoFrameFragment)
  | .clientStats => (rawDecodeClientStatsPayload header payload).map (·.map .clientStats)
  | .serverNotice => (rawDecodeServerNoticePayload header payload).map (·.map .serverNotice)

/-- `decodePacket` with every access to the packet made by hand. -/
def rawDecodePacket (context : DecodeContext) (packet : List UInt8) :
    Option (Except ProtocolError ProtocolMessage) := do
  match ← rawDecodeFixedHeader packet with
  | .error e => some (.error e)
  | .ok packetView =>
    match validateProtocolVersion context packetView.header with
    | .error e => some (.error e)
    | .ok () => rawDecodePayloadByMessageType context packetView.header packetView.payload

section Decoders

open RawPayloadReader

theorem rawDecodePayloadWith_eq {α : Type} {messageType : MessageType} {header : FixedHeader}
    {payload : List UInt8} {fields : RawPayloadReader α} {p : PayloadReader α}
    (h : Simulates fields p) : rawDecodePayloadWith messageType header payload fields =
      some (decodePayloadWith messageType header payload p) := by
  unfold rawDecodePayloadWith decodePayloadWith
  split
  next => rfl
  next =>
    split
    next => rfl
    next => exact h.decode payload

theorem readOptionalString_simulates : Simulates readOptionalString PayloadReader.readOptionalString :=
  readOptional_simulates readString_simulates

theorem readOptionalU64_simulates : Simulates readOptionalU64 PayloadReader.readOptionalU64 :=
  readOptional_simulates readU64_simulates

theorem readOptionalU32_simulates : Simulates readOptionalU32 PayloadReader.readOptionalU32 :=
  readOptional_simulates readU32_simulates

/-- A number that names a constructor. -/
theorem readCode_simulates {α : Type} (tryFrom : UInt16 → Except ProtocolError α) :
    Simulates (readU16 >>= fun value => MonadExcept.ofExcept (tryFrom value))
      (PayloadReader.readU16 >>= fun value => liftM (tryFrom value)) :=
  readU16_simulates.bind fun _ => simulates_ofExcept _

/-- The end check and the value behind it, as every payload decoder closes. -/
theorem finished_simulates {α : Type} (a : α) :
    Simulates (finish >>= fun _ => pure a) (PayloadReader.finish >>= fun _ => pure a) :=
  finish_simulates.bind fun _ => simulates_pure a

theorem rawDecodeAuthRequestPayload_eq (header : FixedHeader) (payload : List UInt8) :
    rawDecodeAuthRequestPayload header payload = some (decodeAuthRequestPayload header payload) :=
  rawDecodePayloadWith_eq <|
    readString_simulates.bind fun _ => readString_simulates.bind fun _ =>
    readString_simulates.bind fun _ => readString_simulates.bind fun _ =>
    readOptionalString_simulates.bind fun _ => finished_simulates _

theorem rawDecodeAuthResponsePayload_eq (header : FixedHeader) (payload : List UInt8) :
    rawDecodeAuthResponsePayload header payload = some (decodeAuthResponsePayload header payload) :=
  rawDecodePayloadWith_eq <|
    readString_simulates.bind fun _ => readString_simulates.bind fun _ =>
    readBool_simulates.bind fun _ => (readCode_simulates _).bind fun _ =>
    readOptionalString_simulates.bind fun _ => readOptionalU64_simulates.bind fun _ =>
    readOptionalU32_simulates.bind fun _ => finished_simulates _

theorem rawDecodeHeartbeatPayload_eq (header : FixedHeader) (payload : List UInt8) :
    rawDecodeHeartbeatPayload header payload = some (decodeHeartbeatPayload header payload) :=
  rawDecodePayloadWith_eq <|
    readString_simulates.bind fun _ => readString_simulates.bind fun _ =>
    readU64_simulates.bind fun _ => readOptionalU64_simulates.bind fun _ =>
    readOptionalString_simulates.bind fun _ => finished_simulates _

theorem rawDecodeHeartbeatAckPayload_eq (header : FixedHeader) (payload : List UInt8) :
    rawDecodeHeartbeatAckPayload header payload = some (decodeHeartbeatAckPayload header payload) :=
  rawDecodePayloadWith_eq <|
    readString_simulates.bind fun _ => readString_simulates.bind fun _ =>
    readU64_simulates.bind fun _ => readU64_simulates.bind fun _ =>
    readU64_simulates.bind fun _ => finished_simulates _

theorem rawDecodeVideoFramePayload_eq (header : FixedHeader) (payload : List UInt8) :
    rawDecodeVideoFramePayload header payload = some (decodeVideoFramePayload header payload) :=
  rawDecodePayloadWith_eq <|
    readString_simulates.bind fun _ => readString_simulates.bind fun _ =>
    readU64_simulates.bind fun _ => readU64_simulates.bind fun _ => readU64_simulates.bind fun _ =>
    readBool_simulates.bind fun _ => readMetadataReserved_simulates.bind fun _ =>
    readU32_simulates.bind fun _ => readU32_simulates.bind fun _ => readU32_simulates.bind fun _ =>
    (readCode_simulates _).bind fun _ => readSizedPayload_simulates.bind fun _ => finished_simulates _

theorem rawDecodeVideoFrameFragmentPayload_eq (header : FixedHeader) (payload : List UInt8) :
    rawDecodeVideoFrameFragmentPayload header payload =
      some (decodeVideoFrameFragmentPayload header payload) :=
  rawDecodePayloadWith_eq <|
    readString_simulates.bind fun _ => readString_simulates.bind fun _ =>
    readU64_simulates.bind fun _ => readU64_simulates.bind fun _ => readBool_simulates.bind fun _ =>
    readU32_simulates.bind fun _ => readU32_simulates.bind fun _ => readU32_simulates.bind fun _ =>
    readU32_simulates.bind fun _ => readU32_simulates.bind fun _ => readU32_simulates.bind fun _ =>
    readSizedPayload_simulates.bind fun _ => finished_simulates _

theorem rawDecodeClientStatsPayload_eq (header : FixedHeader) (payload : List UInt8) :
    rawDecodeClientStatsPayload header payload = some (decodeClientStatsPayload header payload) :=
  rawDecodePayloadWith_eq <|
    readString_simulates.bind fun _ => readString_simulates.bind fun _ =>
    readU64_simulates.bind fun _ => readU32_simulates.bind fun _ => readU64_simulates.bind fun _ =>
    readU32_simulates.bind fun _ =>
    (readOptional_simulates (readHeartbeatObservation_simulates _ _)).bind fun _ => finished_simulates _

theorem rawDecodeServerNoticePayload_eq (header : FixedHeader) (payload : List UInt8) :
    rawDecodeServerNoticePayload header payload = some (decodeServerNoticePayload header payload) :=
  rawDecodePayloadWith_eq <|
    readString_simulates.bind fun _ => (readCode_simulates _).bind fun _ =>
    readString_simulates.bind fun _ => finished_simulates _

end Decoders

theorem rawDecodePayloadByMessageType_eq (context : DecodeContext) (header : FixedHeader)
    (payload : List UInt8) : rawDecodePayloadByMessageType context header payload =
      some (decodePayloadByMessageType context header payload) := by
  unfold rawDecodePayloadByMessageType decodePayloadByMessageType
  cases header.messageType with
  | authRequest => exact congrArg (Option.map _) (rawDecodeAuthRequestPayload_eq header payload)
  | authResponse => exact congrArg (Option.map _) (rawDecodeAuthResponsePayload_eq header payload)
  | heartbeat => exact congrArg (Option.map _) (rawDecodeHeartbeatPayload_eq header payload)
  | heartbeatAck => exact congrArg (Option.map _) (rawDecodeHeartbeatAckPayload_eq header payload)
  | videoFrame => exact congrArg (Option.map _) (rawDecodeVideoFramePayload_eq header payload)
  | videoFrameFragment => exact congrArg (Option.map _) (rawDecodeVideoFrameFragmentPayload_eq header payload)
  | clientStats => exact congrArg (Option.map _) (rawDecodeClientStatsPayload_eq header payload)
  | serverNotice => exact congrArg (Option.map _) (rawDecodeServerNoticePayload_eq header payload)

theorem rawReadU16Le_eq {packet : List UInt8} {offset : Nat} (h : offset + 2 ≤ packet.length) :
    rawReadU16Le packet offset = some (readU16Le packet offset) := by
  rw [rawReadU16Le, indexBytes_eq h]
  rfl

theorem rawReadU32Le_eq {packet : List UInt8} {offset : Nat} (h : offset + 4 ≤ packet.length) :
    rawReadU32Le packet offset = some (readU32Le packet offset) := by
  rw [rawReadU32Le, indexBytes_eq h]
  rfl

/-- The length check comes first and covers all sixteen header bytes. -/
theorem rawDecodeFixedHeader_eq (packet : List UInt8) :
    rawDecodeFixedHeader packet = some (decodeFixedHeader packet) := by
  unfold rawDecodeFixedHeader decodeFixedHeader
  split
  next => rfl
  next hlong =>
    change ¬packet.length < 16 at hlong
    have hslice : sliceBytes packet fixedHeaderLen.toNat packet.length =
        some (packet.drop fixedHeaderLen.toNat) := by
      change sliceBytes packet 16 packet.length = some (packet.drop 16)
      rw [sliceBytes, if_pos ⟨by omega, le_rfl⟩, ← List.length_drop, List.take_length]
    rw [rawReadU16Le_eq (by omega), rawReadU16Le_eq (by omega), rawReadU32Le_eq (by omega),
      rawReadU32Le_eq (by omega), rawReadU16Le_eq (by omega), rawReadU16Le_eq (by omega), hslice]
    simp only [bind, Option.bind]
    cases MessageType.tryFrom (readU16Le packet 0) with
    | error e => rfl
    | ok messageType =>
      simp only [Except.bind]
      split
      next => rfl
      next =>
        split
        next => rfl
        next => rfl

/-- Decoding a packet indexes nothing out of bounds. -/
theorem rawDecodePacket_eq (context : DecodeContext) (packet : List UInt8) :
    rawDecodePacket context packet = some (decodePacket context packet) := by
  unfold rawDecodePacket decodePacket
  rw [rawDecodeFixedHeader_eq]
  simp only [bind, Option.bind]
  cases decodeFixedHeader packet with
  | error e => rfl
  | ok packetView =>
    simp only [Except.bind]
    cases validateProtocolVersion context packetView.header with
    | error e => rfl
    | ok _ => exact rawDecodePayloadByMessageType_eq context packetView.header packetView.payload

end StreamSync
