import StreamSync.Lib.VecWriter
import StreamSync.ProtocolRoundTrip

namespace StreamSync

open ByteCursor

/-- An encoder as the source writes it: into a buffer of the caller, field after field. -/
abbrev BufferWriter := VecWriter ProtocolError Unit

namespace BufferWriter

open VecWriter

def writeString (value : String) : BufferWriter :=
  if (asBytes value).length < 2 ^ 16 then do
    extendFromSlice (u16ToLe (UInt16.ofNat (asBytes value).length))
    extendFromSlice (asBytes value)
  else throw (.payloadStringTooLong (asBytes value).length)

def writeBool (value : Bool) : BufferWriter := extendFromSlice [boolByte value]

def writeOptionalString : Option String → BufferWriter
  | some value => do
    extendFromSlice [1]
    writeString value
  | none => extendFromSlice [0]

def writeOptionalU64 : Option UInt64 → BufferWriter
  | some value => do
    extendFromSlice [1]
    extendFromSlice (u64ToLe value)
  | none => extendFromSlice [0]

def writeOptionalProtocolVersion : Option ProtocolVersion → BufferWriter
  | some value => do
    extendFromSlice [1]
    extendFromSlice (u32ToLe value)
  | none => extendFromSlice [0]

def encodeFixedHeader (messageType : MessageType) (protocolVersion : ProtocolVersion)
    (payloadLength : UInt32) : BufferWriter := do
  extendFromSlice (u16ToLe messageType.wireCode)
  extendFromSlice (u16ToLe fixedHeaderLen)
  extendFromSlice (u32ToLe protocolVersion)
  extendFromSlice (u32ToLe payloadLength)
  extendFromSlice (u16ToLe 0)
  extendFromSlice (u16ToLe 0)

def encodeAuthRequestPayload (request : AuthRequest) : BufferWriter := do
  writeString request.clientId
  writeString request.runId
  writeString request.appVersion
  writeString request.sharedToken
  writeOptionalString request.displayName

def encodeAuthResponsePayload (response : AuthResponse) : BufferWriter := do
  writeString response.clientId
  writeString response.runId
  writeBool response.accepted
  extendFromSlice (u16ToLe response.reasonCode.wireCode)
  writeOptionalString response.message
  writeOptionalU64 response.serverTime
  writeOptionalProtocolVersion response.expectedProtocolVersion

def encodeHeartbeatPayload (heartbeat : Heartbeat) : BufferWriter := do
  writeString heartbeat.clientId
  writeString heartbeat.runId
  extendFromSlice (u64ToLe heartbeat.sentAt)
  writeOptionalU64 heartbeat.localTime
  writeOptionalString heartbeat.shortStatus

def encodeHeartbeatAckPayload (ack : HeartbeatAck) : BufferWriter := do
  writeString ack.clientId
  writeString ack.runId
  extendFromSlice (u64ToLe ack.echoedSentAt)
  extendFromSlice (u64ToLe ack.serverReceivedAt)
  extendFromSlice (u64ToLe ack.serverSentAt)

def encodeVideoFramePayload (frame : VideoFrame) : BufferWriter :=
  if frame.metadataReserved ≠ Vector.replicate 3 0 then
    throw (.invalidMetadataReserved frame.metadataReserved)
  else do
    let payloadSize ← MonadExcept.ofExcept (checkedPayloadSize frame.payloadSize frame.payload)
    writeString frame.clientId
    writeString frame.runId
    extendFromSlice (u64ToLe frame.frameId)
    extendFromSlice (u64ToLe frame.captureTimestamp)
    extendFromSlice (u64ToLe frame.sendTimestamp)
    writeBool frame.isKeyframe
    extendFromSlice frame.metadataReserved.toList
    extendFromSlice (u32ToLe frame.width)
    extendFromSlice (u32ToLe frame.height)
    extendFromSlice (u32ToLe frame.fpsNominal)
    extendFromSlice (u16ToLe frame.codec.wireCode)
    extendFromSlice (u32ToLe payloadSize)
    extendFromSlice frame.payload

def encodeVideoFrameFragmentPayload (fragment : VideoFrameFragment) : BufferWriter := do
  let chunkPayloadLen ← MonadExcept.ofExcept
    (checkedPayloadSize fragment.chunkPayloadLen fragment.chunkPayload)
  writeString fragment.clientId
  writeString fragment.runId
  extendFromSlice (u64ToLe fragment.frameId)
  extendFromSlice (u64ToLe fragment.captureTimestamp)
  writeBool fragment.isKeyframe
  extendFromSlice (u32ToLe fragment.width)
  extendFromSlice (u32ToLe fragment.height)
  extendFromSlice (u32ToLe fragment.fpsNominal)
  extendFromSlice (u32ToLe fragment.totalPayloadLen)
  extendFromSlice (u32ToLe fragment.chunkIndex)
  extendFromSlice (u32ToLe fragment.chunkCount)
  extendFromSlice (u32ToLe chunkPayloadLen)
  extendFromSlice fragment.chunkPayload

def writeHeartbeatObservation : Option HeartbeatAckObservation → BufferWriter
  | some observation => do
    extendFromSlice [1]
    extendFromSlice (u64ToLe observation.echoedSentAt)
    extendFromSlice (u64ToLe observation.serverReceivedAt)
    extendFromSlice (u64ToLe observation.serverSentAt)
    extendFromSlice (u64ToLe observation.clientReceivedAt)
  | none => extendFromSlice [0]

def encodeClientStatsPayload (stats : ClientStats) : BufferWriter := do
  writeString stats.clientId
  writeString stats.runId
  extendFromSlice (u64ToLe stats.sentAt)
  extendFromSlice (u32ToLe stats.captureFps)
  extendFromSlice (u64ToLe stats.droppedFrames)
  extendFromSlice (u32ToLe stats.bitrateKbps)
  writeHeartbeatObservation stats.heartbeatObservation

def encodeServerNoticePayload (notice : ServerNotice) : BufferWriter := do
  writeString notice.runId
  extendFromSlice (u16ToLe notice.noticeType.wireCode)
  writeString notice.message

/-- Payload into a new buffer, its length as a `u32`, then header and payload into the output. -/
def encodePacketWith (messageType : MessageType) (encodePayload : BufferWriter)
    (context : EncodeContext) : BufferWriter := do
  let payload ← intoNew encodePayload
  let payloadLength ← MonadExcept.ofExcept (tryU32Len payload.length)
  encodeFixedHeader messageType context.protocolVersion payloadLength
  extendFromSlice payload

def encodeAuthRequest (context : EncodeContext) (request : AuthRequest) : BufferWriter :=
  encodePacketWith .authRequest (encodeAuthRequestPayload request) context

def encodeAuthResponse (context : EncodeContext) (response : AuthResponse) : BufferWriter :=
  encodePacketWith .authResponse (encodeAuthResponsePayload response) context

def encodeHeartbeat (context : EncodeContext) (heartbeat : Heartbeat) : BufferWriter :=
  encodePacketWith .heartbeat (encodeHeartbeatPayload heartbeat) context

def encodeHeartbeatAck (context : EncodeContext) (ack : HeartbeatAck) : BufferWriter :=
  encodePacketWith .heartbeatAck (encodeHeartbeatAckPayload ack) context

def encodeVideoFrame (context : EncodeContext) (frame : VideoFrame) : BufferWriter :=
  encodePacketWith .videoFrame (encodeVideoFramePayload frame) context

def encodeVideoFrameFragment (context : EncodeContext) (fragment : VideoFrameFragment) : BufferWriter :=
  encodePacketWith .videoFrameFragment (encodeVideoFrameFragmentPayload fragment) context

def encodeClientStats (context : EncodeContext) (stats : ClientStats) : BufferWriter :=
  encodePacketWith .clientStats (encodeClientStatsPayload stats) context

def encodeServerNotice (context : EncodeContext) (notice : ServerNotice) : BufferWriter :=
  encodePacketWith .serverNotice (encodeServerNoticePayload notice) context

def encodeMessage (context : EncodeContext) : ProtocolMessage → BufferWriter
  | .authRequest request => encodeAuthRequest context request
  | .authResponse response => encodeAuthResponse context response
  | .heartbeat heartbeat => encodeHeartbeat context heartbeat
  | .heartbeatAck ack => encodeHeartbeatAck context ack
  | .videoFrame frame => encodeVideoFrame context frame
  | .videoFrameFragment fragment => encodeVideoFrameFragment context fragment
  | .clientStats stats => encodeClientStats context stats
  | .serverNotice notice => encodeServerNotice context notice

end BufferWriter

/-- The strings an encoder writes with a sixteen-bit length. -/
def ProtocolMessage.strings : ProtocolMessage → List String
  | .authRequest r => [r.clientId, r.runId, r.appVersion, r.sharedToken] ++ r.displayName.toList
  | .authResponse r => [r.clientId, r.runId] ++ r.message.toList
  | .heartbeat h => [h.clientId, h.runId] ++ h.shortStatus.toList
  | .heartbeatAck a => [a.clientId, a.runId]
  | .videoFrame f => [f.clientId, f.runId]
  | .videoFrameFragment f => [f.clientId, f.runId]
  | .clientStats s => [s.clientId, s.runId]
  | .serverNotice n => [n.runId, n.message]

/-- The declared size and the bytes of a video payload. -/
def ProtocolMessage.sizedPayload : ProtocolMessage → Option (Nat × List UInt8)
  | .videoFrame f => some (f.payloadSize, f.payload)
  | .videoFrameFragment f => some (f.chunkPayloadLen, f.chunkPayload)
  | _ => none

/-- What can be wrong with a message, and the error that says so. -/
inductive EncodeRejects (m : ProtocolMessage) : ProtocolError → Prop
  | stringTooLong {value : String} (hmem : value ∈ m.strings) (h : 65535 < (asBytes value).length) :
      EncodeRejects m (.payloadStringTooLong (asBytes value).length)
  | reservedNotZero {frame : VideoFrame} (hm : m = .videoFrame frame)
      (h : frame.metadataReserved ≠ Vector.replicate 3 0) :
      EncodeRejects m (.invalidMetadataReserved frame.metadataReserved)
  | sizeMismatch {declared : Nat} {payload : List UInt8} (hm : m.sizedPayload = some (declared, payload))
      (h : declared ≠ payload.length) :
      EncodeRejects m (.invalidPayloadLength (UInt32.ofNat payload.length) declared)
  | videoTooLong {declared : Nat} {payload : List UInt8} (hm : m.sizedPayload = some (declared, payload))
      (h : 2 ^ 32 ≤ payload.length) :
      EncodeRejects m (.invalidPayloadLength 4294967295 payload.length)
  | payloadTooLong {payload : List UInt8} (hm : Layout.cat m.layout = some payload)
      (h : 2 ^ 32 ≤ payload.length) :
      EncodeRejects m (.invalidPayloadLength 4294967295 payload.length)

section Follows

variable {m : ProtocolMessage}

theorem writeString_follows {value : String} (hmem : value ∈ m.strings) :
    Follows (EncodeRejects m) (BufferWriter.writeString value) (writeString value) := by
  unfold BufferWriter.writeString writeString
  split
  next => exact (follows_extend _).seq (follows_extend _)
  next hlong => exact follows_throw (.stringTooLong hmem (by omega))

theorem writeOptionalString_follows {value : Option String} (hmem : ∀ s ∈ value, s ∈ m.strings) :
    Follows (EncodeRejects m) (BufferWriter.writeOptionalString value) (writeOptionalString value) := by
  cases value with
  | none => exact follows_extend [0]
  | some value => exact (follows_extend [1]).seq (writeString_follows (hmem value rfl))

theorem writeOptionalU64_follows (value : Option UInt64) :
    Follows (EncodeRejects m) (BufferWriter.writeOptionalU64 value) (writeOptionalU64 value) := by
  cases value with
  | none => exact follows_extend [0]
  | some value => exact (follows_extend [1]).seq (follows_extend _)

theorem writeOptionalProtocolVersion_follows (value : Option ProtocolVersion) :
    Follows (EncodeRejects m) (BufferWriter.writeOptionalProtocolVersion value)
      (writeOptionalProtocolVersion value) := by
  cases value with
  | none => exact follows_extend [0]
  | some value => exact (follows_extend [1]).seq (follows_extend _)

theorem writeHeartbeatObservation_follows (observation : Option HeartbeatAckObservation) :
    Follows (EncodeRejects m) (BufferWriter.writeHeartbeatObservation observation)
      (writeHeartbeatObservation observation) := by
  cases observation with
  | none => exact follows_extend [0]
  | some o =>
    exact (follows_extend [1]).seq <| (follows_extend _).seq <| (follows_extend _).seq <|
      (follows_extend _).seq (follows_extend _)

/-- The size check rejects a video payload for its length or for what it is declared to be. -/
theorem checkedPayloadSize_rejects {declared : Nat} {payload : List UInt8} {e : ProtocolError}
    (hm : m.sizedPayload = some (declared, payload)) (h : checkedPayloadSize declared payload = .error e) :
    EncodeRejects m e := by
  unfold checkedPayloadSize tryU32Len at h
  by_cases hlength : payload.length < 2 ^ 32
  · rw [if_pos hlength] at h
    change (if declared ≠ payload.length then _ else _) = _ at h
    split at h
    next hdeclared =>
      cases h
      exact .sizeMismatch hm hdeclared
    next => cases h
  · rw [if_neg hlength] at h
    cases h
    exact .videoTooLong hm (by omega)

theorem encodeAuthRequestPayload_follows (r : AuthRequest) : Follows (EncodeRejects (.authRequest r))
    (BufferWriter.encodeAuthRequestPayload r) (encodeAuthRequestPayload r) :=
  (writeString_follows (by simp [ProtocolMessage.strings])).seq <|
  (writeString_follows (by simp [ProtocolMessage.strings])).seq <|
  (writeString_follows (by simp [ProtocolMessage.strings])).seq <|
  (writeString_follows (by simp [ProtocolMessage.strings])).seq <|
  writeOptionalString_follows fun _ hs => by simp [ProtocolMessage.strings, Option.mem_def.mp hs]

theorem encodeAuthResponsePayload_follows (r : AuthResponse) : Follows (EncodeRejects (.authResponse r))
    (BufferWriter.encodeAuthResponsePayload r) (encodeAuthResponsePayload r) :=
  (writeString_follows (by simp [ProtocolMessage.strings])).seq <|
  (writeString_follows (by simp [ProtocolMessage.strings])).seq <|
  (follows_extend _).seq <| (follows_extend _).seq <|
  (writeOptionalString_follows fun _ hs => by simp [ProtocolMessage.strings, Option.mem_def.mp hs]).seq <|
  (writeOptionalU64_follows _).seq <| writeOptionalProtocolVersion_follows _

theorem encodeHeartbeatPayload_follows (h : Heartbeat) : Follows (EncodeRejects (.heartbeat h))
    (BufferWriter.encodeHeartbeatPayload h) (encodeHeartbeatPayload h) :=
  (writeString_follows (by simp [ProtocolMessage.strings])).seq <|
  (writeString_follows (by simp [ProtocolMessage.strings])).seq <|
  (follows_extend _).seq <| (writeOptionalU64_follows _).seq <|
  writeOptionalString_follows fun _ hs => by simp [ProtocolMessage.strings, Option.mem_def.mp hs]

theorem encodeHeartbeatAckPayload_follows (a : HeartbeatAck) : Follows (EncodeRejects (.heartbeatAck a))
    (BufferWriter.encodeHeartbeatAckPayload a) (encodeHeartbeatAckPayload a) :=
  (writeString_follows (by simp [ProtocolMessage.strings])).seq <|
  (writeString_follows (by simp [ProtocolMessage.strings])).seq <|
  (follows_extend _).seq <| (follows_extend _).seq <| follows_extend _

theorem encodeVideoFramePayload_follows (f : VideoFrame) : Follows (EncodeRejects (.videoFrame f))
    (BufferWriter.encodeVideoFramePayload f) (encodeVideoFramePayload f) := by
  unfold BufferWriter.encodeVideoFramePayload encodeVideoFramePayload
  split
  next hreserved => exact follows_throw (.reservedNotZero rfl hreserved)
  next =>
    refine Follows.check (fun e => checkedPayloadSize_rejects rfl) fun payloadSize _ => ?_
    exact (writeString_follows (by simp [ProtocolMessage.strings])).seq <|
      (writeString_follows (by simp [ProtocolMessage.strings])).seq <|
      (follows_extend _).seq <| (follows_extend _).seq <| (follows_extend _).seq <|
      (follows_extend _).seq <| (follows_extend _).seq <| (follows_extend _).seq <|
      (follows_extend _).seq <| (follows_extend _).seq <| (follows_extend _).seq <|
      (follows_extend _).seq <| follows_extend _

theorem encodeVideoFrameFragmentPayload_follows (f : VideoFrameFragment) :
    Follows (EncodeRejects (.videoFrameFragment f)) (BufferWriter.encodeVideoFrameFragmentPayload f)
      (encodeVideoFrameFragmentPayload f) := by
  refine Follows.check (fun e => checkedPayloadSize_rejects rfl) fun chunkPayloadLen _ => ?_
  exact (writeString_follows (by simp [ProtocolMessage.strings])).seq <|
    (writeString_follows (by simp [ProtocolMessage.strings])).seq <|
    (follows_extend _).seq <| (follows_extend _).seq <| (follows_extend _).seq <|
    (follows_extend _).seq <| (follows_extend _).seq <| (follows_extend _).seq <|
    (follows_extend _).seq <| (follows_extend _).seq <| (follows_extend _).seq <|
    (follows_extend _).seq <| follows_extend _

theorem encodeClientStatsPayload_follows (s : ClientStats) : Follows (EncodeRejects (.clientStats s))
    (BufferWriter.encodeClientStatsPayload s) (encodeClientStatsPayload s) :=
  (writeString_follows (by simp [ProtocolMessage.strings])).seq <|
  (writeString_follows (by simp [ProtocolMessage.strings])).seq <|
  (follows_extend _).seq <| (follows_extend _).seq <| (follows_extend _).seq <|
  (follows_extend _).seq <| writeHeartbeatObservation_follows _

theorem encodeServerNoticePayload_follows (n : ServerNotice) : Follows (EncodeRejects (.serverNotice n))
    (BufferWriter.encodeServerNoticePayload n) (encodeServerNoticePayload n) :=
  (writeString_follows (by simp [ProtocolMessage.strings])).seq <| (follows_extend _).seq <|
  writeString_follows (by simp [ProtocolMessage.strings])

end Follows

theorem encodeFixedHeader_runOn (messageType : MessageType) (protocolVersion : ProtocolVersion)
    (payloadLength : UInt32) (output : List UInt8) :
    (BufferWriter.encodeFixedHeader messageType protocolVersion payloadLength).runOn output =
      (.ok (), encodeFixedHeader messageType protocolVersion payloadLength output) := by
  have hrun : (BufferWriter.encodeFixedHeader messageType protocolVersion payloadLength).runOn output =
      (.ok (), ((((((output ++ u16ToLe messageType.wireCode) ++ u16ToLe fixedHeaderLen) ++
        u32ToLe protocolVersion) ++ u32ToLe payloadLength) ++ u16ToLe 0) ++ u16ToLe 0)) := rfl
  rw [hrun, encodeFixedHeader]
  simp only [List.append_assoc]

/-- A packet encoder touches the output only once the payload and its length are known. -/
theorem encodePacketWith_runOn {P : ProtocolError → Prop} {t : MessageType} {v : BufferWriter}
    {w : PayloadWriter} {ls : List Layout} (hv : Follows P v w) (hw : Appends w ls)
    (context : EncodeContext) (output : List UInt8) :
    (∃ payload, Layout.cat ls = some payload ∧ payload.length < 2 ^ 32 ∧
      (BufferWriter.encodePacketWith t v context).runOn output =
        (.ok (), encodeFixedHeader t context.protocolVersion (UInt32.ofNat payload.length) output ++
          payload)) ∨
    ∃ e, (BufferWriter.encodePacketWith t v context).runOn output = (.error e, output) ∧
      (P e ∨ ∃ payload, Layout.cat ls = some payload ∧ 2 ^ 32 ≤ payload.length ∧
        e = .invalidPayloadLength 4294967295 payload.length) := by
  have hnew := hv.intoNew output
  unfold BufferWriter.encodePacketWith
  cases hpayload : w [] with
  | error e =>
    rw [hpayload] at hnew
    obtain ⟨hrun, he⟩ := hnew
    refine .inr ⟨e, ?_, .inl he⟩
    rw [VecWriter.runOn_bind_error hrun]
  | ok x =>
    rw [hpayload] at hnew
    obtain ⟨⟨⟩, payload⟩ := x
    have hlayout : Layout.cat ls = some payload := hw.output_eq.mp hpayload
    rw [VecWriter.runOn_bind_ok hnew]
    by_cases hlength : payload.length < 2 ^ 32
    · have hu32 : tryU32Len payload.length = .ok (UInt32.ofNat payload.length) := if_pos hlength
      refine .inl ⟨payload, hlayout, hlength, ?_⟩
      rw [hu32, VecWriter.runOn_check_ok, VecWriter.runOn_bind_ok (encodeFixedHeader_runOn _ _ _ _)]
      rfl
    · have hu32 : tryU32Len payload.length = .error (.invalidPayloadLength 4294967295 payload.length) :=
        if_neg hlength
      refine .inr ⟨.invalidPayloadLength 4294967295 payload.length, ?_, .inr ⟨payload, hlayout, by omega, rfl⟩⟩
      rw [hu32, VecWriter.runOn_check_error]

theorem encodeMessage_runOn (context : EncodeContext) (m : ProtocolMessage) (output : List UInt8) :
    (∃ payload, Layout.cat m.layout = some payload ∧ payload.length < 2 ^ 32 ∧
      (BufferWriter.encodeMessage context m).runOn output =
        (.ok (), encodeFixedHeader m.messageType context.protocolVersion (UInt32.ofNat payload.length)
          output ++ payload)) ∨
    ∃ e, (BufferWriter.encodeMessage context m).runOn output = (.error e, output) ∧ EncodeRejects m e := by
  have hpacket : ∀ {t : MessageType} {v : BufferWriter} {w : PayloadWriter},
      Follows (EncodeRejects m) v w → Appends w m.layout → (∃ payload, Layout.cat m.layout = some payload ∧
        payload.length < 2 ^ 32 ∧ (BufferWriter.encodePacketWith t v context).runOn output =
          (.ok (), encodeFixedHeader t context.protocolVersion (UInt32.ofNat payload.length) output ++
            payload)) ∨
      ∃ e, (BufferWriter.encodePacketWith t v context).runOn output = (.error e, output) ∧
        EncodeRejects m e := by
    intro t v w hv hw
    refine (encodePacketWith_runOn hv hw context output).imp_right ?_
    rintro ⟨e, hrun, hreject | ⟨payload, hlayout, hlength, rfl⟩⟩
    · exact ⟨e, hrun, hreject⟩
    · exact ⟨_, hrun, .payloadTooLong hlayout hlength⟩
  cases m with
  | authRequest r => exact hpacket (encodeAuthRequestPayload_follows r) (encodeAuthRequestPayload_appends r)
  | authResponse r =>
    exact hpacket (encodeAuthResponsePayload_follows r) (encodeAuthResponsePayload_appends r)
  | heartbeat h => exact hpacket (encodeHeartbeatPayload_follows h) (encodeHeartbeatPayload_appends h)
  | heartbeatAck a =>
    exact hpacket (encodeHeartbeatAckPayload_follows a) (encodeHeartbeatAckPayload_appends a)
  | videoFrame f => exact hpacket (encodeVideoFramePayload_follows f) (encodeVideoFramePayload_appends f)
  | videoFrameFragment f =>
    exact hpacket (encodeVideoFrameFragmentPayload_follows f) (encodeVideoFrameFragmentPayload_appends f)
  | clientStats s => exact hpacket (encodeClientStatsPayload_follows s) (encodeClientStatsPayload_appends s)
  | serverNotice n =>
    exact hpacket (encodeServerNoticePayload_follows n) (encodeServerNoticePayload_appends n)

/-- A string is one of the message's fields, or the value of an optional one. -/
theorem string_mem_layout {m : ProtocolMessage} {value : String} (h : value ∈ m.strings) :
    stringLayout value ∈ m.layout ∨ optionalLayout stringLayout (some value) ∈ m.layout := by
  cases m <;>
    simp only [ProtocolMessage.strings, List.mem_append, List.mem_cons, List.not_mem_nil, or_false,
      Option.mem_toList] at h <;>
    simp only [ProtocolMessage.layout, AuthRequest.layout, AuthResponse.layout, Heartbeat.layout,
      HeartbeatAck.layout, VideoFrame.layout, VideoFrameFragment.layout, ClientStats.layout,
      ServerNotice.layout, List.mem_cons] <;>
    grind

theorem sizedPayload_mem_layout {m : ProtocolMessage} {sized : Nat × List UInt8}
    (h : m.sizedPayload = some sized) : sizedPayloadLayout sized ∈ m.layout := by
  cases m with
  | videoFrame f =>
    cases Option.some.inj h
    simp [ProtocolMessage.layout, VideoFrame.layout]
  | videoFrameFragment f =>
    cases Option.some.inj h
    simp [ProtocolMessage.layout, VideoFrameFragment.layout]
  | _ => cases h

/-- A message that is rejected has no bytes, or too many. -/
theorem EncodeRejects.not_encodes {m : ProtocolMessage} {e : ProtocolError} (h : EncodeRejects m e)
    {payload : List UInt8} (hlayout : Layout.cat m.layout = some payload) : ¬payload.length < 2 ^ 32 := by
  have hfield : none ∉ m.layout := fun hnone => by
    rw [Layout.cat_eq_none hnone] at hlayout
    cases hlayout
  cases h with
  | @stringTooLong value hmem hlong =>
    have hstring : stringLayout value = none := if_neg (by omega)
    rcases string_mem_layout hmem with hin | hin
    · exact absurd (hstring ▸ hin) hfield
    · rw [optionalLayout, hstring] at hin
      exact absurd hin hfield
  | @reservedNotZero frame hm hreserved =>
    subst hm
    have hnone : metadataReservedLayout frame.metadataReserved = none := if_neg hreserved
    exact absurd (by simp [ProtocolMessage.layout, VideoFrame.layout, hnone]) hfield
  | @sizeMismatch declared sized hm hdeclared =>
    have hnone : sizedPayloadLayout (declared, sized) = none := if_neg fun h => hdeclared h.1
    exact absurd (hnone ▸ sizedPayload_mem_layout hm) hfield
  | @videoTooLong declared sized hm hlong =>
    have hnone : sizedPayloadLayout (declared, sized) = none := if_neg fun h => by
      have hfits : sized.length < 2 ^ 32 := h.2
      omega
    exact absurd (hnone ▸ sizedPayload_mem_layout hm) hfield
  | payloadTooLong hm hlong =>
    cases Option.some.inj (hlayout.symm.trans hm)
    omega

/-- The header an encoder puts in front of a payload of `len` bytes. -/
def packetHeader (context : EncodeContext) (m : ProtocolMessage) (len : Nat) : FixedHeader :=
  ⟨m.messageType, fixedHeaderLen, context.protocolVersion, UInt32.ofNat len, 0, 0⟩

/-- A packet encoder appends a header and the payload it announces, or says what is wrong with the
message and leaves the output as it was. -/
theorem encode_message_atomic (context : EncodeContext) (m : ProtocolMessage) (output : List UInt8) :
    ((∃ (header : FixedHeader) (payload : List UInt8),
        (BufferWriter.encodeMessage context m).runOn output =
          (.ok (), output ++ (header.bytes ++ payload)) ∧
        header.messageType = m.messageType ∧
        (header.bytes ++ payload).length = header.headerLength.toNat + header.payloadLength.toNat ∧
        Layout.cat m.layout = some payload) ∧
      ∀ e, ¬EncodeRejects m e) ∨
    ∃ e, (BufferWriter.encodeMessage context m).runOn output = (.error e, output) ∧ EncodeRejects m e := by
  refine (encodeMessage_runOn context m output).imp_left ?_
  rintro ⟨payload, hlayout, hlength, hrun⟩
  have hannounced : (UInt32.ofNat payload.length).toNat = payload.length := by
    rw [UInt32.toNat_ofNat']
    omega
  refine ⟨⟨packetHeader context m payload.length, payload, ?_, rfl, ?_, hlayout⟩,
    fun e hreject => hreject.not_encodes hlayout hlength⟩
  · rw [hrun, ← List.append_assoc]
    rfl
  · rw [List.length_append, FixedHeader.length_bytes, packetHeader, hannounced]
    rfl

end StreamSync
