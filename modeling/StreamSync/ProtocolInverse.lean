import StreamSync.ProtocolDecode
import StreamSync.ProtocolEncode

namespace StreamSync

open ByteCursor PayloadReader

def u16Layout (value : UInt16) : Layout := some (u16ToLe value)
def u32Layout (value : UInt32) : Layout := some (u32ToLe value)
def u64Layout (value : UInt64) : Layout := some (u64ToLe value)
def boolLayout (value : Bool) : Layout := some [boolByte value]

def AuthRequest.layout (r : AuthRequest) : List Layout :=
  [stringLayout r.clientId, stringLayout r.runId, stringLayout r.appVersion,
    stringLayout r.sharedToken, optionalLayout stringLayout r.displayName]

def AuthResponse.layout (r : AuthResponse) : List Layout :=
  [stringLayout r.clientId, stringLayout r.runId, boolLayout r.accepted,
    u16Layout r.reasonCode.wireCode, optionalLayout stringLayout r.message,
    optionalLayout u64Layout r.serverTime, optionalLayout u32Layout r.expectedProtocolVersion]

def Heartbeat.layout (h : Heartbeat) : List Layout :=
  [stringLayout h.clientId, stringLayout h.runId, u64Layout h.sentAt,
    optionalLayout u64Layout h.localTime, optionalLayout stringLayout h.shortStatus]

def HeartbeatAck.layout (a : HeartbeatAck) : List Layout :=
  [stringLayout a.clientId, stringLayout a.runId, u64Layout a.echoedSentAt,
    u64Layout a.serverReceivedAt, u64Layout a.serverSentAt]

def VideoFrame.layout (f : VideoFrame) : List Layout :=
  [stringLayout f.clientId, stringLayout f.runId, u64Layout f.frameId,
    u64Layout f.captureTimestamp, u64Layout f.sendTimestamp, boolLayout f.isKeyframe,
    metadataReservedLayout f.metadataReserved, u32Layout f.width, u32Layout f.height,
    u32Layout f.fpsNominal, u16Layout f.codec.wireCode,
    sizedPayloadLayout (f.payloadSize, f.payload)]

def VideoFrameFragment.layout (f : VideoFrameFragment) : List Layout :=
  [stringLayout f.clientId, stringLayout f.runId, u64Layout f.frameId,
    u64Layout f.captureTimestamp, boolLayout f.isKeyframe, u32Layout f.width, u32Layout f.height,
    u32Layout f.fpsNominal, u32Layout f.totalPayloadLen, u32Layout f.chunkIndex,
    u32Layout f.chunkCount, sizedPayloadLayout (f.chunkPayloadLen, f.chunkPayload)]

def ClientStats.layout (s : ClientStats) : List Layout :=
  [stringLayout s.clientId, stringLayout s.runId, u64Layout s.sentAt, u32Layout s.captureFps,
    u64Layout s.droppedFrames, u32Layout s.bitrateKbps,
    optionalLayout observationFieldsLayout s.heartbeatObservation]

def ServerNotice.layout (n : ServerNotice) : List Layout :=
  [stringLayout n.runId, u16Layout n.noticeType.wireCode, stringLayout n.message]

def ProtocolMessage.layout : ProtocolMessage → List Layout
  | .authRequest r => r.layout
  | .authResponse r => r.layout
  | .heartbeat h => h.layout
  | .heartbeatAck a => a.layout
  | .videoFrame f => f.layout
  | .videoFrameFragment f => f.layout
  | .clientStats s => s.layout
  | .serverNotice n => n.layout

def AuthRequest.normalize (v : ProtocolVersion) (r : AuthRequest) : AuthRequest :=
  { r with messageType := .authRequest, protocolVersion := v, capabilities := []
           requestedVideoProfile := none }

def AuthResponse.normalize (v : ProtocolVersion) (r : AuthResponse) : AuthResponse :=
  { r with messageType := .authResponse, protocolVersion := v }

def Heartbeat.normalize (v : ProtocolVersion) (h : Heartbeat) : Heartbeat :=
  { h with messageType := .heartbeat, protocolVersion := v }

def HeartbeatAck.normalize (v : ProtocolVersion) (a : HeartbeatAck) : HeartbeatAck :=
  { a with messageType := .heartbeatAck, protocolVersion := v }

def VideoFrame.normalize (v : ProtocolVersion) (f : VideoFrame) : VideoFrame :=
  { f with messageType := .videoFrame, protocolVersion := v }

def VideoFrameFragment.normalize (v : ProtocolVersion) (f : VideoFrameFragment) : VideoFrameFragment :=
  { f with messageType := .videoFrameFragment, protocolVersion := v }

def ClientStats.normalize (v : ProtocolVersion) (s : ClientStats) : ClientStats :=
  { s with messageType := .clientStats, protocolVersion := v
           heartbeatObservation := s.heartbeatObservation.map fun o =>
             { o with clientId := s.clientId, runId := s.runId } }

def ServerNotice.normalize (v : ProtocolVersion) (n : ServerNotice) : ServerNotice :=
  { n with messageType := .serverNotice, protocolVersion := v }

/-- What a message becomes on the wire: the type of its variant, the version of the packet, and
nothing that the payload does not carry. -/
def ProtocolMessage.normalize (v : ProtocolVersion) : ProtocolMessage → ProtocolMessage
  | .authRequest r => .authRequest (r.normalize v)
  | .authResponse r => .authResponse (r.normalize v)
  | .heartbeat h => .heartbeat (h.normalize v)
  | .heartbeatAck a => .heartbeatAck (a.normalize v)
  | .videoFrame f => .videoFrame (f.normalize v)
  | .videoFrameFragment f => .videoFrameFragment (f.normalize v)
  | .clientStats s => .clientStats (s.normalize v)
  | .serverNotice n => .serverNotice (n.normalize v)

/-- `decode` accepts exactly the layouts of normal messages behind a header of type `t`. -/
def DecodesAs {α : Type} (decode : FixedHeader → List UInt8 → Except ProtocolError α)
    (t : MessageType) (normalize : ProtocolVersion → α → α) (layout : α → List Layout) : Prop :=
  ∀ header payload m, decode header payload = .ok m ↔
    header.messageType = t ∧ payload.length = header.payloadLength.toNat ∧
      normalize header.protocolVersion m = m ∧ Layout.cat (layout m) = some payload

theorem decodePayloadWith_eq_ok_iff {α : Type} {t : MessageType} {header : FixedHeader}
    {payload : List UInt8} {reader : PayloadReader α} {m : α} {K : α → Prop} {ls : α → List Layout}
    (h : Reads reader K ls fun c => c.rest = []) :
    decodePayloadWith t header payload reader = .ok m ↔
      header.messageType = t ∧ payload.length = header.payloadLength.toNat ∧
        K m ∧ Layout.cat (ls m) = some payload := by
  unfold decodePayloadWith
  split
  next ht => simp [ht]
  next ht =>
    split
    next hl => simp [hl]
    next hl =>
      rw [h.run_start]
      simp only [ne_eq, not_not] at ht hl
      simp [ht, hl]

theorem decodesAs_of_reads {α : Type} {t : MessageType} {reader : FixedHeader → PayloadReader α}
    {normalize : ProtocolVersion → α → α} {layout : α → List Layout}
    (h : ∀ header, Reads (reader header) (fun m => normalize header.protocolVersion m = m) layout
      fun c => c.rest = []) :
    DecodesAs (fun header payload => decodePayloadWith t header payload (reader header)) t
      normalize layout := by
  intro header payload m
  rw [decodePayloadWith_eq_ok_iff (h header)]

section Decoders

theorem readReasonCode_inverts :
    Inverts (readU16 >>= fun value => liftM (AuthResponseReasonCode.tryFrom value))
      fun r : AuthResponseReasonCode => u16Layout r.wireCode :=
  Inverts.convert (fun r : AuthResponseReasonCode => some r.wireCode) readU16_inverts fun _ _ => by
    rw [AuthResponseReasonCode.tryFrom_eq_ok_iff, Option.some_inj]

theorem readCodec_inverts : Inverts (readU16 >>= fun value => liftM (Codec.tryFrom value))
    fun c : Codec => u16Layout c.wireCode :=
  Inverts.convert (fun c : Codec => some c.wireCode) readU16_inverts fun _ _ => by
    rw [Codec.tryFrom_eq_ok_iff, Option.some_inj]

theorem readNoticeType_inverts : Inverts (readU16 >>= fun value => liftM (NoticeType.tryFrom value))
    fun t : NoticeType => u16Layout t.wireCode :=
  Inverts.convert (fun t : NoticeType => some t.wireCode) readU16_inverts fun _ _ => by
    rw [NoticeType.tryFrom_eq_ok_iff, Option.some_inj]

theorem decodeAuthRequestPayload_decodesAs : DecodesAs decodeAuthRequestPayload .authRequest
    AuthRequest.normalize AuthRequest.layout := by
  refine decodesAs_of_reads fun header => ?_
  refine Inverts.reads_bind AuthRequest.clientId readString_inverts fun _ => ?_
  refine Inverts.reads_bind AuthRequest.runId readString_inverts fun _ => ?_
  refine Inverts.reads_bind AuthRequest.appVersion readString_inverts fun _ => ?_
  refine Inverts.reads_bind AuthRequest.sharedToken readString_inverts fun _ => ?_
  refine Inverts.reads_bind AuthRequest.displayName (readOptional_inverts readString_inverts) fun _ => ?_
  exact reads_atEnd _ fun m => by cases m; simp [AuthRequest.normalize]; tauto

theorem decodeAuthResponsePayload_decodesAs : DecodesAs decodeAuthResponsePayload .authResponse
    AuthResponse.normalize AuthResponse.layout := by
  refine decodesAs_of_reads fun header => ?_
  refine Inverts.reads_bind AuthResponse.clientId readString_inverts fun _ => ?_
  refine Inverts.reads_bind AuthResponse.runId readString_inverts fun _ => ?_
  refine Inverts.reads_bind AuthResponse.accepted readBool_inverts fun _ => ?_
  refine Inverts.reads_bind AuthResponse.reasonCode readReasonCode_inverts fun _ => ?_
  refine Inverts.reads_bind AuthResponse.message (readOptional_inverts readString_inverts) fun _ => ?_
  refine Inverts.reads_bind AuthResponse.serverTime (readOptional_inverts readU64_inverts) fun _ => ?_
  refine Inverts.reads_bind AuthResponse.expectedProtocolVersion
    (readOptional_inverts readU32_inverts) fun _ => ?_
  exact reads_atEnd _ fun m => by cases m; simp [AuthResponse.normalize]; tauto

theorem decodeHeartbeatPayload_decodesAs : DecodesAs decodeHeartbeatPayload .heartbeat
    Heartbeat.normalize Heartbeat.layout := by
  refine decodesAs_of_reads fun header => ?_
  refine Inverts.reads_bind Heartbeat.clientId readString_inverts fun _ => ?_
  refine Inverts.reads_bind Heartbeat.runId readString_inverts fun _ => ?_
  refine Inverts.reads_bind Heartbeat.sentAt readU64_inverts fun _ => ?_
  refine Inverts.reads_bind Heartbeat.localTime (readOptional_inverts readU64_inverts) fun _ => ?_
  refine Inverts.reads_bind Heartbeat.shortStatus (readOptional_inverts readString_inverts) fun _ => ?_
  exact reads_atEnd _ fun m => by cases m; simp [Heartbeat.normalize]; tauto

theorem decodeHeartbeatAckPayload_decodesAs : DecodesAs decodeHeartbeatAckPayload .heartbeatAck
    HeartbeatAck.normalize HeartbeatAck.layout := by
  refine decodesAs_of_reads fun header => ?_
  refine Inverts.reads_bind HeartbeatAck.clientId readString_inverts fun _ => ?_
  refine Inverts.reads_bind HeartbeatAck.runId readString_inverts fun _ => ?_
  refine Inverts.reads_bind HeartbeatAck.echoedSentAt readU64_inverts fun _ => ?_
  refine Inverts.reads_bind HeartbeatAck.serverReceivedAt readU64_inverts fun _ => ?_
  refine Inverts.reads_bind HeartbeatAck.serverSentAt readU64_inverts fun _ => ?_
  exact reads_atEnd _ fun m => by cases m; simp [HeartbeatAck.normalize]; tauto

theorem decodeVideoFramePayload_decodesAs : DecodesAs decodeVideoFramePayload .videoFrame
    VideoFrame.normalize VideoFrame.layout := by
  refine decodesAs_of_reads fun header => ?_
  refine Inverts.reads_bind VideoFrame.clientId readString_inverts fun _ => ?_
  refine Inverts.reads_bind VideoFrame.runId readString_inverts fun _ => ?_
  refine Inverts.reads_bind VideoFrame.frameId readU64_inverts fun _ => ?_
  refine Inverts.reads_bind VideoFrame.captureTimestamp readU64_inverts fun _ => ?_
  refine Inverts.reads_bind VideoFrame.sendTimestamp readU64_inverts fun _ => ?_
  refine Inverts.reads_bind VideoFrame.isKeyframe readBool_inverts fun _ => ?_
  refine Inverts.reads_bind VideoFrame.metadataReserved readMetadataReserved_inverts fun _ => ?_
  refine Inverts.reads_bind VideoFrame.width readU32_inverts fun _ => ?_
  refine Inverts.reads_bind VideoFrame.height readU32_inverts fun _ => ?_
  refine Inverts.reads_bind VideoFrame.fpsNominal readU32_inverts fun _ => ?_
  refine Inverts.reads_bind VideoFrame.codec readCodec_inverts fun _ => ?_
  refine Inverts.reads_bind (fun f : VideoFrame => (f.payloadSize, f.payload))
    readSizedPayload_inverts fun _ => ?_
  exact reads_atEnd _ fun m => by cases m; simp [VideoFrame.normalize, Prod.ext_iff]; tauto

theorem decodeVideoFrameFragmentPayload_decodesAs : DecodesAs decodeVideoFrameFragmentPayload
    .videoFrameFragment VideoFrameFragment.normalize VideoFrameFragment.layout := by
  refine decodesAs_of_reads fun header => ?_
  refine Inverts.reads_bind VideoFrameFragment.clientId readString_inverts fun _ => ?_
  refine Inverts.reads_bind VideoFrameFragment.runId readString_inverts fun _ => ?_
  refine Inverts.reads_bind VideoFrameFragment.frameId readU64_inverts fun _ => ?_
  refine Inverts.reads_bind VideoFrameFragment.captureTimestamp readU64_inverts fun _ => ?_
  refine Inverts.reads_bind VideoFrameFragment.isKeyframe readBool_inverts fun _ => ?_
  refine Inverts.reads_bind VideoFrameFragment.width readU32_inverts fun _ => ?_
  refine Inverts.reads_bind VideoFrameFragment.height readU32_inverts fun _ => ?_
  refine Inverts.reads_bind VideoFrameFragment.fpsNominal readU32_inverts fun _ => ?_
  refine Inverts.reads_bind VideoFrameFragment.totalPayloadLen readU32_inverts fun _ => ?_
  refine Inverts.reads_bind VideoFrameFragment.chunkIndex readU32_inverts fun _ => ?_
  refine Inverts.reads_bind VideoFrameFragment.chunkCount readU32_inverts fun _ => ?_
  refine Inverts.reads_bind (fun f : VideoFrameFragment => (f.chunkPayloadLen, f.chunkPayload))
    readSizedPayload_inverts fun _ => ?_
  exact reads_atEnd _ fun m => by cases m; simp [VideoFrameFragment.normalize, Prod.ext_iff]; tauto

theorem observation_layout_eq (clientId : ClientId) (runId : RunId)
    (observation : Option HeartbeatAckObservation) :
    optionalLayout (heartbeatObservationLayout clientId runId) observation =
      if (observation.map fun o => { o with clientId := clientId, runId := runId }) = observation then
        optionalLayout observationFieldsLayout observation
      else none := by
  cases observation with
  | none => rfl
  | some o =>
    cases o
    simp only [optionalLayout, heartbeatObservationLayout, Option.map_some]
    split <;> simp_all [eq_comm]

theorem decodeClientStatsPayload_decodesAs : DecodesAs decodeClientStatsPayload .clientStats
    ClientStats.normalize ClientStats.layout := by
  intro header payload m
  have hr : Reads (do
      let clientId ← readString
      let runId ← readString
      let sentAt ← readU64
      let captureFps ← readU32
      let droppedFrames ← readU64
      let bitrateKbps ← readU32
      let heartbeatObservation ← readOptionalHeartbeatObservation clientId runId
      finish
      pure (⟨.clientStats, header.protocolVersion, clientId, runId, sentAt, captureFps,
        droppedFrames, bitrateKbps, heartbeatObservation⟩ : ClientStats))
      (fun s => s.messageType = .clientStats ∧ s.protocolVersion = header.protocolVersion)
      (fun s => [stringLayout s.clientId, stringLayout s.runId, u64Layout s.sentAt,
        u32Layout s.captureFps, u64Layout s.droppedFrames, u32Layout s.bitrateKbps,
        optionalLayout (heartbeatObservationLayout s.clientId s.runId) s.heartbeatObservation])
      fun c => c.rest = [] := by
    refine Inverts.reads_bind ClientStats.clientId readString_inverts fun clientId => ?_
    refine Inverts.reads_bind ClientStats.runId readString_inverts fun runId => ?_
    refine Inverts.reads_bind ClientStats.sentAt readU64_inverts fun _ => ?_
    refine Inverts.reads_bind ClientStats.captureFps readU32_inverts fun _ => ?_
    refine Inverts.reads_bind ClientStats.droppedFrames readU64_inverts fun _ => ?_
    refine Inverts.reads_bind ClientStats.bitrateKbps readU32_inverts fun _ => ?_
    refine Reads.congr (?_ : Reads _ _ (fun s : ClientStats =>
      [optionalLayout (heartbeatObservationLayout clientId runId) s.heartbeatObservation]) _) ?_
    · refine Inverts.reads_bind ClientStats.heartbeatObservation
        (readOptional_inverts (readHeartbeatObservation_inverts clientId runId)) fun _ => ?_
      exact reads_atEnd _ fun s => by cases s; simp; tauto
    · rintro s ⟨⟨⟨⟨⟨⟨_, rfl⟩, rfl⟩, _⟩, _⟩, _⟩, _⟩
      rfl
  rw [decodeClientStatsPayload, decodePayloadWith_eq_ok_iff hr]
  refine and_congr_right fun _ => and_congr_right fun _ => ?_
  cases m
  simp only [observation_layout_eq, ClientStats.layout, ClientStats.normalize, ClientStats.mk.injEq,
    true_and]
  split
  next h => simp [h, eq_comm]
  next h => simp [h]

theorem decodeServerNoticePayload_decodesAs : DecodesAs decodeServerNoticePayload .serverNotice
    ServerNotice.normalize ServerNotice.layout := by
  refine decodesAs_of_reads fun header => ?_
  refine Inverts.reads_bind ServerNotice.runId readString_inverts fun _ => ?_
  refine Inverts.reads_bind ServerNotice.noticeType readNoticeType_inverts fun _ => ?_
  refine Inverts.reads_bind ServerNotice.message readString_inverts fun _ => ?_
  exact reads_atEnd _ fun m => by cases m; simp [ServerNotice.normalize]; tauto

end Decoders

end StreamSync
