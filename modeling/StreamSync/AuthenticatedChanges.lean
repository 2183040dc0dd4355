import StreamSync.ReplySize

namespace StreamSync

open ByteCursor Run

namespace ServerEvent

/-- The socket sends whatever one datagram carries, and the records of the event are written. -/
def FaultlessIo : ServerEvent → Prop
  | .videoQueuePacket io _ _ _ => SendsDatagrams io.send ∧ io.WritesLogs
  | .continuousPacket io _ _ _ => SendsDatagrams io.send ∧ io.WritesLogs
  | .timeoutPass _ _ => True

/-- The event brings the continuous loop a heartbeat that the gate accepts, and that it answers. The video
queue loop answers none. -/
def Answers (config : ServerRuntimeConfig) (registry : AuthenticatedSenderRegistry) (beat : Heartbeat) :
    ServerEvent → Prop
  | .continuousPacket _ source bytes _ =>
    handleReceivedPacketWithGate config.expectedProtocolVersion registry source bytes =
      .ok (.heartbeat source beat)
  | .videoQueuePacket _ _ _ _ => False
  | .timeoutPass _ _ => False

/-- No client packet that the gate accepts ends the loop that received it. -/
def NeverAborts (config : ServerRuntimeConfig) (state : ServerState) (event : ServerEvent) : Prop :=
  ∀ route scope, event.GateAccepts config state.registry route → route.scope? = some scope →
    (serverStep config state event).2 = .ok ()

end ServerEvent

section Continuous

variable {config : ServerRuntimeConfig} {io : ServerIo} {state : ServerState} {source : PacketSource}
  {bytes : List UInt8} {timestamp : TimestampMicros}

theorem source_of_gate {route : ServerInboundRoute}
    (hgate : handleReceivedPacketWithGate config.expectedProtocolVersion state.registry source bytes = .ok route) :
    route.source = source := by
  obtain ⟨hroute, -⟩ := evaluateRoute_of_gate hgate
  obtain ⟨message, -, rfl⟩ := decodeAndRoute_eq_ok hroute
  cases message <;> rfl

/-- With a faultless socket an accepted heartbeat goes through exactly when its ack can be sent. -/
theorem continuousIteration_heartbeat_ok_iff (hsend : SendsDatagrams io.send) (hlogs : io.WritesLogs)
    (hqueue : state.outboundQueue = []) {beat : Heartbeat}
    (hgate : handleReceivedPacketWithGate config.expectedProtocolVersion state.registry source bytes =
      .ok (.heartbeat source beat)) :
    (continuousIteration config io state source bytes timestamp).2 = .ok () ↔ HeartbeatAckFits beat := by
  obtain ⟨-, -, -, -, -, hiff⟩ :=
    continuousIteration_heartbeat_send_iff hsend hlogs hqueue timestamp hgate
  cases hresult : (continuousIteration config io state source bytes timestamp).2 with
  | ok _ =>
    rw [hresult] at hiff
    refine iff_of_true rfl ?_
    by_contra hlong
    obtain ⟨_, h⟩ := hiff.mpr hlong
    cases h
  | error error =>
    have hfails := continuousIteration_client hqueue hgate rfl hresult
    rw [hresult] at hiff
    refine iff_of_false (fun h => by cases h) (hiff.mp ?_)
    cases hfails with
    | receiveLog h => cases hlogs.receive.symm.trans h
    | sendLog h => cases hlogs.send.symm.trans h
    | send h => exact ⟨_, rfl⟩

theorem continuousPacket_neverAborts_iff (hsend : SendsDatagrams io.send) (hlogs : io.WritesLogs)
    (hqueue : state.outboundQueue = []) :
    (ServerEvent.continuousPacket io source bytes timestamp).NeverAborts config state ↔
      ∀ beat, (ServerEvent.continuousPacket io source bytes timestamp).Answers config state.registry beat →
        HeartbeatAckFits beat := by
  have hstep : (serverStep config state (.continuousPacket io source bytes timestamp)).2 = .ok () ↔
      (continuousIteration config io state source bytes timestamp).2 = .ok () := by
    simp only [serverStep]
    cases (continuousIteration config io state source bytes timestamp).2 with
    | ok _ => exact iff_of_true rfl rfl
    | error error => exact iff_of_false (fun h => by cases h) fun h => by cases h
  constructor
  · intro hnever beat hgate
    have hok := hnever _ (beat.clientId, beat.runId) ⟨source, bytes, rfl, hgate⟩ rfl
    exact (continuousIteration_heartbeat_ok_iff hsend hlogs hqueue hgate).mp (hstep.mp hok)
  · intro hfits route scope hevent hscope
    obtain ⟨_, _, hpacket, hgate⟩ := hevent
    cases Option.some.inj hpacket
    rw [hstep]
    by_cases hbeat : ∀ from' beat, route ≠ .heartbeat from' beat
    · exact continuousIteration_unanswered hlogs.receive hqueue timestamp hgate hscope hbeat
    · push Not at hbeat
      obtain ⟨from', beat, rfl⟩ := hbeat
      have hsource : from' = source := source_of_gate hgate
      subst hsource
      exact (continuousIteration_heartbeat_ok_iff hsend hlogs hqueue hgate).mpr (hfits beat hgate)

end Continuous

theorem neverAborts_iff {config : ServerRuntimeConfig} {state : ServerState} {event : ServerEvent}
    (hqueue : state.outboundQueue = []) (hio : event.FaultlessIo) :
    event.NeverAborts config state ↔
      ∀ beat, event.Answers config state.registry beat → HeartbeatAckFits beat := by
  cases event with
  | continuousPacket io source bytes timestamp => exact continuousPacket_neverAborts_iff hio.1 hio.2 hqueue
  | videoQueuePacket io source bytes queuedAt =>
    refine iff_of_true (fun route scope hevent hscope => ?_) fun beat hbeat => hbeat.elim
    obtain ⟨_, _, hpacket, hgate⟩ := hevent
    cases Option.some.inj hpacket
    obtain ⟨stored, hstored⟩ := processReceivedPacketForVideoQueue_client io queuedAt hgate hscope
    simp only [serverStep, hstored]
    rfl
  | timeoutPass write input =>
    refine iff_of_true (fun route scope hevent _ => ?_) fun beat hbeat => hbeat.elim
    obtain ⟨_, _, hpacket, -⟩ := hevent
    cases hpacket

/-- After any run, an event that changes a media state carries a packet of the client, run and endpoint
that the registry holds for that client since its latest accepted auth request. The registered boundary
takes every client packet that the gate accepts, and only the socket or a log writer can end a loop on one.
Where neither has a fault of its own, none ends a loop exactly when the acks of the heartbeats that the
continuous loop answers fit a datagram. -/
theorem runServer_authenticated (config : ServerRuntimeConfig) (events : List ServerEvent)
    (event : ServerEvent) :
    let state := (runServer config events).1
    let next := serverStep config state event
    (next.1.media ≠ state.media →
      ∃ entry, event.SentBy config entry ∧ state.registry.get entry.clientId = some entry ∧
        PutByLatestAuth config events entry) ∧
    (∀ route scope, event.GateAccepts config state.registry route → route.scope? = some scope →
      (∃ packet, prepareForHandler state.registry route = .ok packet) ∧
        ∀ error, next.2 = .error error → event.IoFailure error) ∧
    (event.FaultlessIo →
      (event.NeverAborts config state ↔
        ∀ beat, event.Answers config state.registry beat → HeartbeatAckFits beat)) := by
  intro state next
  have hqueue : state.outboundQueue = [] := outboundQueue_empty config events
  refine ⟨?_, ?_, fun hio => neverAborts_iff hqueue hio⟩
  · intro hchanged
    obtain ⟨clientId, entry, route, hroute, hscope, hsource, hget⟩ := serverStep_media hchanged
    obtain ⟨rfl, hlatest⟩ := registry_latest events hget
    exact ⟨entry, ⟨route, hroute, hscope, hsource⟩, hget, putByLatestAuth_of_latestWrite hlatest⟩
  · intro route scope hgate hscope
    obtain ⟨source, bytes, -, haccepted⟩ := id hgate
    obtain ⟨-, hevaluated⟩ := evaluateRoute_of_gate haccepted
    obtain ⟨sender, packet, -, -, -, hprepared⟩ := prepareForHandler_of_accepted hscope hevaluated
    exact ⟨⟨packet, hprepared⟩, fun error => serverStep_client hqueue hgate hscope⟩

theorem runServer_authenticated_heartbeat :
    let state := (runServer oneCameraConfig [cameraAuth 5000 "run" 1]).1
    let event := ServerEvent.continuousPacket .datagramsOnly (cameraSource 5000) cameraHeartbeatBytes 2
    (serverStep oneCameraConfig state event).1.media ≠ state.media ∧
      (∃ entry, event.SentBy oneCameraConfig entry ∧ state.registry.get entry.clientId = some entry ∧
        PutByLatestAuth oneCameraConfig [cameraAuth 5000 "run" 1] entry) ∧
      (∃ packet, prepareForHandler state.registry (.heartbeat (cameraSource 5000) (cameraBeat "run")) =
        .ok packet) ∧
      (serverStep oneCameraConfig state event).2 = .ok () := by
  intro state event
  obtain ⟨hmedia, hboundary, haborts⟩ :=
    runServer_authenticated oneCameraConfig [cameraAuth 5000 "run" 1] event
  have hchanged : (serverStep oneCameraConfig state event).1.media ≠ state.media := by
    intro h
    have hentry : ((serverStep oneCameraConfig state event).1.liveness.get "cam").isSome =
        (state.liveness.get "cam").isSome := congrArg (fun m => (m.liveness.get "cam").isSome) h
    revert hentry
    decide +kernel
  have hgate : handleReceivedPacketWithGate 1 state.registry (cameraSource 5000) cameraHeartbeatBytes =
      .ok (.heartbeat (cameraSource 5000) (cameraBeat "run")) := by
    decide +kernel
  have haccepts : event.GateAccepts oneCameraConfig state.registry
      (.heartbeat (cameraSource 5000) (cameraBeat "run")) := ⟨_, _, rfl, hgate⟩
  have hnever := (haborts ⟨sendsDatagrams_datagramsOnly, rfl, rfl, rfl⟩).mpr fun beat hbeat => by
    cases Except.ok.inj (hgate.symm.trans hbeat)
    unfold HeartbeatAckFits idsLen
    decide
  exact ⟨hchanged, hmedia hchanged, (hboundary _ ("cam", "run") haccepts rfl).1,
    hnever _ ("cam", "run") haccepts rfl⟩

section LongRunId

variable {runId : RunId} (hlen : (asBytes runId).length = 65461)

include hlen

theorem encode_cameraRequest :
    ∃ bytes, encodeMessage ⟨1⟩ (.authRequest (cameraRequest runId)) [] = .ok bytes ∧
      bytes.length ≤ defaultUdpPacketBufferLen := by
  have hrun : stringLayout runId = some _ := if_pos (by omega)
  have hclient : stringLayout "cam" = some [3, 0, 99, 97, 109] := rfl
  have hversion : stringLayout "0.1" = some [3, 0, 48, 46, 49] := rfl
  have htoken : stringLayout "secret" = some [6, 0, 115, 101, 99, 114, 101, 116] := rfl
  obtain ⟨payload, hcat, hpayload⟩ : ∃ payload,
      Layout.cat (ProtocolMessage.authRequest (cameraRequest runId)).layout = some payload ∧
        payload.length = 65482 := by
    simp only [ProtocolMessage.layout, AuthRequest.layout, cameraRequest, Layout.cat_cons,
      Layout.cat_nil, hrun, hclient, hversion, htoken, optionalLayout, Option.bind_some, Option.map_some]
    refine ⟨_, rfl, ?_⟩
    simp only [List.length_append, length_u16ToLe, List.length_cons, List.length_nil]
    omega
  obtain ⟨hencoded, hlength⟩ := @length_of_encodeMessage 1 _ _ _ hcat (by omega) rfl
  refine ⟨_, hencoded, ?_⟩
  rw [hlength, hpayload, defaultUdpPacketBufferLen]
  decide

theorem encode_cameraBeat :
    ∃ bytes, encodeMessage ⟨1⟩ (.heartbeat (cameraBeat runId)) [] = .ok bytes ∧
      bytes.length ≤ defaultUdpPacketBufferLen := by
  have hrun : stringLayout runId = some _ := if_pos (by omega)
  have hclient : stringLayout "cam" = some [3, 0, 99, 97, 109] := rfl
  obtain ⟨payload, hcat, hpayload⟩ : ∃ payload,
      Layout.cat (ProtocolMessage.heartbeat (cameraBeat runId)).layout = some payload ∧
        payload.length ≤ 65480 := by
    simp only [ProtocolMessage.layout, Heartbeat.layout, cameraBeat, Layout.cat_cons, Layout.cat_nil, hrun,
      hclient, optionalLayout, u64Layout, Option.bind_some, Option.map_some]
    refine ⟨_, rfl, ?_⟩
    simp only [List.length_append, length_u16ToLe, length_u64ToLe, List.length_cons, List.length_nil]
    omega
  obtain ⟨hencoded, hlength⟩ := @length_of_encodeMessage 1 _ _ _ hcat (by omega) rfl
  refine ⟨_, hencoded, ?_⟩
  rw [hlength, defaultUdpPacketBufferLen]
  omega

/-- The reply to the auth request still fits where the ack of a heartbeat does not. -/
theorem continuousIteration_cameraRequest {bytes : List UInt8}
    (hdecode : decodePacket ⟨1⟩ bytes = .ok (.authRequest (cameraRequest runId))) :
    (continuousIteration oneCameraConfig .datagramsOnly .empty (cameraSource 5000) bytes 1).2 = .ok () := by
  obtain ⟨reply, hreply, hfits⟩ := @authReply_fits_iff oneCameraConfig (cameraSource 5000) bytes _ hdecode
  have hroom : AuthReplyFits oneCameraConfig.env oneCameraConfig.authConfig (cameraRequest runId) := by
    have hthree : (asBytes "cam").length = 3 := rfl
    have hreplyRoom : authReplyRoom oneCameraConfig.env oneCameraConfig.authConfig (cameraRequest runId) =
      65481 := rfl
    rw [AuthReplyFits, hreplyRoom, idsLen, cameraRequest]
    dsimp only
    omega
  rw [@continuousIteration_auth_result oneCameraConfig .datagramsOnly _ _ ⟨rfl, rfl, rfl⟩ .empty rfl 1 _ hdecode]
  obtain ⟨hok, -⟩ | ⟨errorKind, -, hlong⟩ :=
    @sendQueued_cases oneCameraConfig .datagramsOnly sendsDatagrams_datagramsOnly ⟨rfl, rfl, rfl⟩ _ _ hreply
  · exact hok
  · exact absurd (hfits.mpr hroom) hlong

end LongRunId

theorem authEntry_cameraRequest {runId : RunId} {source : PacketSource} {bytes : List UInt8}
    (hdecode : decodePacket ⟨1⟩ bytes = .ok (.authRequest (cameraRequest runId))) :
    authEntry oneCameraConfig source bytes = some ⟨"cam", source, runId, 1, none⟩ := by
  have hroute : decodeAndRoute oneCameraConfig.expectedProtocolVersion source bytes =
      .ok (.authRequest source (cameraRequest runId)) := by
    unfold decodeAndRoute
    rw [show decodePacket ⟨oneCameraConfig.expectedProtocolVersion⟩ bytes = _ from hdecode]
    rfl
  unfold authEntry
  rw [hroute]
  rfl

/-- A datagram of the continuous loop on a faultless socket. -/
def faultlessPacket (bytes : List UInt8) (timestamp : TimestampMicros) : ServerEvent :=
  .continuousPacket .datagramsOnly (cameraSource 5000) bytes timestamp

/-- What a heartbeat with a long run id does to the loop after its client was authenticated. -/
structure HeartbeatAborts (runId : RunId) (auth beat : List UInt8) : Prop where
  auth_fits : auth.length ≤ defaultUdpPacketBufferLen
  beat_fits : beat.length ≤ defaultUdpPacketBufferLen
  authenticated : (runServer oneCameraConfig [faultlessPacket auth 1]).2 = [.ok ()]
  accepted : (faultlessPacket beat 2).GateAccepts oneCameraConfig
    (runServer oneCameraConfig [faultlessPacket auth 1]).1.registry
    (.heartbeat (cameraSource 5000) (cameraBeat runId))
  aborts : ∃ errorKind, (serverStep oneCameraConfig (runServer oneCameraConfig [faultlessPacket auth 1]).1
    (faultlessPacket beat 2)).2 = .error (.receive (.send (.socketSend errorKind)))
  not_neverAborts : ¬(faultlessPacket beat 2).NeverAborts oneCameraConfig
    (runServer oneCameraConfig [faultlessPacket auth 1]).1

theorem heartbeatAborts_of_length {runId : RunId} (hlen : (asBytes runId).length = 65461) :
    ∃ auth beat, HeartbeatAborts runId auth beat := by
  obtain ⟨auth, hauth, hauthFits⟩ := encode_cameraRequest hlen
  obtain ⟨beat, hbeat, hbeatFits⟩ := encode_cameraBeat hlen
  have hauthDecode := decodePacket_of_encodeMessage hauth
  have hbeatDecode := decodePacket_of_encodeMessage hbeat
  have hstate : (runServer oneCameraConfig [faultlessPacket auth 1]).1 =
      (continuousIteration oneCameraConfig .datagramsOnly .empty (cameraSource 5000) auth 1).1 := rfl
  have hregistered := (@continuousIteration_effect oneCameraConfig .datagramsOnly rfl .empty
    (cameraSource 5000) auth 1).registry "cam"
  rw [authEntry_cameraRequest hauthDecode, ← hstate] at hregistered
  have hroute : decodeAndRoute oneCameraConfig.expectedProtocolVersion (cameraSource 5000) beat =
      .ok (.heartbeat (cameraSource 5000) (cameraBeat runId)) := by
    unfold decodeAndRoute
    rw [show decodePacket ⟨oneCameraConfig.expectedProtocolVersion⟩ beat = _ from hbeatDecode]
    rfl
  have haccepted : evaluateRoute (runServer oneCameraConfig [faultlessPacket auth 1]).1.registry
      (.heartbeat (cameraSource 5000) (cameraBeat runId)) = .accepted :=
    (evaluateRoute_eq_accepted_iff rfl).mpr ⟨_, hregistered, rfl, rfl⟩
  have hgate : handleReceivedPacketWithGate oneCameraConfig.expectedProtocolVersion
      (runServer oneCameraConfig [faultlessPacket auth 1]).1.registry (cameraSource 5000) beat =
        .ok (.heartbeat (cameraSource 5000) (cameraBeat runId)) := by
    unfold handleReceivedPacketWithGate
    simp only [hroute, haccepted]
  have hlong : ¬HeartbeatAckFits (cameraBeat runId) := by
    have hthree : (asBytes "cam").length = 3 := rfl
    rw [HeartbeatAckFits, idsLen, cameraBeat]
    dsimp only
    omega
  have hqueue := outboundQueue_empty oneCameraConfig [faultlessPacket auth 1]
  obtain ⟨-, -, -, -, -, hends⟩ := continuousIteration_heartbeat_send_iff
    sendsDatagrams_datagramsOnly ⟨rfl, rfl, rfl⟩ hqueue 2 hgate
  obtain ⟨errorKind, herror⟩ := hends.mpr hlong
  refine ⟨auth, beat, hauthFits, hbeatFits, ?_, ⟨_, _, rfl, hgate⟩, ⟨errorKind, ?_⟩, fun hnever => ?_⟩
  · have hok := continuousIteration_cameraRequest hlen hauthDecode
    simp only [runServer, run, faultlessPacket, serverStep, hok]
    rfl
  · simp only [faultlessPacket, serverStep] at herror ⊢
    rw [herror]
    rfl
  · have hio : (faultlessPacket beat 2).FaultlessIo := ⟨sendsDatagrams_datagramsOnly, rfl, rfl, rfl⟩
    exact hlong ((neverAborts_iff hqueue hio).mp hnever _ hgate)

/-- The shortest run id of the client whose heartbeats cannot be answered. -/
def longRunId : RunId := String.ofList (List.replicate 65461 'a')

/-- The gate accepts the heartbeat and its ack does not fit a datagram, so that the server stops receiving. -/
theorem authenticated_heartbeat_aborts : ∃ auth beat, HeartbeatAborts longRunId auth beat :=
  heartbeatAborts_of_length (length_asBytes_replicate 65461)

end StreamSync
