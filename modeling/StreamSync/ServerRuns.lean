import StreamSync.Lib.LatestWrite
import StreamSync.ProtocolRoundTrip
import StreamSync.ServerRuntime
import StreamSync.TimeoutSweep

namespace StreamSync

open ByteCursor Run ServerHeartbeatTimeoutMultiClientLoopBoundary

/-- A datagram for one of the two receive loops, or a pass of the timeout loop. -/
inductive ServerEvent where
  | videoQueuePacket (io : ServerIo) (source : PacketSource) (bytes : List UInt8)
      (queuedAt : TimestampMicros)
  | continuousPacket (io : ServerIo) (source : PacketSource) (bytes : List UInt8)
      (timestamp : TimestampMicros)
  | timeoutPass (write : TimeoutLogWriter) (input : ServerHeartbeatTimeoutMultiClientLoopInput)

inductive ServerStepError where
  | receive (error : ServerReceiveError)
  | timeoutLog (errorKind : IoErrorKind)
deriving DecidableEq

def serverStep (config : ServerRuntimeConfig) (state : ServerState) :
    ServerEvent → ServerState × Except ServerStepError Unit
  | .videoQueuePacket io source bytes queuedAt =>
    let result := processReceivedPacketForVideoQueue config io state source bytes queuedAt
    (result.1, (result.2.mapError .receive).map fun _ => ())
  | .continuousPacket io source bytes timestamp =>
    let result := continuousIteration config io state source bytes timestamp
    (result.1, result.2.mapError .receive)
  | .timeoutPass write input =>
    let result := runAllRegistered write state.liveness state.registry state.noticeQueue input
    ({ state with registry := result.1, noticeQueue := result.2.1 },
      (result.2.2.mapError .timeoutLog).map fun _ => ())

def runServer (config : ServerRuntimeConfig) (events : List ServerEvent) :
    ServerState × List (Except ServerStepError Unit) :=
  run (serverStep config) .empty events

/-- The states that authenticated packets are there to change. -/
structure ServerMedia where
  videoQueue : ServerVideoFrameQueueState
  reassembly : ServerVideoFrameReassemblyState
  liveness : ServerHeartbeatLivenessState
  rttOffset : ServerHeartbeatRttOffsetState

def ServerState.media (state : ServerState) : ServerMedia :=
  ⟨state.videoQueue, state.reassembly, state.liveness, state.rttOffset⟩

namespace ServerEvent

def packet? : ServerEvent → Option (PacketSource × List UInt8)
  | .videoQueuePacket _ source bytes _ => some (source, bytes)
  | .continuousPacket _ source bytes _ => some (source, bytes)
  | .timeoutPass _ _ => none

/-- The packet of the event decodes to the route. -/
def Decodes (config : ServerRuntimeConfig) (event : ServerEvent) (route : ServerInboundRoute) : Prop :=
  ∃ source bytes, event.packet? = some (source, bytes) ∧
    decodeAndRoute config.expectedProtocolVersion source bytes = .ok route

/-- The packet says it comes from the client, run and endpoint of the entry. -/
def SentBy (config : ServerRuntimeConfig) (event : ServerEvent) (entry : AuthenticatedSenderEntry) : Prop :=
  ∃ route, event.Decodes config route ∧ route.scope? = some (entry.clientId, entry.runId) ∧
    route.source = entry.source

end ServerEvent

/-- What an auth request would be registered as. -/
def routeEntry (config : ServerRuntimeConfig) : ServerInboundRoute → Option AuthenticatedSenderEntry
  | .authRequest source request =>
    (handleAuthCheck config.env ⟨source, request⟩ config.authConfig).registryRegistration.map
      (·.intoEntry)
  | _ => none

def authEntry (config : ServerRuntimeConfig) (source : PacketSource) (bytes : List UInt8) :
    Option AuthenticatedSenderEntry :=
  match decodeAndRoute config.expectedProtocolVersion source bytes with
  | .ok route => routeEntry config route
  | .error _ => none

namespace ServerEvent

/-- The entry of an accepted auth request. The continuous loop ends before the packet is handled
when its receive record cannot be written. -/
def acceptedAuth (config : ServerRuntimeConfig) : ServerEvent → Option AuthenticatedSenderEntry
  | .videoQueuePacket _ source bytes _ => authEntry config source bytes
  | .continuousPacket io source bytes _ =>
    match io.receiveLog with
    | .ok _ => authEntry config source bytes
    | .error _ => none
  | .timeoutPass _ _ => none

/-- The packet is an auth request with the right token, from the endpoint and of the run that the
entry binds its client to. -/
def Authenticates (config : ServerRuntimeConfig) (event : ServerEvent)
    (entry : AuthenticatedSenderEntry) : Prop :=
  ∃ request, event.Decodes config (.authRequest entry.source request) ∧
    AuthAccepts config.env config.authConfig request ∧
    entry = ⟨request.clientId, entry.source, request.runId, request.protocolVersion, none⟩

end ServerEvent

theorem authEntry_eq_some {config : ServerRuntimeConfig} {source : PacketSource} {bytes : List UInt8}
    {entry : AuthenticatedSenderEntry} (h : authEntry config source bytes = some entry) :
    ∃ request, decodeAndRoute config.expectedProtocolVersion source bytes =
        .ok (.authRequest entry.source request) ∧
      AuthAccepts config.env config.authConfig request ∧
      entry = ⟨request.clientId, entry.source, request.runId, request.protocolVersion, none⟩ := by
  unfold authEntry at h
  split at h
  next route hroute =>
    cases route with
    | authRequest source request =>
      obtain ⟨registration, hr, rfl⟩ := Option.map_eq_some_iff.mp h
      obtain ⟨haccepts, rfl⟩ := handleAuthCheck_registration hr
      exact ⟨request, hroute, haccepts, rfl⟩
    | _ => cases h
  next => cases h

theorem ServerEvent.authenticates_of_acceptedAuth {config : ServerRuntimeConfig} {event : ServerEvent}
    {entry : AuthenticatedSenderEntry} (h : event.acceptedAuth config = some entry) :
    event.Authenticates config entry := by
  cases event with
  | videoQueuePacket io source bytes queuedAt =>
    obtain ⟨request, hroute, haccepts, heq⟩ := authEntry_eq_some h
    exact ⟨request, ⟨source, bytes, rfl, hroute⟩, haccepts, heq⟩
  | continuousPacket io source bytes timestamp =>
    have hentry : authEntry config source bytes = some entry := by
      simp only [acceptedAuth] at h
      split at h
      next => exact h
      next => cases h
    obtain ⟨request, hroute, haccepts, heq⟩ := authEntry_eq_some hentry
    exact ⟨request, ⟨source, bytes, rfl, hroute⟩, haccepts, heq⟩
  | timeoutPass write input => cases h

theorem decodeAndRoute_eq_ok {version : ProtocolVersion} {source : PacketSource} {bytes : List UInt8}
    {route : ServerInboundRoute} (h : decodeAndRoute version source bytes = .ok route) :
    ∃ message, decodePacket ⟨version⟩ bytes = .ok message ∧ route = routeInbound source message := by
  unfold decodeAndRoute at h
  split at h
  next message hm => exact ⟨message, hm, (Except.ok.inj h).symm⟩
  next => cases h

/-- What the gate makes of a datagram, and what an auth request in it would be registered as. -/
inductive Gated (config : ServerRuntimeConfig) (registry : AuthenticatedSenderRegistry)
    (source : PacketSource) (bytes : List UInt8) :
    Except ServerReceiveLoopGateRejection ServerInboundRoute → Option AuthenticatedSenderEntry → Prop
  | rejected (rejection : ServerReceiveLoopGateRejection) :
    Gated config registry source bytes (.error rejection) none
  | auth (request : AuthRequest) :
    Gated config registry source bytes (.ok (.authRequest source request))
      ((handleAuthCheck config.env ⟨source, request⟩ config.authConfig).registryRegistration.map
        (·.intoEntry))
  | client (route : ServerInboundRoute) (clientId : ClientId) (runId : RunId)
    (decoded : decodeAndRoute config.expectedProtocolVersion source bytes = .ok route)
    (scope : route.scope? = some (clientId, runId)) (accepted : evaluateRoute registry route = .accepted) :
    Gated config registry source bytes (.ok route) none
  | unsupported (messageType : MessageType) (message : ProtocolMessage) :
    Gated config registry source bytes (.ok (.unsupportedForServer source messageType message)) none

theorem gated (config : ServerRuntimeConfig) (registry : AuthenticatedSenderRegistry)
    (source : PacketSource) (bytes : List UInt8) :
    Gated config registry source bytes
      (handleReceivedPacketWithGate config.expectedProtocolVersion registry source bytes)
      (authEntry config source bytes) := by
  unfold handleReceivedPacketWithGate authEntry
  cases hroute : decodeAndRoute config.expectedProtocolVersion source bytes with
  | error rejection => exact .rejected _
  | ok route =>
    dsimp only
    cases hgate : evaluateRoute registry route with
    | rejected rejection =>
      have hnone : routeEntry config route = none := by
        cases route with
        | authRequest _ _ => cases hgate
        | _ => rfl
      rw [hnone]
      exact .rejected _
    | accepted =>
      obtain ⟨message, -, rfl⟩ := decodeAndRoute_eq_ok hroute
      cases message with
      | authRequest request => exact .auth request
      | heartbeat beat => exact .client _ _ _ hroute rfl hgate
      | videoFrame frame => exact .client _ _ _ hroute rfl hgate
      | videoFrameFragment fragment => exact .client _ _ _ hroute rfl hgate
      | clientStats stats => exact .client _ _ _ hroute rfl hgate
      | authResponse response => exact .unsupported _ _
      | heartbeatAck ack => exact .unsupported _ _
      | serverNotice notice => exact .unsupported _ _

theorem get_registerFlow (registry : AuthenticatedSenderRegistry) (flow : ServerAuthFlowOutcome)
    (clientId : ClientId) :
    (registerFlow registry flow).get clientId =
      ((flow.registryRegistration.map (·.intoEntry)).filter (·.clientId = clientId)).or
        (registry.get clientId) := by
  unfold registerFlow
  cases flow.registryRegistration with
  | none => rfl
  | some registration =>
    simp only [AuthenticatedSenderRegistry.get_register, Option.map_some]
    by_cases h : registration.clientId = clientId
    · have hentry : registration.intoEntry.clientId = clientId := h
      rw [if_pos h, Option.filter_some, if_pos (decide_eq_true hentry)]
      rfl
    · have hentry : ¬registration.intoEntry.clientId = clientId := h
      rw [if_neg h, Option.filter_some, if_neg fun hd => hentry (of_decide_eq_true hd)]
      rfl

/-- What handling one datagram may do to the states: an accepted auth request is registered, and the
media states are changed only for the registered sender of a client packet. -/
structure PacketEffect (config : ServerRuntimeConfig) (source : PacketSource) (bytes : List UInt8)
    (auth : Option AuthenticatedSenderEntry) (before after : ServerState) : Prop where
  registry : ∀ clientId, after.registry.get clientId =
    (auth.filter (·.clientId = clientId)).or (before.registry.get clientId)
  media : after.media = before.media ∨ ∃ route clientId runId sender,
    decodeAndRoute config.expectedProtocolVersion source bytes = .ok route ∧
      route.scope? = some (clientId, runId) ∧ before.registry.get clientId = some sender ∧
      sender.Matches runId route.source
  outboundQueue : before.outboundQueue = [] → after.outboundQueue = []

namespace PacketEffect

variable {config : ServerRuntimeConfig} {source : PacketSource} {bytes : List UInt8}
  {before after : ServerState}

theorem refl : PacketEffect config source bytes none before before :=
  ⟨fun _ => rfl, .inl rfl, id⟩

end PacketEffect

theorem processReceivedPacketForVideoQueue_effect (config : ServerRuntimeConfig) (io : ServerIo)
    (state : ServerState) (source : PacketSource) (bytes : List UInt8) (queuedAt : TimestampMicros) :
    PacketEffect config source bytes (authEntry config source bytes) state
      (processReceivedPacketForVideoQueue config io state source bytes queuedAt).1 := by
  unfold processReceivedPacketForVideoQueue
  have hgated := gated config state.registry source bytes
  generalize handleReceivedPacketWithGate config.expectedProtocolVersion state.registry source bytes =
    outcome at hgated ⊢
  generalize authEntry config source bytes = auth at hgated ⊢
  cases hgated with
  | rejected rejection => exact .refl
  | auth request => exact ⟨get_registerFlow state.registry _, .inl rfl, id⟩
  | unsupported messageType message => exact .refl
  | client route clientId runId decoded scope accepted =>
    obtain ⟨sender, packet, hget, hmatches, hpacket, hprepared⟩ :=
      prepareForHandler_of_accepted scope accepted
    have hsent : ∀ after : ServerState, after.registry = state.registry →
        after.outboundQueue = state.outboundQueue →
        PacketEffect config source bytes none state after := fun after hr hq =>
      ⟨fun _ => by rw [hr]; rfl, .inr ⟨route, clientId, runId, sender, decoded, scope, hget, hmatches⟩,
        fun h => hq.trans h⟩
    cases route with
    | heartbeat source beat => exact .refl
    | clientStats source stats => exact .refl
    | videoFrame source frame =>
      cases Option.some.inj hpacket
      simp only [hprepared]
      exact hsent _ rfl rfl
    | videoFrameFragment source fragment =>
      cases Option.some.inj hpacket
      simp only [hprepared]
      exact hsent _ rfl rfl
    | authRequest source request => cases scope
    | unsupportedForServer source messageType message => cases scope

theorem runOutputs_queue (config : ServerRuntimeConfig) (io : ServerIo) (sideEffect : SideEffect) :
    (runOutputs config io [] sideEffect).1 = [] := by
  cases sideEffect with
  | auth flow =>
    cases hlog : io.authLog with
    | error errorKind => simp only [runOutputs, hlog]
    | ok _ =>
      simp only [runOutputs, hlog, outboundItem]
      cases flow.decision.accepted with
      | true => rfl
      | false => rfl
  | _ => rfl

theorem observeContinuousIteration_registry (config : ServerRuntimeConfig) (state : ServerState)
    (timestamp : TimestampMicros) (sideEffect : SideEffect) :
    (observeContinuousIteration config state timestamp sideEffect).registry = state.registry ∧
      (observeContinuousIteration config state timestamp sideEffect).outboundQueue =
        state.outboundQueue := by
  cases sideEffect with
  | clientStats input =>
    simp only [observeContinuousIteration]
    split
    next => exact ⟨rfl, rfl⟩
    next => split <;> exact ⟨rfl, rfl⟩
  | _ => exact ⟨rfl, rfl⟩

theorem finishIteration_registry (config : ServerRuntimeConfig) (io : ServerIo) (state : ServerState)
    (timestamp : TimestampMicros) (sideEffect : SideEffect) :
    (finishIteration config io state timestamp sideEffect).1.registry =
        applySideEffect state.registry sideEffect ∧
      (finishIteration config io state timestamp sideEffect).1.outboundQueue =
        (runOutputs config io state.outboundQueue sideEffect).1 := by
  unfold finishIteration
  dsimp only
  split
  next => exact ⟨rfl, rfl⟩
  next => exact observeContinuousIteration_registry config _ timestamp sideEffect

/-- Only the observation of a side effect touches the media states. -/
theorem finishIteration_media {config : ServerRuntimeConfig} {timestamp : TimestampMicros}
    {sideEffect : SideEffect}
    (h : ∀ state, (observeContinuousIteration config state timestamp sideEffect).media = state.media)
    (io : ServerIo) (state : ServerState) :
    (finishIteration config io state timestamp sideEffect).1.media = state.media := by
  unfold finishIteration
  dsimp only
  split
  next => rfl
  next => exact h _

theorem continuousIteration_effect (config : ServerRuntimeConfig) {io : ServerIo}
    (hlog : io.receiveLog = .ok ()) (state : ServerState) (source : PacketSource) (bytes : List UInt8)
    (timestamp : TimestampMicros) :
    PacketEffect config source bytes (authEntry config source bytes) state
      (continuousIteration config io state source bytes timestamp).1 := by
  unfold continuousIteration
  simp only [hlog]
  have hqueue : ∀ sideEffect, state.outboundQueue = [] →
      (finishIteration config io state timestamp sideEffect).1.outboundQueue = [] := by
    intro sideEffect h
    rw [(finishIteration_registry config io state timestamp sideEffect).2, h]
    exact runOutputs_queue config io sideEffect
  have hgated := gated config state.registry source bytes
  generalize handleReceivedPacketWithGate config.expectedProtocolVersion state.registry source bytes =
    outcome at hgated ⊢
  generalize authEntry config source bytes = auth at hgated ⊢
  cases hgated with
  | rejected rejection =>
    refine ⟨fun clientId => ?_, .inl (finishIteration_media (fun _ => rfl) io state), hqueue _⟩
    rw [(finishIteration_registry config io state timestamp _).1]
    rfl
  | unsupported messageType message =>
    refine ⟨fun clientId => ?_, .inl (finishIteration_media (fun _ => rfl) io state), hqueue _⟩
    rw [(finishIteration_registry config io state timestamp _).1]
    rfl
  | auth request =>
    refine ⟨fun clientId => ?_, .inl (finishIteration_media (fun _ => rfl) io state), hqueue _⟩
    rw [(finishIteration_registry config io state timestamp _).1]
    exact get_registerFlow state.registry _ clientId
  | client route clientId runId decoded scope accepted =>
    obtain ⟨sender, packet, hget, hmatches, hpacket, hprepared⟩ :=
      prepareForHandler_of_accepted scope accepted
    refine ⟨fun other => ?_,
      .inr ⟨route, clientId, runId, sender, decoded, scope, hget, hmatches⟩, hqueue _⟩
    rw [(finishIteration_registry config io state timestamp _).1]
    cases route with
    | authRequest source request => cases scope
    | unsupportedForServer source messageType message => cases scope
    | _ =>
      cases Option.some.inj hpacket
      simp only [prepareHandlerHandoff, hprepared]
      rfl

/-- The ack of a heartbeat that was decoded can be encoded. -/
theorem encodeMessage_handoffAck {version : ProtocolVersion} {bytes : List UInt8}
    (packet : ServerRegisteredHeartbeatPacket)
    (h : decodePacket ⟨version⟩ bytes = .ok (.heartbeat packet.heartbeat))
    (timing : ServerHeartbeatAckTiming) :
    ∃ encoded, encodeMessage ⟨version⟩ (handoffAck packet timing).queueItem.message [] = .ok encoded := by
  obtain ⟨view, -, -, hpayload⟩ := decodePacket_eq_ok_iff.mp h
  obtain ⟨-, -, -, hcat⟩ := decodePayloadByMessageType_eq_ok_iff.mp hpayload
  obtain ⟨client, rest, hclient, hrest, -⟩ := Layout.cat_cons_eq_some.mp hcat
  obtain ⟨run, -, hrun, -, -⟩ := Layout.cat_cons_eq_some.mp hrest
  have hclientLength := length_of_stringLayout hclient
  have hrunLength := length_of_stringLayout hrun
  obtain ⟨payload, hack, hlength⟩ : ∃ payload,
      Layout.cat (handoffAck packet timing).queueItem.message.layout = some payload ∧
        payload.length < 2 ^ 32 := by
    simp only [handoffAck, ProtocolMessage.layout, HeartbeatAck.layout, Layout.cat_cons, Layout.cat_nil,
      prepareHeartbeatInputs, hclient, hrun, u64Layout, Option.bind_some, Option.map_some]
    refine ⟨_, rfl, ?_⟩
    simp only [List.length_append, length_u64ToLe, List.length_nil]
    omega
  exact ⟨_, encodeMessage_eq_ok_iff.mpr ⟨payload, hack, hlength, rfl⟩⟩

/-- The errors by which the socket or a log writer can end the handling of a client packet. -/
inductive ServerIo.Fails (io : ServerIo) : ServerReceiveError → Prop
  | receiveLog {errorKind : IoErrorKind} (h : io.receiveLog = .error errorKind) :
    io.Fails (.receiveBody errorKind)
  | sendLog {errorKind : IoErrorKind} (h : io.sendLog = .error errorKind) : io.Fails (.sendLog errorKind)
  | send {destination : PacketSource} {bytes : List UInt8} {errorKind : IoErrorKind}
    (h : io.send destination bytes = .error errorKind) : io.Fails (.send (.socketSend errorKind))

theorem sendQueued_error {config : ServerRuntimeConfig} {io : ServerIo} {item : OutboundPacket}
    {encoded : List UInt8} (henc : encodeMessage ⟨config.expectedProtocolVersion⟩ item.message [] = .ok encoded)
    {error : ServerReceiveError} (h : sendQueued config io item = .error error) : io.Fails error := by
  unfold sendQueued encodeAndSend at h
  rw [henc] at h
  cases hlog : io.sendLog with
  | error errorKind =>
    rw [hlog] at h
    cases h
    exact .sendLog hlog
  | ok _ =>
    rw [hlog] at h
    cases hsend : io.send item.destination encoded with
    | ok _ =>
      simp [hsend, Except.mapError, bind, Except.bind] at h
    | error errorKind =>
      simp [hsend, Except.mapError, bind, Except.bind] at h
      cases h
      exact .send hsend

theorem finishIteration_result (config : ServerRuntimeConfig) (io : ServerIo) (state : ServerState)
    (timestamp : TimestampMicros) (sideEffect : SideEffect) :
    (finishIteration config io state timestamp sideEffect).2 =
      (runOutputs config io state.outboundQueue sideEffect).2 := by
  unfold finishIteration
  dsimp only
  split
  next error h => exact h.symm
  next h => exact h.symm

/-- The gate accepts the packet of the event, for the route. -/
def ServerEvent.GateAccepts (config : ServerRuntimeConfig) (registry : AuthenticatedSenderRegistry)
    (event : ServerEvent) (route : ServerInboundRoute) : Prop :=
  ∃ source bytes, event.packet? = some (source, bytes) ∧
    handleReceivedPacketWithGate config.expectedProtocolVersion registry source bytes = .ok route

/-- An error of the sockets and log writers of the continuous loop; a client packet of the video
queue loop does no I/O. -/
inductive ServerEvent.IoFailure : ServerEvent → ServerStepError → Prop
  | continuousPacket {io : ServerIo} {source : PacketSource} {bytes : List UInt8}
    {timestamp : TimestampMicros} {error : ServerReceiveError} (h : io.Fails error) :
    IoFailure (.continuousPacket io source bytes timestamp) (.receive error)

theorem evaluateRoute_of_gate {version : ProtocolVersion} {registry : AuthenticatedSenderRegistry}
    {source : PacketSource} {bytes : List UInt8} {route : ServerInboundRoute}
    (h : handleReceivedPacketWithGate version registry source bytes = .ok route) :
    decodeAndRoute version source bytes = .ok route ∧ evaluateRoute registry route = .accepted := by
  unfold handleReceivedPacketWithGate at h
  split at h
  next => cases h
  next found hroute =>
    split at h
    next hgate =>
      cases Except.ok.inj h
      exact ⟨hroute, hgate⟩
    next => cases h

theorem processReceivedPacketForVideoQueue_client {config : ServerRuntimeConfig} (io : ServerIo)
    {state : ServerState} {source : PacketSource} {bytes : List UInt8} {route : ServerInboundRoute}
    {scope : ClientId × RunId} (queuedAt : TimestampMicros)
    (hg : handleReceivedPacketWithGate config.expectedProtocolVersion state.registry source bytes = .ok route)
    (hs : route.scope? = some scope) :
    ∃ stored, (processReceivedPacketForVideoQueue config io state source bytes queuedAt).2 = .ok stored := by
  obtain ⟨-, hgate⟩ := evaluateRoute_of_gate hg
  obtain ⟨sender, packet, -, -, hpacket, hprepared⟩ := prepareForHandler_of_accepted hs hgate
  unfold processReceivedPacketForVideoQueue
  rw [hg]
  cases route with
  | heartbeat source beat => exact ⟨none, rfl⟩
  | clientStats source stats => exact ⟨none, rfl⟩
  | videoFrame source frame =>
    cases Option.some.inj hpacket
    simp only [hprepared]
    exact ⟨_, rfl⟩
  | videoFrameFragment source fragment =>
    cases Option.some.inj hpacket
    simp only [hprepared]
    exact ⟨_, rfl⟩
  | authRequest source request => cases hs
  | unsupportedForServer source messageType message => cases hs

/-- The continuous loop answers no client packet but a heartbeat. -/
theorem continuousIteration_unanswered {config : ServerRuntimeConfig} {io : ServerIo}
    (hlog : io.receiveLog = .ok ()) {state : ServerState} (hqueue : state.outboundQueue = [])
    {source : PacketSource} {bytes : List UInt8} {route : ServerInboundRoute} {scope : ClientId × RunId}
    (timestamp : TimestampMicros)
    (hg : handleReceivedPacketWithGate config.expectedProtocolVersion state.registry source bytes = .ok route)
    (hs : route.scope? = some scope) (hbeat : ∀ from' beat, route ≠ .heartbeat from' beat) :
    (continuousIteration config io state source bytes timestamp).2 = .ok () := by
  obtain ⟨-, hgate⟩ := evaluateRoute_of_gate hg
  obtain ⟨sender, packet, -, -, hpacket, hprepared⟩ := prepareForHandler_of_accepted hs hgate
  simp only [continuousIteration, hlog, hg, finishIteration_result, hqueue]
  cases route with
  | heartbeat source beat => exact absurd rfl (hbeat source beat)
  | authRequest source request => cases hs
  | unsupportedForServer source messageType message => cases hs
  | _ =>
    cases Option.some.inj hpacket
    simp only [prepareHandlerHandoff, hprepared]
    rfl

theorem continuousIteration_client {config : ServerRuntimeConfig} {io : ServerIo}
    {state : ServerState} (hqueue : state.outboundQueue = []) {source : PacketSource}
    {bytes : List UInt8} {route : ServerInboundRoute} {scope : ClientId × RunId}
    {timestamp : TimestampMicros}
    (hg : handleReceivedPacketWithGate config.expectedProtocolVersion state.registry source bytes = .ok route)
    (hs : route.scope? = some scope) {error : ServerReceiveError}
    (h : (continuousIteration config io state source bytes timestamp).2 = .error error) :
    io.Fails error := by
  obtain ⟨hroute, hgate⟩ := evaluateRoute_of_gate hg
  cases hlog : io.receiveLog with
  | error errorKind =>
    simp only [continuousIteration, hlog] at h
    cases h
    exact .receiveLog hlog
  | ok _ =>
    by_cases hbeat : ∀ from' beat, route ≠ .heartbeat from' beat
    · rw [continuousIteration_unanswered hlog hqueue timestamp hg hs hbeat] at h
      cases h
    · push Not at hbeat
      obtain ⟨from', beat, rfl⟩ := hbeat
      obtain ⟨sender, packet, -, -, hpacket, hprepared⟩ := prepareForHandler_of_accepted hs hgate
      simp only [continuousIteration, hlog, hg, finishIteration_result, hqueue] at h
      cases Option.some.inj hpacket
      simp only [prepareHandlerHandoff, hprepared] at h
      obtain ⟨message, hdecoded, hmessage⟩ := decodeAndRoute_eq_ok hroute
      have hbeat : message = .heartbeat beat := by
        cases message <;> cases hmessage
        rfl
      obtain ⟨encoded, henc⟩ := encodeMessage_handoffAck ⟨from', sender, beat⟩
        (hbeat ▸ hdecoded) ⟨timestamp, timestamp⟩
      exact sendQueued_error henc h

theorem runAllRegistered_get {write : TimeoutLogWriter} {liveness : ServerHeartbeatLivenessState}
    {registry : AuthenticatedSenderRegistry} {noticeQueue : List OutboundPacket}
    {input : ServerHeartbeatTimeoutMultiClientLoopInput} {clientId : ClientId}
    {entry : AuthenticatedSenderEntry}
    (h : (runAllRegistered write liveness registry noticeQueue input).1.get clientId = some entry) :
    registry.get clientId = some entry := by
  rcases get_runAllRegistered write liveness registry noticeQueue input clientId with hkept | ⟨hnone, -⟩
  · exact hkept.symm.trans h
  · cases hnone.symm.trans h

section Step

variable {config : ServerRuntimeConfig} {state : ServerState} {event : ServerEvent}

/-- A step leaves a cell of the registry as it was, empties it, or writes an accepted sender to it. -/
theorem serverStep_registry {clientId : ClientId} {entry : AuthenticatedSenderEntry}
    (h : (serverStep config state event).1.registry.get clientId = some entry) :
    written (ServerEvent.acceptedAuth config) (·.clientId) event clientId (state.registry.get clientId) =
      some entry := by
  cases event with
  | videoQueuePacket io source bytes queuedAt =>
    have heffect := processReceivedPacketForVideoQueue_effect config io state source bytes queuedAt
    exact (heffect.registry clientId).symm.trans h
  | continuousPacket io source bytes timestamp =>
    cases hlog : io.receiveLog with
    | ok _ =>
      have heffect := continuousIteration_effect config hlog state source bytes timestamp
      have hauth : ServerEvent.acceptedAuth config (.continuousPacket io source bytes timestamp) =
          authEntry config source bytes := by simp only [ServerEvent.acceptedAuth, hlog]
      rw [written, hauth]
      exact (heffect.registry clientId).symm.trans h
    | error errorKind =>
      simp only [serverStep, continuousIteration, hlog] at h
      simp only [written, ServerEvent.acceptedAuth, hlog, Option.filter_none, Option.none_or]
      exact h
  | timeoutPass write input => exact runAllRegistered_get h

/-- A step that changes a media state handles a packet of the registered sender. -/
theorem serverStep_media (h : (serverStep config state event).1.media ≠ state.media) :
    ∃ clientId entry route, event.Decodes config route ∧ route.scope? = some (clientId, entry.runId) ∧
      route.source = entry.source ∧ state.registry.get clientId = some entry := by
  cases event with
  | videoQueuePacket io source bytes queuedAt =>
    have heffect := processReceivedPacketForVideoQueue_effect config io state source bytes queuedAt
    obtain ⟨route, clientId, runId, sender, hroute, hscope, hget, hsource, rfl⟩ :=
      heffect.media.resolve_left h
    exact ⟨clientId, sender, route, ⟨source, bytes, rfl, hroute⟩, hscope, hsource.symm, hget⟩
  | continuousPacket io source bytes timestamp =>
    cases hlog : io.receiveLog with
    | ok _ =>
      have heffect := continuousIteration_effect config hlog state source bytes timestamp
      obtain ⟨route, clientId, runId, sender, hroute, hscope, hget, hsource, rfl⟩ :=
        heffect.media.resolve_left h
      exact ⟨clientId, sender, route, ⟨source, bytes, rfl, hroute⟩, hscope, hsource.symm, hget⟩
    | error errorKind =>
      refine absurd ?_ h
      simp only [serverStep, continuousIteration, hlog]
  | timeoutPass write input => exact absurd rfl h

theorem serverStep_outboundQueue (h : state.outboundQueue = []) :
    (serverStep config state event).1.outboundQueue = [] := by
  cases event with
  | videoQueuePacket io source bytes queuedAt =>
    exact (processReceivedPacketForVideoQueue_effect config io state source bytes queuedAt).outboundQueue h
  | continuousPacket io source bytes timestamp =>
    cases hlog : io.receiveLog with
    | ok _ => exact (continuousIteration_effect config hlog state source bytes timestamp).outboundQueue h
    | error errorKind =>
      simp only [serverStep, continuousIteration, hlog]
      exact h
  | timeoutPass write input => exact h

/-- A client packet that passed the gate fails in the step only when the socket or a writer does. -/
theorem serverStep_client (hqueue : state.outboundQueue = []) {route : ServerInboundRoute}
    {scope : ClientId × RunId} (hg : event.GateAccepts config state.registry route)
    (hs : route.scope? = some scope) {error : ServerStepError}
    (h : (serverStep config state event).2 = .error error) : event.IoFailure error := by
  obtain ⟨source, bytes, hpacket, hg⟩ := hg
  cases event with
  | videoQueuePacket io source bytes queuedAt =>
    cases Option.some.inj hpacket
    obtain ⟨stored, hstored⟩ := processReceivedPacketForVideoQueue_client io queuedAt hg hs
    simp only [serverStep, hstored] at h
    cases h
  | continuousPacket io source bytes timestamp =>
    cases Option.some.inj hpacket
    cases hresult : (continuousIteration config io state source bytes timestamp).2 with
    | ok _ =>
      simp only [serverStep, hresult] at h
      cases h
    | error failure =>
      simp only [serverStep, hresult] at h
      cases h
      exact .continuousPacket (continuousIteration_client hqueue hg hs hresult)
  | timeoutPass write input => cases hpacket

end Step

end StreamSync
