import StreamSync.ProtocolDecode
import StreamSync.ProtocolEncode
import StreamSync.Reassembly
import StreamSync.RttOffset

namespace StreamSync

open KeyedTable

structure ServerRuntimeConfig where
  expectedProtocolVersion : ProtocolVersion
  authConfig : ServerAuthConfig
  env : Environment
  videoQueuePolicy : ServerVideoFrameQueuePolicy
  outlierPolicy : ServerHeartbeatRttOffsetOutlierPolicy

structure ClientRunKey where
  clientId : ClientId
  runId : RunId
deriving DecidableEq, Repr

namespace ClientRunKey

instance : Ord ClientRunKey where
  compare a b := (compare a.clientId b.clientId).then (compare a.runId b.runId)

instance : Std.TransOrd ClientRunKey :=
  inferInstanceAs (Std.TransCmp (compareLex (compareOn ClientRunKey.clientId)
    (compareOn ClientRunKey.runId)))

instance : Std.LawfulEqOrd ClientRunKey where
  eq_of_compare {a b} h := by
    obtain ⟨ac, ar⟩ := a
    obtain ⟨bc, br⟩ := b
    obtain ⟨hc, hr⟩ := Ordering.then_eq_eq.mp h
    cases Std.LawfulEqOrd.eq_of_compare hc
    cases Std.LawfulEqOrd.eq_of_compare hr
    rfl

end ClientRunKey

/-- The states that the receive loops and the timeout pass own between them. -/
structure ServerState where
  registry : AuthenticatedSenderRegistry
  outboundQueue : List OutboundPacket
  noticeQueue : List OutboundPacket
  videoQueue : ServerVideoFrameQueueState
  reassembly : ServerVideoFrameReassemblyState
  liveness : ServerHeartbeatLivenessState
  rttOffset : ServerHeartbeatRttOffsetState
  heartbeatHandoffs : Table ClientRunKey ServerHeartbeatAckHandoff

def ServerState.empty : ServerState where
  registry := .empty
  outboundQueue := []
  noticeQueue := []
  videoQueue := .empty
  reassembly := .empty
  liveness := .empty
  rttOffset := .empty
  heartbeatHandoffs := ∅

/-- What the socket and the log writers do while one packet is processed. -/
structure ServerIo where
  receiveLog : Except IoErrorKind Unit
  authLog : Except IoErrorKind Unit
  send : PacketSource → List UInt8 → Except IoErrorKind Unit
  sendLog : Except IoErrorKind Unit

inductive ServerDecodeErrorAction where
  | dropPacket | rejectProtocolVersion
deriving DecidableEq, Repr

def classifyProtocolError : ProtocolError → ServerDecodeErrorAction
  | .unsupportedProtocolVersion _ _ => .rejectProtocolVersion
  | _ => .dropPacket

structure ServerRejectedPacket where
  source : PacketSource
  action : ServerDecodeErrorAction
  error : ProtocolError
deriving DecidableEq, Repr

def decodeAndRoute (expectedProtocolVersion : ProtocolVersion) (source : PacketSource)
    (packetBytes : List UInt8) : Except ServerRejectedPacket ServerInboundRoute :=
  match decodePacket ⟨expectedProtocolVersion⟩ packetBytes with
  | .ok message => .ok (routeInbound source message)
  | .error error => .error ⟨source, classifyProtocolError error, error⟩

inductive ServerReceiveLoopGateRejection where
  | decode (rejection : ServerRejectedPacket)
  | acceptance (rejection : PacketAcceptanceRejection)
deriving DecidableEq, Repr

def handleReceivedPacketWithGate (expectedProtocolVersion : ProtocolVersion)
    (registry : AuthenticatedSenderRegistry) (source : PacketSource) (packetBytes : List UInt8) :
    Except ServerReceiveLoopGateRejection ServerInboundRoute :=
  match decodeAndRoute expectedProtocolVersion source packetBytes with
  | .error rejection => .error (.decode rejection)
  | .ok route =>
    match evaluateRoute registry route with
    | .accepted => .ok route
    | .rejected rejection => .error (.acceptance rejection)

inductive ServerOutboundSendError where
  | encode (error : ProtocolError)
  | socketSend (errorKind : IoErrorKind)
deriving DecidableEq, Repr

/-- Encodes one outbound packet and sends it. -/
def encodeAndSend (config : ServerRuntimeConfig) (io : ServerIo) (packet : OutboundPacket) :
    Except ServerOutboundSendError Unit := do
  let bytes ← (encodeMessage ⟨config.expectedProtocolVersion⟩ packet.message []).mapError .encode
  (io.send packet.destination bytes).mapError .socketSend

def registerFlow (registry : AuthenticatedSenderRegistry) (flow : ServerAuthFlowOutcome) :
    AuthenticatedSenderRegistry :=
  match flow.registryRegistration with
  | some registration => registry.register registration
  | none => registry

/-- `ServerAuthResponsePocStep::handle_route` of an auth request: the sender is registered before
the response is sent. -/
def handleAuthRoute (config : ServerRuntimeConfig) (io : ServerIo)
    (registry : AuthenticatedSenderRegistry) (source : PacketSource) (request : AuthRequest) :
    AuthenticatedSenderRegistry × Except ServerOutboundSendError Unit :=
  let flow := handleAuthCheck config.env ⟨source, request⟩ config.authConfig
  (registerFlow registry flow, encodeAndSend config io flow.queueItem)

inductive ServerReceiveError where
  | auth (error : ServerOutboundSendError)
  | registered (error : ServerRegisteredPacketBoundaryError)
  | receiveBody (errorKind : IoErrorKind)
  | outputApply (errorKind : IoErrorKind)
  | sendLog (errorKind : IoErrorKind)
  | send (error : ServerOutboundSendError)
deriving DecidableEq

/-- `process_received_packet_for_video_queue`; an error ends the loop it is called from. -/
def processReceivedPacketForVideoQueue (config : ServerRuntimeConfig) (io : ServerIo)
    (state : ServerState) (source : PacketSource) (bytes : List UInt8) (queuedAt : TimestampMicros) :
    ServerState × Except ServerReceiveError (Option ServerVideoFrameQueueStorageResult) :=
  match handleReceivedPacketWithGate config.expectedProtocolVersion state.registry source bytes with
  | .error _ => (state, .ok none)
  | .ok (.authRequest source request) =>
    let result := handleAuthRoute config io state.registry source request
    ({ state with registry := result.1 }, (result.2.mapError .auth).map fun _ => none)
  | .ok (.videoFrame source frame) =>
    match prepareForHandler state.registry (.videoFrame source frame) with
    | .error error => (state, .error (.registered error))
    | .ok (.videoFrame packet) =>
      let stored := storeFrame state.videoQueue (prepareVideoFrameInput packet) queuedAt .default
      ({ state with videoQueue := stored.1 }, .ok (some stored.2))
    | .ok _ => (state, .ok none)
  | .ok (.videoFrameFragment source fragment) =>
    match prepareForHandler state.registry (.videoFrameFragment source fragment) with
    | .error error => (state, .error (.registered error))
    | .ok (.videoFrameFragment packet) =>
      let result := applyFragmentAndQueueIfComplete state.reassembly state.videoQueue packet queuedAt
        .default
      let queued :=
        match result.2.2 with
        | .frameComplete _ _ queueResult => some queueResult
        | _ => none
      ({ state with reassembly := result.1, videoQueue := result.2.1 }, .ok queued)
    | .ok _ => (state, .ok none)
  | .ok _ => (state, .ok none)

inductive HandlerHandoffPlan where
  | auth (check : ServerAuthCheck)
  | registeredClient (packet : ServerRegisteredClientPacket)
  | unsupported (source : PacketSource) (messageType : MessageType)
  | registeredPacketError (error : ServerRegisteredPacketBoundaryError)
  | rejectedOutcome
deriving DecidableEq

/-- `ServerContinuousReceiveLoopHandlerHandoffRuntimeBoundary::prepare_handler_handoff`. -/
def prepareHandlerHandoff (registry : AuthenticatedSenderRegistry) :
    ServerInboundRoute → HandlerHandoffPlan
  | .authRequest source request => .auth ⟨source, request⟩
  | .unsupportedForServer source messageType _ => .unsupported source messageType
  | route =>
    match prepareForHandler registry route with
    | .ok packet => .registeredClient packet
    | .error error => .registeredPacketError error

inductive SideEffect where
  | auth (flow : ServerAuthFlowOutcome)
  | heartbeatAck (handoff : ServerHeartbeatAckHandoff)
  | videoFrame (input : ServerVideoFrameHandlerInput)
  | clientStats (input : ServerClientStatsHandlerInput)
  | videoFrameFragment (packet : ServerRegisteredVideoFrameFragmentPacket)
  | noDispatch (plan : HandlerHandoffPlan)
deriving DecidableEq

/-- What the dispatch runtimes make of a plan. -/
def dispatchPlan (config : ServerRuntimeConfig) (timing : ServerHeartbeatAckTiming) :
    HandlerHandoffPlan → SideEffect
  | .auth check => .auth (handleAuthCheck config.env check config.authConfig)
  | .registeredClient (.heartbeat packet) => .heartbeatAck (handoffAck packet timing)
  | .registeredClient (.videoFrame packet) => .videoFrame (prepareVideoFrameInput packet)
  | .registeredClient (.videoFrameFragment packet) => .videoFrameFragment packet
  | .registeredClient (.clientStats packet) => .clientStats (prepareClientStatsInput packet)
  | plan => .noDispatch plan

def applySideEffect (registry : AuthenticatedSenderRegistry) :
    SideEffect → AuthenticatedSenderRegistry
  | .auth flow => registerFlow registry flow
  | _ => registry

/-- The message a side effect wants to send: an accepted auth response or a heartbeat ack. -/
def outboundItem : SideEffect → Option OutboundPacket
  | .auth flow => if flow.decision.accepted then some flow.queueItem else none
  | .heartbeatAck handoff => some handoff.queueItem
  | _ => none

/-- One dequeued item to the socket; a failure is logged before it is returned. -/
def sendQueued (config : ServerRuntimeConfig) (io : ServerIo) (item : OutboundPacket) :
    Except ServerReceiveError Unit :=
  match encodeAndSend config io item, io.sendLog with
  | _, .error errorKind => .error (.sendLog errorKind)
  | .ok _, .ok _ => .ok ()
  | .error error, .ok _ => .error (.send error)

/-- The output half of `ServerReceiveSendOneIterationRuntimeBoundary::run_once`. -/
def runOutputs (config : ServerRuntimeConfig) (io : ServerIo) (queue : List OutboundPacket)
    (sideEffect : SideEffect) : List OutboundPacket × Except ServerReceiveError Unit :=
  match sideEffect, io.authLog with
  | .auth _, .error errorKind => (queue, .error (.outputApply errorKind))
  | _, _ =>
    let queue :=
      match outboundItem sideEffect with
      | some item => pushOutbound queue item
      | none => queue
    match queue with
    | [] => ([], .ok ())
    | item :: rest => (rest, sendQueued config io item)

/-- The states that `observe_continuous_iteration` commits to. -/
def observeContinuousIteration (config : ServerRuntimeConfig) (state : ServerState)
    (timestamp : TimestampMicros) : SideEffect → ServerState
  | .heartbeatAck handoff =>
    let heartbeat := handoff.registeredPacket.heartbeat
    { state with
      heartbeatHandoffs :=
        state.heartbeatHandoffs.insert ⟨heartbeat.clientId, heartbeat.runId⟩ handoff
      liveness := commitLiveness state.liveness handoff.processingInputs.state }
  | .clientStats input =>
    match state.heartbeatHandoffs[(⟨input.state.clientId, input.state.runId⟩ : ClientRunKey)]? with
    | none => state
    | some handoff =>
      match calculateFromClientStats handoff input with
      | .error _ => state
      | .ok calculation =>
        { state with
          rttOffset :=
            (evaluateAndCommit state.rttOffset calculation config.outlierPolicy (some timestamp)).1 }
  | .videoFrame input =>
    { state with
      videoQueue := (storeFrame state.videoQueue input timestamp config.videoQueuePolicy).1 }
  | .videoFrameFragment packet =>
    let result := applyFragmentAndQueueIfComplete state.reassembly state.videoQueue packet timestamp
      config.videoQueuePolicy
    { state with reassembly := result.1, videoQueue := result.2.1 }
  | .auth _ => state
  | .noDispatch _ => state

/-- An iteration from its side effect on: the outputs, and the observation when they went out. -/
def finishIteration (config : ServerRuntimeConfig) (io : ServerIo) (state : ServerState)
    (timestamp : TimestampMicros) (sideEffect : SideEffect) :
    ServerState × Except ServerReceiveError Unit :=
  let outputs := runOutputs config io state.outboundQueue sideEffect
  let state := { state with
    registry := applySideEffect state.registry sideEffect, outboundQueue := outputs.1 }
  match outputs.2 with
  | .error error => (state, .error error)
  | .ok _ => (observeContinuousIteration config state timestamp sideEffect, .ok ())

/-- One iteration of the continuous runtime that receives a packet. -/
def continuousIteration (config : ServerRuntimeConfig) (io : ServerIo) (state : ServerState)
    (source : PacketSource) (bytes : List UInt8) (timestamp : TimestampMicros) :
    ServerState × Except ServerReceiveError Unit :=
  let outcome := handleReceivedPacketWithGate config.expectedProtocolVersion state.registry source bytes
  match io.receiveLog with
  | .error errorKind => (state, .error (.receiveBody errorKind))
  | .ok _ =>
    let plan :=
      match outcome with
      | .ok route => prepareHandlerHandoff state.registry route
      | .error _ => .rejectedOutcome
    finishIteration config io state timestamp (dispatchPlan config ⟨timestamp, timestamp⟩ plan)

end StreamSync
