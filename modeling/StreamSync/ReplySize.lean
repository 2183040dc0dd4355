import StreamSync.ServerAuthentication

namespace StreamSync

open ByteCursor

/-- `DEFAULT_UDP_PACKET_BUFFER_LEN`: as much as one UDP datagram carries. -/
def defaultUdpPacketBufferLen : Nat := 65507

/-- The bytes of the two ids that every reply repeats. -/
def idsLen (clientId : ClientId) (runId : RunId) : Nat :=
  (asBytes clientId).length + (asBytes runId).length

/-- How many bytes the ids of an auth request may take, by what the config has for it: each finding is
reported in a text of its own, and the right token without one. -/
def authReplyRoom (env : Environment) (config : ServerAuthConfig) (request : AuthRequest) : Nat :=
  match config.sharedTokens.mapM (resolveToken env) with
  | .error (.missingEnvironmentVariable _ _) => 65435
  | .error (.emptyEnvironmentVariable _ _) => 65437
  | .error (.invalidEnvironmentVariable _ _) => 65435
  | .error (.unsupportedSecretStore _ _) => 65434
  | .ok sharedTokens =>
    match config.allowedClients.find? (fun client => client.clientId = request.clientId) with
    | none => 65462
    | some allowedClient =>
      match sharedTokens.find? (fun token => token.tokenId = allowedClient.sharedTokenId) with
      | none => 65439
      | some sharedToken => if request.sharedToken = sharedToken.material then 65481 else 65459

/-- The request presents the token that the config has for its client. -/
def PresentsToken (env : Environment) (config : ServerAuthConfig) (request : AuthRequest) : Prop :=
  ∃ sharedTokens allowedClient sharedToken, config.sharedTokens.mapM (resolveToken env) = .ok sharedTokens ∧
    config.allowedClients.find? (fun client => client.clientId = request.clientId) = some allowedClient ∧
    sharedTokens.find? (fun token => token.tokenId = allowedClient.sharedTokenId) = some sharedToken ∧
    request.sharedToken = sharedToken.material

def AuthReplyFits (env : Environment) (config : ServerAuthConfig) (request : AuthRequest) : Prop :=
  idsLen request.clientId request.runId ≤ authReplyRoom env config request

def HeartbeatAckFits (heartbeat : Heartbeat) : Prop := idsLen heartbeat.clientId heartbeat.runId ≤ 65463

/-- A socket that sends what a datagram carries, and fails with more. -/
def SendsDatagrams (send : PacketSource → List UInt8 → Except IoErrorKind Unit) : Prop :=
  ∀ destination bytes, (∃ errorKind, send destination bytes = .error errorKind) ↔
    defaultUdpPacketBufferLen < bytes.length

/-- No record fails to be written. -/
structure ServerIo.WritesLogs (io : ServerIo) : Prop where
  receive : io.receiveLog = .ok ()
  auth : io.authLog = .ok ()
  send : io.sendLog = .ok ()

section Encoding

variable {version : ProtocolVersion}

theorem length_asBytes_of_stringLayout {value : String} {bytes : List UInt8}
    (h : stringLayout value = some bytes) : (asBytes value).length < 2 ^ 16 := by
  unfold stringLayout at h
  split at h
  next hl => exact hl
  next => cases h

theorem length_of_encodeMessage {message : ProtocolMessage} {packet payload : List UInt8}
    (hcat : Layout.cat message.layout = some payload) (hlen : payload.length < 2 ^ 32)
    (hpacket : packet = encodeFixedHeader message.messageType version
      (UInt32.ofNat payload.length) [] ++ payload) :
    encodeMessage ⟨version⟩ message [] = .ok packet ∧ packet.length = 16 + payload.length := by
  refine ⟨encodeMessage_eq_ok_iff.mpr ⟨payload, hcat, hlen, hpacket⟩, ?_⟩
  rw [hpacket, encodeFixedHeader_eq_bytes, List.length_append, FixedHeader.length_bytes]

/-- The bytes that a text takes beyond its presence tag. -/
def replyTextLen : Option String → Nat
  | some text => 2 + (asBytes text).length
  | none => 0

/-- An auth response, which carries no time and no version, is as long as its ids and its text. -/
theorem encode_buildAuthResponse_length {decision : ServerAuthDecision}
    (hclient : (asBytes decision.clientId).length < 2 ^ 16)
    (hrun : (asBytes decision.runId).length < 2 ^ 16)
    (htext : replyTextLen decision.message < 2 ^ 16) (htime : decision.serverTime = none)
    (hexpected : decision.expectedProtocolVersion = none) :
    ∃ packet, encodeMessage ⟨version⟩ (buildAuthResponse decision).message [] = .ok packet ∧
      packet.length = 26 + idsLen decision.clientId decision.runId + replyTextLen decision.message := by
  have hclientLayout : stringLayout decision.clientId = some _ := if_pos hclient
  have hrunLayout : stringLayout decision.runId = some _ := if_pos hrun
  obtain ⟨text, htextLayout, hlength⟩ : ∃ text, optionalLayout stringLayout decision.message = some text ∧
      text.length = 1 + replyTextLen decision.message := by
    cases hmessage : decision.message with
    | none => exact ⟨_, rfl, rfl⟩
    | some message =>
      rw [hmessage, replyTextLen] at htext
      have hlayout : stringLayout message = some _ := if_pos (by omega)
      refine ⟨_, by rw [optionalLayout, hlayout]; rfl, ?_⟩
      simp only [List.length_cons, List.length_append, length_u16ToLe, replyTextLen]
      omega
  obtain ⟨payload, hcat, hpayload⟩ : ∃ payload,
      Layout.cat (buildAuthResponse decision).message.layout = some payload ∧
        payload.length = 10 + idsLen decision.clientId decision.runId + replyTextLen decision.message := by
    have htimeLayout : optionalLayout u64Layout decision.serverTime = some [0] := by rw [htime]; rfl
    have hversionLayout : optionalLayout u32Layout decision.expectedProtocolVersion = some [0] := by
      rw [hexpected]
      rfl
    simp only [buildAuthResponse, ProtocolMessage.layout, AuthResponse.layout, Layout.cat_cons,
      Layout.cat_nil, hclientLayout, hrunLayout, htextLayout, htimeLayout, hversionLayout, u16Layout,
      boolLayout, Option.bind_some, Option.map_some]
    refine ⟨_, rfl, ?_⟩
    simp only [List.length_append, length_u16ToLe, List.length_cons, List.length_nil, hlength, idsLen]
    omega
  have hsmall : payload.length < 2 ^ 32 := by
    rw [idsLen] at hpayload
    omega
  obtain ⟨hencoded, hpacket⟩ := @length_of_encodeMessage version _ _ _ hcat hsmall rfl
  exact ⟨_, hencoded, by omega⟩

theorem encode_heartbeatAck_length {ack : HeartbeatAck} (hclient : (asBytes ack.clientId).length < 2 ^ 16)
    (hrun : (asBytes ack.runId).length < 2 ^ 16) :
    ∃ packet, encodeMessage ⟨version⟩ (.heartbeatAck ack) [] = .ok packet ∧
      packet.length = 44 + idsLen ack.clientId ack.runId := by
  have hclientLayout : stringLayout ack.clientId = some _ := if_pos hclient
  have hrunLayout : stringLayout ack.runId = some _ := if_pos hrun
  obtain ⟨payload, hcat, hpayload⟩ : ∃ payload,
      Layout.cat (ProtocolMessage.heartbeatAck ack).layout = some payload ∧
        payload.length = 28 + idsLen ack.clientId ack.runId := by
    simp only [ProtocolMessage.layout, HeartbeatAck.layout, Layout.cat_cons, Layout.cat_nil, hclientLayout,
      hrunLayout, u64Layout, Option.bind_some, Option.map_some]
    refine ⟨_, rfl, ?_⟩
    simp only [List.length_append, length_u16ToLe, length_u64ToLe, List.length_nil, idsLen]
    omega
  have hsmall : payload.length < 2 ^ 32 := by
    rw [idsLen] at hpayload
    omega
  obtain ⟨hencoded, hpacket⟩ := length_of_encodeMessage hcat hsmall rfl
  exact ⟨_, hencoded, by omega⟩

/-- Ids that came in a datagram can go out in one. -/
theorem ids_of_decodePacket {message : ProtocolMessage} {bytes : List UInt8} {clientId : ClientId}
    {runId : RunId} {fields : List Layout} (h : decodePacket ⟨version⟩ bytes = .ok message)
    (hlayout : message.layout = stringLayout clientId :: stringLayout runId :: fields) :
    (asBytes clientId).length < 2 ^ 16 ∧ (asBytes runId).length < 2 ^ 16 := by
  obtain ⟨view, -, -, hpayload⟩ := decodePacket_eq_ok_iff.mp h
  obtain ⟨-, -, -, hcat⟩ := decodePayloadByMessageType_eq_ok_iff.mp hpayload
  rw [hlayout] at hcat
  obtain ⟨client, rest, hclient, hrest, -⟩ := Layout.cat_cons_eq_some.mp hcat
  obtain ⟨run, -, hrun, -, -⟩ := Layout.cat_cons_eq_some.mp hrest
  exact ⟨length_asBytes_of_stringLayout hclient, length_asBytes_of_stringLayout hrun⟩

end Encoding

section Decision

variable {env : Environment} {config : ServerAuthConfig} {check : ServerAuthCheck}

/-- What the decision on an auth request answers with, beside the ids of the request. -/
structure DecidedReply (check : ServerAuthCheck) (room : Nat) (presents : Prop)
    (decision : ServerAuthDecision) : Prop where
  clientId : decision.clientId = check.request.clientId
  runId : decision.runId = check.request.runId
  serverTime : decision.serverTime = none
  expectedProtocolVersion : decision.expectedProtocolVersion = none
  text : replyTextLen decision.message + room = 65481
  accepted : decision.accepted = true ↔ presents

theorem decidedReply_ofRejected {presents : Prop} {reasonCode : AuthResponseReasonCode} {message : String}
    (len room : Nat) (hlen : (asBytes message).length = len) (hroom : 2 + len + room = 65481)
    (hnot : ¬presents) : DecidedReply check room presents (.ofRejected check reasonCode message) := by
  refine ⟨rfl, rfl, rfl, rfl, ?_, iff_of_false Bool.false_ne_true hnot⟩
  show 2 + (asBytes message).length + room = 65481
  rw [hlen, hroom]

theorem handleAuthCheck_decidedReply (env : Environment) (check : ServerAuthCheck) (config : ServerAuthConfig) :
    DecidedReply check (authReplyRoom env config check.request) (PresentsToken env config check.request)
      (handleAuthCheck env check config).decision := by
  unfold handleAuthCheck authReplyRoom
  cases hresolve : config.sharedTokens.mapM (resolveToken env) with
  | error error =>
    have hnot : ¬PresentsToken env config check.request := by
      rintro ⟨_, _, _, h, -⟩
      cases hresolve.symm.trans h
    cases error with
    | missingEnvironmentVariable tokenId name => exact decidedReply_ofRejected 44 65435 rfl (by decide) hnot
    | emptyEnvironmentVariable tokenId name => exact decidedReply_ofRejected 42 65437 rfl (by decide) hnot
    | invalidEnvironmentVariable tokenId name => exact decidedReply_ofRejected 44 65435 rfl (by decide) hnot
    | unsupportedSecretStore tokenId reference => exact decidedReply_ofRejected 45 65434 rfl (by decide) hnot
  | ok sharedTokens =>
    dsimp only
    unfold decideResolved
    cases hclient : config.allowedClients.find? (fun client => client.clientId = check.request.clientId) with
    | none =>
      refine decidedReply_ofRejected 17 65462 rfl (by decide) ?_
      rintro ⟨_, _, _, -, h, -⟩
      cases hclient.symm.trans h
    | some allowedClient =>
      dsimp only
      cases htoken : sharedTokens.find? (fun token => token.tokenId = allowedClient.sharedTokenId) with
      | none =>
        refine decidedReply_ofRejected 40 65439 rfl (by decide) ?_
        rintro ⟨_, _, _, h, hfound, htokenFound, -⟩
        cases hresolve.symm.trans h
        cases hclient.symm.trans hfound
        cases htoken.symm.trans htokenFound
      | some sharedToken =>
        dsimp only
        split
        next hequal =>
          exact ⟨rfl, rfl, rfl, rfl, Nat.zero_add _,
            iff_of_true rfl ⟨sharedTokens, allowedClient, sharedToken, hresolve, hclient, htoken, hequal⟩⟩
        next hdifferent =>
          refine decidedReply_ofRejected 20 65459 rfl (by decide) ?_
          rintro ⟨_, _, _, h, hfound, htokenFound, hequal⟩
          cases hresolve.symm.trans h
          cases hclient.symm.trans hfound
          cases htoken.symm.trans htokenFound
          exact hdifferent hequal

end Decision

section Loops

variable {config : ServerRuntimeConfig} {io : ServerIo} {source : PacketSource} {bytes : List UInt8}

/-- The reply to a decoded auth request is encoded, and fits when its ids leave room for its text. -/
theorem authReply_fits_iff {request : AuthRequest}
    (hdecode : decodePacket ⟨config.expectedProtocolVersion⟩ bytes = .ok (.authRequest request)) :
    ∃ reply, encodeMessage ⟨config.expectedProtocolVersion⟩
        (handleAuthCheck config.env ⟨source, request⟩ config.authConfig).queueItem.message [] = .ok reply ∧
      (reply.length ≤ defaultUdpPacketBufferLen ↔
        AuthReplyFits config.env config.authConfig request) := by
  obtain ⟨hclient, hrun⟩ := ids_of_decodePacket hdecode rfl
  obtain ⟨hclientId, hrunId, htime, hversion, htext, -⟩ :=
    handleAuthCheck_decidedReply config.env ⟨source, request⟩ config.authConfig
  obtain ⟨reply, hreply, hlength⟩ := @encode_buildAuthResponse_length config.expectedProtocolVersion
    (handleAuthCheck config.env ⟨source, request⟩ config.authConfig).decision (hclientId ▸ hclient)
    (hrunId ▸ hrun) (by omega) htime hversion
  refine ⟨reply, hreply, ?_⟩
  rw [hlength, hclientId, hrunId, AuthReplyFits, defaultUdpPacketBufferLen]
  dsimp only at htext ⊢
  omega

theorem heartbeatAck_fits_iff {beat : Heartbeat}
    (hdecode : decodePacket ⟨config.expectedProtocolVersion⟩ bytes = .ok (.heartbeat beat))
    (sender : AuthenticatedSenderEntry) (timing : ServerHeartbeatAckTiming) :
    ∃ reply, encodeMessage ⟨config.expectedProtocolVersion⟩
        (handoffAck ⟨source, sender, beat⟩ timing).queueItem.message [] = .ok reply ∧
      (reply.length ≤ defaultUdpPacketBufferLen ↔ HeartbeatAckFits beat) := by
  obtain ⟨hclient, hrun⟩ := ids_of_decodePacket hdecode rfl
  obtain ⟨reply, hreply, hlength⟩ := @encode_heartbeatAck_length config.expectedProtocolVersion
    { messageType := .heartbeatAck
      protocolVersion := beat.protocolVersion
      clientId := beat.clientId
      runId := beat.runId
      echoedSentAt := beat.sentAt
      serverReceivedAt := timing.serverReceivedAt
      serverSentAt := timing.serverSentAt } hclient hrun
  refine ⟨reply, hreply, ?_⟩
  simp only at hlength
  rw [hlength, HeartbeatAckFits, defaultUdpPacketBufferLen]
  omega

/-- An encoded reply fails to be sent exactly when it is too long. -/
theorem encodeAndSend_cases (hsend : SendsDatagrams io.send) {item : OutboundPacket} {reply : List UInt8}
    (hreply : encodeMessage ⟨config.expectedProtocolVersion⟩ item.message [] = .ok reply) :
    (encodeAndSend config io item = .ok () ∧ reply.length ≤ defaultUdpPacketBufferLen) ∨
      ∃ errorKind, encodeAndSend config io item = .error (.socketSend errorKind) ∧
        ¬reply.length ≤ defaultUdpPacketBufferLen := by
  have hiff := hsend item.destination reply
  unfold encodeAndSend
  rw [hreply]
  cases hresult : io.send item.destination reply with
  | ok _ =>
    refine .inl ⟨?_, ?_⟩
    · show (io.send item.destination reply).mapError ServerOutboundSendError.socketSend = .ok ()
      rw [hresult]
      rfl
    · by_contra hlong
      obtain ⟨errorKind, herror⟩ := hiff.mpr (by omega)
      cases hresult.symm.trans herror
  | error errorKind =>
    refine .inr ⟨errorKind, ?_, ?_⟩
    · show (io.send item.destination reply).mapError ServerOutboundSendError.socketSend =
        .error (.socketSend errorKind)
      rw [hresult]
      rfl
    · have hlong := hiff.mp ⟨errorKind, hresult⟩
      omega

theorem handleReceivedPacketWithGate_auth (registry : AuthenticatedSenderRegistry) {request : AuthRequest}
    (hdecode : decodePacket ⟨config.expectedProtocolVersion⟩ bytes = .ok (.authRequest request)) :
    handleReceivedPacketWithGate config.expectedProtocolVersion registry source bytes =
      .ok (.authRequest source request) := by
  unfold handleReceivedPacketWithGate decodeAndRoute
  rw [hdecode]
  rfl

theorem processReceivedPacketForVideoQueue_send_iff (hsend : SendsDatagrams io.send) (state : ServerState)
    (queuedAt : TimestampMicros) {request : AuthRequest}
    (hdecode : decodePacket ⟨config.expectedProtocolVersion⟩ bytes = .ok (.authRequest request)) :
    (∃ errorKind, (processReceivedPacketForVideoQueue config io state source bytes queuedAt).2 =
        .error (.auth (.socketSend errorKind))) ↔
      ¬AuthReplyFits config.env config.authConfig request := by
  obtain ⟨reply, hreply, hfits⟩ := @authReply_fits_iff config source bytes request hdecode
  have hresult : (processReceivedPacketForVideoQueue config io state source bytes queuedAt).2 =
      ((encodeAndSend config io (handleAuthCheck config.env ⟨source, request⟩
        config.authConfig).queueItem).mapError .auth).map fun _ => none := by
    unfold processReceivedPacketForVideoQueue
    rw [handleReceivedPacketWithGate_auth state.registry hdecode]
    rfl
  rw [hresult, ← hfits]
  obtain ⟨hok, hshort⟩ | ⟨errorKind, herror, hlong⟩ := encodeAndSend_cases hsend hreply
  · rw [hok]
    refine iff_of_false ?_ (not_not.mpr hshort)
    rintro ⟨_, h⟩
    cases h
  · rw [herror]
    exact iff_of_true ⟨errorKind, rfl⟩ hlong

theorem sendQueued_cases (hsend : SendsDatagrams io.send) (hlogs : io.WritesLogs) {item : OutboundPacket}
    {reply : List UInt8}
    (hreply : encodeMessage ⟨config.expectedProtocolVersion⟩ item.message [] = .ok reply) :
    (sendQueued config io item = .ok () ∧ reply.length ≤ defaultUdpPacketBufferLen) ∨
      ∃ errorKind, sendQueued config io item = .error (.send (.socketSend errorKind)) ∧
        ¬reply.length ≤ defaultUdpPacketBufferLen := by
  unfold sendQueued
  rw [hlogs.send]
  obtain ⟨hok, hshort⟩ | ⟨errorKind, herror, hlong⟩ := encodeAndSend_cases hsend hreply
  · rw [hok]
    exact .inl ⟨rfl, hshort⟩
  · rw [herror]
    exact .inr ⟨errorKind, rfl, hlong⟩

theorem sendQueued_send_iff (hsend : SendsDatagrams io.send) (hlogs : io.WritesLogs) {item : OutboundPacket}
    {reply : List UInt8}
    (hreply : encodeMessage ⟨config.expectedProtocolVersion⟩ item.message [] = .ok reply) :
    (∃ errorKind, sendQueued config io item = .error (.send (.socketSend errorKind))) ↔
      ¬reply.length ≤ defaultUdpPacketBufferLen := by
  obtain ⟨hok, hshort⟩ | ⟨errorKind, herror, hlong⟩ := sendQueued_cases hsend hlogs hreply
  · rw [hok]
    refine iff_of_false ?_ (not_not.mpr hshort)
    rintro ⟨_, h⟩
    cases h
  · rw [herror]
    exact iff_of_true ⟨errorKind, rfl⟩ hlong

theorem continuousIteration_auth_result (hlogs : io.WritesLogs) {state : ServerState}
    (hqueue : state.outboundQueue = []) (timestamp : TimestampMicros) {request : AuthRequest}
    (hdecode : decodePacket ⟨config.expectedProtocolVersion⟩ bytes = .ok (.authRequest request)) :
    (continuousIteration config io state source bytes timestamp).2 =
      (runOutputs config io [] (.auth (handleAuthCheck config.env ⟨source, request⟩ config.authConfig))).2 := by
  rw [← hqueue]
  simp only [continuousIteration, hlogs.receive, handleReceivedPacketWithGate_auth state.registry hdecode,
    prepareHandlerHandoff, dispatchPlan, finishIteration_result]

/-- The continuous loop answers accepted auth requests only. -/
theorem continuousIteration_auth_send_iff (hsend : SendsDatagrams io.send) (hlogs : io.WritesLogs)
    {state : ServerState} (hqueue : state.outboundQueue = []) (timestamp : TimestampMicros)
    {request : AuthRequest}
    (hdecode : decodePacket ⟨config.expectedProtocolVersion⟩ bytes = .ok (.authRequest request)) :
    (∃ errorKind, (continuousIteration config io state source bytes timestamp).2 =
        .error (.send (.socketSend errorKind))) ↔
      PresentsToken config.env config.authConfig request ∧
        ¬AuthReplyFits config.env config.authConfig request := by
  obtain ⟨reply, hreply, hfits⟩ := @authReply_fits_iff config source bytes request hdecode
  have haccepted :=
    (handleAuthCheck_decidedReply config.env ⟨source, request⟩ config.authConfig).accepted
  rw [continuousIteration_auth_result hlogs hqueue timestamp hdecode, ← hfits, ← haccepted]
  simp only [runOutputs, hlogs.auth, outboundItem]
  cases (handleAuthCheck config.env ⟨source, request⟩ config.authConfig).decision.accepted with
  | false =>
    refine iff_of_false ?_ fun h => Bool.false_ne_true h.1
    rintro ⟨_, h⟩
    cases h
  | true => exact (sendQueued_send_iff hsend hlogs hreply).trans ⟨fun h => ⟨rfl, h⟩, And.right⟩

theorem continuousIteration_heartbeat_send_iff (hsend : SendsDatagrams io.send) (hlogs : io.WritesLogs)
    {state : ServerState} (hqueue : state.outboundQueue = []) (timestamp : TimestampMicros)
    {beat : Heartbeat}
    (hgate : handleReceivedPacketWithGate config.expectedProtocolVersion state.registry source bytes =
      .ok (.heartbeat source beat)) :
    ∃ sender reply, state.registry.get beat.clientId = some sender ∧
      encodeMessage ⟨config.expectedProtocolVersion⟩
        (handoffAck ⟨source, sender, beat⟩ ⟨timestamp, timestamp⟩).queueItem.message [] = .ok reply ∧
      (reply.length ≤ defaultUdpPacketBufferLen ↔ HeartbeatAckFits beat) ∧
      ((∃ errorKind, (continuousIteration config io state source bytes timestamp).2 =
        .error (.send (.socketSend errorKind))) ↔ ¬HeartbeatAckFits beat) := by
  obtain ⟨hroute, haccepted⟩ := evaluateRoute_of_gate hgate
  obtain ⟨message, hdecoded, hmessage⟩ := decodeAndRoute_eq_ok hroute
  have hbeat : message = .heartbeat beat := by
    cases message <;> cases hmessage
    rfl
  subst hbeat
  obtain ⟨sender, packet, hget, -, hpacket, hprepared⟩ := prepareForHandler_of_accepted rfl haccepted
  cases Option.some.inj hpacket
  obtain ⟨reply, hreply, hfits⟩ := @heartbeatAck_fits_iff config source bytes beat hdecoded sender
    ⟨timestamp, timestamp⟩
  refine ⟨sender, reply, hget, hreply, hfits, ?_⟩
  have hresult : (continuousIteration config io state source bytes timestamp).2 =
      (runOutputs config io [] (.heartbeatAck (handoffAck ⟨source, sender, beat⟩
        ⟨timestamp, timestamp⟩))).2 := by
    rw [← hqueue]
    simp only [continuousIteration, hlogs.receive, hgate, prepareHandlerHandoff, hprepared, dispatchPlan,
      finishIteration_result]
  rw [hresult, ← hfits]
  exact sendQueued_send_iff hsend hlogs hreply

end Loops

/-- After every run a reply fits a datagram exactly when its ids leave room for the rest of it, and a
receive loop that sends a reply ends with a socket error exactly when it does not fit. -/
theorem replies_fit_iff (config : ServerRuntimeConfig) (events : List ServerEvent) {io : ServerIo}
    (hsend : SendsDatagrams io.send) (hlogs : io.WritesLogs) (source : PacketSource) (bytes : List UInt8)
    (timestamp : TimestampMicros) :
    let state := (runServer config events).1
    (∀ request, decodePacket ⟨config.expectedProtocolVersion⟩ bytes = .ok (.authRequest request) →
      (∃ reply, encodeMessage ⟨config.expectedProtocolVersion⟩
          (handleAuthCheck config.env ⟨source, request⟩ config.authConfig).queueItem.message [] = .ok reply ∧
        (reply.length ≤ defaultUdpPacketBufferLen ↔
          AuthReplyFits config.env config.authConfig request)) ∧
      ((∃ errorKind, (processReceivedPacketForVideoQueue config io state source bytes timestamp).2 =
          .error (.auth (.socketSend errorKind))) ↔
        ¬AuthReplyFits config.env config.authConfig request) ∧
      ((∃ errorKind, (continuousIteration config io state source bytes timestamp).2 =
          .error (.send (.socketSend errorKind))) ↔
        PresentsToken config.env config.authConfig request ∧
          ¬AuthReplyFits config.env config.authConfig request)) ∧
    ∀ beat, handleReceivedPacketWithGate config.expectedProtocolVersion state.registry source bytes =
        .ok (.heartbeat source beat) →
      ∃ sender reply, state.registry.get beat.clientId = some sender ∧
        encodeMessage ⟨config.expectedProtocolVersion⟩
          (handoffAck ⟨source, sender, beat⟩ ⟨timestamp, timestamp⟩).queueItem.message [] = .ok reply ∧
        (reply.length ≤ defaultUdpPacketBufferLen ↔ HeartbeatAckFits beat) ∧
        ((∃ errorKind, (continuousIteration config io state source bytes timestamp).2 =
          .error (.send (.socketSend errorKind))) ↔ ¬HeartbeatAckFits beat) := by
  intro state
  have hqueue : state.outboundQueue = [] := outboundQueue_empty config events
  refine ⟨fun request hdecode => ⟨authReply_fits_iff hdecode, ?_, ?_⟩, fun beat hgate => ?_⟩
  · exact processReceivedPacketForVideoQueue_send_iff hsend state timestamp hdecode
  · exact continuousIteration_auth_send_iff hsend hlogs hqueue timestamp hdecode
  · exact continuousIteration_heartbeat_send_iff hsend hlogs hqueue timestamp hgate

/-- A socket and log writers without faults of their own. -/
def ServerIo.datagramsOnly : ServerIo where
  receiveLog := .ok ()
  authLog := .ok ()
  send := fun _ bytes =>
    if defaultUdpPacketBufferLen < bytes.length then .error (.other "message too long") else .ok ()
  sendLog := .ok ()

theorem sendsDatagrams_datagramsOnly : SendsDatagrams ServerIo.datagramsOnly.send := by
  intro destination bytes
  unfold ServerIo.datagramsOnly
  dsimp only
  split
  next hlong => exact iff_of_true ⟨_, rfl⟩ hlong
  next hshort =>
    refine iff_of_false ?_ hshort
    rintro ⟨_, h⟩
    cases h

def cameraHeartbeatBytes : List UInt8 :=
  (encodeMessage ⟨1⟩ (.heartbeat (cameraBeat "run")) []).toOption.getD []

theorem replies_fit_iff_camera : ∃ sender reply,
    encodeMessage ⟨1⟩ (handoffAck ⟨cameraSource 5000, sender, cameraBeat "run"⟩
      ⟨2, 2⟩).queueItem.message [] = .ok reply ∧ reply.length ≤ defaultUdpPacketBufferLen ∧
    ¬∃ errorKind, (continuousIteration oneCameraConfig .datagramsOnly
      (runServer oneCameraConfig [cameraAuth 5000 "run" 1]).1 (cameraSource 5000) cameraHeartbeatBytes 2).2 =
        .error (.send (.socketSend errorKind)) := by
  have hgate : handleReceivedPacketWithGate 1 (runServer oneCameraConfig [cameraAuth 5000 "run" 1]).1.registry
      (cameraSource 5000) cameraHeartbeatBytes =
        .ok (.heartbeat (cameraSource 5000) (cameraBeat "run")) := by
    decide +kernel
  have hfits : HeartbeatAckFits (cameraBeat "run") := by
    unfold HeartbeatAckFits idsLen
    decide
  obtain ⟨sender, reply, -, hreply, hlength, herror⟩ :=
    (replies_fit_iff oneCameraConfig [cameraAuth 5000 "run" 1] sendsDatagrams_datagramsOnly ⟨rfl, rfl, rfl⟩
      (cameraSource 5000) cameraHeartbeatBytes 2).2 _ hgate
  exact ⟨sender, reply, hreply, hlength.mpr hfits, fun h => herror.mp h hfits⟩

theorem authReplyRoom_of_unknown {env : Environment} {config : ServerAuthConfig} {request : AuthRequest}
    {sharedTokens : List ServerResolvedSharedTokenAuthInput}
    (hresolve : config.sharedTokens.mapM (resolveToken env) = .ok sharedTokens)
    (hunknown : config.allowedClients.find? (fun client => client.clientId = request.clientId) = none) :
    authReplyRoom env config request = 65462 := by
  simp only [authReplyRoom, hresolve, hunknown]

/-- An auth request of nothing but a client id. -/
def bareAuthRequest (clientId : ClientId) : AuthRequest where
  messageType := .authRequest
  protocolVersion := 1
  clientId := clientId
  runId := ""
  appVersion := ""
  sharedToken := ""
  displayName := none
  capabilities := []
  requestedVideoProfile := none

section LongId

variable {clientId : ClientId} (hlen : (asBytes clientId).length = 65482)

include hlen

theorem encode_bareAuthRequest :
    ∃ bytes, encodeMessage ⟨1⟩ (.authRequest (bareAuthRequest clientId)) [] = .ok bytes ∧
      bytes.length = defaultUdpPacketBufferLen := by
  have hclient : stringLayout clientId = some _ := if_pos (by omega)
  have hempty : stringLayout "" = some [0, 0] := rfl
  obtain ⟨payload, hcat, hpayload⟩ : ∃ payload,
      Layout.cat (ProtocolMessage.authRequest (bareAuthRequest clientId)).layout = some payload ∧
        payload.length = 65491 := by
    simp only [ProtocolMessage.layout, AuthRequest.layout, bareAuthRequest, Layout.cat_cons,
      Layout.cat_nil, hclient, hempty, optionalLayout, Option.bind_some, Option.map_some]
    refine ⟨_, rfl, ?_⟩
    simp only [List.length_append, length_u16ToLe, List.length_cons, List.length_nil]
    omega
  obtain ⟨hencoded, hlength⟩ := @length_of_encodeMessage 1 _ _ _ hcat (by omega) rfl
  exact ⟨_, hencoded, by rw [hlength, hpayload, defaultUdpPacketBufferLen]⟩

/-- The text for an unknown client no longer fits behind such an id. -/
theorem not_fits_bareAuthRequest :
    ¬AuthReplyFits oneCameraConfig.env oneCameraConfig.authConfig (bareAuthRequest clientId) := by
  have hresolve : oneCameraConfig.authConfig.sharedTokens.mapM (resolveToken oneCameraConfig.env) =
      .ok [⟨"token", "secret"⟩] := rfl
  have hunknown : oneCameraConfig.authConfig.allowedClients.find?
      (fun client => client.clientId = (bareAuthRequest clientId).clientId) = none := by
    refine List.find?_eq_none.mpr fun client hmem h => ?_
    rw [List.mem_singleton.mp hmem] at h
    have hcam : "cam" = clientId := of_decide_eq_true h
    have hthree : (asBytes "cam").length = 3 := rfl
    rw [← hcam] at hlen
    omega
  rw [AuthReplyFits, authReplyRoom_of_unknown hresolve hunknown, idsLen, bareAuthRequest]
  dsimp only
  omega

theorem bareAuthRequest_exceeds_datagram : ∃ bytes reply, bytes.length ≤ defaultUdpPacketBufferLen ∧
    decodePacket ⟨1⟩ bytes = .ok (.authRequest (bareAuthRequest clientId)) ∧
    encodeMessage ⟨1⟩ (handleAuthCheck oneCameraConfig.env ⟨cameraSource 5000, bareAuthRequest clientId⟩
      oneCameraConfig.authConfig).queueItem.message [] = .ok reply ∧
    defaultUdpPacketBufferLen < reply.length ∧
    ∃ errorKind, (processReceivedPacketForVideoQueue oneCameraConfig .datagramsOnly .empty (cameraSource 5000)
      bytes 1).2 = .error (.auth (.socketSend errorKind)) := by
  obtain ⟨bytes, hencoded, hlength⟩ := encode_bareAuthRequest hlen
  have hdecode : decodePacket ⟨1⟩ bytes = .ok (.authRequest (bareAuthRequest clientId)) :=
    decodePacket_of_encodeMessage hencoded
  obtain ⟨reply, hreply, hfits⟩ := @authReply_fits_iff oneCameraConfig (cameraSource 5000) bytes _ hdecode
  have hnot := not_fits_bareAuthRequest hlen
  have hlong := mt hfits.mp hnot
  exact ⟨bytes, reply, by omega, hdecode, hreply, by omega,
    (processReceivedPacketForVideoQueue_send_iff sendsDatagrams_datagramsOnly .empty 1 hdecode).mpr hnot⟩

end LongId

/-- The longest client id that an auth request without anything else carries. -/
def longClientId : ClientId := String.ofList (List.replicate 65482 'a')

/-- A datagram of full size whose reply takes more than one, so that the server stops receiving. -/
theorem replies_exceed_datagram : ∃ bytes reply, bytes.length ≤ defaultUdpPacketBufferLen ∧
    decodePacket ⟨1⟩ bytes = .ok (.authRequest (bareAuthRequest longClientId)) ∧
    encodeMessage ⟨1⟩ (handleAuthCheck oneCameraConfig.env ⟨cameraSource 5000, bareAuthRequest longClientId⟩
      oneCameraConfig.authConfig).queueItem.message [] = .ok reply ∧
    defaultUdpPacketBufferLen < reply.length ∧
    ∃ errorKind, (processReceivedPacketForVideoQueue oneCameraConfig .datagramsOnly .empty (cameraSource 5000)
      bytes 1).2 = .error (.auth (.socketSend errorKind)) :=
  bareAuthRequest_exceeds_datagram (length_asBytes_replicate 65482)

end StreamSync
