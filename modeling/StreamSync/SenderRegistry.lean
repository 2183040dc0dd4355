import StreamSync.Lib.Table
import StreamSync.ServerAuth

namespace StreamSync

open KeyedTable

structure AuthenticatedSenderRegistry where
  entriesByClientId : Table ClientId AuthenticatedSenderEntry
deriving DecidableEq

namespace AuthenticatedSenderRegistry

def empty : AuthenticatedSenderRegistry := ⟨∅⟩

def entries (registry : AuthenticatedSenderRegistry) : List AuthenticatedSenderEntry :=
  registry.entriesByClientId.toList.map fun entry => entry.2

def get (registry : AuthenticatedSenderRegistry) (clientId : ClientId) : Option AuthenticatedSenderEntry :=
  registry.entriesByClientId[clientId]?

def containsSource (registry : AuthenticatedSenderRegistry) (source : PacketSource) : Bool :=
  registry.entries.any fun entry => entry.source = source

def register (registry : AuthenticatedSenderRegistry) (registration : AuthenticatedSenderRegistration) :
    AuthenticatedSenderRegistry :=
  ⟨registry.entriesByClientId.insert registration.clientId registration.intoEntry⟩

theorem get_register (registry : AuthenticatedSenderRegistry)
    (registration : AuthenticatedSenderRegistration) (clientId : ClientId) :
    (registry.register registration).get clientId =
      if registration.clientId = clientId then some registration.intoEntry else registry.get clientId :=
  getElem?_insert_eq _ _ _ _

theorem mem_entries_of_get (registry : AuthenticatedSenderRegistry) {clientId : ClientId}
    {entry : AuthenticatedSenderEntry} (h : registry.get clientId = some entry) :
    entry ∈ registry.entries :=
  List.mem_map.mpr ⟨(clientId, entry), Std.ExtTreeMap.mem_toList_iff_getElem?_eq_some.mpr h, rfl⟩

end AuthenticatedSenderRegistry

inductive AuthenticatedSenderInvalidationReason where
  | heartbeatTimeout
deriving DecidableEq, Repr

structure AuthenticatedSenderInvalidation where
  clientId : ClientId
  source : PacketSource
  runId : RunId
  protocolVersion : ProtocolVersion
  reason : AuthenticatedSenderInvalidationReason
  invalidatedAt : TimestampMicros
deriving DecidableEq, Repr

structure AuthenticatedSenderInvalidationOutcome where
  invalidation : AuthenticatedSenderInvalidation
  removedEntry : Option AuthenticatedSenderEntry
deriving DecidableEq, Repr

/-- Removes whatever is registered for the client, also when it is not the sender that the
invalidation names. -/
def AuthenticatedSenderRegistry.invalidate (registry : AuthenticatedSenderRegistry)
    (invalidation : AuthenticatedSenderInvalidation) :
    AuthenticatedSenderRegistry × AuthenticatedSenderInvalidationOutcome :=
  (⟨registry.entriesByClientId.erase invalidation.clientId⟩,
    ⟨invalidation, registry.get invalidation.clientId⟩)

theorem AuthenticatedSenderRegistry.get_invalidate (registry : AuthenticatedSenderRegistry)
    (invalidation : AuthenticatedSenderInvalidation) (clientId : ClientId) :
    (registry.invalidate invalidation).1.get clientId =
      if invalidation.clientId = clientId then none else registry.get clientId :=
  getElem?_erase_eq _ _ _

inductive AuthenticatedSenderRejectReason where
  | unknownClient | endpointMismatch | runIdMismatch
deriving DecidableEq, Repr

def checkPacketScope (registry : AuthenticatedSenderRegistry) (clientId : ClientId) (runId : Option RunId)
    (source : PacketSource) : Except AuthenticatedSenderRejectReason AuthenticatedSenderEntry :=
  match registry.get clientId with
  | none => .error .unknownClient
  | some entry =>
    if entry.source ≠ source then .error .endpointMismatch
    else
      match runId with
      | some runId => if entry.runId ≠ runId then .error .runIdMismatch else .ok entry
      | none => .ok entry

/-- The entry is the sender that a packet says it comes from. -/
def AuthenticatedSenderEntry.Matches (entry : AuthenticatedSenderEntry) (runId : RunId)
    (source : PacketSource) : Prop := entry.source = source ∧ entry.runId = runId

theorem checkPacketScope_eq_ok_iff {registry : AuthenticatedSenderRegistry} {clientId : ClientId}
    {runId : RunId} {source : PacketSource} {entry : AuthenticatedSenderEntry} :
    checkPacketScope registry clientId (some runId) source = .ok entry ↔
      registry.get clientId = some entry ∧ entry.Matches runId source := by
  unfold checkPacketScope AuthenticatedSenderEntry.Matches
  cases registry.get clientId with
  | none => simp
  | some found =>
    dsimp only
    split
    next hs =>
      refine iff_of_false (fun h => by cases h) fun ⟨h, hsource, _⟩ => ?_
      cases Option.some.inj h
      exact hs hsource
    next hs =>
      split
      next hr =>
        refine iff_of_false (fun h => by cases h) fun ⟨h, _, hrun⟩ => ?_
        cases Option.some.inj h
        exact hr hrun
      next hr =>
        refine ⟨fun h => ?_, fun ⟨h, _⟩ => ?_⟩
        · cases Except.ok.inj h
          exact ⟨rfl, not_not.mp hs, not_not.mp hr⟩
        · rw [Option.some.inj h]

inductive ServerInboundRoute where
  | authRequest (source : PacketSource) (request : AuthRequest)
  | heartbeat (source : PacketSource) (heartbeat : Heartbeat)
  | videoFrame (source : PacketSource) (frame : VideoFrame)
  | videoFrameFragment (source : PacketSource) (fragment : VideoFrameFragment)
  | clientStats (source : PacketSource) (stats : ClientStats)
  | unsupportedForServer (source : PacketSource) (messageType : MessageType) (message : ProtocolMessage)
deriving DecidableEq

/-- `ServerInboundRouter::route`. -/
def routeInbound (source : PacketSource) : ProtocolMessage → ServerInboundRoute
  | .authRequest request => .authRequest source request
  | .heartbeat heartbeat => .heartbeat source heartbeat
  | .videoFrame frame => .videoFrame source frame
  | .videoFrameFragment fragment => .videoFrameFragment source fragment
  | .clientStats stats => .clientStats source stats
  | .authResponse response => .unsupportedForServer source .authResponse (.authResponse response)
  | .heartbeatAck ack => .unsupportedForServer source .heartbeatAck (.heartbeatAck ack)
  | .serverNotice notice => .unsupportedForServer source .serverNotice (.serverNotice notice)

inductive PacketAcceptanceRejectReason where
  | unauthenticatedSource | unknownClient | endpointMismatch | runIdMismatch
deriving DecidableEq, Repr

structure PacketAcceptanceRejection where
  source : PacketSource
  messageType : MessageType
  clientId : Option ClientId
  runId : Option RunId
  reason : PacketAcceptanceRejectReason
deriving DecidableEq, Repr

inductive PacketAcceptanceDecision where
  | accepted
  | rejected (rejection : PacketAcceptanceRejection)
deriving DecidableEq, Repr

/-- The rejection that a failed check of a client packet is reported as. -/
def scopeRejection (registry : AuthenticatedSenderRegistry) (source : PacketSource) (clientId : ClientId)
    (runId : RunId) (messageType : MessageType) (reason : AuthenticatedSenderRejectReason) :
    PacketAcceptanceRejection where
  source := source
  messageType := messageType
  clientId := some clientId
  runId := some runId
  reason :=
    match reason with
    | .endpointMismatch => .endpointMismatch
    | .runIdMismatch => .runIdMismatch
    | .unknownClient =>
      if registry.containsSource source then .unknownClient else .unauthenticatedSource

def evaluateClientPacket (registry : AuthenticatedSenderRegistry) (source : PacketSource)
    (clientId : ClientId) (runId : RunId) (messageType : MessageType) : PacketAcceptanceDecision :=
  match checkPacketScope registry clientId (some runId) source with
  | .ok _ => .accepted
  | .error reason => .rejected (scopeRejection registry source clientId runId messageType reason)

/-- `PacketAcceptanceGateBoundary::evaluate_route`. -/
def evaluateRoute (registry : AuthenticatedSenderRegistry) : ServerInboundRoute → PacketAcceptanceDecision
  | .authRequest _ _ => .accepted
  | .heartbeat source heartbeat =>
    evaluateClientPacket registry source heartbeat.clientId heartbeat.runId .heartbeat
  | .videoFrame source frame =>
    evaluateClientPacket registry source frame.clientId frame.runId .videoFrame
  | .videoFrameFragment source fragment =>
    evaluateClientPacket registry source fragment.clientId fragment.runId .videoFrameFragment
  | .clientStats source stats =>
    evaluateClientPacket registry source stats.clientId stats.runId .clientStats
  | .unsupportedForServer _ _ _ => .accepted

inductive ServerRegisteredClientPacket where
  | heartbeat (packet : ServerRegisteredHeartbeatPacket)
  | videoFrame (packet : ServerRegisteredVideoFramePacket)
  | videoFrameFragment (packet : ServerRegisteredVideoFrameFragmentPacket)
  | clientStats (packet : ServerRegisteredClientStatsPacket)
deriving DecidableEq

inductive ServerRegisteredPacketBoundaryError where
  | notClientScoped (messageType : MessageType)
  | notAccepted (rejection : PacketAcceptanceRejection)
deriving DecidableEq, Repr

def requireSender (registry : AuthenticatedSenderRegistry) (clientId : ClientId) (runId : RunId)
    (source : PacketSource) (messageType : MessageType) :
    Except ServerRegisteredPacketBoundaryError AuthenticatedSenderEntry :=
  match checkPacketScope registry clientId (some runId) source with
  | .ok entry => .ok entry
  | .error reason =>
    .error (.notAccepted (scopeRejection registry source clientId runId messageType reason))

def attachSender (registry : AuthenticatedSenderRegistry) :
    ServerInboundRoute → Except ServerRegisteredPacketBoundaryError ServerRegisteredClientPacket
  | .heartbeat source heartbeat => do
    let sender ← requireSender registry heartbeat.clientId heartbeat.runId source .heartbeat
    return .heartbeat ⟨source, sender, heartbeat⟩
  | .videoFrame source frame => do
    let sender ← requireSender registry frame.clientId frame.runId source .videoFrame
    return .videoFrame ⟨source, sender, frame⟩
  | .videoFrameFragment source fragment => do
    let sender ← requireSender registry fragment.clientId fragment.runId source .videoFrameFragment
    return .videoFrameFragment ⟨source, sender, fragment⟩
  | .clientStats source stats => do
    let sender ← requireSender registry stats.clientId stats.runId source .clientStats
    return .clientStats ⟨source, sender, stats⟩
  | .authRequest _ _ => .error (.notClientScoped .authRequest)
  | .unsupportedForServer _ messageType _ => .error (.notClientScoped messageType)

/-- `ServerRegisteredPacketBoundary::prepare_for_handler`. -/
def prepareForHandler (registry : AuthenticatedSenderRegistry) (route : ServerInboundRoute) :
    Except ServerRegisteredPacketBoundaryError ServerRegisteredClientPacket :=
  match evaluateRoute registry route with
  | .accepted => attachSender registry route
  | .rejected rejection => .error (.notAccepted rejection)

namespace ServerInboundRoute

/-- The client and run that a client-scoped packet says it comes from. -/
def scope? : ServerInboundRoute → Option (ClientId × RunId)
  | .heartbeat _ beat => some (beat.clientId, beat.runId)
  | .videoFrame _ frame => some (frame.clientId, frame.runId)
  | .videoFrameFragment _ fragment => some (fragment.clientId, fragment.runId)
  | .clientStats _ stats => some (stats.clientId, stats.runId)
  | .authRequest _ _ => none
  | .unsupportedForServer _ _ _ => none

def source : ServerInboundRoute → PacketSource
  | .heartbeat source _ => source
  | .videoFrame source _ => source
  | .videoFrameFragment source _ => source
  | .clientStats source _ => source
  | .authRequest source _ => source
  | .unsupportedForServer source _ _ => source

/-- The packet of a client-scoped route, with the sender it was matched to. -/
def registeredAs (sender : AuthenticatedSenderEntry) :
    ServerInboundRoute → Option ServerRegisteredClientPacket
  | .heartbeat source beat => some (.heartbeat ⟨source, sender, beat⟩)
  | .videoFrame source frame => some (.videoFrame ⟨source, sender, frame⟩)
  | .videoFrameFragment source fragment => some (.videoFrameFragment ⟨source, sender, fragment⟩)
  | .clientStats source stats => some (.clientStats ⟨source, sender, stats⟩)
  | .authRequest _ _ => none
  | .unsupportedForServer _ _ _ => none

end ServerInboundRoute

theorem evaluateClientPacket_eq_accepted_iff {registry : AuthenticatedSenderRegistry}
    {source : PacketSource} {clientId : ClientId} {runId : RunId} {messageType : MessageType} :
    evaluateClientPacket registry source clientId runId messageType = .accepted ↔
      ∃ entry, registry.get clientId = some entry ∧ entry.Matches runId source := by
  simp only [← checkPacketScope_eq_ok_iff]
  unfold evaluateClientPacket
  cases checkPacketScope registry clientId (some runId) source with
  | error reason => simp
  | ok entry => simp

/-- The gate accepts a client-scoped packet exactly from its registered sender. -/
theorem evaluateRoute_eq_accepted_iff {registry : AuthenticatedSenderRegistry} {route : ServerInboundRoute}
    {clientId : ClientId} {runId : RunId} (hs : route.scope? = some (clientId, runId)) :
    evaluateRoute registry route = .accepted ↔
      ∃ entry, registry.get clientId = some entry ∧ entry.Matches runId route.source := by
  cases route with
  | heartbeat source heartbeat => cases Option.some.inj hs; exact evaluateClientPacket_eq_accepted_iff
  | videoFrame source frame => cases Option.some.inj hs; exact evaluateClientPacket_eq_accepted_iff
  | videoFrameFragment source fragment =>
    cases Option.some.inj hs; exact evaluateClientPacket_eq_accepted_iff
  | clientStats source stats => cases Option.some.inj hs; exact evaluateClientPacket_eq_accepted_iff
  | authRequest source request => cases hs
  | unsupportedForServer source messageType message => cases hs

theorem requireSender_eq_ok {registry : AuthenticatedSenderRegistry} {clientId : ClientId} {runId : RunId}
    {source : PacketSource} {entry : AuthenticatedSenderEntry} (hg : registry.get clientId = some entry)
    (hm : entry.Matches runId source) (messageType : MessageType) :
    requireSender registry clientId runId source messageType = .ok entry := by
  unfold requireSender
  rw [checkPacketScope_eq_ok_iff.mpr ⟨hg, hm⟩]

/-- After the gate accepted a client-scoped packet the boundary gives it its sender and never fails. -/
theorem prepareForHandler_of_accepted {registry : AuthenticatedSenderRegistry} {route : ServerInboundRoute}
    {clientId : ClientId} {runId : RunId} (hs : route.scope? = some (clientId, runId))
    (ha : evaluateRoute registry route = .accepted) :
    ∃ sender packet, registry.get clientId = some sender ∧ sender.Matches runId route.source ∧
      route.registeredAs sender = some packet ∧ prepareForHandler registry route = .ok packet := by
  obtain ⟨sender, hg, hm⟩ := (evaluateRoute_eq_accepted_iff hs).mp ha
  have hp : prepareForHandler registry route = attachSender registry route := by
    rw [prepareForHandler, ha]
  rw [hp]
  cases route with
  | heartbeat source heartbeat =>
    cases Option.some.inj hs
    have hr : requireSender registry heartbeat.clientId heartbeat.runId source .heartbeat = .ok sender :=
      requireSender_eq_ok hg hm .heartbeat
    refine ⟨sender, _, hg, hm, rfl, ?_⟩
    rw [attachSender, hr]
    rfl
  | videoFrame source frame =>
    cases Option.some.inj hs
    have hr : requireSender registry frame.clientId frame.runId source .videoFrame = .ok sender :=
      requireSender_eq_ok hg hm .videoFrame
    refine ⟨sender, _, hg, hm, rfl, ?_⟩
    rw [attachSender, hr]
    rfl
  | videoFrameFragment source fragment =>
    cases Option.some.inj hs
    have hr : requireSender registry fragment.clientId fragment.runId source .videoFrameFragment = .ok sender :=
      requireSender_eq_ok hg hm .videoFrameFragment
    refine ⟨sender, _, hg, hm, rfl, ?_⟩
    rw [attachSender, hr]
    rfl
  | clientStats source stats =>
    cases Option.some.inj hs
    have hr : requireSender registry stats.clientId stats.runId source .clientStats = .ok sender :=
      requireSender_eq_ok hg hm .clientStats
    refine ⟨sender, _, hg, hm, rfl, ?_⟩
    rw [attachSender, hr]
    rfl
  | authRequest source request => cases hs
  | unsupportedForServer source messageType message => cases hs

end StreamSync
