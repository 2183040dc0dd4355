import StreamSync.ServerRuns

namespace StreamSync

open Run

/-- The entry was registered by an auth request with the right token, and no later one of its client
was accepted. -/
def PutByLatestAuth (config : ServerRuntimeConfig) (events : List ServerEvent)
    (entry : AuthenticatedSenderEntry) : Prop :=
  ∃ earlier auth later, events = earlier ++ auth :: later ∧ auth.Authenticates config entry ∧
    auth.acceptedAuth config = some entry ∧
    ∀ event ∈ later, ∀ other, event.acceptedAuth config = some other → other.clientId ≠ entry.clientId

theorem putByLatestAuth_of_latestWrite {config : ServerRuntimeConfig} {events : List ServerEvent}
    {entry : AuthenticatedSenderEntry}
    (h : LatestWrite (ServerEvent.acceptedAuth config) (·.clientId) events entry) :
    PutByLatestAuth config events entry := by
  obtain ⟨earlier, auth, later, hevents, hauth, hlater⟩ := h
  exact ⟨earlier, auth, later, hevents, ServerEvent.authenticates_of_acceptedAuth hauth, hauth, hlater⟩

theorem registry_latest {config : ServerRuntimeConfig} (events : List ServerEvent) {clientId : ClientId}
    {entry : AuthenticatedSenderEntry}
    (h : (runServer config events).1.registry.get clientId = some entry) :
    entry.clientId = clientId ∧
      LatestWrite (ServerEvent.acceptedAuth config) (·.clientId) events entry :=
  latestWrite_run (fun (state : ServerState) clientId => state.registry.get clientId)
    (fun _ => rfl) (fun _ _ _ _ => serverStep_registry) events clientId entry h

theorem outboundQueue_empty (config : ServerRuntimeConfig) (events : List ServerEvent) :
    (runServer config events).1.outboundQueue = [] := by
  refine run_invariant (P := fun _ => True) (fun _ (state : ServerState) _ => state.outboundQueue = [])
    rfl ?_ events fun _ _ => trivial
  intro _ _ _ _ _ h
  exact serverStep_outboundQueue h

/-- A server that knows one client. -/
def oneCameraConfig : ServerRuntimeConfig where
  expectedProtocolVersion := 1
  authConfig := {
    allowedClients := [⟨"cam", "token"⟩]
    sharedTokens := [⟨"token", .inlinePlaceholder "secret"⟩] }
  env := fun _ => .notPresent
  videoQueuePolicy := .default
  outlierPolicy := ⟨none, none⟩

def ServerIo.quiet : ServerIo := ⟨.ok (), .ok (), fun _ _ => .ok (), .ok ()⟩

def cameraSource (port : UInt16) : PacketSource := ⟨.v4 0x7F000001 port⟩

def cameraPacket (port : UInt16) (message : ProtocolMessage) (timestamp : TimestampMicros) : ServerEvent :=
  .continuousPacket .quiet (cameraSource port) ((encodeMessage ⟨1⟩ message []).toOption.getD []) timestamp

def cameraRequest (runId : RunId) : AuthRequest where
  messageType := .authRequest
  protocolVersion := 1
  clientId := "cam"
  runId := runId
  appVersion := "0.1"
  sharedToken := "secret"
  displayName := none
  capabilities := []
  requestedVideoProfile := none

def cameraBeat (runId : RunId) : Heartbeat := ⟨.heartbeat, 1, "cam", runId, 0, none, none⟩

def cameraAuth (port : UInt16) (runId : RunId) : TimestampMicros → ServerEvent :=
  cameraPacket port (.authRequest (cameraRequest runId))

def cameraHeartbeat (port : UInt16) (runId : RunId) : TimestampMicros → ServerEvent :=
  cameraPacket port (.heartbeat (cameraBeat runId))

end StreamSync
