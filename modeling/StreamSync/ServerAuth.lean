import StreamSync.Lib.Fallible
import StreamSync.RustStd
import StreamSync.ServerTypes

namespace StreamSync

open Fallible

structure SecretStoreSecretRef where
  storeId : String
  secretId : String
  version : Option String
deriving DecidableEq, Repr

inductive SharedTokenSecretRef where
  | inlinePlaceholder (value : String)
  | environmentVariable (name : String)
  | secretStore (reference : SecretStoreSecretRef)
deriving DecidableEq, Repr

structure AllowedClientConfig where
  clientId : String
  sharedTokenId : String
deriving DecidableEq, Repr

structure SharedTokenConfig where
  tokenId : String
  secretRef : SharedTokenSecretRef
deriving DecidableEq, Repr

structure ServerAuthConfig where
  allowedClients : List AllowedClientConfig
  sharedTokens : List SharedTokenConfig
deriving DecidableEq, Repr

/-- What `env::var` says of a name. -/
inductive EnvVar where
  | value (text : String)
  | notPresent
  | notUnicode
deriving DecidableEq, Repr

abbrev Environment := String → EnvVar

structure ServerAuthCheck where
  source : PacketSource
  request : AuthRequest
deriving DecidableEq, Repr

structure ServerResolvedSharedTokenAuthInput where
  tokenId : String
  material : String
deriving DecidableEq, Repr

inductive ServerSecretResolutionError where
  | missingEnvironmentVariable (tokenId name : String)
  | emptyEnvironmentVariable (tokenId name : String)
  | invalidEnvironmentVariable (tokenId name : String)
  | unsupportedSecretStore (tokenId : String) (reference : SecretStoreSecretRef)
deriving DecidableEq, Repr

def resolveToken (env : Environment) (token : SharedTokenConfig) :
    Except ServerSecretResolutionError ServerResolvedSharedTokenAuthInput :=
  match token.secretRef with
  | .inlinePlaceholder value => .ok ⟨token.tokenId, value⟩
  | .environmentVariable name =>
    match env name with
    | .value value =>
      if isBlank value then .error (.emptyEnvironmentVariable token.tokenId name)
      else .ok ⟨token.tokenId, value⟩
    | .notPresent => .error (.missingEnvironmentVariable token.tokenId name)
    | .notUnicode => .error (.invalidEnvironmentVariable token.tokenId name)
  | .secretStore reference => .error (.unsupportedSecretStore token.tokenId reference)

structure ServerAuthDecision where
  source : PacketSource
  clientId : ClientId
  runId : RunId
  appVersion : Option AppVersion
  protocolVersion : ProtocolVersion
  accepted : Bool
  reasonCode : AuthResponseReasonCode
  message : Option String
  serverTime : Option TimestampMicros
  expectedProtocolVersion : Option ProtocolVersion
deriving DecidableEq, Repr

namespace ServerAuthDecision

def ofAccepted (check : ServerAuthCheck) : ServerAuthDecision where
  source := check.source
  clientId := check.request.clientId
  runId := check.request.runId
  appVersion := some check.request.appVersion
  protocolVersion := check.request.protocolVersion
  accepted := true
  reasonCode := .ok
  message := none
  serverTime := none
  expectedProtocolVersion := none

def ofRejected (check : ServerAuthCheck) (reasonCode : AuthResponseReasonCode) (message : String) :
    ServerAuthDecision where
  source := check.source
  clientId := check.request.clientId
  runId := check.request.runId
  appVersion := some check.request.appVersion
  protocolVersion := check.request.protocolVersion
  accepted := false
  reasonCode := reasonCode
  message := some message
  serverTime := none
  expectedProtocolVersion := none

end ServerAuthDecision

def decideResolved (check : ServerAuthCheck) (allowedClients : List AllowedClientConfig)
    (sharedTokens : List ServerResolvedSharedTokenAuthInput) : ServerAuthDecision :=
  match allowedClients.find? (fun client => client.clientId = check.request.clientId) with
  | none => .ofRejected check .unknownClient "unknown client_id"
  | some allowedClient =>
    match sharedTokens.find? (fun token => token.tokenId = allowedClient.sharedTokenId) with
    | none => .ofRejected check .internalError "configured token reference was not found"
    | some sharedToken =>
      if check.request.sharedToken = sharedToken.material then .ofAccepted check
      else .ofRejected check .invalidToken "invalid shared_token"

def rejectSecretResolutionError (check : ServerAuthCheck) (error : ServerSecretResolutionError) :
    ServerAuthDecision :=
  .ofRejected check .internalError <|
    match error with
    | .missingEnvironmentVariable _ _ => "token secret environment variable is missing"
    | .emptyEnvironmentVariable _ _ => "token secret environment variable is empty"
    | .invalidEnvironmentVariable _ _ => "token secret environment variable is invalid"
    | .unsupportedSecretStore _ _ => "token secret store reference is not supported"

structure AuthenticatedSenderRegistration where
  clientId : ClientId
  source : PacketSource
  runId : RunId
  protocolVersion : ProtocolVersion
  registeredAt : Option TimestampMicros
deriving DecidableEq, Repr

def AuthenticatedSenderRegistration.intoEntry (registration : AuthenticatedSenderRegistration) :
    AuthenticatedSenderEntry where
  clientId := registration.clientId
  source := registration.source
  runId := registration.runId
  protocolVersion := registration.protocolVersion
  registeredAt := registration.registeredAt

def registrationFromDecision (decision : ServerAuthDecision) : Option AuthenticatedSenderRegistration :=
  if decision.accepted then
    some {
      clientId := decision.clientId
      source := decision.source
      runId := decision.runId
      protocolVersion := decision.protocolVersion
      registeredAt := decision.serverTime }
  else none

/-- A message on its way out, with its destination. -/
structure OutboundPacket where
  destination : PacketSource
  message : ProtocolMessage
deriving DecidableEq, Repr

/-- `ServerAuthResponseBoundary::build_for_send`. -/
def buildAuthResponse (decision : ServerAuthDecision) : OutboundPacket where
  destination := decision.source
  message := .authResponse {
    messageType := .authResponse
    protocolVersion := decision.protocolVersion
    clientId := decision.clientId
    runId := decision.runId
    accepted := decision.accepted
    reasonCode := decision.reasonCode
    message := decision.message
    serverTime := decision.serverTime
    expectedProtocolVersion := decision.expectedProtocolVersion }

structure ServerAuthFlowOutcome where
  decision : ServerAuthDecision
  registryRegistration : Option AuthenticatedSenderRegistration
  queueItem : OutboundPacket
deriving DecidableEq, Repr

def handleAuthCheck (env : Environment) (check : ServerAuthCheck) (config : ServerAuthConfig) :
    ServerAuthFlowOutcome :=
  let decision :=
    match config.sharedTokens.mapM (resolveToken env) with
    | .ok sharedTokens => decideResolved check config.allowedClients sharedTokens
    | .error error => rejectSecretResolutionError check error
  { decision
    registryRegistration := registrationFromDecision decision
    queueItem := buildAuthResponse decision }

/-- An allowed client whose configured token resolves to the presented one. -/
def AuthAccepts (env : Environment) (config : ServerAuthConfig) (request : AuthRequest) : Prop :=
  ∃ client ∈ config.allowedClients, ∃ token ∈ config.sharedTokens,
    client.clientId = request.clientId ∧ token.tokenId = client.sharedTokenId ∧
      resolveToken env token = .ok ⟨token.tokenId, request.sharedToken⟩

theorem resolveToken_tokenId {env : Environment} {token : SharedTokenConfig}
    {resolved : ServerResolvedSharedTokenAuthInput} (h : resolveToken env token = .ok resolved) :
    resolved.tokenId = token.tokenId := by
  unfold resolveToken at h
  split at h
  next => cases Except.ok.inj h; rfl
  next =>
    split at h
    next =>
      split at h
      next => cases h
      next => cases Except.ok.inj h; rfl
    next => cases h
    next => cases h
  next => cases h

/-- A registration comes from a request whose token was right, and binds what the request said. -/
theorem handleAuthCheck_registration {env : Environment} {check : ServerAuthCheck}
    {config : ServerAuthConfig} {registration : AuthenticatedSenderRegistration}
    (h : (handleAuthCheck env check config).registryRegistration = some registration) :
    AuthAccepts env config check.request ∧
      registration = ⟨check.request.clientId, check.source, check.request.runId,
        check.request.protocolVersion, none⟩ := by
  unfold handleAuthCheck at h
  dsimp only at h
  split at h
  next sharedTokens htokens =>
    unfold decideResolved at h
    split at h
    next => cases h
    next client hclient =>
      split at h
      next => cases h
      next token htoken =>
        split at h
        next hequal =>
          obtain ⟨source, hmem, hresolve⟩ := mem_of_mapM_ok htokens (List.mem_of_find?_eq_some htoken)
          have hid : token.tokenId = client.sharedTokenId := by simpa using List.find?_some htoken
          have hclientId : client.clientId = check.request.clientId := by
            simpa using List.find?_some hclient
          have hsource := resolveToken_tokenId hresolve
          refine ⟨⟨client, List.mem_of_find?_eq_some hclient, source, hmem, hclientId, ?_, ?_⟩,
            (Option.some.inj h).symm⟩
          · rw [← hsource, hid]
          · rw [hresolve, hequal, ← hsource]
        next => cases h
  next => cases h

end StreamSync
