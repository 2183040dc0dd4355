import StreamSync.ServerAuth

namespace StreamSync

open Fallible

namespace ServerAuthConfig

def allowedEntry (config : ServerAuthConfig) (clientId : ClientId) : Option AllowedClientConfig :=
  config.allowedClients.find? (fun client => client.clientId = clientId)

def referencedToken (config : ServerAuthConfig) (entry : AllowedClientConfig) :
    Option SharedTokenConfig :=
  config.sharedTokens.find? (fun token => token.tokenId = entry.sharedTokenId)

/-- Every configured token resolves, whichever client it is for. -/
def Resolves (env : Environment) (config : ServerAuthConfig) : Prop :=
  ∀ token ∈ config.sharedTokens, ∃ resolved, resolveToken env token = .ok resolved

end ServerAuthConfig

/-- Two set-ups that look the same to one client: its first allowed entry, the token this entry
references, and the environment variable the token names. -/
structure AgreeOnClient (clientId : ClientId) (config config' : ServerAuthConfig)
    (env env' : Environment) : Prop where
  entry : config.allowedEntry clientId = config'.allowedEntry clientId
  token : ∀ entry, config.allowedEntry clientId = some entry →
    config.referencedToken entry = config'.referencedToken entry
  envVar : ∀ entry token name, config.allowedEntry clientId = some entry →
    config.referencedToken entry = some token → token.secretRef = .environmentVariable name →
      env name = env' name

/-- The decision as far as the requested client's own entry and token determine it. -/
def clientDecision (env : Environment) (check : ServerAuthCheck) (config : ServerAuthConfig) :
    ServerAuthDecision :=
  match config.allowedEntry check.request.clientId with
  | none => .ofRejected check .unknownClient "unknown client_id"
  | some entry =>
    match (config.referencedToken entry).map (resolveToken env) with
    | some (.ok resolved) =>
      if check.request.sharedToken = resolved.material then .ofAccepted check
      else .ofRejected check .invalidToken "invalid shared_token"
    | _ => .ofRejected check .internalError "configured token reference was not found"

theorem resolveToken_congr {env env' : Environment} {token : SharedTokenConfig}
    (h : ∀ name, token.secretRef = .environmentVariable name → env name = env' name) :
    resolveToken env token = resolveToken env' token := by
  unfold resolveToken
  cases hsecret : token.secretRef with
  | inlinePlaceholder value => rfl
  | environmentVariable name =>
    have hname := h name hsecret
    simp only [hname]
  | secretStore reference => rfl

theorem clientDecision_congr {check : ServerAuthCheck} {config config' : ServerAuthConfig}
    {env env' : Environment} (h : AgreeOnClient check.request.clientId config config' env env') :
    clientDecision env check config = clientDecision env' check config' := by
  unfold clientDecision
  rw [← h.entry]
  cases hentry : config.allowedEntry check.request.clientId with
  | none => rfl
  | some entry =>
    have htoken := h.token entry hentry
    simp only [← htoken]
    cases hreferenced : config.referencedToken entry with
    | none => rfl
    | some token =>
      have hresolved : resolveToken env token = resolveToken env' token :=
        resolveToken_congr fun name => h.envVar entry token name hentry hreferenced
      simp only [Option.map_some, hresolved]

theorem decideResolved_eq_clientDecision {env : Environment} (check : ServerAuthCheck)
    {config : ServerAuthConfig} {sharedTokens : List ServerResolvedSharedTokenAuthInput}
    (h : config.sharedTokens.mapM (resolveToken env) = .ok sharedTokens) :
    decideResolved check config.allowedClients sharedTokens = clientDecision env check config := by
  unfold decideResolved clientDecision
  change (match config.allowedEntry check.request.clientId with
    | none => _
    | some _ => _) = _
  cases config.allowedEntry check.request.clientId with
  | none => rfl
  | some entry =>
    have hsame : ∀ token resolved, resolveToken env token = .ok resolved →
        decide (resolved.tokenId = entry.sharedTokenId) = decide (token.tokenId = entry.sharedTokenId) := by
      intro token resolved hresolved
      rw [resolveToken_tokenId hresolved]
    rcases find?_mapM_ok hsame h with ⟨hnone, hnone'⟩ | ⟨token, resolved, hsome, hsome', hresolved⟩
    · have hreferenced : config.referencedToken entry = none := hnone
      simp only [hnone', hreferenced, Option.map_none]
    · have hreferenced : config.referencedToken entry = some token := hsome
      simp only [hsome', hreferenced, Option.map_some, hresolved]

/-- Once every token resolves, nothing but the client's own entry and token matters. -/
theorem handleAuthCheck_decision_of_resolves {env : Environment} (check : ServerAuthCheck)
    {config : ServerAuthConfig} (h : config.Resolves env) :
    (handleAuthCheck env check config).decision = clientDecision env check config := by
  obtain ⟨sharedTokens, htokens⟩ : ∃ bs, config.sharedTokens.mapM (resolveToken env) = .ok bs :=
    mapM_ok_of_forall h
  simp only [handleAuthCheck, htokens]
  exact decideResolved_eq_clientDecision check htokens

/-- One token that does not resolve turns every client away, whoever it belongs to. -/
theorem handleAuthCheck_decision_of_not_resolves {env : Environment} (check : ServerAuthCheck)
    {config : ServerAuthConfig} (h : ¬ config.Resolves env) :
    (handleAuthCheck env check config).decision.accepted = false ∧
      (handleAuthCheck env check config).decision.reasonCode = .internalError := by
  cases htokens : config.sharedTokens.mapM (resolveToken env) with
  | ok sharedTokens => exact absurd (fun token hmem => ok_of_mapM_ok htokens hmem) h
  | error error =>
    simp only [handleAuthCheck, htokens]
    exact ⟨rfl, rfl⟩

/-- Two set-ups that agree on the requested client, and in which all configured tokens resolve in the
one when they do in the other, give the client the same answer. -/
theorem handleAuthCheck_local (check : ServerAuthCheck) (config config' : ServerAuthConfig)
    (env env' : Environment) (hagree : AgreeOnClient check.request.clientId config config' env env')
    (hresolves : config.Resolves env ↔ config'.Resolves env') :
    let decision := (handleAuthCheck env check config).decision
    let decision' := (handleAuthCheck env' check config').decision
    decision.accepted = decision'.accepted ∧ decision.reasonCode = decision'.reasonCode := by
  intro decision decision'
  by_cases hall : config.Resolves env
  · have hall' := hresolves.mp hall
    have hdecision : decision = decision' :=
      (handleAuthCheck_decision_of_resolves check hall).trans <|
        (clientDecision_congr hagree).trans (handleAuthCheck_decision_of_resolves check hall').symm
    rw [hdecision]
    exact ⟨rfl, rfl⟩
  · have hall' : ¬ config'.Resolves env' := fun h => hall (hresolves.mpr h)
    obtain ⟨haccepted, hreason⟩ := handleAuthCheck_decision_of_not_resolves check hall
    obtain ⟨haccepted', hreason'⟩ := handleAuthCheck_decision_of_not_resolves check hall'
    exact ⟨haccepted.trans haccepted'.symm, hreason.trans hreason'.symm⟩

def cameraAuthCheck : ServerAuthCheck where
  source := ⟨.v4 0x7F000001 5000⟩
  request := {
    messageType := .authRequest, protocolVersion := 1, clientId := "cam", runId := "run"
    appVersion := "0.1", sharedToken := "secret", displayName := none, capabilities := []
    requestedVideoProfile := none }

/-- A camera with its own token, next to whatever tokens other clients have. -/
def cameraAuthConfig (others : List SharedTokenConfig) : ServerAuthConfig where
  allowedClients := [⟨"cam", "token"⟩]
  sharedTokens := ⟨"token", .inlinePlaceholder "secret"⟩ :: others

theorem agreeOnClient_cameraAuthConfig (others : List SharedTokenConfig) (env : Environment) :
    AgreeOnClient "cam" (cameraAuthConfig []) (cameraAuthConfig others) env env where
  entry := rfl
  token := by
    intro entry hentry
    cases Option.some.inj hentry
    rfl
  envVar := fun _ _ _ _ _ _ => rfl

theorem handleAuthCheck_local_two_tokens :
    let others : List SharedTokenConfig := [⟨"other", .inlinePlaceholder "theirs"⟩]
    let env : Environment := fun _ => .notPresent
    let decision := (handleAuthCheck env cameraAuthCheck (cameraAuthConfig [])).decision
    let decision' := (handleAuthCheck env cameraAuthCheck (cameraAuthConfig others)).decision
    decision.accepted = decision'.accepted ∧ decision.reasonCode = decision'.reasonCode := by
  intro others env
  have hresolves : (cameraAuthConfig []).Resolves env := by
    simp [ServerAuthConfig.Resolves, cameraAuthConfig, resolveToken]
  have hresolves' : (cameraAuthConfig others).Resolves env := by
    simp [ServerAuthConfig.Resolves, cameraAuthConfig, others, resolveToken]
  exact handleAuthCheck_local cameraAuthCheck (cameraAuthConfig []) (cameraAuthConfig others) env env
    (agreeOnClient_cameraAuthConfig others env) (iff_of_true hresolves hresolves')

/-- The camera is turned away with an internal error once a token of another client does not resolve. -/
theorem handleAuthCheck_not_local :
    ¬ ∀ (check : ServerAuthCheck) (config config' : ServerAuthConfig) (env env' : Environment),
      AgreeOnClient check.request.clientId config config' env env' →
        let decision := (handleAuthCheck env check config).decision
        let decision' := (handleAuthCheck env' check config').decision
        decision.accepted = decision'.accepted ∧ decision.reasonCode = decision'.reasonCode := by
  intro h
  let others : List SharedTokenConfig := [⟨"other", .environmentVariable "OTHER_TOKEN"⟩]
  let env : Environment := fun _ => .notPresent
  obtain ⟨haccepted, -⟩ := h cameraAuthCheck (cameraAuthConfig []) (cameraAuthConfig others) env env
    (agreeOnClient_cameraAuthConfig others env)
  have haccept : (handleAuthCheck env cameraAuthCheck (cameraAuthConfig [])).decision.accepted = true := by
    decide
  have hreject :
      (handleAuthCheck env cameraAuthCheck (cameraAuthConfig others)).decision.accepted = false := by
    decide
  rw [haccept, hreject] at haccepted
  cases haccepted

end StreamSync
