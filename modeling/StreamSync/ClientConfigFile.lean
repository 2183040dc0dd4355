import StreamSync.ConfigLines
import StreamSync.PersistentSender
import StreamSync.ServerTypes

namespace StreamSync

open Fallible LineText

inductive ClientAuthRequestPocConfigError where
  | invalidTomlLine (line : Nat) (message : String)
  | invalidTomlString (line : Nat) (key : String)
  | invalidNumber (line : Nat) (key : String)
  | missingField (section_ key : String)
  | invalidDestination (value message : String)
deriving DecidableEq, Repr

inductive ClientAuthRequestPocError where
  | config (error : ClientAuthRequestPocConfigError)
  | destination (error : ClientAuthRequestPocConfigError)
deriving DecidableEq, Repr

inductive ClientVideoEncoderBackend where
  | ffmpegLibx264
deriving DecidableEq, Repr

/-- The encoder config as a file gives it, with what the sender itself does not read. -/
structure ClientVideoEncoderFileConfig extends ClientVideoEncoderConfig where
  backend : ClientVideoEncoderBackend
  ffmpegPath : String
  bitrateKbps : Option UInt32
  gopFrames : Option UInt32
  preset : String
  tune : String
  pixelFormat : String
  profile : Option String
  level : Option String
deriving DecidableEq, Repr

def defaultVideoEncoderConfig : ClientVideoEncoderFileConfig where
  backend := .ffmpegLibx264
  ffmpegPath := "ffmpeg"
  width := none
  height := none
  fps := 30
  bitrateKbps := none
  gopFrames := none
  preset := "ultrafast"
  tune := "zerolatency"
  pixelFormat := "yuv420p"
  profile := none
  level := none

structure ClientPocSettings where
  clientId : String
  displayName : Option String
  serverHost : String
  serverPort : UInt16
  sharedToken : String
  runId : String
  appVersion : String
  protocolVersion : UInt32
  heartbeatIntervalMs : UInt32
  connectTimeoutMs : UInt32
  videoEncoderConfig : ClientVideoEncoderFileConfig
deriving DecidableEq, Repr

structure PartialClientPocSettings where
  clientId : Option String := none
  displayName : Option String := none
  serverHost : Option String := none
  serverPort : Option UInt16 := none
  sharedToken : Option String := none
  runId : Option String := none
  appVersion : Option String := none
  protocolVersion : Option UInt32 := none
  heartbeatIntervalMs : Option UInt32 := none
  connectTimeoutMs : Option UInt32 := none
  videoEncoderBackend : Option ClientVideoEncoderBackend := none
  videoEncoderFfmpegPath : Option String := none
  videoEncoderWidth : Option UInt32 := none
  videoEncoderHeight : Option UInt32 := none
  videoEncoderFps : Option UInt32 := none
  videoEncoderBitrateKbps : Option UInt32 := none
  videoEncoderGopFrames : Option UInt32 := none
  videoEncoderPreset : Option String := none
  videoEncoderTune : Option String := none
  videoEncoderPixelFormat : Option String := none
  videoEncoderProfile : Option String := none
  videoEncoderLevel : Option String := none
deriving DecidableEq, Repr

inductive ClientPocSection where
  | client | session | network | videoEncoder
deriving DecidableEq, Repr

def clientPocSection (sectionName : List Char) : Option ClientPocSection :=
  if sectionName = "client".toList then some .client
  else if sectionName = "session".toList then some .session
  else if sectionName = "network".toList then some .network
  else if sectionName = "video.encoder".toList then some .videoEncoder
  else none

def stripTomlComment (line : List Char) : List Char := beforeFirst '#' line

section Fields

variable (value : List Char) (line : Nat) (key : String)

def parsePocTomlString : Except ClientAuthRequestPocError String :=
  match enclosed '"' '"' value with
  | some inner => .ok (String.ofList inner)
  | none => .error (.config (.invalidTomlString line key))

def parsePocU16 : Except ClientAuthRequestPocError UInt16 :=
  match parseUnsigned 65536 value with
  | some n => .ok (UInt16.ofNat n)
  | none => .error (.config (.invalidNumber line key))

def parsePocU32 : Except ClientAuthRequestPocError UInt32 :=
  match parseUnsigned 4294967296 value with
  | some n => .ok (UInt32.ofNat n)
  | none => .error (.config (.invalidNumber line key))

def parsePositivePocU32 : Except ClientAuthRequestPocError UInt32 := do
  let value ← parsePocU32 value line key
  if value = 0 then .error (.config (.invalidNumber line key)) else pure value

def parseVideoEncoderBackend : Except ClientAuthRequestPocError ClientVideoEncoderBackend := do
  let backend ← parsePocTomlString value line key
  if backend = "ffmpeg_libx264" then pure .ffmpegLibx264
  else .error (.config (.invalidTomlString line key))

/-- What an entry does to the settings read so far. -/
abbrev SettingsUpdate := PartialClientPocSettings → PartialClientPocSettings

def clientFieldUpdate : Except ClientAuthRequestPocError SettingsUpdate :=
  match key with
  | "client_id" => do
    let v ← parsePocTomlString value line key
    pure fun parsed => { parsed with clientId := some v }
  | "display_name" => do
    let v ← parsePocTomlString value line key
    pure fun parsed => { parsed with displayName := some v }
  | "server_host" => do
    let v ← parsePocTomlString value line key
    pure fun parsed => { parsed with serverHost := some v }
  | "server_port" => do
    let v ← parsePocU16 value line key
    pure fun parsed => { parsed with serverPort := some v }
  | "shared_token" => do
    let v ← parsePocTomlString value line key
    pure fun parsed => { parsed with sharedToken := some v }
  | _ => pure id

def sessionFieldUpdate : Except ClientAuthRequestPocError SettingsUpdate :=
  match key with
  | "run_id" => do
    let v ← parsePocTomlString value line key
    pure fun parsed => { parsed with runId := some v }
  | "app_version" => do
    let v ← parsePocTomlString value line key
    pure fun parsed => { parsed with appVersion := some v }
  | "protocol_version" => do
    let v ← parsePocU32 value line key
    pure fun parsed => { parsed with protocolVersion := some v }
  | _ => pure id

def networkFieldUpdate : Except ClientAuthRequestPocError SettingsUpdate :=
  match key with
  | "heartbeat_interval_ms" => do
    let v ← parsePocU32 value line key
    pure fun parsed => { parsed with heartbeatIntervalMs := some v }
  | "connect_timeout_ms" => do
    let v ← parsePocU32 value line key
    pure fun parsed => { parsed with connectTimeoutMs := some v }
  | _ => pure id

def videoEncoderFieldUpdate : Except ClientAuthRequestPocError SettingsUpdate :=
  match key with
  | "backend" => do
    let v ← parseVideoEncoderBackend value line key
    pure fun parsed => { parsed with videoEncoderBackend := some v }
  | "ffmpeg_path" => do
    let v ← parsePocTomlString value line key
    pure fun parsed => { parsed with videoEncoderFfmpegPath := some v }
  | "width" => do
    let v ← parsePositivePocU32 value line key
    pure fun parsed => { parsed with videoEncoderWidth := some v }
  | "height" => do
    let v ← parsePositivePocU32 value line key
    pure fun parsed => { parsed with videoEncoderHeight := some v }
  | "fps" => do
    let v ← parsePositivePocU32 value line key
    pure fun parsed => { parsed with videoEncoderFps := some v }
  | "bitrate_kbps" => do
    let v ← parsePositivePocU32 value line key
    pure fun parsed => { parsed with videoEncoderBitrateKbps := some v }
  | "gop_frames" => do
    let v ← parsePositivePocU32 value line key
    pure fun parsed => { parsed with videoEncoderGopFrames := some v }
  | "preset" => do
    let v ← parsePocTomlString value line key
    pure fun parsed => { parsed with videoEncoderPreset := some v }
  | "tune" => do
    let v ← parsePocTomlString value line key
    pure fun parsed => { parsed with videoEncoderTune := some v }
  | "pixel_format" => do
    let v ← parsePocTomlString value line key
    pure fun parsed => { parsed with videoEncoderPixelFormat := some v }
  | "profile" => do
    let v ← parsePocTomlString value line key
    pure fun parsed => { parsed with videoEncoderProfile := some v }
  | "level" => do
    let v ← parsePocTomlString value line key
    pure fun parsed => { parsed with videoEncoderLevel := some v }
  | _ => pure id

def fieldUpdate : ClientPocSection → Except ClientAuthRequestPocError SettingsUpdate
  | .client => clientFieldUpdate value line key
  | .session => sessionFieldUpdate value line key
  | .network => networkFieldUpdate value line key
  | .videoEncoder => videoEncoderFieldUpdate value line key

end Fields

/-- What `parse_client_poc_settings` carries from line to line. -/
structure ClientTomlState where
  currentSection : Option ClientPocSection := none
  parsed : PartialClientPocSettings := {}

/-- One line of `parse_client_poc_settings`. -/
def parseClientLine (lineNumber : Nat) (rawLine : List Char) (state : ClientTomlState) :
    Except ClientAuthRequestPocError ClientTomlState :=
  let line := trim isWhitespace (stripTomlComment rawLine)
  if line.isEmpty then .ok state
  else
    match enclosed '[' ']' line with
    | some sectionName => .ok { state with currentSection := clientPocSection sectionName }
    | none =>
      match state.currentSection with
      | none => .ok state
      | some current =>
        match splitOnce '=' line with
        | none => .error (.config (.invalidTomlLine lineNumber "expected key = value"))
        | some (key, rawValue) => do
          let update ← fieldUpdate (trim isWhitespace rawValue) lineNumber
            (String.ofList (trim isWhitespace key)) current
          pure { state with parsed := update state.parsed }

def requireField {α : Type} (value : Option α) (section_ key : String) :
    Except ClientAuthRequestPocError α :=
  match value with
  | some v => .ok v
  | none => .error (.config (.missingField section_ key))

def requireString : Option String → String → String → Except ClientAuthRequestPocError String := requireField
def requireU16 : Option UInt16 → String → String → Except ClientAuthRequestPocError UInt16 := requireField
def requireU32 : Option UInt32 → String → String → Except ClientAuthRequestPocError UInt32 := requireField

def videoEncoderConfigOf (parsed : PartialClientPocSettings) : ClientVideoEncoderFileConfig where
  backend := parsed.videoEncoderBackend.getD defaultVideoEncoderConfig.backend
  ffmpegPath := parsed.videoEncoderFfmpegPath.getD defaultVideoEncoderConfig.ffmpegPath
  width := parsed.videoEncoderWidth
  height := parsed.videoEncoderHeight
  fps := parsed.videoEncoderFps.getD defaultVideoEncoderConfig.fps
  bitrateKbps := parsed.videoEncoderBitrateKbps
  gopFrames := parsed.videoEncoderGopFrames
  preset := parsed.videoEncoderPreset.getD defaultVideoEncoderConfig.preset
  tune := parsed.videoEncoderTune.getD defaultVideoEncoderConfig.tune
  pixelFormat := parsed.videoEncoderPixelFormat.getD defaultVideoEncoderConfig.pixelFormat
  profile := parsed.videoEncoderProfile
  level := parsed.videoEncoderLevel

/-- What `parse_client_poc_settings` makes of the fields it has read. -/
def settingsOf (parsed : PartialClientPocSettings) : Except ClientAuthRequestPocError ClientPocSettings := do
  let videoEncoderConfig := videoEncoderConfigOf parsed
  if videoEncoderConfig.width.isSome ≠ videoEncoderConfig.height.isSome then
    .error (.config (.missingField "video.encoder"
      (if videoEncoderConfig.width.isSome then "height" else "width")))
  else do
    let clientId ← requireString parsed.clientId "client" "client_id"
    let serverHost ← requireString parsed.serverHost "client" "server_host"
    let serverPort ← requireU16 parsed.serverPort "client" "server_port"
    let sharedToken ← requireString parsed.sharedToken "client" "shared_token"
    let runId ← requireString parsed.runId "session" "run_id"
    let appVersion ← requireString parsed.appVersion "session" "app_version"
    let protocolVersion ← requireU32 parsed.protocolVersion "session" "protocol_version"
    pure {
      displayName := parsed.displayName
      heartbeatIntervalMs := parsed.heartbeatIntervalMs.getD 1000
      connectTimeoutMs := parsed.connectTimeoutMs.getD 5000
      clientId, serverHost, serverPort, sharedToken, runId, appVersion, protocolVersion, videoEncoderConfig }

def parseClientPocSettings (input : String) : Except ClientAuthRequestPocError ClientPocSettings := do
  let state ← foldLines parseClientLine 1 (lines input.toList) {}
  settingsOf state.parsed

structure ClientAuthRequestPocStartupConfig where
  destination : SocketAddr
  responseTimeoutMs : UInt64
  request : AuthRequest
deriving DecidableEq

/-- `load_startup_config_from_str`; how a host is resolved is left open. -/
def loadStartupConfigFromStr (resolveDestination : String → UInt16 → Except ClientAuthRequestPocError SocketAddr)
    (input : String) : Except ClientAuthRequestPocError ClientAuthRequestPocStartupConfig := do
  let settings ← parseClientPocSettings input
  let destination ← resolveDestination settings.serverHost settings.serverPort
  pure {
    responseTimeoutMs := settings.connectTimeoutMs.toUInt64
    request := {
      messageType := .authRequest
      protocolVersion := settings.protocolVersion
      clientId := settings.clientId
      runId := settings.runId
      appVersion := settings.appVersion
      sharedToken := settings.sharedToken
      displayName := settings.displayName
      capabilities := []
      requestedVideoProfile := none }
    destination }

def PartialClientPocSettings.withToken (parsed : PartialClientPocSettings) (token : String) :
    PartialClientPocSettings := { parsed with sharedToken := some token }

def ClientTomlState.withToken (state : ClientTomlState) (token : String) : ClientTomlState :=
  { state with parsed := state.parsed.withToken token }

def isClientSection (header : List Char) : Bool := clientPocSection header = some .client

section Frame

variable {value : List Char} {line lineNumber : Nat} {key token : String} {update : SettingsUpdate}

/-- The entry leaves alone what the file says of the token. -/
def KeepsToken (update : SettingsUpdate) : Prop :=
  ∀ (parsed : PartialClientPocSettings) (token : String),
    update (parsed.withToken token) = (update parsed).withToken token

theorem keepsToken_id : KeepsToken id := fun _ _ => rfl

theorem keepsToken_of_bind {α : Type} {parse : Except ClientAuthRequestPocError α} {set : α → SettingsUpdate}
    (h : (do let v ← parse; pure (set v)) = Except.ok update) (hset : ∀ v, KeepsToken (set v)) :
    KeepsToken update := by
  obtain ⟨v, -, h⟩ := bind_eq_ok_iff.mp h
  cases Except.ok.inj h
  exact hset v

theorem keepsToken_clientFieldUpdate (h : clientFieldUpdate value line key = .ok update)
    (hkey : key ≠ "shared_token") : KeepsToken update := by
  unfold clientFieldUpdate at h
  split at h
  next => exact keepsToken_of_bind h fun _ _ _ => rfl
  next => exact keepsToken_of_bind h fun _ _ _ => rfl
  next => exact keepsToken_of_bind h fun _ _ _ => rfl
  next => exact keepsToken_of_bind h fun _ _ _ => rfl
  next => exact absurd rfl hkey
  next =>
    cases Except.ok.inj h
    exact keepsToken_id

theorem keepsToken_sessionFieldUpdate (h : sessionFieldUpdate value line key = .ok update) :
    KeepsToken update := by
  unfold sessionFieldUpdate at h
  split at h
  next => exact keepsToken_of_bind h fun _ _ _ => rfl
  next => exact keepsToken_of_bind h fun _ _ _ => rfl
  next => exact keepsToken_of_bind h fun _ _ _ => rfl
  next =>
    cases Except.ok.inj h
    exact keepsToken_id

theorem keepsToken_networkFieldUpdate (h : networkFieldUpdate value line key = .ok update) :
    KeepsToken update := by
  unfold networkFieldUpdate at h
  split at h
  next => exact keepsToken_of_bind h fun _ _ _ => rfl
  next => exact keepsToken_of_bind h fun _ _ _ => rfl
  next =>
    cases Except.ok.inj h
    exact keepsToken_id

theorem keepsToken_videoEncoderFieldUpdate (h : videoEncoderFieldUpdate value line key = .ok update) :
    KeepsToken update := by
  unfold videoEncoderFieldUpdate at h
  split at h
  case h_13 =>
    cases Except.ok.inj h
    exact keepsToken_id
  all_goals exact keepsToken_of_bind h fun _ _ _ => rfl

/-- Only one entry of one section is the token. -/
theorem keepsToken_fieldUpdate {current : ClientPocSection} (h : fieldUpdate value line key current = .ok update)
    (hkeep : current = .client → key ≠ "shared_token") : KeepsToken update := by
  cases current with
  | client => exact keepsToken_clientFieldUpdate h (hkeep rfl)
  | session => exact keepsToken_sessionFieldUpdate h
  | network => exact keepsToken_networkFieldUpdate h
  | videoEncoder => exact keepsToken_videoEncoderFieldUpdate h

variable {state state' : ClientTomlState} {rawLine : List Char}

theorem parseClientLine_of_blank (h : readLine rawLine = []) :
    parseClientLine lineNumber rawLine state = .ok state := by
  have hread : trim isWhitespace (stripTomlComment rawLine) = [] := h
  unfold parseClientLine
  rw [hread]
  rfl

theorem parseClientLine_of_header {sectionName : List Char} (hne : readLine rawLine ≠ [])
    (h : tableHeader rawLine = some sectionName) :
    parseClientLine lineNumber rawLine state =
      .ok { state with currentSection := clientPocSection sectionName } := by
  have hread : trim isWhitespace (stripTomlComment rawLine) = readLine rawLine := rfl
  have hsection : enclosed '[' ']' (readLine rawLine) = some sectionName := h
  unfold parseClientLine
  dsimp only
  rw [hread, hsection]
  exact if_neg fun hblank => hne (List.isEmpty_iff.mp hblank)

theorem parseClientLine_outside (h : tableHeader rawLine = none) (hcurrent : state.currentSection = none) :
    parseClientLine lineNumber rawLine state = .ok state := by
  have hread : trim isWhitespace (stripTomlComment rawLine) = readLine rawLine := rfl
  have hsection : enclosed '[' ']' (readLine rawLine) = none := h
  unfold parseClientLine
  dsimp only
  rw [hread, hsection, hcurrent]
  exact ite_self _

theorem parseClientLine_of_entry {key rawValue : List Char} {current : ClientPocSection}
    (hne : readLine rawLine ≠ []) (h : tableHeader rawLine = none) (hcurrent : state.currentSection = some current)
    (hsplit : splitOnce '=' (readLine rawLine) = some (key, rawValue)) :
    parseClientLine lineNumber rawLine state =
      (do
        let update ← fieldUpdate (trim isWhitespace rawValue) lineNumber
          (String.ofList (trim isWhitespace key)) current
        pure { state with parsed := update state.parsed }) := by
  have hread : trim isWhitespace (stripTomlComment rawLine) = readLine rawLine := rfl
  have hsection : enclosed '[' ']' (readLine rawLine) = none := h
  unfold parseClientLine
  dsimp only
  rw [hread, hsection]
  dsimp only
  rw [hcurrent]
  dsimp only
  rw [hsplit]
  exact if_neg fun hblank => hne (List.isEmpty_iff.mp hblank)

/-- What a line can do: nothing, open a section, or make an entry in the section it stands in. -/
theorem parseClientLine_cases (h : parseClientLine lineNumber rawLine state = .ok state') :
    (tableHeader rawLine = none ∧ (readLine rawLine = [] ∨ state.currentSection = none) ∧ state' = state) ∨
      (∃ sectionName, tableHeader rawLine = some sectionName ∧ readLine rawLine ≠ [] ∧
        state' = { state with currentSection := clientPocSection sectionName }) ∨
      ∃ key rawValue current update, tableHeader rawLine = none ∧ readLine rawLine ≠ [] ∧
        state.currentSection = some current ∧ splitOnce '=' (readLine rawLine) = some (key, rawValue) ∧
        fieldUpdate (trim isWhitespace rawValue) lineNumber (String.ofList (trim isWhitespace key)) current =
          .ok update ∧
        state' = { state with parsed := update state.parsed } := by
  have hread : trim isWhitespace (stripTomlComment rawLine) = readLine rawLine := rfl
  by_cases hblank : readLine rawLine = []
  · rw [parseClientLine_of_blank hblank] at h
    refine Or.inl ⟨?_, Or.inl hblank, (Except.ok.inj h).symm⟩
    unfold tableHeader
    rw [hblank]
    rfl
  · cases hheader : tableHeader rawLine with
    | some sectionName =>
      rw [parseClientLine_of_header hblank hheader] at h
      exact Or.inr (Or.inl ⟨sectionName, rfl, hblank, (Except.ok.inj h).symm⟩)
    | none =>
      cases hcurrent : state.currentSection with
      | none =>
        rw [parseClientLine_outside hheader hcurrent] at h
        exact Or.inl ⟨rfl, Or.inr rfl, (Except.ok.inj h).symm⟩
      | some current =>
        cases hsplit : splitOnce '=' (readLine rawLine) with
        | none =>
          have hsection : enclosed '[' ']' (readLine rawLine) = none := hheader
          unfold parseClientLine at h
          dsimp only at h
          rw [hread, hsection] at h
          dsimp only at h
          rw [hcurrent] at h
          dsimp only at h
          rw [hsplit, if_neg fun hempty => hblank (List.isEmpty_iff.mp hempty)] at h
          cases h
        | some parts =>
          obtain ⟨key, rawValue⟩ := parts
          rw [parseClientLine_of_entry hblank hheader hcurrent hsplit] at h
          obtain ⟨update, hupdate, h⟩ := bind_eq_ok_iff.mp h
          exact Or.inr (Or.inr ⟨key, rawValue, current, update, rfl, hblank, rfl, rfl, hupdate,
            (Except.ok.inj h).symm.trans (by rw [hcurrent])⟩)

/-- Which section a line leaves the parser in. -/
theorem currentSection_parseClientLine (h : parseClientLine lineNumber rawLine state = .ok state') :
    decide (state'.currentSection = some .client) =
      ((tableHeader rawLine).map isClientSection).getD (decide (state.currentSection = some .client)) := by
  rcases parseClientLine_cases h with
    ⟨hheader, -, rfl⟩ | ⟨name, hheader, -, rfl⟩ | ⟨_, _, _, _, hheader, -, -, -, -, rfl⟩
  · rw [hheader]
    rfl
  · rw [hheader]
    rfl
  · rw [hheader]
    rfl

theorem parseClientLine_withToken (h : parseClientLine lineNumber rawLine state = .ok state')
    (hkeep : state.currentSection = some .client → tableHeader rawLine = none →
      lineKey rawLine ≠ some "shared_token") :
    parseClientLine lineNumber rawLine (state.withToken token) = .ok (state'.withToken token) := by
  rcases parseClientLine_cases h with ⟨hheader, hblank | hcurrent, rfl⟩ | ⟨name, hheader, hne, rfl⟩ |
    ⟨key, rawValue, current, update, hheader, hne, hcurrent, hsplit, hupdate, rfl⟩
  · exact parseClientLine_of_blank hblank
  · exact parseClientLine_outside hheader hcurrent
  · exact parseClientLine_of_header hne hheader
  · have hkeeps : KeepsToken update := by
      refine keepsToken_fieldUpdate hupdate fun hclient hkey => ?_
      subst hclient
      refine hkeep hcurrent hheader ?_
      unfold lineKey
      rw [hsplit]
      exact congrArg some hkey
    have hcurrent' : (state.withToken token).currentSection = some current := hcurrent
    rw [parseClientLine_of_entry hne hheader hcurrent' hsplit, hupdate]
    refine congrArg Except.ok ?_
    unfold ClientTomlState.withToken
    dsimp only
    rw [hkeeps]

theorem parseClientLine_tokenLine (hcurrent : state.currentSection = some .client)
    (hquote : '"' ∉ token.toList) :
    parseClientLine lineNumber (tokenLine token) state =
      if '#' ∈ token.toList then .error (.config (.invalidTomlString lineNumber "shared_token"))
      else .ok (state.withToken token) := by
  obtain ⟨key, rawValue, hne, hheader, hsplit, hkey, hvalue⟩ := readLine_tokenLine hquote
  have hread : parsePocTomlString (trim isWhitespace rawValue) lineNumber "shared_token" =
      if '#' ∈ token.toList then .error (.config (.invalidTomlString lineNumber "shared_token"))
      else .ok token := by
    unfold parsePocTomlString
    rw [hvalue]
    by_cases hhash : '#' ∈ token.toList
    · rw [if_pos hhash, if_pos hhash]
    · rw [if_neg hhash, if_neg hhash, ← String.ofList_toList (s := token)]
      simp
  have hupdate : fieldUpdate (trim isWhitespace rawValue) lineNumber "shared_token" .client =
      (do
        let v ← parsePocTomlString (trim isWhitespace rawValue) lineNumber "shared_token"
        pure fun parsed => { parsed with sharedToken := some v }) := rfl
  rw [parseClientLine_of_entry hne hheader hcurrent hsplit, hkey, hupdate, hread]
  by_cases hhash : '#' ∈ token.toList
  · rw [if_pos hhash, if_pos hhash]
    rfl
  · rw [if_neg hhash, if_neg hhash]
    rfl

end Frame

/-- The client's parser, with what it makes of the token. -/
def clientTokenParser : TokenParser ClientTomlState ClientAuthRequestPocError where
  step := parseClientLine
  isTable := isClientSection
  inTable state := decide (state.currentSection = some .client)
  withToken := ClientTomlState.withToken
  unquoted lineNumber := .config (.invalidTomlString lineNumber "shared_token")
  withToken_again _ _ _ := rfl
  inTable_withToken _ _ := rfl
  inTable_step := currentSection_parseClientLine
  step_withToken _ h hkeep := parseClientLine_withToken h fun hcurrent => hkeep (decide_eq_true hcurrent)
  step_tokenLine _ _ _ hin hquote := parseClientLine_tokenLine (of_decide_eq_true hin) hquote

/-- A client config whose client section gives a token. -/
structure ClientTokenFile (resolveDestination : String → UInt16 → Except ClientAuthRequestPocError SocketAddr)
    (file : TokenFile) : Prop where
  givesToken : file.GivesToken isClientSection
  loads : ∃ placeholder startup, PlainToken placeholder ∧ '#' ∉ placeholder.toList ∧
    loadStartupConfigFromStr resolveDestination (file.text "client" placeholder) = .ok startup

/-- Settings that had a token may have any. -/
theorem settingsOf_withToken {parsed : PartialClientPocSettings} {settings : ClientPocSettings}
    (h : settingsOf parsed = .ok settings) (token : String) :
    settingsOf (parsed.withToken token) = .ok { settings with sharedToken := token } := by
  have hvideo : videoEncoderConfigOf (parsed.withToken token) = videoEncoderConfigOf parsed := rfl
  unfold settingsOf at h ⊢
  rw [hvideo]
  dsimp only at h ⊢
  by_cases hsize : (videoEncoderConfigOf parsed).width.isSome ≠ (videoEncoderConfigOf parsed).height.isSome
  · rw [if_pos hsize] at h
    cases h
  · rw [if_neg hsize] at h ⊢
    obtain ⟨clientId, hclientId, h⟩ := bind_eq_ok_iff.mp h
    obtain ⟨serverHost, hserverHost, h⟩ := bind_eq_ok_iff.mp h
    obtain ⟨serverPort, hserverPort, h⟩ := bind_eq_ok_iff.mp h
    obtain ⟨sharedToken, -, h⟩ := bind_eq_ok_iff.mp h
    obtain ⟨runId, hrunId, h⟩ := bind_eq_ok_iff.mp h
    obtain ⟨appVersion, happVersion, h⟩ := bind_eq_ok_iff.mp h
    obtain ⟨protocolVersion, hprotocolVersion, h⟩ := bind_eq_ok_iff.mp h
    cases Except.ok.inj h
    refine bind_eq_ok_iff.mpr ⟨clientId, hclientId, ?_⟩
    refine bind_eq_ok_iff.mpr ⟨serverHost, hserverHost, ?_⟩
    refine bind_eq_ok_iff.mpr ⟨serverPort, hserverPort, ?_⟩
    refine bind_eq_ok_iff.mpr ⟨token, rfl, ?_⟩
    refine bind_eq_ok_iff.mpr ⟨runId, hrunId, ?_⟩
    refine bind_eq_ok_iff.mpr ⟨appVersion, happVersion, ?_⟩
    exact bind_eq_ok_iff.mpr ⟨protocolVersion, hprotocolVersion, rfl⟩

section Load

variable {resolveDestination : String → UInt16 → Except ClientAuthRequestPocError SocketAddr}
  {file : TokenFile} {token : String}

/-- The client loads the file, and would send the token, exactly where no comment starts in it. -/
theorem loadStartupConfigFromStr_text (hfile : ClientTokenFile resolveDestination file)
    (htoken : PlainToken token) :
    if '#' ∈ token.toList then
      ∃ lineNumber, loadStartupConfigFromStr resolveDestination (file.text "client" token) =
        .error (.config (.invalidTomlString lineNumber "shared_token"))
    else
      ∃ startup, loadStartupConfigFromStr resolveDestination (file.text "client" token) = .ok startup ∧
        startup.request.sharedToken = token := by
  obtain ⟨placeholder, startup, hplaceholder, hnohash, hload⟩ := hfile.loads
  obtain ⟨settings, hsettings, hload⟩ := bind_eq_ok_iff.mp hload
  obtain ⟨destination, hdestination, -⟩ := bind_eq_ok_iff.mp hload
  obtain ⟨state, hstate, hsettings⟩ := bind_eq_ok_iff.mp hsettings
  obtain ⟨-, lineNumber, htext⟩ := clientTokenParser.foldLines_text (by decide) (by decide) (by decide)
    hfile.givesToken hplaceholder hnohash htoken hstate
  have hfold : foldLines parseClientLine 1 (lines (file.text "client" token).toList) {} = _ := htext
  by_cases hhash : '#' ∈ token.toList
  · rw [if_pos hhash] at hfold ⊢
    refine ⟨lineNumber, ?_⟩
    unfold loadStartupConfigFromStr parseClientPocSettings
    rw [hfold]
    rfl
  · rw [if_neg hhash] at hfold ⊢
    have hparsed : parseClientPocSettings (file.text "client" token) =
        .ok { settings with sharedToken := token } :=
      bind_eq_ok_iff.mpr ⟨_, hfold, settingsOf_withToken hsettings token⟩
    exact ⟨_, bind_eq_ok_iff.mpr ⟨_, hparsed, bind_eq_ok_iff.mpr ⟨destination, hdestination, rfl⟩⟩, rfl⟩

end Load

end StreamSync
