import StreamSync.ConfigLines
import StreamSync.Lib.Table
import StreamSync.ServerAuth

namespace StreamSync

open Fallible KeyedTable LineText

inductive ConfigLoadError where
  | invalidTomlLine (line : Nat) (message : String)
  | invalidTomlString (line : Nat) (key : String)
  | missingAuthSection
  | noAuthClients
  | missingSharedToken (clientId : String)
  | conflictingSharedTokenRefs (clientId : String)
deriving DecidableEq, Repr

structure ParsedAuthClientToml where
  sharedToken : Option String := none
  sharedTokenEnv : Option String := none
deriving DecidableEq, Repr

abbrev ParsedAuthClients := Table String ParsedAuthClientToml

structure ParsedAuthToml where
  sawAuthSection : Bool := false
  clients : ParsedAuthClients := ∅

/-- What `parse_auth_clients` carries from line to line. -/
structure AuthTomlState where
  parsed : ParsedAuthToml := {}
  currentClientId : Option String := none

/-- `entry(client_id).or_default()`, and a change to what it finds. -/
def updateClient (change : ParsedAuthClientToml → ParsedAuthClientToml) (clientId : String)
    (clients : ParsedAuthClients) : ParsedAuthClients :=
  clients.insert clientId (change (clients[clientId]?.getD {}))

def stripComment (line : List Char) : List Char := beforeFirst '#' line

def parseTomlString (value : List Char) (line : Nat) (key : String) : Except ConfigLoadError String :=
  match enclosed '"' '"' value with
  | some inner => .ok (String.ofList inner)
  | none => .error (.invalidTomlString line key)

def clientTablePrefix : List Char := "auth.clients.".toList

def parseAuthHeader (lineNumber : Nat) (sectionName : List Char) (state : AuthTomlState) :
    Except ConfigLoadError AuthTomlState :=
  if sectionName = "auth".toList ∨ sectionName = "auth.clients".toList then
    .ok { parsed := { state.parsed with sawAuthSection := true }, currentClientId := none }
  else
    match stripPrefix clientTablePrefix sectionName with
    | some name =>
      if (trim isWhitespace name).isEmpty then
        .error (.invalidTomlLine lineNumber "auth client table name is empty")
      else
        let clientId := String.ofList (trim isWhitespace name)
        .ok {
          parsed := { sawAuthSection := true, clients := updateClient id clientId state.parsed.clients }
          currentClientId := some clientId }
    | none => .ok { state with currentClientId := none }

def parseAuthEntry (lineNumber : Nat) (key : String) (rawValue : List Char) (state : AuthTomlState) :
    Except ConfigLoadError AuthTomlState :=
  match state.currentClientId with
  | none => .ok state
  | some clientId =>
    if key = "shared_token" then do
      let value ← parseTomlString rawValue lineNumber key
      pure { state with
        parsed.clients :=
          updateClient (fun client => { client with sharedToken := some value }) clientId state.parsed.clients }
    else if key = "shared_token_env" then do
      let value ← parseTomlString rawValue lineNumber key
      pure { state with
        parsed.clients :=
          updateClient (fun client => { client with sharedTokenEnv := some value }) clientId
            state.parsed.clients }
    else .ok state

/-- One line of `parse_auth_clients`. -/
def parseAuthLine (lineNumber : Nat) (rawLine : List Char) (state : AuthTomlState) :
    Except ConfigLoadError AuthTomlState :=
  let line := trim isWhitespace (stripComment rawLine)
  if line.isEmpty then .ok state
  else
    match enclosed '[' ']' line with
    | some sectionName => parseAuthHeader lineNumber sectionName state
    | none =>
      match splitOnce '=' line with
      | none => .error (.invalidTomlLine lineNumber "expected key = value")
      | some (key, rawValue) =>
        parseAuthEntry lineNumber (String.ofList (trim isWhitespace key)) (trim isWhitespace rawValue) state

def parseAuthClients (input : String) : Except ConfigLoadError ParsedAuthToml := do
  let state ← foldLines parseAuthLine 1 (lines input.toList) {}
  if state.parsed.sawAuthSection then pure state.parsed else .error .missingAuthSection

def sharedTokenSecretRef (clientId : String) (client : ParsedAuthClientToml) :
    Except ConfigLoadError SharedTokenSecretRef :=
  match client.sharedToken, client.sharedTokenEnv with
  | some _, some _ => .error (.conflictingSharedTokenRefs clientId)
  | some sharedToken, none =>
    if isBlank sharedToken then .error (.missingSharedToken clientId)
    else .ok (.inlinePlaceholder sharedToken)
  | none, some environmentVariable =>
    if isBlank environmentVariable then .error (.missingSharedToken clientId)
    else .ok (.environmentVariable environmentVariable)
  | none, none => .error (.missingSharedToken clientId)

/-- What `load_from_str` makes of one client's table. -/
def clientConfig (entry : String × ParsedAuthClientToml) :
    Except ConfigLoadError (AllowedClientConfig × SharedTokenConfig) := do
  let secretRef ← sharedTokenSecretRef entry.1 entry.2
  pure (⟨entry.1, entry.1⟩, ⟨entry.1, secretRef⟩)

def loadFromStr (input : String) : Except ConfigLoadError ServerAuthConfig := do
  let parsed ← parseAuthClients input
  if parsed.clients.isEmpty then .error .noAuthClients
  else do
    let configs ← parsed.clients.toList.mapM clientConfig
    pure ⟨configs.map Prod.fst, configs.map Prod.snd⟩

/-- The token that the server holds a client's request against. -/
def expectedToken (env : Environment) (config : ServerAuthConfig) (clientId : String) :
    Option (Except ServerSecretResolutionError ServerResolvedSharedTokenAuthInput) := do
  let client ← config.allowedClients.find? fun client => client.clientId = clientId
  let token ← config.sharedTokens.find? fun token => token.tokenId = client.sharedTokenId
  pure (resolveToken env token)

section Updates

variable {f g : ParsedAuthClientToml → ParsedAuthClientToml}

theorem getElem?_updateClient (clientId other : String) (clients : ParsedAuthClients) :
    (updateClient f clientId clients)[other]? =
      if clientId = other then some (f (clients[clientId]?.getD {})) else clients[other]? :=
  getElem?_insert_eq ..

theorem updateClient_comm {a b : String} (h : a = b → f ∘ g = g ∘ f) (clients : ParsedAuthClients) :
    updateClient f a (updateClient g b clients) = updateClient g b (updateClient f a clients) := by
  refine Std.ExtTreeMap.ext_getElem? fun k => ?_
  simp only [getElem?_updateClient]
  by_cases hab : a = b
  · subst hab
    have hfg : f (g (clients[a]?.getD {})) = g (f (clients[a]?.getD {})) := congrFun (h rfl) _
    by_cases ha : a = k
    · subst ha
      simp [hfg]
    · simp [ha]
  · by_cases ha : a = k
    · subst ha
      simp [Ne.symm hab]
    · simp [ha, hab]

theorem updateClient_updateClient (a : String) (clients : ParsedAuthClients) :
    updateClient f a (updateClient g a clients) = updateClient (f ∘ g) a clients := by
  refine Std.ExtTreeMap.ext_getElem? fun k => ?_
  simp only [getElem?_updateClient]
  by_cases ha : a = k
  · subst ha
    simp
  · simp [ha]

end Updates

def ParsedAuthClientToml.withToken (token : String) (client : ParsedAuthClientToml) : ParsedAuthClientToml :=
  { client with sharedToken := some token }

/-- The state, had one client's token been another. -/
def AuthTomlState.withToken (state : AuthTomlState) (clientId token : String) : AuthTomlState :=
  { state with
    parsed.clients := updateClient (ParsedAuthClientToml.withToken token) clientId state.parsed.clients }

/-- The table of a client, by its header. -/
def isClientTable (clientId : String) (header : List Char) : Bool :=
  (stripPrefix clientTablePrefix header).any fun name => String.ofList (trim isWhitespace name) = clientId

section Frame

variable {clientId token : String} {state state' : AuthTomlState} {lineNumber : Nat}

theorem withToken_withToken (state : AuthTomlState) (clientId first second : String) :
    (state.withToken clientId first).withToken clientId second = state.withToken clientId second := by
  unfold AuthTomlState.withToken
  dsimp only
  rw [updateClient_updateClient]
  rfl

theorem parseAuthHeader_withToken {sectionName : List Char}
    (h : parseAuthHeader lineNumber sectionName state = .ok state') :
    parseAuthHeader lineNumber sectionName (state.withToken clientId token) =
      .ok (state'.withToken clientId token) := by
  unfold parseAuthHeader at h ⊢
  by_cases hauth : sectionName = "auth".toList ∨ sectionName = "auth.clients".toList
  · rw [if_pos hauth] at h ⊢
    cases Except.ok.inj h
    rfl
  · rw [if_neg hauth] at h ⊢
    split at h
    next name _ =>
      by_cases hblank : (trim isWhitespace name).isEmpty = true
      · rw [if_pos hblank] at h
        cases h
      · dsimp only
        rw [if_neg hblank] at h ⊢
        cases Except.ok.inj h
        unfold AuthTomlState.withToken
        dsimp only
        rw [updateClient_comm]
        exact fun _ => rfl
    next =>
      cases Except.ok.inj h
      rfl

theorem parseAuthEntry_withToken {key : String} {rawValue : List Char}
    (h : parseAuthEntry lineNumber key rawValue state = .ok state')
    (hkeep : state.currentClientId = some clientId → key ≠ "shared_token") :
    parseAuthEntry lineNumber key rawValue (state.withToken clientId token) =
      .ok (state'.withToken clientId token) := by
  have hcurrent : (state.withToken clientId token).currentClientId = state.currentClientId := rfl
  unfold parseAuthEntry at h ⊢
  rw [hcurrent]
  split at h
  next =>
    cases Except.ok.inj h
    rfl
  next other hother =>
    dsimp only
    by_cases hkey : key = "shared_token"
    · rw [if_pos hkey] at h ⊢
      obtain ⟨value, hvalue, h⟩ := bind_eq_ok_iff.mp h
      cases Except.ok.inj h
      have hne : other ≠ clientId := by
        rintro rfl
        exact hkeep hother hkey
      refine bind_eq_ok_iff.mpr ⟨value, hvalue, congrArg Except.ok ?_⟩
      unfold AuthTomlState.withToken
      dsimp only
      rw [updateClient_comm]
      exact fun heq => absurd heq hne
    · rw [if_neg hkey] at h ⊢
      by_cases henv : key = "shared_token_env"
      · rw [if_pos henv] at h ⊢
        obtain ⟨value, hvalue, h⟩ := bind_eq_ok_iff.mp h
        cases Except.ok.inj h
        refine bind_eq_ok_iff.mpr ⟨value, hvalue, congrArg Except.ok ?_⟩
        unfold AuthTomlState.withToken
        dsimp only
        rw [updateClient_comm]
        exact fun _ => rfl
      · rw [if_neg henv] at h ⊢
        cases Except.ok.inj h
        rfl

/-- Which table a header opens. -/
theorem currentClientId_parseAuthHeader {sectionName : List Char}
    (h : parseAuthHeader lineNumber sectionName state = .ok state') :
    state'.currentClientId = some clientId ↔ isClientTable clientId sectionName = true := by
  unfold parseAuthHeader at h
  unfold isClientTable
  by_cases hauth : sectionName = "auth".toList ∨ sectionName = "auth.clients".toList
  · rw [if_pos hauth] at h
    cases Except.ok.inj h
    have hnone : stripPrefix clientTablePrefix sectionName = none := by
      rcases hauth with rfl | rfl <;> decide
    simp [hnone]
  · rw [if_neg hauth] at h
    split at h
    next name hname =>
      by_cases hblank : (trim isWhitespace name).isEmpty = true
      · rw [if_pos hblank] at h
        cases h
      · rw [if_neg hblank] at h
        cases Except.ok.inj h
        simp [hname]
    next hname =>
      cases Except.ok.inj h
      simp [hname]

theorem currentClientId_parseAuthEntry {key : String} {rawValue : List Char}
    (h : parseAuthEntry lineNumber key rawValue state = .ok state') :
    state'.currentClientId = state.currentClientId := by
  unfold parseAuthEntry at h
  split at h
  next => cases Except.ok.inj h; rfl
  next =>
    split at h
    next =>
      obtain ⟨value, -, h⟩ := bind_eq_ok_iff.mp h
      cases Except.ok.inj h
      rfl
    next =>
      split at h
      next =>
        obtain ⟨value, -, h⟩ := bind_eq_ok_iff.mp h
        cases Except.ok.inj h
        rfl
      next => cases Except.ok.inj h; rfl

/-- What a line can do: nothing, open a table, or make an entry. -/
theorem parseAuthLine_cases {rawLine : List Char} (h : parseAuthLine lineNumber rawLine state = .ok state') :
    (tableHeader rawLine = none ∧ readLine rawLine = [] ∧ state' = state) ∨
      (∃ sectionName, tableHeader rawLine = some sectionName ∧ readLine rawLine ≠ [] ∧
        parseAuthHeader lineNumber sectionName state = .ok state') ∨
      ∃ key rawValue, tableHeader rawLine = none ∧ readLine rawLine ≠ [] ∧
        splitOnce '=' (readLine rawLine) = some (key, rawValue) ∧
        parseAuthEntry lineNumber (String.ofList (trim isWhitespace key)) (trim isWhitespace rawValue) state =
          .ok state' := by
  have hread : trim isWhitespace (stripComment rawLine) = readLine rawLine := rfl
  unfold parseAuthLine at h
  rw [hread] at h
  unfold tableHeader
  by_cases hblank : (readLine rawLine).isEmpty = true
  · rw [if_pos hblank] at h
    have hnil : readLine rawLine = [] := List.isEmpty_iff.mp hblank
    rw [hnil]
    exact Or.inl ⟨rfl, rfl, (Except.ok.inj h).symm⟩
  · have hne : readLine rawLine ≠ [] := fun hnil => hblank (List.isEmpty_iff.mpr hnil)
    rw [if_neg hblank] at h
    split at h
    next sectionName hsection => exact Or.inr (Or.inl ⟨sectionName, hsection, hne, h⟩)
    next hsection =>
      split at h
      next => cases h
      next key rawValue hsplit => exact Or.inr (Or.inr ⟨key, rawValue, hsection, hne, hsplit, h⟩)

theorem parseAuthLine_of_blank {rawLine : List Char} (h : readLine rawLine = []) :
    parseAuthLine lineNumber rawLine state = .ok state := by
  have hread : trim isWhitespace (stripComment rawLine) = [] := h
  unfold parseAuthLine
  rw [hread]
  rfl

theorem parseAuthLine_of_header {rawLine sectionName : List Char} (hne : readLine rawLine ≠ [])
    (h : tableHeader rawLine = some sectionName) :
    parseAuthLine lineNumber rawLine state = parseAuthHeader lineNumber sectionName state := by
  have hread : trim isWhitespace (stripComment rawLine) = readLine rawLine := rfl
  have hsection : enclosed '[' ']' (readLine rawLine) = some sectionName := h
  unfold parseAuthLine
  dsimp only
  rw [hread, hsection]
  exact if_neg fun hblank => hne (List.isEmpty_iff.mp hblank)

theorem parseAuthLine_of_entry {rawLine key rawValue : List Char} (hne : readLine rawLine ≠ [])
    (h : tableHeader rawLine = none) (hsplit : splitOnce '=' (readLine rawLine) = some (key, rawValue)) :
    parseAuthLine lineNumber rawLine state =
      parseAuthEntry lineNumber (String.ofList (trim isWhitespace key)) (trim isWhitespace rawValue) state := by
  have hread : trim isWhitespace (stripComment rawLine) = readLine rawLine := rfl
  have hsection : enclosed '[' ']' (readLine rawLine) = none := h
  unfold parseAuthLine
  dsimp only
  rw [hread, hsection]
  dsimp only
  rw [hsplit]
  exact if_neg fun hblank => hne (List.isEmpty_iff.mp hblank)

/-- Which table a line leaves the parser in. -/
theorem currentClientId_parseAuthLine (clientId : String) {rawLine : List Char}
    (h : parseAuthLine lineNumber rawLine state = .ok state') :
    decide (state'.currentClientId = some clientId) =
      ((tableHeader rawLine).map (isClientTable clientId)).getD
        (decide (state.currentClientId = some clientId)) := by
  rcases parseAuthLine_cases h with ⟨hheader, -, rfl⟩ | ⟨name, hheader, -, h⟩ | ⟨_, _, hheader, -, -, h⟩
  · rw [hheader]
    rfl
  · rw [hheader, Option.map_some, Option.getD_some, Bool.eq_iff_iff, decide_eq_true_iff]
    exact currentClientId_parseAuthHeader h
  · rw [hheader, currentClientId_parseAuthEntry h]
    rfl

theorem parseAuthLine_withToken {rawLine : List Char} (h : parseAuthLine lineNumber rawLine state = .ok state')
    (hkeep : state.currentClientId = some clientId → tableHeader rawLine = none →
      lineKey rawLine ≠ some "shared_token") :
    parseAuthLine lineNumber rawLine (state.withToken clientId token) =
      .ok (state'.withToken clientId token) := by
  rcases parseAuthLine_cases h with
    ⟨-, hblank, rfl⟩ | ⟨name, hheader, hne, h⟩ | ⟨key, rawValue, hheader, hne, hsplit, h⟩
  · exact parseAuthLine_of_blank hblank
  · rw [parseAuthLine_of_header hne hheader]
    exact parseAuthHeader_withToken h
  · rw [parseAuthLine_of_entry hne hheader hsplit]
    refine parseAuthEntry_withToken h fun hcurrent hkey => hkeep hcurrent hheader ?_
    unfold lineKey
    rw [hsplit]
    exact congrArg some hkey

theorem parseAuthLine_tokenLine (hcurrent : state.currentClientId = some clientId)
    (hquote : '"' ∉ token.toList) :
    parseAuthLine lineNumber (tokenLine token) state =
      if '#' ∈ token.toList then .error (.invalidTomlString lineNumber "shared_token")
      else .ok (state.withToken clientId token) := by
  obtain ⟨key, rawValue, hne, hheader, hsplit, hkey, hvalue⟩ := readLine_tokenLine hquote
  have hread : parseTomlString (trim isWhitespace rawValue) lineNumber "shared_token" =
      if '#' ∈ token.toList then .error (.invalidTomlString lineNumber "shared_token") else .ok token := by
    unfold parseTomlString
    rw [hvalue]
    by_cases hhash : '#' ∈ token.toList
    · rw [if_pos hhash, if_pos hhash]
    · rw [if_neg hhash, if_neg hhash, ← String.ofList_toList (s := token)]
      simp
  rw [parseAuthLine_of_entry hne hheader hsplit, hkey]
  unfold parseAuthEntry
  rw [hcurrent]
  dsimp only
  rw [if_pos rfl, hread]
  by_cases hhash : '#' ∈ token.toList
  · rw [if_pos hhash, if_pos hhash]
    rfl
  · rw [if_neg hhash, if_neg hhash]
    unfold AuthTomlState.withToken
    rw [hcurrent]
    rfl

end Frame

/-- The server's parser, with what it makes of one client's token. -/
def authTokenParser (clientId : String) : TokenParser AuthTomlState ConfigLoadError where
  step := parseAuthLine
  isTable := isClientTable clientId
  inTable state := decide (state.currentClientId = some clientId)
  withToken state token := state.withToken clientId token
  unquoted lineNumber := .invalidTomlString lineNumber "shared_token"
  withToken_again state := withToken_withToken state clientId
  inTable_withToken _ _ := rfl
  inTable_step := currentClientId_parseAuthLine clientId
  step_withToken _ h hkeep := parseAuthLine_withToken h fun hcurrent => hkeep (decide_eq_true hcurrent)
  step_tokenLine _ _ _ hin hquote := parseAuthLine_tokenLine (of_decide_eq_true hin) hquote

/-- A server config whose table for the client gives it a token. -/
structure ServerTokenFile (file : TokenFile) (clientId : String) : Prop where
  givesToken : file.GivesToken (isClientTable clientId)
  loads : ∃ placeholder config, PlainToken placeholder ∧ '#' ∉ placeholder.toList ∧
    loadFromStr (file.text ("auth.clients." ++ clientId) placeholder) = .ok config

section Load

variable {file : TokenFile} {clientId token placeholder : String}

/-- The header of a usable name opens that client's table. -/
theorem isClientTable_header (h : UsableTableName clientId) :
    isClientTable clientId ("auth.clients." ++ clientId).toList = true := by
  have hstart : ("auth.clients." ++ clientId).toList = clientTablePrefix ++ clientId.toList :=
    String.toList_append
  unfold isClientTable
  rw [hstart, stripPrefix_append, Option.any_some, h.trimmed, String.ofList_toList, decide_eq_true rfl]

theorem not_mem_header {c : Char} (hstart : c ∉ clientTablePrefix) (h : c ∉ clientId.toList) :
    c ∉ ("auth.clients." ++ clientId).toList := by
  rw [String.toList_append, List.mem_append, not_or]
  exact ⟨hstart, h⟩

theorem parseAuthClients_eq_ok_iff {input : String} {parsed : ParsedAuthToml} :
    parseAuthClients input = .ok parsed ↔
      ∃ state, foldLines parseAuthLine 1 (lines input.toList) {} = .ok state ∧
        state.parsed.sawAuthSection = true ∧ state.parsed = parsed := by
  unfold parseAuthClients
  rw [bind_eq_ok_iff]
  constructor
  · rintro ⟨state, hstate, h⟩
    by_cases hsaw : state.parsed.sawAuthSection = true
    · rw [if_pos hsaw] at h
      exact ⟨state, hstate, hsaw, Except.ok.inj h⟩
    · rw [if_neg hsaw] at h
      cases h
  · rintro ⟨state, hstate, hsaw, rfl⟩
    exact ⟨state, hstate, if_pos hsaw⟩

theorem clientConfig_eq_ok {entry : String × ParsedAuthClientToml}
    {config : AllowedClientConfig × SharedTokenConfig} (h : clientConfig entry = .ok config) :
    ∃ secretRef, sharedTokenSecretRef entry.1 entry.2 = .ok secretRef ∧
      config = (⟨entry.1, entry.1⟩, ⟨entry.1, secretRef⟩) := by
  obtain ⟨secretRef, hsecret, h⟩ := bind_eq_ok_iff.mp h
  exact ⟨secretRef, hsecret, (Except.ok.inj h).symm⟩

/-- A table that had a token may have any that is not blank. -/
theorem sharedTokenSecretRef_withToken {client : ParsedAuthClientToml} {secretRef : SharedTokenSecretRef}
    (h : sharedTokenSecretRef clientId (client.withToken placeholder) = .ok secretRef)
    (htoken : isBlank token = false) :
    sharedTokenSecretRef clientId (client.withToken token) = .ok (.inlinePlaceholder token) := by
  obtain ⟨sharedToken, sharedTokenEnv⟩ := client
  cases sharedTokenEnv with
  | some environmentVariable => cases h
  | none =>
    unfold sharedTokenSecretRef ParsedAuthClientToml.withToken
    dsimp only
    rw [htoken]
    rfl

/-- Which token the server holds a client against, once its tables are read. -/
theorem expectedToken_of_clients {clients : ParsedAuthClients} {client : ParsedAuthClientToml}
    {configs : List (AllowedClientConfig × SharedTokenConfig)} {secretRef : SharedTokenSecretRef}
    (hconfigs : clients.toList.mapM clientConfig = .ok configs) (hclient : clients[clientId]? = some client)
    (hsecret : sharedTokenSecretRef clientId client = .ok secretRef) (env : Environment) :
    expectedToken env ⟨configs.map Prod.fst, configs.map Prod.snd⟩ clientId =
      some (resolveToken env ⟨clientId, secretRef⟩) := by
  have hmem : (clientId, client) ∈ clients.toList :=
    Std.ExtTreeMap.mem_toList_iff_getElem?_eq_some.mpr hclient
  have hfound (q : AllowedClientConfig × SharedTokenConfig → Bool)
      (hq : ∀ entry config, clientConfig entry = .ok config → q config = decide (entry.1 = clientId)) :
      configs.find? q = some (⟨clientId, clientId⟩, ⟨clientId, secretRef⟩) := by
    rcases find?_mapM_ok (p := fun entry => decide (entry.1 = clientId)) hq hconfigs with
      ⟨hnone, -⟩ | ⟨entry, config, hentry, hconfig, hok⟩
    · have hnot := List.find?_eq_none.mp hnone _ hmem
      simp at hnot
    · obtain ⟨name, table⟩ := entry
      have hname : name = clientId := by simpa using List.find?_some hentry
      subst hname
      have htable := Std.ExtTreeMap.mem_toList_iff_getElem?_eq_some.mp (List.mem_of_find?_eq_some hentry)
      cases Option.some.inj (htable.symm.trans hclient)
      obtain ⟨other, hother, rfl⟩ := clientConfig_eq_ok hok
      cases Except.ok.inj (hother.symm.trans hsecret)
      exact hconfig
  have hallowed := hfound (fun config => decide (config.1.clientId = clientId)) fun entry config h => by
    obtain ⟨_, -, rfl⟩ := clientConfig_eq_ok h
    rfl
  have htoken := hfound (fun config => decide (config.2.tokenId = clientId)) fun entry config h => by
    obtain ⟨_, -, rfl⟩ := clientConfig_eq_ok h
    rfl
  unfold expectedToken
  simp only [List.find?_map, Function.comp_def, hallowed, htoken, Option.map_some, bind, Option.bind, pure]

/-- One client's table may have another token, and the other tables do not notice. -/
theorem clientConfigs_withToken {clients : ParsedAuthClients} {client : ParsedAuthClientToml}
    {configs : List (AllowedClientConfig × SharedTokenConfig)}
    (hclient : clients[clientId]? = some (client.withToken placeholder))
    (hconfigs : clients.toList.mapM clientConfig = .ok configs) (htoken : isBlank token = false) :
    ∃ newConfigs,
      (updateClient (ParsedAuthClientToml.withToken token) clientId clients).toList.mapM clientConfig =
        .ok newConfigs ∧
      ∀ env, expectedToken env ⟨newConfigs.map Prod.fst, newConfigs.map Prod.snd⟩ clientId =
        some (.ok ⟨clientId, token⟩) := by
  have hnewClient : (updateClient (ParsedAuthClientToml.withToken token) clientId clients)[clientId]? =
      some (client.withToken token) := by
    rw [getElem?_updateClient, if_pos rfl, hclient]
    rfl
  obtain ⟨old, hold⟩ := ok_of_mapM_ok hconfigs (Std.ExtTreeMap.mem_toList_iff_getElem?_eq_some.mpr hclient)
  obtain ⟨oldRef, holdRef, -⟩ := clientConfig_eq_ok hold
  have hsecret := sharedTokenSecretRef_withToken holdRef htoken
  obtain ⟨newConfigs, hnewConfigs⟩ : ∃ newConfigs,
      (updateClient (ParsedAuthClientToml.withToken token) clientId clients).toList.mapM clientConfig =
        .ok newConfigs := by
    refine mapM_ok_of_forall fun entry hentry => ?_
    obtain ⟨name, table⟩ := entry
    have htable := Std.ExtTreeMap.mem_toList_iff_getElem?_eq_some.mp hentry
    by_cases hname : clientId = name
    · subst hname
      rw [hnewClient] at htable
      cases Option.some.inj htable
      exact ⟨_, bind_eq_ok_iff.mpr ⟨_, hsecret, rfl⟩⟩
    · rw [getElem?_updateClient, if_neg hname] at htable
      exact ok_of_mapM_ok hconfigs (Std.ExtTreeMap.mem_toList_iff_getElem?_eq_some.mpr htable)
  refine ⟨newConfigs, hnewConfigs, fun env => ?_⟩
  rw [expectedToken_of_clients hnewConfigs hnewClient hsecret env]
  rfl

/-- The server loads the file, and finds the token, exactly where no comment starts in it. -/
theorem loadFromStr_text (hid : UsableTableName clientId) (hfile : ServerTokenFile file clientId)
    (htoken : PlainToken token) :
    if '#' ∈ token.toList then
      ∃ lineNumber, loadFromStr (file.text ("auth.clients." ++ clientId) token) =
        .error (.invalidTomlString lineNumber "shared_token")
    else
      ∃ config, loadFromStr (file.text ("auth.clients." ++ clientId) token) = .ok config ∧
        ∀ env, expectedToken env config clientId = some (.ok ⟨clientId, token⟩) := by
  obtain ⟨placeholder, config, hplaceholder, hnohash, hload⟩ := hfile.loads
  obtain ⟨parsed, hparsed, hload⟩ := bind_eq_ok_iff.mp hload
  obtain ⟨state, hstate, hsaw, rfl⟩ := parseAuthClients_eq_ok_iff.mp hparsed
  obtain ⟨hsame, lineNumber, hfold⟩ := (authTokenParser clientId).foldLines_text
    (not_mem_header (by decide) hid.noComment) (not_mem_header (by decide) hid.noLineFeed)
    (isClientTable_header hid) hfile.givesToken hplaceholder hnohash htoken hstate
  have htext : foldLines parseAuthLine 1 (lines (file.text ("auth.clients." ++ clientId) token).toList) {} = _ :=
    hfold
  by_cases hhash : '#' ∈ token.toList
  · rw [if_pos hhash] at htext ⊢
    refine ⟨lineNumber, ?_⟩
    unfold loadFromStr parseAuthClients
    rw [htext]
    rfl
  · rw [if_neg hhash] at htext ⊢
    have hnotEmpty : ¬state.parsed.clients.isEmpty = true := by
      intro hempty
      rw [if_pos hempty] at hload
      cases hload
    rw [if_neg hnotEmpty] at hload
    obtain ⟨configs, hconfigs, -⟩ := bind_eq_ok_iff.mp hload
    -- The client's table, as the placeholder has left it.
    have hclient : state.parsed.clients[clientId]? =
        some ((state.parsed.clients[clientId]?.getD {}).withToken placeholder) := by
      refine (congrArg (fun state => state.parsed.clients[clientId]?) hsame).trans ?_
      show (updateClient _ clientId _)[clientId]? = _
      rw [getElem?_updateClient, if_pos rfl]
    obtain ⟨newConfigs, hnewConfigs, hexpected⟩ :=
      clientConfigs_withToken hclient hconfigs htoken.notBlank
    have hnewParsed : parseAuthClients (file.text ("auth.clients." ++ clientId) token) =
        .ok (state.withToken clientId token).parsed :=
      parseAuthClients_eq_ok_iff.mpr ⟨_, htext, hsaw, rfl⟩
    have hnewNotEmpty : ¬(state.withToken clientId token).parsed.clients.isEmpty = true := by
      intro hempty
      have hsome : (updateClient (ParsedAuthClientToml.withToken token) clientId
          state.parsed.clients)[clientId]? = some _ := getElem?_updateClient .. |>.trans (if_pos rfl)
      rw [show updateClient (ParsedAuthClientToml.withToken token) clientId state.parsed.clients = ∅ from
        Std.ExtTreeMap.isEmpty_iff.mp hempty] at hsome
      simp at hsome
    refine ⟨⟨newConfigs.map Prod.fst, newConfigs.map Prod.snd⟩, ?_, hexpected⟩
    refine bind_eq_ok_iff.mpr ⟨_, hnewParsed, ?_⟩
    rw [if_neg hnewNotEmpty]
    exact bind_eq_ok_iff.mpr ⟨newConfigs, hnewConfigs, rfl⟩

end Load

end StreamSync
