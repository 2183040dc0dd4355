import StreamSync.HandoffCanonical
import StreamSync.ServerHandoff
import StreamSync.TargetTimeSource

namespace StreamSync

open LittleEndian Fallible

/-- The kinds of a peer that went away. -/
def shutdownErrorKinds : List String := ["BrokenPipe", "ConnectionAborted", "UnexpectedEof"]

def handoffErrorResultFromIo (input : SwitcherQueuedFrameHandoffInput) (error : IoError) :
    SwitcherQueuedFrameHandoffResult :=
  let handoffError :=
    match error.kind with
    | .timedOut | .wouldBlock => SwitcherQueuedFrameHandoffError.timeout
    | .other name => if name ∈ shutdownErrorKinds then .sourceShutdown else .sourceUnavailable
  .handoffError input.clientId input.runId input.mode handoffError

def formatNamedPipeIoErrorDetail (stage : String) (error : IoError) : String :=
  stage ++ ":" ++ error.message

/-- What a named pipe does for one request. A read takes the incoming bytes, and `ending` is the error
of a read that wants more of them. -/
structure NamedPipeClient where
  openClient : String → UInt32 → Except IoError Unit
  writeAll : List UInt8 → Except IoError Unit
  flush : Except IoError Unit
  incoming : List UInt8
  ending : IoError

namespace NamedPipeClient

/-- `read_exact`: the bytes and what is left behind them. -/
def readExact (pipe : NamedPipeClient) (incoming : List UInt8) (len : Nat) :
    Except IoError (List UInt8 × List UInt8) :=
  if len ≤ incoming.length then .ok (incoming.take len, incoming.drop len) else .error pipe.ending

def readLengthPrefixedFrameFromPipe (pipe : NamedPipeClient) : Except IoError (List UInt8) := do
  let (lengthPrefix, incoming) ← pipe.readExact pipe.incoming handoffLengthPrefixLen
  let bodyLen := (u32FromLe lengthPrefix).toNat
  let (body, _) ← pipe.readExact incoming bodyLen
  return lengthPrefix ++ body

/-- The frame that answers a request, or the stage that failed and its error. -/
def exchange (pipe : NamedPipeClient) (pipeName : String) (connectTimeoutMillis : UInt32)
    (requestFrame : List UInt8) : Except (String × IoError) (List UInt8) := do
  (pipe.openClient pipeName connectTimeoutMillis).mapError fun error => ("connect", error)
  (pipe.writeAll requestFrame).mapError fun error => ("write_request", error)
  pipe.flush.mapError fun error => ("flush_request", error)
  pipe.readLengthPrefixedFrameFromPipe.mapError fun error => ("read_response", error)

end NamedPipeClient

/-- The text of a derived `Debug` for a variant with named fields. -/
def debugStruct (name : String) (fields : List (String × String)) : String :=
  name ++ " \x7b " ++ ", ".intercalate (fields.map fun field => field.1 ++ ": " ++ field.2) ++ " \x7d"

def ServerSwitcherQueuedFrameHandoffCodecError.debug :
    ServerSwitcherQueuedFrameHandoffCodecError → String
  | .framePrefixTooShort actualLen => debugStruct "FramePrefixTooShort" [("actual_len", toString actualLen)]
  | .truncatedFrame declaredBodyLen actualBodyLen =>
    debugStruct "TruncatedFrame"
      [("declared_body_len", toString declaredBodyLen), ("actual_body_len", toString actualBodyLen)]
  | .trailingBytes trailingLen => debugStruct "TrailingBytes" [("trailing_len", toString trailingLen)]
  | .unexpectedEof needed remaining =>
    debugStruct "UnexpectedEof" [("needed", toString needed), ("remaining", toString remaining)]
  | .invalidUtf8 => "InvalidUtf8"
  | .unknownReadMode actual => debugStruct "UnknownReadMode" [("actual", toString actual)]
  | .unknownDecodableSource actual => debugStruct "UnknownDecodableSource" [("actual", toString actual)]
  | .unknownNoFrameReason actual => debugStruct "UnknownNoFrameReason" [("actual", toString actual)]
  | .unknownResponseKind actual => debugStruct "UnknownResponseKind" [("actual", toString actual)]
  | .unknownHandoffErrorCode actual => debugStruct "UnknownHandoffErrorCode" [("actual", toString actual)]
  | .unknownCodec actual => debugStruct "UnknownCodec" [("actual", toString actual)]
  | .stringTooLong field len =>
    debugStruct "StringTooLong" [("field", "\"" ++ field ++ "\""), ("len", toString len)]
  | .bodyTooLong len => debugStruct "BodyTooLong" [("len", toString len)]
  | .payloadLengthMismatch declaredLen actualLen =>
    debugStruct "PayloadLengthMismatch"
      [("declared_len", toString declaredLen), ("actual_len", toString actualLen)]

structure SwitcherNamedPipeQueuedFrameHandoffRequestConfig where
  connectTimeoutMillis : UInt32 := 5000
deriving DecidableEq, Repr

structure SwitcherNamedPipeQueuedFrameHandoffRuntimeOutput where
  request : ServerSwitcherQueuedFrameHandoffRequest
  response : Option ServerSwitcherQueuedFrameHandoffResponse
  responsePayloadLen : Option Nat
  parseError : Option String
  ioError : Option String
  result : SwitcherQueuedFrameHandoffResult
deriving DecidableEq, Repr

def namedPipeResponsePayloadLen (frame : List UInt8) : Nat := frame.length - 4

/-- `SwitcherNamedPipeQueuedFrameHandoffRuntimeBoundary::run_once_with_config`. -/
def runOnceWithConfig (pipe : NamedPipeClient) (pipeName : String) (requestId : UInt64)
    (input : SwitcherQueuedFrameHandoffInput) (config : SwitcherNamedPipeQueuedFrameHandoffRequestConfig) :
    Except ServerSwitcherQueuedFrameHandoffCodecError SwitcherNamedPipeQueuedFrameHandoffRuntimeOutput := do
  let request := buildRequest requestId input
  let requestFrame ← encodeRequestFrame request
  match pipe.exchange pipeName config.connectTimeoutMillis requestFrame with
  | .error (stage, error) =>
    return {
      request
      response := none
      responsePayloadLen := none
      parseError := none
      ioError := some (formatNamedPipeIoErrorDetail stage error)
      result := handoffErrorResultFromIo input error }
  | .ok responseFrame =>
    match decodeResponseFrame responseFrame with
    | .error error =>
      return {
        request
        response := none
        responsePayloadLen := some (namedPipeResponsePayloadLen responseFrame)
        parseError := some error.debug
        ioError := none
        result := .handoffError input.clientId input.runId input.mode .malformedResponse }
    | .ok response =>
      return {
        request
        response := some response
        responsePayloadLen := some (namedPipeResponsePayloadLen responseFrame)
        parseError := none
        ioError := none
        result := mapResponse input response }

/-- The response is the answer to the request: its id, and the client, the run and the mode it names. -/
def ServerSwitcherQueuedFrameHandoffResponse.Answers (requestId : UInt64)
    (input : SwitcherQueuedFrameHandoffInput) : ServerSwitcherQueuedFrameHandoffResponse → Prop
  | .frameRead id _ _ _ _ frame =>
    id = requestId ∧ frame.clientId = input.clientId ∧ frame.runId = input.runId
  | .noFrame id clientId runId readMode _ _ _ _ _ =>
    id = requestId ∧ clientId = input.clientId ∧ runId = input.runId ∧ readMode = input.mode.handoffReadMode
  | .handoffError _ _ => False

def SwitcherQueuedFrameHandoffResult.IsError : SwitcherQueuedFrameHandoffResult → Prop
  | .handoffError _ _ _ _ => True
  | _ => False

/-- A result that is no error comes from an answer to the request, and a picture that is selected from
it is one of the client and the run that were asked for. -/
structure SwitcherNamedPipeQueuedFrameHandoffRuntimeOutput.Correlated (requestId : UInt64)
    (input : SwitcherQueuedFrameHandoffInput) (output : SwitcherNamedPipeQueuedFrameHandoffRuntimeOutput) :
    Prop where
  answered : ¬ output.result.IsError →
    ∃ response, output.response = some response ∧ response.Answers requestId input
  pictures : ∀ targetTimestamp mode consumed clockOffsetMicros selected,
    handoffConsumerResultForCandidate (consumerResult output.result) targetTimestamp mode consumed
      clockOffsetMicros = .selected selected →
        selected.frame.clientId = input.clientId ∧ selected.frame.runId = input.runId

/-- The bytes spell a frame or a no-frame report that answers something else. -/
def HandoffResponseWire.Mismatches (requestId : UInt64) (input : SwitcherQueuedFrameHandoffInput) :
    HandoffResponseWire → Prop
  | .frameRead id fields =>
    ¬ (id = requestId ∧ fields.frame.clientId = input.clientId ∧ fields.frame.runId = input.runId)
  | .noFrame id fields =>
    ¬ (id = requestId ∧ fields.clientId = input.clientId ∧ fields.runId = input.runId ∧
      fields.readMode = input.mode.handoffReadMode)
  | .handoffError _ _ => False

/-- The pipe opens, and takes the whole request. -/
structure NamedPipeClient.Takes (pipe : NamedPipeClient) (pipeName : String) (connectTimeoutMillis : UInt32)
    (requestFrame : List UInt8) : Prop where
  opened : pipe.openClient pipeName connectTimeoutMillis = .ok ()
  written : pipe.writeAll requestFrame = .ok ()
  flushed : pipe.flush = .ok ()

namespace NamedPipeClient

variable {pipe : NamedPipeClient}

theorem readExact_eq_ok_iff {incoming bytes rest : List UInt8} {len : Nat} :
    pipe.readExact incoming len = .ok (bytes, rest) ↔ incoming = bytes ++ rest ∧ bytes.length = len := by
  unfold readExact
  split
  next hlen =>
    constructor
    · intro h
      cases Except.ok.inj h
      exact ⟨(List.take_append_drop _ _).symm, by rw [List.length_take]; omega⟩
    · rintro ⟨rfl, rfl⟩
      rw [List.take_left, List.drop_left]
  next hlen =>
    refine iff_of_false (fun h => by cases h) ?_
    rintro ⟨rfl, rfl⟩
    rw [List.length_append] at hlen
    omega

/-- A frame is read exactly when it stands, in the length that it declares, in front of what comes. -/
theorem readLengthPrefixedFrameFromPipe_eq_ok_iff {frame : List UInt8} :
    pipe.readLengthPrefixedFrameFromPipe = .ok frame ↔
      ∃ body rest, frameBody body = .ok frame ∧ pipe.incoming = frame ++ rest := by
  unfold readLengthPrefixedFrameFromPipe
  simp only [bind_eq_ok_iff, Prod.exists, readExact_eq_ok_iff, frameBody_eq_ok_iff]
  constructor
  · rintro ⟨lengthPrefix, _, ⟨hincoming, hfour⟩, body, rest, ⟨rfl, hlength⟩, hframe⟩
    cases Except.ok.inj hframe
    exact ⟨body, rest, ⟨lengthPrefix, hfour, hlength.symm, rfl⟩, by rw [hincoming, List.append_assoc]⟩
  · rintro ⟨body, rest, ⟨lengthPrefix, hfour, hlength, rfl⟩, hincoming⟩
    rw [List.append_assoc] at hincoming
    exact ⟨lengthPrefix, body ++ rest, ⟨hincoming, hfour⟩, body, rest, ⟨rfl, hlength.symm⟩, rfl⟩

theorem readLengthPrefixedFrameFromPipe_error {error : IoError}
    (h : pipe.readLengthPrefixedFrameFromPipe = .error error) : error = pipe.ending := by
  have hexact : ∀ incoming len other, pipe.readExact incoming len = .error other → other = pipe.ending := by
    intro incoming len other hother
    unfold readExact at hother
    split at hother
    next => cases hother
    next => exact (Except.error.inj hother).symm
  unfold readLengthPrefixedFrameFromPipe at h
  cases hfirst : pipe.readExact pipe.incoming handoffLengthPrefixLen with
  | error other =>
    rw [hfirst] at h
    cases h
    exact hexact _ _ _ hfirst
  | ok found =>
    rw [hfirst] at h
    cases hbody : pipe.readExact found.2 (u32FromLe found.1).toNat with
    | error other =>
      simp only [bind, Except.bind, hbody] at h
      cases h
      exact hexact _ _ _ hbody
    | ok body =>
      simp only [bind, Except.bind, hbody] at h
      cases h

theorem exchange_eq_ok_iff {pipeName : String} {connectTimeoutMillis : UInt32} {requestFrame frame : List UInt8} :
    pipe.exchange pipeName connectTimeoutMillis requestFrame = .ok frame ↔
      pipe.Takes pipeName connectTimeoutMillis requestFrame ∧
        pipe.readLengthPrefixedFrameFromPipe = .ok frame := by
  unfold exchange
  simp only [bind_eq_ok_iff, mapError_eq_ok_iff]
  constructor
  · rintro ⟨⟨⟩, hopened, ⟨⟩, hwritten, ⟨⟩, hflushed, hread⟩
    exact ⟨⟨hopened, hwritten, hflushed⟩, hread⟩
  · rintro ⟨⟨hopened, hwritten, hflushed⟩, hread⟩
    exact ⟨(), hopened, (), hwritten, (), hflushed, hread⟩

end NamedPipeClient

section RunOnce

variable {pipe : NamedPipeClient} {pipeName : String} {requestId : UInt64}
  {input : SwitcherQueuedFrameHandoffInput} {config : SwitcherNamedPipeQueuedFrameHandoffRequestConfig}

theorem runOnceWithConfig_of_decoded {requestFrame frame : List UInt8}
    {response : ServerSwitcherQueuedFrameHandoffResponse}
    (hrequest : encodeRequestFrame (buildRequest requestId input) = .ok requestFrame)
    (hexchange : pipe.exchange pipeName config.connectTimeoutMillis requestFrame = .ok frame)
    (hdecode : decodeResponseFrame frame = .ok response) :
    ∃ output, runOnceWithConfig pipe pipeName requestId input config = .ok output ∧
      output.response = some response ∧ output.result = mapResponse input response := by
  unfold runOnceWithConfig
  simp only [hrequest, bind, Except.bind, hexchange, hdecode]
  exact ⟨_, rfl, rfl, rfl⟩

/-- A result that is no error is read off a response that came through the pipe. -/
theorem decoded_of_runOnceWithConfig {output : SwitcherNamedPipeQueuedFrameHandoffRuntimeOutput}
    (h : runOnceWithConfig pipe pipeName requestId input config = .ok output)
    (hresult : ¬ output.result.IsError) :
    ∃ requestFrame frame response, encodeRequestFrame (buildRequest requestId input) = .ok requestFrame ∧
      pipe.exchange pipeName config.connectTimeoutMillis requestFrame = .ok frame ∧
        decodeResponseFrame frame = .ok response ∧ output.response = some response ∧
          output.result = mapResponse input response := by
  obtain ⟨requestFrame, hrequest, h⟩ := bind_eq_ok_iff.mp h
  refine ⟨requestFrame, ?_⟩
  split at h
  next =>
    cases Except.ok.inj h
    exact absurd trivial hresult
  next frame hexchange =>
    split at h
    next =>
      cases Except.ok.inj h
      exact absurd trivial hresult
    next response hdecode =>
      cases Except.ok.inj h
      exact ⟨frame, response, hrequest, hexchange, hdecode, rfl, rfl⟩

end RunOnce

/-- What the bytes spell is an answer to the request, unless it is an error or a mismatch. -/
theorem HandoffResponseWire.answers_iff {requestId : UInt64} {input : SwitcherQueuedFrameHandoffInput}
    {wire : HandoffResponseWire} (h : ¬ (mapResponse input wire.response).IsError) :
    wire.response.Answers requestId input ↔ ¬ wire.Mismatches requestId input := by
  cases wire with
  | frameRead id fields => exact not_not.symm
  | noFrame id fields => exact not_not.symm
  | handoffError id error => exact absurd trivial h

theorem HandoffResponseWire.Mismatches.no_error {requestId : UInt64} {input : SwitcherQueuedFrameHandoffInput}
    {wire : HandoffResponseWire} (h : wire.Mismatches requestId input) :
    ¬ (mapResponse input wire.response).IsError := by
  cases wire with
  | frameRead id fields => exact fun he => he
  | noFrame id fields => exact fun he => he
  | handoffError id error => exact absurd h (fun he => he)

/-- A selected picture is the one that the response carries, whoever it is of. -/
theorem picture_of_answers {requestId : UInt64} {input : SwitcherQueuedFrameHandoffInput}
    {response : ServerSwitcherQueuedFrameHandoffResponse} (h : response.Answers requestId input)
    {frame : SwitcherSingleViewSelectedEncodedFrame} {mode : SwitcherSingleClientQueueSourceMode} {len : Nat}
    (hresult : mapResponse input response = .frameRead frame mode len) :
    frame.clientId = input.clientId ∧ frame.runId = input.runId := by
  cases response with
  | frameRead id remaining source available frameId sent =>
    cases hresult
    exact h.2
  | noFrame => cases hresult
  | handoffError => cases hresult

/-- The results of an exchange answer its request exactly when the bytes that the pipe delivers for it
spell no other answer; nothing in between compares the two. -/
theorem runOnceWithConfig_correlated_iff (pipe : NamedPipeClient) (pipeName : String) (requestId : UInt64)
    (input : SwitcherQueuedFrameHandoffInput) (config : SwitcherNamedPipeQueuedFrameHandoffRequestConfig) :
    (∀ output, runOnceWithConfig pipe pipeName requestId input config = .ok output →
      output.Correlated requestId input) ↔
    ∀ requestFrame, encodeRequestFrame (buildRequest requestId input) = .ok requestFrame →
      pipe.Takes pipeName config.connectTimeoutMillis requestFrame →
        ∀ (wire : HandoffResponseWire) (frame rest : List UInt8), pipe.incoming = frame ++ rest →
          wire.SpellsFrame frame → ¬ wire.Mismatches requestId input := by
  constructor
  · intro h requestFrame hrequest htakes wire frame rest hincoming hspells hmismatch
    have hread : pipe.readLengthPrefixedFrameFromPipe = .ok frame := by
      obtain ⟨body, -, hbody⟩ := hspells
      exact NamedPipeClient.readLengthPrefixedFrameFromPipe_eq_ok_iff.mpr ⟨body, rest, hbody, hincoming⟩
    have hexchange := NamedPipeClient.exchange_eq_ok_iff.mpr ⟨htakes, hread⟩
    have hdecode := decodeResponseFrame_eq_ok_iff.mpr ⟨wire, rfl, hspells⟩
    obtain ⟨output, houtput, hresponse, hresult⟩ :=
      runOnceWithConfig_of_decoded hrequest hexchange hdecode
    have hnone := hmismatch.no_error
    rw [← hresult] at hnone
    obtain ⟨response, hsome, hanswers⟩ := (h output houtput).answered hnone
    cases Option.some.inj (hresponse.symm.trans hsome)
    exact (HandoffResponseWire.answers_iff hmismatch.no_error).mp hanswers hmismatch
  · intro h output houtput
    have hanswered : ¬ output.result.IsError → ∃ response, output.response = some response ∧
        response.Answers requestId input ∧ output.result = mapResponse input response := by
      intro hnone
      obtain ⟨requestFrame, frame, response, hrequest, hexchange, hdecode, hresponse, hresult⟩ :=
        decoded_of_runOnceWithConfig houtput hnone
      obtain ⟨htakes, hread⟩ := NamedPipeClient.exchange_eq_ok_iff.mp hexchange
      obtain ⟨-, rest, -, hincoming⟩ := NamedPipeClient.readLengthPrefixedFrameFromPipe_eq_ok_iff.mp hread
      obtain ⟨wire, rfl, hspells⟩ := decodeResponseFrame_eq_ok_iff.mp hdecode
      have hmatches := h requestFrame hrequest htakes wire frame rest hincoming hspells
      rw [hresult] at hnone
      exact ⟨wire.response, hresponse, (HandoffResponseWire.answers_iff hnone).mpr hmatches, hresult⟩
    constructor
    · intro hnone
      obtain ⟨response, hresponse, hanswers, -⟩ := hanswered hnone
      exact ⟨response, hresponse, hanswers⟩
    · intro targetTimestamp mode consumed clockOffsetMicros selected hselected
      obtain ⟨sourceMode, len, hframe⟩ := selected_of_consumerResult hselected
      obtain ⟨response, -, hanswers, hresult⟩ := hanswered (by rw [hframe]; exact fun he => he)
      exact picture_of_answers hanswers (hresult.symm.trans hframe)

/-- The frame of another client, in a response to another request. -/
def misroutedResponse : ServerSwitcherQueuedFrameHandoffResponse :=
  .frameRead 9 0 .queue false none {
    clientId := "player2", runId := "run", frameId := 3, captureTimestamp := 10, sendTimestamp := 11
    queuedAt := 12, width := 2, height := 2, fpsNominal := 30, isKeyframe := true, codec := .h264
    encodedPayloadLen := 1, encodedPayload := [101] }

def misroutedPipe : NamedPipeClient where
  openClient _ _ := .ok ()
  writeAll _ := .ok ()
  flush := .ok ()
  incoming := (encodeResponseFrame misroutedResponse).toOption.getD []
  ending := ⟨.other "UnexpectedEof", "failed to fill whole buffer"⟩

def playerOneInput : SwitcherQueuedFrameHandoffInput := ⟨"player1", "run", .previewLatest⟩

theorem runOnceWithConfig_misrouted :
    (runOnceWithConfig misroutedPipe "streamsync-handoff-dev" 1 playerOneInput {}).map
      SwitcherNamedPipeQueuedFrameHandoffRuntimeOutput.result =
        .ok (mapResponse playerOneInput misroutedResponse) := by
  decide +kernel

theorem runOnceWithConfig_not_correlated :
    ¬ ∀ (pipe : NamedPipeClient) (pipeName : String) (requestId : UInt64)
      (input : SwitcherQueuedFrameHandoffInput) (config : SwitcherNamedPipeQueuedFrameHandoffRequestConfig)
      (output : SwitcherNamedPipeQueuedFrameHandoffRuntimeOutput),
      runOnceWithConfig pipe pipeName requestId input config = .ok output →
        output.Correlated requestId input := by
  intro h
  have hrun := runOnceWithConfig_misrouted
  cases houtput : runOnceWithConfig misroutedPipe "streamsync-handoff-dev" 1 playerOneInput {} with
  | error error =>
    rw [houtput] at hrun
    cases hrun
  | ok output =>
    rw [houtput] at hrun
    have hresult : output.result = mapResponse playerOneInput misroutedResponse := Except.ok.inj hrun
    have hpictures := (h _ _ _ _ _ output houtput).pictures 100 .previewLatestIfAtOrBefore false none
    rw [hresult] at hpictures
    have hclient := (hpictures _ rfl).1
    revert hclient
    decide +kernel

end StreamSync
