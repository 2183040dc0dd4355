import StreamSync.HandoffRoundTrip
import StreamSync.QueueSource

namespace StreamSync

open Effect

/-- The failed `expect` of a length that does not fit into a `u32`. -/
inductive HandoffLengthPanic where
  | queueLength (len : Nat)
  | payloadLength (len : Nat)
deriving DecidableEq, Repr

def lenToU32 (panic : Nat → HandoffLengthPanic) (len : Nat) : Except HandoffLengthPanic UInt32 :=
  if len < 2 ^ 32 then .ok (UInt32.ofNat len) else .error (panic len)

def queueLenToU32 : Nat → Except HandoffLengthPanic UInt32 := lenToU32 .queueLength
def payloadLenToU32 : Nat → Except HandoffLengthPanic UInt32 := lenToU32 .payloadLength

def queueReadModeFromHandoff : ServerSwitcherQueuedFrameReadMode → ServerVideoFrameQueueReadMode
  | .inspectOldest => .inspectOldest
  | .inspectLatest => .inspectLatest
  | .inspectLatestDecodable => .inspectLatestDecodable
  | .dequeueOldest => .dequeueOldest

/-- `ServerSwitcherQueuedFrameHandoffHandlerBoundary::handle_request`. -/
def handleRequest (request : ServerSwitcherQueuedFrameHandoffRequest) :
    Eff ServerVideoFrameQueueState HandoffLengthPanic ServerSwitcherQueuedFrameHandoffResponse := fun state =>
  if isBlank request.clientId || isBlank request.runId then
    .ok (.handoffError request.requestId .invalidScope, state)
  else
    match state.read ⟨request.clientId, request.runId, queueReadModeFromHandoff request.readMode⟩ with
    | (state, .frameAvailable frame _ remainingClientQueueLen decodableSource retainedKeyframeAvailable
        retainedKeyframeFrameId) => do
      let remainingClientQueueLen ← queueLenToU32 remainingClientQueueLen
      let encodedPayloadLen ← payloadLenToU32 frame.payloadLen
      return (.frameRead request.requestId remainingClientQueueLen decodableSource
        retainedKeyframeAvailable retainedKeyframeFrameId {
          clientId := frame.frame.clientId
          runId := frame.frame.runId
          frameId := frame.frame.frameId
          captureTimestamp := frame.frame.captureTimestamp
          sendTimestamp := frame.frame.sendTimestamp
          queuedAt := frame.queuedAt
          width := frame.frame.width
          height := frame.frame.height
          fpsNominal := frame.frame.fpsNominal
          isKeyframe := frame.frame.isKeyframe
          codec := frame.frame.codec
          encodedPayloadLen
          encodedPayload := frame.frame.payload }, state)
    | (state, .noFrameAvailable clientId runId clientQueueLen noFrameReason decodableSource
        retainedKeyframeAvailable retainedKeyframeFrameId) => do
      let clientQueueLen ← queueLenToU32 clientQueueLen
      return (.noFrame request.requestId clientId runId request.readMode clientQueueLen noFrameReason
        decodableSource retainedKeyframeAvailable retainedKeyframeFrameId, state)

def handoffVersion : UInt32 := 1

def buildRequest (requestId : UInt64) (input : SwitcherQueuedFrameHandoffInput) :
    ServerSwitcherQueuedFrameHandoffRequest where
  handoffVersion := handoffVersion
  requestId := requestId
  clientId := input.clientId
  runId := input.runId
  readMode := input.mode.handoffReadMode

def mapHandoffErrorCodeToSwitcher (input : SwitcherQueuedFrameHandoffInput) :
    ServerSwitcherQueuedFrameHandoffErrorCode → SwitcherQueuedFrameHandoffError
  | .sourceUnavailable => .sourceUnavailable
  | .requestTimeout => .timeout
  | .invalidScope => .invalidScope input.clientId input.runId
  | .unsupportedReadMode => .unsupportedMode input.mode
  | .malformedResponse => .malformedResponse
  | .sourceShutdown => .sourceShutdown

def mapResponse (input : SwitcherQueuedFrameHandoffInput) :
    ServerSwitcherQueuedFrameHandoffResponse → SwitcherQueuedFrameHandoffResult
  | .frameRead _ remainingClientQueueLen _ _ _ frame =>
    .frameRead (.ofHandoff frame) input.mode remainingClientQueueLen.toNat
  | .noFrame _ clientId runId readMode clientQueueLen _ _ _ _ =>
    .noFrameAvailable clientId runId (.fromHandoffReadMode readMode) clientQueueLen.toNat
  | .handoffError _ error =>
    .handoffError input.clientId input.runId input.mode (mapHandoffErrorCodeToSwitcher input error)

/-- A handoff to the server's queue without a codec in between. -/
def serverHandoff (requestId : UInt64) : QueuedFrameHandoff ServerVideoFrameQueueState HandoffLengthPanic :=
  fun input => do
    let response ← handleRequest (buildRequest requestId input)
    pure (mapResponse input response)

theorem lenToU32_eq_ok {panic : Nat → HandoffLengthPanic} {len : Nat} {value : UInt32}
    (h : lenToU32 panic len = .ok value) : value.toNat = len := by
  unfold lenToU32 at h
  split at h
  next hlen =>
    cases Except.ok.inj h
    rw [UInt32.toNat_ofNat']
    omega
  next => cases h

/-- A handoff result with the content of a source result. -/
def SwitcherQueuedFrameHandoffResult.ofSource :
    SwitcherSingleClientQueueSourceResult → SwitcherQueuedFrameHandoffResult
  | .frameAvailable frame mode remainingClientQueueLen => .frameRead frame mode remainingClientQueueLen
  | .noFrameAvailable clientId runId mode clientQueueLen =>
    .noFrameAvailable clientId runId mode clientQueueLen

theorem queueReadModeFromHandoff_handoffReadMode (mode : SwitcherSingleClientQueueSourceMode) :
    queueReadModeFromHandoff mode.handoffReadMode = mode.queueReadMode := by
  cases mode <;> rfl

/-- The read result carries a retained keyframe's id exactly when it says that there is one. -/
theorem read_retained (state : ServerVideoFrameQueueState) (input : ServerVideoFrameQueueReadInput) :
    match (state.read input).2 with
    | .frameAvailable _ _ _ _ available frameId => available = frameId.isSome
    | .noFrameAvailable _ _ _ _ _ available frameId => available = frameId.isSome := by
  unfold ServerVideoFrameQueueState.read
  dsimp only
  split
  next result frame mode remaining source available frameId h =>
    split at h
    next =>
      cases h
      rw [Option.isSome_map]
    next => cases h
  next result clientId runId len reason source available frameId h =>
    split at h
    next => cases h
    next =>
      cases h
      rw [Option.isSome_map]

/-- The server answers a request for a named client and run with what the queue source would have read,
unless a length does not fit. -/
theorem handleRequest_buildRequest (requestId : UInt64) (input : SwitcherQueuedFrameHandoffInput)
    (state : ServerVideoFrameQueueState) (hclient : isBlank input.clientId = false)
    (hrun : isBlank input.runId = false) :
    let read := readQueueSource state ⟨input.clientId, input.runId, input.mode⟩
    (∃ response, handleRequest (buildRequest requestId input) state = .ok (response, read.1) ∧
      mapResponse input response = .ofSource read.2 ∧ response.RetainedAgrees) ∨
    ∃ panic, handleRequest (buildRequest requestId input) state = .error panic := by
  intro read
  have hretained := read_retained state ⟨input.clientId, input.runId, input.mode.queueReadMode⟩
  simp only [handleRequest, buildRequest, hclient, hrun, Bool.or_self, Bool.false_eq_true, if_false,
    queueReadModeFromHandoff_handoffReadMode]
  simp only [read, readQueueSource]
  cases hresult : state.read ⟨input.clientId, input.runId, input.mode.queueReadMode⟩ with
  | mk state' result =>
    rw [hresult] at hretained
    cases result with
    | frameAvailable frame mode remaining source available frameId =>
      dsimp only
      cases hremaining : queueLenToU32 remaining with
      | error panic => exact .inr ⟨panic, rfl⟩
      | ok remaining' =>
        cases hlength : payloadLenToU32 frame.payloadLen with
        | error panic => exact .inr ⟨panic, rfl⟩
        | ok length =>
          left
          refine ⟨_, rfl, ?_, hretained⟩
          simp only [mapResponse, SwitcherQueuedFrameHandoffResult.ofSource,
            SwitcherSingleViewSelectedEncodedFrame.ofHandoff, SwitcherSingleViewSelectedEncodedFrame.ofQueued,
            lenToU32_eq_ok hremaining, lenToU32_eq_ok hlength]
    | noFrameAvailable clientId runId len reason source available frameId =>
      dsimp only
      cases hlen : queueLenToU32 len with
      | error panic => exact .inr ⟨panic, rfl⟩
      | ok len' =>
        left
        refine ⟨_, rfl, ?_, hretained⟩
        simp only [mapResponse, SwitcherQueuedFrameHandoffResult.ofSource, lenToU32_eq_ok hlen,
          SwitcherSingleClientQueueSourceMode.fromHandoffReadMode_handoffReadMode]

end StreamSync
