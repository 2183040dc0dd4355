import StreamSync.Fragmentation
import StreamSync.Lib.Run
import StreamSync.Lib.Saturating
import StreamSync.PersistentSession

namespace StreamSync

open Run Saturating

structure ClientRawCapturedVideoFrame where
  captureTimestamp : TimestampMicros
  width : UInt32
  height : UInt32
  fpsNominal : UInt32
  pixels : List UInt8
deriving DecidableEq, Repr

inductive ClientCaptureFrameAcquisitionUnavailableReason where
  | runtimeUnavailable | backendUnsupported | captureNotStarted | acquisitionFailed
deriving DecidableEq, Repr

inductive ClientCaptureFrameAcquisitionResult where
  | frameAcquired (frame : ClientRawCapturedVideoFrame)
  | noFrameAvailable (message : Option String)
  | unavailable (reason : ClientCaptureFrameAcquisitionUnavailableReason) (message : Option String)
deriving DecidableEq, Repr

structure ClientVideoEncoderConfig where
  width : Option UInt32
  height : Option UInt32
  fps : UInt32
deriving DecidableEq, Repr

namespace ClientVideoEncoderConfig

def effectiveWidth (config : ClientVideoEncoderConfig) (capturedWidth : UInt32) : UInt32 :=
  config.width.getD capturedWidth

def effectiveHeight (config : ClientVideoEncoderConfig) (capturedHeight : UInt32) : UInt32 :=
  config.height.getD capturedHeight

def effectiveFps (config : ClientVideoEncoderConfig) (capturedFps : UInt32) : UInt32 :=
  if config.fps = 0 then capturedFps else config.fps

end ClientVideoEncoderConfig

inductive ClientH264EncoderDeferredReason where
  | realH264EncodeDeferred | unsupportedCaptureFormat | encoderUnavailable | encodeFailed
  | missingH264ParameterSets
deriving DecidableEq, Repr

inductive ClientPersistentFfmpegH264EncoderStartErrorKind where
  | invalidStartupConfig | encoderUnavailable | spawnFailed | stdinUnavailable | stdoutUnavailable
  | stderrUnavailable
deriving DecidableEq, Repr

def persistentStartErrorKindToDeferredReason :
    ClientPersistentFfmpegH264EncoderStartErrorKind → ClientH264EncoderDeferredReason
  | .encoderUnavailable => .encoderUnavailable
  | .invalidStartupConfig => .encodeFailed
  | .spawnFailed => .encodeFailed
  | .stdinUnavailable => .encodeFailed
  | .stdoutUnavailable => .encodeFailed
  | .stderrUnavailable => .encodeFailed

/-- What starting the child gives. -/
inductive EncoderSpawn where
  | spawned | notFound | failed | withoutStdin | withoutStdout | withoutStderr
deriving DecidableEq, Repr

/-- Four bytes a pixel, unless a `usize` is too small for them. -/
def expectedBgraFrameLen (width height : UInt32) : Option Nat :=
  let frameLen := width.toNat * height.toNat * 4
  if frameLen < 18446744073709551616 then some frameLen else none

def startWithCommand (frame : ClientRawCapturedVideoFrame) (spawn : EncoderSpawn) :
    Except ClientPersistentFfmpegH264EncoderStartErrorKind ClientPersistentFfmpegH264EncoderRuntime :=
  if frame.width = 0 ∨ frame.height = 0 ∨ frame.fpsNominal = 0 then .error .invalidStartupConfig
  else
    match expectedBgraFrameLen frame.width frame.height with
    | none => .error .invalidStartupConfig
    | some expectedFrameLen =>
      match spawn with
      | .spawned => .ok ⟨expectedFrameLen, true⟩
      | .notFound => .error .encoderUnavailable
      | .failed => .error .spawnFailed
      | .withoutStdin => .error .stdinUnavailable
      | .withoutStdout => .error .stdoutUnavailable
      | .withoutStderr => .error .stderrUnavailable

theorem stdoutOpen_of_startWithCommand {frame : ClientRawCapturedVideoFrame} {spawn : EncoderSpawn}
    {runtime : ClientPersistentFfmpegH264EncoderRuntime} (h : startWithCommand frame spawn = .ok runtime) :
    runtime.stdoutOpen = true := by
  unfold startWithCommand at h
  split at h
  next => cases h
  next =>
    split at h
    next => cases h
    next =>
      cases spawn with
      | spawned => cases h; rfl
      | _ => cases h

def clientPersistentFfmpegStdoutReadLen : Nat := 64 * 1024

inductive ClientEncodedVideoFrameSourceError where
  | emptyPayload | unsupportedCodec
deriving DecidableEq, Repr

structure ClientEncodedVideoFrameSource where
  captureTimestamp : TimestampMicros
  width : UInt32
  height : UInt32
  fpsNominal : UInt32
  codec : Codec
  payload : List UInt8
deriving DecidableEq, Repr

structure ClientVideoFrameEncodedSourceInput where
  protocolVersion : ProtocolVersion
  clientId : ClientId
  runId : RunId
  frameId : UInt64
  sendTimestamp : TimestampMicros
  isKeyframe : Bool
  encoded : ClientEncodedVideoFrameSource
deriving DecidableEq, Repr

def buildFrameFromEncodedSource (input : ClientVideoFrameEncodedSourceInput) :
    Except ClientEncodedVideoFrameSourceError VideoFrame :=
  if input.encoded.payload.isEmpty then .error .emptyPayload
  else if input.encoded.codec ≠ .h264 then .error .unsupportedCodec
  else
    .ok {
      messageType := .videoFrame
      protocolVersion := input.protocolVersion
      clientId := input.clientId
      runId := input.runId
      frameId := input.frameId
      captureTimestamp := input.encoded.captureTimestamp
      sendTimestamp := input.sendTimestamp
      isKeyframe := input.isKeyframe
      metadataReserved := Vector.replicate 3 0
      width := input.encoded.width
      height := input.encoded.height
      fpsNominal := input.encoded.fpsNominal
      codec := input.encoded.codec
      payloadSize := input.encoded.payload.length
      payload := input.encoded.payload }

structure ClientContinuousRealEncodedVideoFramePolicy where
  maxFrames : UInt64
  maxTicks : UInt64
  frameWaitTimeoutMicros : UInt64
  stopOnCaptureFailure : Bool
  stopOnSendFailure : Bool
deriving DecidableEq, Repr

structure ClientContinuousRealEncodedVideoFrameInput where
  protocolVersion : ProtocolVersion
  clientId : ClientId
  runId : RunId
  firstFrameId : UInt64
  encoderConfig : ClientVideoEncoderConfig
  policy : ClientContinuousRealEncodedVideoFramePolicy
deriving DecidableEq, Repr

inductive ClientContinuousRealEncodedVideoFrameStopReason where
  | maxFramesReached | maxTicksReached | frameWaitTimeout | captureFailure | encodeFailure | sendFailure
deriving DecidableEq, Repr

inductive ClientRealEncodedVideoFrameOneShotResult where
  | sent (frame : VideoFrame)
  | captureUnavailable (reason : ClientCaptureFrameAcquisitionUnavailableReason) (message : Option String)
  | noFrameAvailable (message : Option String)
  | encodeUnavailable (reason : ClientH264EncoderDeferredReason)
  | frameBuildFailed (error : ClientEncodedVideoFrameSourceError)
  | sendFailed (error : ClientVideoFrameEncodeSendError)
deriving DecidableEq, Repr

/-- What one round of the loop meets: the clock, the capture, the child, and the socket, which
takes a frame or says why not. -/
structure PersistentTick where
  sendTimestamp : TimestampMicros
  acquired : ClientCaptureFrameAcquisitionResult
  /-- The frame wait timeout has passed since the first round in a row without a frame. -/
  frameWaitElapsed : Bool
  spawn : EncoderSpawn
  pipes : EncoderPipes
  send : VideoFrame → Except ClientVideoFrameEncodeSendError Unit

/-- The variables of the loop. The rounds are counted up to `max_ticks`, so no counter saturates. -/
structure PersistentSenderState where
  session : Option ClientPersistentFfmpegH264AccessUnitSession
  h264ParameterSetCache : ClientPersistentH264ParameterSetCache
  framesSent : Nat
  runtimeTicks : Nat
  captureAttempts : Nat
  persistentAccessUnitsEmitted : Nat
  stopReason : Option ClientContinuousRealEncodedVideoFrameStopReason
deriving DecidableEq, Repr

def PersistentSenderState.initial : PersistentSenderState := ⟨none, .empty, 0, 0, 0, 0, none⟩

section Tick

variable (input : ClientContinuousRealEncodedVideoFrameInput) (tick : PersistentTick) (frameId : UInt64)
  (frame : ClientRawCapturedVideoFrame)

def buildAndSendPersistentAccessUnit (cache : ClientPersistentH264ParameterSetCache)
    (accessUnit : ClientAnnexBAccessUnit) :
    ClientPersistentH264ParameterSetCache × ClientRealEncodedVideoFrameOneShotResult :=
  let cache := cache.observeAccessUnit accessUnit
  match cache.preparePayload accessUnit with
  | .missingParameterSets => (cache, .encodeUnavailable .missingH264ParameterSets)
  | .prepared payload _ _ =>
    let encoded : ClientEncodedVideoFrameSource := {
      captureTimestamp := frame.captureTimestamp
      width := input.encoderConfig.effectiveWidth frame.width
      height := input.encoderConfig.effectiveHeight frame.height
      fpsNominal := input.encoderConfig.effectiveFps frame.fpsNominal
      codec := .h264
      payload }
    match buildFrameFromEncodedSource ⟨input.protocolVersion, input.clientId, input.runId, frameId,
      tick.sendTimestamp, accessUnit.containsIdr, encoded⟩ with
    | .error error => (cache, .frameBuildFailed error)
    | .ok builtFrame =>
      match tick.send builtFrame with
      | .ok () => (cache, .sent builtFrame)
      | .error error => (cache, .sendFailed error)

/-- An access unit that came out of the session. -/
def sendAccessUnit (state : PersistentSenderState) (accessUnit : ClientAnnexBAccessUnit) :
    PersistentSenderState × ClientRealEncodedVideoFrameOneShotResult :=
  let sent := buildAndSendPersistentAccessUnit input tick frameId frame state.h264ParameterSetCache accessUnit
  ({ state with
      persistentAccessUnitsEmitted := state.persistentAccessUnitsEmitted + 1
      h264ParameterSetCache := sent.1 }, sent.2)

def handlePersistentAccessUnitSessionResult (state : PersistentSenderState) :
    ClientPersistentFfmpegH264AccessUnitSessionStepResult →
      PersistentSenderState × ClientRealEncodedVideoFrameOneShotResult
  | .accessUnit accessUnit => sendAccessUnit input tick frameId frame state accessUnit
  | .noCompleteAccessUnitYet _ => (state, .encodeUnavailable .realH264EncodeDeferred)
  | .streamEnded finishResult =>
    let handled :=
      match finishResult with
      | .accessUnit accessUnit => sendAccessUnit input tick frameId frame state accessUnit
      | .malformedStream _ _ => (state, .encodeUnavailable .encodeFailed)
      | .eofNoBufferedData => (state, .encodeUnavailable .encodeFailed)
      | .eofWithIncompleteData _ _ => (state, .encodeUnavailable .encodeFailed)
    ({ handled.1 with session := none, stopReason := some .encodeFailure }, handled.2)
  | _ =>
    ({ state with session := none, stopReason := some .encodeFailure }, .encodeUnavailable .encodeFailed)

def submitToSession (state : PersistentSenderState)
    (session : ClientPersistentFfmpegH264AccessUnitSession) :
    PersistentSenderState × ClientRealEncodedVideoFrameOneShotResult :=
  let polled := session.submitFrameAndPollAccessUnit tick.pipes frame.pixels
  handlePersistentAccessUnitSessionResult input tick frameId frame { state with session := some polled.1 }
    polled.2

/-- The payload is prepared from the access unit, with some parameter sets in the cache. -/
def PreparedFrom (accessUnit : ClientAnnexBAccessUnit) (payload : List UInt8) : Prop :=
  ∃ (cache : ClientPersistentH264ParameterSetCache) (prependedCachedParameterSets payloadHadParameterSets :
    Bool),
    cache.preparePayload accessUnit = .prepared payload prependedCachedParameterSets payloadHadParameterSets

theorem buildFrameFromEncodedSource_eq_ok {input : ClientVideoFrameEncodedSourceInput} {built : VideoFrame}
    (h : buildFrameFromEncodedSource input = .ok built) :
    built.captureTimestamp = input.encoded.captureTimestamp ∧ built.payload = input.encoded.payload := by
  unfold buildFrameFromEncodedSource at h
  split at h
  next => cases h
  next =>
    split at h
    next => cases h
    next => cases h; exact ⟨rfl, rfl⟩

/-- Whatever picture the access unit is of, it is sent with the capture timestamp of the frame that is
being submitted. -/
theorem buildAndSendPersistentAccessUnit_sent {input : ClientContinuousRealEncodedVideoFrameInput}
    {tick : PersistentTick} {frameId : UInt64} {frame : ClientRawCapturedVideoFrame}
    {cache : ClientPersistentH264ParameterSetCache} {accessUnit : ClientAnnexBAccessUnit} {sent : VideoFrame}
    (h : (buildAndSendPersistentAccessUnit input tick frameId frame cache accessUnit).2 = .sent sent) :
    sent.captureTimestamp = frame.captureTimestamp ∧ PreparedFrom accessUnit sent.payload := by
  unfold buildAndSendPersistentAccessUnit at h
  dsimp only at h
  split at h
  next => cases h
  next payload prepended had hprepared =>
    split at h
    next => cases h
    next built hbuilt =>
      split at h
      next =>
        cases h
        obtain ⟨htimestamp, hpayload⟩ := buildFrameFromEncodedSource_eq_ok hbuilt
        exact ⟨htimestamp, _, prepended, had, by rw [hpayload]; exact hprepared⟩
      next => cases h

theorem handlePersistentAccessUnitSessionResult_of_isFailure
    {result : ClientPersistentFfmpegH264AccessUnitSessionStepResult} (h : result.isFailure = true)
    (state : PersistentSenderState) :
    handlePersistentAccessUnitSessionResult input tick frameId frame state result =
      ({ state with session := none, stopReason := some .encodeFailure },
        .encodeUnavailable .encodeFailed) := by
  cases result <;> first | rfl | cases h

/-- The session that is there, or one that is started for the frame. -/
def ensureSession (state : PersistentSenderState) :
    Except ClientPersistentFfmpegH264EncoderStartErrorKind ClientPersistentFfmpegH264AccessUnitSession :=
  match state.session with
  | some session => .ok session
  | none => (startWithCommand frame tick.spawn).map (.new · clientPersistentFfmpegStdoutReadLen)

def acquireAndEncode (state : PersistentSenderState) :
    PersistentSenderState × ClientRealEncodedVideoFrameOneShotResult :=
  match tick.acquired with
  | .noFrameAvailable message => (state, .noFrameAvailable message)
  | .unavailable reason message => (state, .captureUnavailable reason message)
  | .frameAcquired frame =>
    match ensureSession tick frame state with
    | .ok session => submitToSession input tick frameId frame state session
    | .error kind =>
      ({ state with stopReason := some .encodeFailure },
        .encodeUnavailable (persistentStartErrorKindToDeferredReason kind))

end Tick

/-- The reason to stop that the result of a round gives, if any. -/
def stopReasonOfResult (policy : ClientContinuousRealEncodedVideoFramePolicy) (frameWaitElapsed : Bool) :
    ClientRealEncodedVideoFrameOneShotResult → Option ClientContinuousRealEncodedVideoFrameStopReason
  | .noFrameAvailable _ =>
    if policy.frameWaitTimeoutMicros > 0 ∧ frameWaitElapsed then some .frameWaitTimeout else none
  | .captureUnavailable _ _ => if policy.stopOnCaptureFailure then some .captureFailure else none
  | .sendFailed _ => if policy.stopOnSendFailure then some .sendFailure else none
  | _ => none

def settleTick (policy : ClientContinuousRealEncodedVideoFramePolicy) (frameWaitElapsed : Bool)
    (state : PersistentSenderState) (result : ClientRealEncodedVideoFrameOneShotResult) :
    PersistentSenderState :=
  let framesSent :=
    match result with
    | .sent _ => state.framesSent + 1
    | _ => state.framesSent
  let stopReason := (stopReasonOfResult policy frameWaitElapsed result).or state.stopReason
  { state with
    framesSent
    stopReason := if policy.maxFrames.toNat ≤ framesSent then some .maxFramesReached else stopReason }

/-- One round of the loop of `run_with_persistent_access_unit_session_factory`, with the result that
it records. A loop that has ended makes no more rounds. -/
def persistentTick (input : ClientContinuousRealEncodedVideoFrameInput) (state : PersistentSenderState)
    (tick : PersistentTick) : PersistentSenderState × Option ClientRealEncodedVideoFrameOneShotResult :=
  if state.stopReason.isSome then (state, none)
  else if input.policy.maxFrames.toNat ≤ state.framesSent then
    ({ state with stopReason := some .maxFramesReached }, none)
  else if input.policy.maxTicks.toNat ≤ state.runtimeTicks then
    ({ state with stopReason := some .maxTicksReached }, none)
  else
    let frameId := saturatingAdd input.firstFrameId (UInt64.ofNat state.captureAttempts)
    let counted := { state with
      runtimeTicks := state.runtimeTicks + 1
      captureAttempts := state.captureAttempts + 1 }
    let handled := acquireAndEncode input tick frameId counted
    (settleTick input.policy tick.frameWaitElapsed handled.1 handled.2, some handled.2)

/-- A round either ends the loop at its head or settles what `acquireAndEncode` gives. -/
theorem persistentTick_cases (input : ClientContinuousRealEncodedVideoFrameInput)
    (state : PersistentSenderState) (tick : PersistentTick) :
    ((persistentTick input state tick).1.stopReason ≠ none ∧ (persistentTick input state tick).2 = none) ∨
      ∃ frameId counted, state.stopReason = none ∧ counted.session = state.session ∧
        counted.persistentAccessUnitsEmitted = state.persistentAccessUnitsEmitted ∧
        persistentTick input state tick =
          (settleTick input.policy tick.frameWaitElapsed (acquireAndEncode input tick frameId counted).1
            (acquireAndEncode input tick frameId counted).2,
            some (acquireAndEncode input tick frameId counted).2) := by
  unfold persistentTick
  split
  next hstopped => exact .inl ⟨Option.isSome_iff_ne_none.mp hstopped, rfl⟩
  next hgoing =>
    split
    next => exact .inl ⟨Option.some_ne_none _, rfl⟩
    next =>
      split
      next => exact .inl ⟨Option.some_ne_none _, rfl⟩
      next =>
        have hnone : state.stopReason = none := by
          cases hreason : state.stopReason with
          | none => rfl
          | some reason => exact absurd (by rw [hreason]; rfl) hgoing
        let counted := { state with
          runtimeTicks := state.runtimeTicks + 1
          captureAttempts := state.captureAttempts + 1 }
        exact .inr ⟨_, counted, hnone, rfl, rfl, rfl⟩

@[simp] theorem settleTick_session (policy : ClientContinuousRealEncodedVideoFramePolicy)
    (frameWaitElapsed : Bool) (state : PersistentSenderState)
    (result : ClientRealEncodedVideoFrameOneShotResult) :
    (settleTick policy frameWaitElapsed state result).session = state.session := rfl

@[simp] theorem settleTick_persistentAccessUnitsEmitted
    (policy : ClientContinuousRealEncodedVideoFramePolicy) (frameWaitElapsed : Bool)
    (state : PersistentSenderState) (result : ClientRealEncodedVideoFrameOneShotResult) :
    (settleTick policy frameWaitElapsed state result).persistentAccessUnitsEmitted =
      state.persistentAccessUnitsEmitted := rfl

/-- Settling a round never takes a reason to stop away. -/
theorem stopReason_of_settleTick {policy : ClientContinuousRealEncodedVideoFramePolicy}
    {frameWaitElapsed : Bool} {state : PersistentSenderState}
    {result : ClientRealEncodedVideoFrameOneShotResult}
    (h : (settleTick policy frameWaitElapsed state result).stopReason = none) : state.stopReason = none := by
  by_cases hmax : policy.maxFrames.toNat ≤ (settleTick policy frameWaitElapsed state result).framesSent
  · cases (if_pos hmax).symm.trans h
  · exact (Option.or_eq_none_iff.mp ((if_neg hmax).symm.trans h)).2

def runPersistentSender (input : ClientContinuousRealEncodedVideoFrameInput) (ticks : List PersistentTick) :
    PersistentSenderState × List (Option ClientRealEncodedVideoFrameOneShotResult) :=
  run (persistentTick input) .initial ticks

end StreamSync
