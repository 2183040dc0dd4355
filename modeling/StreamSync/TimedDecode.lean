import StreamSync.ContinuousRuntime
import StreamSync.QueueSource

namespace StreamSync

inductive TwoRealPreviewLoopDecodePurpose where
  | previewFallback | programStartupBootstrap
deriving DecidableEq, Repr

structure TwoRealProgramFirstDecodeSuppressionConfig where
  programSource : TwoRealContinuousDecodeSource
  slot0Source : TwoRealContinuousDecodeSource
  slot1Source : TwoRealContinuousDecodeSource
deriving DecidableEq

inductive TwoRealContinuousBoundedLookupCandidate where
  | hit (key : TwoRealPreviewLoopDecodeCacheKey) (usedFrameId requestedFrameId lagFrames : UInt64)
  | rejectedStale | rejectedFuture | rejectedNotReady
deriving DecidableEq

/-- What the environment does around the continuous decoder in one call: the result of a spawn, and the
steps of the threads before the input is sent and before the outputs are drained. -/
structure ContinuousTurn where
  spawn : SpawnResult
  beforeEnqueue : List ThreadStep
  beforeDrain : List ThreadStep

def TwoRealContinuousDecodeSource.isSourceOf (source : TwoRealContinuousDecodeSource)
    (identity : SwitcherH264DecodeSourceIdentity) : Bool :=
  identity.clientId = source.clientId && identity.runId = source.runId

namespace TwoRealContinuousDecodeRuntime

/-- The loop of `bounded_lag_lookup_candidate`, over the decoded keys from the newest one: the nearest
key of the source that is not ahead of the request, and whether one that is was seen before it. -/
def nearestDecoded (input : SwitcherH264DecodeInput) (requested : SwitcherH264DecodeSourceIdentity) :
    List TwoRealPreviewLoopDecodeCacheKey → Bool →
      Option (TwoRealPreviewLoopDecodeCacheKey × UInt64) × Bool
  | [], futureCandidateSeen => (none, futureCandidateSeen)
  | key :: keys, futureCandidateSeen =>
    if key.width ≠ input.width ∨ key.height ≠ input.height then
      nearestDecoded input requested keys futureCandidateSeen
    else
      match key.sourceIdentity with
      | none => nearestDecoded input requested keys futureCandidateSeen
      | some candidate =>
        if candidate.clientId ≠ requested.clientId ∨ candidate.runId ≠ requested.runId then
          nearestDecoded input requested keys futureCandidateSeen
        else if requested.frameId < candidate.frameId then nearestDecoded input requested keys true
        else (some (key, candidate.frameId), futureCandidateSeen)

def boundedLagLookupCandidate (runtime : TwoRealContinuousDecodeRuntime) (input : SwitcherH264DecodeInput) :
    TwoRealContinuousBoundedLookupCandidate :=
  if runtime.runtimeDisabled ∨ runtime.continuousKeyOrder.isEmpty then .rejectedNotReady
  else
    match input.sourceIdentity with
    | none => .rejectedNotReady
    | some requested =>
      match nearestDecoded input requested runtime.continuousKeyOrder.reverse false with
      | (none, futureCandidateSeen) => if futureCandidateSeen then .rejectedFuture else .rejectedNotReady
      | (some (key, usedFrameId), _) =>
        -- `saturating_sub`; the candidate is not ahead of the request
        let lagFrames := requested.frameId - usedFrameId
        if runtime.config.boundedLookupAllowedLag < lagFrames then .rejectedStale
        else .hit key usedFrameId requested.frameId lagFrames

/-- `continuous_decode_process_running` in the flags that the last drain left. -/
def processRunning (runtime : TwoRealContinuousDecodeRuntime) : Bool :=
  runtime.session.any fun session => session.process.running

def latestDecodedKeyForSource (runtime : TwoRealContinuousDecodeRuntime) (clientId : ClientId)
    (runId : RunId) : Option TwoRealPreviewLoopDecodeCacheKey :=
  runtime.continuousKeyOrder.reverse.find? fun key =>
    key.sourceIdentity.any fun source => source.clientId = clientId && source.runId = runId

end TwoRealContinuousDecodeRuntime

/-- `should_suppress_continuous_slot0_one_shot_fallback`. -/
def shouldSuppressContinuousSlot0OneShotFallback (suppressionEnabled processRunning : Bool)
    (purpose : TwoRealPreviewLoopDecodePurpose) : Bool :=
  suppressionEnabled && processRunning && purpose = .previewFallback

/-- The state behind a `TimedSwitcherH264DecodeRuntime`; the decoder it wraps has a state of its own. -/
structure TimedSwitcherH264DecodeRuntime (δ : Type) where
  inner : δ
  decodedCache : DecodedCache
  outputOverride : TwoRealPreviewLoopDecodeOutputOverride
  continuousSlot0 : Option TwoRealContinuousDecodeRuntime
  programFirstDecodeSuppression : Option TwoRealProgramFirstDecodeSuppressionConfig
  programFirstDecodeSuppressionActive : Bool
  programFirstProgramSourcePreviewSuppressionActive : Bool
  operatorPreviewDecodeRefreshActive : Bool
  operatorPreviewDecodeRefreshBudgetRemaining : UInt32

namespace TimedSwitcherH264DecodeRuntime

variable {δ : Type}

def new (inner : δ) (outputOverride : TwoRealPreviewLoopDecodeOutputOverride)
    (continuousSlot0Source : Option TwoRealContinuousDecodeSource)
    (continuousConfig : TwoRealContinuousDecodeConfig)
    (programFirstDecodeSuppression : Option TwoRealProgramFirstDecodeSuppressionConfig) :
    TimedSwitcherH264DecodeRuntime δ where
  inner
  decodedCache := ∅
  outputOverride
  continuousSlot0 := continuousSlot0Source.map fun source => .new source outputOverride continuousConfig
  programFirstDecodeSuppression
  programFirstDecodeSuppressionActive := false
  programFirstProgramSourcePreviewSuppressionActive := false
  operatorPreviewDecodeRefreshActive := false
  operatorPreviewDecodeRefreshBudgetRemaining := 0

def setProgramFirstDecodeSuppressionActive (timed : TimedSwitcherH264DecodeRuntime δ) (active : Bool) :
    TimedSwitcherH264DecodeRuntime δ :=
  { timed with programFirstDecodeSuppressionActive := active }

def setProgramFirstProgramSourcePreviewSuppressionActive (timed : TimedSwitcherH264DecodeRuntime δ)
    (active : Bool) : TimedSwitcherH264DecodeRuntime δ :=
  { timed with programFirstProgramSourcePreviewSuppressionActive := active }

def setOperatorPreviewDecodeRefreshBudget (timed : TimedSwitcherH264DecodeRuntime δ) (active : Bool)
    (budget : UInt32) : TimedSwitcherH264DecodeRuntime δ :=
  { timed with
    operatorPreviewDecodeRefreshActive := active
    operatorPreviewDecodeRefreshBudgetRemaining := if active then budget else 0 }

/-- `maybe_suppress_program_first_preview_one_shot`. -/
def maybeSuppressProgramFirstPreviewOneShot (timed : TimedSwitcherH264DecodeRuntime δ)
    (input : SwitcherH264DecodeInput) : Bool × TimedSwitcherH264DecodeRuntime δ :=
  if ¬timed.programFirstDecodeSuppressionActive then (false, timed)
  else
    match timed.programFirstDecodeSuppression, input.sourceIdentity with
    | some config, some sourceIdentity =>
      if config.programSource.isSourceOf sourceIdentity then
        (timed.programFirstProgramSourcePreviewSuppressionActive, timed)
      else if timed.operatorPreviewDecodeRefreshActive
          ∧ 0 < timed.operatorPreviewDecodeRefreshBudgetRemaining then
        (false, { timed with
          operatorPreviewDecodeRefreshBudgetRemaining := timed.operatorPreviewDecodeRefreshBudgetRemaining - 1 })
      else (true, timed)
    | _, _ => (false, timed)

/-- The input as the decoder is asked for it, which also names the cache entry. -/
def overridden (timed : TimedSwitcherH264DecodeRuntime δ) (input : SwitcherH264DecodeInput) :
    SwitcherH264DecodeInput := applyOutputOverride timed.outputOverride input

def cacheKey (timed : TimedSwitcherH264DecodeRuntime δ) (input : SwitcherH264DecodeInput) :
    TwoRealPreviewLoopDecodeCacheKey := decodeCacheKey (timed.overridden input)

/-- The threads of the continuous decoder go on. -/
def advance (pictures : DecoderPictures) (timed : TimedSwitcherH264DecodeRuntime δ)
    (steps : List ThreadStep) : TimedSwitcherH264DecodeRuntime δ :=
  { timed with continuousSlot0 := timed.continuousSlot0.map fun runtime => runtime.advance pictures steps }

/-- The continuous runtime, if the input is of its source. -/
def targeted (timed : TimedSwitcherH264DecodeRuntime δ) (input : SwitcherH264DecodeInput) :
    Option TwoRealContinuousDecodeRuntime :=
  timed.continuousSlot0.filter fun runtime => runtime.matchesSource input

/-- `drain_outputs` of the given runtime, into the cache. -/
def drain (timed : TimedSwitcherH264DecodeRuntime δ) (runtime : TwoRealContinuousDecodeRuntime) :
    TimedSwitcherH264DecodeRuntime δ :=
  let (runtime, decodedCache) := runtime.drainOutputs timed.decodedCache
  { timed with continuousSlot0 := some runtime, decodedCache }

/-- `enqueue` and the drain behind it, which the feeder and the decode path have in common. -/
def enqueueAndDrain (pictures : DecoderPictures) (timed : TimedSwitcherH264DecodeRuntime δ)
    (runtime : TwoRealContinuousDecodeRuntime) (input : SwitcherH264DecodeInput) (turn : ContinuousTurn) :
    TimedSwitcherH264DecodeRuntime δ × TwoRealContinuousDecodeEnqueueResult :=
  let (runtime, result) :=
    (runtime.advance pictures turn.beforeEnqueue).enqueueInput timed.outputOverride input turn.spawn
  (timed.drain (runtime.advance pictures turn.beforeDrain), result)

/-- The frame that the feeder hands to `feed_slot0_continuous_frame`, as an input. -/
def feedInput (frame : SwitcherSingleViewSelectedEncodedFrame) : SwitcherH264DecodeInput where
  encodedPayload := frame.encodedPayload
  width := frame.width
  height := frame.height
  scaledOutputEnabled := false
  scaledOutputReason := none
  sourceIdentity := some ⟨frame.clientId, frame.runId, frame.frameId, "selected"⟩

def feedSlot0ContinuousFrame (pictures : DecoderPictures) (timed : TimedSwitcherH264DecodeRuntime δ)
    (frame : SwitcherSingleViewSelectedEncodedFrame) (turn : ContinuousTurn) :
    TimedSwitcherH264DecodeRuntime δ × TwoRealContinuousDecodeEnqueueResult :=
  match timed.continuousSlot0 with
  | none => (timed, .skippedRuntimeDisabled)
  | some runtime =>
    if runtime.matchesSource (feedInput frame) then
      timed.enqueueAndDrain pictures runtime (feedInput frame) turn
    else (timed, .skippedSourceMismatch)

/-- What the continuous decoder has to say to an input of its source that the cache did not hold: the
answer, or the input falls through to the one-shot decoder. -/
def continuousAnswer (pictures : DecoderPictures) (timed : TimedSwitcherH264DecodeRuntime δ)
    (runtime : TwoRealContinuousDecodeRuntime) (input : SwitcherH264DecodeInput)
    (purpose : TwoRealPreviewLoopDecodePurpose) (turn : ContinuousTurn) :
    Option SwitcherH264DecodeResult × TimedSwitcherH264DecodeRuntime δ :=
  let timed := (timed.enqueueAndDrain pictures runtime input turn).1
  match timed.decodedCache.lookup (timed.cacheKey input) with
  | some decoded => (some (.decoded decoded), timed)
  | none =>
    match timed.continuousSlot0 with
    | none => (none, timed)
    | some runtime =>
      let lagged :=
        match runtime.boundedLagLookupCandidate (timed.overridden input) with
        | .hit key _ _ _ => timed.decodedCache.lookup key
        | _ => none
      match lagged with
      | some decoded => (some (.decoded decoded), timed)
      | none =>
        if shouldSuppressContinuousSlot0OneShotFallback runtime.config.slot0OneShotSuppressionEnabled
            runtime.processRunning purpose then
          (some (.deferred .continuousOneShotSuppressed), timed)
        else (none, timed)

/-- A decode call starts with a drain, if its input is of the continuous source. -/
def drainTargeted (timed : TimedSwitcherH264DecodeRuntime δ) (input : SwitcherH264DecodeInput) :
    TimedSwitcherH264DecodeRuntime δ :=
  match timed.targeted input with
  | some runtime => timed.drain runtime
  | none => timed

def answerTargeted (pictures : DecoderPictures) (timed : TimedSwitcherH264DecodeRuntime δ)
    (input : SwitcherH264DecodeInput) (purpose : TwoRealPreviewLoopDecodePurpose) (turn : ContinuousTurn) :
    Option SwitcherH264DecodeResult × TimedSwitcherH264DecodeRuntime δ :=
  match timed.targeted input with
  | some runtime => timed.continuousAnswer pictures runtime input purpose turn
  | none => (none, timed)

def suppressPreview (timed : TimedSwitcherH264DecodeRuntime δ) (input : SwitcherH264DecodeInput) :
    TwoRealPreviewLoopDecodePurpose → Bool × TimedSwitcherH264DecodeRuntime δ
  | .previewFallback => timed.maybeSuppressProgramFirstPreviewOneShot (timed.overridden input)
  | .programStartupBootstrap => (false, timed)

/-- A decode call up to the one-shot decoder: its result, if it gets one on the way. -/
def beforeOneShot (pictures : DecoderPictures) (timed : TimedSwitcherH264DecodeRuntime δ)
    (input : SwitcherH264DecodeInput) (purpose : TwoRealPreviewLoopDecodePurpose) (turn : ContinuousTurn) :
    Option SwitcherH264DecodeResult × TimedSwitcherH264DecodeRuntime δ :=
  let timed := timed.drainTargeted input
  match timed.decodedCache.lookup (timed.cacheKey input) with
  | some decoded => (some (.decoded decoded), timed)
  | none =>
    match timed.answerTargeted pictures input purpose turn with
    | (some result, timed) => (some result, timed)
    | (none, timed) =>
      match timed.suppressPreview input purpose with
      | (true, timed) => (some (.deferred .continuousOneShotSuppressed), timed)
      | (false, timed) => (none, timed)

/-- `decode_annex_b_h264_with_diagnostics_for_purpose`. -/
def decodeForPurpose (pictures : DecoderPictures) (decode : H264DecodeRuntime δ)
    (timed : TimedSwitcherH264DecodeRuntime δ) (input : SwitcherH264DecodeInput)
    (purpose : TwoRealPreviewLoopDecodePurpose) (turn : ContinuousTurn) :
    SwitcherH264DecodeResult × TimedSwitcherH264DecodeRuntime δ :=
  match timed.beforeOneShot pictures input purpose turn with
  | (some result, timed) => (result, timed)
  | (none, timed) =>
    match decode (timed.overridden input) timed.inner with
    | (.decoded decoded, inner) =>
      (.decoded decoded,
        { timed with inner, decodedCache := timed.decodedCache.insert (timed.cacheKey input) decoded })
    | (result, inner) => (result, { timed with inner })

/-- `latest_continuous_program_frame`: the newest decoded picture of a client and run, and its frame
id. -/
def latestContinuousProgramFrame (timed : TimedSwitcherH264DecodeRuntime δ) (clientId : ClientId)
    (selectedRunId : Option RunId) :
    Option (SwitcherDecodedFrame × UInt64) × TimedSwitcherH264DecodeRuntime δ :=
  match selectedRunId, timed.continuousSlot0 with
  | some runId, some runtime =>
    let timed := timed.drain runtime
    let found := do
      let runtime ← timed.continuousSlot0
      let key ← runtime.latestDecodedKeyForSource clientId runId
      let source ← key.sourceIdentity
      let decoded ← timed.decodedCache.lookup key
      return (decoded, source.frameId)
    (found, timed)
  | _, _ => (none, timed)

end TimedSwitcherH264DecodeRuntime

end StreamSync
