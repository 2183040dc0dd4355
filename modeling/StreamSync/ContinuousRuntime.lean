import Mathlib.Data.Finset.Basic
import Mathlib.Data.List.AList
import StreamSync.ContinuousSession
import StreamSync.NalInspection

namespace StreamSync

structure TwoRealContinuousDecodeSource where
  clientId : ClientId
  runId : RunId
deriving DecidableEq

structure TwoRealContinuousDecodeConfig where
  slot0OneShotSuppressionEnabled : Bool
  boundedLookupAllowedLagFrames : Option UInt64
  outputPipelineExperimentMode : TwoRealContinuousOutputPipelineExperimentMode
deriving DecidableEq

namespace TwoRealContinuousDecodeConfig

def boundedLookupAllowedLag (config : TwoRealContinuousDecodeConfig) : UInt64 :=
  config.boundedLookupAllowedLagFrames.getD 5

def usesDynamicSourceSizeOutput (config : TwoRealContinuousDecodeConfig) : Bool :=
  config.outputPipelineExperimentMode.usesDynamicSourceSizeOutput

def outputFrameBytes (config : TwoRealContinuousDecodeConfig) (width height : UInt32) : Nat :=
  config.outputPipelineExperimentMode.outputFrameBytes width height

end TwoRealContinuousDecodeConfig

structure TwoRealPreviewLoopDecodeOutputOverride where
  width : UInt32
  height : UInt32
  reason : String
deriving DecidableEq

/-- `apply_output_override`; the preview loop always sets an override. -/
def applyOutputOverride (outputOverride : TwoRealPreviewLoopDecodeOutputOverride)
    (input : SwitcherH264DecodeInput) : SwitcherH264DecodeInput :=
  { input with
    width := outputOverride.width
    height := outputOverride.height
    scaledOutputEnabled := true
    scaledOutputReason := some outputOverride.reason }

/-- The key under which the picture of an input is kept. -/
def decodeCacheKey (input : SwitcherH264DecodeInput) : TwoRealPreviewLoopDecodeCacheKey where
  width := input.width
  height := input.height
  sourceIdentity := input.sourceIdentity
  encodedPayload := if input.sourceIdentity.isSome then [] else input.encodedPayload

abbrev DecodedCache := AList fun _ : TwoRealPreviewLoopDecodeCacheKey => SwitcherDecodedFrame

/-- The one session that a runtime starts is in `session` while it runs; `stoppedSession` keeps it as
`disable` left it. -/
structure TwoRealContinuousDecodeRuntime where
  source : TwoRealContinuousDecodeSource
  config : TwoRealContinuousDecodeConfig
  session : Option TwoRealContinuousDecodeSession
  stoppedSession : Option TwoRealContinuousDecodeSession
  outputWidth : UInt32
  outputHeight : UInt32
  outputExpectedLen : Nat
  runtimeDisabled : Bool
  runtimeDisabledReason : Option String
  enqueuedKeys : Finset TwoRealPreviewLoopDecodeCacheKey
  continuousDecodedKeys : Finset TwoRealPreviewLoopDecodeCacheKey
  continuousKeyOrder : List TwoRealPreviewLoopDecodeCacheKey
  latestDecodedFrameId : Option UInt64

inductive TwoRealContinuousDecodeEnqueueResult where
  | enqueued | skippedDuplicate | skippedRuntimeDisabled | skippedStartupNotReady | skippedSourceMismatch
  | droppedInputQueueFull | disconnected
deriving DecidableEq, Repr

/-- What `Command::spawn` gives back. -/
inductive SpawnResult where
  | spawned | notFound | failed (error : String)
deriving DecidableEq, Repr

/-- The keys, their set and the pictures after the loop that drops the oldest ones. -/
def dropOldestDecoded : List TwoRealPreviewLoopDecodeCacheKey → Finset TwoRealPreviewLoopDecodeCacheKey →
    DecodedCache →
    List TwoRealPreviewLoopDecodeCacheKey × Finset TwoRealPreviewLoopDecodeCacheKey × DecodedCache
  | [], keys, cache => ([], keys, cache)
  | key :: order, keys, cache =>
    if continuousDecodeQueueBound < (key :: order).length then
      dropOldestDecoded order (keys.erase key) (cache.erase key)
    else (key :: order, keys, cache)

namespace TwoRealContinuousDecodeRuntime

/-- `TwoRealContinuousDecodeRuntime::new`, as `TimedSwitcherH264DecodeRuntime::new` calls it. -/
def new (source : TwoRealContinuousDecodeSource) (outputOverride : TwoRealPreviewLoopDecodeOutputOverride)
    (config : TwoRealContinuousDecodeConfig) : TwoRealContinuousDecodeRuntime :=
  let outputWidth := if config.usesDynamicSourceSizeOutput then 0 else outputOverride.width
  let outputHeight := if config.usesDynamicSourceSizeOutput then 0 else outputOverride.height
  { source
    config
    session := none
    stoppedSession := none
    outputWidth
    outputHeight
    outputExpectedLen := config.outputFrameBytes outputWidth outputHeight
    runtimeDisabled := false
    runtimeDisabledReason := none
    enqueuedKeys := ∅
    continuousDecodedKeys := ∅
    continuousKeyOrder := []
    latestDecodedFrameId := none }

def matchesSource (runtime : TwoRealContinuousDecodeRuntime) (input : SwitcherH264DecodeInput) : Bool :=
  match input.sourceIdentity with
  | some source => source.clientId = runtime.source.clientId && source.runId = runtime.source.runId
  | none => false

/-- `apply_continuous_output_override`, of the runtime's own mode. -/
def continuousInput (runtime : TwoRealContinuousDecodeRuntime)
    (outputOverride : TwoRealPreviewLoopDecodeOutputOverride) (input : SwitcherH264DecodeInput) :
    SwitcherH264DecodeInput :=
  if runtime.config.usesDynamicSourceSizeOutput then input else applyOutputOverride outputOverride input

def disable (runtime : TwoRealContinuousDecodeRuntime) (reason : String) : TwoRealContinuousDecodeRuntime :=
  { runtime with
    runtimeDisabled := true
    runtimeDisabledReason := some reason
    session := none
    stoppedSession := runtime.session.or runtime.stoppedSession }

def ensureOutputShape (runtime : TwoRealContinuousDecodeRuntime) (input : SwitcherH264DecodeInput) :
    TwoRealContinuousDecodeRuntime :=
  if runtime.config.usesDynamicSourceSizeOutput ∧ (runtime.outputWidth = 0 ∨ runtime.outputHeight = 0) then
    { runtime with
      outputWidth := input.width
      outputHeight := input.height
      outputExpectedLen := runtime.config.outputFrameBytes input.width input.height }
  else runtime

def startSession (runtime : TwoRealContinuousDecodeRuntime) (input : SwitcherH264DecodeInput) :
    TwoRealContinuousDecodeRuntime :=
  { runtime with
    session := some (spawnContinuousDecodeSession input.width input.height runtime.outputExpectedLen
      runtime.config.outputPipelineExperimentMode) }

/-- `ensure_started`: the runtime it leaves and the error it returns. -/
def ensureStarted (runtime : TwoRealContinuousDecodeRuntime) (input : SwitcherH264DecodeInput)
    (spawn : SpawnResult) : TwoRealContinuousDecodeRuntime × Except String Unit :=
  if runtime.runtimeDisabled then
    (runtime, .error (runtime.runtimeDisabledReason.getD "continuous_runtime_disabled"))
  else if runtime.session.isSome then
    if runtime.config.usesDynamicSourceSizeOutput
        ∧ (runtime.outputWidth ≠ input.width ∨ runtime.outputHeight ≠ input.height) then
      (runtime, .error "continuous_no_scale_source_size_changed")
    else (runtime, .ok ())
  else
    let payloadSummary := inspectPayload input.encodedPayload
    if ¬(payloadSummary.hasSps && payloadSummary.hasPps && payloadSummary.hasIdr) then
      (runtime, .error "continuous_startup_requires_sps_pps_idr")
    else
      let runtime := runtime.ensureOutputShape input
      match spawn with
      | .spawned => (runtime.startSession input, .ok ())
      | .notFound => (runtime.disable "continuous_ffmpeg_unavailable", .error "continuous_ffmpeg_unavailable")
      | .failed error =>
        (runtime.disable ("continuous_ffmpeg_spawn_failed:" ++ error),
          .error ("continuous_ffmpeg_spawn_failed:" ++ error))

def enqueue (runtime : TwoRealContinuousDecodeRuntime) (input : SwitcherH264DecodeInput)
    (key : TwoRealPreviewLoopDecodeCacheKey) (spawn : SpawnResult) :
    TwoRealContinuousDecodeRuntime × TwoRealContinuousDecodeEnqueueResult :=
  if runtime.runtimeDisabled then (runtime, .skippedRuntimeDisabled)
  else if key ∈ runtime.enqueuedKeys then (runtime, .skippedDuplicate)
  else
    match input.sourceIdentity with
    | none => (runtime, .skippedSourceMismatch)
    | some sourceIdentity =>
      match runtime.ensureStarted input spawn with
      | (runtime, .error _) => (runtime, .skippedStartupNotReady)
      | (runtime, .ok ()) =>
        match runtime.session with
        | none => (runtime, .skippedRuntimeDisabled)
        | some session =>
          match session.trySend ⟨⟨key, sourceIdentity.frameId⟩, input.encodedPayload⟩ with
          | .sent session =>
            ({ runtime with session := some session, enqueuedKeys := insert key runtime.enqueuedKeys },
              .enqueued)
          | .full => (runtime, .droppedInputQueueFull)
          | .disconnected => (runtime.disable "continuous_input_writer_disconnected", .disconnected)

/-- What the feeder and the decode path do with the continuous runtime: inputs of another source stay
out, the rest goes in under its cache key. -/
def enqueueInput (runtime : TwoRealContinuousDecodeRuntime)
    (outputOverride : TwoRealPreviewLoopDecodeOutputOverride) (input : SwitcherH264DecodeInput)
    (spawn : SpawnResult) : TwoRealContinuousDecodeRuntime × TwoRealContinuousDecodeEnqueueResult :=
  if runtime.matchesSource input then
    runtime.enqueue (runtime.continuousInput outputOverride input)
      (decodeCacheKey (applyOutputOverride outputOverride input)) spawn
  else (runtime, .skippedSourceMismatch)

/-- What `drain_outputs` does with one event. -/
def applyEvent (runtime : TwoRealContinuousDecodeRuntime) (cache : DecodedCache) :
    TwoRealContinuousDecodeEvent → TwoRealContinuousDecodeRuntime × DecodedCache
  | .decoded output =>
    let key := output.metadata.key
    let (continuousKeyOrder, continuousDecodedKeys, cache) :=
      dropOldestDecoded (runtime.continuousKeyOrder ++ [key]) (insert key runtime.continuousDecodedKeys)
        (cache.insert key output.frame)
    ({ runtime with
       latestDecodedFrameId := some output.metadata.frameId, continuousKeyOrder, continuousDecodedKeys },
      cache)
  | .runtimeError reason => (runtime.disable reason, cache)

def applyEvents (runtime : TwoRealContinuousDecodeRuntime) (cache : DecodedCache)
    (events : List TwoRealContinuousDecodeEvent) : TwoRealContinuousDecodeRuntime × DecodedCache :=
  events.foldl (fun state event => state.1.applyEvent state.2 event) (runtime, cache)

def drainOutputs (runtime : TwoRealContinuousDecodeRuntime) (cache : DecodedCache) :
    TwoRealContinuousDecodeRuntime × DecodedCache :=
  match runtime.session with
  | none => (runtime, cache)
  | some session =>
    let (events, session) := session.takeEvents
    { runtime with session := some session }.applyEvents cache events

/-- The threads go on until the next action of the main loop. -/
def advance (pictures : DecoderPictures) (runtime : TwoRealContinuousDecodeRuntime)
    (steps : List ThreadStep) : TwoRealContinuousDecodeRuntime :=
  { runtime with session := runtime.session.map fun session => session.advance pictures steps }

/-- The session that the runtime started, running or stopped. -/
def startedSession (runtime : TwoRealContinuousDecodeRuntime) : Option TwoRealContinuousDecodeSession :=
  runtime.session.or runtime.stoppedSession

end TwoRealContinuousDecodeRuntime

end StreamSync
