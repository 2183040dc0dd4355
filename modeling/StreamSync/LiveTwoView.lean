import StreamSync.JitterBuffer
import StreamSync.SenderRegistry
import StreamSync.SwitcherTypes

namespace StreamSync

inductive SwitcherLiveTwoViewQueueSourceItem where
  | acceptedVideoFrame (packet : ServerRegisteredVideoFramePacket) (queuedAt : TimestampMicros)
  | rejectedVideoFrame (clientId : ClientId) (reason : PacketAcceptanceRejectReason)
  | protocolDecodeFailed (source : Option PacketSource) (message : String)
  | receiveFailed (message : String)
  | nonVideoPacket (messageType : MessageType)
  | timeout
  | endOfInput
deriving DecidableEq

/-- An implementation of the trait `SwitcherLiveTwoViewQueueSource`, by its one method. -/
abbrev LiveTwoViewQueueSource (σ : Type) := σ → SwitcherLiveTwoViewQueueSourceItem × σ

structure SwitcherLiveTwoViewRuntimePolicy where
  maxPackets : Nat
  currentSwitcherTime : TimestampMicros
  selection : SwitcherTwoViewTargetTimeSelectionPolicy
  queue : ServerVideoFrameQueuePolicy
deriving DecidableEq

/-- What the ingestion loop of `run_once` keeps: the queue and its counters. -/
structure LiveIngest where
  queueState : ServerVideoFrameQueueState
  packetsObserved : Nat
  acceptedFrames : Nat
  rejectedFrames : Nat
  protocolDecodeFailures : Nat
  receiveFailures : Nat
  nonVideoPackets : Nat
  timeouts : Nat
  ended : Bool
deriving DecidableEq

namespace LiveIngest

def start : LiveIngest := ⟨.empty, 0, 0, 0, 0, 0, 0, 0, false⟩

def isStored : ServerVideoFrameQueueStorageResult → Bool
  | .stored .. => true
  | .dropped .. => false

def observe (policy : ServerVideoFrameQueuePolicy) (ingest : LiveIngest) :
    SwitcherLiveTwoViewQueueSourceItem → LiveIngest
  | .acceptedVideoFrame packet queuedAt =>
    let (queueState, result) := storeFrame ingest.queueState (prepareVideoFrameInput packet) queuedAt policy
    { ingest with
      queueState
      packetsObserved := ingest.packetsObserved + 1
      acceptedFrames := if isStored result then ingest.acceptedFrames + 1 else ingest.acceptedFrames }
  | .rejectedVideoFrame _ _ =>
    { ingest with
      packetsObserved := ingest.packetsObserved + 1, rejectedFrames := ingest.rejectedFrames + 1 }
  | .protocolDecodeFailed _ _ =>
    { ingest with
      packetsObserved := ingest.packetsObserved + 1
      protocolDecodeFailures := ingest.protocolDecodeFailures + 1 }
  | .receiveFailed _ => { ingest with receiveFailures := ingest.receiveFailures + 1 }
  | .nonVideoPacket _ =>
    { ingest with
      packetsObserved := ingest.packetsObserved + 1, nonVideoPackets := ingest.nonVideoPackets + 1 }
  | .timeout =>
    { ingest with packetsObserved := ingest.packetsObserved + 1, timeouts := ingest.timeouts + 1 }
  | .endOfInput => { ingest with ended := true }

end LiveIngest

section

variable {σ : Type} (receiveNext : LiveTwoViewQueueSource σ)

/-- The loop over at most `max_packets` items, left at the end of the input. -/
def ingestPackets (policy : ServerVideoFrameQueuePolicy) : Nat → LiveIngest → σ → LiveIngest × σ
  | 0, ingest, source => (ingest, source)
  | maxPackets + 1, ingest, source =>
    let (item, source) := receiveNext source
    let ingest := ingest.observe policy item
    if ingest.ended then (ingest, source) else ingestPackets policy maxPackets ingest source

end

structure SwitcherLiveTwoViewQueueSummary where
  packetsObserved : Nat
  acceptedFrames : Nat
  rejectedFrames : Nat
  protocolDecodeFailures : Nat
  receiveFailures : Nat
  nonVideoPackets : Nat
  timeouts : Nat
  ended : Bool
  stoppedByGuard : Bool
  queuedLeft : Nat
  queuedRight : Nat
  totalQueued : Nat
deriving DecidableEq

def LiveIngest.summary (ingest : LiveIngest) (maxPackets : Nat) (leftClientId rightClientId : ClientId) :
    SwitcherLiveTwoViewQueueSummary where
  packetsObserved := ingest.packetsObserved
  acceptedFrames := ingest.acceptedFrames
  rejectedFrames := ingest.rejectedFrames
  protocolDecodeFailures := ingest.protocolDecodeFailures
  receiveFailures := ingest.receiveFailures
  nonVideoPackets := ingest.nonVideoPackets
  timeouts := ingest.timeouts
  ended := ingest.ended
  stoppedByGuard := !ingest.ended && maxPackets ≤ ingest.packetsObserved
  queuedLeft := ingest.queueState.clientQueueLen leftClientId
  queuedRight := ingest.queueState.clientQueueLen rightClientId
  totalQueued := ingest.queueState.totalLen

inductive SwitcherLiveTwoViewSidePipelineStatus where
  | decoded (selected : SwitcherJitterBufferSelectedFrame) (frame : SwitcherDecodedFrame)
  | selectionUnavailable (selection : SwitcherJitterBufferSelectionResult)
  | decodeDeferred (selected : SwitcherJitterBufferSelectedFrame) (reason : SwitcherH264DecodeDeferredReason)
  | decodeFailed (selected : SwitcherJitterBufferSelectedFrame) (failure : SwitcherH264DecodeFailure)
deriving DecidableEq

/-- The selection a side's status was made from. -/
def SwitcherLiveTwoViewSidePipelineStatus.selection :
    SwitcherLiveTwoViewSidePipelineStatus → SwitcherJitterBufferSelectionResult
  | .decoded selected _ => .selected selected
  | .selectionUnavailable selection => selection
  | .decodeDeferred selected _ => .selected selected
  | .decodeFailed selected _ => .selected selected

def SwitcherLiveTwoViewSidePipelineStatus.isDecodeFailed : SwitcherLiveTwoViewSidePipelineStatus → Bool
  | .decodeFailed .. => true
  | _ => false

inductive SwitcherLiveTwoViewCompositionKind where
  | both | leftOnly | rightOnly | empty
deriving DecidableEq, Repr

inductive SwitcherLiveTwoViewRenderedKind where
  | both | leftOnly | rightOnly
deriving DecidableEq, Repr

structure SwitcherLiveTwoViewPipelineSummary where
  sharedTargetTime : TimestampMicros
  left : SwitcherLiveTwoViewSidePipelineStatus
  right : SwitcherLiveTwoViewSidePipelineStatus
  compositionKind : SwitcherLiveTwoViewCompositionKind
deriving DecidableEq

/-- How a pipeline pass ended, without the data each end carries beside the summary. -/
inductive SwitcherLiveTwoViewPipelineEnd where
  | rendered (kind : SwitcherLiveTwoViewRenderedKind)
  | noFrames | compositionInvalid | renderDeferred | backendUnavailable | invalidComposedFrame | renderFailed
deriving DecidableEq, Repr

structure SwitcherLiveTwoViewPipelineResult where
  summary : SwitcherLiveTwoViewPipelineSummary
  pipelineEnd : SwitcherLiveTwoViewPipelineEnd
deriving DecidableEq

structure SwitcherLiveTwoViewRuntimeResult where
  queueState : ServerVideoFrameQueueState
  queue : SwitcherLiveTwoViewQueueSummary
  pipeline : SwitcherLiveTwoViewPipelineResult

/-- The runtimes behind the selection: a decoder, and composition with rendering as one function of the
two sides. -/
structure LiveTwoViewRuntimes (δ : Type) where
  decode : H264DecodeRuntime δ
  present : SwitcherLiveTwoViewSidePipelineStatus → SwitcherLiveTwoViewSidePipelineStatus → δ →
    (SwitcherLiveTwoViewCompositionKind × SwitcherLiveTwoViewPipelineEnd) × δ

section

variable {σ δ : Type} (receiveNext : LiveTwoViewQueueSource σ) (runtimes : LiveTwoViewRuntimes δ)

def decodeLiveSide (selection : SwitcherJitterBufferSelectionResult) (runtime : δ) :
    SwitcherLiveTwoViewSidePipelineStatus × δ :=
  match selection with
  | .selected selected =>
    match runtimes.decode ⟨selected.frame.encodedPayload, selected.frame.width, selected.frame.height,
      false, none, none⟩ runtime with
    | (.decoded frame, runtime) => (.decoded selected frame, runtime)
    | (.deferred reason, runtime) => (.decodeDeferred selected reason, runtime)
    | (.failed failure, runtime) => (.decodeFailed selected failure, runtime)
  | selection => (.selectionUnavailable selection, runtime)

def runPipelineOnce (queueState : ServerVideoFrameQueueState) (leftClientId rightClientId : ClientId)
    (policy : SwitcherLiveTwoViewRuntimePolicy) (runtime : δ) :
    SwitcherLiveTwoViewPipelineResult × δ :=
  let selection := selectPair ⟨queueState, leftClientId, rightClientId, policy.currentSwitcherTime,
    policy.selection⟩
  let (sharedTargetTime, leftSelection, rightSelection) := twoViewSelectionSides selection
  let (left, runtime) := decodeLiveSide runtimes leftSelection runtime
  let (right, runtime) := decodeLiveSide runtimes rightSelection runtime
  let ((compositionKind, pipelineEnd), runtime) := runtimes.present left right runtime
  (⟨⟨sharedTargetTime, left, right, compositionKind⟩, pipelineEnd⟩, runtime)

/-- `SwitcherLiveTwoViewRuntimeBoundary::run_once`: the queue starts empty on every call. -/
def runOnce (leftClientId rightClientId : ClientId) (policy : SwitcherLiveTwoViewRuntimePolicy)
    (source : σ) (runtime : δ) : SwitcherLiveTwoViewRuntimeResult × σ × δ :=
  let (ingest, source) := ingestPackets receiveNext policy.queue policy.maxPackets .start source
  let (pipeline, runtime) :=
    runPipelineOnce runtimes ingest.queueState leftClientId rightClientId policy runtime
  (⟨ingest.queueState, ingest.summary policy.maxPackets leftClientId rightClientId, pipeline⟩, source,
    runtime)

end

structure SwitcherContinuousTwoViewSchedulingPolicy where
  maxTicks : Nat
  maxRenderedFrames : Nat
  tickIntervalMicros : UInt64
  liveRuntime : SwitcherLiveTwoViewRuntimePolicy
deriving DecidableEq

inductive SwitcherContinuousTwoViewTickOutcome where
  | renderedBoth | renderedPartial | noFrames | decodeFailed | renderNotCompleted
deriving DecidableEq, Repr

structure SwitcherContinuousTwoViewSchedulingTick where
  tick : Nat
  currentSwitcherTime : TimestampMicros
  outcome : SwitcherContinuousTwoViewTickOutcome
  sourceEnded : Bool
  runtime : SwitcherLiveTwoViewRuntimeResult

structure SwitcherContinuousTwoViewSchedulingSummary where
  ticksProcessed : Nat
  renderedFrames : Nat
  renderedBoth : Nat
  renderedPartial : Nat
  noFrameTicks : Nat
  decodeFailedTicks : Nat
  renderNotCompletedTicks : Nat
  sourceEndTick : Option Nat
  liveGuardStopTicks : Nat
deriving DecidableEq

def SwitcherContinuousTwoViewSchedulingSummary.default : SwitcherContinuousTwoViewSchedulingSummary :=
  ⟨0, 0, 0, 0, 0, 0, 0, none, 0⟩

inductive SwitcherContinuousTwoViewSchedulingStopReason where
  | maxTicksReached | maxRenderedFramesReached | sourceEnded
deriving DecidableEq, Repr

structure SwitcherContinuousTwoViewSchedulingResult where
  ticks : List SwitcherContinuousTwoViewSchedulingTick
  summary : SwitcherContinuousTwoViewSchedulingSummary
  stopReason : SwitcherContinuousTwoViewSchedulingStopReason

def liveSummaryHasDecodeFailure (summary : SwitcherLiveTwoViewPipelineSummary) : Bool :=
  summary.left.isDecodeFailed || summary.right.isDecodeFailed

def continuousTwoViewTickOutcome (pipeline : SwitcherLiveTwoViewPipelineResult) :
    SwitcherContinuousTwoViewTickOutcome :=
  if liveSummaryHasDecodeFailure pipeline.summary then .decodeFailed
  else
    match pipeline.pipelineEnd with
    | .rendered .both => .renderedBoth
    | .rendered .leftOnly => .renderedPartial
    | .rendered .rightOnly => .renderedPartial
    | .noFrames => .noFrames
    | .compositionInvalid => .noFrames
    | .renderDeferred => .renderNotCompleted
    | .backendUnavailable => .renderNotCompleted
    | .invalidComposedFrame => .renderNotCompleted
    | .renderFailed => .renderNotCompleted

namespace SwitcherContinuousTwoViewSchedulingSummary

def countOutcome (summary : SwitcherContinuousTwoViewSchedulingSummary) :
    SwitcherContinuousTwoViewTickOutcome → SwitcherContinuousTwoViewSchedulingSummary
  | .renderedBoth =>
    { summary with
      renderedFrames := summary.renderedFrames + 1, renderedBoth := summary.renderedBoth + 1 }
  | .renderedPartial =>
    { summary with
      renderedFrames := summary.renderedFrames + 1, renderedPartial := summary.renderedPartial + 1 }
  | .noFrames => { summary with noFrameTicks := summary.noFrameTicks + 1 }
  | .decodeFailed => { summary with decodeFailedTicks := summary.decodeFailedTicks + 1 }
  | .renderNotCompleted =>
    { summary with renderNotCompletedTicks := summary.renderNotCompletedTicks + 1 }

/-- The counters after one tick. -/
def countTick (summary : SwitcherContinuousTwoViewSchedulingSummary)
    (tick : SwitcherContinuousTwoViewSchedulingTick) : SwitcherContinuousTwoViewSchedulingSummary :=
  let counted := summary.countOutcome tick.outcome
  { counted with
    ticksProcessed := summary.ticksProcessed + 1
    liveGuardStopTicks :=
      if tick.runtime.queue.stoppedByGuard then summary.liveGuardStopTicks + 1
      else summary.liveGuardStopTicks
    sourceEndTick :=
      if tick.sourceEnded then summary.sourceEndTick.or (some tick.tick) else summary.sourceEndTick }

end SwitcherContinuousTwoViewSchedulingSummary

namespace SwitcherContinuousTwoViewScheduling

variable {σ δ : Type} (receiveNext : LiveTwoViewQueueSource σ) (runtimes : LiveTwoViewRuntimes δ)
  (leftClientId rightClientId : ClientId) (policy : SwitcherContinuousTwoViewSchedulingPolicy)

def tickTime (tick : Nat) : TimestampMicros :=
  policy.liveRuntime.currentSwitcherTime + policy.tickIntervalMicros * UInt64.ofNat tick

def runTick (tick : Nat) (source : σ) (runtime : δ) :
    SwitcherContinuousTwoViewSchedulingTick × σ × δ :=
  let currentSwitcherTime := tickTime policy tick
  let (result, source, runtime) := runOnce receiveNext runtimes leftClientId rightClientId
    { policy.liveRuntime with currentSwitcherTime } source runtime
  (⟨tick, currentSwitcherTime, continuousTwoViewTickOutcome result.pipeline, result.queue.ended, result⟩,
    source, runtime)

def stopAfterTicks (summary : SwitcherContinuousTwoViewSchedulingSummary) :
    SwitcherContinuousTwoViewSchedulingStopReason :=
  if policy.maxRenderedFrames ≤ summary.renderedFrames then .maxRenderedFramesReached
  else .maxTicksReached

/-- The loop of `run_with_runtimes` from a tick on, with the ticks still allowed. -/
def runFrom : Nat → Nat → SwitcherContinuousTwoViewSchedulingSummary → σ → δ →
    SwitcherContinuousTwoViewSchedulingResult
  | 0, _, summary, _, _ => ⟨[], summary, stopAfterTicks policy summary⟩
  | remaining + 1, tick, summary, source, runtime =>
    if policy.maxRenderedFrames ≤ summary.renderedFrames then
      ⟨[], summary, .maxRenderedFramesReached⟩
    else
      let (here, source, runtime) :=
        runTick receiveNext runtimes leftClientId rightClientId policy tick source runtime
      let summary := summary.countTick here
      if here.sourceEnded then ⟨[here], summary, .sourceEnded⟩
      else
        let later := runFrom remaining (tick + 1) summary source runtime
        { later with ticks := here :: later.ticks }

/-- `SwitcherContinuousTwoViewSchedulingBoundary::run_with_runtimes`. -/
def runWithRuntimes (source : σ) (runtime : δ) : SwitcherContinuousTwoViewSchedulingResult :=
  runFrom receiveNext runtimes leftClientId rightClientId policy policy.maxTicks 0 .default source runtime

end SwitcherContinuousTwoViewScheduling

end StreamSync
