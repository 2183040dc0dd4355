import StreamSync.Lib.Table
import StreamSync.ServerRuntime
import StreamSync.VideoQueueRuns

namespace StreamSync

open KeyedTable Saturating Tally

structure ServerReceiveAuthVideoQueueOnceManualPolicy where
  maxVideoPackets : Nat
  /-- It is a `usize`. -/
  maxVideoPackets_le : maxVideoPackets ≤ usizeMax
  expectedReassembledFrames : UInt64
  stopAfterExpectedReassembledFrames : Bool
  expectedReassembledClients : UInt64
  expectedReassembledFramesPerClient : UInt64
deriving DecidableEq, Repr

namespace ServerReceiveAuthVideoQueueOnceManualPolicy

def default : ServerReceiveAuthVideoQueueOnceManualPolicy := ⟨4096, by decide, 1, true, 0, 0⟩

def expectedReassembledFramesEnabled (policy : ServerReceiveAuthVideoQueueOnceManualPolicy) : Bool :=
  policy.stopAfterExpectedReassembledFrames && 0 < policy.expectedReassembledFrames

def expectedReassembledClientsEnabled (policy : ServerReceiveAuthVideoQueueOnceManualPolicy) : Bool :=
  0 < policy.expectedReassembledClients

end ServerReceiveAuthVideoQueueOnceManualPolicy

inductive ServerReceiveAuthVideoQueueStopReason where
  | directFrameQueued | reassembledFramesThresholdReached | clientAwareThresholdReached
  | reassembledFramesAndClientAwareThresholdReached | receiveTimedOut | maxVideoPacketsReached
deriving DecidableEq, Repr

structure ServerVideoFrameReassemblyFrameProgress where
  key : ServerVideoFrameReassemblyKey
  fragmentsReceived : Nat
  fragmentsExpected : Nat
  fragmentsMissing : Nat
deriving DecidableEq, Repr

def ServerVideoFrameReassemblyState.trackedFrameCount (state : ServerVideoFrameReassemblyState) : Nat :=
  state.frames.size

def ServerVideoFrameReassemblyState.frameProgress (state : ServerVideoFrameReassemblyState) :
    List ServerVideoFrameReassemblyFrameProgress :=
  state.frames.toList.map fun entry =>
    ⟨entry.1, entry.2.fragmentsReceived, entry.2.chunkCount.toNat, entry.2.missingChunks.length⟩

structure ServerReceiveAuthVideoQueueOnceVideoSummary where
  packetsReceived : UInt64
  fragmentsReceived : UInt64
  framesReassembled : UInt64
  framesQueued : UInt64
  directFramesQueued : UInt64
  keyframesReceived : UInt64
  keyframesQueued : UInt64
  rejectedPackets : UInt64
  rejectedFragments : UInt64
  duplicateFragments : UInt64
  nonVideoPackets : UInt64
  incompleteReassemblyFrames : Nat
  queueLen : Nat
  incompleteFrameProgress : List ServerVideoFrameReassemblyFrameProgress
  observedQueuedClients : Nat
  observedReassembledClients : Nat
  perClientQueuedFrames : Table String UInt64
  perClientKeyframesQueued : Table String UInt64
  perClientDirectFrames : Table String UInt64
  perClientReassembledFrames : Table String UInt64
  firstKeyframeFrameId : Option UInt64
  lastKeyframeFrameId : Option UInt64
  receiveTimedOut : Bool
  maxPacketsReached : Bool
  stopReason : Option ServerReceiveAuthVideoQueueStopReason

abbrev VideoSummary := ServerReceiveAuthVideoQueueOnceVideoSummary

namespace ServerReceiveAuthVideoQueueOnceVideoSummary

def default : VideoSummary where
  packetsReceived := 0
  fragmentsReceived := 0
  framesReassembled := 0
  framesQueued := 0
  directFramesQueued := 0
  keyframesReceived := 0
  keyframesQueued := 0
  rejectedPackets := 0
  rejectedFragments := 0
  duplicateFragments := 0
  nonVideoPackets := 0
  incompleteReassemblyFrames := 0
  queueLen := 0
  incompleteFrameProgress := []
  observedQueuedClients := 0
  observedReassembledClients := 0
  perClientQueuedFrames := ∅
  perClientKeyframesQueued := ∅
  perClientDirectFrames := ∅
  perClientReassembledFrames := ∅
  firstKeyframeFrameId := none
  lastKeyframeFrameId := none
  receiveTimedOut := false
  maxPacketsReached := false
  stopReason := none

section Record

variable (summary : VideoSummary) (clientId : ClientId) (runId : RunId)

def recordReassembledFrameProgress : VideoSummary :=
  let counts := bump summary.perClientReassembledFrames (clientRunScopeKey clientId runId)
  { summary with perClientReassembledFrames := counts, observedReassembledClients := counts.size }

def recordQueuedFrameProgress : VideoSummary :=
  let counts := bump summary.perClientQueuedFrames (clientRunScopeKey clientId runId)
  { summary with perClientQueuedFrames := counts, observedQueuedClients := counts.size }

def recordDirectFrameProgress : VideoSummary :=
  recordQueuedFrameProgress
    { summary with
      perClientDirectFrames := bump summary.perClientDirectFrames (clientRunScopeKey clientId runId) }
    clientId runId

def recordKeyframeReceivedProgress : VideoSummary :=
  { summary with keyframesReceived := saturatingAdd summary.keyframesReceived 1 }

def recordKeyframeQueuedProgress (frameId : UInt64) : VideoSummary :=
  { summary with
    keyframesQueued := saturatingAdd summary.keyframesQueued 1
    perClientKeyframesQueued := bump summary.perClientKeyframesQueued (clientRunScopeKey clientId runId)
    firstKeyframeFrameId := summary.firstKeyframeFrameId.or (some frameId)
    lastKeyframeFrameId := some frameId }

def recordPacketReceived : VideoSummary :=
  { summary with packetsReceived := saturatingAdd summary.packetsReceived 1 }

def recordNonVideo : VideoSummary :=
  { summary with nonVideoPackets := saturatingAdd summary.nonVideoPackets 1 }

def recordFragmentReceived : VideoSummary :=
  { summary with fragmentsReceived := saturatingAdd summary.fragmentsReceived 1 }

/-- A packet that the gate rejects; a fragment of an unknown sender counts as a rejected fragment too. -/
def recordRejection (rejection : ServerReceiveLoopGateRejection) : VideoSummary :=
  let summary := { summary with rejectedPackets := saturatingAdd summary.rejectedPackets 1 }
  match rejection with
  | .acceptance acceptance =>
    if acceptance.messageType = .videoFrameFragment then
      { summary with rejectedFragments := saturatingAdd summary.rejectedFragments 1 }
    else summary
  | .decode _ => summary

/-- A frame of one datagram, with what became of it in the queue. -/
def recordDirectFrame (frame : VideoFrame) (queue : ServerVideoFrameQueueStorageResult) : VideoSummary :=
  let summary := if frame.isKeyframe then summary.recordKeyframeReceivedProgress else summary
  match queue with
  | .stored .. =>
    let summary := { summary with
      directFramesQueued := saturatingAdd summary.directFramesQueued 1
      framesQueued := saturatingAdd summary.framesQueued 1 }
    let summary := summary.recordDirectFrameProgress frame.clientId frame.runId
    if frame.isKeyframe then
      summary.recordKeyframeQueuedProgress frame.clientId frame.runId frame.frameId
    else summary
  | .dropped .. => summary

/-- A frame whose last fragment came, with what became of it in the queue. -/
def recordReassembledFrame (frame : VideoFrame) (queueResult : ServerVideoFrameQueueStorageResult) :
    VideoSummary :=
  let summary := if frame.isKeyframe then summary.recordKeyframeReceivedProgress else summary
  let summary := { summary with framesReassembled := saturatingAdd summary.framesReassembled 1 }
  let summary := summary.recordReassembledFrameProgress frame.clientId frame.runId
  match queueResult with
  | .stored .. =>
    let summary := { summary with framesQueued := saturatingAdd summary.framesQueued 1 }
    let summary := summary.recordQueuedFrameProgress frame.clientId frame.runId
    if frame.isKeyframe then
      summary.recordKeyframeQueuedProgress frame.clientId frame.runId frame.frameId
    else summary
  | .dropped .. => summary

/-- A fragment of a registered sender, with what the reassembly made of it. -/
def recordFragment (result : ServerVideoFrameReassemblyApplyResult) : VideoSummary :=
  let summary := summary.recordFragmentReceived
  match result with
  | .fragmentStored _ => summary
  | .duplicateFragmentIgnored _ =>
    { summary with duplicateFragments := saturatingAdd summary.duplicateFragments 1 }
  | .rejectedFragment _ =>
    { summary with rejectedFragments := saturatingAdd summary.rejectedFragments 1 }
  | .frameComplete _ frame queueResult => summary.recordReassembledFrame frame queueResult

/-- `finalize_auth_video_queue_summary`. -/
def finalize (reassembly : ServerVideoFrameReassemblyState) (videoQueue : ServerVideoFrameQueueState) :
    VideoSummary :=
  { summary with
    incompleteReassemblyFrames := reassembly.trackedFrameCount
    incompleteFrameProgress := reassembly.frameProgress
    queueLen := videoQueue.totalLen }

end Record

end ServerReceiveAuthVideoQueueOnceVideoSummary

/-- `process_received_packet_for_video_queue`, with the summary that it keeps. -/
def processReceivedPacketWithSummary (config : ServerRuntimeConfig) (io : ServerIo) (state : ServerState)
    (summary : VideoSummary) (source : PacketSource) (bytes : List UInt8) (queuedAt : TimestampMicros) :
    ServerState × VideoSummary × Except ServerReceiveError (Option ServerVideoFrameQueueStorageResult) :=
  let summary := summary.recordPacketReceived
  match handleReceivedPacketWithGate config.expectedProtocolVersion state.registry source bytes with
  | .error rejection => (state, summary.recordRejection rejection, .ok none)
  | .ok (.authRequest source request) =>
    let result := handleAuthRoute config io state.registry source request
    ({ state with registry := result.1 }, summary, (result.2.mapError .auth).map fun _ => none)
  | .ok (.videoFrame source frame) =>
    match prepareForHandler state.registry (.videoFrame source frame) with
    | .error error => (state, summary, .error (.registered error))
    | .ok (.videoFrame packet) =>
      let stored := storeFrame state.videoQueue (prepareVideoFrameInput packet) queuedAt .default
      ({ state with videoQueue := stored.1 }, summary.recordDirectFrame packet.frame stored.2,
        .ok (some stored.2))
    | .ok _ => (state, summary.recordNonVideo, .ok none)
  | .ok (.videoFrameFragment source fragment) =>
    match prepareForHandler state.registry (.videoFrameFragment source fragment) with
    | .error error => (state, summary, .error (.registered error))
    | .ok (.videoFrameFragment packet) =>
      let result := applyFragmentAndQueueIfComplete state.reassembly state.videoQueue packet queuedAt
        .default
      let queued :=
        match result.2.2 with
        | .frameComplete _ _ queueResult => some queueResult
        | _ => none
      ({ state with reassembly := result.1, videoQueue := result.2.1 },
        summary.recordFragment result.2.2, .ok queued)
    | .ok _ => (state, summary.recordNonVideo, .ok none)
  | .ok _ => (state, summary.recordNonVideo, .ok none)

section StopReason

variable (policy : ServerReceiveAuthVideoQueueOnceManualPolicy) (summary : VideoSummary)

def clientAwareThresholdMet : Bool :=
  if summary.observedQueuedClients < policy.expectedReassembledClients.toNat then false
  else if policy.expectedReassembledFramesPerClient = 0 then true
  else
    policy.expectedReassembledClients.toNat ≤
      (summary.perClientQueuedFrames.values.filter fun count =>
        policy.expectedReassembledFramesPerClient ≤ count).length

def evaluateReassembledStopReason : Option ServerReceiveAuthVideoQueueStopReason :=
  let frameThresholdEnabled := policy.expectedReassembledFramesEnabled
  let clientAwareEnabled := policy.expectedReassembledClientsEnabled
  if !frameThresholdEnabled && !clientAwareEnabled then none
  else
    let frameThresholdMet :=
      !frameThresholdEnabled || policy.expectedReassembledFrames ≤ summary.framesQueued
    let clientAwareMet := !clientAwareEnabled || clientAwareThresholdMet policy summary
    if !(frameThresholdMet && clientAwareMet) then none
    else
      match frameThresholdEnabled, clientAwareEnabled with
      | true, true => some .reassembledFramesAndClientAwareThresholdReached
      | true, false => some .reassembledFramesThresholdReached
      | false, true => some .clientAwareThresholdReached
      | false, false => some .reassembledFramesThresholdReached

end StopReason

/-- One reading of the socket, with what the outside does while its datagram is processed. -/
structure ReceiveTurn where
  received : Except IoErrorKind (PacketSource × List UInt8)
  io : ServerIo
  queuedAt : TimestampMicros

/-- `ServerReceiveAuthVideoQueueOnceStartupError`, of the calls that are modelled. -/
inductive ServerReceiveAuthVideoQueueOnceStartupError where
  | packet (error : ServerReceiveError)
  | videoReceive (kind : IoErrorKind)
deriving DecidableEq

/-- The variables of the receive loop. -/
structure VideoReceiveLoop where
  state : ServerState
  summary : VideoSummary
  lastQueue : Option ServerVideoFrameQueueStorageResult

/-- `ServerReceiveAuthVideoQueueOnceVideoOutcome::Received`, with the states that the caller owns. -/
structure VideoReceiveOutcome where
  state : ServerState
  summary : VideoSummary
  queue : Option ServerVideoFrameQueueStorageResult

def VideoReceiveLoop.finish (loop : VideoReceiveLoop)
    (reason : ServerReceiveAuthVideoQueueStopReason) : VideoReceiveOutcome where
  state := loop.state
  summary := { loop.summary with stopReason := some reason }.finalize loop.state.reassembly
    loop.state.videoQueue
  queue := loop.lastQueue

def isReceiveTimeout : IoErrorKind → Bool
  | .wouldBlock => true
  | .timedOut => true
  | .other _ => false

/-- One turn of the loop: it goes on, it is over, or it fails. -/
def VideoReceiveLoop.turn (config : ServerRuntimeConfig)
    (policy : ServerReceiveAuthVideoQueueOnceManualPolicy) (loop : VideoReceiveLoop) (turn : ReceiveTurn) :
    Except ServerReceiveAuthVideoQueueOnceStartupError (VideoReceiveLoop ⊕ VideoReceiveOutcome) :=
  match turn.received with
  | .error kind =>
    if isReceiveTimeout kind then
      .ok (.inr ({ loop with summary := { loop.summary with receiveTimedOut := true } }.finish
        .receiveTimedOut))
    else .error (.videoReceive kind)
  | .ok (source, bytes) =>
    match processReceivedPacketWithSummary config turn.io loop.state loop.summary source bytes
      turn.queuedAt with
    | (_, _, .error error) => .error (.packet error)
    | (state, summary, .ok queue) =>
      let loop : VideoReceiveLoop :=
        ⟨state, { summary with queueLen := state.videoQueue.totalLen }, queue.or loop.lastQueue⟩
      match evaluateReassembledStopReason policy loop.summary with
      | some reason => .ok (.inr (loop.finish reason))
      | none => .ok (.inl loop)

/-- `receive_video_packets_until_queued`, from a loop with that many turns left. The socket gives its
readings in the order of their numbers. -/
def receiveVideoPacketsUntilQueued (config : ServerRuntimeConfig)
    (policy : ServerReceiveAuthVideoQueueOnceManualPolicy) (turns : Nat → ReceiveTurn)
    (loop : VideoReceiveLoop) (index : Nat) :
    Nat → Except ServerReceiveAuthVideoQueueOnceStartupError VideoReceiveOutcome
  | 0 =>
    .ok ({ loop with summary := { loop.summary with maxPacketsReached := true } }.finish
      .maxVideoPacketsReached)
  | remaining + 1 =>
    match loop.turn config policy (turns index) with
    | .error error => .error error
    | .ok (.inr outcome) => .ok outcome
    | .ok (.inl loop) => receiveVideoPacketsUntilQueued config policy turns loop (index + 1) remaining

end StreamSync
