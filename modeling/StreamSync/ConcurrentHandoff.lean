import StreamSync.AuthVideoReceive
import StreamSync.ServerHandoff

namespace StreamSync

open Lanes

structure ServerReceiveAuthVideoQueueHandoffContinuousRuntimePolicy where
  receiveTimeout : Nat
  maxRuntimeDuration : Option Nat
  maxHandoffRequests : Option Nat
  maxVideoPackets : Option Nat
  expectedReassembledFrames : UInt64
  stopAfterExpectedReassembledFrames : Bool
  expectedReassembledClients : UInt64
  expectedReassembledFramesPerClient : UInt64
  maxHandoffRequests_le : maxHandoffRequests.getD usizeMax ≤ usizeMax
  maxVideoPackets_le : maxVideoPackets.getD usizeMax ≤ usizeMax

abbrev ConcurrentRuntimePolicy := ServerReceiveAuthVideoQueueHandoffContinuousRuntimePolicy

namespace ServerReceiveAuthVideoQueueHandoffContinuousRuntimePolicy

variable (policy : ConcurrentRuntimePolicy)

def receivePolicy : ServerReceiveAuthVideoQueueOnceManualPolicy where
  maxVideoPackets := policy.maxVideoPackets.getD usizeMax
  maxVideoPackets_le := policy.maxVideoPackets_le
  expectedReassembledFrames := policy.expectedReassembledFrames
  stopAfterExpectedReassembledFrames := policy.stopAfterExpectedReassembledFrames
  expectedReassembledClients := policy.expectedReassembledClients
  expectedReassembledFramesPerClient := policy.expectedReassembledFramesPerClient

def effectiveMaxHandoffRequests : Nat := policy.maxHandoffRequests.getD usizeMax

/-- The runtime has gone on for as long as it may. -/
def runtimeLimitReached (elapsed : Nat) : Bool := policy.maxRuntimeDuration.any (· ≤ elapsed)

def effectiveReceiveTimeout (elapsed : Nat) : Nat :=
  match policy.maxRuntimeDuration with
  | some limit => min policy.receiveTimeout (limit - elapsed)
  | none => policy.receiveTimeout

end ServerReceiveAuthVideoQueueHandoffContinuousRuntimePolicy

def usizeSaturatingAdd (a b : Nat) : Nat := min (a + b) usizeMax

structure ServerReceiveAuthVideoQueueHandoffContinuousHandoffSummary where
  handoffRequests : Nat
  frameReadCount : Nat
  noFrameCount : Nat
  decodableSourceNoneCount : Nat
  decodableSourceQueueCount : Nat
  decodableSourceRetainedKeyframeCount : Nat
  ioErrorCount : Nat
deriving DecidableEq, Repr

abbrev ConcurrentHandoffSummary := ServerReceiveAuthVideoQueueHandoffContinuousHandoffSummary

namespace ServerReceiveAuthVideoQueueHandoffContinuousHandoffSummary

def default : ConcurrentHandoffSummary := ⟨0, 0, 0, 0, 0, 0, 0⟩

/-- `record_concurrent_handoff_decodable_source`. -/
def recordDecodableSource (summary : ConcurrentHandoffSummary) :
    ServerSwitcherQueuedFrameDecodableSource → ConcurrentHandoffSummary
  | .none =>
    { summary with decodableSourceNoneCount := usizeSaturatingAdd summary.decodableSourceNoneCount 1 }
  | .queue =>
    { summary with decodableSourceQueueCount := usizeSaturatingAdd summary.decodableSourceQueueCount 1 }
  | .retainedKeyframe =>
    { summary with
      decodableSourceRetainedKeyframeCount :=
        usizeSaturatingAdd summary.decodableSourceRetainedKeyframeCount 1 }

/-- `record_concurrent_handoff_response_progress`. -/
def recordResponseProgress (summary : ConcurrentHandoffSummary)
    (response : ServerSwitcherQueuedFrameHandoffResponse) : ConcurrentHandoffSummary :=
  let summary := { summary with handoffRequests := usizeSaturatingAdd summary.handoffRequests 1 }
  match response with
  | .frameRead _ _ decodableSource _ _ _ =>
    { summary with frameReadCount := usizeSaturatingAdd summary.frameReadCount 1 }.recordDecodableSource
      decodableSource
  | .noFrame _ _ _ _ _ _ decodableSource _ _ =>
    { summary with noFrameCount := usizeSaturatingAdd summary.noFrameCount 1 }.recordDecodableSource
      decodableSource
  | .handoffError _ _ => summary

def recordIoErrors (summary : ConcurrentHandoffSummary) (count : Nat) : ConcurrentHandoffSummary :=
  { summary with ioErrorCount := usizeSaturatingAdd summary.ioErrorCount count }

end ServerReceiveAuthVideoQueueHandoffContinuousHandoffSummary

inductive ServerReceiveAuthVideoQueueHandoffContinuousReceiveStopReason where
  | stopRequested | receiveTimedOut | maxRuntimeDurationReached | maxVideoPacketsReached
  | reassembledFramesThresholdReached | clientAwareThresholdReached
  | reassembledFramesAndClientAwareThresholdReached
deriving DecidableEq, Repr

abbrev ConcurrentReceiveStopReason := ServerReceiveAuthVideoQueueHandoffContinuousReceiveStopReason

def mapConcurrentReceiveStopReason : ServerReceiveAuthVideoQueueStopReason → ConcurrentReceiveStopReason
  | .directFrameQueued => .reassembledFramesThresholdReached
  | .reassembledFramesThresholdReached => .reassembledFramesThresholdReached
  | .clientAwareThresholdReached => .clientAwareThresholdReached
  | .reassembledFramesAndClientAwareThresholdReached => .reassembledFramesAndClientAwareThresholdReached
  | .receiveTimedOut => .receiveTimedOut
  | .maxVideoPacketsReached => .maxVideoPacketsReached

inductive ServerSwitcherNamedPipeManyRequestStopReason where
  | maxRequestsReached | stopRequested | invalidPipeName | createPipe | connect | readRequest
  | decodeRequest | encodeResponse | writeResponse | flushResponse
deriving DecidableEq, Repr

abbrev HandoffStopReason := ServerSwitcherNamedPipeManyRequestStopReason

inductive ServerSwitcherNamedPipeOneRequestRuntimeError where
  | stopRequested
  | invalidPipeName
  | createPipe (error : IoErrorKind)
  | connect (error : IoErrorKind)
  | readRequest (error : IoErrorKind)
  | decodeRequest (error : ServerSwitcherQueuedFrameHandoffCodecError)
  | encodeResponse (error : ServerSwitcherQueuedFrameHandoffCodecError)
  | writeResponse (error : IoErrorKind)
  | flushResponse (error : IoErrorKind)
deriving DecidableEq, Repr

/-- `summarize_named_pipe_many_stop_reason`: the reason, the parse errors and the I/O errors. -/
def summarizeNamedPipeManyStopReason (parseErrorCount ioErrorCount : Nat) :
    ServerSwitcherNamedPipeOneRequestRuntimeError → HandoffStopReason × Nat × Nat
  | .stopRequested => (.stopRequested, parseErrorCount, ioErrorCount)
  | .invalidPipeName => (.invalidPipeName, parseErrorCount, ioErrorCount)
  | .createPipe _ => (.createPipe, parseErrorCount, usizeSaturatingAdd ioErrorCount 1)
  | .connect _ => (.connect, parseErrorCount, usizeSaturatingAdd ioErrorCount 1)
  | .readRequest _ => (.readRequest, parseErrorCount, usizeSaturatingAdd ioErrorCount 1)
  | .decodeRequest _ => (.decodeRequest, usizeSaturatingAdd parseErrorCount 1, ioErrorCount)
  | .encodeResponse _ => (.encodeResponse, parseErrorCount, ioErrorCount)
  | .writeResponse _ => (.writeResponse, parseErrorCount, usizeSaturatingAdd ioErrorCount 1)
  | .flushResponse _ => (.flushResponse, parseErrorCount, usizeSaturatingAdd ioErrorCount 1)

/-- `ServerReceiveAuthVideoQueueHandoffContinuousSharedState`: what the two threads take turns to lock. -/
structure ConcurrentSharedState where
  server : ServerState
  receiveSummary : VideoSummary
  handoffSummary : ConcurrentHandoffSummary

/-- `finalize_concurrent_receive_summary`. -/
def ConcurrentSharedState.finalizeReceiveSummary (shared : ConcurrentSharedState) : ConcurrentSharedState :=
  { shared with
    receiveSummary := shared.receiveSummary.finalize shared.server.reassembly shared.server.videoQueue }

/-- Where the receive thread is. -/
inductive ReceiveThread where
  | top
  | finalizing (reason : ConcurrentReceiveStopReason)
  | receiving
  /-- It is about to ask the handoff thread to stop. -/
  | shuttingDown (result : Except ServerReceiveAuthVideoQueueOnceStartupError ConcurrentReceiveStopReason)
  | done (result : Except ServerReceiveAuthVideoQueueOnceStartupError ConcurrentReceiveStopReason)

/-- Where the thread that serves the pipe is. -/
inductive HandoffThread where
  | top
  | accepting
  | connected
  | reading
  | serving (request : ServerSwitcherQueuedFrameHandoffRequest)
  | writing (request : ServerSwitcherQueuedFrameHandoffRequest)
      (response : ServerSwitcherQueuedFrameHandoffResponse)
  | failing (error : ServerSwitcherNamedPipeOneRequestRuntimeError)
  /-- Its loop is over, and the receive thread has not been asked to stop. -/
  | stopping (reason : HandoffStopReason)
  | done (reason : HandoffStopReason)
  | panicked (panic : HandoffLengthPanic)

/-- What the outside gives the receive thread at a step: the time since the start, the socket option and the
socket's reading. -/
structure ReceiveInput where
  elapsed : Nat
  setReadTimeout : Nat → Except IoErrorKind Unit
  turn : ReceiveTurn

/-- What the outside gives the handoff thread at a step: the pipe, the switcher that connects, its request,
and how the response goes out. -/
structure HandoffInput where
  create : Except IoErrorKind Unit
  connect : Except IoErrorKind Unit
  request : Except IoErrorKind (List UInt8)
  write : Except IoErrorKind Unit
  flush : Except IoErrorKind Unit

/-- One of the threads goes on by a step. -/
inductive RuntimeAction where
  | receive (input : ReceiveInput)
  | handoff (input : HandoffInput)

/-- What a step was, for an observer. -/
inductive RuntimeEvent where
  | idle
  | internal
  | received (source : PacketSource) (bytes : List UInt8) (queuedAt : TimestampMicros) (before : ServerState)
  | answered (request : ServerSwitcherQueuedFrameHandoffRequest)
      (response : ServerSwitcherQueuedFrameHandoffResponse) (before : ServerVideoFrameQueueState)
  | delivered (request : ServerSwitcherQueuedFrameHandoffRequest)
      (response : ServerSwitcherQueuedFrameHandoffResponse)

structure ConcurrentRuntime where
  shared : ConcurrentSharedState
  stopRequested : Bool
  receive : ReceiveThread
  handoff : HandoffThread
  requestsServed : Nat

namespace ConcurrentRuntime

/-- What `run_with_policy_and_ready` starts with, when its socket is bound. -/
def start : ConcurrentRuntime where
  shared := ⟨.empty, .default, .default⟩
  stopRequested := false
  receive := .top
  handoff := .top
  requestsServed := 0

section Step

variable (config : ServerRuntimeConfig) (policy : ConcurrentRuntimePolicy) (runtime : ConcurrentRuntime)

/-- The receive thread stops, with its summary finalized under the lock. -/
def stopReceive (shared : ConcurrentSharedState) (reason : ConcurrentReceiveStopReason) : ConcurrentRuntime :=
  { runtime with shared := shared.finalizeReceiveSummary, receive := .shuttingDown (.ok reason) }

/-- The part of the receive loop after its two checks. -/
def receiveTurn (input : ReceiveInput) : ConcurrentRuntime × RuntimeEvent :=
  match input.setReadTimeout (policy.effectiveReceiveTimeout input.elapsed) with
  | .error kind => ({ runtime with receive := .shuttingDown (.error (.videoReceive kind)) }, .internal)
  | .ok () =>
    match input.turn.received with
    | .error kind =>
      if isReceiveTimeout kind then
        if policy.runtimeLimitReached input.elapsed then
          (runtime.stopReceive runtime.shared .maxRuntimeDurationReached, .internal)
        else
          let receiveSummary : VideoSummary :=
            { runtime.shared.receiveSummary with
              receiveTimedOut := true, stopReason := some .receiveTimedOut }
          (runtime.stopReceive { runtime.shared with receiveSummary } .receiveTimedOut, .internal)
      else ({ runtime with receive := .shuttingDown (.error (.videoReceive kind)) }, .internal)
    | .ok (source, bytes) =>
      let event := RuntimeEvent.received source bytes input.turn.queuedAt runtime.shared.server
      match processReceivedPacketWithSummary config input.turn.io runtime.shared.server
        runtime.shared.receiveSummary source bytes input.turn.queuedAt with
      | (server, receiveSummary, .error error) =>
        ({ runtime with
           shared := { runtime.shared with server, receiveSummary }
           receive := .shuttingDown (.error (.packet error)) }, event)
      | (server, receiveSummary, .ok _) =>
        let receiveSummary := { receiveSummary with queueLen := server.videoQueue.totalLen }
        if policy.receivePolicy.maxVideoPackets ≠ usizeMax ∧
            policy.receivePolicy.maxVideoPackets ≤ receiveSummary.packetsReceived.toNat then
          let receiveSummary :=
            { receiveSummary with maxPacketsReached := true, stopReason := some .maxVideoPacketsReached }
          (runtime.stopReceive { runtime.shared with server, receiveSummary } .maxVideoPacketsReached, event)
        else
          match evaluateReassembledStopReason policy.receivePolicy receiveSummary with
          | some stopReason =>
            let receiveSummary := { receiveSummary with stopReason := some stopReason }
            (runtime.stopReceive { runtime.shared with server, receiveSummary }
              (mapConcurrentReceiveStopReason stopReason), event)
          | none =>
            ({ runtime with shared := { runtime.shared with server, receiveSummary }, receive := .top },
              event)

/-- `run_receive_loop_until_stopped`, by one step. -/
def receiveStep (input : ReceiveInput) : ConcurrentRuntime × RuntimeEvent :=
  match runtime.receive with
  | .top =>
    if runtime.stopRequested then ({ runtime with receive := .finalizing .stopRequested }, .internal)
    else if policy.runtimeLimitReached input.elapsed then
      ({ runtime with receive := .finalizing .maxRuntimeDurationReached }, .internal)
    else ({ runtime with receive := .receiving }, .internal)
  | .finalizing reason =>
    let receive : ReceiveThread :=
      if reason = .stopRequested then .done (.ok reason) else .shuttingDown (.ok reason)
    ({ runtime with shared := runtime.shared.finalizeReceiveSummary, receive }, .internal)
  | .receiving => runtime.receiveTurn config policy input
  | .shuttingDown result => ({ runtime with stopRequested := true, receive := .done result }, .internal)
  | .done _ => (runtime, .idle)

/-- `serve_many_shared_state` with `serve_once_shared_state`, by one step, and the request to stop that
`run_with_policy_and_ready` makes when it returns. -/
def handoffStep (input : HandoffInput) : ConcurrentRuntime × RuntimeEvent :=
  match runtime.handoff with
  | .top =>
    if runtime.stopRequested then ({ runtime with handoff := .stopping .stopRequested }, .internal)
    else if policy.effectiveMaxHandoffRequests ≤ runtime.requestsServed then
      ({ runtime with handoff := .stopping .maxRequestsReached }, .internal)
    else ({ runtime with handoff := .accepting }, .internal)
  | .accepting =>
    match input.create with
    | .error kind => ({ runtime with handoff := .failing (.createPipe kind) }, .internal)
    | .ok () =>
      match input.connect with
      | .error kind => ({ runtime with handoff := .failing (.connect kind) }, .internal)
      | .ok () => ({ runtime with handoff := .connected }, .internal)
  | .connected =>
    if runtime.stopRequested then ({ runtime with handoff := .failing .stopRequested }, .internal)
    else ({ runtime with handoff := .reading }, .internal)
  | .reading =>
    match input.request with
    | .error kind => ({ runtime with handoff := .failing (.readRequest kind) }, .internal)
    | .ok frame =>
      match decodeRequestFrame frame with
      | .error error => ({ runtime with handoff := .failing (.decodeRequest error) }, .internal)
      | .ok request => ({ runtime with handoff := .serving request }, .internal)
  | .serving request =>
    match handleRequest request runtime.shared.server.videoQueue with
    | .error panic => ({ runtime with handoff := .panicked panic }, .internal)
    | .ok (response, videoQueue) =>
      ({ runtime with
         shared :=
           { runtime.shared with
             server := { runtime.shared.server with videoQueue }
             handoffSummary := runtime.shared.handoffSummary.recordResponseProgress response }
         handoff := .writing request response },
        .answered request response runtime.shared.server.videoQueue)
  | .writing request response =>
    match encodeResponseFrame response with
    | .error error => ({ runtime with handoff := .failing (.encodeResponse error) }, .internal)
    | .ok _ =>
      match input.write with
      | .error kind => ({ runtime with handoff := .failing (.writeResponse kind) }, .internal)
      | .ok () =>
        match input.flush with
        | .error kind => ({ runtime with handoff := .failing (.flushResponse kind) }, .internal)
        | .ok () =>
          ({ runtime with handoff := .top, requestsServed := usizeSaturatingAdd runtime.requestsServed 1 },
            .delivered request response)
  | .failing error =>
    let (stopReason, _, ioErrorCount) := summarizeNamedPipeManyStopReason 0 0 error
    let handoffSummary :=
      if 0 < ioErrorCount then runtime.shared.handoffSummary.recordIoErrors ioErrorCount
      else runtime.shared.handoffSummary
    ({ runtime with shared := { runtime.shared with handoffSummary }, handoff := .stopping stopReason },
      .internal)
  | .stopping reason => ({ runtime with stopRequested := true, handoff := .done reason }, .internal)
  | .done _ => (runtime, .idle)
  | .panicked _ => (runtime, .idle)

def step : RuntimeAction → ConcurrentRuntime × RuntimeEvent
  | .receive input => runtime.receiveStep config policy input
  | .handoff input => runtime.handoffStep policy input

end Step

end ConcurrentRuntime

/-- `ServerReceiveAuthVideoQueueHandoffContinuousRuntimeStopReason`. -/
inductive ConcurrentRuntimeStopReason where
  | maxHandoffRequestsReached | receiveStopped | handoffStopped
deriving DecidableEq, Repr

def ServerVideoFrameQueueState.retainedKeyframeClients (state : ServerVideoFrameQueueState) : Nat :=
  state.retainedKeyframeByClientRun.size

structure ServerReceiveAuthVideoQueueHandoffContinuousRuntimeSummary where
  packetsReceived : UInt64
  framesQueued : UInt64
  perClientQueuedFrames : KeyedTable.Table String UInt64
  keyframesQueued : UInt64
  retainedKeyframeClients : Nat
  handoff : ConcurrentHandoffSummary
  stopReason : ConcurrentRuntimeStopReason
  receiveStopReason : ConcurrentReceiveStopReason
  handoffStopReason : HandoffStopReason

abbrev ConcurrentRuntimeSummary := ServerReceiveAuthVideoQueueHandoffContinuousRuntimeSummary

def runtimeStopReason (handoff : HandoffStopReason) (receive : ConcurrentReceiveStopReason) :
    ConcurrentRuntimeStopReason :=
  if handoff = .maxRequestsReached then .maxHandoffRequestsReached
  else if receive ≠ .stopRequested then .receiveStopped
  else .handoffStopped

/-- What `run_with_policy_and_ready` returns when both threads are done. -/
def ConcurrentRuntime.result (runtime : ConcurrentRuntime) :
    Option (Except ServerReceiveAuthVideoQueueOnceStartupError ConcurrentRuntimeSummary) :=
  match runtime.handoff, runtime.receive with
  | .done _, .done (.error error) => some (.error error)
  | .done handoffStopReason, .done (.ok receiveStopReason) =>
    some (.ok {
      packetsReceived := runtime.shared.receiveSummary.packetsReceived
      framesQueued := runtime.shared.receiveSummary.framesQueued
      perClientQueuedFrames := runtime.shared.receiveSummary.perClientQueuedFrames
      keyframesQueued := runtime.shared.receiveSummary.keyframesQueued
      retainedKeyframeClients := runtime.shared.server.videoQueue.retainedKeyframeClients
      handoff := runtime.shared.handoffSummary
      stopReason := runtimeStopReason handoffStopReason receiveStopReason
      receiveStopReason, handoffStopReason })
  | _, _ => none

end StreamSync
