import StreamSync.Lib.Table
import StreamSync.ServerTypes

namespace StreamSync

open KeyedTable

structure ServerVideoFrameQueuePolicy where
  maxFramesPerClient : Nat
deriving DecidableEq, Repr

def ServerVideoFrameQueuePolicy.default : ServerVideoFrameQueuePolicy := ⟨8⟩

structure ServerQueuedVideoFrame where
  source : PacketSource
  authenticatedSender : AuthenticatedSenderEntry
  frame : VideoFrame
  payloadLen : Nat
  queuedAt : TimestampMicros
deriving DecidableEq, Repr

/-- The frames of each client, oldest first, and the last keyframe under each scope key. -/
structure ServerVideoFrameQueueState where
  framesByClientId : Table String (List ServerQueuedVideoFrame)
  retainedKeyframeByClientRun : Table String ServerQueuedVideoFrame
deriving DecidableEq

def ServerVideoFrameQueueState.empty : ServerVideoFrameQueueState := ⟨∅, ∅⟩

def clientRunScopeKey (clientId : ClientId) (runId : RunId) : String := clientId ++ "/" ++ runId

namespace ServerVideoFrameQueueState

def framesForClient (state : ServerVideoFrameQueueState) (clientId : ClientId) :
    List ServerQueuedVideoFrame := state.framesByClientId[clientId]?.getD []

def clientQueueLen (state : ServerVideoFrameQueueState) (clientId : ClientId) : Nat :=
  (state.framesForClient clientId).length

def framesForClientRun (state : ServerVideoFrameQueueState) (clientId : ClientId) (runId : RunId) :
    List ServerQueuedVideoFrame :=
  (state.framesForClient clientId).filter fun queued => queued.frame.runId = runId

def retainedKeyframeForClientRun (state : ServerVideoFrameQueueState) (clientId : ClientId)
    (runId : RunId) : Option ServerQueuedVideoFrame :=
  state.retainedKeyframeByClientRun[clientRunScopeKey clientId runId]?

def totalLen (state : ServerVideoFrameQueueState) : Nat :=
  state.framesByClientId.values.foldl (fun total frames => total + frames.length) 0

/-- Puts back what is left of a client's queue; an empty queue loses its entry. -/
def putQueue (state : ServerVideoFrameQueueState) (clientId : ClientId)
    (queue : List ServerQueuedVideoFrame) : ServerVideoFrameQueueState :=
  if queue.isEmpty then { state with framesByClientId := state.framesByClientId.erase clientId }
  else { state with framesByClientId := state.framesByClientId.insert clientId queue }

def popFront (state : ServerVideoFrameQueueState) (clientId : ClientId) :
    ServerVideoFrameQueueState × Option ServerQueuedVideoFrame :=
  match state.framesByClientId[clientId]? with
  | none => (state, none)
  | some queue => (state.putQueue clientId queue.tail, queue.head?)

def popFrontForClientRun (state : ServerVideoFrameQueueState) (clientId : ClientId) (runId : RunId) :
    ServerVideoFrameQueueState × Option ServerQueuedVideoFrame :=
  match state.framesByClientId[clientId]? with
  | none => (state, none)
  | some queue =>
    match queue.findIdx? fun queued => queued.frame.runId = runId with
    | none => (state, none)
    | some frameIndex => (state.putQueue clientId (queue.eraseIdx frameIndex), queue[frameIndex]?)

end ServerVideoFrameQueueState

inductive ServerVideoFrameQueueReadMode where
  | inspectOldest | inspectLatest | inspectLatestDecodable | dequeueOldest
deriving DecidableEq, Repr

structure ServerVideoFrameQueueReadInput where
  clientId : ClientId
  runId : RunId
  mode : ServerVideoFrameQueueReadMode
deriving DecidableEq, Repr

inductive ServerSwitcherQueuedFrameDecodableSource where
  | none | queue | retainedKeyframe
deriving DecidableEq, Repr

inductive ServerSwitcherQueuedFrameNoFrameReason where
  | noFramesQueuedForClient | noFramesQueuedForRequestedRun | noDecodableFrameAvailable
deriving DecidableEq, Repr

inductive ServerVideoFrameQueueReadResult where
  | frameAvailable (frame : ServerQueuedVideoFrame) (mode : ServerVideoFrameQueueReadMode)
      (remainingClientQueueLen : Nat) (decodableSource : ServerSwitcherQueuedFrameDecodableSource)
      (retainedKeyframeAvailable : Bool) (retainedKeyframeFrameId : Option UInt64)
  | noFrameAvailable (clientId : ClientId) (runId : RunId) (clientQueueLen : Nat)
      (noFrameReason : ServerSwitcherQueuedFrameNoFrameReason)
      (decodableSource : ServerSwitcherQueuedFrameDecodableSource)
      (retainedKeyframeAvailable : Bool) (retainedKeyframeFrameId : Option UInt64)
deriving DecidableEq, Repr

def ServerVideoFrameQueueReadResult.frame? : ServerVideoFrameQueueReadResult → Option ServerQueuedVideoFrame
  | .frameAvailable frame .. => some frame
  | .noFrameAvailable .. => none

def ServerVideoFrameQueueReadResult.decodableSource :
    ServerVideoFrameQueueReadResult → ServerSwitcherQueuedFrameDecodableSource
  | .frameAvailable _ _ _ source _ _ => source
  | .noFrameAvailable _ _ _ _ source _ _ => source

def determineNoFrameReason (mode : ServerVideoFrameQueueReadMode) (clientQueueLen runQueueLen : Nat) :
    ServerSwitcherQueuedFrameNoFrameReason :=
  if clientQueueLen = 0 then .noFramesQueuedForClient
  else if runQueueLen = 0 then .noFramesQueuedForRequestedRun
  else
    match mode with
    | .inspectLatestDecodable => .noDecodableFrameAvailable
    | _ => .noFramesQueuedForRequestedRun

/-- The state after the read, the frame it found and where a decodable one came from. -/
def selectFrame (state : ServerVideoFrameQueueState) (input : ServerVideoFrameQueueReadInput) :
    ServerVideoFrameQueueState × Option ServerQueuedVideoFrame ×
      ServerSwitcherQueuedFrameDecodableSource :=
  match input.mode with
  | .inspectOldest => (state, (state.framesForClientRun input.clientId input.runId).head?, .none)
  | .inspectLatest => (state, (state.framesForClientRun input.clientId input.runId).getLast?, .none)
  | .inspectLatestDecodable =>
    match ((state.framesForClientRun input.clientId input.runId).filter
      fun queued => queued.frame.isKeyframe).getLast? with
    | some frame => (state, some frame, .queue)
    | none =>
      match state.retainedKeyframeForClientRun input.clientId input.runId with
      | some frame => (state, some frame, .retainedKeyframe)
      | none => (state, none, .none)
  | .dequeueOldest =>
    let popped := state.popFrontForClientRun input.clientId input.runId
    (popped.1, popped.2, .none)

/-- `ServerVideoFrameQueueReadBoundary::read`. -/
def ServerVideoFrameQueueState.read (state : ServerVideoFrameQueueState)
    (input : ServerVideoFrameQueueReadInput) :
    ServerVideoFrameQueueState × ServerVideoFrameQueueReadResult :=
  let clientQueueLen := state.clientQueueLen input.clientId
  let runQueueLen := (state.framesForClientRun input.clientId input.runId).length
  let retainedKeyframe := state.retainedKeyframeForClientRun input.clientId input.runId
  let retainedKeyframeFrameId := retainedKeyframe.map fun frame => frame.frame.frameId
  match selectFrame state input with
  | (state, some frame, decodableSource) =>
    (state, .frameAvailable frame input.mode (state.clientQueueLen input.clientId) decodableSource
      retainedKeyframe.isSome retainedKeyframeFrameId)
  | (state, none, _) =>
    (state, .noFrameAvailable input.clientId input.runId clientQueueLen
      (determineNoFrameReason input.mode clientQueueLen runQueueLen) .none
      retainedKeyframe.isSome retainedKeyframeFrameId)

inductive ServerVideoFrameQueueDropReason where
  | capacityZero
deriving DecidableEq, Repr

inductive ServerVideoFrameQueueStorageResult where
  | stored (queued : ServerQueuedVideoFrame) (previousClientQueueLen currentClientQueueLen : Nat)
      (droppedOldest : Option ServerQueuedVideoFrame)
  | dropped (input : ServerVideoFrameHandlerInput) (reason : ServerVideoFrameQueueDropReason)
deriving DecidableEq, Repr

def queuedFrame (input : ServerVideoFrameHandlerInput) (queuedAt : TimestampMicros) :
    ServerQueuedVideoFrame where
  source := input.registeredPacket.source
  authenticatedSender := input.registeredPacket.authenticatedSender
  frame := input.registeredPacket.frame
  payloadLen := input.payloadLen
  queuedAt := queuedAt

/-- A full queue gives up its oldest frame before the newest one is stored. -/
def evictOldest (policy : ServerVideoFrameQueuePolicy) (queue : List ServerQueuedVideoFrame) :
    Option ServerQueuedVideoFrame × List ServerQueuedVideoFrame :=
  if policy.maxFramesPerClient ≤ queue.length then (queue.head?, queue.tail) else (none, queue)

/-- `ServerVideoFrameQueueStorageBoundary::store_frame`. -/
def storeFrame (state : ServerVideoFrameQueueState) (input : ServerVideoFrameHandlerInput)
    (queuedAt : TimestampMicros) (policy : ServerVideoFrameQueuePolicy) :
    ServerVideoFrameQueueState × ServerVideoFrameQueueStorageResult :=
  if policy.maxFramesPerClient = 0 then (state, .dropped input .capacityZero)
  else
    let clientId := input.registeredPacket.frame.clientId
    let queue := state.framesForClient clientId
    let (droppedOldest, kept) := evictOldest policy queue
    let queued := queuedFrame input queuedAt
    let retained :=
      if queued.frame.isKeyframe then
        state.retainedKeyframeByClientRun.insert
          (clientRunScopeKey queued.frame.clientId queued.frame.runId) queued
      else state.retainedKeyframeByClientRun
    ({ framesByClientId := state.framesByClientId.insert clientId (kept ++ [queued])
       retainedKeyframeByClientRun := retained },
      .stored queued queue.length (kept ++ [queued]).length droppedOldest)

end StreamSync
