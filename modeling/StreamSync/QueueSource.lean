import StreamSync.HandoffTypes
import StreamSync.Lib.Effect
import StreamSync.RustStd

namespace StreamSync

open Effect

structure SwitcherSingleViewSelectedEncodedFrame where
  clientId : ClientId
  runId : RunId
  frameId : UInt64
  captureTimestamp : TimestampMicros
  sendTimestamp : TimestampMicros
  queuedAt : TimestampMicros
  isKeyframe : Bool
  width : UInt32
  height : UInt32
  fpsNominal : UInt32
  codec : Codec
  encodedPayloadLen : Nat
  encodedPayload : List UInt8
deriving DecidableEq, Repr

namespace SwitcherSingleViewSelectedEncodedFrame

def ofQueued (queued : ServerQueuedVideoFrame) : SwitcherSingleViewSelectedEncodedFrame where
  clientId := queued.frame.clientId
  runId := queued.frame.runId
  frameId := queued.frame.frameId
  captureTimestamp := queued.frame.captureTimestamp
  sendTimestamp := queued.frame.sendTimestamp
  queuedAt := queued.queuedAt
  isKeyframe := queued.frame.isKeyframe
  width := queued.frame.width
  height := queued.frame.height
  fpsNominal := queued.frame.fpsNominal
  codec := queued.frame.codec
  encodedPayloadLen := queued.payloadLen
  encodedPayload := queued.frame.payload

def ofHandoff (frame : ServerSwitcherQueuedFrameHandoffFrame) : SwitcherSingleViewSelectedEncodedFrame where
  clientId := frame.clientId
  runId := frame.runId
  frameId := frame.frameId
  captureTimestamp := frame.captureTimestamp
  sendTimestamp := frame.sendTimestamp
  queuedAt := frame.queuedAt
  isKeyframe := frame.isKeyframe
  width := frame.width
  height := frame.height
  fpsNominal := frame.fpsNominal
  codec := frame.codec
  encodedPayloadLen := frame.encodedPayloadLen.toNat
  encodedPayload := frame.encodedPayload

end SwitcherSingleViewSelectedEncodedFrame

inductive SwitcherSingleClientQueueSourceMode where
  | previewOldest | previewLatest | previewLatestDecodable | consumeOldest
deriving DecidableEq, Repr

namespace SwitcherSingleClientQueueSourceMode

def queueReadMode : SwitcherSingleClientQueueSourceMode → ServerVideoFrameQueueReadMode
  | .previewOldest => .inspectOldest
  | .previewLatest => .inspectLatest
  | .previewLatestDecodable => .inspectLatestDecodable
  | .consumeOldest => .dequeueOldest

def handoffReadMode : SwitcherSingleClientQueueSourceMode → ServerSwitcherQueuedFrameReadMode
  | .previewOldest => .inspectOldest
  | .previewLatest => .inspectLatest
  | .previewLatestDecodable => .inspectLatestDecodable
  | .consumeOldest => .dequeueOldest

def fromHandoffReadMode : ServerSwitcherQueuedFrameReadMode → SwitcherSingleClientQueueSourceMode
  | .inspectOldest => .previewOldest
  | .inspectLatest => .previewLatest
  | .inspectLatestDecodable => .previewLatestDecodable
  | .dequeueOldest => .consumeOldest

@[simp] theorem fromHandoffReadMode_handoffReadMode (mode : SwitcherSingleClientQueueSourceMode) :
    fromHandoffReadMode mode.handoffReadMode = mode := by
  cases mode <;> rfl

end SwitcherSingleClientQueueSourceMode

structure SwitcherSingleClientQueueSourceInput where
  clientId : ClientId
  runId : RunId
  mode : SwitcherSingleClientQueueSourceMode
deriving DecidableEq, Repr

inductive SwitcherSingleClientQueueSourceResult where
  | frameAvailable (frame : SwitcherSingleViewSelectedEncodedFrame)
      (mode : SwitcherSingleClientQueueSourceMode) (remainingClientQueueLen : Nat)
  | noFrameAvailable (clientId : ClientId) (runId : RunId) (mode : SwitcherSingleClientQueueSourceMode)
      (clientQueueLen : Nat)
deriving DecidableEq, Repr

/-- An implementation of the trait `SwitcherQueuedFrameSource`, by its one method. -/
abbrev QueuedFrameSource (σ ε : Type) :=
  SwitcherSingleClientQueueSourceInput → Eff σ ε SwitcherSingleClientQueueSourceResult

/-- `SwitcherSingleClientQueueSourceBoundary::read`. -/
def readQueueSource (state : ServerVideoFrameQueueState) (input : SwitcherSingleClientQueueSourceInput) :
    ServerVideoFrameQueueState × SwitcherSingleClientQueueSourceResult :=
  match state.read ⟨input.clientId, input.runId, input.mode.queueReadMode⟩ with
  | (state, .frameAvailable frame _ remainingClientQueueLen _ _ _) =>
    (state, .frameAvailable (.ofQueued frame) input.mode remainingClientQueueLen)
  | (state, .noFrameAvailable clientId runId clientQueueLen _ _ _ _) =>
    (state, .noFrameAvailable clientId runId input.mode clientQueueLen)

/-- `SwitcherInProcessServerQueueFrameSource`. -/
def inProcessSource {ε : Type} : QueuedFrameSource ServerVideoFrameQueueState ε := fun input state =>
  let result := readQueueSource state input
  .ok (result.2, result.1)

structure SwitcherQueuedFrameHandoffInput where
  clientId : ClientId
  runId : RunId
  mode : SwitcherSingleClientQueueSourceMode
deriving DecidableEq, Repr

inductive SwitcherQueuedFrameHandoffError where
  | sourceUnavailable
  | timeout
  | invalidScope (clientId : ClientId) (runId : RunId)
  | unsupportedMode (mode : SwitcherSingleClientQueueSourceMode)
  | malformedResponse
  | sourceShutdown
deriving DecidableEq, Repr

inductive SwitcherQueuedFrameHandoffResult where
  | frameRead (frame : SwitcherSingleViewSelectedEncodedFrame)
      (mode : SwitcherSingleClientQueueSourceMode) (remainingClientQueueLen : Nat)
  | noFrameAvailable (clientId : ClientId) (runId : RunId) (mode : SwitcherSingleClientQueueSourceMode)
      (clientQueueLen : Nat)
  | handoffError (clientId : ClientId) (runId : RunId) (mode : SwitcherSingleClientQueueSourceMode)
      (error : SwitcherQueuedFrameHandoffError)
deriving DecidableEq, Repr

/-- An implementation of the trait `SwitcherQueuedFrameHandoff`, by its one method. -/
abbrev QueuedFrameHandoff (σ ε : Type) :=
  SwitcherQueuedFrameHandoffInput → Eff σ ε SwitcherQueuedFrameHandoffResult

/-- `SwitcherInProcessQueuedFrameHandoff`. -/
def inProcessHandoff {ε : Type} : QueuedFrameHandoff ServerVideoFrameQueueState ε := fun input =>
  if isBlank input.clientId || isBlank input.runId then
    pure (.handoffError input.clientId input.runId input.mode (.invalidScope input.clientId input.runId))
  else do
    let result ← inProcessSource ⟨input.clientId, input.runId, input.mode⟩
    match result with
    | .frameAvailable frame mode remainingClientQueueLen =>
      pure (.frameRead frame mode remainingClientQueueLen)
    | .noFrameAvailable clientId runId mode clientQueueLen =>
      pure (.noFrameAvailable clientId runId mode clientQueueLen)

end StreamSync
