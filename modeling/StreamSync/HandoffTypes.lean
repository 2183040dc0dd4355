import StreamSync.VideoQueue

namespace StreamSync

/-- What the handoff codec does not write or read, with what it found in its place. -/
inductive ServerSwitcherQueuedFrameHandoffCodecError where
  | framePrefixTooShort (actualLen : Nat)
  | truncatedFrame (declaredBodyLen actualBodyLen : Nat)
  | trailingBytes (trailingLen : Nat)
  | unexpectedEof (needed remaining : Nat)
  | invalidUtf8
  | unknownReadMode (actual : UInt8)
  | unknownDecodableSource (actual : UInt8)
  | unknownNoFrameReason (actual : UInt8)
  | unknownResponseKind (actual : UInt8)
  | unknownHandoffErrorCode (actual : UInt8)
  | unknownCodec (actual : UInt16)
  | stringTooLong (field : String) (len : Nat)
  | bodyTooLong (len : Nat)
  | payloadLengthMismatch (declaredLen : UInt32) (actualLen : Nat)
deriving DecidableEq, Repr

/-- What a request asks of the queue; only `dequeueOldest` takes the frame out. -/
inductive ServerSwitcherQueuedFrameReadMode where
  | inspectOldest | inspectLatest | inspectLatestDecodable | dequeueOldest
deriving DecidableEq, Repr

namespace ServerSwitcherQueuedFrameReadMode

def wireCode : ServerSwitcherQueuedFrameReadMode → UInt8
  | .inspectOldest => 1
  | .inspectLatest => 2
  | .inspectLatestDecodable => 3
  | .dequeueOldest => 4

def tryFrom (value : UInt8) :
    Except ServerSwitcherQueuedFrameHandoffCodecError ServerSwitcherQueuedFrameReadMode :=
  match value with
  | 1 => .ok .inspectOldest
  | 2 => .ok .inspectLatest
  | 3 => .ok .inspectLatestDecodable
  | 4 => .ok .dequeueOldest
  | actual => .error (.unknownReadMode actual)

@[simp] theorem tryFrom_wireCode (mode : ServerSwitcherQueuedFrameReadMode) :
    tryFrom mode.wireCode = .ok mode := by
  cases mode <;> rfl

/-- A wire code is read as the one mode that is written so. -/
theorem tryFrom_eq_ok_iff {value : UInt8} {mode : ServerSwitcherQueuedFrameReadMode} :
    tryFrom value = .ok mode ↔ mode.wireCode = value := by
  constructor
  · intro h
    unfold tryFrom at h
    split at h <;> first | cases h; rfl | cases h
  · rintro rfl
    exact tryFrom_wireCode mode

end ServerSwitcherQueuedFrameReadMode

namespace ServerSwitcherQueuedFrameDecodableSource

def wireCode : ServerSwitcherQueuedFrameDecodableSource → UInt8
  | .none => 0
  | .queue => 1
  | .retainedKeyframe => 2

def tryFrom (value : UInt8) :
    Except ServerSwitcherQueuedFrameHandoffCodecError ServerSwitcherQueuedFrameDecodableSource :=
  match value with
  | 0 => .ok .none
  | 1 => .ok .queue
  | 2 => .ok .retainedKeyframe
  | actual => .error (.unknownDecodableSource actual)

@[simp] theorem tryFrom_wireCode (source : ServerSwitcherQueuedFrameDecodableSource) :
    tryFrom source.wireCode = .ok source := by
  cases source <;> rfl

theorem tryFrom_eq_ok_iff {value : UInt8} {source : ServerSwitcherQueuedFrameDecodableSource} :
    tryFrom value = .ok source ↔ source.wireCode = value := by
  constructor
  · intro h
    unfold tryFrom at h
    split at h <;> first | cases h; rfl | cases h
  · rintro rfl
    exact tryFrom_wireCode source

end ServerSwitcherQueuedFrameDecodableSource

namespace ServerSwitcherQueuedFrameNoFrameReason

def wireCode : ServerSwitcherQueuedFrameNoFrameReason → UInt8
  | .noFramesQueuedForClient => 1
  | .noFramesQueuedForRequestedRun => 2
  | .noDecodableFrameAvailable => 3

def tryFrom (value : UInt8) :
    Except ServerSwitcherQueuedFrameHandoffCodecError ServerSwitcherQueuedFrameNoFrameReason :=
  match value with
  | 1 => .ok .noFramesQueuedForClient
  | 2 => .ok .noFramesQueuedForRequestedRun
  | 3 => .ok .noDecodableFrameAvailable
  | actual => .error (.unknownNoFrameReason actual)

@[simp] theorem tryFrom_wireCode (reason : ServerSwitcherQueuedFrameNoFrameReason) :
    tryFrom reason.wireCode = .ok reason := by
  cases reason <;> rfl

theorem tryFrom_eq_ok_iff {value : UInt8} {reason : ServerSwitcherQueuedFrameNoFrameReason} :
    tryFrom value = .ok reason ↔ reason.wireCode = value := by
  constructor
  · intro h
    unfold tryFrom at h
    split at h <;> first | cases h; rfl | cases h
  · rintro rfl
    exact tryFrom_wireCode reason

end ServerSwitcherQueuedFrameNoFrameReason

/-- Why the server does not answer a request. -/
inductive ServerSwitcherQueuedFrameHandoffErrorCode where
  | sourceUnavailable | requestTimeout | invalidScope
  | unsupportedReadMode | malformedResponse | sourceShutdown
deriving DecidableEq, Repr

namespace ServerSwitcherQueuedFrameHandoffErrorCode

def wireCode : ServerSwitcherQueuedFrameHandoffErrorCode → UInt8
  | .sourceUnavailable => 1
  | .requestTimeout => 2
  | .invalidScope => 3
  | .unsupportedReadMode => 4
  | .malformedResponse => 5
  | .sourceShutdown => 6

def tryFrom (value : UInt8) :
    Except ServerSwitcherQueuedFrameHandoffCodecError ServerSwitcherQueuedFrameHandoffErrorCode :=
  match value with
  | 1 => .ok .sourceUnavailable
  | 2 => .ok .requestTimeout
  | 3 => .ok .invalidScope
  | 4 => .ok .unsupportedReadMode
  | 5 => .ok .malformedResponse
  | 6 => .ok .sourceShutdown
  | actual => .error (.unknownHandoffErrorCode actual)

@[simp] theorem tryFrom_wireCode (code : ServerSwitcherQueuedFrameHandoffErrorCode) :
    tryFrom code.wireCode = .ok code := by
  cases code <;> rfl

theorem tryFrom_eq_ok_iff {value : UInt8} {code : ServerSwitcherQueuedFrameHandoffErrorCode} :
    tryFrom value = .ok code ↔ code.wireCode = value := by
  constructor
  · intro h
    unfold tryFrom at h
    split at h <;> first | cases h; rfl | cases h
  · rintro rfl
    exact tryFrom_wireCode code

end ServerSwitcherQueuedFrameHandoffErrorCode

/-- A request of the switcher for a frame of one client and run. -/
structure ServerSwitcherQueuedFrameHandoffRequest where
  handoffVersion : UInt32
  requestId : UInt64
  clientId : ClientId
  runId : RunId
  readMode : ServerSwitcherQueuedFrameReadMode
deriving DecidableEq, Repr

/-- A frame of the queue as it goes over the handoff. -/
structure ServerSwitcherQueuedFrameHandoffFrame where
  clientId : ClientId
  runId : RunId
  frameId : UInt64
  captureTimestamp : TimestampMicros
  sendTimestamp : TimestampMicros
  queuedAt : TimestampMicros
  width : UInt32
  height : UInt32
  fpsNominal : UInt32
  isKeyframe : Bool
  codec : Codec
  encodedPayloadLen : UInt32
  encodedPayload : List UInt8
deriving DecidableEq, Repr

/-- What the server answers, with the id of the request. -/
inductive ServerSwitcherQueuedFrameHandoffResponse where
  | frameRead (requestId : UInt64) (remainingClientQueueLen : UInt32)
      (decodableSource : ServerSwitcherQueuedFrameDecodableSource) (retainedKeyframeAvailable : Bool)
      (retainedKeyframeFrameId : Option UInt64) (frame : ServerSwitcherQueuedFrameHandoffFrame)
  | noFrame (requestId : UInt64) (clientId : ClientId) (runId : RunId)
      (readMode : ServerSwitcherQueuedFrameReadMode) (clientQueueLen : UInt32)
      (noFrameReason : ServerSwitcherQueuedFrameNoFrameReason)
      (decodableSource : ServerSwitcherQueuedFrameDecodableSource) (retainedKeyframeAvailable : Bool)
      (retainedKeyframeFrameId : Option UInt64)
  | handoffError (requestId : UInt64) (error : ServerSwitcherQueuedFrameHandoffErrorCode)
deriving DecidableEq, Repr

/-- The flag and the id of the retained keyframe agree. -/
def ServerSwitcherQueuedFrameHandoffResponse.RetainedAgrees :
    ServerSwitcherQueuedFrameHandoffResponse → Prop
  | .frameRead _ _ _ available frameId _ => available = frameId.isSome
  | .noFrame _ _ _ _ _ _ _ available frameId => available = frameId.isSome
  | .handoffError _ _ => True

end StreamSync
