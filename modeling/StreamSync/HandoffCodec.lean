import StreamSync.HandoffTypes
import StreamSync.ProtocolLayout

namespace StreamSync

open LittleEndian ByteCursor

abbrev HandoffReader (α : Type) := ByteReader ServerSwitcherQueuedFrameHandoffCodecError α

namespace HandoffReader

/-- The next bytes of the frame; what is left of them is named where they are too few. -/
def readExact (len : Nat) : HandoffReader {bytes : List UInt8 // bytes.length = len} :=
  take (fun stop total => .unexpectedEof len (total - (stop - len))) len

theorem one_byte_ne_nil (bytes : {bytes : List UInt8 // bytes.length = 1}) : bytes.1 ≠ [] :=
  List.ne_nil_of_length_eq_add_one bytes.2

def readU8 : HandoffReader UInt8 := do
  let bytes ← readExact 1
  pure (bytes.1.head (one_byte_ne_nil bytes))

def readU16 : HandoffReader UInt16 := do
  let bytes ← readExact 2
  pure (u16FromLe bytes.1)

def readU32 : HandoffReader UInt32 := do
  let bytes ← readExact 4
  pure (u32FromLe bytes.1)

def readU64 : HandoffReader UInt64 := do
  let bytes ← readExact 8
  pure (u64FromLe bytes.1)

def readBytes (len : Nat) : HandoffReader (List UInt8) := do
  let bytes ← readExact len
  pure bytes.1

/-- A length of two bytes and as many bytes of UTF-8. -/
def readString : HandoffReader String := do
  let bytes ← (do
    let len ← readU16
    readBytes len.toNat)
  (fromUtf8 bytes).mapError fun _ => ServerSwitcherQueuedFrameHandoffCodecError.invalidUtf8

/-- A flag byte; every value but zero is taken for true. -/
def readFlag : HandoffReader Bool := do
  let value ← readU8
  pure (value != 0)

def readReadMode : HandoffReader ServerSwitcherQueuedFrameReadMode := do
  let value ← readU8
  ServerSwitcherQueuedFrameReadMode.tryFrom value

def readDecodableSource : HandoffReader ServerSwitcherQueuedFrameDecodableSource := do
  let value ← readU8
  ServerSwitcherQueuedFrameDecodableSource.tryFrom value

def readNoFrameReason : HandoffReader ServerSwitcherQueuedFrameNoFrameReason := do
  let value ← readU8
  ServerSwitcherQueuedFrameNoFrameReason.tryFrom value

def readErrorCode : HandoffReader ServerSwitcherQueuedFrameHandoffErrorCode := do
  let value ← readU8
  ServerSwitcherQueuedFrameHandoffErrorCode.tryFrom value

/-- The codec is named by its wire code in the error, not by the error of the protocol crate. -/
def readCodec : HandoffReader Codec := do
  let codecWire ← readU16
  (Codec.tryFrom codecWire).mapError fun _ =>
    ServerSwitcherQueuedFrameHandoffCodecError.unknownCodec codecWire

/-- Nothing may stand behind a body that was read. -/
def ensureConsumed : HandoffReader Unit := atEnd fun offset total => .trailingBytes (total - offset)

end HandoffReader

abbrev HandoffWriter := ByteWriter ServerSwitcherQueuedFrameHandoffCodecError Unit

/-- A text is written behind its length, if that fits two bytes. -/
def pushString (field value : String) : HandoffWriter :=
  if (asBytes value).length < 2 ^ 16 then do
    extend (u16ToLe (UInt16.ofNat (asBytes value).length))
    extend (asBytes value)
  else throw (.stringTooLong field (asBytes value).length)

/-- A body behind its length, as it goes over the pipe. -/
def frameBody (body : List UInt8) : Except ServerSwitcherQueuedFrameHandoffCodecError (List UInt8) :=
  if body.length < 2 ^ 32 then .ok (u32ToLe (UInt32.ofNat body.length) ++ body)
  else .error (.bodyTooLong body.length)

def handoffLengthPrefixLen : Nat := 4

/-- The body of a frame that is exactly as long as its prefix says. -/
def decodeFramedBody (frame : List UInt8) :
    Except ServerSwitcherQueuedFrameHandoffCodecError (List UInt8) :=
  if frame.length < handoffLengthPrefixLen then .error (.framePrefixTooShort frame.length)
  else
    let declaredBodyLen := (u32FromLe (frame.take handoffLengthPrefixLen)).toNat
    let actualBodyLen := frame.length - handoffLengthPrefixLen
    if actualBodyLen < declaredBodyLen then .error (.truncatedFrame declaredBodyLen actualBodyLen)
    else if declaredBodyLen < actualBodyLen then .error (.trailingBytes (actualBodyLen - declaredBodyLen))
    else .ok (frame.drop handoffLengthPrefixLen)

def responseKindFrameRead : UInt8 := 1
def responseKindNoFrame : UInt8 := 2
def responseKindError : UInt8 := 3

/-- The fields of a request, in the order in which `readRequest` takes them. -/
def encodeRequestBody (request : ServerSwitcherQueuedFrameHandoffRequest) : HandoffWriter := do
  extend (u32ToLe request.handoffVersion)
  extend (u64ToLe request.requestId)
  pushString "client_id" request.clientId
  pushString "run_id" request.runId
  extend [request.readMode.wireCode]

def encodeRequestFrame (request : ServerSwitcherQueuedFrameHandoffRequest) :
    Except ServerSwitcherQueuedFrameHandoffCodecError (List UInt8) := do
  let body ← encodeRequestBody request []
  frameBody body.2

open HandoffReader

def readRequest : HandoffReader ServerSwitcherQueuedFrameHandoffRequest := do
  let handoffVersion ← readU32
  let requestId ← readU64
  let clientId ← readString
  let runId ← readString
  let readMode ← readReadMode
  pure { handoffVersion, requestId, clientId, runId, readMode }

def decodeRequestFrame (frame : List UInt8) :
    Except ServerSwitcherQueuedFrameHandoffCodecError ServerSwitcherQueuedFrameHandoffRequest := do
  let body ← decodeFramedBody frame
  (do
    let request ← readRequest
    ensureConsumed
    pure request : HandoffReader _).run' (Cursor.start body)

/-- A response is told apart by the kind behind its id. A retained keyframe that is missing is written as 0. -/
def encodeResponseBody : ServerSwitcherQueuedFrameHandoffResponse → HandoffWriter
  | .frameRead requestId remainingClientQueueLen decodableSource retainedKeyframeAvailable
      retainedKeyframeFrameId frame =>
    if frame.encodedPayloadLen.toNat ≠ frame.encodedPayload.length then
      throw (.payloadLengthMismatch frame.encodedPayloadLen frame.encodedPayload.length)
    else do
      extend (u64ToLe requestId)
      extend [responseKindFrameRead]
      extend (u32ToLe remainingClientQueueLen)
      extend [decodableSource.wireCode]
      extend [boolByte retainedKeyframeAvailable]
      extend (u64ToLe (retainedKeyframeFrameId.getD 0))
      pushString "client_id" frame.clientId
      pushString "run_id" frame.runId
      extend (u64ToLe frame.frameId)
      extend (u64ToLe frame.captureTimestamp)
      extend (u64ToLe frame.sendTimestamp)
      extend (u64ToLe frame.queuedAt)
      extend (u32ToLe frame.width)
      extend (u32ToLe frame.height)
      extend (u32ToLe frame.fpsNominal)
      extend [boolByte frame.isKeyframe]
      extend (u16ToLe frame.codec.wireCode)
      extend (u32ToLe frame.encodedPayloadLen)
      extend frame.encodedPayload
  | .noFrame requestId clientId runId readMode clientQueueLen noFrameReason decodableSource
      retainedKeyframeAvailable retainedKeyframeFrameId => do
    extend (u64ToLe requestId)
    extend [responseKindNoFrame]
    extend (u32ToLe clientQueueLen)
    extend [noFrameReason.wireCode]
    extend [decodableSource.wireCode]
    extend [boolByte retainedKeyframeAvailable]
    extend (u64ToLe (retainedKeyframeFrameId.getD 0))
    pushString "client_id" clientId
    pushString "run_id" runId
    extend [readMode.wireCode]
  | .handoffError requestId error => do
    extend (u64ToLe requestId)
    extend [responseKindError]
    extend [error.wireCode]

def encodeResponseFrame (response : ServerSwitcherQueuedFrameHandoffResponse) :
    Except ServerSwitcherQueuedFrameHandoffCodecError (List UInt8) := do
  let body ← encodeResponseBody response []
  frameBody body.2

/-- The rest of a frame response. The id of the retained keyframe counts only under its flag. -/
def readFrameRead (requestId : UInt64) : HandoffReader ServerSwitcherQueuedFrameHandoffResponse := do
  let remainingClientQueueLen ← readU32
  let decodableSource ← readDecodableSource
  let retainedKeyframeAvailable ← readFlag
  let retainedKeyframeFrameId ← readU64
  let clientId ← readString
  let runId ← readString
  let frameId ← readU64
  let captureTimestamp ← readU64
  let sendTimestamp ← readU64
  let queuedAt ← readU64
  let width ← readU32
  let height ← readU32
  let fpsNominal ← readU32
  let isKeyframe ← readFlag
  let codec ← readCodec
  let encodedPayloadLen ← readU32
  let encodedPayload ← readBytes encodedPayloadLen.toNat
  pure (.frameRead requestId remainingClientQueueLen decodableSource retainedKeyframeAvailable
    (if retainedKeyframeAvailable then some retainedKeyframeFrameId else none)
    { clientId, runId, frameId, captureTimestamp, sendTimestamp, queuedAt, width, height, fpsNominal
      isKeyframe, codec, encodedPayloadLen, encodedPayload })

def readNoFrame (requestId : UInt64) : HandoffReader ServerSwitcherQueuedFrameHandoffResponse := do
  let clientQueueLen ← readU32
  let noFrameReason ← readNoFrameReason
  let decodableSource ← readDecodableSource
  let retainedKeyframeAvailable ← readFlag
  let retainedKeyframeFrameId ← readU64
  let clientId ← readString
  let runId ← readString
  let readMode ← readReadMode
  pure (.noFrame requestId clientId runId readMode clientQueueLen noFrameReason decodableSource
    retainedKeyframeAvailable (if retainedKeyframeAvailable then some retainedKeyframeFrameId else none))

def readResponse : HandoffReader ServerSwitcherQueuedFrameHandoffResponse := do
  let requestId ← readU64
  let kind ← readU8
  if kind = responseKindFrameRead then readFrameRead requestId
  else if kind = responseKindNoFrame then readNoFrame requestId
  else if kind = responseKindError then do
    let error ← readErrorCode
    pure (.handoffError requestId error)
  else throw (.unknownResponseKind kind)

/-- A response and nothing behind it. -/
def decodeResponseFrame (frame : List UInt8) :
    Except ServerSwitcherQueuedFrameHandoffCodecError ServerSwitcherQueuedFrameHandoffResponse := do
  let body ← decodeFramedBody frame
  (do
    let response ← readResponse
    ensureConsumed
    pure response : HandoffReader _).run' (Cursor.start body)

end StreamSync
