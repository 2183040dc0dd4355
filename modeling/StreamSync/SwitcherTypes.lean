import StreamSync.ProtocolTypes

namespace StreamSync

inductive SwitcherDecodedFramePixelFormat where
  | bgra8
deriving DecidableEq, Repr

structure SwitcherDecodedFrame where
  width : UInt32
  height : UInt32
  pixelFormat : SwitcherDecodedFramePixelFormat
  pixels : List UInt8
deriving DecidableEq, Repr

/-- Whose picture a decode asks for; the caches above the decoder are keyed by it. -/
structure SwitcherH264DecodeSourceIdentity where
  clientId : ClientId
  runId : RunId
  frameId : UInt64
  sourceIdentity : String
deriving DecidableEq, Repr

structure SwitcherH264DecodeInput where
  encodedPayload : List UInt8
  width : UInt32
  height : UInt32
  scaledOutputEnabled : Bool
  scaledOutputReason : Option String
  sourceIdentity : Option SwitcherH264DecodeSourceIdentity
deriving DecidableEq, Repr

inductive SwitcherH264AnnexBNalKind where
  | nonIdrVcl | idr | sei | sps | pps | aud
  | other (nalUnitType : UInt8)
deriving DecidableEq, Repr

inductive SwitcherH264DecodeDeferredReason where
  | emptyPayload | invalidDimensions | ffmpegUnavailable | continuousOneShotSuppressed
deriving DecidableEq, Repr

structure SwitcherH264DecodeFailure where
  message : String
  decodeInputPayloadLen : Nat
  decodeExpectedWidth : UInt32
  decodeExpectedHeight : UInt32
  decodeExpectedPixelFormat : SwitcherDecodedFramePixelFormat
  decodeExpectedRawvideoLen : Nat
  decodedStdoutLen : Nat
  ffmpegExitStatus : Option Int32
  ffmpegStderrSummary : Option String
  payloadHasSps : Bool
  payloadHasPps : Bool
  payloadHasIdr : Bool
  payloadHasNonIdrVcl : Bool
  payloadNalKinds : List SwitcherH264AnnexBNalKind
deriving DecidableEq

inductive SwitcherH264DecodeResult where
  | decoded (frame : SwitcherDecodedFrame)
  | deferred (reason : SwitcherH264DecodeDeferredReason)
  | failed (failure : SwitcherH264DecodeFailure)
deriving DecidableEq

/-- `input.width as usize * input.height as usize * 4`, in the arithmetic of a release build. -/
def outputExpectedBytes (width height : UInt32) : UInt64 := width.toUInt64 * height.toUInt64 * 4

/-- An implementation of the trait `SwitcherH264DecodeRuntimeHook` over its own state. -/
abbrev H264DecodeRuntime (δ : Type) := SwitcherH264DecodeInput → δ → SwitcherH264DecodeResult × δ

end StreamSync
