import StreamSync.Lib.Chunks
import StreamSync.ProtocolEncode
import StreamSync.RustStd

namespace StreamSync

open Chunks

def videoFrameFragmentNumericMetadataLen : Nat := 45

def clientVideoFrameSafeMaxDatagramLen : Nat := 1200

def clientVideoFrameFragmentTargetChunkPayloadLen : Nat := 1024

inductive ClientVideoFrameEncodeSendError where
  | emptyPayload
  | encode (error : ProtocolError)
  | fragmentPayloadCapacityTooSmall (safeMaxDatagramLen fragmentOverheadLen : Nat)
  | packetTooLarge (encodedPacketLen maxUdpPacketLen : Nat)
  | send (kind : IoErrorKind) (message : String)
deriving DecidableEq, Repr

structure ClientVideoFrameFragmentationPolicy where
  safeMaxDatagramLen : Nat
  targetChunkPayloadLen : Nat
deriving DecidableEq, Repr

def ClientVideoFrameFragmentationPolicy.default : ClientVideoFrameFragmentationPolicy :=
  ⟨clientVideoFrameSafeMaxDatagramLen, clientVideoFrameFragmentTargetChunkPayloadLen⟩

structure ClientVideoFrameFragmentationPlan where
  totalPayloadLen : Nat
  chunkPayloadLen : Nat
  chunkCount : UInt32
deriving DecidableEq, Repr

/-- The policy is private to the boundary, and only the default fills it. -/
structure ClientVideoFrameFragmentationBoundary where
  policy : ClientVideoFrameFragmentationPolicy
  policy_eq : policy = .default

namespace ClientVideoFrameFragmentationBoundary

def default : ClientVideoFrameFragmentationBoundary := ⟨.default, rfl⟩

variable (boundary : ClientVideoFrameFragmentationBoundary)

def fragmentOverheadLen (frame : VideoFrame) : Nat :=
  fixedHeaderLen.toNat + 2 + (asBytes frame.clientId).length + 2 + (asBytes frame.runId).length
    + videoFrameFragmentNumericMetadataLen

def capacityTooSmall (frame : VideoFrame) : ClientVideoFrameEncodeSendError :=
  .fragmentPayloadCapacityTooSmall boundary.policy.safeMaxDatagramLen (fragmentOverheadLen frame)

/-- `u32::try_from` with the error of the call. -/
def tryU32 {ε : Type} (value : Nat) (error : ε) : Except ε UInt32 :=
  if value < 4294967296 then .ok (UInt32.ofNat value) else .error error

def plan (frame : VideoFrame) :
    Except ClientVideoFrameEncodeSendError ClientVideoFrameFragmentationPlan :=
  if boundary.policy.safeMaxDatagramLen ≤ fragmentOverheadLen frame then
    .error (boundary.capacityTooSmall frame)
  else do
    let maxChunkPayloadLen := min boundary.policy.targetChunkPayloadLen
      (boundary.policy.safeMaxDatagramLen - fragmentOverheadLen frame)
    let chunkCount ← tryU32
      (if frame.payload = [] then 0 else divCeil frame.payload.length maxChunkPayloadLen)
      (boundary.capacityTooSmall frame)
    return {
      totalPayloadLen := frame.payload.length, chunkPayloadLen := maxChunkPayloadLen, chunkCount }

def fragment (frame : VideoFrame) :
    Except ClientVideoFrameEncodeSendError (List VideoFrameFragment) := do
  let plan ← boundary.plan frame
  let totalPayloadLen ← tryU32 plan.totalPayloadLen
    (.encode (.invalidPayloadLength 4294967295 plan.totalPayloadLen))
  (chunks plan.chunkPayloadLen frame.payload).zipIdx.mapM fun (chunk, chunkIndex) => do
    let chunkIndex ← tryU32 chunkIndex (boundary.capacityTooSmall frame)
    return {
      messageType := .videoFrameFragment
      protocolVersion := frame.protocolVersion
      clientId := frame.clientId
      runId := frame.runId
      frameId := frame.frameId
      captureTimestamp := frame.captureTimestamp
      isKeyframe := frame.isKeyframe
      width := frame.width
      height := frame.height
      fpsNominal := frame.fpsNominal
      totalPayloadLen
      chunkIndex
      chunkCount := plan.chunkCount
      chunkPayloadLen := chunk.length
      chunkPayload := chunk }

end ClientVideoFrameFragmentationBoundary

/-- `encode_fragment_handoff`, down to the bytes of the datagram. -/
def encodeFragmentHandoff (fragment : VideoFrameFragment) :
    Except ClientVideoFrameEncodeSendError (List UInt8) :=
  (encodeMessage ⟨fragment.protocolVersion⟩ (.videoFrameFragment fragment) []).mapError .encode

end StreamSync
