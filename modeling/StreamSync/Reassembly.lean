import StreamSync.VideoQueue

namespace StreamSync

open KeyedTable

structure ServerVideoFrameReassemblyKey where
  clientId : String
  runId : String
  frameId : UInt64
deriving DecidableEq, Repr

namespace ServerVideoFrameReassemblyKey

/-- The derived order: field by field. -/
instance : Ord ServerVideoFrameReassemblyKey where
  compare a b :=
    ((compare a.clientId b.clientId).then (compare a.runId b.runId)).then (compare a.frameId b.frameId)

instance : Std.TransOrd ServerVideoFrameReassemblyKey :=
  inferInstanceAs (Std.TransCmp (compareLex (compareLex
    (compareOn ServerVideoFrameReassemblyKey.clientId) (compareOn ServerVideoFrameReassemblyKey.runId))
    (compareOn ServerVideoFrameReassemblyKey.frameId)))

instance : Std.LawfulEqOrd ServerVideoFrameReassemblyKey where
  eq_of_compare {a b} h := by
    obtain ⟨ac, ar, af⟩ := a
    obtain ⟨bc, br, bf⟩ := b
    obtain ⟨hids, hf⟩ := Ordering.then_eq_eq.mp h
    obtain ⟨hc, hr⟩ := Ordering.then_eq_eq.mp hids
    cases Std.LawfulEqOrd.eq_of_compare hc
    cases Std.LawfulEqOrd.eq_of_compare hr
    cases Std.LawfulEqOrd.eq_of_compare hf
    rfl

def fromFragment (fragment : VideoFrameFragment) : ServerVideoFrameReassemblyKey :=
  ⟨fragment.clientId, fragment.runId, fragment.frameId⟩

end ServerVideoFrameReassemblyKey

/-- An incomplete frame: its metadata and one slot for each chunk. -/
structure ServerVideoFrameReassemblyFrameState where
  protocolVersion : ProtocolVersion
  captureTimestamp : TimestampMicros
  isKeyframe : Bool
  width : UInt32
  height : UInt32
  fpsNominal : UInt32
  totalPayloadLen : UInt32
  chunkCount : UInt32
  chunks : List (Option (List UInt8))
  duplicateCount : Nat
  length_chunks : chunks.length = chunkCount.toNat
deriving DecidableEq

namespace ServerVideoFrameReassemblyFrameState

def new (fragment : VideoFrameFragment) : ServerVideoFrameReassemblyFrameState where
  protocolVersion := fragment.protocolVersion
  captureTimestamp := fragment.captureTimestamp
  isKeyframe := fragment.isKeyframe
  width := fragment.width
  height := fragment.height
  fpsNominal := fragment.fpsNominal
  totalPayloadLen := fragment.totalPayloadLen
  chunkCount := fragment.chunkCount
  chunks := List.replicate fragment.chunkCount.toNat none
  duplicateCount := 0
  length_chunks := List.length_replicate

/-- The chunk in a slot; the slots are as many as the chunk count. -/
def chunkAt (state : ServerVideoFrameReassemblyFrameState) (index : Nat) : Option (List UInt8) :=
  state.chunks[index]?.join

def storeChunk (state : ServerVideoFrameReassemblyFrameState) (index : Nat) (payload : List UInt8) :
    ServerVideoFrameReassemblyFrameState :=
  { state with
    chunks := state.chunks.set index (some payload)
    length_chunks := List.length_set.trans state.length_chunks }

def countDuplicate (state : ServerVideoFrameReassemblyFrameState) : ServerVideoFrameReassemblyFrameState :=
  { state with duplicateCount := state.duplicateCount + 1 }

def fragmentsReceived (state : ServerVideoFrameReassemblyFrameState) : Nat :=
  (state.chunks.filter Option.isSome).length

def missingChunks (state : ServerVideoFrameReassemblyFrameState) : List UInt32 :=
  (state.chunks.zipIdx.filter fun slot => slot.1.isNone).map fun slot => UInt32.ofNat slot.2

def isComplete (state : ServerVideoFrameReassemblyFrameState) : Bool :=
  state.fragmentsReceived = state.chunkCount.toNat

def reassemblePayload (state : ServerVideoFrameReassemblyFrameState) : List UInt8 :=
  (state.chunks.filterMap id).flatten

end ServerVideoFrameReassemblyFrameState

/-- The incomplete frames. -/
structure ServerVideoFrameReassemblyState where
  frames : Table ServerVideoFrameReassemblyKey ServerVideoFrameReassemblyFrameState
deriving DecidableEq

def ServerVideoFrameReassemblyState.empty : ServerVideoFrameReassemblyState := ⟨∅⟩

def ServerVideoFrameReassemblyState.containsFrame (state : ServerVideoFrameReassemblyState)
    (key : ServerVideoFrameReassemblyKey) : Bool := state.frames[key]?.isSome

inductive ServerVideoFrameFragmentRejectReason where
  | chunkCountZero | chunkIndexOutOfRange | chunkPayloadLenMismatch
  | metadataMismatch | reassembledPayloadLenMismatch
deriving DecidableEq, Repr

structure ServerVideoFrameReassemblySummary where
  key : ServerVideoFrameReassemblyKey
  fragmentsReceived : Nat
  fragmentsMissing : List UInt32
  completedFrameQueued : Bool
  rejectedFragmentReason : Option ServerVideoFrameFragmentRejectReason
  duplicateCount : Nat
deriving DecidableEq, Repr

inductive ServerVideoFrameReassemblyApplyResult where
  | fragmentStored (summary : ServerVideoFrameReassemblySummary)
  | duplicateFragmentIgnored (summary : ServerVideoFrameReassemblySummary)
  | rejectedFragment (summary : ServerVideoFrameReassemblySummary)
  | frameComplete (summary : ServerVideoFrameReassemblySummary) (reassembledFrame : VideoFrame)
      (queueResult : ServerVideoFrameQueueStorageResult)
deriving DecidableEq

def validateFragmentShape (fragment : VideoFrameFragment) : Option ServerVideoFrameFragmentRejectReason :=
  if fragment.chunkCount = 0 then some .chunkCountZero
  else if fragment.chunkCount ≤ fragment.chunkIndex then some .chunkIndexOutOfRange
  else if fragment.chunkPayloadLen ≠ fragment.chunkPayload.length then some .chunkPayloadLenMismatch
  else none

def metadataMatches (state : ServerVideoFrameReassemblyFrameState) (fragment : VideoFrameFragment) : Bool :=
  state.protocolVersion = fragment.protocolVersion
    && state.captureTimestamp = fragment.captureTimestamp
    && state.isKeyframe = fragment.isKeyframe
    && state.width = fragment.width
    && state.height = fragment.height
    && state.fpsNominal = fragment.fpsNominal
    && state.totalPayloadLen = fragment.totalPayloadLen
    && state.chunkCount = fragment.chunkCount

def rejectedFragmentSummary (key : ServerVideoFrameReassemblyKey)
    (reason : ServerVideoFrameFragmentRejectReason) : ServerVideoFrameReassemblySummary where
  key := key
  fragmentsReceived := 0
  fragmentsMissing := []
  completedFrameQueued := false
  rejectedFragmentReason := some reason
  duplicateCount := 0

def summaryForState (key : ServerVideoFrameReassemblyKey) (state : ServerVideoFrameReassemblyFrameState)
    (completedFrameQueued : Bool)
    (rejectedFragmentReason : Option ServerVideoFrameFragmentRejectReason) :
    ServerVideoFrameReassemblySummary where
  key := key
  fragmentsReceived := state.fragmentsReceived
  fragmentsMissing := state.missingChunks
  completedFrameQueued := completedFrameQueued
  rejectedFragmentReason := rejectedFragmentReason
  duplicateCount := state.duplicateCount

/-- The frame that a complete state and its last fragment stand for. -/
def reassembledFrame (state : ServerVideoFrameReassemblyFrameState) (fragment : VideoFrameFragment) :
    VideoFrame where
  messageType := .videoFrame
  protocolVersion := state.protocolVersion
  clientId := fragment.clientId
  runId := fragment.runId
  frameId := fragment.frameId
  captureTimestamp := state.captureTimestamp
  sendTimestamp := state.captureTimestamp
  isKeyframe := state.isKeyframe
  metadataReserved := Vector.replicate 3 0
  width := state.width
  height := state.height
  fpsNominal := state.fpsNominal
  codec := .h264
  payloadSize := state.reassemblePayload.length
  payload := state.reassemblePayload

/-- `apply_fragment_and_queue_if_complete`. -/
def applyFragmentAndQueueIfComplete (reassembly : ServerVideoFrameReassemblyState)
    (queue : ServerVideoFrameQueueState) (packet : ServerRegisteredVideoFrameFragmentPacket)
    (queuedAt : TimestampMicros) (policy : ServerVideoFrameQueuePolicy) :
    ServerVideoFrameReassemblyState × ServerVideoFrameQueueState × ServerVideoFrameReassemblyApplyResult :=
  let key := ServerVideoFrameReassemblyKey.fromFragment packet.fragment
  match validateFragmentShape packet.fragment with
  | some reason => (reassembly, queue, .rejectedFragment (rejectedFragmentSummary key reason))
  | none =>
    let frameState := reassembly.frames[key]?.getD (.new packet.fragment)
    if metadataMatches frameState packet.fragment = false then
      (⟨reassembly.frames.insert key frameState⟩, queue,
        .rejectedFragment (summaryForState key frameState false (some .metadataMismatch)))
    else
      let chunkIndex := packet.fragment.chunkIndex.toNat
      if (frameState.chunkAt chunkIndex).isSome then
        let frameState := frameState.countDuplicate
        (⟨reassembly.frames.insert key frameState⟩, queue,
          .duplicateFragmentIgnored (summaryForState key frameState false none))
      else
        let frameState := frameState.storeChunk chunkIndex packet.fragment.chunkPayload
        if frameState.isComplete = false then
          (⟨reassembly.frames.insert key frameState⟩, queue,
            .fragmentStored (summaryForState key frameState false none))
        else if frameState.reassemblePayload.length ≠ frameState.totalPayloadLen.toNat then
          (⟨reassembly.frames.insert key frameState⟩, queue,
            .rejectedFragment (summaryForState key frameState false (some .reassembledPayloadLenMismatch)))
        else
          let frame := reassembledFrame frameState packet.fragment
          let handlerInput : ServerVideoFrameHandlerInput := {
            registeredPacket := {
              source := packet.source, authenticatedSender := packet.authenticatedSender, frame }
            payloadLen := frame.payload.length }
          let stored := storeFrame queue handlerInput queuedAt policy
          (⟨reassembly.frames.erase key⟩, stored.1,
            .frameComplete (summaryForState key frameState true none) frame stored.2)

end StreamSync
