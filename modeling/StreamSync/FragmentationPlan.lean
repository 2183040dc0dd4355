import StreamSync.Lib.Fallible
import StreamSync.Fragmentation
import StreamSync.ReassemblyFrames

namespace StreamSync

open Chunks Fallible

theorem FragmentedFrame.map_zipIdx_chunks (frame : FragmentedFrame) :
    (frame.chunks.zipIdx.map fun slot => { frame.fragment slot.2 with
      chunkPayloadLen := slot.1.length, chunkPayload := slot.1 }) =
      (List.range frame.count).map frame.fragment := by
  refine List.ext_getElem (by simp [FragmentedFrame.count]) fun i hi hi' => ?_
  have hc : i < frame.chunks.length := by simpa using hi
  have hchunk : frame.chunk i = frame.chunks[i] := by
    rw [FragmentedFrame.chunk, List.getElem?_eq_getElem hc]
    rfl
  simp [FragmentedFrame.fragment, hchunk]

namespace ClientVideoFrameFragmentationBoundary

variable {boundary : ClientVideoFrameFragmentationBoundary} {frame : VideoFrame}

theorem of_tryU32 {ε : Type} {value : Nat} {error : ε} {n : UInt32} (h : tryU32 value error = .ok n) :
    value < 4294967296 ∧ n = UInt32.ofNat value := by
  unfold tryU32 at h
  split at h
  next hv => exact ⟨hv, (Except.ok.inj h).symm⟩
  next => cases h

/-- The bytes that are left for a chunk under the default policy. -/
def chunkCapacity (frame : VideoFrame) : Nat :=
  min clientVideoFrameFragmentTargetChunkPayloadLen
    (clientVideoFrameSafeMaxDatagramLen - fragmentOverheadLen frame)

theorem chunkCapacity_pos (h : fragmentOverheadLen frame < clientVideoFrameSafeMaxDatagramLen) :
    0 < chunkCapacity frame := by
  unfold chunkCapacity clientVideoFrameFragmentTargetChunkPayloadLen
  omega

theorem of_plan {plan : ClientVideoFrameFragmentationPlan} (hp : frame.payload ≠ [])
    (h : boundary.plan frame = .ok plan) :
    fragmentOverheadLen frame < clientVideoFrameSafeMaxDatagramLen ∧
      divCeil frame.payload.length (chunkCapacity frame) < 4294967296 ∧
      plan = ⟨frame.payload.length, chunkCapacity frame,
        UInt32.ofNat (divCeil frame.payload.length (chunkCapacity frame))⟩ := by
  obtain ⟨policy, rfl⟩ := boundary
  rw [ClientVideoFrameFragmentationBoundary.plan] at h
  by_cases hc : clientVideoFrameSafeMaxDatagramLen ≤ fragmentOverheadLen frame
  · cases (if_pos hc).symm.trans h
  · obtain ⟨chunkCount, hcount, h⟩ := bind_eq_ok_iff.mp ((if_neg hc).symm.trans h)
    rw [if_neg hp] at hcount
    obtain ⟨hlt, rfl⟩ := of_tryU32 hcount
    cases Except.ok.inj h
    exact ⟨Nat.lt_of_not_le hc, hlt, rfl⟩

/-- A frame that can be fragmented, with its payload cut to the capacity. -/
def cut (frame : VideoFrame) (hp : frame.payload ≠ [])
    (ho : fragmentOverheadLen frame < clientVideoFrameSafeMaxDatagramLen)
    (hc : divCeil frame.payload.length (chunkCapacity frame) < 4294967296)
    (hl : frame.payload.length < 4294967296) : FragmentedFrame where
  protocolVersion := frame.protocolVersion
  clientId := frame.clientId
  runId := frame.runId
  frameId := frame.frameId
  captureTimestamp := frame.captureTimestamp
  isKeyframe := frame.isKeyframe
  width := frame.width
  height := frame.height
  fpsNominal := frame.fpsNominal
  chunks := chunks (chunkCapacity frame) frame.payload
  chunks_ne := chunks_ne_nil (chunkCapacity_pos ho) hp
  chunks_lt := (length_chunks _ _).symm ▸ hc
  payload_lt := (flatten_chunks (chunkCapacity_pos ho) frame.payload).symm ▸ hl

/-- A cut of a frame: its metadata, and chunks that make up its payload and leave room for the
rest of a fragment in a datagram. -/
structure CutOf (frame : VideoFrame) (cut : FragmentedFrame) : Prop where
  key : cut.key = ⟨frame.clientId, frame.runId, frame.frameId⟩
  overhead : fragmentOverheadLen frame < clientVideoFrameSafeMaxDatagramLen
  chunkLen : ∀ chunk ∈ cut.chunks,
    fragmentOverheadLen frame + chunk.length ≤ clientVideoFrameSafeMaxDatagramLen
  whole : cut.whole = { frame with
    messageType := .videoFrame, sendTimestamp := frame.captureTimestamp
    metadataReserved := Vector.replicate 3 0, payloadSize := frame.payload.length }

theorem of_fragment {fragments : List VideoFrameFragment} (hp : frame.payload ≠ [])
    (h : boundary.fragment frame = .ok fragments) :
    ∃ cut : FragmentedFrame, CutOf frame cut ∧ fragments = (List.range cut.count).map cut.fragment := by
  obtain ⟨plan, hplan, h⟩ := bind_eq_ok_iff.mp h
  obtain ⟨ho, hc, rfl⟩ := of_plan hp hplan
  obtain ⟨totalPayloadLen, htotal, h⟩ := bind_eq_ok_iff.mp h
  obtain ⟨hl, rfl⟩ := of_tryU32 htotal
  have hflat := flatten_chunks (chunkCapacity_pos ho) frame.payload
  refine ⟨cut frame hp ho hc hl, ⟨rfl, ho, fun chunk hmem => ?_, ?_⟩, ?_⟩
  · have hlen := length_chunk_le hmem
    unfold chunkCapacity at hlen
    omega
  · simp only [FragmentedFrame.whole, cut, hflat]
  have hvalue := mapM_eq_ok (g := fun slot : List UInt8 × Nat =>
    { (cut frame hp ho hc hl).fragment slot.2 with
      chunkPayloadLen := slot.1.length, chunkPayload := slot.1 }) ?_ h
  · rw [hvalue]
    exact FragmentedFrame.map_zipIdx_chunks _
  · intro slot fragment hslot
    obtain ⟨chunkIndex, hindex, hslot⟩ := bind_eq_ok_iff.mp hslot
    obtain ⟨-, rfl⟩ := of_tryU32 hindex
    rw [← Except.ok.inj hslot]
    simp only [FragmentedFrame.fragment, cut, hflat, FragmentedFrame.count, length_chunks]

end ClientVideoFrameFragmentationBoundary

end StreamSync
