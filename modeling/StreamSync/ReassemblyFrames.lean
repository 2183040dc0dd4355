import Mathlib.Data.List.Basic
import StreamSync.ReassemblyRuns

namespace StreamSync

open Assembly Run

/-- A frame as it was cut up: its metadata and its chunks in order. -/
structure FragmentedFrame where
  protocolVersion : ProtocolVersion
  clientId : ClientId
  runId : RunId
  frameId : UInt64
  captureTimestamp : TimestampMicros
  isKeyframe : Bool
  width : UInt32
  height : UInt32
  fpsNominal : UInt32
  chunks : List (List UInt8)
  chunks_ne : chunks ≠ []
  chunks_lt : chunks.length < 4294967296
  payload_lt : chunks.flatten.length < 4294967296
deriving DecidableEq

namespace FragmentedFrame

def key (frame : FragmentedFrame) : ServerVideoFrameReassemblyKey :=
  ⟨frame.clientId, frame.runId, frame.frameId⟩

def count (frame : FragmentedFrame) : Nat := frame.chunks.length

def chunk (frame : FragmentedFrame) (i : Nat) : List UInt8 := frame.chunks[i]?.getD []

def fragment (frame : FragmentedFrame) (i : Nat) : VideoFrameFragment where
  messageType := .videoFrameFragment
  protocolVersion := frame.protocolVersion
  clientId := frame.clientId
  runId := frame.runId
  frameId := frame.frameId
  captureTimestamp := frame.captureTimestamp
  isKeyframe := frame.isKeyframe
  width := frame.width
  height := frame.height
  fpsNominal := frame.fpsNominal
  totalPayloadLen := UInt32.ofNat frame.chunks.flatten.length
  chunkIndex := UInt32.ofNat i
  chunkCount := UInt32.ofNat frame.count
  chunkPayloadLen := (frame.chunk i).length
  chunkPayload := frame.chunk i

/-- The frame that the chunks are put together to. -/
def whole (frame : FragmentedFrame) : VideoFrame where
  messageType := .videoFrame
  protocolVersion := frame.protocolVersion
  clientId := frame.clientId
  runId := frame.runId
  frameId := frame.frameId
  captureTimestamp := frame.captureTimestamp
  sendTimestamp := frame.captureTimestamp
  isKeyframe := frame.isKeyframe
  metadataReserved := Vector.replicate 3 0
  width := frame.width
  height := frame.height
  fpsNominal := frame.fpsNominal
  codec := .h264
  payloadSize := frame.chunks.flatten.length
  payload := frame.chunks.flatten

variable (frame : FragmentedFrame)

theorem count_pos : 0 < frame.count := List.length_pos_iff.mpr frame.chunks_ne

theorem count_toNat : (UInt32.ofNat frame.count).toNat = frame.count :=
  UInt32.toNat_ofNat_of_lt' frame.chunks_lt

theorem index_toNat {i : Nat} (hi : i < frame.count) : (UInt32.ofNat i).toNat = i :=
  UInt32.toNat_ofNat_of_lt' (Nat.lt_trans hi frame.chunks_lt)

/-- The slots of a table entry that holds just the chunks with the given indices. -/
def slots (s : Finset Nat) : List (Option (List UInt8)) :=
  frame.chunks.mapIdx fun i chunk => if i ∈ s then some chunk else none

theorem length_slots (s : Finset Nat) : (frame.slots s).length = frame.count := List.length_mapIdx

theorem slots_getElem? (s : Finset Nat) {i : Nat} (hi : i < frame.count) :
    (frame.slots s)[i]? = some (if i ∈ s then some (frame.chunk i) else none) := by
  have hc : frame.chunks[i]? = some frame.chunks[i] := List.getElem?_eq_getElem hi
  simp only [slots, List.getElem?_mapIdx, chunk, hc, Option.map_some, Option.getD_some]

theorem slots_empty : frame.slots ∅ = List.replicate frame.count none := by
  simp [slots, count, List.mapIdx_eq_zipIdx_map, List.map_const']

theorem slots_insert (s : Finset Nat) {i : Nat} (hi : i < frame.count) :
    (frame.slots s).set i (some (frame.chunk i)) = frame.slots (insert i s) := by
  refine List.ext_getElem? fun j => ?_
  by_cases hj : j < frame.count
  · rw [List.getElem?_set, length_slots, slots_getElem? frame s hj, slots_getElem? frame _ hj]
    by_cases hij : i = j
    · subst hij
      simp [hi]
    · have hji : j ≠ i := fun h => hij h.symm
      simp [hij, hji]
  · have hl : ∀ t, (frame.slots t).length ≤ j := fun t => by
      rw [length_slots]
      omega
    rw [List.getElem?_eq_none (hl _), List.getElem?_eq_none]
    rw [List.length_set]
    exact hl s

theorem slots_full {s : Finset Nat} (h : Finset.range frame.count ⊆ s) :
    frame.slots s = frame.chunks.map some := by
  refine List.ext_getElem? fun j => ?_
  by_cases hj : j < frame.count
  · rw [slots_getElem? frame s hj, if_pos (h (Finset.mem_range.mpr hj)), List.getElem?_map, chunk,
      List.getElem?_eq_getElem hj]
    rfl
  · have hlen : frame.count ≤ j := by omega
    rw [List.getElem?_eq_none (by rw [length_slots]; exact hlen),
      List.getElem?_eq_none (by rw [List.length_map]; exact hlen)]

theorem slots_complete_iff (s : Finset Nat) :
    ((frame.slots s).filter Option.isSome).length = frame.count ↔ Finset.range frame.count ⊆ s := by
  rw [← length_slots frame s, List.length_filter_eq_length_iff]
  refine ⟨fun h i hi => ?_, fun h slot hslot => ?_⟩
  · have hi' : i < frame.count := by simpa [length_slots] using hi
    have hmem : (if i ∈ s then some (frame.chunk i) else none) ∈ frame.slots s :=
      List.mem_of_getElem? (slots_getElem? frame s hi')
    by_contra hnot
    rw [if_neg hnot] at hmem
    have hsome := h none hmem
    simp at hsome
  · rw [length_slots] at h
    rw [slots_full frame h, List.mem_map] at hslot
    obtain ⟨chunk, -, rfl⟩ := hslot
    rfl

/-- The state has the metadata of the frame, and holds just the chunks with the given indices. -/
structure Holds (frame : FragmentedFrame) (s : Finset Nat)
    (state : ServerVideoFrameReassemblyFrameState) : Prop where
  metadata : ∀ i, metadataMatches state (frame.fragment i) = true
  chunks : state.chunks = frame.slots s

variable {frame} {s : Finset Nat} {state : ServerVideoFrameReassemblyFrameState}

theorem holds_new (i : Nat) : Holds frame ∅ (.new (frame.fragment i)) := by
  refine ⟨fun j => by simp [metadataMatches, ServerVideoFrameReassemblyFrameState.new, fragment], ?_⟩
  rw [slots_empty]
  exact congrArg (List.replicate · none) frame.count_toNat

theorem Holds.countDuplicate (h : Holds frame s state) : Holds frame s state.countDuplicate :=
  ⟨h.metadata, h.chunks⟩

theorem Holds.storeChunk (h : Holds frame s state) {i : Nat} (hi : i < frame.count) :
    Holds frame (insert i s) (state.storeChunk i (frame.chunk i)) := by
  refine ⟨h.metadata, ?_⟩
  rw [← slots_insert frame s hi, ← h.chunks]
  rfl

theorem Holds.chunkAt (h : Holds frame s state) {i : Nat} (hi : i < frame.count) :
    (state.chunkAt i).isSome ↔ i ∈ s := by
  rw [ServerVideoFrameReassemblyFrameState.chunkAt, h.chunks, slots_getElem? frame s hi]
  by_cases hs : i ∈ s <;> simp [hs]

theorem Holds.chunkCount (h : Holds frame s state) : state.chunkCount.toNat = frame.count := by
  rw [← state.length_chunks, h.chunks, length_slots]

theorem Holds.isComplete (h : Holds frame s state) :
    state.isComplete = true ↔ Finset.range frame.count ⊆ s := by
  rw [← slots_complete_iff, ServerVideoFrameReassemblyFrameState.isComplete, decide_eq_true_iff,
    h.chunkCount, ServerVideoFrameReassemblyFrameState.fragmentsReceived, h.chunks]

theorem Holds.reassemblePayload (h : Holds frame s state) (hs : Finset.range frame.count ⊆ s) :
    state.reassemblePayload = frame.chunks.flatten := by
  rw [ServerVideoFrameReassemblyFrameState.reassemblePayload, h.chunks, slots_full frame hs,
    List.filterMap_map]
  simp

theorem Holds.totalPayloadLen (h : Holds frame s state) :
    state.totalPayloadLen.toNat = frame.chunks.flatten.length := by
  have hm := h.metadata 0
  simp only [metadataMatches, Bool.and_eq_true, decide_eq_true_iff] at hm
  rw [hm.1.2]
  exact UInt32.toNat_ofNat_of_lt' frame.payload_lt

theorem Holds.reassembledFrame (h : Holds frame s state) (hs : Finset.range frame.count ⊆ s) (i : Nat) :
    reassembledFrame state (frame.fragment i) = frame.whole := by
  have hm := h.metadata 0
  simp only [metadataMatches, Bool.and_eq_true, decide_eq_true_iff] at hm
  obtain ⟨⟨⟨⟨⟨⟨⟨hversion, hcapture⟩, hkeyframe⟩, hwidth⟩, hheight⟩, hfps⟩, -⟩, -⟩ := hm
  simp only [StreamSync.reassembledFrame, whole, h.reassemblePayload hs, hversion, hcapture, hkeyframe,
    hwidth, hheight, hfps, fragment]

theorem validateFragmentShape_fragment {i : Nat} (hi : i < frame.count) :
    validateFragmentShape (frame.fragment i) = none := by
  have hn := frame.count_toNat
  have hzero : (frame.fragment i).chunkCount ≠ 0 := by
    intro h
    have h' := congrArg UInt32.toNat h
    change (UInt32.ofNat frame.count).toNat = 0 at h'
    omega
  have hrange : ¬(frame.fragment i).chunkCount ≤ (frame.fragment i).chunkIndex := by
    rw [UInt32.le_iff_toNat_le]
    change ¬(UInt32.ofNat frame.count).toNat ≤ (UInt32.ofNat i).toNat
    rw [hn, frame.index_toNat hi]
    omega
  have hlen : ¬(frame.fragment i).chunkPayloadLen ≠ (frame.fragment i).chunkPayload.length :=
    fun h => h rfl
  rw [validateFragmentShape, if_neg hzero, if_neg hrange, if_neg hlen]

/-- The entry of a frame while the chunks with the given indices are pending. -/
inductive EntryOf (frame : FragmentedFrame) :
    Finset Nat → Option ServerVideoFrameReassemblyFrameState → Prop where
  | nothing : EntryOf frame ∅ none
  | pending {t : Finset Nat} {stored : ServerVideoFrameReassemblyFrameState} (part : t.Nonempty)
      (missing : ¬Finset.range frame.count ⊆ t) (holds : Holds frame t stored) :
      EntryOf frame t (some stored)

theorem EntryOf.holds_getD {entry : Option ServerVideoFrameReassemblyFrameState}
    (h : EntryOf frame s entry) (i : Nat) :
    Holds frame s (entry.getD (.new (frame.fragment i))) := by
  cases h with
  | nothing => exact holds_new i
  | pending _ _ holds => exact holds

theorem EntryOf.missing {entry : Option ServerVideoFrameReassemblyFrameState}
    (h : EntryOf frame s entry) : ¬Finset.range frame.count ⊆ s := by
  cases h with
  | nothing =>
    intro hsub
    have h0 := hsub (Finset.mem_range.mpr frame.count_pos)
    simp at h0
  | pending _ missing _ => exact missing

theorem EntryOf.isSome_iff {entry : Option ServerVideoFrameReassemblyFrameState}
    (h : EntryOf frame s entry) : entry.isSome ↔ s.Nonempty := by
  cases h with
  | nothing => simp
  | pending part _ _ => simp [part]

/-- One fragment of a frame: it joins the pending chunks, and the last missing one completes. -/
theorem applyToEntry_fragment {entry : Option ServerVideoFrameReassemblyFrameState}
    (h : EntryOf frame s entry) {i : Nat} (hi : i < frame.count) :
    EntryOf frame (collect frame.count s i) (applyToEntry entry (frame.fragment i)).1 ∧
      (applyToEntry entry (frame.fragment i)).2.completed? =
        if completes frame.count s i then some frame.whole else none := by
  have hholds := h.holds_getD i
  let frameState := entry.getD (.new (frame.fragment i))
  have hindex : (frame.fragment i).chunkIndex.toNat = i := frame.index_toNat hi
  have hm : ¬metadataMatches frameState (frame.fragment i) = false := by
    rw [hholds.metadata i]
    exact Bool.noConfusion
  rw [applyToEntry, validateFragmentShape_fragment hi]
  dsimp only
  rw [if_neg hm, hindex]
  by_cases hd : (frameState.chunkAt i).isSome
  · have hmem : i ∈ s := (hholds.chunkAt hi).mp hd
    have hnot : ¬completes frame.count s i := by
      rw [completes, Finset.insert_eq_of_mem hmem]
      exact h.missing
    rw [if_pos hd, collect_of_not_completes hnot, if_neg hnot, Finset.insert_eq_of_mem hmem]
    exact ⟨.pending ⟨i, hmem⟩ h.missing hholds.countDuplicate, rfl⟩
  rw [if_neg hd]
  have hstored := hholds.storeChunk hi
  by_cases hc : completes frame.count s i
  · have hcomplete : ¬(frameState.storeChunk i (frame.chunk i)).isComplete = false := by
      rw [hstored.isComplete.mpr hc]
      exact Bool.noConfusion
    have hlen : ¬(frameState.storeChunk i (frame.chunk i)).reassemblePayload.length ≠
        (frameState.storeChunk i (frame.chunk i)).totalPayloadLen.toNat := by
      rw [hstored.reassemblePayload hc, hstored.totalPayloadLen]
      exact fun hne => hne rfl
    have hchunk : (frame.fragment i).chunkPayload = frame.chunk i := rfl
    rw [hchunk, if_neg hcomplete, if_neg hlen, collect_of_completes hc, if_pos hc]
    exact ⟨.nothing, congrArg some (hstored.reassembledFrame hc i)⟩
  · have hincomplete : (frameState.storeChunk i (frame.chunk i)).isComplete = false := by
      rw [← Bool.not_eq_true, hstored.isComplete]
      exact hc
    have hchunk : (frame.fragment i).chunkPayload = frame.chunk i := rfl
    rw [hchunk, if_pos hincomplete, collect_of_not_completes hc, if_neg hc]
    exact ⟨.pending ⟨i, Finset.mem_insert_self i s⟩ hc hstored, rfl⟩

end FragmentedFrame

end StreamSync
