import StreamSync.FragmentationPlan
import StreamSync.ProtocolRoundTrip
import StreamSync.ReassemblyOnce

namespace StreamSync

open Assembly ByteCursor Run ClientVideoFrameFragmentationBoundary

theorem cat_layout_fragment (f : VideoFrameFragment) (hc : (asBytes f.clientId).length < 2 ^ 16)
    (hr : (asBytes f.runId).length < 2 ^ 16) (hl : f.chunkPayloadLen = f.chunkPayload.length)
    (hp : f.chunkPayload.length < 2 ^ 32) :
    ∃ payload, Layout.cat f.layout = some payload ∧
      payload.length = 2 + (asBytes f.clientId).length + 2 + (asBytes f.runId).length +
        videoFrameFragmentNumericMetadataLen + f.chunkPayload.length := by
  have hclient : stringLayout f.clientId = some _ := if_pos hc
  have hrun : stringLayout f.runId = some _ := if_pos hr
  have hsized : sizedPayloadLayout (f.chunkPayloadLen, f.chunkPayload) = some _ := if_pos ⟨hl, hp⟩
  simp only [VideoFrameFragment.layout, Layout.cat_cons, Layout.cat_nil, hclient, hrun, hsized, u64Layout,
    u32Layout, boolLayout, Option.bind_some, Option.map_some]
  refine ⟨_, rfl, ?_⟩
  simp only [List.length_append, length_u16ToLe, length_u32ToLe, length_u64ToLe, List.length_cons,
    List.length_nil, videoFrameFragmentNumericMetadataLen]
  omega

/-- A fragment that fits in a datagram is encoded to no more than that, and decoded to itself. -/
theorem fragment_travels {v : ProtocolVersion} {f : VideoFrameFragment} {limit : Nat}
    (hlimit : limit ≤ 65536) (ht : f.messageType = .videoFrameFragment) (hv : f.protocolVersion = v)
    (hl : f.chunkPayloadLen = f.chunkPayload.length)
    (hfits : fixedHeaderLen.toNat + 2 + (asBytes f.clientId).length + 2 + (asBytes f.runId).length +
      videoFrameFragmentNumericMetadataLen + f.chunkPayload.length ≤ limit) :
    ∃ bytes, encodeMessage ⟨v⟩ (.videoFrameFragment f) [] = .ok bytes ∧ bytes.length ≤ limit ∧
      decodePacket ⟨v⟩ bytes = .ok (.videoFrameFragment f) := by
  have hheader : fixedHeaderLen.toNat = 16 := rfl
  obtain ⟨payload, hcat, hlen⟩ :=
    cat_layout_fragment f (by omega) (by omega) hl (by omega)
  have henc : encodeMessage ⟨v⟩ (.videoFrameFragment f) [] = .ok _ :=
    encodeMessage_eq_ok_iff.mpr ⟨payload, hcat, by omega, rfl⟩
  refine ⟨_, henc, ?_, ?_⟩
  · rw [encodeFixedHeader_eq_bytes, List.length_append, FixedHeader.length_bytes]
    omega
  · rw [decodePacket_of_encodeMessage henc]
    obtain ⟨_, _⟩ := f
    cases ht
    cases hv
    rfl

def VideoFrame.received (frame : VideoFrame) : VideoFrame :=
  { frame with
    messageType := .videoFrame, sendTimestamp := frame.captureTimestamp
    metadataReserved := Vector.replicate 3 0, payloadSize := frame.payload.length }

/-- The input is what the decoder makes of the datagram of one of the fragments. -/
def ArrivesFrom (v : ProtocolVersion) (fragments : List VideoFrameFragment) (input : FragmentInput) :
    Prop :=
  ∃ fragment ∈ fragments, ∃ bytes, encodeMessage ⟨v⟩ (.videoFrameFragment fragment) [] = .ok bytes ∧
    decodePacket ⟨v⟩ bytes = .ok (.videoFrameFragment input.packet.fragment)

/-- Arrivals in which the fragments of a key come in any order, repeated or not, among fragments of
other keys, up to the one that was missing. -/
structure Delivery (v : ProtocolVersion) (fragments : List VideoFrameFragment)
    (key : ServerVideoFrameReassemblyKey) (earlier : List FragmentInput) (last : FragmentInput)
    (later : List FragmentInput) : Prop where
  arrived : ∀ input ∈ earlier ++ [last], input.key = key → ArrivesFrom v fragments input
  last_key : last.key = key
  everyFragment : ∀ fragment ∈ fragments, ∃ input ∈ earlier ++ [last], input.packet.fragment = fragment
  last_missing : ∀ input ∈ earlier, input.packet.fragment ≠ last.packet.fragment
  later_key : ∀ input ∈ later, input.key ≠ key

/-- The frame is completed by the last arrival, once, and other entries do not see it. -/
structure CompletedAt (state : ServerVideoFrameReassemblyState × ServerVideoFrameQueueState)
    (earlier : List FragmentInput) (last : FragmentInput) (later : List FragmentInput)
    (key : ServerVideoFrameReassemblyKey) (frame : VideoFrame) : Prop where
  notBefore : completionsOf key (runReassembly state earlier).2 = []
  atLast : (applyFragmentInput (runReassembly state earlier).1 last).2.outcome.completed? = some frame
  once : completionsOf key (runReassembly state (earlier ++ last :: later)).2 = [frame]
  nothingLeft : (runReassembly state (earlier ++ last :: later)).1.1.frames[key]? = none
  othersKept : ∀ other, other ≠ key →
    (runReassembly state (earlier ++ last :: later)).1.1.frames[other]? =
      (runReassembly state ((earlier ++ last :: later).filter (·.key ≠ key))).1.1.frames[other]?

namespace FragmentedFrame

variable {cut : FragmentedFrame}

theorem chunk_mem (cut : FragmentedFrame) {i : Nat} (hi : i < cut.count) : cut.chunk i ∈ cut.chunks := by
  rw [chunk, List.getElem?_eq_getElem hi]
  exact List.getElem_mem hi

theorem covers_indices_iff {inputs : List FragmentInput}
    (hin : ∀ input ∈ inputs, input.key = cut.key → cut.Carries input) :
    Covers cut.count (cut.indices inputs) ↔
      ∀ i < cut.count, ∃ input ∈ inputs, input.packet.fragment = cut.fragment i := by
  refine forall₂_congr fun i hi => ?_
  rw [indices, List.mem_map]
  refine ⟨fun ⟨input, hmem, hindex⟩ => ?_, fun ⟨input, hmem, hf⟩ => ?_⟩
  · obtain ⟨hm, hk⟩ := reassemblyMachine.mem_inputsOf.mp hmem
    exact ⟨input, hm, hindex ▸ (hin input hm hk).fragment_eq.2⟩
  · have hc : cut.Carries input := ⟨i, hi, hf⟩
    refine ⟨input, reassemblyMachine.mem_inputsOf.mpr ⟨hmem, hc.key_eq⟩, ?_⟩
    rw [indexOf, hf]
    exact cut.index_toNat hi

theorem indices_append (inputs inputs' : List FragmentInput) :
    cut.indices (inputs ++ inputs') = cut.indices inputs ++ cut.indices inputs' := by
  rw [indices, reassemblyMachine.inputsOf_append, List.map_append]
  rfl

theorem indices_of_key {input : FragmentInput} (h : input.key = cut.key) :
    cut.indices [input] = [indexOf input] := by
  rw [indices, reassemblyMachine.inputsOf_cons_same [] h]
  rfl

theorem indices_of_others {inputs : List FragmentInput} (h : ∀ input ∈ inputs, input.key ≠ cut.key) :
    cut.indices inputs = [] := by
  have hnone : reassemblyMachine.inputsOf cut.key inputs = [] :=
    List.filter_eq_nil_iff.mpr fun input hi => by
      show ¬decide (input.key = cut.key) = true
      simpa using h input hi
  rw [indices, hnone]
  rfl

/-- The arrivals up to the missing fragment complete a cut frame. -/
theorem completedAt_of_missing
    {state : ServerVideoFrameReassemblyState × ServerVideoFrameQueueState}
    (hstate : state.1.frames[cut.key]? = none) {earlier : List FragmentInput} {last : FragmentInput}
    {later : List FragmentInput}
    (hin : ∀ input ∈ earlier ++ [last], input.key = cut.key → cut.Carries input)
    (hlast : cut.Carries last) (hevery : Covers cut.count (cut.indices (earlier ++ [last])))
    (hmissing : ¬Covers cut.count (cut.indices earlier))
    (hlater : ∀ input ∈ later, input.key ≠ cut.key) :
    CompletedAt state earlier last later cut.key cut.whole := by
  have hempty : EntryOf cut ∅ state.1.frames[cut.key]? := hstate ▸ EntryOf.nothing
  have hindices : cut.indices (earlier ++ [last]) = cut.indices earlier ++ [indexOf last] := by
    rw [indices_append, indices_of_key hlast.key_eq]
  rw [hindices] at hevery
  obtain ⟨hnow, hone, hnothing⟩ := first_complete hmissing hevery
  obtain ⟨hentry, hbefore⟩ := entry_runReassembly state hempty earlier fun input hi hk =>
    hin input (List.mem_append_left _ hi) hk
  have hall : cut.indices (earlier ++ last :: later) = cut.indices earlier ++ [indexOf last] := by
    rw [← List.singleton_append, ← List.append_assoc, indices_append, hindices, indices_of_others hlater,
      List.append_nil]
  obtain ⟨hentry', hdone⟩ := entry_runReassembly state hempty (earlier ++ last :: later) fun input hi hk => by
      rw [← List.singleton_append, ← List.append_assoc, List.mem_append] at hi
      rcases hi with hi | hi
      · exact hin input hi hk
      · exact absurd hk (hlater input hi)
  rw [hall] at hentry' hdone
  refine ⟨?_, ?_, ?_, ?_, fun other ho => ?_⟩
  · rw [hbefore]
    exact congrArg (List.replicate · cut.whole) (incomplete hmissing).1
  · obtain ⟨hi, hf⟩ := hlast.fragment_eq
    rw [(applyFragmentInput_applied (runReassembly state earlier).1 last).outcome, hlast.key_eq, hf,
      (applyToEntry_fragment hentry hi).2]
    exact if_pos hnow
  · rw [hdone]
    exact congrArg (List.replicate · cut.whole) hone
  · have hpart := hentry'.isSome_iff
    rw [show pendingFrom cut.count ∅ (cut.indices earlier ++ [indexOf last]) = ∅ from hnothing] at hpart
    simpa using hpart
  · refine reassemblyMachine.view_run_eq_of_inputs rfl ?_
    rw [KeyedMachine.inputsOf, KeyedMachine.inputsOf, List.filter_filter]
    refine List.filter_congr fun input _ => ?_
    by_cases hk : input.key = other
    · simp [show reassemblyMachine.key input = other from hk, hk, ho]
    · simp [show reassemblyMachine.key input ≠ other from hk]

end FragmentedFrame

/-- Fragmentation on the client and reassembly on the server are inverse: the fragments fit in
datagrams, and their arrivals give back the frame. -/
theorem fragment_reassembles {boundary : ClientVideoFrameFragmentationBoundary} {frame : VideoFrame}
    {fragments : List VideoFrameFragment} (hp : frame.payload ≠ [])
    (h : boundary.fragment frame = .ok fragments) :
    (∀ fragment ∈ fragments, ∃ bytes,
      encodeMessage ⟨frame.protocolVersion⟩ (.videoFrameFragment fragment) [] = .ok bytes ∧
        bytes.length ≤ boundary.policy.safeMaxDatagramLen ∧
        decodePacket ⟨frame.protocolVersion⟩ bytes = .ok (.videoFrameFragment fragment)) ∧
    ∀ (state : ServerVideoFrameReassemblyState × ServerVideoFrameQueueState)
      (earlier : List FragmentInput) (last : FragmentInput) (later : List FragmentInput),
      state.1.frames[frame.reassemblyKey]? = none →
      Delivery frame.protocolVersion fragments frame.reassemblyKey earlier last later →
      CompletedAt state earlier last later frame.reassemblyKey frame.received := by
  obtain ⟨cut, hcut, rfl⟩ := of_fragment hp h
  have hclient : cut.clientId = frame.clientId := congrArg (·.clientId) hcut.key
  have hrun : cut.runId = frame.runId := congrArg (·.runId) hcut.key
  have hversion : cut.protocolVersion = frame.protocolVersion := congrArg (·.protocolVersion) hcut.whole
  have htravels : ∀ i < cut.count, ∃ bytes,
      encodeMessage ⟨frame.protocolVersion⟩ (.videoFrameFragment (cut.fragment i)) [] = .ok bytes ∧
        bytes.length ≤ clientVideoFrameSafeMaxDatagramLen ∧
        decodePacket ⟨frame.protocolVersion⟩ bytes = .ok (.videoFrameFragment (cut.fragment i)) := by
    intro i hi
    have hchunk : cut.chunk i ∈ cut.chunks := cut.chunk_mem hi
    have hlen := hcut.chunkLen _ hchunk
    refine fragment_travels (by decide) rfl hversion rfl ?_
    show fixedHeaderLen.toNat + 2 + (asBytes cut.clientId).length + 2 + (asBytes cut.runId).length +
      videoFrameFragmentNumericMetadataLen + (cut.chunk i).length ≤ _
    rw [hclient, hrun]
    exact hlen
  refine ⟨fun fragment hf => ?_, fun state earlier last later hstate hd => ?_⟩
  · obtain ⟨i, hi, rfl⟩ := List.mem_map.mp hf
    rw [boundary.policy_eq]
    exact htravels i (List.mem_range.mp hi)
  have hcarries : ∀ input, ArrivesFrom frame.protocolVersion ((List.range cut.count).map cut.fragment)
      input → cut.Carries input := by
    intro input ⟨fragment, hf, bytes, henc, hdec⟩
    obtain ⟨i, hi, rfl⟩ := List.mem_map.mp hf
    have hi := List.mem_range.mp hi
    obtain ⟨bytes', henc', -, hdec'⟩ := htravels i hi
    cases Except.ok.inj (henc.symm.trans henc')
    have hmessage := Except.ok.inj (hdec.symm.trans hdec')
    exact ⟨i, hi, ProtocolMessage.videoFrameFragment.inj hmessage⟩
  have hkey : cut.key = frame.reassemblyKey := hcut.key
  have hwhole : cut.whole = frame.received := hcut.whole
  rw [← hkey] at hstate hd
  have hin : ∀ input ∈ earlier ++ [last], input.key = cut.key → cut.Carries input :=
    fun input hi hk => hcarries input (hd.arrived input hi hk)
  have hlast : cut.Carries last := hin last (by simp) hd.last_key
  have hevery : Covers cut.count (cut.indices (earlier ++ [last])) :=
    (FragmentedFrame.covers_indices_iff hin).mpr fun i hi =>
      hd.everyFragment _ (List.mem_map_of_mem (List.mem_range.mpr hi))
  have hmissing : ¬Covers cut.count (cut.indices earlier) := by
    intro hc
    obtain ⟨i, hi, hf⟩ := hlast
    obtain ⟨input, hm, hf'⟩ := (FragmentedFrame.covers_indices_iff fun input hi =>
      hin input (List.mem_append_left _ hi)).mp hc i hi
    exact hd.last_missing input hm (hf'.trans hf.symm)
  rw [← hkey, ← hwhole]
  exact FragmentedFrame.completedAt_of_missing hstate hin hlast hevery hmissing hd.later_key

def sampleVideoFrame (metadataReserved : Vector UInt8 3) (payload : List UInt8) : VideoFrame where
  messageType := .videoFrame
  protocolVersion := 1
  clientId := "c"
  runId := "r"
  frameId := 7
  captureTimestamp := 100
  sendTimestamp := 130
  isKeyframe := true
  metadataReserved
  width := 640
  height := 360
  fpsNominal := 30
  codec := .h264
  payloadSize := payload.length
  payload

def sampleFragment (totalPayloadLen chunkIndex chunkCount : UInt32) (chunkPayload : List UInt8) :
    VideoFrameFragment where
  messageType := .videoFrameFragment
  protocolVersion := 1
  clientId := "c"
  runId := "r"
  frameId := 7
  captureTimestamp := 100
  isKeyframe := true
  width := 640
  height := 360
  fpsNominal := 30
  totalPayloadLen
  chunkIndex
  chunkCount
  chunkPayloadLen := chunkPayload.length
  chunkPayload

def arrival (fragment : VideoFrameFragment) : FragmentInput :=
  let source : PacketSource := ⟨.v4 0x7F000001 5000⟩
  { packet := {
      source, authenticatedSender := ⟨fragment.clientId, source, fragment.runId, 1, none⟩, fragment }
    queuedAt := 200
    policy := ⟨8⟩ }

/-- Two fragments, the second one first and twice. -/
theorem fragment_reassembles_outOfOrder :
    let frame := sampleVideoFrame (Vector.replicate 3 0) (List.replicate 1025 7)
    let first := sampleFragment 1025 0 2 (List.replicate 1024 7)
    let second := sampleFragment 1025 1 2 [7]
    ClientVideoFrameFragmentationBoundary.default.fragment frame = .ok [first, second] ∧
      CompletedAt (.empty, .empty) [arrival second, arrival second] (arrival first) []
        frame.reassemblyKey frame.received := by
  intro frame first second
  have hp : frame.payload ≠ [] := by decide
  have h : ClientVideoFrameFragmentationBoundary.default.fragment frame = .ok [first, second] := by
    decide +kernel
  obtain ⟨htravels, hdelivered⟩ := fragment_reassembles hp h
  have harrives : ∀ fragment ∈ [first, second], ArrivesFrom 1 [first, second] (arrival fragment) := by
    intro fragment hf
    obtain ⟨bytes, henc, -, hdec⟩ := htravels fragment hf
    exact ⟨fragment, hf, bytes, henc, hdec⟩
  refine ⟨h, hdelivered _ _ _ _ rfl ⟨?_, by decide +kernel, ?_, ?_, by simp⟩⟩
  · intro input hi _
    have hi : input = arrival second ∨ input = arrival first := by simpa using hi
    rcases hi with rfl | rfl
    · exact harrives second (by simp)
    · exact harrives first (by simp)
  · intro fragment hf
    have hf : fragment = first ∨ fragment = second := by simpa using hf
    rcases hf with rfl | rfl
    · exact ⟨arrival first, by simp, rfl⟩
    · exact ⟨arrival second, by simp, rfl⟩
  · intro input hi
    have hi : input = arrival second := by simpa using hi
    subst hi
    decide +kernel

/-- The reserved bytes of a frame are not part of its fragments. -/
theorem fragment_reassembles_reserved :
    let frame := sampleVideoFrame #v[1, 0, 0] [9]
    let fragment := sampleFragment 1 0 1 [9]
    ClientVideoFrameFragmentationBoundary.default.fragment frame = .ok [fragment] ∧
      (encodeMessage ⟨1⟩ (.videoFrameFragment fragment) []).bind (decodePacket ⟨1⟩) =
        .ok (.videoFrameFragment fragment) ∧
      ∃ received, (applyFragmentInput (.empty, .empty) (arrival fragment)).2.outcome.completed? =
        some received ∧ received ≠ { frame with sendTimestamp := frame.captureTimestamp } := by
  refine ⟨by decide +kernel, by decide +kernel, _, rfl, by decide +kernel⟩

end StreamSync
