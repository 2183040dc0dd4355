import StreamSync.AuthVideoReceive
import StreamSync.ServerRuns
import StreamSync.VideoQueueConservation

namespace StreamSync

open ByteCursor KeyedTable Lanes Saturating Tally

/-- What one datagram was to the receive loop. -/
inductive VideoPacketNote where
  | rejected (rejection : ServerReceiveLoopGateRejection)
  | auth
  | direct (frame : VideoFrame) (queue : ServerVideoFrameQueueStorageResult)
  | fragment (result : ServerVideoFrameReassemblyApplyResult)
  | nonVideo
  | unregistered

@[simp] def isStored : ServerVideoFrameQueueStorageResult → Bool
  | .stored .. => true
  | .dropped .. => false

namespace VideoPacketNote

/-- The frame that the datagram completed. -/
@[simp] def frame? : VideoPacketNote → Option VideoFrame
  | direct frame _ => some frame
  | fragment (.frameComplete _ frame _) => some frame
  | _ => none

@[simp] def reassembled? : VideoPacketNote → Option VideoFrame
  | fragment (.frameComplete _ frame _) => some frame
  | _ => none

@[simp] def queueResult? : VideoPacketNote → Option ServerVideoFrameQueueStorageResult
  | direct _ queue => some queue
  | fragment (.frameComplete _ _ queue) => some queue
  | _ => none

/-- The frame that the datagram put into the queue. -/
@[simp] def queued? (note : VideoPacketNote) : Option VideoFrame :=
  if note.queueResult?.any isStored then note.frame? else none

@[simp] def directQueued? (note : VideoPacketNote) : Option VideoFrame :=
  if note.reassembled?.isSome then none else note.queued?

@[simp] def isRejected : VideoPacketNote → Bool
  | rejected _ => true
  | _ => false

@[simp] def isAuth : VideoPacketNote → Bool
  | auth => true
  | _ => false

@[simp] def isDirect : VideoPacketNote → Bool
  | direct .. => true
  | _ => false

@[simp] def isFragment : VideoPacketNote → Bool
  | fragment _ => true
  | _ => false

@[simp] def isNonVideo : VideoPacketNote → Bool
  | nonVideo => true
  | _ => false

@[simp] def isDuplicate : VideoPacketNote → Bool
  | fragment (.duplicateFragmentIgnored _) => true
  | _ => false

/-- A fragment that the gate or the reassembly rejects. -/
@[simp] def isRejectedFragment : VideoPacketNote → Bool
  | rejected (.acceptance acceptance) => acceptance.messageType = .videoFrameFragment
  | fragment (.rejectedFragment _) => true
  | _ => false

/-- The frame that made room for the one the datagram completed. -/
def evicted? (note : VideoPacketNote) : Option ServerQueuedVideoFrame :=
  match note.queueResult? with
  | some (.stored _ _ _ droppedOldest) => droppedOldest
  | _ => none

end VideoPacketNote

/-- What the summary does with a note. -/
def ServerReceiveAuthVideoQueueOnceVideoSummary.record (summary : VideoSummary) (note : VideoPacketNote) :
    VideoSummary :=
  let summary := summary.recordPacketReceived
  match note with
  | .rejected rejection => summary.recordRejection rejection
  | .auth => summary
  | .direct frame queue => summary.recordDirectFrame frame queue
  | .fragment result => summary.recordFragment result
  | .nonVideo => summary.recordNonVideo
  | .unregistered => summary

/-- What is set in a summary when a datagram is done or the loop ends. -/
structure VideoReceiveMarks where
  incompleteReassemblyFrames : Nat
  queueLen : Nat
  incompleteFrameProgress : List ServerVideoFrameReassemblyFrameProgress
  receiveTimedOut : Bool
  maxPacketsReached : Bool
  stopReason : Option ServerReceiveAuthVideoQueueStopReason

def VideoReceiveMarks.unset : VideoReceiveMarks := ⟨0, 0, [], false, false, none⟩

namespace ServerReceiveAuthVideoQueueOnceVideoSummary

def marks (summary : VideoSummary) : VideoReceiveMarks :=
  ⟨summary.incompleteReassemblyFrames, summary.queueLen, summary.incompleteFrameProgress,
    summary.receiveTimedOut, summary.maxPacketsReached, summary.stopReason⟩

def withMarks (summary : VideoSummary) (marks : VideoReceiveMarks) : VideoSummary :=
  { summary with
    incompleteReassemblyFrames := marks.incompleteReassemblyFrames
    queueLen := marks.queueLen
    incompleteFrameProgress := marks.incompleteFrameProgress
    receiveTimedOut := marks.receiveTimedOut
    maxPacketsReached := marks.maxPacketsReached
    stopReason := marks.stopReason }

/-- The counters of a summary alone. -/
def counters (summary : VideoSummary) : VideoSummary := summary.withMarks .unset

theorem record_withMarks (summary : VideoSummary) (marks : VideoReceiveMarks) (note : VideoPacketNote) :
    (summary.withMarks marks).record note = (summary.record note).withMarks marks := by
  unfold record
  cases note with
  | rejected rejection =>
    cases rejection with
    | decode => rfl
    | acceptance acceptance =>
      by_cases hfragment : acceptance.messageType = .videoFrameFragment <;>
        simp [recordRejection, recordPacketReceived, withMarks, hfragment]
  | direct frame queue =>
    cases queue <;> cases hkey : frame.isKeyframe <;>
      simp [recordDirectFrame, recordPacketReceived, recordDirectFrameProgress, recordQueuedFrameProgress,
        recordKeyframeQueuedProgress, recordKeyframeReceivedProgress, withMarks, hkey]
  | fragment result =>
    cases result with
    | frameComplete details frame queue =>
      cases queue <;> cases hkey : frame.isKeyframe <;>
        simp [recordFragment, recordFragmentReceived, recordReassembledFrame, recordPacketReceived,
          recordReassembledFrameProgress, recordQueuedFrameProgress, recordKeyframeQueuedProgress,
          recordKeyframeReceivedProgress, withMarks, hkey]
    | _ => rfl
  | _ => rfl

theorem counters_record (summary : VideoSummary) (note : VideoPacketNote) :
    (summary.record note).counters = summary.counters.record note :=
  (record_withMarks summary .unset note).symm

theorem marks_record (summary : VideoSummary) (note : VideoPacketNote) :
    (summary.record note).marks = summary.marks := by
  have h := congrArg marks (record_withMarks summary summary.marks note)
  exact h

end ServerReceiveAuthVideoQueueOnceVideoSummary

/-- What a datagram is in a state. -/
def videoPacketNote (config : ServerRuntimeConfig) (state : ServerState) (source : PacketSource)
    (bytes : List UInt8) (queuedAt : TimestampMicros) : VideoPacketNote :=
  match handleReceivedPacketWithGate config.expectedProtocolVersion state.registry source bytes with
  | .error rejection => .rejected rejection
  | .ok (.authRequest _ _) => .auth
  | .ok (.videoFrame source frame) =>
    match prepareForHandler state.registry (.videoFrame source frame) with
    | .error _ => .unregistered
    | .ok (.videoFrame packet) =>
      .direct packet.frame (storeFrame state.videoQueue (prepareVideoFrameInput packet) queuedAt .default).2
    | .ok _ => .nonVideo
  | .ok (.videoFrameFragment source fragment) =>
    match prepareForHandler state.registry (.videoFrameFragment source fragment) with
    | .error _ => .unregistered
    | .ok (.videoFrameFragment packet) =>
      .fragment (applyFragmentAndQueueIfComplete state.reassembly state.videoQueue packet queuedAt
        .default).2.2
    | .ok _ => .nonVideo
  | .ok _ => .nonVideo

/-- Beside the summary, the packet is processed as it is without one. -/
theorem processReceivedPacketWithSummary_eq (config : ServerRuntimeConfig) (io : ServerIo)
    (state : ServerState) (summary : VideoSummary) (source : PacketSource) (bytes : List UInt8)
    (queuedAt : TimestampMicros) :
    processReceivedPacketWithSummary config io state summary source bytes queuedAt =
      ((processReceivedPacketForVideoQueue config io state source bytes queuedAt).1,
        summary.record (videoPacketNote config state source bytes queuedAt),
        (processReceivedPacketForVideoQueue config io state source bytes queuedAt).2) := by
  unfold processReceivedPacketWithSummary processReceivedPacketForVideoQueue videoPacketNote
  cases handleReceivedPacketWithGate config.expectedProtocolVersion state.registry source bytes with
  | error rejection => rfl
  | ok route =>
    cases route with
    | videoFrame source frame =>
      dsimp only
      cases prepareForHandler state.registry (.videoFrame source frame) with
      | error error => rfl
      | ok packet => cases packet <;> rfl
    | videoFrameFragment source fragment =>
      dsimp only
      cases prepareForHandler state.registry (.videoFrameFragment source fragment) with
      | error error => rfl
      | ok packet => cases packet <;> rfl
    | _ => rfl

def frameKey (frame : VideoFrame) : String := clientRunScopeKey frame.clientId frame.runId

def keyframesOf (frames : List VideoFrame) : List VideoFrame := frames.filter fun frame => frame.isKeyframe

/-- What a receive loop has come upon: how many datagrams of each kind, the frames that went into the
queue, those of them that came in one datagram, and the frames that were put together. -/
structure VideoReceiveCounts where
  packets : Nat
  rejected : Nat
  rejectedFragments : Nat
  fragments : Nat
  duplicates : Nat
  nonVideo : Nat
  keyframesReceived : Nat
  queued : List VideoFrame
  direct : List VideoFrame
  reassembled : List VideoFrame

namespace VideoReceiveCounts

/-- The summary of a loop that came upon so much and has not ended. -/
def summary (counts : VideoReceiveCounts) : VideoSummary where
  packetsReceived := counted counts.packets
  fragmentsReceived := counted counts.fragments
  framesReassembled := counted counts.reassembled.length
  framesQueued := counted counts.queued.length
  directFramesQueued := counted counts.direct.length
  keyframesReceived := counted counts.keyframesReceived
  keyframesQueued := counted (keyframesOf counts.queued).length
  rejectedPackets := counted counts.rejected
  rejectedFragments := counted counts.rejectedFragments
  duplicateFragments := counted counts.duplicates
  nonVideoPackets := counted counts.nonVideo
  incompleteReassemblyFrames := 0
  queueLen := 0
  incompleteFrameProgress := []
  observedQueuedClients := (counts.queued.map frameKey).dedup.length
  observedReassembledClients := (counts.reassembled.map frameKey).dedup.length
  perClientQueuedFrames := tally (counts.queued.map frameKey)
  perClientKeyframesQueued := tally ((keyframesOf counts.queued).map frameKey)
  perClientDirectFrames := tally (counts.direct.map frameKey)
  perClientReassembledFrames := tally (counts.reassembled.map frameKey)
  firstKeyframeFrameId := (keyframesOf counts.queued).head?.map fun frame => frame.frameId
  lastKeyframeFrameId := (keyframesOf counts.queued).getLast?.map fun frame => frame.frameId
  receiveTimedOut := false
  maxPacketsReached := false
  stopReason := none

open VideoPacketNote in
/-- What some datagrams come to. -/
def ofNotes (notes : List VideoPacketNote) : VideoReceiveCounts where
  packets := notes.length
  rejected := notes.countP isRejected
  rejectedFragments := notes.countP isRejectedFragment
  fragments := notes.countP isFragment
  duplicates := notes.countP isDuplicate
  nonVideo := notes.countP isNonVideo
  keyframesReceived := (keyframesOf (notes.filterMap frame?)).length
  queued := notes.filterMap queued?
  direct := notes.filterMap directQueued?
  reassembled := notes.filterMap reassembled?

open VideoPacketNote in
/-- What one more datagram adds. -/
def add (counts : VideoReceiveCounts) (note : VideoPacketNote) : VideoReceiveCounts where
  packets := counts.packets + 1
  rejected := counts.rejected + note.isRejected.toNat
  rejectedFragments := counts.rejectedFragments + note.isRejectedFragment.toNat
  fragments := counts.fragments + note.isFragment.toNat
  duplicates := counts.duplicates + note.isDuplicate.toNat
  nonVideo := counts.nonVideo + note.isNonVideo.toNat
  keyframesReceived := counts.keyframesReceived + (keyframesOf note.frame?.toList).length
  queued := counts.queued ++ note.queued?.toList
  direct := counts.direct ++ note.directQueued?.toList
  reassembled := counts.reassembled ++ note.reassembled?.toList

theorem countP_concat {α : Type} (p : α → Bool) (xs : List α) (x : α) :
    (xs ++ [x]).countP p = xs.countP p + (p x).toNat := by
  rw [List.countP_append, List.countP_singleton]
  cases p x <;> rfl

theorem filterMap_concat {α β : Type} (f : α → Option β) (xs : List α) (x : α) :
    (xs ++ [x]).filterMap f = xs.filterMap f ++ (f x).toList := by
  rw [List.filterMap_append, List.filterMap_cons]
  cases f x <;> rfl

theorem ofNotes_concat (notes : List VideoPacketNote) (note : VideoPacketNote) :
    ofNotes (notes ++ [note]) = (ofNotes notes).add note := by
  unfold ofNotes add
  simp only [countP_concat, filterMap_concat, keyframesOf, List.filter_append, List.length_append,
    List.length_singleton]

section Record

open VideoPacketNote ServerReceiveAuthVideoQueueOnceVideoSummary

variable (counts : VideoReceiveCounts) (frame : VideoFrame)

theorem recordPacketReceived_summary :
    counts.summary.recordPacketReceived = { counts with packets := counts.packets + 1 }.summary := by
  simp only [recordPacketReceived, summary, saturatingAdd_counted]

theorem recordFragmentReceived_summary :
    counts.summary.recordFragmentReceived = { counts with fragments := counts.fragments + 1 }.summary := by
  simp only [recordFragmentReceived, summary, saturatingAdd_counted]

theorem recordNonVideo_summary :
    counts.summary.recordNonVideo = { counts with nonVideo := counts.nonVideo + 1 }.summary := by
  simp only [recordNonVideo, summary, saturatingAdd_counted]

theorem recordKeyframeReceived_summary :
    (if frame.isKeyframe then counts.summary.recordKeyframeReceivedProgress else counts.summary) =
      { counts with
        keyframesReceived := counts.keyframesReceived + (keyframesOf [frame]).length }.summary := by
  cases hkey : frame.isKeyframe <;>
    simp [recordKeyframeReceivedProgress, summary, saturatingAdd_counted, keyframesOf, hkey]

theorem keyframesOf_concat (frames : List VideoFrame) :
    keyframesOf (frames ++ [frame]) = if frame.isKeyframe then keyframesOf frames ++ [frame]
      else keyframesOf frames := by
  unfold keyframesOf
  rw [List.filter_append]
  split
  next h => simp [h]
  next h => simp [h]

/-- A frame of one datagram that is stored. -/
theorem recordDirectFrame_stored {queue : ServerVideoFrameQueueStorageResult} (h : isStored queue = true) :
    counts.summary.recordDirectFrame frame queue =
      { counts with
        keyframesReceived := counts.keyframesReceived + (keyframesOf [frame]).length
        queued := counts.queued ++ [frame]
        direct := counts.direct ++ [frame] }.summary := by
  cases queue with
  | dropped => cases h
  | stored queued previous current droppedOldest =>
    unfold recordDirectFrame
    rw [recordKeyframeReceived_summary]
    cases hkey : frame.isKeyframe <;>
      simp [recordDirectFrameProgress, recordQueuedFrameProgress, recordKeyframeQueuedProgress, summary,
        saturatingAdd_counted, ← tally_concat, size_tally, keyframesOf_concat, frameKey, hkey]

theorem recordReassembledFrame_stored {queue : ServerVideoFrameQueueStorageResult}
    (h : isStored queue = true) :
    counts.summary.recordReassembledFrame frame queue =
      { counts with
        keyframesReceived := counts.keyframesReceived + (keyframesOf [frame]).length
        queued := counts.queued ++ [frame]
        reassembled := counts.reassembled ++ [frame] }.summary := by
  cases queue with
  | dropped => cases h
  | stored queued previous current droppedOldest =>
    unfold recordReassembledFrame
    rw [recordKeyframeReceived_summary]
    cases hkey : frame.isKeyframe <;>
      simp [recordReassembledFrameProgress, recordQueuedFrameProgress, recordKeyframeQueuedProgress, summary,
        saturatingAdd_counted, ← tally_concat, size_tally, keyframesOf_concat, frameKey, hkey]

theorem recordRejection_summary (rejection : ServerReceiveLoopGateRejection) :
    counts.summary.recordRejection rejection =
      { counts with
        rejected := counts.rejected + 1
        rejectedFragments :=
          counts.rejectedFragments + (isRejectedFragment (.rejected rejection)).toNat }.summary := by
  cases rejection with
  | decode => simp [recordRejection, isRejectedFragment, summary, saturatingAdd_counted]
  | acceptance acceptance =>
    by_cases hfragment : acceptance.messageType = .videoFrameFragment <;>
      simp [recordRejection, isRejectedFragment, summary, saturatingAdd_counted, hfragment]

theorem record_summary (note : VideoPacketNote) :
    counts.summary.record note = (counts.add note).summary := by
  unfold ServerReceiveAuthVideoQueueOnceVideoSummary.record
  rw [recordPacketReceived_summary]
  cases note with
  | rejected rejection => simp [recordRejection_summary, add, keyframesOf]
  | auth => simp [add, keyframesOf]
  | nonVideo => simp [recordNonVideo_summary, add, keyframesOf]
  | unregistered => simp [add, keyframesOf]
  | direct frame queue =>
    cases queue with
    | stored queued previous current droppedOldest =>
      dsimp only
      rw [recordDirectFrame_stored _ frame rfl]
      simp [add]
    | dropped input reason =>
      simp only [recordDirectFrame, recordKeyframeReceived_summary]
      simp [add]
  | fragment result =>
    dsimp only
    unfold recordFragment
    rw [recordFragmentReceived_summary]
    cases result with
    | fragmentStored => simp [add, keyframesOf]
    | duplicateFragmentIgnored => simp [summary, saturatingAdd_counted, add, keyframesOf]
    | rejectedFragment => simp [summary, saturatingAdd_counted, add, keyframesOf]
    | frameComplete details frame queue =>
      cases queue with
      | stored queued previous current droppedOldest =>
        dsimp only
        rw [recordReassembledFrame_stored _ frame rfl]
        simp [add]
      | dropped input reason =>
        simp only [recordReassembledFrame, recordKeyframeReceived_summary]
        simp [recordReassembledFrameProgress, summary, saturatingAdd_counted, ← tally_concat, size_tally,
          frameKey, add]

end Record

end VideoReceiveCounts

theorem totalLen_applyQueueOp (state : ServerVideoFrameQueueState) (op : QueueOp) :
    (applyQueueOp state op).1.totalLen + (left (applyQueueOp state op).2.moves).length =
      state.totalLen + (entered (applyQueueOp state op).2.moves).length := by
  have hlen (state : ServerVideoFrameQueueState) :
      (state.framesByClientId[op.clientId]?.map List.length).getD 0 =
        (state.framesForClient op.clientId).length := by
    unfold ServerVideoFrameQueueState.framesForClient
    cases state.framesByClientId[op.clientId]? <;> rfl
  have hchange := (applyQueueOp_change state op).length_eq
  have hagree : ∀ other, op.clientId ≠ other →
      (applyQueueOp state op).1.framesByClientId[other]? = state.framesByClientId[other]? :=
    fun other h => applyQueueOp_other state op (Ne.symm h)
  have htotal := total_of_agree List.length hagree
  rw [hlen, hlen] at htotal
  change (applyQueueOp state op).1.totalLen + _ = state.totalLen + _ at htotal
  omega

/-- The frame fits into a datagram's fields, and its length is told with it. -/
structure ServerVideoFrameHandlerInput.Fits (input : ServerVideoFrameHandlerInput) : Prop where
  clientId : (asBytes input.registeredPacket.frame.clientId).length < 2 ^ 16
  runId : (asBytes input.registeredPacket.frame.runId).length < 2 ^ 16
  payload : input.registeredPacket.frame.payload.length < 2 ^ 32
  payloadLen : input.payloadLen = input.registeredPacket.frame.payload.length

theorem cat_layout_of_decodePacket {context : DecodeContext} {bytes : List UInt8}
    {message : ProtocolMessage} (h : decodePacket context bytes = .ok message) {field : Layout}
    (hfield : field ∈ message.layout) : field ≠ none := by
  obtain ⟨view, -, -, hpayload⟩ := decodePacket_eq_ok_iff.mp h
  obtain ⟨-, -, -, hcat⟩ := decodePayloadByMessageType_eq_ok_iff.mp hpayload
  rintro rfl
  rw [Layout.cat_eq_none hfield] at hcat
  cases hcat

theorem length_of_stringLayout_ne {text : String} (h : stringLayout text ≠ none) :
    (asBytes text).length < 2 ^ 16 := by
  by_contra hlong
  exact h (if_neg hlong)

theorem videoFrame_fits {version : ProtocolVersion} {source : PacketSource} {bytes : List UInt8}
    {packet : ServerRegisteredVideoFramePacket} {source' : PacketSource}
    (h : decodeAndRoute version source bytes = .ok (.videoFrame source' packet.frame)) :
    (prepareVideoFrameInput packet).Fits := by
  obtain ⟨message, hdecode, hroute⟩ := decodeAndRoute_eq_ok h
  cases message with
  | videoFrame frame =>
    cases hroute
    have hsome {field : Layout} (h : field ∈ _) : field ≠ none := cat_layout_of_decodePacket hdecode h
    refine ⟨length_of_stringLayout_ne (hsome ?_), length_of_stringLayout_ne (hsome ?_), ?_, rfl⟩
    · exact List.mem_cons_self
    · exact List.mem_cons_of_mem _ List.mem_cons_self
    · have hsized : sizedPayloadLayout (packet.frame.payloadSize, packet.frame.payload) ≠ none :=
        hsome (by simp [ProtocolMessage.layout, VideoFrame.layout])
      by_contra hlong
      exact hsized (if_neg fun hsize => hlong hsize.2)
  | _ => cases hroute

theorem videoFrameFragment_fits {version : ProtocolVersion} {source source' : PacketSource}
    {bytes : List UInt8} {fragment : VideoFrameFragment}
    (h : decodeAndRoute version source bytes = .ok (.videoFrameFragment source' fragment)) :
    (asBytes fragment.clientId).length < 2 ^ 16 ∧ (asBytes fragment.runId).length < 2 ^ 16 := by
  obtain ⟨message, hdecode, hroute⟩ := decodeAndRoute_eq_ok h
  cases message with
  | videoFrameFragment fragment' =>
    cases hroute
    have hsome {field : Layout} (h : field ∈ _) : field ≠ none := cat_layout_of_decodePacket hdecode h
    refine ⟨length_of_stringLayout_ne (hsome ?_), length_of_stringLayout_ne (hsome ?_)⟩
    · exact List.mem_cons_self
    · exact List.mem_cons_of_mem _ List.mem_cons_self
  | _ => cases hroute

/-- What a fragment does to the queue, by its result. -/
inductive FragmentStores (queue : ServerVideoFrameQueueState) (queuedAt : TimestampMicros)
    (policy : ServerVideoFrameQueuePolicy) (fragment : VideoFrameFragment) :
    ServerVideoFrameReassemblyApplyResult → ServerVideoFrameQueueState → Prop
  | fragmentStored (summary) : FragmentStores queue queuedAt policy fragment (.fragmentStored summary) queue
  | duplicate (summary) :
    FragmentStores queue queuedAt policy fragment (.duplicateFragmentIgnored summary) queue
  | rejected (summary) : FragmentStores queue queuedAt policy fragment (.rejectedFragment summary) queue
  | complete (summary) (input : ServerVideoFrameHandlerInput)
    (hclient : input.registeredPacket.frame.clientId = fragment.clientId)
    (hrun : input.registeredPacket.frame.runId = fragment.runId)
    (hpayload : input.registeredPacket.frame.payload.length < 2 ^ 32)
    (hlen : input.payloadLen = input.registeredPacket.frame.payload.length) :
    FragmentStores queue queuedAt policy fragment
      (.frameComplete summary input.registeredPacket.frame (storeFrame queue input queuedAt policy).2)
      (storeFrame queue input queuedAt policy).1

theorem applyFragment_stores (reassembly : ServerVideoFrameReassemblyState)
    (queue : ServerVideoFrameQueueState) (packet : ServerRegisteredVideoFrameFragmentPacket)
    (queuedAt : TimestampMicros) (policy : ServerVideoFrameQueuePolicy) :
    FragmentStores queue queuedAt policy packet.fragment
      (applyFragmentAndQueueIfComplete reassembly queue packet queuedAt policy).2.2
      (applyFragmentAndQueueIfComplete reassembly queue packet queuedAt policy).2.1 := by
  unfold applyFragmentAndQueueIfComplete
  dsimp only
  cases validateFragmentShape packet.fragment with
  | some reason => exact .rejected _
  | none =>
    dsimp only
    split
    next => exact .rejected _
    next =>
      split
      next => exact .duplicate _
      next =>
        split
        next => exact .fragmentStored _
        next =>
          split
          next => exact .rejected _
          next hlength =>
            refine .complete _ ⟨⟨packet.source, packet.authenticatedSender, _⟩, _⟩ rfl rfl ?_ rfl
            -- the length that the fragments declare is a `u32`
            exact (not_not.mp hlength).trans_lt (UInt32.toNat_lt _)

/-- The queue after a datagram: as it was, or with the one frame stored that the note tells of. -/
theorem videoQueue_packet (config : ServerRuntimeConfig) (io : ServerIo) (state : ServerState)
    (source : PacketSource) (bytes : List UInt8) (queuedAt : TimestampMicros) :
    let note := videoPacketNote config state source bytes queuedAt
    let after := (processReceivedPacketForVideoQueue config io state source bytes queuedAt).1
    (note.queueResult? = none ∧ after.videoQueue = state.videoQueue) ∨
      ∃ (input : ServerVideoFrameHandlerInput) (result : ServerVideoFrameQueueStorageResult),
        input.Fits ∧ note.frame? = some input.registeredPacket.frame ∧
          note.queueResult? = some result ∧
          storeFrame state.videoQueue input queuedAt .default = (after.videoQueue, result) := by
  unfold videoPacketNote processReceivedPacketForVideoQueue
  have hgated := gated config state.registry source bytes
  generalize handleReceivedPacketWithGate config.expectedProtocolVersion state.registry source bytes =
    outcome at hgated ⊢
  generalize authEntry config source bytes = auth at hgated
  cases hgated with
  | rejected rejection => exact .inl ⟨rfl, rfl⟩
  | auth request => exact .inl ⟨rfl, rfl⟩
  | unsupported messageType message => exact .inl ⟨rfl, rfl⟩
  | client route clientId runId decoded scope accepted =>
    obtain ⟨sender, packet, -, -, hpacket, hprepared⟩ := prepareForHandler_of_accepted scope accepted
    cases route with
    | videoFrame source frame =>
      cases hpacket
      dsimp only
      rw [hprepared]
      exact .inr ⟨_, _, videoFrame_fits decoded, rfl, rfl, rfl⟩
    | videoFrameFragment source fragment =>
      cases hpacket
      dsimp only
      rw [hprepared]
      have hstores := applyFragment_stores state.reassembly state.videoQueue ⟨source, sender, fragment⟩
        queuedAt .default
      dsimp only
      generalize applyFragmentAndQueueIfComplete state.reassembly state.videoQueue
        ⟨source, sender, fragment⟩ queuedAt .default = applied at hstores ⊢
      obtain ⟨reassembly, queue, result⟩ := applied
      cases hstores with
      | complete details input hclient hrun hpayload hlen =>
        obtain ⟨hclient', hrun'⟩ := videoFrameFragment_fits decoded
        rw [← hclient] at hclient'
        rw [← hrun] at hrun'
        exact .inr ⟨input, _, ⟨hclient', hrun', hpayload, hlen⟩, rfl, rfl, rfl⟩
      | _ => exact .inl ⟨rfl, rfl⟩
    | _ => exact .inl ⟨rfl, rfl⟩

theorem isStored_storeFrame_default (state : ServerVideoFrameQueueState)
    (input : ServerVideoFrameHandlerInput) (queuedAt : TimestampMicros) :
    isStored (storeFrame state input queuedAt .default).2 = true := rfl

theorem isSome_frame? (note : VideoPacketNote) : note.frame?.isSome = note.queueResult?.isSome := by
  cases note with
  | fragment result => cases result <;> rfl
  | _ => rfl

/-- A frame that is complete is queued. -/
theorem queued_packet (config : ServerRuntimeConfig) (io : ServerIo) (state : ServerState)
    (source : PacketSource) (bytes : List UInt8) (queuedAt : TimestampMicros) :
    (videoPacketNote config state source bytes queuedAt).queued? =
      (videoPacketNote config state source bytes queuedAt).frame? := by
  have hsome := isSome_frame? (videoPacketNote config state source bytes queuedAt)
  unfold VideoPacketNote.queued?
  rcases videoQueue_packet config io state source bytes queuedAt with
    ⟨hnone, -⟩ | ⟨input, result, -, hframe, hresult, hstored⟩
  · rw [hnone] at hsome ⊢
    exact (Option.not_isSome_iff_eq_none.mp (by rw [hsome]; exact Bool.false_ne_true)).symm
  · rw [hresult, Option.any_some]
    have hresult' := isStored_storeFrame_default state.videoQueue input queuedAt
    rw [hstored] at hresult'
    exact if_pos hresult'

/-- What the gate lets through has a registered sender. -/
theorem registered_packet (config : ServerRuntimeConfig) (state : ServerState) (source : PacketSource)
    (bytes : List UInt8) (queuedAt : TimestampMicros) :
    videoPacketNote config state source bytes queuedAt ≠ .unregistered := by
  unfold videoPacketNote
  have hgated := gated config state.registry source bytes
  generalize handleReceivedPacketWithGate config.expectedProtocolVersion state.registry source bytes =
    outcome at hgated ⊢
  generalize authEntry config source bytes = auth at hgated
  cases hgated with
  | rejected rejection => simp
  | auth request => simp
  | unsupported messageType message => simp
  | client route clientId runId decoded scope accepted =>
    obtain ⟨sender, packet, hget, hmatches, hpacket, hprepared⟩ :=
      prepareForHandler_of_accepted scope accepted
    cases route with
    | videoFrame source frame =>
      dsimp only
      rw [hprepared]
      cases packet <;> simp
    | videoFrameFragment source fragment =>
      dsimp only
      rw [hprepared]
      cases packet <;> simp
    | _ => simp

/-- A datagram that is processed reports what the queue made of its frame. -/
theorem queueResult_packet {config : ServerRuntimeConfig} {io : ServerIo} {state : ServerState}
    {source : PacketSource} {bytes : List UInt8} {queuedAt : TimestampMicros}
    {queue : Option ServerVideoFrameQueueStorageResult}
    (h : (processReceivedPacketForVideoQueue config io state source bytes queuedAt).2 = .ok queue) :
    (videoPacketNote config state source bytes queuedAt).queueResult? = queue := by
  unfold processReceivedPacketForVideoQueue at h
  unfold videoPacketNote
  revert h
  cases handleReceivedPacketWithGate config.expectedProtocolVersion state.registry source bytes with
  | error rejection => exact Except.ok.inj
  | ok route =>
    cases route with
    | authRequest source request =>
      dsimp only
      cases (handleAuthRoute config io state.registry source request).2 with
      | error error => nofun
      | ok sent => exact Except.ok.inj
    | videoFrame source frame =>
      dsimp only
      cases prepareForHandler state.registry (.videoFrame source frame) with
      | error error => nofun
      | ok packet => cases packet <;> exact Except.ok.inj
    | videoFrameFragment source fragment =>
      dsimp only
      cases prepareForHandler state.registry (.videoFrameFragment source fragment) with
      | error error => nofun
      | ok packet =>
        cases packet with
        | videoFrameFragment packet =>
          dsimp only
          generalize (applyFragmentAndQueueIfComplete state.reassembly state.videoQueue packet queuedAt
            .default).2.2 = result
          cases result <;> exact Except.ok.inj
        | _ => exact Except.ok.inj
    | _ => exact Except.ok.inj

/-- The queue has the frames it had, less the evicted one, and the queued one. -/
theorem totalLen_packet (config : ServerRuntimeConfig) (io : ServerIo) (state : ServerState)
    (source : PacketSource) (bytes : List UInt8) (queuedAt : TimestampMicros) :
    let note := videoPacketNote config state source bytes queuedAt
    let after := (processReceivedPacketForVideoQueue config io state source bytes queuedAt).1
    after.videoQueue.totalLen + note.evicted?.toList.length =
      state.videoQueue.totalLen + note.queued?.toList.length := by
  intro note after
  rcases videoQueue_packet config io state source bytes queuedAt with
    ⟨hnone, hsame⟩ | ⟨input, result, -, hframe, hresult, hstored⟩
  · rw [show after.videoQueue = state.videoQueue from hsame]
    simp only [note, VideoPacketNote.evicted?, VideoPacketNote.queued?, hnone, Option.any_none,
      Bool.false_eq_true, if_false]
    rfl
  · have hlen := totalLen_applyQueueOp state.videoQueue (.storeFrame input queuedAt .default)
    simp only [applyQueueOp, hstored] at hlen
    have hevicted : note.evicted?.toList.length = (left (QueueOutput.stored result).moves).length := by
      simp only [note, VideoPacketNote.evicted?, hresult]
      cases result with
      | stored queued previous current droppedOldest => cases droppedOldest <;> rfl
      | dropped => rfl
    have hqueued : note.queued?.toList.length = (entered (QueueOutput.stored result).moves).length := by
      simp only [note, VideoPacketNote.queued?, hresult, hframe]
      cases result with
      | stored queued previous current droppedOldest => cases droppedOldest <;> rfl
      | dropped => rfl
    rw [hevicted, hqueued]
    exact hlen

end StreamSync
