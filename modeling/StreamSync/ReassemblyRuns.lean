import StreamSync.Lib.KeyedMachine
import StreamSync.Lib.Assembly
import StreamSync.Reassembly
import StreamSync.VideoQueueRuns

namespace StreamSync

open KeyedTable Run

/-- One authenticated fragment as the receive side hands it over. -/
structure FragmentInput where
  packet : ServerRegisteredVideoFrameFragmentPacket
  queuedAt : TimestampMicros
  policy : ServerVideoFrameQueuePolicy
deriving DecidableEq

def FragmentInput.key (input : FragmentInput) : ServerVideoFrameReassemblyKey :=
  .fromFragment input.packet.fragment

/-- What a result says of the reassembly alone. -/
inductive ReassemblyOutcome where
  | fragmentStored (summary : ServerVideoFrameReassemblySummary)
  | duplicateFragmentIgnored (summary : ServerVideoFrameReassemblySummary)
  | rejectedFragment (summary : ServerVideoFrameReassemblySummary)
  | frameComplete (summary : ServerVideoFrameReassemblySummary) (reassembledFrame : VideoFrame)
deriving DecidableEq

def ServerVideoFrameReassemblyApplyResult.outcome :
    ServerVideoFrameReassemblyApplyResult → ReassemblyOutcome
  | .fragmentStored summary => .fragmentStored summary
  | .duplicateFragmentIgnored summary => .duplicateFragmentIgnored summary
  | .rejectedFragment summary => .rejectedFragment summary
  | .frameComplete summary frame _ => .frameComplete summary frame

def ReassemblyOutcome.completed? : ReassemblyOutcome → Option VideoFrame
  | .frameComplete _ frame => some frame
  | _ => none

/-- What a fragment does to the entry of its key, and what is reported of it. -/
def applyToEntry (entry : Option ServerVideoFrameReassemblyFrameState) (fragment : VideoFrameFragment) :
    Option ServerVideoFrameReassemblyFrameState × ReassemblyOutcome :=
  let key := ServerVideoFrameReassemblyKey.fromFragment fragment
  match validateFragmentShape fragment with
  | some reason => (entry, .rejectedFragment (rejectedFragmentSummary key reason))
  | none =>
    let frameState := entry.getD (.new fragment)
    if metadataMatches frameState fragment = false then
      (some frameState,
        .rejectedFragment (summaryForState key frameState false (some .metadataMismatch)))
    else if (frameState.chunkAt fragment.chunkIndex.toNat).isSome then
      (some frameState.countDuplicate,
        .duplicateFragmentIgnored (summaryForState key frameState.countDuplicate false none))
    else
      let frameState := frameState.storeChunk fragment.chunkIndex.toNat fragment.chunkPayload
      if frameState.isComplete = false then
        (some frameState, .fragmentStored (summaryForState key frameState false none))
      else if frameState.reassemblePayload.length ≠ frameState.totalPayloadLen.toNat then
        (some frameState,
          .rejectedFragment (summaryForState key frameState false (some .reassembledPayloadLenMismatch)))
      else
        (none, .frameComplete (summaryForState key frameState true none)
          (reassembledFrame frameState fragment))

/-- The queue operation that a reported completion makes. -/
def FragmentInput.storeOp (input : FragmentInput) (frame : VideoFrame) : QueueOp :=
  .storeFrame {
    registeredPacket := {
      source := input.packet.source, authenticatedSender := input.packet.authenticatedSender, frame }
    payloadLen := frame.payload.length } input.queuedAt input.policy

def applyFragmentInput (state : ServerVideoFrameReassemblyState × ServerVideoFrameQueueState)
    (input : FragmentInput) :
    (ServerVideoFrameReassemblyState × ServerVideoFrameQueueState) ×
      ServerVideoFrameReassemblyApplyResult :=
  let result := applyFragmentAndQueueIfComplete state.1 state.2 input.packet input.queuedAt input.policy
  ((result.1, result.2.1), result.2.2)

/-- All that one fragment does: its own entry, no other entry, and one store for a completion. -/
structure AppliedFragment (state : ServerVideoFrameReassemblyState × ServerVideoFrameQueueState)
    (input : FragmentInput) : Prop where
  entry : (applyFragmentInput state input).1.1.frames[input.key]? =
    (applyToEntry state.1.frames[input.key]? input.packet.fragment).1
  others : ∀ key, input.key ≠ key →
    (applyFragmentInput state input).1.1.frames[key]? = state.1.frames[key]?
  outcome : (applyFragmentInput state input).2.outcome =
    (applyToEntry state.1.frames[input.key]? input.packet.fragment).2
  queue : (applyFragmentInput state input).1.2 =
    match (applyFragmentInput state input).2.outcome.completed? with
    | some frame => (applyQueueOp state.2 (input.storeOp frame)).1
    | none => state.2

/-- A fragment that leaves an entry behind and completes nothing. -/
theorem AppliedFragment.of_insert
    {state : ServerVideoFrameReassemblyState × ServerVideoFrameQueueState} {input : FragmentInput}
    (frameState : ServerVideoFrameReassemblyFrameState) (result : ServerVideoFrameReassemblyApplyResult)
    (hr : applyFragmentAndQueueIfComplete state.1 state.2 input.packet input.queuedAt input.policy =
      (⟨state.1.frames.insert input.key frameState⟩, state.2, result))
    (hl : applyToEntry state.1.frames[input.key]? input.packet.fragment =
      (some frameState, result.outcome))
    (hc : result.outcome.completed? = none) : AppliedFragment state input := by
  have hs : applyFragmentInput state input =
      ((⟨state.1.frames.insert input.key frameState⟩, state.2), result) := by
    rw [applyFragmentInput, hr]
  refine ⟨?_, fun key hk => ?_, ?_, ?_⟩
  · rw [hs, hl, getElem?_insert_eq, if_pos rfl]
  · rw [hs, getElem?_insert_eq, if_neg hk]
  · rw [hs, hl]
  · rw [hs]
    simp only [hc]

theorem applyFragmentInput_applied
    (state : ServerVideoFrameReassemblyState × ServerVideoFrameQueueState) (input : FragmentInput) :
    AppliedFragment state input := by
  cases hv : validateFragmentShape input.packet.fragment with
  | some reason =>
    let summary := rejectedFragmentSummary input.key reason
    have hr : applyFragmentInput state input = (state, .rejectedFragment summary) := by
      simp only [applyFragmentInput, applyFragmentAndQueueIfComplete, hv]
      rfl
    have hl : applyToEntry state.1.frames[input.key]? input.packet.fragment =
        (state.1.frames[input.key]?, .rejectedFragment summary) := by
      simp only [applyToEntry, hv]
      rfl
    refine ⟨?_, fun key _ => ?_, ?_, ?_⟩
    · rw [hr, hl]
    · rw [hr]
    · rw [hr, hl]
      rfl
    · rw [hr]
      rfl
  | none =>
    let entry := state.1.frames[input.key]?
    let frameState := entry.getD (.new input.packet.fragment)
    let chunkIndex := input.packet.fragment.chunkIndex.toNat
    let stored := frameState.storeChunk chunkIndex input.packet.fragment.chunkPayload
    by_cases hm : metadataMatches frameState input.packet.fragment = false
    · refine AppliedFragment.of_insert frameState (.rejectedFragment
        (summaryForState input.key frameState false (some .metadataMismatch))) ?_ ?_ rfl
      · rw [applyFragmentAndQueueIfComplete, hv]
        exact if_pos hm
      · rw [applyToEntry, hv]
        exact if_pos hm
    by_cases hd : (frameState.chunkAt chunkIndex).isSome
    · refine AppliedFragment.of_insert frameState.countDuplicate (.duplicateFragmentIgnored
        (summaryForState input.key frameState.countDuplicate false none)) ?_ ?_ rfl
      · rw [applyFragmentAndQueueIfComplete, hv]
        exact (if_neg hm).trans (if_pos hd)
      · rw [applyToEntry, hv]
        exact (if_neg hm).trans (if_pos hd)
    by_cases hi : stored.isComplete = false
    · refine AppliedFragment.of_insert stored
        (.fragmentStored (summaryForState input.key stored false none)) ?_ ?_ rfl
      · rw [applyFragmentAndQueueIfComplete, hv]
        exact (if_neg hm).trans ((if_neg hd).trans (if_pos hi))
      · rw [applyToEntry, hv]
        exact (if_neg hm).trans ((if_neg hd).trans (if_pos hi))
    by_cases hlen : stored.reassemblePayload.length ≠ stored.totalPayloadLen.toNat
    · refine AppliedFragment.of_insert stored (.rejectedFragment
        (summaryForState input.key stored false (some .reassembledPayloadLenMismatch))) ?_ ?_ rfl
      · rw [applyFragmentAndQueueIfComplete, hv]
        exact (if_neg hm).trans ((if_neg hd).trans ((if_neg hi).trans (if_pos hlen)))
      · rw [applyToEntry, hv]
        exact (if_neg hm).trans ((if_neg hd).trans ((if_neg hi).trans (if_pos hlen)))
    -- the frame is complete: the entry goes, and the queue gets the frame
    let frame := reassembledFrame stored input.packet.fragment
    let summary := summaryForState input.key stored true none
    let handlerInput : ServerVideoFrameHandlerInput := {
      registeredPacket := {
        source := input.packet.source, authenticatedSender := input.packet.authenticatedSender, frame }
      payloadLen := frame.payload.length }
    let queued := storeFrame state.2 handlerInput input.queuedAt input.policy
    have hl : applyToEntry entry input.packet.fragment = (none, .frameComplete summary frame) := by
      rw [applyToEntry, hv]
      exact (if_neg hm).trans ((if_neg hd).trans ((if_neg hi).trans (if_neg hlen)))
    have hr : applyFragmentAndQueueIfComplete state.1 state.2 input.packet input.queuedAt input.policy =
        (⟨state.1.frames.erase input.key⟩, queued.1, .frameComplete summary frame queued.2) := by
      rw [applyFragmentAndQueueIfComplete, hv]
      exact (if_neg hm).trans ((if_neg hd).trans ((if_neg hi).trans (if_neg hlen)))
    have hs : applyFragmentInput state input =
        ((⟨state.1.frames.erase input.key⟩, queued.1), .frameComplete summary frame queued.2) := by
      rw [applyFragmentInput, hr]
    refine ⟨?_, fun key hk => ?_, ?_, ?_⟩
    · rw [hs, getElem?_erase_eq, if_pos rfl]
      exact (congrArg Prod.fst hl).symm
    · rw [hs, getElem?_erase_eq, if_neg hk]
    · rw [hs]
      exact (congrArg Prod.snd hl).symm
    · rw [hs]
      rfl

/-- The reassembly as a machine keyed by frame: each frame has its own entry. -/
def reassemblyMachine : KeyedMachine (ServerVideoFrameReassemblyState × ServerVideoFrameQueueState)
    FragmentInput ServerVideoFrameReassemblyApplyResult ServerVideoFrameReassemblyKey
    (Option ServerVideoFrameReassemblyFrameState) ReassemblyOutcome where
  step := applyFragmentInput
  key := FragmentInput.key
  view state key := state.1.frames[key]?
  localStep entry input := applyToEntry entry input.packet.fragment
  observe := ServerVideoFrameReassemblyApplyResult.outcome
  view_same state input := (applyFragmentInput_applied state input).entry
  view_other state input key h := (applyFragmentInput_applied state input).others key h
  observe_step state input := (applyFragmentInput_applied state input).outcome

def runReassembly (state : ServerVideoFrameReassemblyState × ServerVideoFrameQueueState)
    (inputs : List FragmentInput) :
    (ServerVideoFrameReassemblyState × ServerVideoFrameQueueState) ×
      List ServerVideoFrameReassemblyApplyResult :=
  run applyFragmentInput state inputs

end StreamSync
