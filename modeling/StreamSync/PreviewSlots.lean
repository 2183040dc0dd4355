import StreamSync.ProgramOutput
import StreamSync.QuadComposition

namespace StreamSync

structure TwoRealPreviewLoopDecodedSlotIdentity where
  clientId : ClientId
  runId : RunId
  frameId : UInt64
  decodableSource : Option String
deriving DecidableEq

/-- `operator_preview_program_reuse_candidate`. -/
def operatorPreviewProgramReuseCandidate (programSelection : SwitcherProgramSelection)
    (programContinuousLatestFrame : Option TwoRealProgramContinuousLatestFrame)
    (lastValidProgramFrame : Option TwoRealCachedProgramOutputFrame) : Option SwitcherDecodedFrame :=
  match programContinuousLatestFrame.filter fun latest =>
    latestProgramFrameMatchesSelection latest programSelection with
  | some latest => some latest.decodedFrame
  | none =>
    (lastValidProgramFrame.filter fun cached =>
      cachedProgramFrameMatchesSelection cached programSelection).map fun cached => cached.decodedFrame

/-- `reuse_program_frame_for_operator_preview_slot`, of the slot that the selection names. -/
def reuseProgramFrameForOperatorPreviewSlot (programSelection : SwitcherProgramSelection)
    (decodedFrame : SwitcherDecodedFrame) : RenderSlot → RenderSlot
  | .useUpdatedFrame placement frame selected consumed =>
    if programSelection.admits selected.frame ∧ frame.decoded.isNone then
      .useUpdatedFrame placement { frame with decoded := some decodedFrame } selected consumed
    else .useUpdatedFrame placement frame selected consumed
  | .useDecodeDeferredPlaceholder placement selected consumed reason =>
    if programSelection.admits selected.frame then
      .useUpdatedFrame placement
        ⟨placement.slotIndex, some selected, some decodedFrame, selected.frame.captureTimestamp⟩
        selected consumed
    else .useDecodeDeferredPlaceholder placement selected consumed reason
  | slot => slot

/-- What a retained snapshot gives as the reason that it is held. -/
def retainedSkippedInstruction : RenderSlot → SlotInstruction
  | .useUpdatedFrame placement _ selected consumed => .renderFrame placement.slotIndex selected consumed
  | .useHeldPreviousFrame _ _ skipped _ => skipped
  | .useHeldPreviousFrameWithoutDecoded _ _ skipped _ => skipped
  | .useNoDisplayPlaceholder _ skipped => skipped
  | .useSourceErrorPlaceholder _ skipped => skipped
  | .useDecodeDeferredPlaceholder placement selected consumed _ =>
    .renderFrame placement.slotIndex selected consumed
  | .useDecodeFailedPlaceholder placement selected consumed _ =>
    .renderFrame placement.slotIndex selected consumed

/-- `apply_operator_preview_snapshot_retention`, of one slot. -/
def retainSnapshot (snapshot : Option SwitcherFourViewDisplayedSlot) (slot : RenderSlot) : RenderSlot :=
  match snapshot.filter fun snapshot => snapshot.decoded.isSome with
  | none => slot
  | some snapshot =>
    if slot.renderableFrame.isSome then slot
    else .useHeldPreviousFrame slot.placement snapshot (retainedSkippedInstruction slot) 0

/-- `two_real_decoded_slot_identity`, from what the scheduler has for the slot. -/
def decodedSlotIdentity (decodableSource : Option String) :
    SwitcherSingleClientTargetTimeHandoffSourceResult → Option TwoRealPreviewLoopDecodedSlotIdentity
  | .selected selected =>
    some ⟨selected.frame.clientId, selected.frame.runId, selected.frame.frameId, decodableSource⟩
  | _ => none

/-- `update_two_real_decoded_slot_identities`, of one slot. -/
def updateDecodedSlotIdentity (current : Option TwoRealPreviewLoopDecodedSlotIdentity)
    (decodableSource : Option String) (scheduler : SwitcherSingleClientTargetTimeHandoffSourceResult) :
    RenderSlot → Option TwoRealPreviewLoopDecodedSlotIdentity
  | .useUpdatedFrame _ frame _ _ =>
    if frame.decoded.isSome then (decodedSlotIdentity decodableSource scheduler).or current else current
  | _ => current

/-- `two_real_preview_loop_displayed_frame_identity_parts`. -/
def displayedFrameIdentityParts (frame : SwitcherFourViewDisplayedSlot) :
    Option TwoRealPreviewLoopDecodedSlotIdentity → ClientId × RunId × UInt64 × Option String
  | some identity => (identity.clientId, identity.runId, identity.frameId, identity.decodableSource)
  | none =>
    match frame.selected with
    | some selected => (selected.frame.clientId, selected.frame.runId, selected.frame.frameId, none)
    | none => ("unknown-client", "unknown-run", 0, none)

def formatFourViewSkippedInstructionReason : SlotInstruction → String
  | .renderFrame .. => "RenderFrame"
  | .skipNoFrameAvailable .. => "NoFrameAvailable"
  | .skipWaitingForFrameAtOrBeforeTarget .. => "WaitingForFrameAtOrBeforeTarget"
  | .skipHandoffError .. => "HandoffError"

def formatSwitcherH264DecodeDeferredReason : SwitcherH264DecodeDeferredReason → String
  | .emptyPayload => "EmptyPayload"
  | .invalidDimensions => "InvalidDimensions"
  | .ffmpegUnavailable => "FfmpegUnavailable"
  | .continuousOneShotSuppressed => "ContinuousOneShotSuppressed"

/-- `two_real_preview_loop_source_frame_visual_identity`. -/
def sourceFrameVisualIdentity (frame : SwitcherFourViewDisplayedSlot)
    (decodedIdentity : Option TwoRealPreviewLoopDecodedSlotIdentity) : SlotVisualIdentity :=
  let (clientId, runId, frameId, selectedFrameSource) := displayedFrameIdentityParts frame decodedIdentity
  .sourceFrame clientId runId frameId selectedFrameSource

/-- `two_real_preview_loop_slot_visual_identity`. -/
def slotVisualIdentity (decodedIdentity : Option TwoRealPreviewLoopDecodedSlotIdentity) :
    RenderSlot → SlotVisualIdentity
  | .useUpdatedFrame _ frame _ _ => sourceFrameVisualIdentity frame decodedIdentity
  | .useHeldPreviousFrame _ frame _ _ => sourceFrameVisualIdentity frame decodedIdentity
  | .useHeldPreviousFrameWithoutDecoded _ frame _ _ =>
    let (clientId, runId, frameId, selectedFrameSource) := displayedFrameIdentityParts frame decodedIdentity
    .missingDecodedPixels clientId runId frameId selectedFrameSource
  | .useNoDisplayPlaceholder _ skipped => .noDisplayPlaceholder (formatFourViewSkippedInstructionReason skipped)
  | .useSourceErrorPlaceholder _ skipped =>
    .sourceErrorPlaceholder (formatFourViewSkippedInstructionReason skipped)
  | .useDecodeDeferredPlaceholder _ selected _ reason =>
    .decodeDeferredPlaceholder selected.frame.clientId selected.frame.runId selected.frame.frameId
      (decodedIdentity.bind fun identity => identity.decodableSource)
      (formatSwitcherH264DecodeDeferredReason reason)
  | .useDecodeFailedPlaceholder _ selected _ failure =>
    .decodeFailedPlaceholder selected.frame.clientId selected.frame.runId selected.frame.frameId
      (decodedIdentity.bind fun identity => identity.decodableSource) failure.message

theorem displayedSlotMatchesSelected_iff {displayed : SwitcherFourViewDisplayedSlot}
    {selected : SwitcherJitterBufferSelectedFrame} :
    displayedSlotMatchesSelected displayed selected = true ↔
      ∃ previous, displayed.selected = some previous ∧ displayed.decoded.isSome = true ∧
        previous.frame.clientId = selected.frame.clientId ∧ previous.frame.runId = selected.frame.runId ∧
          previous.frame.frameId = selected.frame.frameId := by
  unfold displayedSlotMatchesSelected
  cases displayed.selected with
  | none => simp
  | some previous => simp [and_assoc]

section Connect

variable {δ : Type} (decode : H264DecodeRuntime δ) (runtime : δ)
  (placement : SwitcherFourViewQuadSlotPlacement) {frame : SwitcherFourViewDisplayedSlot}
  (selected : SwitcherJitterBufferSelectedFrame) (consumed : Bool)

/-- What a slot makes of the result of its decode call. -/
def decodedSlot (placement : SwitcherFourViewQuadSlotPlacement) (frame : SwitcherFourViewDisplayedSlot)
    (selected : SwitcherJitterBufferSelectedFrame) (consumed : Bool) : SwitcherH264DecodeResult → RenderSlot
  | .decoded decoded => .useUpdatedFrame placement { frame with decoded := some decoded } selected consumed
  | .deferred reason => .useDecodeDeferredPlaceholder placement selected consumed reason
  | .failed failure => .useDecodeFailedPlaceholder placement selected consumed failure

theorem connectSlotWithRuntime_decode (h : frame.decoded = none) :
    connectSlotWithRuntime decode runtime (.useUpdatedFrame placement frame selected consumed) =
      (decodedSlot placement frame selected consumed (decode (selectedDecodeInput selected) runtime).1,
        (decode (selectedDecodeInput selected) runtime).2) := by
  unfold connectSlotWithRuntime
  dsimp only
  rw [h, if_neg (by simp)]
  generalize decode (selectedDecodeInput selected) runtime = outcome
  obtain ⟨result, after⟩ := outcome
  cases result <;> rfl

theorem connectSlotWithRuntime_kept (h : frame.decoded.isSome = true) :
    connectSlotWithRuntime decode runtime (.useUpdatedFrame placement frame selected consumed) =
      (.useUpdatedFrame placement frame selected consumed, runtime) := by
  unfold connectSlotWithRuntime
  dsimp only
  rw [if_pos h]

end Connect

section Placement

/-- Where the decision of a slot places it. -/
def SwitcherFourViewQuadCompositionSlotInstruction.placement :
    SwitcherFourViewQuadCompositionSlotInstruction → SwitcherFourViewQuadSlotPlacement
  | .useUpdatedFrame placement .. => placement
  | .useHeldPreviousFrame placement .. => placement
  | .useNoDisplayPlaceholder placement _ => placement
  | .useSourceErrorPlaceholder placement _ => placement

theorem placement_quadCompositionInstruction (slotIndex : Nat)
    (scheduler : SwitcherSingleClientTargetTimeHandoffSourceResult)
    (previous : Option SwitcherFourViewDisplayedSlot) (currentTime : TimestampMicros) :
    (quadCompositionInstructionForDecision (displayDecisionForSlot
      (decodeRenderInstructionForSlot slotIndex scheduler) previous currentTime)).placement =
        quadSlotPlacement slotIndex := by
  cases scheduler with
  | selected selected =>
    unfold decodeRenderInstructionForSlot displayDecisionForSlot
    dsimp only
    split <;> rfl
  | noFrameAvailable => cases previous <;> rfl
  | waitingForFrameAtOrBeforeTarget => cases previous <;> rfl
  | handoffError => rfl

theorem placement_connectSlotWithRuntime {δ : Type} (decode : H264DecodeRuntime δ) (runtime : δ)
    (instruction : SwitcherFourViewQuadCompositionSlotInstruction) :
    (connectSlotWithRuntime decode runtime instruction).1.placement = instruction.placement := by
  cases instruction with
  | useUpdatedFrame placement frame selected consumed =>
    cases hdecoded : frame.decoded with
    | none =>
      rw [connectSlotWithRuntime_decode decode runtime placement selected consumed hdecoded]
      cases (decode (selectedDecodeInput selected) runtime).1 <;> rfl
    | some decoded =>
      rw [connectSlotWithRuntime_kept decode runtime placement selected consumed (by rw [hdecoded]; rfl)]
      rfl
  | useHeldPreviousFrame placement frame skipped holdDurationMicros =>
    unfold connectSlotWithRuntime
    dsimp only
    split <;> rfl
  | useNoDisplayPlaceholder placement skipped => rfl
  | useSourceErrorPlaceholder placement skipped => rfl

theorem placement_reuseProgramFrame (programSelection : SwitcherProgramSelection)
    (decodedFrame : SwitcherDecodedFrame) (slot : RenderSlot) :
    (reuseProgramFrameForOperatorPreviewSlot programSelection decodedFrame slot).placement =
      slot.placement := by
  unfold reuseProgramFrameForOperatorPreviewSlot
  split
  next => split <;> rfl
  next => split <;> rfl
  next => rfl

theorem placement_retainSnapshot (snapshot : Option SwitcherFourViewDisplayedSlot) (slot : RenderSlot) :
    (retainSnapshot snapshot slot).placement = slot.placement := by
  unfold retainSnapshot
  split
  next => rfl
  next => split <;> rfl

end Placement

end StreamSync
