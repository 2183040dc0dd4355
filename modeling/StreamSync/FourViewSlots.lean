import StreamSync.JitterBuffer
import StreamSync.SwitcherTypes

namespace StreamSync

/-- One value a slot of the quad view, as the arrays `[_; 4]` of the source. -/
abbrev FourSlots (α : Type) := Fin 4 → α

structure SwitcherFourViewDisplayedSlot where
  slotIndex : Nat
  selected : Option SwitcherJitterBufferSelectedFrame
  decoded : Option SwitcherDecodedFrame
  displayedAt : TimestampMicros
deriving DecidableEq

inductive SwitcherFourViewHandoffSchedulerDecodeRenderSlotInstruction where
  | renderFrame (slotIndex : Nat) (selected : SwitcherJitterBufferSelectedFrame) (consumed : Bool)
  | skipNoFrameAvailable (slotIndex : Nat) (clientId : ClientId) (runId : RunId)
      (targetTimestamp : TimestampMicros) (clientQueueLen : Nat)
  | skipWaitingForFrameAtOrBeforeTarget (slotIndex : Nat) (clientId : ClientId) (runId : RunId)
      (targetTimestamp : TimestampMicros) (candidateFrameId : UInt64)
      (candidateCaptureTimestamp : TimestampMicros) (clientQueueLen : Nat)
  | skipHandoffError (slotIndex : Nat) (clientId : ClientId) (runId : RunId)
      (targetTimestamp : TimestampMicros) (mode : SwitcherSingleClientTargetTimeSourceMode)
      (handoffMode : SwitcherSingleClientQueueSourceMode) (error : SwitcherQueuedFrameHandoffError)
deriving DecidableEq

abbrev SlotInstruction := SwitcherFourViewHandoffSchedulerDecodeRenderSlotInstruction

inductive SwitcherFourViewHandoffDisplayDecision where
  | update (slotIndex : Nat) (frame : SwitcherFourViewDisplayedSlot)
      (selected : SwitcherJitterBufferSelectedFrame) (consumed : Bool)
  | holdPrevious (slotIndex : Nat) (frame : SwitcherFourViewDisplayedSlot) (skipped : SlotInstruction)
      (holdDurationMicros : UInt64)
  | noDisplayPlaceholder (slotIndex : Nat) (skipped : SlotInstruction)
  | sourceErrorPlaceholder (slotIndex : Nat) (skipped : SlotInstruction)
deriving DecidableEq

structure SwitcherFourViewQuadSlotPlacement where
  slotIndex : Nat
  row : Nat
  column : Nat
deriving DecidableEq, Repr

def quadSlotPlacement (slotIndex : Nat) : SwitcherFourViewQuadSlotPlacement :=
  ⟨slotIndex, slotIndex / 2, slotIndex % 2⟩

inductive SwitcherFourViewQuadCompositionSlotInstruction where
  | useUpdatedFrame (placement : SwitcherFourViewQuadSlotPlacement) (frame : SwitcherFourViewDisplayedSlot)
      (selected : SwitcherJitterBufferSelectedFrame) (consumed : Bool)
  | useHeldPreviousFrame (placement : SwitcherFourViewQuadSlotPlacement)
      (frame : SwitcherFourViewDisplayedSlot) (skipped : SlotInstruction) (holdDurationMicros : UInt64)
  | useNoDisplayPlaceholder (placement : SwitcherFourViewQuadSlotPlacement) (skipped : SlotInstruction)
  | useSourceErrorPlaceholder (placement : SwitcherFourViewQuadSlotPlacement) (skipped : SlotInstruction)
deriving DecidableEq

inductive SwitcherFourViewHandoffQuadCompositionRenderSlot where
  | useUpdatedFrame (placement : SwitcherFourViewQuadSlotPlacement) (frame : SwitcherFourViewDisplayedSlot)
      (selected : SwitcherJitterBufferSelectedFrame) (consumed : Bool)
  | useHeldPreviousFrame (placement : SwitcherFourViewQuadSlotPlacement)
      (frame : SwitcherFourViewDisplayedSlot) (skipped : SlotInstruction) (holdDurationMicros : UInt64)
  | useHeldPreviousFrameWithoutDecoded (placement : SwitcherFourViewQuadSlotPlacement)
      (frame : SwitcherFourViewDisplayedSlot) (skipped : SlotInstruction) (holdDurationMicros : UInt64)
  | useNoDisplayPlaceholder (placement : SwitcherFourViewQuadSlotPlacement) (skipped : SlotInstruction)
  | useSourceErrorPlaceholder (placement : SwitcherFourViewQuadSlotPlacement) (skipped : SlotInstruction)
  | useDecodeDeferredPlaceholder (placement : SwitcherFourViewQuadSlotPlacement)
      (selected : SwitcherJitterBufferSelectedFrame) (consumed : Bool)
      (reason : SwitcherH264DecodeDeferredReason)
  | useDecodeFailedPlaceholder (placement : SwitcherFourViewQuadSlotPlacement)
      (selected : SwitcherJitterBufferSelectedFrame) (consumed : Bool) (failure : SwitcherH264DecodeFailure)
deriving DecidableEq

abbrev RenderSlot := SwitcherFourViewHandoffQuadCompositionRenderSlot

namespace SwitcherFourViewHandoffQuadCompositionRenderSlot

/-- `two_real_quad_connected_slot_placement`. -/
def placement : RenderSlot → SwitcherFourViewQuadSlotPlacement
  | useUpdatedFrame placement .. => placement
  | useHeldPreviousFrame placement .. => placement
  | useHeldPreviousFrameWithoutDecoded placement .. => placement
  | useNoDisplayPlaceholder placement _ => placement
  | useSourceErrorPlaceholder placement _ => placement
  | useDecodeDeferredPlaceholder placement .. => placement
  | useDecodeFailedPlaceholder placement .. => placement

/-- The picture of `two_real_renderable_frame_and_placement`. -/
def renderableFrame : RenderSlot → Option SwitcherDecodedFrame
  | useUpdatedFrame _ frame _ _ => frame.decoded
  | useHeldPreviousFrame _ frame _ _ => frame.decoded
  | _ => none

/-- `two_real_missing_decoded_slot_placement`. -/
def missingDecodedPlacement : RenderSlot → Option SwitcherFourViewQuadSlotPlacement
  | useHeldPreviousFrameWithoutDecoded placement .. => some placement
  | _ => none

end SwitcherFourViewHandoffQuadCompositionRenderSlot

/-- `four_view_handoff_scheduler_decode_render_instruction_for_slot`. -/
def decodeRenderInstructionForSlot (slotIndex : Nat) :
    SwitcherSingleClientTargetTimeHandoffSourceResult → SlotInstruction
  | .selected selected =>
    .renderFrame slotIndex
      ⟨selected.frame, selected.targetTimestamp, selected.adjustedCaptureTimestamp,
        selected.deltaFromTargetMicros⟩ selected.consumed
  | .noFrameAvailable clientId runId targetTimestamp _ clientQueueLen =>
    .skipNoFrameAvailable slotIndex clientId runId targetTimestamp clientQueueLen
  | .waitingForFrameAtOrBeforeTarget clientId runId targetTimestamp _ candidateFrameId
      candidateCaptureTimestamp clientQueueLen =>
    .skipWaitingForFrameAtOrBeforeTarget slotIndex clientId runId targetTimestamp candidateFrameId
      candidateCaptureTimestamp clientQueueLen
  | .handoffError clientId runId targetTimestamp mode handoffMode error =>
    .skipHandoffError slotIndex clientId runId targetTimestamp mode handoffMode error

/-- `four_view_displayed_slot_matches_selected`. -/
def displayedSlotMatchesSelected (displayed : SwitcherFourViewDisplayedSlot)
    (selected : SwitcherJitterBufferSelectedFrame) : Bool :=
  match displayed.selected with
  | none => false
  | some previous =>
    displayed.decoded.isSome && previous.frame.clientId = selected.frame.clientId
      && previous.frame.runId = selected.frame.runId && previous.frame.frameId = selected.frame.frameId

open Saturating in
/-- `four_view_handoff_display_decision_for_slot`. -/
def displayDecisionForSlot (instruction : SlotInstruction) (previous : Option SwitcherFourViewDisplayedSlot)
    (currentTime : TimestampMicros) : SwitcherFourViewHandoffDisplayDecision :=
  match instruction with
  | .renderFrame slotIndex selected consumed =>
    match previous.filter fun frame => displayedSlotMatchesSelected frame selected with
    | some frame =>
      .update slotIndex { frame with selected := some selected, displayedAt := currentTime } selected consumed
    | none => .update slotIndex ⟨slotIndex, some selected, none, currentTime⟩ selected consumed
  | .skipNoFrameAvailable slotIndex .. =>
    match previous with
    | none => .noDisplayPlaceholder slotIndex instruction
    | some frame =>
      .holdPrevious slotIndex frame instruction (saturatingSub currentTime frame.displayedAt)
  | .skipWaitingForFrameAtOrBeforeTarget slotIndex .. =>
    match previous with
    | none => .noDisplayPlaceholder slotIndex instruction
    | some frame =>
      .holdPrevious slotIndex frame instruction (saturatingSub currentTime frame.displayedAt)
  | .skipHandoffError slotIndex .. => .sourceErrorPlaceholder slotIndex instruction

/-- `four_view_quad_composition_instruction_for_decision`. -/
def quadCompositionInstructionForDecision :
    SwitcherFourViewHandoffDisplayDecision → SwitcherFourViewQuadCompositionSlotInstruction
  | .update slotIndex frame selected consumed =>
    .useUpdatedFrame (quadSlotPlacement slotIndex) frame selected consumed
  | .holdPrevious slotIndex frame skipped holdDurationMicros =>
    .useHeldPreviousFrame (quadSlotPlacement slotIndex) frame skipped holdDurationMicros
  | .noDisplayPlaceholder slotIndex skipped =>
    .useNoDisplayPlaceholder (quadSlotPlacement slotIndex) skipped
  | .sourceErrorPlaceholder slotIndex skipped =>
    .useSourceErrorPlaceholder (quadSlotPlacement slotIndex) skipped

def selectedSourceIdentity (selected : SwitcherJitterBufferSelectedFrame) :
    SwitcherH264DecodeSourceIdentity :=
  ⟨selected.frame.clientId, selected.frame.runId, selected.frame.frameId, "selected"⟩

def selectedDecodeInput (selected : SwitcherJitterBufferSelectedFrame) : SwitcherH264DecodeInput :=
  ⟨selected.frame.encodedPayload, selected.frame.width, selected.frame.height, false, none,
    some (selectedSourceIdentity selected)⟩

/-- `connect_slot_with_runtime`: a new frame is decoded here, a held one is shown as it was kept. -/
def connectSlotWithRuntime {δ : Type} (decode : H264DecodeRuntime δ) (runtime : δ) :
    SwitcherFourViewQuadCompositionSlotInstruction → RenderSlot × δ
  | .useUpdatedFrame placement frame selected consumed =>
    if frame.decoded.isSome then (.useUpdatedFrame placement frame selected consumed, runtime)
    else
      match decode (selectedDecodeInput selected) runtime with
      | (.decoded decoded, runtime) =>
        (.useUpdatedFrame placement { frame with decoded := some decoded } selected consumed, runtime)
      | (.deferred reason, runtime) =>
        (.useDecodeDeferredPlaceholder placement selected consumed reason, runtime)
      | (.failed failure, runtime) =>
        (.useDecodeFailedPlaceholder placement selected consumed failure, runtime)
  | .useHeldPreviousFrame placement frame skipped holdDurationMicros =>
    if frame.decoded.isSome then
      (.useHeldPreviousFrame placement frame skipped holdDurationMicros, runtime)
    else (.useHeldPreviousFrameWithoutDecoded placement frame skipped holdDurationMicros, runtime)
  | .useNoDisplayPlaceholder placement skipped => (.useNoDisplayPlaceholder placement skipped, runtime)
  | .useSourceErrorPlaceholder placement skipped => (.useSourceErrorPlaceholder placement skipped, runtime)

/-- `update_four_view_previous_slots_from_composition_render`, of one slot. -/
def updatePreviousSlot (current : Option SwitcherFourViewDisplayedSlot) :
    RenderSlot → Option SwitcherFourViewDisplayedSlot
  | .useUpdatedFrame _ frame _ _ => if frame.decoded.isSome then some frame else current
  | .useHeldPreviousFrame _ frame _ _ => if frame.decoded.isSome then some frame else current
  | _ => current

end StreamSync
