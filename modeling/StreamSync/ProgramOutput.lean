import StreamSync.FourViewSlots
import StreamSync.TargetTimeSource

namespace StreamSync

structure SwitcherFourViewTargetTimeSourceSlotConfig where
  slotIndex : Nat
  clientId : ClientId
  runId : RunId
deriving DecidableEq

structure SwitcherProgramSelection where
  selectedClientId : ClientId
  selectedRunId : Option RunId
  selectedSlotIndex : Option Nat
deriving DecidableEq

structure TwoRealCachedProgramOutputFrame where
  selection : SwitcherProgramSelection
  decodedFrame : SwitcherDecodedFrame
  frameId : Option UInt64
deriving DecidableEq

structure TwoRealProgramContinuousLatestFrame where
  selection : SwitcherProgramSelection
  decodedFrame : SwitcherDecodedFrame
  frameId : UInt64
  selectedFrameId : Option UInt64
  selectedFrameLag : Option UInt64
deriving DecidableEq

inductive ProgramContinuousDecodeMode where
  | targetFrame | smoothLatest
deriving DecidableEq, Repr

/-- Which of the four origins a program frame has; none of them is a choice as well. -/
structure TwoRealProgramOutputRenderFrameChoice where
  decodedFrame : Option SwitcherDecodedFrame
  reusedPreviousFrame : Bool
  usedContinuousLatest : Bool
  usedOneShotFallback : Bool
  renderedFrameId : Option UInt64
deriving DecidableEq

/-- `_program_frame_matches_selection` of a cached and of a continuous frame: a selection without a run
matches every run. -/
def programFrameMatchesSelection (frame selection : SwitcherProgramSelection) : Bool :=
  frame.selectedClientId = selection.selectedClientId
    && selection.selectedRunId.all fun runId => frame.selectedRunId = some runId

def cachedProgramFrameMatchesSelection (cached : TwoRealCachedProgramOutputFrame)
    (selection : SwitcherProgramSelection) : Bool :=
  programFrameMatchesSelection cached.selection selection

def latestProgramFrameMatchesSelection (latest : TwoRealProgramContinuousLatestFrame)
    (selection : SwitcherProgramSelection) : Bool :=
  programFrameMatchesSelection latest.selection selection

/-- The selection that a displayed frame stands for. -/
def selectionOfDisplayed (slotIndex : Nat) (selected : SwitcherJitterBufferSelectedFrame) :
    SwitcherProgramSelection :=
  ⟨selected.frame.clientId, some selected.frame.runId, some slotIndex⟩

/-- `updated_program_output_selection_and_frame_from_slot`: held pictures do not count. -/
def updatedProgramOutputSelectionAndFrameFromSlot :
    RenderSlot → Option (SwitcherProgramSelection × SwitcherDecodedFrame)
  | .useUpdatedFrame _ frame selected _ =>
    frame.decoded.map fun decoded => (selectionOfDisplayed frame.slotIndex selected, decoded)
  | _ => none

/-- `program_output_selection_and_frame_from_slot`. -/
def programOutputSelectionAndFrameFromSlot :
    RenderSlot → Option (SwitcherProgramSelection × SwitcherDecodedFrame)
  | .useUpdatedFrame _ frame selected _ =>
    frame.decoded.map fun decoded => (selectionOfDisplayed frame.slotIndex selected, decoded)
  | .useHeldPreviousFrame _ frame _ _ => do
    let selected ← frame.selected
    let decoded ← frame.decoded
    return (selectionOfDisplayed frame.slotIndex selected, decoded)
  | _ => none

def firstAvailableProgramOutputSelectionAndFrame (composition : FourSlots RenderSlot) :
    Option (SwitcherProgramSelection × SwitcherDecodedFrame) :=
  (List.finRange 4).findSome? fun index => programOutputSelectionAndFrameFromSlot (composition index)

section Selections

variable (slots : FourSlots SwitcherFourViewTargetTimeSourceSlotConfig) (realSlotIndices : Fin 4 × Fin 4)

/-- The real slot of a client: the first of the two that is configured for it. -/
def realSlotOfClient (clientId : ClientId) : Option SwitcherFourViewTargetTimeSourceSlotConfig :=
  [slots realSlotIndices.1, slots realSlotIndices.2].find? fun slot => slot.clientId = clientId

def fallbackProgramSelectionFromRealSlots : SwitcherProgramSelection :=
  let slot := slots (min realSlotIndices.1 realSlotIndices.2)
  ⟨slot.clientId, some slot.runId, some slot.slotIndex⟩

def requestedProgramSelectionFromRealSlots (requestedClientId : ClientId) : SwitcherProgramSelection :=
  match realSlotOfClient slots realSlotIndices requestedClientId with
  | some slot => ⟨requestedClientId, some slot.runId, some slot.slotIndex⟩
  | none => ⟨requestedClientId, none, none⟩

def fallbackProgramOutputSelectionAndFrame (composition : FourSlots RenderSlot) :
    SwitcherProgramSelection × Option SwitcherDecodedFrame :=
  match firstAvailableProgramOutputSelectionAndFrame composition with
  | some (selection, decoded) => (selection, some decoded)
  | none => (fallbackProgramSelectionFromRealSlots slots realSlotIndices, none)

/-- The first updated slot with a picture of the client. -/
def updatedSlotOfClient (composition : FourSlots RenderSlot) (requestedClientId : ClientId) :
    Option (SwitcherProgramSelection × SwitcherDecodedFrame) :=
  ((List.finRange 4).filterMap fun index =>
    updatedProgramOutputSelectionAndFrameFromSlot (composition index)).find? fun found =>
      found.1.selectedClientId = requestedClientId

/-- The slot is looked up by the client alone; the run is the one the configuration names first. -/
def requestedProgramOutputSelectionAndFrame (composition : FourSlots RenderSlot)
    (requestedClientId : ClientId) : SwitcherProgramSelection × Option SwitcherDecodedFrame :=
  let requestedSelection := requestedProgramSelectionFromRealSlots slots realSlotIndices requestedClientId
  match updatedSlotOfClient composition requestedClientId with
  | some (decodedSelection, decoded) =>
    (⟨requestedClientId, requestedSelection.selectedRunId.or decodedSelection.selectedRunId,
      requestedSelection.selectedSlotIndex⟩, some decoded)
  | none => (requestedSelection, none)

/-- The selection and the picture that the slots have for a request, or for none. -/
def programOutputSelectionAndFrame (composition : FourSlots RenderSlot) :
    Option ClientId → SwitcherProgramSelection × Option SwitcherDecodedFrame
  | some clientId => requestedProgramOutputSelectionAndFrame slots realSlotIndices composition clientId
  | none => fallbackProgramOutputSelectionAndFrame slots realSlotIndices composition

/-- `program_continuous_decode_source_from_real_slots`: its client and run. -/
def programContinuousDecodeSourceFromRealSlots (requestedClientId : Option ClientId) :
    Option (ClientId × RunId) := do
  let clientId ← requestedClientId
  let slot ← realSlotOfClient slots realSlotIndices clientId
  return (slot.clientId, slot.runId)

end Selections

/-- Whether the selection admits a frame: a selection without a run admits every run. -/
def SwitcherProgramSelection.admits (selection : SwitcherProgramSelection)
    (frame : SwitcherSingleViewSelectedEncodedFrame) : Bool :=
  frame.clientId = selection.selectedClientId && selection.selectedRunId.all fun runId => frame.runId = runId

/-- `selected_program_encoded_frame_from_pre_composition`, and the slot of it: the first frame the scheduler
selected that the selection admits. -/
def selectedProgramSlotFrame (scheduler : FourSlots SwitcherSingleClientTargetTimeHandoffSourceResult)
    (selection : SwitcherProgramSelection) : Option (Fin 4 × SwitcherSingleViewSelectedEncodedFrame) :=
  (List.finRange 4).findSome? fun index =>
    match scheduler index with
    | .selected selected => if selection.admits selected.frame then some (index, selected.frame) else none
    | _ => none

/-- `selected_program_frame_id_from_pre_composition`. -/
def selectedProgramFrameId (scheduler : FourSlots SwitcherSingleClientTargetTimeHandoffSourceResult)
    (selection : SwitcherProgramSelection) : Option UInt64 :=
  (selectedProgramSlotFrame scheduler selection).map fun selected => selected.2.frameId

/-- `select_two_real_program_output_render_frame`. -/
def selectTwoRealProgramOutputRenderFrame (mode : ProgramContinuousDecodeMode)
    (selection : SwitcherProgramSelection) (selectedFrameId : Option UInt64)
    (selectedDecodedFrame : Option SwitcherDecodedFrame)
    (lastValidProgramFrame : Option TwoRealCachedProgramOutputFrame)
    (programContinuousLatestFrame : Option TwoRealProgramContinuousLatestFrame) :
    TwoRealProgramOutputRenderFrameChoice :=
  let matchingLatest := programContinuousLatestFrame.filter fun latest =>
    latestProgramFrameMatchesSelection latest selection
  let matchingLastValid := lastValidProgramFrame.filter fun cached =>
    cachedProgramFrameMatchesSelection cached selection
  let reused cached : TwoRealProgramOutputRenderFrameChoice :=
    ⟨some cached.decodedFrame, true, false, false, cached.frameId⟩
  let selectedChoice decoded oneShot : TwoRealProgramOutputRenderFrameChoice :=
    ⟨some decoded, false, false, oneShot, selectedFrameId⟩
  match mode with
  | .smoothLatest =>
    match matchingLatest, matchingLastValid, selectedDecodedFrame with
    | some latest, _, _ => ⟨some latest.decodedFrame, false, true, false, some latest.frameId⟩
    | none, some cached, _ => reused cached
    | none, none, some decoded => selectedChoice decoded true
    | none, none, none => ⟨none, false, false, false, none⟩
  | .targetFrame =>
    match selectedDecodedFrame, matchingLastValid with
    | some decoded, _ => selectedChoice decoded false
    | none, some cached => reused cached
    | none, none => ⟨none, false, false, false, none⟩

/-- What a tick does to the program window: the selection it reports, the picture that was rendered, and
the picture it keeps for later. -/
structure TwoRealProgramOutputTick where
  selection : Option SwitcherProgramSelection
  rendered : Option SwitcherDecodedFrame
  latestValidFrame : Option TwoRealCachedProgramOutputFrame
deriving DecidableEq

/-- `render_two_real_program_output_if_enabled`, where `renders` says which pictures the window takes. -/
def renderTwoRealProgramOutputIfEnabled (enabled : Bool) (composition : FourSlots RenderSlot)
    (scheduler : FourSlots SwitcherSingleClientTargetTimeHandoffSourceResult)
    (slots : FourSlots SwitcherFourViewTargetTimeSourceSlotConfig) (realSlotIndices : Fin 4 × Fin 4)
    (requestedClientId : Option ClientId) (lastValidProgramFrame : Option TwoRealCachedProgramOutputFrame)
    (mode : ProgramContinuousDecodeMode)
    (programContinuousLatestFrame : Option TwoRealProgramContinuousLatestFrame)
    (programStartupBootstrapFrame : Option SwitcherDecodedFrame)
    (renders : SwitcherDecodedFrame → Bool) : TwoRealProgramOutputTick :=
  if enabled then
    let selected := programOutputSelectionAndFrame slots realSlotIndices composition requestedClientId
    let choice := selectTwoRealProgramOutputRenderFrame mode selected.1
      (selectedProgramFrameId scheduler selected.1) (selected.2.or programStartupBootstrapFrame)
      lastValidProgramFrame programContinuousLatestFrame
    let rendered := choice.decodedFrame.filter renders
    { selection := some selected.1
      rendered
      latestValidFrame :=
        if choice.reusedPreviousFrame then none
        else rendered.map fun decoded => ⟨selected.1, decoded, choice.renderedFrameId⟩ }
  else ⟨none, none, none⟩

end StreamSync
