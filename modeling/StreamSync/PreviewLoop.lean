import StreamSync.Lib.Run
import StreamSync.PreviewOutput
import StreamSync.PreviewSlots
import StreamSync.TimedDecode

namespace StreamSync

abbrev NonZeroU32 := {n : UInt32 // n ≠ 0}

/-- The arguments of the two-real preview loop. -/
structure TwoRealPreviewLoopConfig where
  slot0Index : Fin 4
  slot1Index : Fin 4
  /-- `validate_distinct_four_view_real_slot_indices`. -/
  distinct : slot0Index ≠ slot1Index
  client0Id : ClientId
  run0Id : RunId
  client1Id : ClientId
  run1Id : RunId
  continuousStreamDecoderEnabled : Bool
  continuousDecoderSlot0SuppressOneShotFallback : Bool
  continuousDecoderBoundedLookupAllowedLagFrames : Option UInt64
  continuousDecoderOutputPipelineExperimentMode : TwoRealContinuousOutputPipelineExperimentMode
  programOutputWindowEnabled : Bool
  programSelectedClientId : Option ClientId
  programContinuousDecodeEnabled : Bool
  programContinuousDecodeMode : ProgramContinuousDecodeMode
  programFirstValidationMode : Bool
  programFirstPreviewRefreshInterval : Option NonZeroU32
  programFirstPreviewDecodeRefreshInterval : Option NonZeroU32
  operatorPreviewSnapshotRetentionEnabled : Bool
  programStartupBootstrapEnabled : Bool

namespace TwoRealPreviewLoopConfig

/-- `default_four_view_two_real_handoff_preview_slots`. -/
def slots (config : TwoRealPreviewLoopConfig) : FourSlots SwitcherFourViewTargetTimeSourceSlotConfig :=
  fun index =>
    if index = config.slot0Index then ⟨index, config.client0Id, config.run0Id⟩
    else if index = config.slot1Index then ⟨index, config.client1Id, config.run1Id⟩
    else ⟨index, "fixture-placeholder-slot-" ++ toString index.val,
      "fixture-placeholder-run-" ++ toString index.val⟩

def realSlotIndices (config : TwoRealPreviewLoopConfig) : Fin 4 × Fin 4 :=
  (config.slot0Index, config.slot1Index)

def operatorLowCostPreviewEnabled (config : TwoRealPreviewLoopConfig) : Bool :=
  config.programFirstValidationMode && config.programFirstPreviewRefreshInterval.isSome

def operatorPreviewSnapshotRetentionActive (config : TwoRealPreviewLoopConfig) : Bool :=
  config.operatorLowCostPreviewEnabled && config.operatorPreviewSnapshotRetentionEnabled

def programContinuousDecodeSource (config : TwoRealPreviewLoopConfig) :
    Option TwoRealContinuousDecodeSource :=
  if config.programContinuousDecodeEnabled && config.programOutputWindowEnabled then
    (programContinuousDecodeSourceFromRealSlots config.slots config.realSlotIndices
      config.programSelectedClientId).map fun source => ⟨source.1, source.2⟩
  else none

def continuousDecodeSource (config : TwoRealPreviewLoopConfig) : Option TwoRealContinuousDecodeSource :=
  config.programContinuousDecodeSource.or
    (if config.continuousStreamDecoderEnabled then some ⟨config.client0Id, config.run0Id⟩ else none)

def continuousConfig (config : TwoRealPreviewLoopConfig) : TwoRealContinuousDecodeConfig where
  slot0OneShotSuppressionEnabled := config.continuousDecodeSource.isSome
    && (config.continuousDecoderSlot0SuppressOneShotFallback || config.programFirstValidationMode)
  boundedLookupAllowedLagFrames := config.continuousDecoderBoundedLookupAllowedLagFrames
  outputPipelineExperimentMode := config.continuousDecoderOutputPipelineExperimentMode

def programFirstDecodeSuppression (config : TwoRealPreviewLoopConfig) :
    Option TwoRealProgramFirstDecodeSuppressionConfig :=
  if config.programFirstValidationMode && config.programOutputWindowEnabled then
    config.programContinuousDecodeSource.map fun programSource =>
      ⟨programSource, ⟨config.client0Id, config.run0Id⟩, ⟨config.client1Id, config.run1Id⟩⟩
  else none

/-- Half the width and height of the output window. -/
def outputOverride : TwoRealPreviewLoopDecodeOutputOverride := ⟨640, 360, "two_real_slot_size"⟩

/-- `current_program_selection`, of a tick's request. -/
def currentProgramSelection (config : TwoRealPreviewLoopConfig) :
    Option ClientId → SwitcherProgramSelection
  | some clientId => requestedProgramSelectionFromRealSlots config.slots config.realSlotIndices clientId
  | none => fallbackProgramSelectionFromRealSlots config.slots config.realSlotIndices

/-- `should_attempt_operator_low_cost_preview_refresh`. -/
def previewRefreshThisTick (config : TwoRealPreviewLoopConfig) (frameIndex : UInt32) : Bool :=
  config.operatorLowCostPreviewEnabled
    && config.programFirstPreviewRefreshInterval.any fun interval => frameIndex % interval.val = 0

/-- `should_attempt_operator_preview_decode_refresh`. -/
def decodeRefreshThisTick (config : TwoRealPreviewLoopConfig) (frameIndex : UInt32) : Bool :=
  config.operatorLowCostPreviewEnabled && config.previewRefreshThisTick frameIndex
    && config.programFirstPreviewDecodeRefreshInterval.any fun interval => frameIndex % interval.val = 0

end TwoRealPreviewLoopConfig

/-- What a decode call of the loop meets: what the threads of the continuous decoder did since the call
before it, and what happens during it. -/
structure DecodeCallTurn where
  threads : List ThreadStep
  turn : ContinuousTurn

/-- What the world around the loop does in one tick, and the client that is asked for. -/
structure TwoRealPreviewLoopTick where
  targetTimestamp : TimestampMicros
  /-- The frames of the bounded feed. -/
  fed : List (SwitcherSingleViewSelectedEncodedFrame × ContinuousTurn)
  threadsBeforeValidation : List ThreadStep
  scheduler : FourSlots SwitcherSingleClientTargetTimeHandoffSourceResult
  decodableSource : FourSlots (Option String)
  retainedKeyframeAvailable : FourSlots Bool
  slotTurns : FourSlots DecodeCallTurn
  threadsBeforeProgram : List ThreadStep
  bootstrapTurn : DecodeCallTurn
  requestedClientId : Option ClientId
  programRenders : SwitcherDecodedFrame → Bool
  previewRenders : SwitcherFourViewComposedFrame → Bool

open Saturating in
def TwoRealPreviewLoopTick.displayCurrentTime (tick : TwoRealPreviewLoopTick) : TimestampMicros :=
  saturatingAdd tick.targetTimestamp 1

/-- The last field is no variable of the loop: the decode cache as every call that gave out a picture left
it. -/
structure TwoRealPreviewLoopState (δ : Type) where
  frameIndex : UInt32
  timed : TimedSwitcherH264DecodeRuntime δ
  previousSlots : FourSlots (Option SwitcherFourViewDisplayedSlot)
  decodedSlotIdentities : FourSlots (Option TwoRealPreviewLoopDecodedSlotIdentity)
  lastValidProgramFrame : Option TwoRealCachedProgramOutputFrame
  programHadFirstRender : Bool
  output : TwoRealPreviewOutputState
  decodedCaches : List DecodedCache

def TwoRealPreviewLoopState.start {δ : Type} (config : TwoRealPreviewLoopConfig) (inner : δ) :
    TwoRealPreviewLoopState δ where
  frameIndex := 0
  timed := .new inner TwoRealPreviewLoopConfig.outputOverride config.continuousDecodeSource
    config.continuousConfig config.programFirstDecodeSuppression
  previousSlots := fun _ => none
  decodedSlotIdentities := fun _ => none
  lastValidProgramFrame := none
  programHadFirstRender := false
  output := .start
  decodedCaches := []

/-- What one tick shows. -/
structure TwoRealPreviewLoopTickOutput where
  program : TwoRealProgramOutputTick
  preview : QuadCompositionCall
  decision : TwoRealPreviewOutputDecision

namespace TwoRealPreviewLoopState

section Tick

variable {δ : Type} (pictures : DecoderPictures) (decode : H264DecodeRuntime δ)
  (config : TwoRealPreviewLoopConfig) (state : TwoRealPreviewLoopState δ) (tick : TwoRealPreviewLoopTick)

/-- `run_slot0_continuous_bounded_feed`, on the decoder's side. -/
def fedRuntime : TimedSwitcherH264DecodeRuntime δ :=
  if config.continuousDecodeSource.isSome then
    tick.fed.foldl (fun timed fed => (timed.feedSlot0ContinuousFrame pictures fed.1 fed.2).1) state.timed
  else state.timed

/-- Whether the preview of the program source gives way to a newest picture of it, and the runtime behind
that look-up. -/
def programSourcePreviewSuppression (timed : TimedSwitcherH264DecodeRuntime δ) :
    Bool × TimedSwitcherH264DecodeRuntime δ :=
  if config.programFirstValidationMode && config.programOutputWindowEnabled
      && config.programContinuousDecodeEnabled && config.programContinuousDecodeMode = .smoothLatest
      && config.programContinuousDecodeSource.isSome then
    let selection := config.currentProgramSelection tick.requestedClientId
    let (latest, timed) := timed.latestContinuousProgramFrame selection.selectedClientId selection.selectedRunId
    (latest.isSome, timed)
  else (false, timed)

/-- The decode runtime when the validation starts. -/
def validationRuntime : TimedSwitcherH264DecodeRuntime δ :=
  let timed := (state.fedRuntime pictures config tick).advance pictures tick.threadsBeforeValidation
  let timed := timed.setProgramFirstDecodeSuppressionActive
    (config.programFirstValidationMode && config.programOutputWindowEnabled
      && (state.output.previousCleanOutput.isSome || config.operatorLowCostPreviewEnabled))
  let (active, timed) := programSourcePreviewSuppression config tick timed
  (timed.setProgramFirstProgramSourcePreviewSuppressionActive active).setOperatorPreviewDecodeRefreshBudget
    (config.decodeRefreshThisTick state.frameIndex) 1

/-- What the display decision asks of a slot. -/
def slotInstruction (index : Fin 4) : SwitcherFourViewQuadCompositionSlotInstruction :=
  quadCompositionInstructionForDecision
    (displayDecisionForSlot (decodeRenderInstructionForSlot index (tick.scheduler index))
      (state.previousSlots index) tick.displayCurrentTime)

/-- The decode call of a slot. -/
def slotDecode (index : Fin 4) : H264DecodeRuntime (TimedSwitcherH264DecodeRuntime δ) := fun input timed =>
  (timed.advance pictures (tick.slotTurns index).threads).decodeForPurpose pictures decode input
    .previewFallback (tick.slotTurns index).turn

def connectSlot (index : Fin 4) (timed : TimedSwitcherH264DecodeRuntime δ) :
    RenderSlot × TimedSwitcherH264DecodeRuntime δ :=
  connectSlotWithRuntime (slotDecode pictures decode tick index) timed (state.slotInstruction tick index)

/-- The decode runtime behind the first slots; they are connected in order. -/
def slotsRuntime : Nat → TimedSwitcherH264DecodeRuntime δ
  | 0 => state.validationRuntime pictures config tick
  | n + 1 =>
    if h : n < 4 then (state.connectSlot pictures decode tick ⟨n, h⟩ (slotsRuntime n)).2 else slotsRuntime n

/-- The four slots of `pre_composition`. -/
def preComposition : FourSlots RenderSlot := fun index =>
  (state.connectSlot pictures decode tick index (state.slotsRuntime pictures decode config tick index)).1

/-- The newest picture of the program source, if the mode is for it, and the runtime behind it. -/
def programContinuousLatest :
    Option TwoRealProgramContinuousLatestFrame × TimedSwitcherH264DecodeRuntime δ :=
  let timed := (state.slotsRuntime pictures decode config tick 4).advance pictures tick.threadsBeforeProgram
  match config.programContinuousDecodeMode, config.programContinuousDecodeSource with
  | .smoothLatest, some source =>
    let selection := requestedProgramSelectionFromRealSlots config.slots config.realSlotIndices source.clientId
    let selectedFrameId := selectedProgramFrameId tick.scheduler selection
    let (latest, timed) := timed.latestContinuousProgramFrame selection.selectedClientId selection.selectedRunId
    (latest.map fun found =>
      ⟨selection, found.1, found.2, selectedFrameId,
        selectedFrameId.map fun selected => Saturating.saturatingSub selected found.2⟩, timed)
  | _, _ => (none, timed)

/-- The frame that the startup bootstrap decodes, unless `program_startup_bootstrap_rejection_reason` has a
reason against it. -/
def bootstrapFrame (composition : FourSlots RenderSlot) (latest : Option TwoRealProgramContinuousLatestFrame) :
    Option SwitcherSingleViewSelectedEncodedFrame :=
  if config.programStartupBootstrapEnabled && config.programOutputWindowEnabled
      && !state.programHadFirstRender && tick.requestedClientId.isSome && latest.isNone
      && state.lastValidProgramFrame.isNone
      && (programOutputSelectionAndFrame config.slots config.realSlotIndices composition
        tick.requestedClientId).2.isNone then
    (selectedProgramSlotFrame tick.scheduler (config.currentProgramSelection tick.requestedClientId)).bind
      fun selected =>
        if selected.2.isKeyframe || tick.retainedKeyframeAvailable selected.1 then some selected.2 else none
  else none

/-- `program_startup_bootstrap_decode_input`. -/
def programStartupBootstrapDecodeInput (frame : SwitcherSingleViewSelectedEncodedFrame) :
    SwitcherH264DecodeInput where
  encodedPayload := frame.encodedPayload
  width := frame.width
  height := frame.height
  scaledOutputEnabled := true
  scaledOutputReason := some "two_real_slot_size"
  sourceIdentity := some ⟨frame.clientId, frame.runId, frame.frameId, "selected"⟩

def programStartupBootstrap (timed : TimedSwitcherH264DecodeRuntime δ) :
    Option SwitcherSingleViewSelectedEncodedFrame →
      Option SwitcherDecodedFrame × TimedSwitcherH264DecodeRuntime δ
  | none => (none, timed)
  | some frame =>
    match (timed.advance pictures tick.bootstrapTurn.threads).decodeForPurpose pictures decode
      (programStartupBootstrapDecodeInput frame) .programStartupBootstrap tick.bootstrapTurn.turn with
    | (.decoded decoded, timed) => (some decoded, timed)
    | (_, timed) => (none, timed)

/-- The program side of a tick: the newest picture, the bootstrap's picture, and the runtime behind both. -/
def programFrames : Option TwoRealProgramContinuousLatestFrame × Option SwitcherDecodedFrame ×
    TimedSwitcherH264DecodeRuntime δ :=
  let latest := state.programContinuousLatest pictures decode config tick
  let composition := state.preComposition pictures decode config tick
  (latest.1, programStartupBootstrap pictures decode tick latest.2
    (state.bootstrapFrame config tick composition latest.1))

def programTick : TwoRealProgramOutputTick :=
  let frames := state.programFrames pictures decode config tick
  renderTwoRealProgramOutputIfEnabled config.programOutputWindowEnabled
    (state.preComposition pictures decode config tick) tick.scheduler config.slots config.realSlotIndices
    tick.requestedClientId state.lastValidProgramFrame config.programContinuousDecodeMode frames.1 frames.2.1
    tick.programRenders

/-- `last_valid_program_frame` after the program's turn. -/
def nextLastValidProgramFrame : Option TwoRealCachedProgramOutputFrame :=
  (state.programTick pictures decode config tick).latestValidFrame.or state.lastValidProgramFrame

/-- The picture that the operator's preview may take over from the program, and for which selection. -/
def operatorPreviewReuse : Option (SwitcherProgramSelection × SwitcherDecodedFrame) :=
  if config.operatorLowCostPreviewEnabled && config.programFirstValidationMode
      && config.programOutputWindowEnabled then do
    let clientId ← tick.requestedClientId
    let selection := requestedProgramSelectionFromRealSlots config.slots config.realSlotIndices clientId
    let decoded ← operatorPreviewProgramReuseCandidate selection
      (state.programFrames pictures decode config tick).1
      (state.nextLastValidProgramFrame pictures decode config tick)
    return (selection, decoded)
  else none

/-- `pre_composition` after the reuse of the program's picture. -/
def reusedSlot (index : Fin 4) : RenderSlot :=
  let slot := state.preComposition pictures decode config tick index
  match state.operatorPreviewReuse pictures decode config tick with
  | some (selection, decoded) =>
    if selection.selectedSlotIndex = some index.val then
      reuseProgramFrameForOperatorPreviewSlot selection decoded slot
    else slot
  | none => slot

/-- A slot of `preview_pre_composition`. -/
def previewSlot (index : Fin 4) : RenderSlot :=
  let slot := state.reusedSlot pictures decode config tick index
  if config.operatorPreviewSnapshotRetentionActive then retainSnapshot (state.previousSlots index) slot
  else slot

theorem placement_previewSlot (index : Fin 4) :
    (state.previewSlot pictures decode config tick index).placement = quadSlotPlacement index := by
  have hslot : (state.preComposition pictures decode config tick index).placement =
      quadSlotPlacement index := by
    unfold preComposition connectSlot
    rw [placement_connectSlotWithRuntime]
    exact placement_quadCompositionInstruction _ _ _ _
  have hreused : (state.reusedSlot pictures decode config tick index).placement =
      quadSlotPlacement index := by
    unfold reusedSlot
    dsimp only
    split
    next =>
      split
      next => rw [placement_reuseProgramFrame, hslot]
      next => exact hslot
    next => exact hslot
  unfold previewSlot
  dsimp only
  split
  next => rw [placement_retainSnapshot, hreused]
  next => exact hreused

def nextDecodedSlotIdentities : FourSlots (Option TwoRealPreviewLoopDecodedSlotIdentity) := fun index =>
  updateDecodedSlotIdentity (state.decodedSlotIdentities index) (tick.decodableSource index)
    (tick.scheduler index) (state.previewSlot pictures decode config tick index)

/-- The preview of the tick and what its slots look like. -/
def previewCall : QuadCompositionCall where
  connection := ⟨state.previewSlot pictures decode config tick,
    state.placement_previewSlot pictures decode config tick⟩
  identities := fun index =>
    slotVisualIdentity (state.nextDecodedSlotIdentities pictures decode config tick index)
      (state.previewSlot pictures decode config tick index)

def outputTick : TwoRealPreviewOutputTick where
  call := state.previewCall pictures decode config tick
  skippable := config.programFirstValidationMode && config.programOutputWindowEnabled
    && !config.previewRefreshThisTick state.frameIndex
  renders := tick.previewRenders

/-- One pass of `run_four_view_two_real_handoff_preview_loop`. -/
def next (policy : SwitcherFourViewQuadLayoutPolicy) :
    TwoRealPreviewLoopState δ × TwoRealPreviewLoopTickOutput :=
  let frames := state.programFrames pictures decode config tick
  let program := state.programTick pictures decode config tick
  let (output, decision) := state.output.step policy (state.outputTick pictures decode config tick)
  ({ frameIndex := state.frameIndex + 1
     timed := frames.2.2
     previousSlots := fun index =>
       updatePreviousSlot (state.previousSlots index) (state.previewSlot pictures decode config tick index)
     decodedSlotIdentities := state.nextDecodedSlotIdentities pictures decode config tick
     lastValidProgramFrame := state.nextLastValidProgramFrame pictures decode config tick
     programHadFirstRender := state.programHadFirstRender || program.rendered.isSome
     output
     decodedCaches := state.decodedCaches ++
       (List.range 4).map (fun n => (state.slotsRuntime pictures decode config tick (n + 1)).decodedCache) ++
       [(state.programContinuousLatest pictures decode config tick).2.decodedCache, frames.2.2.decodedCache] },
    ⟨program, state.previewCall pictures decode config tick, decision⟩)

end Tick

end TwoRealPreviewLoopState

/-- The loop over any ticks. -/
def previewLoopStep {δ : Type} (pictures : DecoderPictures) (decode : H264DecodeRuntime δ)
    (config : TwoRealPreviewLoopConfig) (policy : SwitcherFourViewQuadLayoutPolicy)
    (state : TwoRealPreviewLoopState δ) (tick : TwoRealPreviewLoopTick) :
    TwoRealPreviewLoopState δ × TwoRealPreviewLoopTickOutput :=
  state.next pictures decode config tick policy

/-- Two cameras in the first two slots, and a window for the program. -/
def twoCameras : TwoRealPreviewLoopConfig where
  slot0Index := 0
  slot1Index := 1
  distinct := by decide
  client0Id := "camera-0"
  run0Id := "run-0"
  client1Id := "camera-1"
  run1Id := "run-1"
  continuousStreamDecoderEnabled := false
  continuousDecoderSlot0SuppressOneShotFallback := false
  continuousDecoderBoundedLookupAllowedLagFrames := none
  continuousDecoderOutputPipelineExperimentMode := .default
  programOutputWindowEnabled := true
  programSelectedClientId := some "camera-0"
  programContinuousDecodeEnabled := false
  programContinuousDecodeMode := .targetFrame
  programFirstValidationMode := false
  programFirstPreviewRefreshInterval := none
  programFirstPreviewDecodeRefreshInterval := none
  operatorPreviewSnapshotRetentionEnabled := false
  programStartupBootstrapEnabled := false

def handoffNothing (clientId : ClientId) (runId : RunId) : SwitcherSingleClientTargetTimeHandoffSourceResult :=
  .noFrameAvailable clientId runId 0 .previewLatestIfAtOrBefore 0

def handoffKeyframe (clientId : ClientId) (runId : RunId) (frameId : UInt64) :
    SwitcherSingleClientTargetTimeHandoffSourceResult :=
  .selected ⟨⟨clientId, runId, frameId, 0, 0, 0, true, 1, 1, 60, .h264, 5, [0, 0, 0, 1, 101]⟩, 0, 0, 0, false⟩

def quietTurn : DecodeCallTurn := ⟨[], ⟨.spawned, [], []⟩⟩

/-- A tick in which the first two slots find what is given and the world is quiet. -/
def tickWith (slot0 slot1 : SwitcherSingleClientTargetTimeHandoffSourceResult) : TwoRealPreviewLoopTick where
  targetTimestamp := 0
  fed := []
  threadsBeforeValidation := []
  scheduler := fun index =>
    match index with
    | 0 => slot0
    | 1 => slot1
    | _ => handoffNothing "fixture-placeholder" "fixture-placeholder"
  decodableSource := fun _ => none
  retainedKeyframeAvailable := fun _ => false
  slotTurns := fun _ => quietTurn
  threadsBeforeProgram := []
  bootstrapTurn := quietTurn
  requestedClientId := some "camera-0"
  programRenders := fun _ => true
  previewRenders := fun _ => true

end StreamSync
