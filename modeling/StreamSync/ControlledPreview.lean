import StreamSync.ControlPipe
import StreamSync.ControlResponse
import StreamSync.HandoffWorld
import StreamSync.OneShotDecode
import StreamSync.OperatorWrapper
import StreamSync.TwoViewScheduler
import StreamSync.Lib.Effect
import StreamSync.PreviewLoop
import StreamSync.QuadScaling

namespace StreamSync

open Effect

abbrev ViewState := SwitcherFourViewControlledPreviewViewState

inductive SwitcherFourViewHandoffSchedulerStatus where
  | allSelected | partialSelected | waiting | noFrames | handoffError
deriving DecidableEq, Repr

theorem four_pos : 0 < 4 := by decide

theorem one_lt_four : 1 < 4 := by decide

theorem two_lt_four : 2 < 4 := by decide

theorem three_lt_four : 3 < 4 := by decide

/-- The `std::array::from_fn` of four slots, in their order. -/
def fromFn {σ ε α : Type} (f : Fin 4 → Eff σ ε α) : Eff σ ε (FourSlots α) := do
  let slot0 ← f ⟨0, four_pos⟩
  let slot1 ← f ⟨1, one_lt_four⟩
  let slot2 ← f ⟨2, two_lt_four⟩
  let slot3 ← f ⟨3, three_lt_four⟩
  pure fun index =>
    if index.val = 0 then slot0 else if index.val = 1 then slot1 else if index.val = 2 then slot2 else slot3

def fourViewHandoffSchedulerStatus (slots : FourSlots SwitcherSingleClientTargetTimeHandoffSourceResult) :
    SwitcherFourViewHandoffSchedulerStatus :=
  let indices := List.finRange 4
  if indices.any fun index => (slots index).isHandoffError then .handoffError
  else
    let selectedCount := indices.countP fun index => (slots index).isSelected
    if selectedCount = 4 then .allSelected
    else if 0 < selectedCount then .partialSelected
    else if indices.any fun index => (slots index).isWaiting then .waiting
    else .noFrames

def selectQuadPreview {σ ε : Type} (handoff : QueuedFrameHandoff σ ε)
    (slots : FourSlots SwitcherFourViewTargetTimeSourceSlotConfig) (targetTimestamp : TimestampMicros)
    (mode : SwitcherSingleClientTargetTimeSourceMode) (clockOffsetsMicros : FourSlots (Option Int64)) :
    Eff σ ε (FourSlots SwitcherSingleClientTargetTimeHandoffSourceResult) :=
  fromFn fun index =>
    SwitcherSingleClientTargetTimeHandoffSourceBoundary.selectFromHandoffWithClockOffset handoff
      ⟨(slots index).clientId, (slots index).runId, targetTimestamp, mode⟩ (clockOffsetsMicros index)

/-- `MultiRealAndPlaceholderQueuedFrameHandoff`, less what it keeps for the diagnostics. -/
def multiRealAndPlaceholderHandoff {σ ε : Type} (realSlots : List (ClientId × RunId))
    (realHandoff : QueuedFrameHandoff σ ε) : QueuedFrameHandoff σ ε := fun input =>
  if (input.clientId, input.runId) ∈ realSlots then realHandoff input
  else pure (.noFrameAvailable input.clientId input.runId input.mode 0)

/-- `SwitcherWindowRenderResult`, by its kind. -/
inductive SwitcherWindowRenderResult where
  | rendered | renderDeferred | backendUnavailable | invalidFrame | renderFailed
deriving DecidableEq, Repr

def SwitcherWindowRenderResult.kind : SwitcherWindowRenderResult → String
  | rendered => "Rendered"
  | renderDeferred => "RenderDeferred"
  | backendUnavailable => "BackendUnavailable"
  | invalidFrame => "InvalidFrame"
  | renderFailed => "RenderFailed"

inductive FourViewCleanOutput where
  | renderReady (render : SwitcherWindowRenderResult)
  | noRenderableQuadView
  | invalidQuadView
deriving DecidableEq, Repr

def FourViewCleanOutput.kind : FourViewCleanOutput → String
  | renderReady render => render.kind
  | noRenderableQuadView => "NoRenderableQuadView"
  | invalidQuadView => "InvalidQuadView"

/-- A picture that the window was given: the view it is for, the slots it was made of, and what the window
said. -/
structure ShownPicture where
  view : ViewState
  slots : FourSlots RenderSlot
  frame : SwitcherDecodedFrameRenderInput
  result : SwitcherWindowRenderResult

structure PreviewWorld where
  handoff : HandoffWorld
  decodes : Nat
  shown : List ShownPicture

/-- What the preview does not come back from: a panic, or a decoder process that never closes its output. -/
inductive ControlledPreviewStop where
  | handoff (panic : HandoffLengthPanic)
  | slice
  | decode
  | waiting
deriving DecidableEq

/-- The arguments of the controlled preview, the decoder process of each decode, and what its window says to
each picture in turn. -/
structure ControlledPreviewSetup where
  clients : FourSlots (ClientId × RunId)
  maxTicksPerCommand : NonZeroU32
  targetTimestamp : TimestampMicros
  process : Nat → SwitcherH264DecodeInput → OneShotProcess
  window : Nat → SwitcherDecodedFrameRenderInput → SwitcherWindowRenderResult

abbrev Previewing (α : Type) := Eff PreviewWorld ControlledPreviewStop α

def ControlledPreviewSetup.slots (setup : ControlledPreviewSetup) :
    FourSlots SwitcherFourViewTargetTimeSourceSlotConfig := fun index =>
  ⟨index, (setup.clients index).1, (setup.clients index).2⟩

def focusedFourViewSlotIsRenderable : RenderSlot → Bool
  | .useUpdatedFrame _ frame _ _ => frame.decoded.isSome
  | .useHeldPreviousFrame _ frame _ _ => frame.decoded.isSome
  | _ => false

def countRenderableFourViewSlots (slots : FourSlots RenderSlot) : UInt32 :=
  UInt32.ofNat ((List.finRange 4).countP fun index => focusedFourViewSlotIsRenderable (slots index))

/-- `SwitcherFourViewComposedFrameRenderInput::from_composed_frame`, as far as it lets the frame pass. -/
def fromComposedFrame (frame : SwitcherFourViewComposedFrame) :
    Except SwitcherDecodedFrameRenderInputError SwitcherDecodedFrameRenderInput :=
  if frame.pixelFormat ≠ .bgra8 then .error (.unsupportedPixelFormat frame.pixelFormat)
  else if frame.width = 0 ∨ frame.height = 0 then .error .invalidDimensions
  else
    match (checkedMul frame.width.toNat frame.height.toNat).bind fun pixels => checkedMul pixels 4 with
    | none => .error (.invalidBufferLength usizeMax frame.pixels.length)
    | some expected =>
      if frame.pixels.length ≠ expected then .error (.invalidBufferLength expected frame.pixels.length)
      else .ok ⟨frame.width, frame.height, frame.pixelFormat, frame.pixels⟩

def formatFourViewRealHandoffSchedulerSlotKind : SwitcherSingleClientTargetTimeHandoffSourceResult → String
  | .selected _ => "Selected"
  | .noFrameAvailable .. => "NoFrameAvailable"
  | .waitingForFrameAtOrBeforeTarget .. => "WaitingForFrameAtOrBeforeTarget"
  | .handoffError .. => "HandoffError"

structure ControlledPreviewTicks where
  framesRendered : UInt32
  renderFailures : UInt32
  schedulerStatus : SwitcherFourViewHandoffSchedulerStatus
  slotResultKinds : FourSlots String
  cleanOutputRenderResultKind : String
  allViewRenderResultKind : String
  renderedSlotCount : UInt32

def ControlledPreviewTicks.start (view : ViewState) : ControlledPreviewTicks where
  framesRendered := 0
  renderFailures := 0
  schedulerStatus := .noFrames
  slotResultKinds := fun _ => "NoFrameAvailable"
  cleanOutputRenderResultKind :=
    match view with
    | .allView => "NoRenderableQuadView"
    | .focused _ => "NoRenderableFocusedView"
  allViewRenderResultKind := "not_applicable"
  renderedSlotCount := 0

namespace ControlledPreviewSetup

variable (setup : ControlledPreviewSetup)

def handoff : QueuedFrameHandoff PreviewWorld ControlledPreviewStop := fun input world =>
  match worldHandoff input world.handoff with
  | .ok (result, handoff) => .ok (result, { world with handoff })
  | .error panic => .error (.handoff panic)

def select : Previewing (FourSlots SwitcherSingleClientTargetTimeHandoffSourceResult) :=
  selectQuadPreview
    (multiRealAndPlaceholderHandoff ((List.finRange 4).map setup.clients) handoff) setup.slots
    setup.targetTimestamp .previewLatestIfAtOrBefore fun _ => none

open Saturating in
/-- What the display decision asks of a slot; the validation is given no earlier slots. -/
def slotInstruction (index : Fin 4) (result : SwitcherSingleClientTargetTimeHandoffSourceResult) :
    SwitcherFourViewQuadCompositionSlotInstruction :=
  quadCompositionInstructionForDecision
    (displayDecisionForSlot (decodeRenderInstructionForSlot index result) none
      (saturatingAdd setup.targetTimestamp 1))

/-- `SwitcherFfmpegH264DecodeRuntimeHook`, over the number of decodes so far. The result of a decode that does
not return is not looked at. -/
def decodeAnnexBH264 : H264DecodeRuntime (Except ControlledPreviewStop Nat) := fun input decodes =>
  match decodes with
  | .error stop => (.deferred .emptyPayload, .error stop)
  | .ok count =>
    match decodeWithOneShotFfmpegRuntime input (setup.process count input) with
    | .returned result => (result, .ok (count + 1))
    | .panicked => (.deferred .emptyPayload, .error .decode)
    | .blocked => (.deferred .emptyPayload, .error .waiting)

def connectSlot (instruction : SwitcherFourViewQuadCompositionSlotInstruction) : Previewing RenderSlot :=
  fun world =>
    let (slot, decodes) := connectSlotWithRuntime setup.decodeAnnexBH264 (.ok world.decodes) instruction
    decodes.map fun decodes => (slot, { world with decodes })

def renderOnce (view : ViewState) (slots : FourSlots RenderSlot) (frame : SwitcherDecodedFrameRenderInput) :
    Previewing SwitcherWindowRenderResult := fun world =>
  let result := setup.window world.shown.length frame
  .ok (result, { world with shown := world.shown ++ [⟨view, slots, frame, result⟩] })

/-- `scale_four_view_bgra_render_input_to_obs_validation_profile`; what the buffer held that it is given makes
no difference. -/
def scaleToObsOutput (frame : SwitcherDecodedFrameRenderInput) :
    Previewing SwitcherDecodedFrameRenderInput :=
  match scaleFourViewBgraFromSlice frame.width frame.height frame.pixelFormat frame.pixels 1280 720 none with
  | some scaled => pure scaled.1
  | none => throw .slice

def obsRenderOnce (view : ViewState) (slots : FourSlots RenderSlot) (frame : SwitcherDecodedFrameRenderInput) :
    Previewing SwitcherWindowRenderResult := do
  let scaled ← if frame.width = 1280 ∧ frame.height = 720 then pure frame else scaleToObsOutput frame
  setup.renderOnce view slots scaled

def renderCleanOutput (slots : FourSlots RenderSlot) :
    SwitcherFourViewQuadCompositionResult → Previewing FourViewCleanOutput
  | .noRenderableQuadView _ => pure .noRenderableQuadView
  | .invalidQuadView _ _ => pure .invalidQuadView
  | .composedFrame frame =>
    match fromComposedFrame frame with
    | .error _ => pure .invalidQuadView
    | .ok input => do
      let render ← setup.obsRenderOnce .allView slots input
      pure (.renderReady render)

/-- `render_four_view_focused_slot_with_runtime`, which is given the runtime that scales. -/
def renderFocusedSlot (focusedSlotIndex : Fin 4) (slots : FourSlots RenderSlot) : Previewing String :=
  match (slots focusedSlotIndex).renderableFrame with
  | none => pure "NoRenderableFocusedView"
  | some decoded =>
    match SwitcherDecodedFrameRenderInput.fromDecodedFrame decoded with
    | .error _ => pure "InvalidFrame"
    | .ok renderInput => do
      let scaled ← scaleToObsOutput renderInput
      let result ← setup.obsRenderOnce (.focused focusedSlotIndex) slots scaled
      pure result.kind

def connectSlots (results : FourSlots SwitcherSingleClientTargetTimeHandoffSourceResult) :
    Previewing (FourSlots RenderSlot) :=
  fromFn fun index => setup.connectSlot (setup.slotInstruction index (results index))

def composeQuadView (slots : FourSlots RenderSlot) : Previewing SwitcherFourViewQuadCompositionResult :=
  if h : ∀ index, (slots index).placement = quadSlotPlacement index then
    match composeFourViewQuadCanvas ⟨slots, h⟩ .default with
    | some composition => pure composition
    | none => throw .slice
  else throw .slice

def tick (view : ViewState) (ticks : ControlledPreviewTicks) : Previewing ControlledPreviewTicks := do
  let results ← setup.select
  let slots ← setup.connectSlots results
  let composition ← composeQuadView slots
  let ticks : ControlledPreviewTicks :=
    { ticks with
      schedulerStatus := fourViewHandoffSchedulerStatus results
      slotResultKinds := fun index => formatFourViewRealHandoffSchedulerSlotKind (results index) }
  match view with
  | .allView => do
    let cleanOutput ← setup.renderCleanOutput slots composition
    pure { ticks with
      cleanOutputRenderResultKind := cleanOutput.kind
      allViewRenderResultKind := cleanOutput.kind
      renderedSlotCount := countRenderableFourViewSlots slots
      framesRendered :=
        if cleanOutput = .renderReady .rendered then ticks.framesRendered + 1 else ticks.framesRendered
      renderFailures :=
        if cleanOutput = .renderReady .renderFailed then ticks.renderFailures + 1 else ticks.renderFailures }
  | .focused slotIndex =>
    if h : slotIndex < 4 then do
      let kind ← setup.renderFocusedSlot ⟨slotIndex, h⟩ slots
      pure { ticks with
        cleanOutputRenderResultKind := kind
        renderedSlotCount := if focusedFourViewSlotIsRenderable (slots ⟨slotIndex, h⟩) then 1 else 0
        framesRendered := if kind = "Rendered" then ticks.framesRendered + 1 else ticks.framesRendered
        renderFailures :=
          if kind = "RenderFailed" ∨ kind = "InvalidFrame" then ticks.renderFailures + 1
          else ticks.renderFailures }
    else throw .slice

def runTicks (view : ViewState) : Nat → ControlledPreviewTicks → Previewing ControlledPreviewTicks
  | 0, ticks => pure ticks
  | n + 1, ticks => setup.tick view ticks >>= runTicks view n

end ControlledPreviewSetup

/-- `FourViewControlledPreviewRenderOutcome`, with the diagnostics and the sizes left out. -/
structure ControlledPreviewRendered where
  outcome : FourViewControlledPreviewRenderOutcome
  framesRendered : UInt32
  renderFailures : UInt32
  schedulerStatus : SwitcherFourViewHandoffSchedulerStatus
  slotResultKinds : FourSlots String

def ControlledPreviewTicks.rendered (view : ViewState) (ticks : ControlledPreviewTicks) :
    ControlledPreviewRendered where
  outcome := {
    viewRenderMode := match view with | .allView => "AllView" | .focused _ => "Focused"
    outputLayout := match view with | .allView => "QuadView" | .focused _ => "FocusedFullWindow"
    selectedSlotResult :=
      match view with
      | .allView => "NotApplicable"
      | .focused slotIndex =>
        -- with another slot the first tick has panicked
        if h : slotIndex < 4 then ticks.slotResultKinds ⟨slotIndex, h⟩ else "NoFrameAvailable"
    renderedSlotCount := ticks.renderedSlotCount
    focusedSlotIndex := match view with | .allView => none | .focused slotIndex => some slotIndex
    cleanOutputRenderResultKind := ticks.cleanOutputRenderResultKind
    allViewRenderResultKind := ticks.allViewRenderResultKind }
  framesRendered := ticks.framesRendered
  renderFailures := ticks.renderFailures
  schedulerStatus := ticks.schedulerStatus
  slotResultKinds := ticks.slotResultKinds

/-- The view that a command has rendered. -/
def commandedView (state : ViewState) (rawCommand : String) : Option ViewState :=
  match parseFourViewControlCommand rawCommand with
  | .ok .all => some .allView
  | .ok (.focus slotIndex) => some (.focused slotIndex)
  | .ok .status => some state
  | .ok .quit => none
  | .error _ => none

def commandLabels (rawCommand : String) : String × String :=
  match parseFourViewControlCommand rawCommand with
  | .ok .all => ("all", "AllView")
  | .ok (.focus slotIndex) => ("focus", s!"Focused({slotIndex})")
  | .ok .status => ("status", "Status")
  | .ok .quit => ("quit", "Quit")
  | .error error => (error.commandName, error.requestedTransition)

/-- `FourViewControlledCommandIterationOutcome`; the last field is no part of it: the pictures that the window
was given for the command. -/
structure ControlledCommandOutcome where
  commandIndex : Nat
  labels : String × String
  summary : SwitcherFourViewControlledPreviewCommandSummary
  rendered : Option ControlledPreviewRendered
  pictures : List ShownPicture

/-- What an outcome that nothing was rendered for is given in place of a rendered one. -/
def nothingRendered : FourViewControlledPreviewRenderOutcome :=
  ⟨"none", "none", "NotApplicable", 0, none, "none", "not_applicable"⟩

namespace ControlledPreviewSetup

variable (setup : ControlledPreviewSetup)

def renderControlledState (view : ViewState) : Previewing ControlledPreviewRendered := do
  let ticks ← setup.runTicks view setup.maxTicksPerCommand.1.toNat (.start view)
  pure (ticks.rendered view)

def runCommand (commandIndex : Nat) (state : ViewState) (rawCommand : String) :
    Previewing ControlledCommandOutcome := fun world =>
  match commandedView state rawCommand with
  | none =>
    .ok (⟨commandIndex, commandLabels rawCommand,
      runFourViewControlCommandIteration (fun _ => nothingRendered) state rawCommand, none, []⟩, world)
  | some view =>
    match setup.renderControlledState view world with
    | .error panic => .error panic
    | .ok (rendered, world') =>
      .ok (⟨commandIndex, commandLabels rawCommand,
        runFourViewControlCommandIteration (fun _ => rendered.outcome) state rawCommand, some rendered,
        world'.shown.drop world.shown.length⟩, world')

end ControlledPreviewSetup

/-- The variables of the loop over the commands; `last` is what was rendered for the last command that
rendered. -/
structure ControlledPreviewLoop where
  finalViewState : ViewState
  commandsProcessed : UInt32
  commandsRejected : UInt32
  framesRenderedTotal : UInt32
  renderFailuresTotal : UInt32
  last : Option ControlledPreviewRendered
  exitReason : String
  outcomes : List ControlledCommandOutcome

namespace ControlledPreviewLoop

def start : ControlledPreviewLoop :=
  ⟨.allView, 0, 0, 0, 0, none, "CommandSequenceCompleted", []⟩

/-- What the loop makes of the outcome of a command, in each of the three sources. -/
def record (loop : ControlledPreviewLoop) (outcome : ControlledCommandOutcome) : ControlledPreviewLoop where
  finalViewState := outcome.summary.currentViewState
  commandsProcessed := loop.commandsProcessed + 1
  commandsRejected :=
    if outcome.summary.transitionResult = "Rejected" then loop.commandsRejected + 1
    else loop.commandsRejected
  framesRenderedTotal :=
    match outcome.rendered with
    | some rendered => loop.framesRenderedTotal + rendered.framesRendered
    | none => loop.framesRenderedTotal
  renderFailuresTotal :=
    match outcome.rendered with
    | some rendered => loop.renderFailuresTotal + rendered.renderFailures
    | none => loop.renderFailuresTotal
  last := outcome.rendered.or loop.last
  exitReason := if outcome.summary.exitReason ≠ "none" then outcome.summary.exitReason else loop.exitReason
  outcomes := loop.outcomes ++ [outcome]

/-- The loop is left after a command that asks for it. -/
def quit (loop : ControlledPreviewLoop) : Bool :=
  loop.outcomes.getLast?.any fun outcome => outcome.summary.exitReason = "QuitRequested"

end ControlledPreviewLoop

def splitScriptedControlCommands (script : String) : List String := splitScriptedOperatorWrapperKeys script

namespace ControlledPreviewSetup

variable (setup : ControlledPreviewSetup)

def runCommands : List (Nat × String) → ControlledPreviewLoop → Previewing ControlledPreviewLoop
  | [], loop => pure loop
  | (commandIndex, rawCommand) :: commands, loop =>
    if loop.quit then pure loop
    else do
      let outcome ← setup.runCommand commandIndex loop.finalViewState rawCommand
      runCommands commands (loop.record outcome)

def runScripted (script : String) : Previewing ControlledPreviewLoop :=
  setup.runCommands ((splitScriptedControlCommands script).zipIdx.map fun command => (command.2, command.1))
    .start

/-- `FourViewControlCommandSource::Stdin`: the lines until the input ends or fails. An index counts every
line, but blank ones are no commands. -/
def runStdin (lines : List String) (failure : Option String) : Previewing ControlledPreviewLoop := do
  let commands := (lines.zipIdx.map fun line => (line.2, trimText line.1)).filter
    fun command => !command.2.isEmpty
  let loop ← setup.runCommands commands .start
  let loop :=
    match failure with
    | some error =>
      if loop.quit then loop else { loop with exitReason := s!"StdinReadError:{sanitizeSummaryValue error}" }
    | none => loop
  pure (if loop.exitReason = "CommandSequenceCompleted" then { loop with exitReason := "EndOfInput" } else loop)

end ControlledPreviewSetup

end StreamSync
