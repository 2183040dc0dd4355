import StreamSync.QuadIncremental

namespace StreamSync

/-- `SwitcherFourViewCleanOutputWindowRenderResult`, as far as it was rendered. -/
inductive SwitcherFourViewCleanOutputWindowRenderResult where
  | renderReady (rendered : Bool)
  | notReady
deriving DecidableEq, Repr

def SwitcherFourViewCleanOutputWindowRenderResult.wasRendered :
    SwitcherFourViewCleanOutputWindowRenderResult → Bool
  | .renderReady rendered => rendered
  | .notReady => false

/-- What the preview loop remembers of its output from one tick to the next. The last two fields are no
variables of the loop: the window's content, and the call whose slots the remembered composition shows. -/
structure TwoRealPreviewOutputState where
  quadCompositionCache : TwoRealPreviewLoopQuadCompositionCache
  previousBgraComposition : Option SwitcherFourViewQuadCompositionResult
  previousCleanOutput : Option SwitcherFourViewCleanOutputWindowRenderResult
  previousVisualIdentities : Option (FourSlots SlotVisualIdentity)
  window : Option SwitcherFourViewComposedFrame
  composed : Option QuadCompositionCall

def TwoRealPreviewOutputState.start : TwoRealPreviewOutputState := ⟨.default, none, none, none, none, none⟩

/-- The output side of a tick: its slots, whether the program-first preview may leave them out, and which
canvases the window takes. -/
structure TwoRealPreviewOutputTick where
  call : QuadCompositionCall
  skippable : Bool
  renders : SwitcherFourViewComposedFrame → Bool

inductive TwoRealPreviewOutputDecision where
  | skippedForProgram | reusedRenderedOutput | reusedComposition | composed
deriving DecidableEq, Repr

/-- `two_real_preview_loop_visual_identities_render_equal` with the identities of the tick before, if there
was one. -/
def visualUnchanged (previous : Option (FourSlots SlotVisualIdentity))
    (current : FourSlots SlotVisualIdentity) : Bool :=
  previous.any fun previous =>
    (List.finRange 4).all fun index => slotVisualIdentityRenderEq (previous index) (current index)

namespace TwoRealPreviewOutputState

def renderCleanOutput (renders : SwitcherFourViewComposedFrame → Bool)
    (window : Option SwitcherFourViewComposedFrame) :
    SwitcherFourViewQuadCompositionResult →
      SwitcherFourViewCleanOutputWindowRenderResult × Option SwitcherFourViewComposedFrame
  | .composedFrame frame => (.renderReady (renders frame), if renders frame then some frame else window)
  | _ => (.notReady, window)

def previousComposedOutputAvailable (state : TwoRealPreviewOutputState) : Bool :=
  state.previousBgraComposition.any fun composition => composition.isComposedFrame

def decide (state : TwoRealPreviewOutputState) (tick : TwoRealPreviewOutputTick) :
    TwoRealPreviewOutputDecision :=
  let unchanged := visualUnchanged state.previousVisualIdentities tick.call.identities
  if tick.skippable && state.previousCleanOutput.isSome then .skippedForProgram
  else if unchanged && state.previousCleanOutput.any (·.wasRendered) then .reusedRenderedOutput
  else if unchanged && state.previousBgraComposition.isSome then .reusedComposition
  else .composed

/-- A composition that is rendered now becomes the remembered one. -/
def render (state : TwoRealPreviewOutputState) (tick : TwoRealPreviewOutputTick)
    (composition : SwitcherFourViewQuadCompositionResult) : TwoRealPreviewOutputState :=
  let (cleanOutput, window) := renderCleanOutput tick.renders state.window composition
  { state with
    previousBgraComposition := some composition
    previousCleanOutput := some cleanOutput
    window }

def compose (policy : SwitcherFourViewQuadLayoutPolicy) (state : TwoRealPreviewOutputState)
    (tick : TwoRealPreviewOutputTick) : TwoRealPreviewOutputState :=
  let output := composeQuadViewIncremental tick.call.connection policy state.quadCompositionCache
    state.previousComposedOutputAvailable state.previousVisualIdentities tick.call.identities
  { state with quadCompositionCache := output.2.2, composed := some tick.call }.render tick output.1

/-- The output side of one tick. The identities are remembered whatever the decision was. -/
def step (policy : SwitcherFourViewQuadLayoutPolicy) (state : TwoRealPreviewOutputState)
    (tick : TwoRealPreviewOutputTick) : TwoRealPreviewOutputState × TwoRealPreviewOutputDecision :=
  let decision := state.decide tick
  let next :=
    match decision, state.previousBgraComposition with
    | .skippedForProgram, _ => state
    | .reusedRenderedOutput, _ => state
    | .reusedComposition, some composition => state.render tick composition
    | _, _ => state.compose policy tick
  ({ next with previousVisualIdentities := some tick.call.identities }, decision)

end TwoRealPreviewOutputState

end StreamSync
