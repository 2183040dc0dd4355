import StreamSync.DecodeCacheBound
import StreamSync.PreviewMemory

namespace StreamSync

open Run

/-- The looks of four slots without the sources of their frames. -/
def bareLooks (looks : FourSlots SlotVisualIdentity) : FourSlots SlotVisualIdentity := fun index =>
  (looks index).withoutSource

section Looks

variable {previous previous' : Option (FourSlots SlotVisualIdentity)} {current : FourSlots SlotVisualIdentity}

theorem visualUnchanged_iff :
    visualUnchanged previous current = true ↔ previous.map bareLooks = some (bareLooks current) := by
  cases previous with
  | none => simp [visualUnchanged]
  | some previous =>
    rw [visualUnchanged_some, Option.map_some, Option.some_inj]
    exact funext_iff.symm

/-- Which slots changed depends on the looks before only without their sources. -/
theorem changedVisualSlots_congr (h : previous.map bareLooks = previous'.map bareLooks) :
    changedVisualSlots previous current = changedVisualSlots previous' current := by
  funext index
  cases previous with
  | none =>
    cases previous' with
    | none => rfl
    | some _ => cases h
  | some looks =>
    cases previous' with
    | none => cases h
    | some looks' =>
      have hindex : (looks index).withoutSource = (looks' index).withoutSource :=
        congrFun (Option.some.inj h) index
      have hsame : slotVisualIdentityRenderEq (looks index) (current index) =
          slotVisualIdentityRenderEq (looks' index) (current index) := by
        rw [Bool.eq_iff_iff, slotVisualIdentityRenderEq_iff, slotVisualIdentityRenderEq_iff, hindex]
      simp only [changedVisualSlots, hsame]

end Looks

section Pictures

variable {slots slots' : FourSlots RenderSlot}

theorem validateQuadRenderableSlot_congr {slot slot' : RenderSlot} (hplacement : slot.placement = slot'.placement)
    (hframe : slot.renderableFrame = slot'.renderableFrame) :
    validateQuadRenderableSlot slot = validateQuadRenderableSlot slot' := by
  unfold validateQuadRenderableSlot
  rw [hplacement, hframe]

/-- Whether four slots can be drawn, and at which size, depends on their pictures alone. -/
theorem quadReady_congr (hplacement : ∀ index, (slots index).placement = (slots' index).placement)
    (hframe : ∀ index, (slots index).renderableFrame = (slots' index).renderableFrame)
    (hmissing : ∀ index, (slots index).missingDecodedPlacement = (slots' index).missingDecodedPlacement) :
    quadReady slots = quadReady slots' := by
  have hvalid := fun index => validateQuadRenderableSlot_congr (hplacement index) (hframe index)
  unfold quadReady quadSlotSize
  simp only [hframe, hmissing, hvalid]

theorem freshPixels_congr (policy : SwitcherFourViewQuadLayoutPolicy) (size : Nat × Nat)
    (hplacement : ∀ index, (slots index).placement = (slots' index).placement)
    (hframe : ∀ index, (slots index).renderableFrame = (slots' index).renderableFrame) :
    freshPixels policy slots size = freshPixels policy slots' size := by
  unfold freshPixels drawSlots updateQuadOutputSlot
  simp only [hframe, hplacement]

/-- Two calls with the same pictures give the same canvas. -/
theorem freshComposition_pixels {policy : SwitcherFourViewQuadLayoutPolicy} {call call' : QuadCompositionCall}
    (hframe : ∀ index, (call.connection.slots index).renderableFrame =
      (call'.connection.slots index).renderableFrame)
    (hmissing : ∀ index, (call.connection.slots index).missingDecodedPlacement =
      (call'.connection.slots index).missingDecodedPlacement)
    {frame : SwitcherFourViewComposedFrame} (h : freshComposition policy call = .composedFrame frame) :
    ∃ frame', freshComposition policy call' = .composedFrame frame' ∧ frame'.pixels = frame.pixels := by
  have hplacement : ∀ index, (call.connection.slots index).placement =
      (call'.connection.slots index).placement := fun index =>
    (call.connection.placed index).trans (call'.connection.placed index).symm
  cases hready : quadReady call.connection.slots with
  | error reason =>
    obtain ⟨-, hnone, -⟩ := composeQuadViewIncremental_error policy .default false none call.identities hready
    unfold freshComposition at h
    rw [h] at hnone
    cases hnone
  | ok size =>
    have hready' := (quadReady_congr hplacement hframe hmissing).symm.trans hready
    rw [freshComposition_ok hready] at h
    cases h
    exact ⟨_, freshComposition_ok hready', (freshPixels_congr policy size hplacement hframe).symm⟩

end Pictures

namespace TwoRealPreviewOutputState

/-- The composer's side of the output: its cache, the call it drew last, and whether that gave a frame. -/
def quad (output : TwoRealPreviewOutputState) : QuadCompositionState :=
  ⟨output.quadCompositionCache, output.composed, output.previousComposedOutputAvailable⟩

/-- The remembered composition, the window and the cache go with the call that was composed last. -/
structure InStep (policy : SwitcherFourViewQuadLayoutPolicy) (output : TwoRealPreviewOutputState) : Prop where
  composition : output.previousBgraComposition = output.composed.map (freshComposition policy)
  cleanOutput : output.previousCleanOutput = output.previousBgraComposition.map fun composition =>
    if composition.isComposedFrame then .renderReady true else .notReady
  window : ∀ frame, output.previousBgraComposition = some (.composedFrame frame) → output.window = some frame
  cache : CacheShowsPrevious policy output.quad
  looks : output.previousVisualIdentities.map bareLooks =
    output.composed.map fun call => bareLooks call.identities

section Step

variable {policy : SwitcherFourViewQuadLayoutPolicy} {output : TwoRealPreviewOutputState}
  {tick : TwoRealPreviewOutputTick}

theorem inStep_start (policy : SwitcherFourViewQuadLayoutPolicy) : InStep policy .start :=
  ⟨rfl, rfl, nofun, cacheShowsPrevious_start policy, rfl⟩

/-- Rendering a fresh composition of the composed call brings the output in step, but for the looks. -/
theorem inStep_render {call : QuadCompositionCall} {composition : SwitcherFourViewQuadCompositionResult}
    (hrenders : ∀ canvas, tick.renders canvas = true) (hcomposed : output.composed = some call)
    (hcomposition : composition = freshComposition policy call)
    (hcache : CacheShowsPrevious policy
      ⟨output.quadCompositionCache, output.composed, composition.isComposedFrame⟩)
    {looks : FourSlots SlotVisualIdentity} (hlooks : bareLooks looks = bareLooks call.identities) :
    InStep policy { output.render tick composition with previousVisualIdentities := some looks } where
  composition := by
    show some composition = output.composed.map (freshComposition policy)
    rw [hcomposed, hcomposition]
    rfl
  cleanOutput := by
    show some (renderCleanOutput tick.renders output.window composition).1 = _
    cases composition with
    | composedFrame frame =>
      show some (SwitcherFourViewCleanOutputWindowRenderResult.renderReady (tick.renders frame)) = _
      rw [hrenders frame]
      rfl
    | noRenderableQuadView slots => rfl
    | invalidQuadView reason slots => rfl
  window := by
    intro frame hframe
    cases Option.some.inj hframe
    show (if tick.renders frame then some frame else output.window) = some frame
    rw [if_pos (hrenders frame)]
  cache := hcache
  looks := by
    show some (bareLooks looks) = output.composed.map fun call => bareLooks call.identities
    rw [hcomposed, hlooks]
    rfl

theorem composeQuadViewIncremental_congr {connection : QuadConnection}
    {cache : TwoRealPreviewLoopQuadCompositionCache} {previousOutputAvailable : Bool}
    {previous previous' : Option (FourSlots SlotVisualIdentity)} {current : FourSlots SlotVisualIdentity}
    (h : previous.map bareLooks = previous'.map bareLooks) :
    composeQuadViewIncremental connection policy cache previousOutputAvailable previous current =
      composeQuadViewIncremental connection policy cache previousOutputAvailable previous' current := by
  unfold composeQuadViewIncremental
  rw [changedVisualSlots_congr h]

theorem InStep.compose (h : InStep policy output) (hrenders : ∀ canvas, tick.renders canvas = true)
    (hcontent : SameLookSameContent output.quad tick.call)
    (hscale : KeptPicturesKeepScale output.quad tick.call) :
    InStep policy
        { output.compose policy tick with previousVisualIdentities := some tick.call.identities } ∧
      (output.compose policy tick).composed = some tick.call := by
  obtain ⟨hcache, hfresh⟩ := quadCompositionStep_fresh policy output.quad tick.call h.cache ⟨hcontent, hscale⟩
  have hlooks : output.previousVisualIdentities.map bareLooks =
      (output.quad.previous.map QuadCompositionCall.identities).map bareLooks := by
    rw [h.looks, Option.map_map]
    rfl
  unfold TwoRealPreviewOutputState.compose
  dsimp only
  rw [composeQuadViewIncremental_congr hlooks]
  exact ⟨inStep_render hrenders rfl hfresh hcache rfl, rfl⟩

/-- What the reuse decisions rely on: a skipped tick looks like the tick before it, and a picture that stays
on the canvas keeps its scale. -/
def ReusesSoundly (output : TwoRealPreviewOutputState) (tick : TwoRealPreviewOutputTick) : Prop :=
  (output.decide tick = .skippedForProgram →
    visualUnchanged output.previousVisualIdentities tick.call.identities = true) ∧
  (output.decide tick = .composed → KeptPicturesKeepScale output.quad tick.call)

theorem decide_reusedRenderedOutput (h : output.decide tick = .reusedRenderedOutput) :
    visualUnchanged output.previousVisualIdentities tick.call.identities = true := by
  unfold TwoRealPreviewOutputState.decide at h
  dsimp only at h
  split at h
  next => cases h
  next =>
    split at h
    next hreuse =>
      rw [Bool.and_eq_true] at hreuse
      exact hreuse.1
    next => split at h <;> cases h

theorem decide_reusedComposition (h : output.decide tick = .reusedComposition) :
    visualUnchanged output.previousVisualIdentities tick.call.identities = true ∧
      ∃ composition, output.previousBgraComposition = some composition := by
  unfold TwoRealPreviewOutputState.decide at h
  dsimp only at h
  split at h
  next => cases h
  next =>
    split at h
    next => cases h
    next =>
      split at h
      next hreuse =>
        rw [Bool.and_eq_true] at hreuse
        exact ⟨hreuse.1, Option.isSome_iff_exists.mp hreuse.2⟩
      next => cases h

theorem InStep.composed_of_unchanged (h : InStep policy output)
    (hunchanged : visualUnchanged output.previousVisualIdentities tick.call.identities = true) :
    ∃ call, output.composed = some call ∧ bareLooks tick.call.identities = bareLooks call.identities := by
  have hlooks := visualUnchanged_iff.mp hunchanged
  rw [h.looks] at hlooks
  obtain ⟨call, hcall, hsame⟩ := Option.map_eq_some_iff.mp hlooks
  exact ⟨call, hcall, hsame.symm⟩

/-- An output that is left alone in a tick that looks like the one before it stays in step. -/
theorem InStep.keep (h : InStep policy output) {call : QuadCompositionCall}
    (hcomposed : output.composed = some call) {looks : FourSlots SlotVisualIdentity}
    (hlooks : bareLooks looks = bareLooks call.identities) :
    InStep policy { output with previousVisualIdentities := some looks } :=
  ⟨h.composition, h.cleanOutput, h.window, h.cache, by
    show some (bareLooks looks) = output.composed.map fun call => bareLooks call.identities
    rw [hcomposed, hlooks]
    rfl⟩

/-- The output stays in step with the call it composed last: the tick's own, or one that the tick looks
like. -/
theorem InStep.step (h : InStep policy output) (hrenders : ∀ canvas, tick.renders canvas = true)
    (hcontent : SameLookSameContent output.quad tick.call) (hreuse : ReusesSoundly output tick) :
    InStep policy (output.step policy tick).1 ∧
      ∃ call, (output.step policy tick).1.composed = some call ∧
        (call = tick.call ∨ output.composed = some call ∧
          bareLooks tick.call.identities = bareLooks call.identities) := by
  unfold TwoRealPreviewOutputState.step
  dsimp only
  cases hdecision : output.decide tick with
  | skippedForProgram =>
    obtain ⟨call, hcall, hsame⟩ := h.composed_of_unchanged (hreuse.1 hdecision)
    exact ⟨h.keep hcall hsame, call, hcall, .inr ⟨hcall, hsame⟩⟩
  | reusedRenderedOutput =>
    obtain ⟨call, hcall, hsame⟩ := h.composed_of_unchanged (decide_reusedRenderedOutput hdecision)
    exact ⟨h.keep hcall hsame, call, hcall, .inr ⟨hcall, hsame⟩⟩
  | reusedComposition =>
    obtain ⟨hunchanged, composition, hcomposition⟩ := decide_reusedComposition hdecision
    obtain ⟨call, hcall, hsame⟩ := h.composed_of_unchanged hunchanged
    have hfresh : composition = freshComposition policy call := by
      have hboth := hcomposition.symm.trans h.composition
      rw [hcall] at hboth
      exact Option.some.inj hboth
    have hcache := h.cache
    unfold quad previousComposedOutputAvailable at hcache
    rw [hcomposition] at hcache ⊢
    exact ⟨inStep_render hrenders hcall hfresh hcache hsame, call, hcall, .inr ⟨hcall, hsame⟩⟩
  | composed =>
    obtain ⟨hinStep, hcomposed⟩ := h.compose hrenders hcontent (hreuse.2 hdecision)
    exact ⟨hinStep, tick.call, hcomposed, .inl rfl⟩

end Step

end TwoRealPreviewOutputState

section Loop

variable {δ : Type} (pictures : DecoderPictures) (decode : H264DecodeRuntime δ)
  (config : TwoRealPreviewLoopConfig) (policy : SwitcherFourViewQuadLayoutPolicy)

/-- What `TwoRealPreviewOutputState.ReusesSoundly` asks of the output side of a tick. -/
def PreviewReusesSoundly (state : TwoRealPreviewLoopState δ) (tick : TwoRealPreviewLoopTick) : Prop :=
  state.output.ReusesSoundly (state.outputTick pictures decode config tick)

/-- At the start of the tick the composed slots look as is remembered, and behind it, unless it is skipped, the
window shows the tick's four slots, where they make up a canvas. -/
def PreviewShowsTick (state : TwoRealPreviewLoopState δ) (tick : TwoRealPreviewLoopTick) : Prop :=
  let after := previewLoopStep pictures decode config policy state tick
  (∀ call ∈ state.output.composed, visualUnchanged state.output.previousVisualIdentities call.identities = true) ∧
    (after.2.decision ≠ .skippedForProgram →
      ∀ frame, freshComposition policy after.2.preview = .composedFrame frame →
        ∃ shown, after.1.output.window = some shown ∧ shown.pixels = frame.pixels)

/-- The output is in step, and the call that was composed last shows what the slots remember. -/
structure PreviewInStep (policy : SwitcherFourViewQuadLayoutPolicy) (state : TwoRealPreviewLoopState δ) :
    Prop where
  output : state.output.InStep policy
  memory : ∀ index, SlotMemory (state.previousSlots index) (state.decodedSlotIdentities index)
  shown : ∀ call ∈ state.output.composed, ∀ index,
    (call.connection.slots index).missingDecodedPlacement = none ∧
      ∃ look, look.withoutSource = (call.identities index).withoutSource ∧
        ShowsMemory (state.previousSlots index) (state.decodedSlotIdentities index)
          (call.connection.slots index).renderableFrame look

section Tick

variable {pictures decode config policy} {state : TwoRealPreviewLoopState δ} {tick : TwoRealPreviewLoopTick}

/-- A tick that looks like the call composed last has the same pictures. -/
theorem PreviewInStep.same_pictures (h : PreviewInStep policy state) {call : QuadCompositionCall}
    (hcall : state.output.composed = some call) (index : Fin 4)
    (hlook : (call.identities index).withoutSource =
      ((state.previewCall pictures decode config tick).identities index).withoutSource) :
    (call.connection.slots index).renderableFrame =
      ((state.previewCall pictures decode config tick).connection.slots index).renderableFrame := by
  obtain ⟨-, look, hsame, hshown⟩ := h.shown call hcall index
  exact (remembersSlot_previewSlot pictures decode config state tick index).same_picture (h.memory index)
    (tick.decodableSource index) hshown (hsame.trans hlook)

theorem PreviewInStep.sameLookSameContent (h : PreviewInStep policy state) :
    SameLookSameContent state.output.quad (state.previewCall pictures decode config tick) :=
  fun _ hcall index hlook => h.same_pictures hcall index (slotVisualIdentityRenderEq_iff.mp hlook)

/-- One tick keeps the preview in step and shows its slots. -/
theorem PreviewInStep.next (h : PreviewInStep policy state)
    (hrenders : ∀ canvas, tick.previewRenders canvas = true)
    (hreuse : PreviewReusesSoundly pictures decode config state tick) :
    PreviewShowsTick pictures decode config policy state tick ∧
      PreviewInStep policy (previewLoopStep pictures decode config policy state tick).1 := by
  obtain ⟨houtput, call, hcall, hsource⟩ := @TwoRealPreviewOutputState.InStep.step policy state.output
    (state.outputTick pictures decode config tick) h.output hrenders h.sameLookSameContent hreuse
  have hshows := fun index => (remembersSlot_previewSlot pictures decode config state tick index).shows
    (h.memory index) (tick.decodableSource index)
  -- the call composed last is as good as the tick's own
  have hlook : ∀ index, (call.identities index).withoutSource =
      ((state.previewCall pictures decode config tick).identities index).withoutSource := by
    rcases hsource with rfl | ⟨-, hsame⟩
    · exact fun index => rfl
    · exact fun index => (congrFun hsame index).symm
  have hpicture : ∀ index, (call.connection.slots index).renderableFrame =
      ((state.previewCall pictures decode config tick).connection.slots index).renderableFrame := by
    rcases hsource with rfl | ⟨hold, -⟩
    · exact fun index => rfl
    · exact fun index => h.same_pictures hold index (hlook index)
  have hmissing : ∀ index, (call.connection.slots index).missingDecodedPlacement = none := by
    rcases hsource with rfl | ⟨hold, -⟩
    · exact fun index => (hshows index).2.2
    · exact fun index => (h.shown call hold index).1
  refine ⟨⟨fun composed hcomposed => ?_, fun _ frame hframe => ?_⟩, houtput, fun index => (hshows index).1, ?_⟩
  · rw [visualUnchanged_iff, h.output.looks, Option.mem_def.mp hcomposed]
    rfl
  · obtain ⟨shown, hshown, hpixels⟩ := freshComposition_pixels (fun index => (hpicture index).symm)
      (fun index => (hshows index).2.2.trans (hmissing index).symm) hframe
    refine ⟨shown, houtput.window shown ?_, hpixels⟩
    rw [houtput.composition, hcall, Option.map_some, hshown]
  · intro call' hcall' index
    cases hcall.symm.trans hcall'
    refine ⟨hmissing index, _, (hlook index).symm, ?_⟩
    rw [hpicture index]
    exact (hshows index).2.1

end Tick

/-- In every run in which a tick skipped for the program looks like the tick before it, and a picture that
stays on the canvas keeps its scale, the preview's reuse is sound in every tick. -/
theorem preview_reuse_sound (inner : δ) (ticks : List TwoRealPreviewLoopTick)
    (hrenders : ∀ tick ∈ ticks, ∀ canvas, tick.previewRenders canvas = true)
    (hreuse : Along (previewLoopStep pictures decode config policy)
      (PreviewReusesSoundly pictures decode config) (.start config inner) ticks) :
    Along (previewLoopStep pictures decode config policy) (PreviewShowsTick pictures decode config policy)
      (.start config inner) ticks := by
  have hstart : PreviewInStep policy (TwoRealPreviewLoopState.start config inner) :=
    ⟨TwoRealPreviewOutputState.inStep_start policy, fun _ => .nothing, nofun⟩
  exact (hreuse.and (along_of_mem hrenders)).always
    (fun _ _ h hstep => h.next hstep.2 hstep.1) hstart

end Loop

/-- The preview gives way to the program but for every second tick. -/
def refreshedEverySecondTick : TwoRealPreviewLoopConfig :=
  { twoCameras with
    programFirstValidationMode := true
    programFirstPreviewRefreshInterval := some ⟨2, by decide⟩ }

def firstCameraTick (frameId : UInt64) : TwoRealPreviewLoopTick :=
  tickWith (handoffKeyframe "camera-0" "run-0" frameId) (handoffNothing "camera-1" "run-1")

theorem preview_reuse_sound_same_frame :
    Along (previewLoopStep emitsZeros decodesBlack refreshedEverySecondTick .default)
      (PreviewShowsTick emitsZeros decodesBlack refreshedEverySecondTick .default)
      (.start refreshedEverySecondTick ()) [firstCameraTick 1, firstCameraTick 1] := by
  refine preview_reuse_sound emitsZeros decodesBlack refreshedEverySecondTick .default () _ ?_
    ⟨⟨?_, fun _ hcomposed => ?_⟩, ⟨fun _ => ?_, fun hcomposed => ?_⟩, trivial⟩
  · intro tick htick canvas
    rcases List.mem_pair.mp htick with rfl | rfl <;> rfl
  · exact fun hskipped => absurd hskipped (by decide +kernel)
  · cases hcomposed
  · decide +kernel
  · exact absurd hcomposed (by decide +kernel)

/-- The loop when the second frame came in a skipped tick. -/
def afterSkippedFrame : TwoRealPreviewLoopState Unit :=
  (run (previewLoopStep emitsZeros decodesBlack refreshedEverySecondTick .default)
    (.start refreshedEverySecondTick ()) [firstCameraTick 1, firstCameraTick 2]).1

/-- A frame that comes in a skipped tick is remembered as if it had been drawn. -/
theorem preview_reuse_stale :
    ¬(∀ (pictures : DecoderPictures) (decode : H264DecodeRuntime Unit) (config : TwoRealPreviewLoopConfig)
      (policy : SwitcherFourViewQuadLayoutPolicy) (inner : Unit) (ticks : List TwoRealPreviewLoopTick),
      (∀ tick ∈ ticks, ∀ canvas, tick.previewRenders canvas = true) →
        Along (previewLoopStep pictures decode config policy)
          (PreviewShowsTick pictures decode config policy) (.start config inner) ticks) := by
  intro h
  obtain ⟨-, -, ⟨hlooks, -⟩, -⟩ := h emitsZeros decodesBlack refreshedEverySecondTick .default ()
    [firstCameraTick 1, firstCameraTick 2, firstCameraTick 2] (by
      intro tick htick canvas
      rcases List.mem_cons.mp htick with rfl | htick
      · rfl
      · rcases List.mem_pair.mp htick with rfl | rfl <;> rfl)
  have hstale : (afterSkippedFrame.output.composed.any fun call =>
      !visualUnchanged afterSkippedFrame.output.previousVisualIdentities call.identities) = true := by
    decide +kernel
  obtain ⟨call, hcall, hdiffers⟩ := (Option.any_eq_true _ _).mp hstale
  have hsame : visualUnchanged afterSkippedFrame.output.previousVisualIdentities call.identities = true :=
    hlooks call hcall
  rw [hsame] at hdiffers
  cases hdiffers

end StreamSync
