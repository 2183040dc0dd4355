import StreamSync.ControlledPreview
import StreamSync.DecodedFrameSizes
import StreamSync.HandoffWatch

namespace StreamSync

open Effect

theorem succeeds_fromFn {σ ε α : Type} {I : σ → Prop} {P : Fin 4 → α → Prop} {f : Fin 4 → Eff σ ε α}
    (h : ∀ index s, I s → Succeeds (f index) s fun a s' => I s' ∧ P index a) {s : σ} (hs : I s) :
    Succeeds (fromFn f) s fun slots s' => I s' ∧ ∀ index, P index (slots index) := by
  refine ((h _ s hs).mono fun slot0 s0 h0 => ?_).bind
  refine ((h _ s0 h0.1).mono fun slot1 s1 h1 => ?_).bind
  refine ((h _ s1 h1.1).mono fun slot2 s2 h2 => ?_).bind
  refine Succeeds.bind ((h _ s2 h2.1).mono fun slot3 s3 h3 => ?_)
  refine succeeds_pure ⟨h3.1, fun index => ?_⟩
  match index with
  | 0 => exact h0.2
  | 1 => exact h1.2
  | 2 => exact h2.2
  | 3 => exact h3.2

/-- What the decoder is given of a frame. -/
def decodeInputOf (frame : SwitcherSingleViewSelectedEncodedFrame) : SwitcherH264DecodeInput :=
  ⟨frame.encodedPayload, frame.width, frame.height, false, none,
    some ⟨frame.clientId, frame.runId, frame.frameId, "selected"⟩⟩

variable {setup : ControlledPreviewSetup} {allowed : ServerQueuedVideoFrame → Prop}
  {world : PreviewWorld}

/-- A frame that a slot may show: one of its own client and run, captured by the target. -/
def ControlledPreviewSetup.Wanted (setup : ControlledPreviewSetup) (allowed : ServerQueuedVideoFrame → Prop)
    (index : Fin 4) (frame : SwitcherSingleViewSelectedEncodedFrame) : Prop :=
  Asked allowed (setup.clients index).1 (setup.clients index).2 frame ∧
    frame.captureTimestamp ≤ setup.targetTimestamp

/-- The picture of every frame that the server may store can be allocated, and every decoder process closes its
output in the end. -/
structure ControlledPreviewSetup.Decodable (setup : ControlledPreviewSetup)
    (allowed : ServerQueuedVideoFrame → Prop) : Prop where
  fits : ∀ queued, allowed queued → 4 * (queued.frame.width.toNat * queued.frame.height.toNat) ≤ isizeMax
  closes : ∀ count input, (setup.process count input).stdout.heldOpen = false

/-- A picture that the hook decoded of a frame that the slot may show. -/
def ControlledPreviewSetup.OwnPicture (setup : ControlledPreviewSetup) (allowed : ServerQueuedVideoFrame → Prop)
    (index : Fin 4) (picture : SwitcherDecodedFrame) : Prop :=
  ∃ frame count, setup.Wanted allowed index frame ∧
    decodeWithOneShotFfmpegRuntime (decodeInputOf frame) (setup.process count (decodeInputOf frame)) =
      .returned (.decoded picture)

/-- The slots stand in their places, and each of their pictures was decoded of a frame that the slot may
show. -/
structure ControlledPreviewSetup.OwnSlots (setup : ControlledPreviewSetup)
    (allowed : ServerQueuedVideoFrame → Prop) (slots : FourSlots RenderSlot) : Prop where
  placed : ∀ index : Fin 4, (slots index).placement = quadSlotPlacement index
  own : ∀ index picture, (slots index).renderableFrame = some picture → setup.OwnPicture allowed index picture

/-- The server goes on as without the preview. -/
structure Undisturbed (allowed : ServerQueuedVideoFrame → Prop) (before after : PreviewWorld) : Prop where
  watchable : Watchable allowed after.handoff
  watched : Watched before.handoff after.handoff

theorem Undisturbed.refl (h : Watchable allowed world.handoff) : Undisturbed allowed world world :=
  ⟨h, .refl _⟩

theorem Undisturbed.trans {second third : PreviewWorld} (h : Undisturbed allowed world second)
    (h' : Undisturbed allowed second third) : Undisturbed allowed world third :=
  ⟨h'.watchable, h.watched.trans h'.watched⟩

theorem Undisturbed.of_eq {after : PreviewWorld} (h : Watchable allowed world.handoff)
    (heq : after.handoff = world.handoff) : Undisturbed allowed world after where
  watchable := by rwa [heq]
  watched := by
    rw [heq]
    exact .refl _

theorem handoff_spec (h : Watchable allowed world.handoff) {input : SwitcherQueuedFrameHandoffInput}
    (hmode : input.mode ≠ .consumeOldest) :
    Succeeds (ControlledPreviewSetup.handoff input) world fun result world' =>
      (Undisturbed allowed world world' ∧ world'.shown = world.shown) ∧
        (input.mode ≠ .previewLatestDecodable → ∀ frame mode len, result = .frameRead frame mode len →
          Asked allowed input.clientId input.runId frame) := by
  obtain ⟨result, handoff, hresult, hwatchable, hwatched, hasked⟩ := worldHandoff_inspects h hmode
  refine ⟨result, { world with handoff }, ?_, ⟨⟨hwatchable, hwatched⟩, rfl⟩, hasked⟩
  unfold ControlledPreviewSetup.handoff
  rw [hresult]

theorem selected_captured {answer : SwitcherQueuedFrameHandoffResult} {targetTimestamp : TimestampMicros}
    {mode : SwitcherSingleClientTargetTimeSourceMode} {taken : Bool}
    {selected : SwitcherSingleClientTargetTimeSelectedFrame}
    (h : handoffConsumerResultForCandidate (consumerResult answer) targetTimestamp mode taken none =
      .selected selected) : selected.frame.captureTimestamp ≤ targetTimestamp := by
  cases answer with
  | frameRead frame sourceMode len =>
    simp only [handoffConsumerResultForCandidate, consumerResult, resultForCandidate] at h
    split at h
    next hle =>
      cases h
      exact hle
    next => cases h
  | noFrameAvailable _ _ _ _ => cases h
  | handoffError _ _ _ _ => cases h

theorem select_spec (h : Watchable allowed world.handoff) :
    Succeeds setup.select world
      fun (results : FourSlots SwitcherSingleClientTargetTimeHandoffSourceResult) world' =>
      (Undisturbed allowed world world' ∧ world'.shown = world.shown) ∧
        ∀ (index : Fin 4) (selected : SwitcherSingleClientTargetTimeSelectedFrame),
          results index = .selected selected → setup.Wanted allowed index selected.frame := by
  have hstart : Undisturbed allowed world world ∧ world.shown = world.shown := ⟨.refl h, rfl⟩
  unfold ControlledPreviewSetup.select selectQuadPreview
  refine succeeds_fromFn (I := fun world' => Undisturbed allowed world world' ∧ world'.shown = world.shown)
    (P := fun index (result : SwitcherSingleClientTargetTimeHandoffSourceResult) =>
      ∀ selected, result = .selected selected → setup.Wanted allowed index selected.frame)
    (fun index world' hworld => ?_) hstart
  have hreal : ((setup.slots index).clientId, (setup.slots index).runId) ∈
      (List.finRange 4).map setup.clients := List.mem_map.mpr ⟨index, List.mem_finRange index, rfl⟩
  have hread : multiRealAndPlaceholderHandoff ((List.finRange 4).map setup.clients)
      ControlledPreviewSetup.handoff
      ⟨(setup.slots index).clientId, (setup.slots index).runId, .previewLatest⟩ =
      ControlledPreviewSetup.handoff
        ⟨(setup.slots index).clientId, (setup.slots index).runId, .previewLatest⟩ := if_pos hreal
  have hanswer := handoff_spec hworld.1.watchable
    (show (⟨(setup.slots index).clientId, (setup.slots index).runId, .previewLatest⟩ :
      SwitcherQueuedFrameHandoffInput).mode ≠ .consumeOldest by simp)
  rw [← hread] at hanswer
  refine Succeeds.bind (Succeeds.bind (hanswer.mono ?_))
  rintro answer world'' ⟨⟨hkept, hshown⟩, hasked⟩
  refine succeeds_pure (succeeds_pure ⟨⟨hworld.1.trans hkept, hshown.trans hworld.2⟩, ?_⟩)
  intro selected hselected
  obtain ⟨mode, len, hframe⟩ := selected_of_consumerResult hselected
  exact ⟨hasked (by simp) _ _ _ hframe, selected_captured hselected⟩

/-- The sizes of a frame that a slot may show. -/
theorem ControlledPreviewSetup.Decodable.wanted (h : setup.Decodable allowed) {index : Fin 4}
    {frame : SwitcherSingleViewSelectedEncodedFrame} (hwanted : setup.Wanted allowed index frame) :
    4 * (frame.width.toNat * frame.height.toNat) ≤ isizeMax ∧
      (outputExpectedBytes frame.width frame.height).toNat = 4 * (frame.width.toNat * frame.height.toNat) := by
  obtain ⟨⟨queued, hallowed, -, -, rfl⟩, -⟩ := hwanted
  have hfits : 4 * (queued.frame.width.toNat * queued.frame.height.toNat) ≤ isizeMax := h.fits queued hallowed
  have hmax : isizeMax < 4 * 2 ^ 62 := by decide
  refine ⟨hfits, (outputExpectedBytes_exact_iff _ _).mpr ?_⟩
  change queued.frame.width.toNat * queued.frame.height.toNat < 2 ^ 62
  omega

theorem ControlledPreviewSetup.Decodable.decodes (h : setup.Decodable allowed) {index : Fin 4}
    {frame : SwitcherSingleViewSelectedEncodedFrame} (hwanted : setup.Wanted allowed index frame) (count : Nat) :
    ∃ result, setup.decodeAnnexBH264 (decodeInputOf frame) (.ok count) = (result, .ok (count + 1)) ∧
      decodeWithOneShotFfmpegRuntime (decodeInputOf frame) (setup.process count (decodeInputOf frame)) =
        .returned result := by
  obtain ⟨hfits, hexact⟩ := h.wanted hwanted
  have hbytes : (outputExpectedBytes (decodeInputOf frame).width (decodeInputOf frame).height).toNat ≤
      isizeMax := le_of_eq_of_le hexact hfits
  obtain ⟨result, hreturned⟩ := decodeWithOneShotFfmpegRuntime_returns hbytes
    (h.closes count (decodeInputOf frame))
  refine ⟨result, ?_, hreturned⟩
  unfold ControlledPreviewSetup.decodeAnnexBH264
  dsimp only
  rw [hreturned]

/-- A slot is connected without the hook, or with one decode of its frame. -/
theorem connect_decodes (hdecodes : setup.Decodable allowed) {index : Fin 4}
    {result : SwitcherSingleClientTargetTimeHandoffSourceResult}
    (hresult : ∀ selected, result = .selected selected → setup.Wanted allowed index selected.frame) (count : Nat) :
    ∃ count', (connectSlotWithRuntime setup.decodeAnnexBH264 (.ok count) (setup.slotInstruction index result)).2 =
        .ok count' ∧
      ∀ picture, (connectSlotWithRuntime setup.decodeAnnexBH264 (.ok count)
          (setup.slotInstruction index result)).1.renderableFrame = some picture →
        setup.OwnPicture allowed index picture := by
  cases result with
  | selected selected =>
    have hwanted := hresult selected rfl
    obtain ⟨decoded, hhook, hreturned⟩ := hdecodes.decodes hwanted count
    have hinstruction : setup.slotInstruction index (.selected selected) = .useUpdatedFrame
        (quadSlotPlacement index) ⟨index, some ⟨selected.frame, selected.targetTimestamp,
          selected.adjustedCaptureTimestamp, selected.deltaFromTargetMicros⟩, none, _⟩ _
        selected.consumed := rfl
    rw [hinstruction, connectSlotWithRuntime_decode _ _ _ _ _ rfl,
      show selectedDecodeInput ⟨selected.frame, selected.targetTimestamp, selected.adjustedCaptureTimestamp,
        selected.deltaFromTargetMicros⟩ = decodeInputOf selected.frame from rfl, hhook]
    refine ⟨count + 1, rfl, fun picture hpicture => ⟨selected.frame, count, hwanted, ?_⟩⟩
    cases decoded with
    | decoded decoded =>
      cases hpicture
      exact hreturned
    | deferred reason => cases hpicture
    | failed failure => cases hpicture
  | noFrameAvailable => exact ⟨count, rfl, nofun⟩
  | waitingForFrameAtOrBeforeTarget => exact ⟨count, rfl, nofun⟩
  | handoffError => exact ⟨count, rfl, nofun⟩

theorem connectSlot_spec (hdecodes : setup.Decodable allowed) (index : Fin 4)
    {result : SwitcherSingleClientTargetTimeHandoffSourceResult}
    (hresult : ∀ selected, result = .selected selected → setup.Wanted allowed index selected.frame) :
    Succeeds (setup.connectSlot (setup.slotInstruction index result)) world fun (slot : RenderSlot) world' =>
      (world'.handoff = world.handoff ∧ world'.shown = world.shown) ∧
        slot.placement = quadSlotPlacement index ∧
        ∀ picture, slot.renderableFrame = some picture → setup.OwnPicture allowed index picture := by
  obtain ⟨count, hcount, hown⟩ := connect_decodes hdecodes hresult world.decodes
  refine ⟨_, { world with decodes := count }, ?_, ⟨rfl, rfl⟩, ?_, hown⟩
  · unfold ControlledPreviewSetup.connectSlot
    dsimp only
    rw [hcount]
    rfl
  · exact (placement_connectSlotWithRuntime _ _ _).trans (placement_quadCompositionInstruction index result none _)

theorem connectSlots_spec (hdecodes : setup.Decodable allowed)
    {results : FourSlots SwitcherSingleClientTargetTimeHandoffSourceResult}
    (hresults : ∀ index selected, results index = .selected selected →
      setup.Wanted allowed index selected.frame) :
    Succeeds (setup.connectSlots results) world fun (slots : FourSlots RenderSlot) world' =>
      (world'.handoff = world.handoff ∧ world'.shown = world.shown) ∧ setup.OwnSlots allowed slots := by
  have hstart : world.handoff = world.handoff ∧ world.shown = world.shown := ⟨rfl, rfl⟩
  unfold ControlledPreviewSetup.connectSlots
  refine (succeeds_fromFn (I := fun world' => world'.handoff = world.handoff ∧ world'.shown = world.shown)
    (P := fun index (slot : RenderSlot) => slot.placement = quadSlotPlacement index ∧
      ∀ picture, slot.renderableFrame = some picture → setup.OwnPicture allowed index picture)
    (fun index world' hworld => ?_) hstart).mono fun slots world' h => ?_
  · refine (connectSlot_spec hdecodes index (hresults index)).mono fun slot world'' h => ?_
    exact ⟨⟨h.1.1.trans hworld.1, h.1.2.trans hworld.2⟩, h.2⟩
  · exact ⟨h.1, fun index => (h.2 index).1, fun index => (h.2 index).2⟩

end StreamSync
