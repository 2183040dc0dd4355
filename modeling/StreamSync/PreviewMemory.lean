import StreamSync.PreviewLoop

namespace StreamSync

/-- What a slot shows, beside what is remembered of the ticks before and what the scheduler has for it. -/
def RemembersSlot (scheduler : SwitcherSingleClientTargetTimeHandoffSourceResult)
    (previous : Option SwitcherFourViewDisplayedSlot) : RenderSlot → Prop
  | .useUpdatedFrame _ frame selected _ =>
    frame.selected = some selected ∧ frame.decoded.isSome = true ∧
      (∃ found, scheduler = .selected found ∧ found.frame = selected.frame) ∧
        ∀ old ∈ previous, displayedSlotMatchesSelected old selected = true → frame.decoded = old.decoded
  | .useHeldPreviousFrame _ frame _ _ => previous = some frame ∧ frame.decoded.isSome = true
  | .useHeldPreviousFrameWithoutDecoded _ frame _ _ => previous = some frame ∧ frame.decoded.isSome = false
  | .useDecodeDeferredPlaceholder _ selected _ _ =>
    (∃ found, scheduler = .selected found ∧ found.frame = selected.frame) ∧
      ∀ old ∈ previous, displayedSlotMatchesSelected old selected = false
  | _ => True

section Slot

variable {scheduler : SwitcherSingleClientTargetTimeHandoffSourceResult}
  {previous : Option SwitcherFourViewDisplayedSlot}

theorem remembersSlot_held {δ : Type} (decode : H264DecodeRuntime δ) (runtime : δ)
    (placement : SwitcherFourViewQuadSlotPlacement) (frame : SwitcherFourViewDisplayedSlot)
    (skipped : SlotInstruction) (holdDurationMicros : UInt64) :
    RemembersSlot scheduler (some frame) (connectSlotWithRuntime decode runtime
      (.useHeldPreviousFrame placement frame skipped holdDurationMicros)).1 := by
  unfold connectSlotWithRuntime
  dsimp only
  split
  next hdecoded => exact ⟨rfl, hdecoded⟩
  next hdecoded => exact ⟨rfl, Bool.eq_false_of_not_eq_true hdecoded⟩

theorem remembersSlot_connect {δ : Type} (decode : H264DecodeRuntime δ) (runtime : δ) (slotIndex : Nat)
    (scheduler : SwitcherSingleClientTargetTimeHandoffSourceResult)
    (previous : Option SwitcherFourViewDisplayedSlot) (currentTime : TimestampMicros) :
    RemembersSlot scheduler previous (connectSlotWithRuntime decode runtime
      (quadCompositionInstructionForDecision (displayDecisionForSlot
        (decodeRenderInstructionForSlot slotIndex scheduler) previous currentTime))).1 := by
  cases scheduler with
  | selected found =>
    unfold decodeRenderInstructionForSlot displayDecisionForSlot
    dsimp only
    split
    next frame hframe =>
      obtain ⟨hprevious, hmatches⟩ := Option.filter_eq_some_iff.mp hframe
      obtain ⟨-, -, hdecoded, -⟩ := displayedSlotMatchesSelected_iff.mp hmatches
      dsimp only [quadCompositionInstructionForDecision]
      rw [connectSlotWithRuntime_kept]
      · refine ⟨rfl, hdecoded, ⟨found, rfl, rfl⟩, fun old hold _ => ?_⟩
        cases hprevious.symm.trans hold
        rfl
      · exact hdecoded
    next hnone =>
      have hother := fun old hold => Bool.eq_false_of_not_eq_true (Option.filter_eq_none_iff.mp hnone old hold)
      dsimp only [quadCompositionInstructionForDecision]
      rw [connectSlotWithRuntime_decode _ _ _ _ _ rfl]
      dsimp only
      cases (decode (selectedDecodeInput _) runtime).1 with
      | decoded decoded =>
        refine ⟨rfl, rfl, ⟨found, rfl, rfl⟩, fun old hold hmatches => ?_⟩
        exact absurd hmatches (by rw [hother old hold]; exact Bool.false_ne_true)
      | deferred reason => exact ⟨⟨found, rfl, rfl⟩, hother⟩
      | failed failure => trivial
  | noFrameAvailable =>
    cases previous with
    | none => trivial
    | some frame => exact remembersSlot_held decode runtime _ frame _ _
  | waitingForFrameAtOrBeforeTarget =>
    cases previous with
    | none => trivial
    | some frame => exact remembersSlot_held decode runtime _ frame _ _
  | handoffError => trivial

theorem remembersSlot_reuse {slot : RenderSlot} (h : RemembersSlot scheduler previous slot)
    (selection : SwitcherProgramSelection) (decoded : SwitcherDecodedFrame) :
    RemembersSlot scheduler previous (reuseProgramFrameForOperatorPreviewSlot selection decoded slot) := by
  unfold reuseProgramFrameForOperatorPreviewSlot
  split
  next placement frame selected consumed =>
    split
    next hreuse =>
      -- an updated slot has its picture already
      have hdecoded := h.2.1
      rw [Option.isNone_iff_eq_none.mp hreuse.2] at hdecoded
      cases hdecoded
    next => exact h
  next placement selected consumed reason =>
    split
    next =>
      refine ⟨rfl, rfl, h.1, fun old hold hmatches => ?_⟩
      exact absurd hmatches (by rw [h.2 old hold]; exact Bool.false_ne_true)
    next => exact h
  next => exact h

theorem remembersSlot_retain {slot : RenderSlot} (h : RemembersSlot scheduler previous slot) :
    RemembersSlot scheduler previous (retainSnapshot previous slot) := by
  unfold retainSnapshot
  split
  next => exact h
  next snapshot hsnapshot =>
    split
    next => exact h
    next => exact Option.filter_eq_some_iff.mp hsnapshot

/-- Every slot of the preview shows what is remembered or newly found for it. -/
theorem remembersSlot_previewSlot {δ : Type} (pictures : DecoderPictures) (decode : H264DecodeRuntime δ)
    (config : TwoRealPreviewLoopConfig) (state : TwoRealPreviewLoopState δ) (tick : TwoRealPreviewLoopTick)
    (index : Fin 4) :
    RemembersSlot (tick.scheduler index) (state.previousSlots index)
      (state.previewSlot pictures decode config tick index) := by
  have hslot : RemembersSlot (tick.scheduler index) (state.previousSlots index)
      (state.preComposition pictures decode config tick index) :=
    remembersSlot_connect _ _ _ _ _ _
  have hreused : RemembersSlot (tick.scheduler index) (state.previousSlots index)
      (state.reusedSlot pictures decode config tick index) := by
    unfold TwoRealPreviewLoopState.reusedSlot
    dsimp only
    split
    next =>
      split
      next => exact remembersSlot_reuse hslot _ _
      next => exact hslot
    next => exact hslot
  unfold TwoRealPreviewLoopState.previewSlot
  dsimp only
  split
  next => exact remembersSlot_retain hreused
  next => exact hreused

end Slot

/-- A look without the source of its frame. -/
def TwoRealPreviewLoopSlotVisualIdentity.withoutSource : SlotVisualIdentity → SlotVisualIdentity
  | .sourceFrame clientId runId frameId _ => .sourceFrame clientId runId frameId none
  | .decodeDeferredPlaceholder clientId runId frameId _ reason =>
    .decodeDeferredPlaceholder clientId runId frameId none reason
  | .decodeFailedPlaceholder clientId runId frameId _ failure =>
    .decodeFailedPlaceholder clientId runId frameId none failure
  | .missingDecodedPixels clientId runId frameId _ => .missingDecodedPixels clientId runId frameId none
  | look => look

theorem slotVisualIdentityRenderEq_iff {look look' : SlotVisualIdentity} :
    slotVisualIdentityRenderEq look look' = true ↔ look.withoutSource = look'.withoutSource := by
  cases look <;> cases look' <;>
    simp [slotVisualIdentityRenderEq, TwoRealPreviewLoopSlotVisualIdentity.withoutSource, and_assoc]

theorem visualUnchanged_some {previous current : FourSlots SlotVisualIdentity} :
    visualUnchanged (some previous) current = true ↔
      ∀ index, (previous index).withoutSource = (current index).withoutSource := by
  simp [visualUnchanged, slotVisualIdentityRenderEq_iff]

/-- What a slot remembers: nothing, or a picture and the name of the frame it is kept for. -/
inductive SlotMemory :
    Option SwitcherFourViewDisplayedSlot → Option TwoRealPreviewLoopDecodedSlotIdentity → Prop where
  | nothing : SlotMemory none none
  | picture (frame selected decoded decodableSource) (hselected : frame.selected = some selected)
      (hdecoded : frame.decoded = some decoded) :
    SlotMemory (some frame)
      (some ⟨selected.frame.clientId, selected.frame.runId, selected.frame.frameId, decodableSource⟩)

/-- A slot shows the remembered picture and looks like the remembered frame, or it shows no picture and
looks like none. -/
inductive ShowsMemory (previous : Option SwitcherFourViewDisplayedSlot)
    (identity : Option TwoRealPreviewLoopDecodedSlotIdentity) :
    Option SwitcherDecodedFrame → SlotVisualIdentity → Prop where
  | picture (frame decoded decodedIdentity) (hprevious : previous = some frame)
      (hdecoded : frame.decoded = some decoded) (hidentity : identity = some decodedIdentity) :
    ShowsMemory previous identity (some decoded)
      (.sourceFrame decodedIdentity.clientId decodedIdentity.runId decodedIdentity.frameId
        decodedIdentity.decodableSource)
  | placeholder (look)
      (hlook : ∀ clientId runId frameId source, look ≠ .sourceFrame clientId runId frameId source) :
    ShowsMemory previous identity none look

section Memory

variable {scheduler : SwitcherSingleClientTargetTimeHandoffSourceResult}
  {previous : Option SwitcherFourViewDisplayedSlot} {identity : Option TwoRealPreviewLoopDecodedSlotIdentity}
  {slot : RenderSlot}

/-- What is remembered behind a tick is what the slot shows. -/
theorem RemembersSlot.shows (h : RemembersSlot scheduler previous slot) (hmemory : SlotMemory previous identity)
    (decodableSource : Option String) :
    SlotMemory (updatePreviousSlot previous slot)
        (updateDecodedSlotIdentity identity decodableSource scheduler slot) ∧
      ShowsMemory (updatePreviousSlot previous slot)
        (updateDecodedSlotIdentity identity decodableSource scheduler slot) slot.renderableFrame
        (slotVisualIdentity (updateDecodedSlotIdentity identity decodableSource scheduler slot) slot) ∧
      slot.missingDecodedPlacement = none := by
  cases slot with
  | useUpdatedFrame placement frame selected consumed =>
    obtain ⟨hselected, hdecoded, ⟨found, rfl, hfound⟩, -⟩ := h
    obtain ⟨decoded, hdecoded⟩ := Option.isSome_iff_exists.mp hdecoded
    have hprevious : updatePreviousSlot previous (.useUpdatedFrame placement frame selected consumed) =
        some frame := by
      simp [updatePreviousSlot, hdecoded]
    have hidentity : updateDecodedSlotIdentity identity decodableSource (.selected found)
        (.useUpdatedFrame placement frame selected consumed) =
          some ⟨selected.frame.clientId, selected.frame.runId, selected.frame.frameId, decodableSource⟩ := by
      simp [updateDecodedSlotIdentity, decodedSlotIdentity, hdecoded, hfound]
    rw [hprevious, hidentity]
    refine ⟨.picture frame selected decoded decodableSource hselected hdecoded, ?_, rfl⟩
    show ShowsMemory _ _ frame.decoded _
    rw [hdecoded]
    exact .picture frame decoded _ rfl hdecoded rfl
  | useHeldPreviousFrame placement frame skipped holdDurationMicros =>
    obtain ⟨rfl, hdecoded⟩ := h
    cases hmemory with
    | picture _ selected decoded source hselected hpicture =>
      have hprevious : updatePreviousSlot (some frame)
          (.useHeldPreviousFrame placement frame skipped holdDurationMicros) = some frame := by
        simp [updatePreviousSlot]
      rw [hprevious]
      refine ⟨.picture frame selected decoded source hselected hpicture, ?_, rfl⟩
      show ShowsMemory _ _ frame.decoded _
      rw [hpicture]
      exact .picture frame decoded _ rfl hpicture rfl
  | useHeldPreviousFrameWithoutDecoded placement frame skipped holdDurationMicros =>
    -- a remembered frame has its picture
    obtain ⟨rfl, hdecoded⟩ := h
    cases hmemory with
    | picture _ selected decoded source hselected hpicture =>
      rw [hpicture] at hdecoded
      cases hdecoded
  | _ => exact ⟨hmemory, .placeholder _ nofun, rfl⟩

/-- A slot that looks like an earlier one, which showed what is remembered since, shows the same picture. -/
theorem RemembersSlot.same_picture (h : RemembersSlot scheduler previous slot)
    (hmemory : SlotMemory previous identity) (decodableSource : Option String)
    {content : Option SwitcherDecodedFrame} {look : SlotVisualIdentity}
    (hshown : ShowsMemory previous identity content look)
    (hlook : look.withoutSource = (slotVisualIdentity
      (updateDecodedSlotIdentity identity decodableSource scheduler slot) slot).withoutSource) :
    content = slot.renderableFrame := by
  cases hshown with
  | picture old decoded decodedIdentity hprevious hdecoded hidentity =>
    subst hprevious hidentity
    cases hmemory with
    | picture _ oldSelected _ source hselected hpicture =>
      cases slot with
      | useUpdatedFrame placement frame selected consumed =>
        obtain ⟨-, hframe, ⟨found, rfl, hfound⟩, hkept⟩ := h
        obtain ⟨picture, hframe⟩ := Option.isSome_iff_exists.mp hframe
        have hsame : displayedSlotMatchesSelected old selected = true := by
          refine displayedSlotMatchesSelected_iff.mpr ⟨oldSelected, hselected, by rw [hdecoded]; rfl, ?_⟩
          simpa [updateDecodedSlotIdentity, decodedSlotIdentity, slotVisualIdentity, sourceFrameVisualIdentity,
            displayedFrameIdentityParts, TwoRealPreviewLoopSlotVisualIdentity.withoutSource, hframe, hfound]
            using hlook
        exact hdecoded.symm.trans (hkept old rfl hsame).symm
      | useHeldPreviousFrame placement frame skipped holdDurationMicros =>
        cases h.1
        exact hdecoded.symm
      | _ => cases hlook
  | placeholder _ hother =>
    have hnone : ∀ clientId runId frameId source,
        slotVisualIdentity (updateDecodedSlotIdentity identity decodableSource scheduler slot) slot ≠
          .sourceFrame clientId runId frameId source := by
      intro clientId runId frameId source heq
      rw [heq] at hlook
      cases look with
      | sourceFrame clientId' runId' frameId' source' => exact hother _ _ _ _ rfl
      | _ => cases hlook
    cases slot with
    | useUpdatedFrame => exact absurd rfl (hnone _ _ _ _)
    | useHeldPreviousFrame => exact absurd rfl (hnone _ _ _ _)
    | _ => rfl

end Memory

end StreamSync
