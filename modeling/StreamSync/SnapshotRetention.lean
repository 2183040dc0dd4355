import StreamSync.DecodeCacheBound
import StreamSync.Lib.Run
import StreamSync.PreviewLoop

namespace StreamSync

open Run Saturating

structure TwoRealOperatorPreviewSnapshotRetentionDiagnostics where
  reuseCount : UInt32
  reuseSlotCounts : FourSlots UInt32
  placeholderAvoidedBySnapshotCount : UInt32
  slotBlackAfterSnapshotCount : UInt32

def TwoRealOperatorPreviewSnapshotRetentionDiagnostics.default :
    TwoRealOperatorPreviewSnapshotRetentionDiagnostics := ⟨0, fun _ => 0, 0, 0⟩

namespace TwoRealOperatorPreviewSnapshotRetentionDiagnostics

def countReuse (diagnostics : TwoRealOperatorPreviewSnapshotRetentionDiagnostics) (slotIndex : Fin 4) :
    TwoRealOperatorPreviewSnapshotRetentionDiagnostics :=
  { diagnostics with
    reuseCount := saturatingAdd32 diagnostics.reuseCount 1
    reuseSlotCounts := Function.update diagnostics.reuseSlotCounts slotIndex
      (saturatingAdd32 (diagnostics.reuseSlotCounts slotIndex) 1)
    placeholderAvoidedBySnapshotCount := saturatingAdd32 diagnostics.placeholderAvoidedBySnapshotCount 1 }

def countBlack (diagnostics : TwoRealOperatorPreviewSnapshotRetentionDiagnostics) :
    TwoRealOperatorPreviewSnapshotRetentionDiagnostics :=
  { diagnostics with
    slotBlackAfterSnapshotCount := saturatingAdd32 diagnostics.slotBlackAfterSnapshotCount 1 }

end TwoRealOperatorPreviewSnapshotRetentionDiagnostics

section Retention

variable (snapshots : FourSlots (Option SwitcherFourViewDisplayedSlot))

/-- One turn of the first loop of `apply_operator_preview_snapshot_retention`. -/
def retainSlot (retained : FourSlots RenderSlot × TwoRealOperatorPreviewSnapshotRetentionDiagnostics)
    (slotIndex : Fin 4) : FourSlots RenderSlot × TwoRealOperatorPreviewSnapshotRetentionDiagnostics :=
  match (snapshots slotIndex).filter fun snapshot => snapshot.decoded.isSome with
  | none => retained
  | some snapshot =>
    let slot := retained.1 slotIndex
    if slot.renderableFrame.isSome then retained
    else
      (Function.update retained.1 slotIndex
        (.useHeldPreviousFrame slot.placement snapshot (retainedSkippedInstruction slot) 0),
        retained.2.countReuse slotIndex)

/-- One turn of its second loop. -/
def countBlackSlot (slots : FourSlots RenderSlot)
    (diagnostics : TwoRealOperatorPreviewSnapshotRetentionDiagnostics) (slotIndex : Fin 4) :
    TwoRealOperatorPreviewSnapshotRetentionDiagnostics :=
  if (snapshots slotIndex).any (fun snapshot => snapshot.decoded.isSome)
      && (slots slotIndex).renderableFrame.isNone then diagnostics.countBlack
  else diagnostics

def applyOperatorPreviewSnapshotRetention (slots : FourSlots RenderSlot) :
    FourSlots RenderSlot × TwoRealOperatorPreviewSnapshotRetentionDiagnostics :=
  let retained := (List.finRange 4).foldl (retainSlot snapshots) (slots, .default)
  (retained.1, (List.finRange 4).foldl (countBlackSlot snapshots retained.1) retained.2)

variable {snapshots}

theorem retainSlot_fst (retained : FourSlots RenderSlot × TwoRealOperatorPreviewSnapshotRetentionDiagnostics)
    (slotIndex : Fin 4) :
    (retainSlot snapshots retained slotIndex).1 =
      Function.update retained.1 slotIndex (retainSnapshot (snapshots slotIndex) (retained.1 slotIndex)) := by
  unfold retainSlot retainSnapshot
  cases (snapshots slotIndex).filter fun snapshot => snapshot.decoded.isSome with
  | none => exact (Function.update_eq_self slotIndex retained.1).symm
  | some snapshot =>
    dsimp only
    split
    next => exact (Function.update_eq_self slotIndex retained.1).symm
    next => rfl

theorem retainSlot_black (retained : FourSlots RenderSlot × TwoRealOperatorPreviewSnapshotRetentionDiagnostics)
    (slotIndex : Fin 4) :
    (retainSlot snapshots retained slotIndex).2.slotBlackAfterSnapshotCount =
      retained.2.slotBlackAfterSnapshotCount := by
  unfold retainSlot
  split
  next => rfl
  next =>
    dsimp only
    split <;> rfl

theorem foldl_retainSlot_fst (slotIndices : List (Fin 4)) (hdistinct : slotIndices.Nodup)
    (retained : FourSlots RenderSlot × TwoRealOperatorPreviewSnapshotRetentionDiagnostics) (index : Fin 4) :
    (slotIndices.foldl (retainSlot snapshots) retained).1 index =
      if index ∈ slotIndices then retainSnapshot (snapshots index) (retained.1 index)
      else retained.1 index := by
  induction slotIndices generalizing retained with
  | nil => rfl
  | cons slotIndex slotIndices ih =>
    obtain ⟨hnew, hdistinct⟩ := List.nodup_cons.mp hdistinct
    rw [List.foldl_cons, ih hdistinct, retainSlot_fst]
    by_cases hindex : index = slotIndex
    · subst hindex
      rw [if_neg hnew, if_pos List.mem_cons_self, Function.update_self]
    · rw [Function.update_of_ne hindex]
      simp only [List.mem_cons, hindex, false_or]

theorem foldl_retainSlot_black (slotIndices : List (Fin 4))
    (retained : FourSlots RenderSlot × TwoRealOperatorPreviewSnapshotRetentionDiagnostics) :
    (slotIndices.foldl (retainSlot snapshots) retained).2.slotBlackAfterSnapshotCount =
      retained.2.slotBlackAfterSnapshotCount := by
  induction slotIndices generalizing retained with
  | nil => rfl
  | cons slotIndex slotIndices ih => rw [List.foldl_cons, ih, retainSlot_black]

/-- The loop does to each slot what is done to one. -/
theorem applyOperatorPreviewSnapshotRetention_slot (slots : FourSlots RenderSlot) (index : Fin 4) :
    (applyOperatorPreviewSnapshotRetention snapshots slots).1 index =
      retainSnapshot (snapshots index) (slots index) := by
  show ((List.finRange 4).foldl (retainSlot snapshots) (slots, .default)).1 index = _
  rw [foldl_retainSlot_fst _ (List.nodup_finRange 4), if_pos (List.mem_finRange index)]

/-- The picture of what is remembered of a slot. -/
def snapshotPicture (snapshot : Option SwitcherFourViewDisplayedSlot) : Option SwitcherDecodedFrame :=
  snapshot.bind fun frame => frame.decoded

/-- A slot without a picture of its own gets the remembered one. -/
theorem renderableFrame_retainSnapshot (snapshot : Option SwitcherFourViewDisplayedSlot) (slot : RenderSlot) :
    (retainSnapshot snapshot slot).renderableFrame =
      slot.renderableFrame.or (snapshotPicture snapshot) := by
  unfold retainSnapshot snapshotPicture
  cases snapshot with
  | none => simp
  | some frame =>
    cases hdecoded : frame.decoded with
    | none => simp [Option.filter, hdecoded]
    | some picture =>
      rw [Option.filter_some_pos (by rw [hdecoded]; rfl)]
      dsimp only
      cases hown : slot.renderableFrame with
      | none =>
        rw [if_neg (by simp)]
        simp [SwitcherFourViewHandoffQuadCompositionRenderSlot.renderableFrame, hdecoded]
      | some own => simp [hown]

/-- A slot with a picture of its own, and a slot for which no picture is remembered, stay as they are. -/
theorem retainSnapshot_eq_self {snapshot : Option SwitcherFourViewDisplayedSlot} {slot : RenderSlot}
    (h : slot.renderableFrame.isSome = true ∨ snapshotPicture snapshot = none) :
    retainSnapshot snapshot slot = slot := by
  unfold retainSnapshot
  split
  next => rfl
  next found hfound =>
    obtain ⟨rfl, hdecoded⟩ := Option.filter_eq_some_iff.mp hfound
    rcases h with hown | hnone
    · exact if_pos hown
    · rw [snapshotPicture, Option.bind_some] at hnone
      rw [hnone] at hdecoded
      cases hdecoded

theorem foldl_countBlackSlot {slots : FourSlots RenderSlot}
    (h : ∀ index, (snapshotPicture (snapshots index)).isSome = true →
      (slots index).renderableFrame.isSome = true)
    (slotIndices : List (Fin 4)) (diagnostics : TwoRealOperatorPreviewSnapshotRetentionDiagnostics) :
    slotIndices.foldl (countBlackSlot snapshots slots) diagnostics = diagnostics := by
  induction slotIndices with
  | nil => rfl
  | cons slotIndex slotIndices ih =>
    have hkeep : countBlackSlot snapshots slots diagnostics slotIndex = diagnostics := by
      refine if_neg fun hblack => ?_
      rw [Bool.and_eq_true] at hblack
      obtain ⟨frame, hframe, hdecoded⟩ := (Option.any_eq_true _ _).mp hblack.1
      have hsome := h slotIndex (by rw [hframe]; exact hdecoded)
      rw [Option.isNone_iff_eq_none.mp hblack.2] at hsome
      cases hsome
    rw [List.foldl_cons, hkeep, ih]

/-- No slot for which a picture is remembered is black behind the retention. -/
theorem slotBlackAfterSnapshotCount_eq_zero (slots : FourSlots RenderSlot) :
    (applyOperatorPreviewSnapshotRetention snapshots slots).2.slotBlackAfterSnapshotCount = 0 := by
  have hshown : ∀ index, (snapshotPicture (snapshots index)).isSome = true →
      ((applyOperatorPreviewSnapshotRetention snapshots slots).1 index).renderableFrame.isSome = true := by
    intro index hpicture
    rw [applyOperatorPreviewSnapshotRetention_slot, renderableFrame_retainSnapshot, Option.isSome_or, hpicture,
      Bool.or_true]
  show ((List.finRange 4).foldl (countBlackSlot snapshots
    (applyOperatorPreviewSnapshotRetention snapshots slots).1) _).slotBlackAfterSnapshotCount = 0
  rw [foldl_countBlackSlot hshown, foldl_retainSlot_black]
  rfl

end Retention

/-- The picture that a slot showed last. -/
def lastShown (index : Fin 4) (shown : List (FourSlots RenderSlot)) : Option SwitcherDecodedFrame :=
  (shown.filterMap fun slots => (slots index).renderableFrame).getLast?

theorem lastShown_concat (index : Fin 4) (shown : List (FourSlots RenderSlot)) (slots : FourSlots RenderSlot) :
    lastShown index (shown ++ [slots]) = (slots index).renderableFrame.or (lastShown index shown) := by
  unfold lastShown
  rw [List.filterMap_append]
  cases hown : (slots index).renderableFrame with
  | none => simp [hown]
  | some picture => simp [hown]

theorem snapshotPicture_updatePreviousSlot (previous : Option SwitcherFourViewDisplayedSlot)
    (slot : RenderSlot) :
    snapshotPicture (updatePreviousSlot previous slot) =
      slot.renderableFrame.or (snapshotPicture previous) := by
  have hframe (frame : SwitcherFourViewDisplayedSlot) :
      snapshotPicture (if frame.decoded.isSome then some frame else previous) =
        frame.decoded.or (snapshotPicture previous) := by
    cases hdecoded : frame.decoded with
    | none => simp
    | some picture => simp [snapshotPicture, hdecoded]
  cases slot with
  | useUpdatedFrame placement frame selected consumed => exact hframe frame
  | useHeldPreviousFrame placement frame skipped holdDurationMicros => exact hframe frame
  | _ => exact (Option.none_or).symm

/-- What the retention makes of four slots, beside what was shown in the ticks before. -/
structure RetentionRight (shown : List (FourSlots RenderSlot)) (slots retained : FourSlots RenderSlot)
    (diagnostics : TwoRealOperatorPreviewSnapshotRetentionDiagnostics) : Prop where
  picture : ∀ index, (retained index).renderableFrame =
    (slots index).renderableFrame.or (lastShown index shown)
  renderable : ∀ index, (∃ earlier ∈ shown, (earlier index).renderableFrame.isSome = true) →
    (retained index).renderableFrame.isSome = true
  renderableUnchanged : ∀ index, (slots index).renderableFrame.isSome = true → retained index = slots index
  unseenUnchanged : ∀ index, (∀ earlier ∈ shown, (earlier index).renderableFrame = none) →
    retained index = slots index
  black : diagnostics.slotBlackAfterSnapshotCount = 0

theorem isSome_lastShown_iff (index : Fin 4) (shown : List (FourSlots RenderSlot)) :
    (lastShown index shown).isSome = true ↔
      ∃ earlier ∈ shown, (earlier index).renderableFrame.isSome = true := by
  unfold lastShown
  rw [List.getLast?_isSome, Ne, List.filterMap_eq_nil_iff]
  simp [Option.isSome_iff_ne_none]

theorem retentionRight_of_snapshots {shown : List (FourSlots RenderSlot)}
    {snapshots : FourSlots (Option SwitcherFourViewDisplayedSlot)}
    (h : ∀ index, snapshotPicture (snapshots index) = lastShown index shown) (slots : FourSlots RenderSlot) :
    RetentionRight shown slots (applyOperatorPreviewSnapshotRetention snapshots slots).1
      (applyOperatorPreviewSnapshotRetention snapshots slots).2 := by
  constructor
  · intro index
    rw [applyOperatorPreviewSnapshotRetention_slot, renderableFrame_retainSnapshot, h]
  · intro index hearlier
    rw [applyOperatorPreviewSnapshotRetention_slot, renderableFrame_retainSnapshot, h, Option.isSome_or,
      (isSome_lastShown_iff index shown).mpr hearlier, Bool.or_true]
  · intro index hown
    rw [applyOperatorPreviewSnapshotRetention_slot]
    exact retainSnapshot_eq_self (.inl hown)
  · intro index hnever
    rw [applyOperatorPreviewSnapshotRetention_slot]
    refine retainSnapshot_eq_self (.inr ?_)
    rw [h, ← Option.not_isSome_iff_eq_none, isSome_lastShown_iff]
    rintro ⟨earlier, hearlier, hsome⟩
    rw [hnever earlier hearlier] at hsome
    cases hsome
  · exact slotBlackAfterSnapshotCount_eq_zero slots

/-- A tick of the slots alone: what the retention makes of them, and what is remembered behind it. -/
def retentionStep (snapshots : FourSlots (Option SwitcherFourViewDisplayedSlot)) (slots : FourSlots RenderSlot) :
    FourSlots (Option SwitcherFourViewDisplayedSlot) × FourSlots RenderSlot :=
  let retained := (applyOperatorPreviewSnapshotRetention snapshots slots).1
  (fun index => updatePreviousSlot (snapshots index) (retained index), retained)

/-- What is remembered of a slot is what it showed last: it stays so in a tick. -/
theorem snapshots_concat {shown : List (FourSlots RenderSlot)}
    {snapshots : FourSlots (Option SwitcherFourViewDisplayedSlot)}
    (h : ∀ index, snapshotPicture (snapshots index) = lastShown index shown) (slots : FourSlots RenderSlot)
    (index : Fin 4) :
    snapshotPicture (updatePreviousSlot (snapshots index) (slots index)) =
      lastShown index (shown ++ [slots]) := by
  rw [snapshotPicture_updatePreviousSlot, lastShown_concat, h]

/-- Whatever the slots are in each tick, what is remembered is what was shown last. -/
theorem retention_snapshots (ticks : List (FourSlots RenderSlot)) (index : Fin 4) :
    snapshotPicture ((run retentionStep (fun _ => none) ticks).1 index) =
      lastShown index (run retentionStep (fun _ => none) ticks).2 :=
  run_invariant (P := fun _ => True)
    (fun _ (snapshots : FourSlots (Option SwitcherFourViewDisplayedSlot)) shown =>
      ∀ index, snapshotPicture (snapshots index) = lastShown index shown)
    (fun _ => rfl) (fun _ _ _ _ _ h => snapshots_concat h _) ticks (fun _ _ => trivial) index

section Loop

variable {δ : Type} (pictures : DecoderPictures) (decode : H264DecodeRuntime δ)
  (config : TwoRealPreviewLoopConfig) (policy : SwitcherFourViewQuadLayoutPolicy)

/-- The slots that a tick of the loop shows. -/
def TwoRealPreviewLoopTickOutput.shownSlots (output : TwoRealPreviewLoopTickOutput) : FourSlots RenderSlot :=
  output.preview.connection.slots

theorem previewLoop_snapshots (inner : δ) (ticks : List TwoRealPreviewLoopTick) (index : Fin 4) :
    snapshotPicture ((run (previewLoopStep pictures decode config policy) (.start config inner)
        ticks).1.previousSlots index) =
      lastShown index ((run (previewLoopStep pictures decode config policy) (.start config inner)
        ticks).2.map (·.shownSlots)) := by
  refine run_invariant (P := fun _ => True)
    (fun _ (state : TwoRealPreviewLoopState δ) (outputs : List TwoRealPreviewLoopTickOutput) =>
      ∀ index, snapshotPicture (state.previousSlots index) =
        lastShown index (outputs.map (·.shownSlots))) (fun _ => rfl) ?_ ticks (fun _ _ => trivial) index
  intro _ state outputs tick _ h index
  rw [List.map_append, List.map_singleton]
  exact snapshots_concat h _ index

/-- With the retention active the slots of a tick are what it makes of them. -/
theorem previewSlot_eq_retained (hactive : config.operatorPreviewSnapshotRetentionActive = true)
    (state : TwoRealPreviewLoopState δ) (tick : TwoRealPreviewLoopTick) :
    state.previewSlot pictures decode config tick =
      (applyOperatorPreviewSnapshotRetention state.previousSlots
        (state.reusedSlot pictures decode config tick)).1 := by
  funext index
  rw [applyOperatorPreviewSnapshotRetention_slot]
  unfold TwoRealPreviewLoopState.previewSlot
  exact if_pos hactive

end Loop

/-- In every run the retention is right in every tick: of slots that come as they like, and of those that
the preview loop with active retention makes, before the retention and behind it. -/
theorem snapshot_retention_right :
    (∀ (before : List (FourSlots RenderSlot)) (slots : FourSlots RenderSlot),
      RetentionRight (run retentionStep (fun _ => none) before).2 slots
        (applyOperatorPreviewSnapshotRetention (run retentionStep (fun _ => none) before).1 slots).1
        (applyOperatorPreviewSnapshotRetention (run retentionStep (fun _ => none) before).1 slots).2) ∧
      ∀ (δ : Type) (pictures : DecoderPictures) (decode : H264DecodeRuntime δ)
        (config : TwoRealPreviewLoopConfig) (policy : SwitcherFourViewQuadLayoutPolicy),
        config.operatorPreviewSnapshotRetentionActive = true →
        ∀ (inner : δ) (before : List TwoRealPreviewLoopTick) (tick : TwoRealPreviewLoopTick) state outputs,
          run (previewLoopStep pictures decode config policy) (.start config inner) before =
            (state, outputs) →
          RetentionRight (outputs.map (·.shownSlots)) (state.reusedSlot pictures decode config tick)
            (previewLoopStep pictures decode config policy state tick).2.shownSlots
            (applyOperatorPreviewSnapshotRetention state.previousSlots
              (state.reusedSlot pictures decode config tick)).2 := by
  refine ⟨fun before slots => retentionRight_of_snapshots (retention_snapshots before) slots, ?_⟩
  intro δ pictures decode config policy hactive inner before tick state outputs hrun
  have hsnapshots := previewLoop_snapshots pictures decode config policy inner before
  rw [hrun] at hsnapshots
  have hshown : (previewLoopStep pictures decode config policy state tick).2.shownSlots =
      state.previewSlot pictures decode config tick := rfl
  rw [hshown, previewSlot_eq_retained pictures decode config hactive]
  exact retentionRight_of_snapshots hsnapshots _

/-- The preview keeps what it showed. -/
def retainingCameras : TwoRealPreviewLoopConfig :=
  { twoCameras with
    programFirstValidationMode := true
    programFirstPreviewRefreshInterval := some ⟨1, by decide⟩
    operatorPreviewSnapshotRetentionEnabled := true }

/-- The loop when the first camera has shown a frame. -/
def afterFirstFrame : TwoRealPreviewLoopState Unit × List TwoRealPreviewLoopTickOutput :=
  run (previewLoopStep emitsZeros decodesBlack retainingCameras .default) (.start retainingCameras ())
    [tickWith (handoffKeyframe "camera-0" "run-0" 1) (handoffNothing "camera-1" "run-1")]

/-- The first camera's source cannot be asked. -/
def unavailableTick : TwoRealPreviewLoopTick :=
  tickWith (.handoffError "camera-0" "run-0" 0 .previewLatestIfAtOrBefore .previewLatest .sourceUnavailable)
    (handoffNothing "camera-1" "run-1")

theorem snapshot_retention_right_source_error :
    (((previewLoopStep emitsZeros decodesBlack retainingCameras .default afterFirstFrame.1
      unavailableTick).2.shownSlots 0).renderableFrame).isSome = true :=
  (snapshot_retention_right.2 Unit emitsZeros decodesBlack retainingCameras .default (by decide) ()
    [tickWith (handoffKeyframe "camera-0" "run-0" 1) (handoffNothing "camera-1" "run-1")] unavailableTick
    afterFirstFrame.1 afterFirstFrame.2 rfl).renderable 0
    ⟨_, List.mem_cons_self, (by decide +kernel : (((previewLoopStep emitsZeros decodesBlack retainingCameras
      .default (.start retainingCameras ()) (tickWith (handoffKeyframe "camera-0" "run-0" 1)
        (handoffNothing "camera-1" "run-1"))).2.shownSlots 0).renderableFrame).isSome = true)⟩

end StreamSync
