import StreamSync.JitterBufferExact

namespace StreamSync

open Saturating SwitcherJitterBufferSelectionPolicy

structure SwitcherJitterBufferSelectionInput where
  queueState : ServerVideoFrameQueueState
  clientId : ClientId
  currentSwitcherTime : TimestampMicros
  policy : SwitcherJitterBufferSelectionPolicy

/-- `SwitcherJitterBufferSelectionBoundary::select_frame`: the offset moves the target too. -/
def SwitcherJitterBufferSelectionInput.selectFrame (input : SwitcherJitterBufferSelectionInput) :
    SwitcherJitterBufferSelectionResult :=
  selectSide input.queueState input.clientId input.policy
    (calculateTargetTime input.currentSwitcherTime input.policy.playoutDelayMicros
      input.policy.clockOffsetMicros)

/-- The frame that a result selects, and how far from the target it is said to be. -/
def SwitcherJitterBufferSelectionResult.pick :
    SwitcherJitterBufferSelectionResult → Option (SwitcherSingleViewSelectedEncodedFrame × Int64)
  | .selected found => some (found.frame, found.deltaFromTargetMicros)
  | _ => none

/-- A time by a clock that is `offset` behind. -/
def shiftedTime (offset : Int64) (time : TimestampMicros) : TimestampMicros :=
  UInt64.ofNat ((time.toNat : Int) - offset.toInt).toNat

/-- The clock that is `offset` behind can show the time. -/
def Shiftable (offset : Int64) (time : TimestampMicros) : Prop :=
  0 ≤ (time.toNat : Int) - offset.toInt ∧ (time.toNat : Int) - offset.toInt < 18446744073709551616

def shiftedQueued (offset : Int64) (queued : ServerQueuedVideoFrame) : ServerQueuedVideoFrame :=
  { queued with frame := { queued.frame with
      captureTimestamp := shiftedTime offset queued.frame.captureTimestamp } }

def shiftedFrame (offset : Int64) (frame : SwitcherSingleViewSelectedEncodedFrame) :
    SwitcherSingleViewSelectedEncodedFrame :=
  { frame with captureTimestamp := shiftedTime offset frame.captureTimestamp }

/-- In `shifted` the client stamped its frames by a clock that is `offset` behind. -/
structure ShiftedFor (offset : Int64) (clientId : ClientId) (queue shifted : ServerVideoFrameQueueState) :
    Prop where
  frames : shifted.framesForClient clientId = (queue.framesForClient clientId).map (shiftedQueued offset)
  shiftable : ∀ queued ∈ queue.framesForClient clientId, Shiftable offset queued.frame.captureTimestamp

section Offset

theorem toNat_shiftedTime {offset : Int64} {time : TimestampMicros} (h : Shiftable offset time) :
    ((shiftedTime offset time).toNat : Int) = time.toNat - offset.toInt := by
  obtain ⟨hlow, hhigh⟩ := h
  rw [shiftedTime, UInt64.toNat_ofNat']
  omega

/-- The offset takes a time that was shifted by it back to what it was. -/
theorem applyOffsetMicros_shiftedTime {offset : Int64} {time : TimestampMicros}
    (h : Shiftable offset time) : applyOffsetMicros (shiftedTime offset time) (some offset) = time := by
  have hshifted := toNat_shiftedTime h
  have htime := time.toNat_lt
  have hlow := offset.le_toInt
  have hhigh := offset.toInt_lt
  rw [← UInt64.toNat_inj, applyOffsetMicros]
  split
  next hnegative =>
    rw [Int64.lt_iff_toInt_lt, Int64.toInt_zero] at hnegative
    rw [toNat_saturatingSub, UInt64.toNat_ofNat']
    omega
  next hnonneg =>
    rw [Int64.lt_iff_toInt_lt, Int64.toInt_zero] at hnonneg
    have hcast : (offset.toUInt64.toNat : Int) = offset.toInt := by
      rw [Int64.toNat_toUInt64_of_le (Int64.le_iff_toInt_le.mpr (by rw [Int64.toInt_zero]; omega))]
      exact Int.toNat_of_nonneg (by omega)
    rw [toNat_saturatingAdd]
    omega

end Offset

section Selection

variable {offset : Int64} {policy unshifted : SwitcherJitterBufferSelectionPolicy}
  {frames : List SwitcherSingleViewSelectedEncodedFrame} {clientId : ClientId} {targetTime : TimestampMicros}

theorem selectFrameAtTargetTime_pick_iff {found : SwitcherSingleViewSelectedEncodedFrame × Int64} :
    (selectFrameAtTargetTime frames clientId policy targetTime).pick = some found ↔
      policy.Enough frames ∧ ∃ position, policy.ChosenAt targetTime frames position found.1 ∧
        found.2 = (policy.adjusted found.1).toInt64 - targetTime.toInt64 := by
  have hpick : ∀ result : SwitcherJitterBufferSelectionResult, result.pick = some found ↔
      ∃ selected, result = .selected selected ∧ selected.frame = found.1 ∧
        selected.deltaFromTargetMicros = found.2 := by
    intro result
    cases result <;> simp [SwitcherJitterBufferSelectionResult.pick, Prod.ext_iff]
  rw [hpick]
  constructor
  · rintro ⟨selected, hselected, hframe, hdelta⟩
    obtain ⟨henough, position, frame, hchosen, rfl⟩ := selectFrameAtTargetTime_eq_selected_iff.mp hselected
    dsimp only at hframe hdelta
    subst hframe
    exact ⟨henough, position, hchosen, hdelta.symm⟩
  · rintro ⟨henough, position, hchosen, hdelta⟩
    exact ⟨_, selectFrameAtTargetTime_of_chosen henough hchosen, rfl, hdelta.symm⟩

/-- A policy with the offset sees the shifted frames at the times at which one without it sees the frames. -/
structure SameWindows (offset : Int64) (policy unshifted : SwitcherJitterBufferSelectionPolicy) : Prop where
  offset : policy.clockOffsetMicros = some offset
  none : unshifted.clockOffsetMicros = none
  late : policy.maxLateMicros = unshifted.maxLateMicros
  early : policy.maxEarlyMicros = unshifted.maxEarlyMicros
  minimum : policy.minBufferFrames = unshifted.minBufferFrames

theorem SameWindows.adjusted_eq (h : SameWindows offset policy unshifted)
    {frame : SwitcherSingleViewSelectedEncodedFrame} (hframe : Shiftable offset frame.captureTimestamp) :
    policy.adjusted (shiftedFrame offset frame) = unshifted.adjusted frame := by
  rw [adjusted, adjusted, h.offset, h.none]
  exact applyOffsetMicros_shiftedTime hframe

theorem SameWindows.inWindow_iff (h : SameWindows offset policy unshifted)
    {frame : SwitcherSingleViewSelectedEncodedFrame} (hframe : Shiftable offset frame.captureTimestamp) :
    policy.InWindow targetTime (shiftedFrame offset frame) ↔ unshifted.InWindow targetTime frame := by
  rw [InWindow, InWindow, h.adjusted_eq hframe, lower, lower, upper, upper, h.late, h.early]

theorem SameWindows.chosenAt_iff (h : SameWindows offset policy unshifted)
    (hframes : ∀ frame ∈ frames, Shiftable offset frame.captureTimestamp) {position : Nat}
    {frame : SwitcherSingleViewSelectedEncodedFrame} :
    policy.ChosenAt targetTime (frames.map (shiftedFrame offset)) position frame ↔
      ∃ original, frame = shiftedFrame offset original ∧
        unshifted.ChosenAt targetTime frames position original := by
  have hat : ∀ {i : Nat} {queued : SwitcherSingleViewSelectedEncodedFrame},
      frames[i]? = some queued → Shiftable offset queued.captureTimestamp :=
    fun hqueued => hframes _ (List.mem_of_getElem? hqueued)
  have hdistance : ∀ {queued : SwitcherSingleViewSelectedEncodedFrame},
      Shiftable offset queued.captureTimestamp →
        policy.distance targetTime (shiftedFrame offset queued) = unshifted.distance targetTime queued := by
    intro queued hqueued
    rw [distance, distance, h.adjusted_eq hqueued]
  constructor
  · rintro ⟨hqueued, hwindow, hleast⟩
    rw [List.getElem?_map, Option.map_eq_some_iff] at hqueued
    obtain ⟨original, horiginal, rfl⟩ := hqueued
    refine ⟨original, rfl, horiginal, (h.inWindow_iff (hat horiginal)).mp hwindow, ?_⟩
    intro other otherPosition hother hotherWindow
    have hcompare := hleast (shiftedFrame offset other) otherPosition
      (by rw [List.getElem?_map, hother]; rfl) ((h.inWindow_iff (hat hother)).mpr hotherWindow)
    rwa [hdistance (hat horiginal), hdistance (hat hother), h.adjusted_eq (hat horiginal),
      h.adjusted_eq (hat hother)] at hcompare
  · rintro ⟨original, rfl, hqueued, hwindow, hleast⟩
    refine ⟨by rw [List.getElem?_map, hqueued]; rfl, (h.inWindow_iff (hat hqueued)).mpr hwindow, ?_⟩
    intro other otherPosition hother hotherWindow
    rw [List.getElem?_map, Option.map_eq_some_iff] at hother
    obtain ⟨queued, hqueued', rfl⟩ := hother
    have hcompare := hleast queued otherPosition hqueued' ((h.inWindow_iff (hat hqueued')).mp hotherWindow)
    rwa [hdistance (hat hqueued), hdistance (hat hqueued'), h.adjusted_eq (hat hqueued),
      h.adjusted_eq (hat hqueued')]

/-- At one target the offset makes up for the shift. -/
theorem SameWindows.pick_eq (h : SameWindows offset policy unshifted)
    (hframes : ∀ frame ∈ frames, Shiftable offset frame.captureTimestamp) :
    (selectFrameAtTargetTime (frames.map (shiftedFrame offset)) clientId policy targetTime).pick =
      (selectFrameAtTargetTime frames clientId unshifted targetTime).pick.map
        (Prod.map (shiftedFrame offset) id) := by
  refine Option.ext fun found => ?_
  rw [selectFrameAtTargetTime_pick_iff, Option.map_eq_some_iff]
  constructor
  · rintro ⟨henough, position, hchosen, hdelta⟩
    obtain ⟨original, horiginal, hchosen⟩ := (h.chosenAt_iff hframes).mp hchosen
    refine ⟨(original, found.2), selectFrameAtTargetTime_pick_iff.mpr ⟨?_, position, hchosen, ?_⟩, ?_⟩
    · rw [Enough, List.length_map, h.minimum] at henough
      exact henough
    · rw [hdelta, horiginal, h.adjusted_eq (hframes _ (List.mem_of_getElem? hchosen.queued))]
    · exact Prod.ext horiginal.symm rfl
  · rintro ⟨⟨original, delta⟩, hpick, rfl⟩
    obtain ⟨henough, position, hchosen, hdelta⟩ := selectFrameAtTargetTime_pick_iff.mp hpick
    refine ⟨?_, position, (h.chosenAt_iff hframes).mpr ⟨original, rfl, hchosen⟩, ?_⟩
    · rw [Enough, List.length_map, h.minimum]
      exact henough
    · dsimp only [Prod.map] at hdelta ⊢
      rw [h.adjusted_eq (hframes _ (List.mem_of_getElem? hchosen.queued))]
      exact hdelta

/-- What a policy can select at a target. -/
def Selectable (policy : SwitcherJitterBufferSelectionPolicy) (targetTime : TimestampMicros)
    (frames : List SwitcherSingleViewSelectedEncodedFrame) : Prop :=
  policy.Enough frames ∧ ∃ frame ∈ frames, policy.InWindow targetTime frame

theorem pick_eq_none_iff : (selectFrameAtTargetTime frames clientId policy targetTime).pick = none ↔
    ¬Selectable policy targetTime frames := by
  rw [Selectable, ← @selectFrameAtTargetTime_selected_iff policy targetTime frames clientId]
  cases selectFrameAtTargetTime frames clientId policy targetTime <;>
    simp [SwitcherJitterBufferSelectionResult.pick]

/-- Two targets never give one frame at one distance. -/
theorem pick_eq_pick_iff {otherTime : TimestampMicros} :
    (selectFrameAtTargetTime frames clientId policy targetTime).pick =
        (selectFrameAtTargetTime frames clientId policy otherTime).pick ↔
      targetTime = otherTime ∨
        ¬Selectable policy targetTime frames ∧ ¬Selectable policy otherTime frames := by
  rw [← @pick_eq_none_iff policy frames clientId, ← @pick_eq_none_iff policy frames clientId]
  constructor
  · intro h
    cases hpick : (selectFrameAtTargetTime frames clientId policy targetTime).pick with
    | none => exact .inr ⟨rfl, h.symm.trans hpick⟩
    | some found =>
      obtain ⟨-, -, -, hdelta⟩ := selectFrameAtTargetTime_pick_iff.mp hpick
      obtain ⟨-, -, -, hdelta'⟩ := selectFrameAtTargetTime_pick_iff.mp (h.symm.trans hpick)
      left
      have hcast := Int64.sub_right_inj (policy.adjusted found.1).toInt64 |>.mp (hdelta.symm.trans hdelta')
      exact congrArg Int64.toUInt64 hcast
  · rintro (rfl | ⟨hnone, hnone'⟩)
    · rfl
    · rw [hnone, hnone']

end Selection

theorem ShiftedFor.side_pick {offset : Int64} {clientId : ClientId}
    {queue shifted : ServerVideoFrameQueueState} (h : ShiftedFor offset clientId queue shifted)
    {policy unshifted : SwitcherJitterBufferSelectionPolicy} (hpolicy : SameWindows offset policy unshifted)
    (targetTime : TimestampMicros) :
    (selectSide shifted clientId policy targetTime).pick =
      (selectSide queue clientId unshifted targetTime).pick.map (Prod.map (shiftedFrame offset) id) := by
  have hframes : (shifted.framesForClient clientId).map SwitcherSingleViewSelectedEncodedFrame.ofQueued =
      ((queue.framesForClient clientId).map SwitcherSingleViewSelectedEncodedFrame.ofQueued).map
        (shiftedFrame offset) := by
    rw [h.frames, List.map_map, List.map_map]
    rfl
  rw [selectSide, selectSide, hframes]
  refine hpolicy.pick_eq ?_
  intro frame hframe
  obtain ⟨queued, hqueued, rfl⟩ := List.mem_map.mp hframe
  exact h.shiftable queued hqueued

/-- The two sides of `select_pair`, with the offsets of the two clients. -/
def pairSides (queueState : ServerVideoFrameQueueState) (leftClientId rightClientId : ClientId)
    (currentSwitcherTime : TimestampMicros) (policy : SwitcherTwoViewTargetTimeSelectionPolicy)
    (leftOffset rightOffset : Option Int64) :
    SwitcherJitterBufferSelectionResult × SwitcherJitterBufferSelectionResult :=
  (twoViewSelectionSides (selectPair ⟨queueState, leftClientId, rightClientId, currentSwitcherTime,
    { policy with leftClockOffsetMicros := leftOffset, rightClockOffsetMicros := rightOffset }⟩)).2

/-- Clocks that are behind by the offsets change neither the frames selected nor their distances, and the
view of one client is that of the left one of two. -/
structure Compensates (queue shifted : ServerVideoFrameQueueState) (leftClientId rightClientId : ClientId)
    (currentSwitcherTime : TimestampMicros) (policy : SwitcherTwoViewTargetTimeSelectionPolicy)
    (leftOffset rightOffset : Int64) : Prop where
  single : (SwitcherJitterBufferSelectionInput.mk shifted leftClientId currentSwitcherTime
      (policy.perClientPolicy (some leftOffset))).selectFrame.pick =
    (SwitcherJitterBufferSelectionInput.mk queue leftClientId currentSwitcherTime
      (policy.perClientPolicy none)).selectFrame.pick.map (Prod.map (shiftedFrame leftOffset) id)
  left : (pairSides shifted leftClientId rightClientId currentSwitcherTime policy (some leftOffset)
      (some rightOffset)).1.pick =
    (pairSides queue leftClientId rightClientId currentSwitcherTime policy none none).1.pick.map
      (Prod.map (shiftedFrame leftOffset) id)
  right : (pairSides shifted leftClientId rightClientId currentSwitcherTime policy (some leftOffset)
      (some rightOffset)).2.pick =
    (pairSides queue leftClientId rightClientId currentSwitcherTime policy none none).2.pick.map
      (Prod.map (shiftedFrame rightOffset) id)
  agree : (SwitcherJitterBufferSelectionInput.mk shifted leftClientId currentSwitcherTime
      (policy.perClientPolicy (some leftOffset))).selectFrame.pick =
    (pairSides shifted leftClientId rightClientId currentSwitcherTime policy (some leftOffset)
      (some rightOffset)).1.pick

section Compensates

variable {queue shifted : ServerVideoFrameQueueState} {leftClientId rightClientId : ClientId}
  {leftOffset rightOffset : Int64} {currentSwitcherTime : TimestampMicros}
  {policy : SwitcherTwoViewTargetTimeSelectionPolicy}

theorem pairSides_eq (leftClock rightClock : Option Int64) :
    pairSides queue leftClientId rightClientId currentSwitcherTime policy leftClock rightClock =
      (selectSide queue leftClientId (policy.perClientPolicy leftClock)
          (saturatingSub currentSwitcherTime policy.playoutDelayMicros),
        selectSide queue rightClientId (policy.perClientPolicy rightClock)
          (saturatingSub currentSwitcherTime policy.playoutDelayMicros)) := by
  unfold pairSides
  rw [twoViewSelectionSides_selectPair]
  rfl

theorem perClientPolicy_sameWindows (policy : SwitcherTwoViewTargetTimeSelectionPolicy) (offset : Int64) :
    SameWindows offset (policy.perClientPolicy (some offset)) (policy.perClientPolicy none) :=
  ⟨rfl, rfl, rfl, rfl, rfl⟩

/-- The compensation works exactly if the offset does not move the target, or if there is nothing to be
selected at the target and nothing where the offset moves it to. -/
theorem compensates_iff (hleft : ShiftedFor leftOffset leftClientId queue shifted)
    (hright : ShiftedFor rightOffset rightClientId queue shifted) :
    Compensates queue shifted leftClientId rightClientId currentSwitcherTime policy leftOffset rightOffset ↔
      let targetTime := saturatingSub currentSwitcherTime policy.playoutDelayMicros
      let movedTime := applyOffsetMicros targetTime (some leftOffset)
      let frames := (shifted.framesForClient leftClientId).map
        SwitcherSingleViewSelectedEncodedFrame.ofQueued
      movedTime = targetTime ∨
        ¬Selectable (policy.perClientPolicy (some leftOffset)) movedTime frames ∧
          ¬Selectable (policy.perClientPolicy (some leftOffset)) targetTime frames := by
  dsimp only
  rw [← @pick_eq_pick_iff _ _ leftClientId]
  have hsides := hleft.side_pick (perClientPolicy_sameWindows policy leftOffset)
    (saturatingSub currentSwitcherTime policy.playoutDelayMicros)
  constructor
  · intro h
    have hagree := h.agree
    rw [pairSides_eq] at hagree
    exact hagree
  · intro h
    refine ⟨?_, ?_, ?_, ?_⟩
    · exact h.trans hsides
    · rw [pairSides_eq, pairSides_eq]
      exact hsides
    · rw [pairSides_eq, pairSides_eq]
      exact hright.side_pick (perClientPolicy_sameWindows policy rightOffset) _
    · rw [pairSides_eq]
      exact h

end Compensates

def cameraQueued (clientId : ClientId) (frameId : UInt64) (captureTimestamp : TimestampMicros) :
    ServerQueuedVideoFrame where
  source := ⟨.v4 0x7F000001 5000⟩
  authenticatedSender := ⟨clientId, ⟨.v4 0x7F000001 5000⟩, "run-0", 1, none⟩
  frame := ⟨.videoFrame, 1, clientId, "run-0", frameId, captureTimestamp, 0, true,
    Vector.replicate 3 0, 1, 1, 60, .h264, 0, []⟩
  payloadLen := 0
  queuedAt := 0

/-- A queue of one camera that holds one frame. -/
def oneFrameQueue (captureTimestamp : TimestampMicros) : ServerVideoFrameQueueState where
  framesByClientId := (∅ : KeyedTable.Table String (List ServerQueuedVideoFrame)).insert "camera-0"
    [cameraQueued "camera-0" 1 captureTimestamp]
  retainedKeyframeByClientRun := ∅

/-- The default timing windows for two views. -/
def defaultWindows : SwitcherTwoViewTargetTimeSelectionPolicy := ⟨500000, none, none, 250000, 33334, 1⟩

theorem oneFrameQueue_shifted :
    ShiftedFor 1000000 "camera-0" (oneFrameQueue 1000000) (oneFrameQueue 0) where
  frames := by decide +kernel
  shiftable := by
    have hframes : ((oneFrameQueue 1000000).framesForClient "camera-0").map
        (fun queued => queued.frame.captureTimestamp) = [1000000] := by decide +kernel
    intro queued hqueued
    have htime := List.mem_map_of_mem (f := fun queued => queued.frame.captureTimestamp) hqueued
    rw [hframes, List.mem_singleton] at htime
    rw [htime]
    exact ⟨by decide, by decide⟩

/-- A queue of two cameras, with two frames of the first one. -/
def twoCameraQueue (first second other : TimestampMicros) : ServerVideoFrameQueueState where
  framesByClientId := ((∅ : KeyedTable.Table String (List ServerQueuedVideoFrame)).insert "camera-0"
    [cameraQueued "camera-0" 1 first, cameraQueued "camera-0" 2 second]).insert "camera-1"
    [cameraQueued "camera-1" 7 other]
  retainedKeyframeByClientRun := ∅

/-- The first camera's clock is a second behind, the second one's half a second ahead. -/
def skewedClocks : ServerVideoFrameQueueState := twoCameraQueue 0 33333 1490000

theorem twoCameraQueue_shifted :
    ShiftedFor 1000000 "camera-0" (twoCameraQueue 1000000 1033333 990000) skewedClocks ∧
      ShiftedFor (-500000) "camera-1" (twoCameraQueue 1000000 1033333 990000) skewedClocks := by
  have hfirst : (twoCameraQueue 1000000 1033333 990000).framesForClient "camera-0" =
      [cameraQueued "camera-0" 1 1000000, cameraQueued "camera-0" 2 1033333] := by decide +kernel
  have hother : (twoCameraQueue 1000000 1033333 990000).framesForClient "camera-1" =
      [cameraQueued "camera-1" 7 990000] := by decide +kernel
  refine ⟨⟨by decide +kernel, ?_⟩, by decide +kernel, ?_⟩
  · rw [hfirst]
    intro queued hqueued
    rcases List.mem_pair.mp hqueued with rfl | rfl
    · exact ⟨by decide, by decide⟩
    · exact ⟨by decide, by decide⟩
  · rw [hother]
    intro queued hqueued
    rw [List.mem_singleton.mp hqueued]
    exact ⟨by decide, by decide⟩

/-- The frames are lost where they should be shown; long after them there is nothing to lose. -/
theorem compensates_iff_twoCameras :
    ¬Compensates (twoCameraQueue 1000000 1033333 990000) skewedClocks "camera-0" "camera-1" 1500000
        defaultWindows 1000000 (-500000) ∧
      Compensates (twoCameraQueue 1000000 1033333 990000) skewedClocks "camera-0" "camera-1" 9500000
        defaultWindows 1000000 (-500000) := by
  obtain ⟨hfirst, hother⟩ := twoCameraQueue_shifted
  constructor
  · rw [compensates_iff hfirst hother]
    rintro (hmoved | ⟨-, hnothing⟩)
    · exact absurd hmoved (by decide)
    · rw [← @pick_eq_none_iff _ _ "camera-0"] at hnothing
      exact absurd hnothing (by decide +kernel)
  · rw [compensates_iff hfirst hother]
    refine .inr ⟨?_, ?_⟩
    · rw [← @pick_eq_none_iff _ _ "camera-0"]
      decide +kernel
    · rw [← @pick_eq_none_iff _ _ "camera-0"]
      decide +kernel

/-- A camera whose clock is a second behind loses its frame in the single view: the target is moved by the
second that the frame's time already is. -/
theorem offset_moves_target_and_frames :
    ¬∀ (queue shifted : ServerVideoFrameQueueState) (leftClientId rightClientId : ClientId)
      (currentSwitcherTime : TimestampMicros) (policy : SwitcherTwoViewTargetTimeSelectionPolicy)
      (leftOffset rightOffset : Int64),
      ShiftedFor leftOffset leftClientId queue shifted → ShiftedFor rightOffset rightClientId queue shifted →
        Compensates queue shifted leftClientId rightClientId currentSwitcherTime policy leftOffset
          rightOffset := by
  intro h
  have hcompensates := h (oneFrameQueue 1000000) (oneFrameQueue 0) "camera-0" "camera-0" 1500000
    defaultWindows 1000000 1000000 oneFrameQueue_shifted oneFrameQueue_shifted
  exact absurd hcompensates.single (by decide +kernel)

end StreamSync
