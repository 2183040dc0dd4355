import Mathlib.Data.List.Sort
import StreamSync.TargetTimeSource

namespace StreamSync

open Saturating

structure SwitcherJitterBufferSelectionPolicy where
  playoutDelayMicros : UInt64
  clockOffsetMicros : Option Int64
  maxLateMicros : UInt64
  maxEarlyMicros : UInt64
  minBufferFrames : Nat
deriving DecidableEq

structure SwitcherJitterBufferSelectedFrame where
  frame : SwitcherSingleViewSelectedEncodedFrame
  targetTime : TimestampMicros
  adjustedCaptureTimestamp : TimestampMicros
  deltaFromTargetMicros : Int64
deriving DecidableEq

inductive SwitcherJitterBufferSelectionResult where
  | selected (selected : SwitcherJitterBufferSelectedFrame)
  | noFrame (clientId : ClientId) (targetTime : TimestampMicros)
  | waitingForBuffer (clientId : ClientId) (targetTime : TimestampMicros)
      (availableFrames minBufferFrames : Nat)
  | frameTooEarly (clientId : ClientId) (targetTime earliestFrameTime : TimestampMicros)
      (framesAvailable : Nat)
  | frameTooLateDropped (clientId : ClientId) (targetTime latestFrameTime : TimestampMicros)
      (lateFrames : List SwitcherSingleViewSelectedEncodedFrame)
deriving DecidableEq

/-- `SwitcherTargetTimeBoundary::calculate`. -/
def calculateTargetTime (currentSwitcherTime : TimestampMicros) (playoutDelayMicros : UInt64)
    (clockOffsetMicros : Option Int64) : TimestampMicros :=
  applyOffsetMicros (saturatingSub currentSwitcherTime playoutDelayMicros) clockOffsetMicros

abbrev TimedFrame := SwitcherSingleViewSelectedEncodedFrame × TimestampMicros

def timedFrame (clockOffsetMicros : Option Int64) (frame : SwitcherSingleViewSelectedEncodedFrame) :
    TimedFrame := (frame, applyOffsetMicros frame.captureTimestamp clockOffsetMicros)

/-- `sort_by_key` on the adjusted time: stable, so frames of one time stay in queue order. -/
def sortTimed (frames : List TimedFrame) : List TimedFrame :=
  frames.insertionSort fun a b => a.2 ≤ b.2

def absDiffMicros (a b : UInt64) : UInt64 := if a ≤ b then b - a else a - b

/-- `min_by_key`: of several frames equally near the target the first one stays. -/
def nearest (targetTime : TimestampMicros) : List TimedFrame → Option TimedFrame
  | [] => none
  | timed :: rest =>
    match nearest targetTime rest with
    | none => some timed
    | some best => if absDiffMicros best.2 targetTime < absDiffMicros timed.2 targetTime then some best else some timed

/-- `select_frame_at_target_time`, on the frames the queue holds for the client. -/
def selectFrameAtTargetTime (frames : List SwitcherSingleViewSelectedEncodedFrame) (clientId : ClientId)
    (policy : SwitcherJitterBufferSelectionPolicy) (targetTime : TimestampMicros) :
    SwitcherJitterBufferSelectionResult :=
  if frames.isEmpty then .noFrame clientId targetTime
  else if frames.length < policy.minBufferFrames then
    .waitingForBuffer clientId targetTime frames.length policy.minBufferFrames
  else
    let lower := saturatingSub targetTime policy.maxLateMicros
    let upper := saturatingAdd targetTime policy.maxEarlyMicros
    let timedFrames := sortTimed (frames.map (timedFrame policy.clockOffsetMicros))
    match nearest targetTime (timedFrames.filter fun timed => lower ≤ timed.2 ∧ timed.2 ≤ upper) with
    | some (frame, adjusted) =>
      .selected {
        frame
        targetTime
        adjustedCaptureTimestamp := adjusted
        deltaFromTargetMicros := adjusted.toInt64 - targetTime.toInt64 }
    | none =>
      let earliest := (timedFrames.head?.map Prod.snd).getD 0
      let latest := (timedFrames.getLast?.map Prod.snd).getD 0
      if upper < earliest then .frameTooEarly clientId targetTime earliest timedFrames.length
      else
        .frameTooLateDropped clientId targetTime latest
          ((timedFrames.filter fun timed => timed.2 < lower).map Prod.fst)

structure SwitcherTwoViewTargetTimeSelectionPolicy where
  playoutDelayMicros : UInt64
  leftClockOffsetMicros : Option Int64
  rightClockOffsetMicros : Option Int64
  maxLateMicros : UInt64
  maxEarlyMicros : UInt64
  minBufferFrames : Nat
deriving DecidableEq

def SwitcherTwoViewTargetTimeSelectionPolicy.perClientPolicy
    (policy : SwitcherTwoViewTargetTimeSelectionPolicy) (clockOffsetMicros : Option Int64) :
    SwitcherJitterBufferSelectionPolicy where
  playoutDelayMicros := policy.playoutDelayMicros
  clockOffsetMicros := clockOffsetMicros
  maxLateMicros := policy.maxLateMicros
  maxEarlyMicros := policy.maxEarlyMicros
  minBufferFrames := policy.minBufferFrames

inductive SwitcherTwoViewTargetTimeSelectionResult where
  | bothSelected (sharedTargetTime : TimestampMicros) (left right : SwitcherJitterBufferSelectedFrame)
  | partialSelected (sharedTargetTime : TimestampMicros) (left right : SwitcherJitterBufferSelectionResult)
  | bothUnavailable (sharedTargetTime : TimestampMicros) (left right : SwitcherJitterBufferSelectionResult)
deriving DecidableEq

structure SwitcherTwoViewTargetTimeSelectionInput where
  queueState : ServerVideoFrameQueueState
  leftClientId : ClientId
  rightClientId : ClientId
  currentSwitcherTime : TimestampMicros
  policy : SwitcherTwoViewTargetTimeSelectionPolicy

/-- One side of `select_pair`. -/
def selectSide (queueState : ServerVideoFrameQueueState) (clientId : ClientId)
    (policy : SwitcherJitterBufferSelectionPolicy) (targetTime : TimestampMicros) :
    SwitcherJitterBufferSelectionResult :=
  selectFrameAtTargetTime
    ((queueState.framesForClient clientId).map SwitcherSingleViewSelectedEncodedFrame.ofQueued)
    clientId policy targetTime

/-- `SwitcherTwoViewTargetTimeSelectionBoundary::select_pair`. -/
def selectPair (input : SwitcherTwoViewTargetTimeSelectionInput) :
    SwitcherTwoViewTargetTimeSelectionResult :=
  let sharedTargetTime := calculateTargetTime input.currentSwitcherTime input.policy.playoutDelayMicros none
  let left := selectSide input.queueState input.leftClientId
    (input.policy.perClientPolicy input.policy.leftClockOffsetMicros) sharedTargetTime
  let right := selectSide input.queueState input.rightClientId
    (input.policy.perClientPolicy input.policy.rightClockOffsetMicros) sharedTargetTime
  match left, right with
  | .selected left, .selected right => .bothSelected sharedTargetTime left right
  | .selected left, right => .partialSelected sharedTargetTime (.selected left) right
  | left, .selected right => .partialSelected sharedTargetTime left (.selected right)
  | left, right => .bothUnavailable sharedTargetTime left right

/-- `clone_two_view_selection_sides`. -/
def twoViewSelectionSides : SwitcherTwoViewTargetTimeSelectionResult →
    TimestampMicros × SwitcherJitterBufferSelectionResult × SwitcherJitterBufferSelectionResult
  | .bothSelected sharedTargetTime left right => (sharedTargetTime, .selected left, .selected right)
  | .partialSelected sharedTargetTime left right => (sharedTargetTime, left, right)
  | .bothUnavailable sharedTargetTime left right => (sharedTargetTime, left, right)

/-- The sides of a pair are what each client's own selection says. -/
theorem twoViewSelectionSides_selectPair (input : SwitcherTwoViewTargetTimeSelectionInput) :
    let sharedTargetTime :=
      calculateTargetTime input.currentSwitcherTime input.policy.playoutDelayMicros none
    twoViewSelectionSides (selectPair input) =
      (sharedTargetTime,
        selectSide input.queueState input.leftClientId
          (input.policy.perClientPolicy input.policy.leftClockOffsetMicros) sharedTargetTime,
        selectSide input.queueState input.rightClientId
          (input.policy.perClientPolicy input.policy.rightClockOffsetMicros) sharedTargetTime) := by
  dsimp only
  unfold selectPair
  dsimp only
  split
  next left right hleft hright => simp only [twoViewSelectionSides, hleft, hright]
  next left hleft _ => simp only [twoViewSelectionSides, hleft]
  next right hright _ => simp only [twoViewSelectionSides, hright]
  next => rfl

theorem nearest_eq_none {targetTime : TimestampMicros} {frames : List TimedFrame} :
    nearest targetTime frames = none ↔ frames = [] := by
  cases frames with
  | nil => simp [nearest]
  | cons timed rest =>
    simp only [nearest, reduceCtorEq, iff_false]
    split
    next => simp
    next =>
      split
      next => simp
      next => simp

/-- The nearest frame is one of the frames, and none of them is nearer. -/
theorem nearest_eq_some {targetTime : TimestampMicros} {frames : List TimedFrame} {best : TimedFrame}
    (h : nearest targetTime frames = some best) :
    best ∈ frames ∧ ∀ timed ∈ frames, absDiffMicros best.2 targetTime ≤ absDiffMicros timed.2 targetTime := by
  induction frames generalizing best with
  | nil => simp [nearest] at h
  | cons timed rest ih =>
    rw [nearest] at h
    split at h
    next hnone =>
      rw [nearest_eq_none] at hnone
      subst hnone
      cases h
      exact ⟨by simp, by simp⟩
    next other hother =>
      obtain ⟨hmem, hleast⟩ := ih hother
      split at h
      next hlt =>
        cases h
        refine ⟨by simp [hmem], fun t ht => ?_⟩
        rcases List.mem_cons.mp ht with rfl | ht
        · exact UInt64.le_of_lt hlt
        · exact hleast t ht
      next hge =>
        cases h
        refine ⟨by simp, fun t ht => ?_⟩
        rcases List.mem_cons.mp ht with rfl | ht
        · exact UInt64.le_refl _
        · exact UInt64.le_trans (UInt64.not_lt.mp hge) (hleast t ht)

end StreamSync
