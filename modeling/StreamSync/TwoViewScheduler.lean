import StreamSync.TargetTimeSource

namespace StreamSync

open Effect

structure SwitcherTwoViewTargetTimeSourceViewConfig where
  clientId : ClientId
  runId : RunId
deriving DecidableEq, Repr

/-- Both views only look, or take their frames where both have one. -/
inductive SwitcherTwoViewTargetTimeSourceSchedulerMode where
  | previewLatestIfAtOrBefore | consumeOldestAtOrBeforeAllSelected
deriving DecidableEq, Repr

/-- The two views that are to show the same moment. -/
structure SwitcherTwoViewTargetTimeSourceSchedulerInput where
  left : SwitcherTwoViewTargetTimeSourceViewConfig
  right : SwitcherTwoViewTargetTimeSourceViewConfig
  targetTimestamp : TimestampMicros
  mode : SwitcherTwoViewTargetTimeSourceSchedulerMode
deriving DecidableEq, Repr

namespace SwitcherTwoViewTargetTimeSourceSchedulerInput

def leftInput (input : SwitcherTwoViewTargetTimeSourceSchedulerInput)
    (mode : SwitcherSingleClientTargetTimeSourceMode) : SwitcherSingleClientTargetTimeSourceInput :=
  ⟨input.left.clientId, input.left.runId, input.targetTimestamp, mode⟩

def rightInput (input : SwitcherTwoViewTargetTimeSourceSchedulerInput)
    (mode : SwitcherSingleClientTargetTimeSourceMode) : SwitcherSingleClientTargetTimeSourceInput :=
  ⟨input.right.clientId, input.right.runId, input.targetTimestamp, mode⟩

end SwitcherTwoViewTargetTimeSourceSchedulerInput

/-- How far the two views got. -/
inductive SwitcherTwoViewTargetTimeSourceSchedulerStatus where
  | allSelected | partialSelected | waiting | noFrames
deriving DecidableEq, Repr

structure SwitcherTwoViewTargetTimeSourceSchedulerResult where
  targetTimestamp : TimestampMicros
  mode : SwitcherTwoViewTargetTimeSourceSchedulerMode
  left : SwitcherSingleClientTargetTimeSourceResult
  right : SwitcherSingleClientTargetTimeSourceResult
  status : SwitcherTwoViewTargetTimeSourceSchedulerStatus
deriving DecidableEq

inductive SwitcherTwoViewTargetTimeHandoffSourceSchedulerStatus where
  | allSelected | partialSelected | waiting | noFrames | handoffError
deriving DecidableEq, Repr

structure SwitcherTwoViewTargetTimeHandoffSourceSchedulerResult where
  targetTimestamp : TimestampMicros
  mode : SwitcherTwoViewTargetTimeSourceSchedulerMode
  left : SwitcherSingleClientTargetTimeHandoffSourceResult
  right : SwitcherSingleClientTargetTimeHandoffSourceResult
  status : SwitcherTwoViewTargetTimeHandoffSourceSchedulerStatus
deriving DecidableEq

namespace SwitcherSingleClientTargetTimeSourceResult

def isSelected : SwitcherSingleClientTargetTimeSourceResult → Bool
  | .selected _ => true
  | _ => false

def isWaiting : SwitcherSingleClientTargetTimeSourceResult → Bool
  | .waitingForFrameAtOrBeforeTarget .. => true
  | _ => false

end SwitcherSingleClientTargetTimeSourceResult

namespace SwitcherSingleClientTargetTimeHandoffSourceResult

def isSelected : SwitcherSingleClientTargetTimeHandoffSourceResult → Bool
  | .selected _ => true
  | _ => false

def isWaiting : SwitcherSingleClientTargetTimeHandoffSourceResult → Bool
  | .waitingForFrameAtOrBeforeTarget .. => true
  | _ => false

def isHandoffError : SwitcherSingleClientTargetTimeHandoffSourceResult → Bool
  | .handoffError .. => true
  | _ => false

end SwitcherSingleClientTargetTimeHandoffSourceResult

/-- A view that waits counts before one that has no frames. -/
def twoViewTargetTimeSourceSchedulerStatus (left right : SwitcherSingleClientTargetTimeSourceResult) :
    SwitcherTwoViewTargetTimeSourceSchedulerStatus :=
  match left.isSelected, right.isSelected with
  | true, true => .allSelected
  | true, false => .partialSelected
  | false, true => .partialSelected
  | false, false => if left.isWaiting || right.isWaiting then .waiting else .noFrames

/-- An error of either view counts before anything that the other one got. -/
def twoViewTargetTimeHandoffSourceSchedulerStatus
    (left right : SwitcherSingleClientTargetTimeHandoffSourceResult) :
    SwitcherTwoViewTargetTimeHandoffSourceSchedulerStatus :=
  if left.isHandoffError || right.isHandoffError then .handoffError
  else
    match left.isSelected, right.isSelected with
    | true, true => .allSelected
    | true, false => .partialSelected
    | false, true => .partialSelected
    | false, false => if left.isWaiting || right.isWaiting then .waiting else .noFrames

namespace SwitcherTwoViewTargetTimeSourceSchedulerBoundary

variable {σ ε : Type}

/-- The left view is served before the right one, from what the left one has left. -/
def selectPairWithSingleClientMode (source : QueuedFrameSource σ ε)
    (input : SwitcherTwoViewTargetTimeSourceSchedulerInput)
    (singleClientMode : SwitcherSingleClientTargetTimeSourceMode)
    (leftClockOffsetMicros rightClockOffsetMicros : Option Int64) :
    Eff σ ε SwitcherTwoViewTargetTimeSourceSchedulerResult := do
  let left ← SwitcherSingleClientTargetTimeSourceBoundary.selectFromSourceWithClockOffset source
    (input.leftInput singleClientMode) leftClockOffsetMicros
  let right ← SwitcherSingleClientTargetTimeSourceBoundary.selectFromSourceWithClockOffset source
    (input.rightInput singleClientMode) rightClockOffsetMicros
  pure ⟨input.targetTimestamp, input.mode, left, right, twoViewTargetTimeSourceSchedulerStatus left right⟩

def previewLatestPair (source : QueuedFrameSource σ ε)
    (input : SwitcherTwoViewTargetTimeSourceSchedulerInput)
    (leftClockOffsetMicros rightClockOffsetMicros : Option Int64) :
    Eff σ ε SwitcherTwoViewTargetTimeSourceSchedulerResult :=
  selectPairWithSingleClientMode source input .previewLatestIfAtOrBefore leftClockOffsetMicros
    rightClockOffsetMicros

/-- The frames are only taken where the previews of both views come to one. -/
def consumeOldestPairAllSelected (source : QueuedFrameSource σ ε)
    (input : SwitcherTwoViewTargetTimeSourceSchedulerInput)
    (leftClockOffsetMicros rightClockOffsetMicros : Option Int64) :
    Eff σ ε SwitcherTwoViewTargetTimeSourceSchedulerResult := do
  let preview ← selectPairWithSingleClientMode source input .previewOldestIfAtOrBefore
    leftClockOffsetMicros rightClockOffsetMicros
  if preview.status ≠ .allSelected then pure preview
  else
    selectPairWithSingleClientMode source input .consumeOldestAtOrBefore leftClockOffsetMicros
      rightClockOffsetMicros

def selectPairFromSourceWithClockOffsets (source : QueuedFrameSource σ ε)
    (input : SwitcherTwoViewTargetTimeSourceSchedulerInput)
    (leftClockOffsetMicros rightClockOffsetMicros : Option Int64) :
    Eff σ ε SwitcherTwoViewTargetTimeSourceSchedulerResult :=
  match input.mode with
  | .previewLatestIfAtOrBefore =>
    previewLatestPair source input leftClockOffsetMicros rightClockOffsetMicros
  | .consumeOldestAtOrBeforeAllSelected =>
    consumeOldestPairAllSelected source input leftClockOffsetMicros rightClockOffsetMicros

/-- `select_pair_with_clock_offsets`, on the queue state itself. -/
def selectPairWithClockOffsets (input : SwitcherTwoViewTargetTimeSourceSchedulerInput)
    (leftClockOffsetMicros rightClockOffsetMicros : Option Int64) :
    Eff ServerVideoFrameQueueState ε SwitcherTwoViewTargetTimeSourceSchedulerResult :=
  selectPairFromSourceWithClockOffsets inProcessSource input leftClockOffsetMicros rightClockOffsetMicros

end SwitcherTwoViewTargetTimeSourceSchedulerBoundary

namespace SwitcherTwoViewTargetTimeHandoffSourceSchedulerBoundary

variable {σ ε : Type}

def selectPairWithSingleClientMode (handoff : QueuedFrameHandoff σ ε)
    (input : SwitcherTwoViewTargetTimeSourceSchedulerInput)
    (singleClientMode : SwitcherSingleClientTargetTimeSourceMode)
    (leftClockOffsetMicros rightClockOffsetMicros : Option Int64) :
    Eff σ ε SwitcherTwoViewTargetTimeHandoffSourceSchedulerResult := do
  let left ← SwitcherSingleClientTargetTimeHandoffSourceBoundary.selectFromHandoffWithClockOffset handoff
    (input.leftInput singleClientMode) leftClockOffsetMicros
  let right ← SwitcherSingleClientTargetTimeHandoffSourceBoundary.selectFromHandoffWithClockOffset handoff
    (input.rightInput singleClientMode) rightClockOffsetMicros
  pure ⟨input.targetTimestamp, input.mode, left, right,
    twoViewTargetTimeHandoffSourceSchedulerStatus left right⟩

def previewLatestPair (handoff : QueuedFrameHandoff σ ε)
    (input : SwitcherTwoViewTargetTimeSourceSchedulerInput)
    (leftClockOffsetMicros rightClockOffsetMicros : Option Int64) :
    Eff σ ε SwitcherTwoViewTargetTimeHandoffSourceSchedulerResult :=
  selectPairWithSingleClientMode handoff input .previewLatestIfAtOrBefore leftClockOffsetMicros
    rightClockOffsetMicros

def consumeOldestPairAllSelected (handoff : QueuedFrameHandoff σ ε)
    (input : SwitcherTwoViewTargetTimeSourceSchedulerInput)
    (leftClockOffsetMicros rightClockOffsetMicros : Option Int64) :
    Eff σ ε SwitcherTwoViewTargetTimeHandoffSourceSchedulerResult := do
  let preview ← selectPairWithSingleClientMode handoff input .previewOldestIfAtOrBefore
    leftClockOffsetMicros rightClockOffsetMicros
  if preview.status ≠ .allSelected then pure preview
  else
    selectPairWithSingleClientMode handoff input .consumeOldestAtOrBefore leftClockOffsetMicros
      rightClockOffsetMicros

def selectPairFromHandoffWithClockOffsets (handoff : QueuedFrameHandoff σ ε)
    (input : SwitcherTwoViewTargetTimeSourceSchedulerInput)
    (leftClockOffsetMicros rightClockOffsetMicros : Option Int64) :
    Eff σ ε SwitcherTwoViewTargetTimeHandoffSourceSchedulerResult :=
  match input.mode with
  | .previewLatestIfAtOrBefore =>
    previewLatestPair handoff input leftClockOffsetMicros rightClockOffsetMicros
  | .consumeOldestAtOrBeforeAllSelected =>
    consumeOldestPairAllSelected handoff input leftClockOffsetMicros rightClockOffsetMicros

end SwitcherTwoViewTargetTimeHandoffSourceSchedulerBoundary

/-- The pair is complete exactly when both views have a frame. -/
theorem sourceStatus_allSelected_iff (left right : SwitcherSingleClientTargetTimeSourceResult) :
    twoViewTargetTimeSourceSchedulerStatus left right = .allSelected ↔
      left.isSelected = true ∧ right.isSelected = true := by
  unfold twoViewTargetTimeSourceSchedulerStatus
  cases left.isSelected <;> cases right.isSelected <;> simp
  split <;> simp

theorem not_isSelected_of_isHandoffError {result : SwitcherSingleClientTargetTimeHandoffSourceResult}
    (h : result.isHandoffError = true) : result.isSelected = false := by
  cases result with
  | handoffError => rfl
  | selected => cases h
  | noFrameAvailable => cases h
  | waitingForFrameAtOrBeforeTarget => cases h

/-- Over the handoff too, and no view has an error then. -/
theorem handoffStatus_allSelected_iff (left right : SwitcherSingleClientTargetTimeHandoffSourceResult) :
    twoViewTargetTimeHandoffSourceSchedulerStatus left right = .allSelected ↔
      left.isSelected = true ∧ right.isSelected = true := by
  unfold twoViewTargetTimeHandoffSourceSchedulerStatus
  split
  next herror =>
    have hnot : left.isSelected = false ∨ right.isSelected = false :=
      (Bool.or_eq_true_iff.mp herror).imp not_isSelected_of_isHandoffError not_isSelected_of_isHandoffError
    rcases hnot with h | h <;> simp [h]
  next =>
    cases left.isSelected <;> cases right.isSelected <;> simp
    split <;> simp

end StreamSync
